import Sovd.Catalog.Loader

/-!
# Which texts are hexadecimal (`parse_hex_u16`, `from_hex`, `to_hex`)

The catalog must not depend on the server nor on an adapter, so two readers of
hexadecimal text are in the repository twice. Both have one grammar in mind: digits,
and `0x` or `0X` before them if one likes (`Marked`).

For byte strings it is the grammar they have. `hex_codecs` says that the two loops take
the same texts, an even number of digits, that they read the same bytes, and that they
undo both writers.

For identifiers it is not. After its own marker the reader calls `std::stoul`, which
passes over white space, a sign and a marker of its own before the digits
(`stoul16_eq_some_iff`), and the adapter's text ends at its first NUL. `did_text_iff`
says that these are all the texts on which the readers disagree or take what is no
identifier.

Mirroring notes vs the C++:
- `Catalog::fromHex` and `Catalog::toHex` append to `out` as their loops do; the
  server's are `Sovd.fromHex` and `Sovd.toHex`.
- The adapter is handed `text.c_str()`.
-/

namespace Sovd

/-! ## Digits behind an optional marker -/

/-- A text is these digits, or a marker and these digits. -/
def Marked (digits s : Bytes) : Prop :=
  s = digits ∨ s = 48 :: 120 :: digits ∨ s = 48 :: 88 :: digits

instance (digits s : Bytes) : Decidable (Marked digits s) :=
  inferInstanceAs (Decidable (_ ∨ _))

/-- One digit at least, and nothing else. -/
structure IsDigits (digits : Bytes) : Prop where
  nonempty : digits ≠ []
  hex : ∀ c ∈ digits, isHexDigit c = true

/-- What is left without a marker was marked. -/
theorem stripHexMarker_eq_iff {digits s : Bytes} (hs : ∀ c ∈ digits, isHexDigit c = true) :
    stripHexMarker s = digits ↔ Marked digits s := by
  constructor
  · intro h
    unfold stripHexMarker at h
    split at h
    next x rest =>
      split_ifs at h with hx
      · rcases hx with rfl | rfl
        · exact .inr (.inl (h ▸ rfl))
        · exact .inr (.inr (h ▸ rfl))
      · exact .inl h
    next => exact .inl h
  · rintro (rfl | rfl | rfl)
    · exact stripHexMarker_digits hs
    · rfl
    · rfl

/-! ## Byte strings -/

namespace Catalog

/-- The one error of a hex value. -/
def hexError (itemId : Bytes) : CatalogError :=
  ⟨str "data item '" ++ itemId ++ str "': value must be hex-encoded bytes"⟩

/-- The loop of the catalog's `from_hex`, with the bytes that are out. -/
def fromHexLoop (itemId : Bytes) : (out s : Bytes) → Except CatalogError Bytes
  | out, a :: b :: rest =>
    match nibble a, nibble b with
    | some hi, some lo => fromHexLoop itemId (out ++ [UInt8.ofNat (hi * 16 + lo)]) rest
    | _, _ => .error (hexError itemId)
  | out, _ => .ok out

/-- `from_hex` of the catalog, marker and all. -/
def fromHex (itemId s : Bytes) : Except CatalogError Bytes :=
  let s := stripHexMarker s
  if s = [] ∨ s.length % 2 ≠ 0 then .error (hexError itemId) else fromHexLoop itemId [] s

/-- `to_hex` of the catalog. -/
def toHex (bytes : Bytes) : Bytes :=
  bytes.foldl (fun out b => out ++ [hexChar (b.toNat / 16)] ++ [hexChar (b.toNat % 16)]) []

end Catalog

/-- A pair that is no byte ends the decoding. -/
theorem fromHexPairs_of_none {a b : UInt8} {rest : Bytes}
    (h : ∀ hi lo, nibble a = some hi → nibble b = some lo → False) :
    fromHexPairs (a :: b :: rest) = none := by
  rw [fromHexPairs]
  split
  next hi lo ha hb => exact absurd hb (h hi lo ha)
  next => rfl

/-- A number of pairs of digits is read, and nothing else. -/
theorem fromHexPairs_isSome_iff {s : Bytes} :
    (∃ b, fromHexPairs s = some b) ↔ s.length % 2 = 0 ∧ ∀ c ∈ s, isHexDigit c = true := by
  induction s using fromHexPairs.induct with
  | case1 => simp [fromHexPairs]
  | case2 c => simp [fromHexPairs]
  | case3 a b rest hi lo ha hb ih =>
    have hdigits : isHexDigit a = true ∧ isHexDigit b = true := by
      simp [isHexDigit, ha, hb]
    have hrest : (∃ out, fromHexPairs (a :: b :: rest) = some out) ↔
        ∃ out, fromHexPairs rest = some out := by
      rw [fromHexPairs]
      simp only [ha, hb, Option.map_eq_some_iff]
      constructor
      · intro h
        obtain ⟨_, out, hout, _⟩ := h
        exact ⟨out, hout⟩
      · intro h
        obtain ⟨out, hout⟩ := h
        exact ⟨_, out, hout, rfl⟩
    rw [hrest, ih]
    simp only [List.length_cons, List.forall_mem_cons, hdigits, true_and]
    refine and_congr_left' ?_
    omega
  | case4 a b rest hnone =>
    rw [fromHexPairs_of_none hnone]
    refine iff_of_false (by simp) fun h => ?_
    obtain ⟨hi, ha⟩ := Option.isSome_iff_exists.mp (h.2 a (by simp))
    obtain ⟨lo, hb⟩ := Option.isSome_iff_exists.mp (h.2 b (by simp))
    exact hnone hi lo ha hb

/-- What was encoded is decoded. -/
theorem fromHexPairs_toHex (bytes : Bytes) : fromHexPairs (toHex bytes) = some bytes := by
  induction bytes with
  | nil => rfl
  | cons b bytes ih =>
    have hlt := b.toNat_lt
    have hbyte : UInt8.ofNat (b.toNat / 16 * 16 + b.toNat % 16) = b := by
      rw [Nat.div_add_mod', UInt8.ofNat_toNat]
    have hcons : toHex (b :: bytes) =
        hexChar (b.toNat / 16) :: hexChar (b.toNat % 16) :: toHex bytes := rfl
    rw [hcons, fromHexPairs, nibble_hexChar _ (by omega), nibble_hexChar _ (by omega)]
    dsimp only
    rw [ih, hbyte]
    rfl

/-- An encoding is made of hex digits. -/
theorem isHexDigit_of_mem_toHex {bytes : Bytes} {c : UInt8} (hc : c ∈ toHex bytes) :
    isHexDigit c = true := by
  obtain ⟨b, -, hb⟩ := List.mem_flatMap.mp hc
  have hlt := b.toNat_lt
  simp only [List.mem_cons, List.not_mem_nil, or_false] at hb
  rcases hb with rfl | rfl
  · exact isHexDigit_hexChar (by omega)
  · exact isHexDigit_hexChar (by omega)

/-- The server takes an even number of digits, and nothing else. -/
theorem fromHex_isSome_iff {s : Bytes} :
    (∃ b, fromHex s = some b) ↔
      ∃ digits, Marked digits s ∧ IsDigits digits ∧ digits.length % 2 = 0 := by
  have hpairs : (∃ b, fromHex s = some b) ↔
      IsDigits (stripHexMarker s) ∧ (stripHexMarker s).length % 2 = 0 := by
    unfold fromHex
    dsimp only
    split_ifs with h
    · refine iff_of_false (by simp) fun hdigits => ?_
      exact h.elim hdigits.1.nonempty fun hodd => hodd hdigits.2
    · rw [not_or, not_not] at h
      rw [fromHexPairs_isSome_iff]
      exact ⟨fun hs => ⟨⟨h.1, hs.2⟩, hs.1⟩, fun hs => ⟨hs.2, hs.1.hex⟩⟩
  rw [hpairs]
  constructor
  · intro h
    exact ⟨_, (stripHexMarker_eq_iff h.1.hex).mp rfl, h.1, h.2⟩
  · rintro ⟨digits, hmarked, hdigits, heven⟩
    rw [(stripHexMarker_eq_iff hdigits.hex).mpr hmarked]
    exact ⟨hdigits, heven⟩

/-- What the server wrote it reads. -/
theorem fromHex_toHex {bytes : Bytes} (h : bytes ≠ []) : fromHex (toHex bytes) = some bytes := by
  have hpairs := fromHexPairs_toHex bytes
  have heven := (fromHexPairs_isSome_iff.mp ⟨bytes, hpairs⟩).1
  have hne : toHex bytes ≠ [] := by
    intro hnil
    rw [hnil] at hpairs
    exact h (Option.some.inj hpairs).symm
  unfold fromHex
  rw [stripHexMarker_digits fun c hc => isHexDigit_of_mem_toHex hc]
  dsimp only
  rw [if_neg (by simp [hne, heven]), hpairs]

/-! ### The catalog's are the same -/

namespace Catalog

/-- Over pairs of characters the loop is the server's. -/
theorem fromHexLoop_eq (itemId : Bytes) {s : Bytes} (heven : s.length % 2 = 0) (out : Bytes) :
    fromHexLoop itemId out s =
      match fromHexPairs s with
      | some bytes => .ok (out ++ bytes)
      | none => .error (hexError itemId) := by
  induction s using fromHexPairs.induct generalizing out with
  | case1 => simp [fromHexLoop, fromHexPairs]
  | case2 c => simp at heven
  | case3 a b rest hi lo ha hb ih =>
    rw [fromHexLoop, fromHexPairs]
    simp only [ha, hb]
    have hrest : rest.length % 2 = 0 := by
      simp only [List.length_cons] at heven
      omega
    rw [ih hrest]
    cases fromHexPairs rest with
    | none => rfl
    | some bytes => simp
  | case4 a b rest hnone =>
    rw [fromHexLoop, fromHexPairs_of_none hnone]
    split
    next hi lo ha hb => exact absurd hb (hnone hi lo ha)
    next => rfl

/-- The two decoders agree. -/
theorem fromHex_eq (itemId s : Bytes) :
    fromHex itemId s =
      match Sovd.fromHex s with
      | some bytes => .ok bytes
      | none => .error (hexError itemId) := by
  unfold fromHex Sovd.fromHex
  dsimp only
  split_ifs with h
  · rfl
  · rw [not_or, not_not] at h
    rw [fromHexLoop_eq itemId h.2]
    rfl

/-- They agree on what they accept. -/
theorem fromHex_eq_ok {itemId s bytes : Bytes} :
    fromHex itemId s = .ok bytes ↔ Sovd.fromHex s = some bytes := by
  rw [fromHex_eq]
  cases Sovd.fromHex s with
  | none => simp
  | some b => simp

/-- The two encoders agree. -/
theorem toHex_eq (bytes : Bytes) : toHex bytes = Sovd.toHex bytes := by
  have hfrom : ∀ out : Bytes, bytes.foldl
      (fun out b => out ++ [hexChar (b.toNat / 16)] ++ [hexChar (b.toNat % 16)]) out =
        out ++ Sovd.toHex bytes := by
    induction bytes with
    | nil => simp [Sovd.toHex]
    | cons b bytes ih =>
      intro out
      rw [List.foldl_cons, ih]
      simp [Sovd.toHex]
  exact hfrom []

/-- A raw item is written and read by these two. -/
theorem encode_raw (castU64 : Nat → Rat) {item : DataItem} (htype : item.type = .raw) (s : Bytes) :
    encode castU64 item (.text s) = fromHex item.id s := by
  unfold encode
  rw [htype, fromHex_eq]
  dsimp only
  cases Sovd.fromHex s with
  | none =>
    have htext : str "': " ++ str "value must be hex-encoded bytes" =
        str "': value must be hex-encoded bytes" := rfl
    simp [itemError, hexError, htext]
  | some bytes => rfl

/-- A raw item is decoded to its hex text. -/
theorem decode_raw (castU64 : Nat → Rat) {item : DataItem} (htype : item.type = .raw)
    (bytes : Bytes) : decode castU64 item bytes = .ok (.text (toHex bytes)) := by
  unfold decode
  rw [htype, toHex_eq]

end Catalog

/-- **The two readers of byte strings take the same texts and read the same bytes, and
they undo both writers.** -/
theorem hex_codecs :
    (∀ itemId s : Bytes,
      (∀ bytes, fromHex s = some bytes ↔ Catalog.fromHex itemId s = .ok bytes) ∧
      ((∃ bytes, fromHex s = some bytes) ↔
        ∃ digits, Marked digits s ∧ IsDigits digits ∧ digits.length % 2 = 0) ∧
      ((∃ bytes, Catalog.fromHex itemId s = .ok bytes) ↔
        ∃ digits, Marked digits s ∧ IsDigits digits ∧ digits.length % 2 = 0)) ∧
    ∀ itemId bytes : Bytes, bytes ≠ [] →
      ∀ text ∈ [toHex bytes, Catalog.toHex bytes],
        fromHex text = some bytes ∧ Catalog.fromHex itemId text = .ok bytes := by
  refine ⟨fun itemId s => ⟨fun bytes => Catalog.fromHex_eq_ok.symm, fromHex_isSome_iff, ?_⟩, ?_⟩
  · simp only [Catalog.fromHex_eq_ok]
    exact fromHex_isSome_iff
  · intro itemId bytes hbytes text htext
    have hserver : text = toHex bytes := by
      simp only [List.mem_cons, List.not_mem_nil, or_false, Catalog.toHex_eq, or_self] at htext
      exact htext
    rw [Catalog.fromHex_eq_ok, hserver]
    exact ⟨fromHex_toHex hbytes, fromHex_toHex hbytes⟩

/-! ## Identifiers -/

/-- What `std::stoul` reads whole in base 16. -/
structure StoulText where
  blanks : Bytes
  sign : Bytes
  marker : Bytes
  digits : Bytes
  blanks_ok : ∀ c ∈ blanks, isSpace c = true
  sign_ok : sign ∈ [[], [45], [43]]
  marker_ok : marker ∈ [[], [48, 120], [48, 88]]
  digits_ok : IsDigits digits

namespace StoulText

/-- The text of such a number. -/
def text (r : StoulText) : Bytes := r.blanks ++ (r.sign ++ (r.marker ++ r.digits))

/-- A minus negates modulo `2 ^ 64`. -/
def value (r : StoulText) : Nat :=
  if r.sign = [45] then (2 ^ 64 - hexValue r.digits) % 2 ^ 64 else hexValue r.digits

/-- There is nothing but digits. -/
def Plain (r : StoulText) : Prop := r.blanks = [] ∧ r.sign = [] ∧ r.marker = []

/-- A plain one is its digits. -/
theorem text_of_plain {r : StoulText} (h : r.Plain) : r.text = r.digits := by
  obtain ⟨hblanks, hsign, hmarker⟩ := h
  rw [text, hblanks, hsign, hmarker]
  rfl

/-- A plain one is worth its digits. -/
theorem value_of_plain {r : StoulText} (h : r.Plain) : r.value = hexValue r.digits := by
  rw [value, h.2.1, if_neg (by simp)]

/-- Just digits. -/
def ofDigits {digits : Bytes} (h : IsDigits digits) : StoulText :=
  ⟨[], [], [], digits, by simp, by simp, by simp, h⟩

end StoulText

/-- A sign is read off the front, if there is one. -/
theorem stoulSign_cases (s : Bytes) :
    ∃ sign ∈ [[], [45], [43]], s = sign ++ (stoulSign s).2 ∧
      ((stoulSign s).1 = true ↔ sign = [45]) := by
  unfold stoulSign
  split
  next rest => exact ⟨[45], by simp, rfl, by simp⟩
  next rest => exact ⟨[43], by simp, rfl, by simp⟩
  next => exact ⟨[], by simp, rfl, by simp⟩

/-- A marker is read off the front, if there is one. -/
theorem stoulMarker_cases (s : Bytes) :
    ∃ marker ∈ [[], [48, 120], [48, 88]], s = marker ++ stoulMarker s := by
  unfold stoulMarker
  split
  next x d rest =>
    split_ifs with h
    · rcases h.1 with rfl | rfl
      · exact ⟨[48, 120], by simp, rfl⟩
      · exact ⟨[48, 88], by simp, rfl⟩
    · exact ⟨[], by simp, rfl⟩
  next => exact ⟨[], by simp, rfl⟩

/-- The three steps before the digits, on a text that is read whole. -/
theorem StoulText.reads (r : StoulText) :
    r.text.dropWhile isSpace = r.sign ++ (r.marker ++ r.digits) ∧
      stoulSign (r.sign ++ (r.marker ++ r.digits)) =
        (decide (r.sign = [45]), r.marker ++ r.digits) ∧
      stoulMarker (r.marker ++ r.digits) = r.digits := by
  obtain ⟨d, rest, hd⟩ := List.exists_cons_of_ne_nil r.digits_ok.nonempty
  have hdigit : isHexDigit d = true := r.digits_ok.hex d (by rw [hd]; simp)
  have hmarkers := r.marker_ok
  have hsigns := r.sign_ok
  simp only [List.mem_cons, List.not_mem_nil, or_false] at hmarkers hsigns
  -- what comes after the sign starts with a digit
  have hafter : ∃ c l, r.marker ++ r.digits = c :: l ∧ isHexDigit c = true := by
    rcases hmarkers with h | h | h
    · exact ⟨d, rest, by rw [h, hd]; rfl, hdigit⟩
    · exact ⟨48, 120 :: r.digits, by rw [h]; rfl, rfl⟩
    · exact ⟨48, 88 :: r.digits, by rw [h]; rfl, rfl⟩
  obtain ⟨c, l, hl, hc⟩ := hafter
  have hnospace := (not_special_of_isHexDigit hc).1
  refine ⟨?_, ?_, ?_⟩
  · rw [text, List.dropWhile_append_of_pos r.blanks_ok, hl]
    rcases hsigns with h | h | h
    · simp [h, hnospace]
    · rw [h]
      rfl
    · rw [h]
      rfl
  · rw [hl]
    rcases hsigns with h | h | h
    · rw [h]
      exact stoulSign_hexDigit hc
    · rw [h]
      rfl
    · rw [h]
      rfl
  · rcases hmarkers with h | h | h
    · rw [h]
      exact stoulMarker_digits r.digits_ok.hex
    · rw [h, hd]
      exact if_pos ⟨.inl rfl, hdigit⟩
    · rw [h, hd]
      exact if_pos ⟨.inr rfl, hdigit⟩

/-- A text is read whole exactly when it is blanks, a sign, a marker and digits, of which
all but the digits may be missing. -/
theorem stoul16_eq_some_iff {s : Bytes} {v : Nat} :
    stoul16 s = some (v, s.length) ↔
      ∃ r : StoulText, r.text = s ∧ hexValue r.digits < 2 ^ 64 ∧ r.value = v := by
  constructor
  · intro h
    obtain ⟨sign, hsigns, hsign, hneg⟩ := stoulSign_cases (s.dropWhile isSpace)
    obtain ⟨marker, hmarkers, hmarker⟩ := stoulMarker_cases (stoulSign (s.dropWhile isSpace)).2
    unfold stoul16 at h
    dsimp only at h
    generalize stoulMarker (stoulSign (s.dropWhile isSpace)).2 = text at h hmarker
    by_cases hnil : text.takeWhile isHexDigit = []
    · rw [if_pos hnil] at h
      cases h
    by_cases hbig : 2 ^ 64 ≤ hexValue (text.takeWhile isHexDigit)
    · rw [if_neg hnil, if_pos hbig] at h
      cases h
    rw [if_neg hnil, if_neg hbig] at h
    obtain ⟨hv, hconsumed⟩ := Prod.mk.inj (Option.some.inj h)
    have hlen : s.length = (s.takeWhile isSpace).length +
        (sign.length + (marker.length + text.length)) := by
      conv_lhs => rw [← List.takeWhile_append_dropWhile (p := isSpace) (l := s), hsign, hmarker]
      simp only [List.length_append]
    have hpos := List.length_pos_iff.mpr hnil
    have hle := (List.takeWhile_prefix isHexDigit (l := text)).length_le
    -- nothing of the text is left, so all of it is digits
    have hall : text.takeWhile isHexDigit = text := by
      refine (List.takeWhile_prefix isHexDigit).eq_of_length_le ?_
      rw [List.length_drop] at hconsumed
      omega
    rw [hall] at hnil hbig hv
    refine ⟨⟨s.takeWhile isSpace, sign, marker, text,
      fun c hc => List.mem_takeWhile_imp hc, hsigns, hmarkers,
      ⟨hnil, List.takeWhile_eq_self_iff.mp hall⟩⟩, ?_, not_le.mp hbig, ?_⟩
    · rw [StoulText.text, ← hmarker, ← hsign, List.takeWhile_append_dropWhile]
    · rw [← hv, StoulText.value]
      exact if_congr hneg.symm rfl rfl
  · rintro ⟨r, rfl, hlt, rfl⟩
    obtain ⟨hdrop, hsign, hmarker⟩ := r.reads
    have htake : r.digits.takeWhile isHexDigit = r.digits :=
      List.takeWhile_eq_self_iff.mpr r.digits_ok.hex
    unfold stoul16
    rw [hdrop, hsign]
    dsimp only
    rw [hmarker, htake, if_neg r.digits_ok.nonempty, if_neg (not_le.mpr hlt), StoulText.value]
    simp

/-- The reading of an identifier fits into 16 bits. -/
structure StoulText.Fits (r : StoulText) : Prop where
  in_range : hexValue r.digits < 2 ^ 64
  le : r.value ≤ 0xFFFF

/-- **What is read as a DID**: a number that fits, cut to sixteen bits. -/
theorem parseHexU16_eq_some_iff {s : Bytes} {v : UInt16} :
    parseHexU16 s = some v ↔
      ∃ r : StoulText, r.text = stripHexMarker s ∧ r.Fits ∧ UInt16.ofNat r.value = v := by
  have hread : ∀ value, stoul16 (stripHexMarker s) = some (value, (stripHexMarker s).length) ↔
      ∃ r : StoulText, r.text = stripHexMarker s ∧ hexValue r.digits < 2 ^ 64 ∧
        r.value = value := fun _ => stoul16_eq_some_iff
  constructor
  · intro h
    unfold parseHexU16 at h
    dsimp only at h
    split_ifs at h
    split at h
    next => cases h
    next value consumed hstoul =>
      split_ifs at h with hout
      rw [not_or, not_not, not_lt] at hout
      rw [hout.1] at hstoul
      obtain ⟨r, htext, hlt, rfl⟩ := (hread value).mp hstoul
      exact ⟨r, htext, ⟨hlt, hout.2⟩, Option.some.inj h⟩
  · rintro ⟨r, htext, hfits, rfl⟩
    have hne : stripHexMarker s ≠ [] := by
      rw [← htext, StoulText.text]
      simp [r.digits_ok.nonempty]
    unfold parseHexU16
    dsimp only
    rw [if_neg hne, (hread r.value).mpr ⟨r, htext, hfits.in_range, rfl⟩]
    exact if_neg (by simp [hfits.le])

/-! ### The grammar, and what is taken besides -/

/-- What an identifier should be: digits behind an optional marker, of 16 bits. -/
def IsDidText (s : Bytes) (v : UInt16) : Prop :=
  ∃ digits, Marked digits s ∧ IsDigits digits ∧ hexValue digits ≤ 0xFFFF ∧
    v = UInt16.ofNat (hexValue digits)

/-- The readers agree on a text, and take it when it is an identifier, as that identifier. -/
structure ReadAsDid (s context : Bytes) : Prop where
  agree : ∀ v, Catalog.parseHexU16 s context = .ok v ↔ parseHexU16 (cStr s) = some v
  catalog : ∀ v, Catalog.parseHexU16 s context = .ok v ↔ IsDidText s v
  adapter : ∀ v, parseHexU16 (cStr s) = some v ↔ IsDidText s v

/-- The loader reads a DID as the server does. -/
theorem Catalog.parseHexU16_eq_ok {s context : Bytes} {v : UInt16} :
    Catalog.parseHexU16 s context = .ok v ↔ Sovd.parseHexU16 s = some v := by
  rcases Catalog.parseHexU16_cases s context with ⟨v', hsome, hok⟩ | ⟨hnone, e, herror⟩
  · rw [hsome, hok]
    exact ⟨fun h => congrArg some (Except.ok.inj h),
      fun h => congrArg Except.ok (Option.some.inj h)⟩
  · rw [hnone, herror]
    simp

/-- Identifiers are the plain readings. -/
theorem isDidText_iff {s : Bytes} {v : UInt16} :
    IsDidText s v ↔ ∃ r : StoulText, r.text = stripHexMarker s ∧ r.Fits ∧ r.Plain ∧
      UInt16.ofNat r.value = v := by
  constructor
  · rintro ⟨digits, hmarked, hdigits, hle, rfl⟩
    have hplain : (StoulText.ofDigits hdigits).Plain := ⟨rfl, rfl, rfl⟩
    have hvalue := StoulText.value_of_plain hplain
    refine ⟨.ofDigits hdigits, ?_, ⟨?_, ?_⟩, hplain, by rw [hvalue]; rfl⟩
    · rw [StoulText.text_of_plain hplain]
      exact ((stripHexMarker_eq_iff hdigits.hex).mpr hmarked).symm
    · show hexValue digits < 2 ^ 64
      omega
    · rw [hvalue]
      exact hle
  · rintro ⟨r, htext, hfits, hplain, rfl⟩
    have hle := hfits.le
    rw [StoulText.text_of_plain hplain] at htext
    rw [StoulText.value_of_plain hplain] at hle ⊢
    exact ⟨r.digits, (stripHexMarker_eq_iff r.digits_ok.hex).mp htext.symm, r.digits_ok, hle, rfl⟩

/-- Such a number has no NUL in it. -/
theorem StoulText.nul_not_mem (r : StoulText) : (0 : UInt8) ∉ r.text := by
  have hsigns := r.sign_ok
  have hmarkers := r.marker_ok
  simp only [List.mem_cons, List.not_mem_nil, or_false] at hsigns hmarkers
  have hblanks : (0 : UInt8) ∉ r.blanks := fun h => absurd (r.blanks_ok 0 h) (by decide)
  have hsign : (0 : UInt8) ∉ r.sign := by
    rcases hsigns with h | h | h <;> simp [h]
  have hmarker : (0 : UInt8) ∉ r.marker := by
    rcases hmarkers with h | h | h <;> simp [h]
  have hdigits : (0 : UInt8) ∉ r.digits := fun h => absurd (r.digits_ok.hex 0 h) (by decide)
  simp only [text, List.mem_append, not_or]
  exact ⟨hblanks, hsign, hmarker, hdigits⟩

/-- A reading of nothing but digits is plain. -/
theorem StoulText.plain_of_hex {r : StoulText} (h : ∀ c ∈ r.text, isHexDigit c = true) :
    r.Plain := by
  have hsigns := r.sign_ok
  have hmarkers := r.marker_ok
  simp only [List.mem_cons, List.not_mem_nil, or_false] at hsigns hmarkers
  simp only [text, List.mem_append] at h
  refine ⟨List.eq_nil_iff_forall_not_mem.mpr fun c hc => ?_, ?_, ?_⟩
  · have hspace := (not_special_of_isHexDigit (h c (.inl hc))).1
    rw [r.blanks_ok c hc] at hspace
    cases hspace
  · rcases hsigns with hs | hs | hs
    · exact hs
    · exact absurd (h 45 (.inr (.inl (by simp [hs])))) (by decide)
    · exact absurd (h 43 (.inr (.inl (by simp [hs])))) (by decide)
  · rcases hmarkers with hm | hm | hm
    · exact hm
    · exact absurd (h 120 (.inr (.inr (.inl (by simp [hm]))))) (by decide)
    · exact absurd (h 88 (.inr (.inr (.inl (by simp [hm]))))) (by decide)

theorem nul_mem_stripHexMarker {s : Bytes} (h : (0 : UInt8) ∈ s) :
    (0 : UInt8) ∈ stripHexMarker s := by
  unfold stripHexMarker
  split
  next x rest =>
    split_ifs with hx
    · rcases List.mem_cons.mp h with h48 | h
      · exact absurd h48 (by decide)
      · rcases List.mem_cons.mp h with hzero | h
        · rw [← hzero] at hx
          exact absurd hx (by decide)
        · exact h
    · exact h
  next => exact h

/-- The catalog takes no text with a NUL. -/
theorem nul_not_mem_of_reading {s : Bytes} {r : StoulText} (h : r.text = stripHexMarker s) :
    (0 : UInt8) ∉ s := fun hnul => r.nul_not_mem (h ▸ nul_mem_stripHexMarker hnul)

/-- **Both readers read a text as the identifier it is, and take nothing else, unless what
stands before its first NUL has, after the marker, blanks, a sign or a second marker that
`stoul` passes over, or has a NUL behind it.** -/
theorem did_text_iff (s context : Bytes) :
    ReadAsDid s context ↔
      ∀ r : StoulText, r.text = stripHexMarker (cStr s) → r.Fits → r.Plain ∧ (0 : UInt8) ∉ s := by
  constructor
  · intro h r htext hfits
    have hread := (h.adapter _).mp (parseHexU16_eq_some_iff.mpr ⟨r, htext, hfits, rfl⟩)
    obtain ⟨plain, hplain, -, hdigits, -⟩ := isDidText_iff.mp hread
    have hnul := nul_not_mem_of_reading hplain
    refine ⟨StoulText.plain_of_hex ?_, hnul⟩
    rw [cStr_eq_self.mpr hnul, ← hplain, StoulText.text_of_plain hdigits] at htext
    rw [htext]
    exact plain.digits_ok.hex
  · intro h
    have hadapter : ∀ v, parseHexU16 (cStr s) = some v ↔ IsDidText s v := by
      intro v
      rw [parseHexU16_eq_some_iff, isDidText_iff]
      constructor
      · rintro ⟨r, htext, hfits, hv⟩
        obtain ⟨hplain, hnul⟩ := h r htext hfits
        rw [cStr_eq_self.mpr hnul] at htext
        exact ⟨r, htext, hfits, hplain, hv⟩
      · rintro ⟨r, htext, hfits, -, hv⟩
        rw [cStr_eq_self.mpr (nul_not_mem_of_reading htext)]
        exact ⟨r, htext, hfits, hv⟩
    have hagree : ∀ v, Catalog.parseHexU16 s context = .ok v ↔ parseHexU16 (cStr s) = some v := by
      intro v
      rw [Catalog.parseHexU16_eq_ok]
      by_cases hnul : (0 : UInt8) ∈ s
      · refine iff_of_false (fun hread => ?_) fun hread => ?_
        · obtain ⟨r, htext, -⟩ := parseHexU16_eq_some_iff.mp hread
          exact nul_not_mem_of_reading htext hnul
        · obtain ⟨r, htext, hfits, -⟩ := parseHexU16_eq_some_iff.mp hread
          exact (h r htext hfits).2 hnul
      · rw [cStr_eq_self.mpr hnul]
    exact ⟨hagree, fun v => (hagree v).trans (hadapter v), hadapter⟩

/-- A blank before the digits is passed over by both. -/
theorem blank_is_taken :
    Catalog.parseHexU16 (str " F190") (str "data item 'vin'") = .ok 0xF190 ∧
      parseHexU16 (cStr (str " F190")) = some 0xF190 ∧
      ¬ ReadAsDid (str " F190") (str "data item 'vin'") := by
  have hcatalog : Catalog.parseHexU16 (str " F190") (str "data item 'vin'") = .ok 0xF190 := rfl
  refine ⟨hcatalog, rfl, fun h => ?_⟩
  obtain ⟨digits, hmarked, hdigits, -, -⟩ := (h.catalog _).mp hcatalog
  rcases hmarked with hs | hs | hs
  · exact absurd (hdigits.hex 32 (hs ▸ by decide)) (by decide)
  · exact absurd hs (by simp [str])
  · exact absurd hs (by simp [str])

end Sovd
