import Sovd.Server.Httplib

/-!
# Which query parameters survive

A client writes query parameters with the values escaped and the keys as they are.
The server takes the text apart at `&` and `=`, unescapes both halves, and leaves
out pieces without a key and pieces it has seen. `params_survive_iff` says which
parameters come out as they went in.

That the others do not is an account of lengths. An entry is worth one, and two
for each letter of its key and its value. What the server reads is never worth more
than what the client wrote (`sum_cut_le`), and less as soon as a key holds an `&`,
a `#`, a NUL, an escape or a tab in front, is empty, or an entry repeats: then the
parameters cannot be the same. A key with a `=` costs nothing, but where the
account is even the server reads only keys without one.
-/

namespace Sovd

namespace Httplib

open Separated

/-! ## The two encoders -/

/-- An escape is a percent sign and hex digits. -/
theorem mem_escaped {c b : UInt8} (h : b ∈ escaped c) : b = 37 ∨ (nibble b).isSome = true := by
  have hc := c.toNat_lt
  rcases List.mem_cons.mp h with rfl | h
  · exact .inl rfl
  right
  rcases List.mem_cons.mp h with rfl | h
  · rw [nibble_hexChar _ (by omega)]
    rfl
  · rw [List.mem_singleton.mp h, nibble_hexChar _ (by omega)]
    rfl

/-- What `%` and two digits stand for. -/
theorem read_escaped (c : UInt8) (rest : Bytes) :
    percent.read ([hexChar (c.toNat / 16), hexChar (c.toNat % 16)] ++ rest) =
      some ([c], 2) := by
  have hc := c.toNat_lt
  have hhi := nibble_hexChar (c.toNat / 16) (by omega)
  have hlo := nibble_hexChar (c.toNat % 16) (by omega)
  have hne : hexChar (c.toNat / 16) ≠ 117 := by
    intro h
    have hnone : nibble 117 = none := rfl
    rw [h, hnone] at hhi
    cases hhi
  show readEscape ([hexChar (c.toNat / 16), hexChar (c.toNat % 16)] ++ rest) = some ([c], 2)
  rw [List.cons_append, readEscape, if_neg hne]
  simp only [fromHexToI, hhi, hlo, List.cons_append, Option.bind_some, Option.map_some,
    Option.some.injEq, Prod.mk.injEq, and_true, List.cons.injEq]
  rw [show (0 * 16 + c.toNat / 16) * 16 + c.toNat % 16 = c.toNat by omega]
  exact UInt8.ofNat_toNat

/-- The letters of a code are written as they are. -/
theorem urlByte_of_code {c : UInt8} (h : c = 117 ∨ (nibble c).isSome = true) :
    urlByte c = [c] := by
  rcases h with rfl | h
  · rfl
  rw [urlByte, if_neg]
  intro h
  rcases h with hmem | hge
  · revert h
    revert c
    decide +kernel
  · have hascii : c ≤ 0x7F := isHexDigit_ascii h
    exact absurd (UInt8.le_trans hge hascii) (by decide)

/-- Hex digits are not escaped, so a code reads alike before and after. -/
theorem fromHexToI_flatMap (cnt val : Nat) (s : Bytes) :
    fromHexToI cnt val (s.flatMap urlByte) = fromHexToI cnt val s := by
  induction cnt generalizing val s with
  | zero => rfl
  | succ cnt ih =>
    cases s with
    | nil => rfl
    | cons c s =>
      rw [List.flatMap_cons]
      cases hn : nibble c with
      | some v =>
        rw [urlByte_of_code (.inr (by rw [hn]; rfl)), List.singleton_append, fromHexToI,
          fromHexToI, hn]
        exact ih _ _
      | none =>
        -- neither the letter nor the `%` in its place is a digit
        rw [fromHexToI, hn, urlByte]
        split_ifs
        · rfl
        · rw [List.singleton_append, fromHexToI, hn]
          rfl

/-- What stands behind a percent sign reads alike before and after. -/
theorem readEscape_flatMap (s : Bytes) : readEscape (s.flatMap urlByte) = readEscape s := by
  cases s with
  | nil => rfl
  | cons c s =>
    by_cases hc : c = 117
    · subst hc
      rw [List.flatMap_cons, urlByte_of_code (.inl rfl), List.singleton_append, readEscape,
        readEscape, if_pos rfl, if_pos rfl, fromHexToI_flatMap]
    · have hhex := fromHexToI_flatMap 2 0 (c :: s)
      rw [readEscape, if_neg hc, ← hhex]
      rw [List.flatMap_cons, urlByte]
      split_ifs
      · rw [escaped, List.cons_append, readEscape, if_neg (by decide)]
      · rw [List.singleton_append, readEscape, if_neg hc]

/-- The letters of a code are not escaped. -/
theorem flatMap_of_code {s : Bytes} (h : ∀ c ∈ s, c = 117 ∨ (nibble c).isSome = true) :
    s.flatMap urlByte = s := by
  induction s with
  | nil => rfl
  | cons c s ih =>
    rw [List.flatMap_cons, urlByte_of_code (h c (List.mem_cons_self ..)),
      ih fun d hd => h d (List.mem_cons_of_mem _ hd)]
    rfl

/-- What follows an escape is escaped by itself. -/
theorem drop_flatMap_of_read {s out : Bytes} {n : Nat} (h : readEscape s = some (out, n)) :
    (s.flatMap urlByte).drop n = (s.drop n).flatMap urlByte := by
  obtain ⟨hle, -, hcode⟩ := readEscape_take h
  conv_lhs => rw [← List.take_append_drop n s, List.flatMap_append, flatMap_of_code hcode]
  rw [List.drop_append, List.drop_of_length_le (by simp), List.length_take,
    Nat.min_eq_left hle, Nat.sub_self]
  rfl

/-- Without plus signs `decode_url` is the decoding of percent escapes. -/
theorem decodeUrl_false (s : Bytes) : decodeUrl s false = percent.decode id s := rfl

/-- Decoding makes nothing longer. -/
theorem length_decodeUrl_le (s : Bytes) (plus : Bool) : (decodeUrl s plus).length ≤ s.length :=
  EscapeCode.length_decode_le percent _ s

/-- Decoding leaves a text without escapes as it is. -/
theorem decodeUrl_of_noEscape {s : Bytes} (h : percent.NoEscape s) : decodeUrl s false = s :=
  EscapeCode.decode_of_noEscape (fun _ _ _ => rfl) h

/-- Decoding makes every text with an escape shorter. -/
theorem noEscape_of_length_decodeUrl {s : Bytes} (plus : Bool)
    (h : (decodeUrl s plus).length = s.length) : percent.NoEscape s :=
  EscapeCode.noEscape_of_length h

/-- The client's escaping is undone; what looked like an escape before is undone too. -/
theorem decodeUrl_flatMap (s : Bytes) (plus : Bool) :
    decodeUrl (s.flatMap urlByte) plus = decodeUrl s false := by
  refine EscapeCode.decode_transparent rfl ?_ readEscape_flatMap
    (fun t out n h => drop_flatMap_of_read h) s
  intro c hc
  by_cases hesc : c ∈ str " +\r\n',;" ∨ 0x80 ≤ c
  · exact .inr ⟨_, if_pos hesc, read_escaped c⟩
  · refine .inl ⟨if_neg hesc, if_neg ?_⟩
    intro hplus
    have h43 : c = 43 := by simpa using (Bool.and_eq_true_iff.mp hplus).2
    exact hesc (.inl (h43 ▸ by decide))

/-- A value is read as it was. -/
theorem decodeUrl_encodeQueryParam (value : Bytes) :
    decodeUrl (encodeQueryParam value) false = value := by
  refine EscapeCode.decode_encode ?_ value
  intro c
  by_cases hself : isAlnum c = true ∨ c ∈ str "-_.!~*'()"
  · refine .inl ⟨if_pos hself, ?_, rfl⟩
    intro h37
    rw [h37] at hself
    exact absurd hself (by decide)
  · exact .inr ⟨_, if_neg hself, read_escaped c⟩

/-- A letter that is no digit and that the client does not escape is kept. -/
theorem urlByte_keeps {d : UInt8} (hself : urlByte d = [d]) (h37 : d ≠ 37)
    (hn : nibble d = none) : Keeps urlByte d := by
  refine ⟨hself, ?_⟩
  intro c hc hmem
  rw [urlByte] at hmem
  split_ifs at hmem
  · rcases mem_escaped hmem with h | h
    · exact h37 h
    · rw [hn] at h
      cases h
  · exact hc (List.mem_singleton.mp hmem).symm

/-- What `trim` takes off a query that was sent: blanks are escaped, tabs are not. -/
def isTab (c : UInt8) : Bool := c == 9

/-- Of the blanks, the client escapes the space and leaves the tab. -/
theorem urlByte_keepsBlanks : KeepsBlanks urlByte isTab isSpaceOrTab where
  self c hc := by
    obtain rfl : c = 9 := by simpa [isTab] using hc
    exact ⟨rfl, rfl⟩
  other c hc := by
    have h9 : c ≠ 9 := by simpa [isTab] using hc
    rw [urlByte]
    split_ifs with hesc
    · refine ⟨by simp [escaped], ?_⟩
      intro b hb
      rcases mem_escaped hb with rfl | hb
      · rfl
      · have hne : ∀ d : UInt8, nibble d = none → b ≠ d := by
          intro d hd heq
          obtain rfl := heq
          rw [hd] at hb
          cases hb
        simp [isSpaceOrTab, hne 32 (by decide), hne 9 (by decide)]
    · refine ⟨by simp, ?_⟩
      intro b hb
      obtain rfl := List.mem_singleton.mp hb
      have h32 : b ≠ 32 := by
        intro heq
        obtain rfl := heq
        exact hesc (.inl (by decide))
      simp [isSpaceOrTab, h32, h9]

/-- An escaped value has none of the letters that mean something in a query. -/
theorem not_mem_encodeQueryParam {d : UInt8} (halnum : isAlnum d = false)
    (hpunct : d ∉ str "-_.!~*'()") (h37 : d ≠ 37) (hn : nibble d = none) (value : Bytes) :
    d ∉ encodeQueryParam value := by
  intro h
  obtain ⟨c, -, hc⟩ := List.mem_flatMap.mp h
  rw [queryParamByte] at hc
  split_ifs at hc with hself
  · obtain rfl := List.mem_singleton.mp hc
    rcases hself with hself | hself
    · rw [halnum] at hself
      cases hself
    · exact hpunct hself
  · rcases mem_escaped hc with h | h
    · exact h37 h
    · rw [hn] at h
      cases h

/-! ## Entries -/

/-- What a piece of the query holds, seen from before the client's escaping. -/
def rawEntry (p : Bytes) : Option (Bytes × Bytes) :=
  if (divide 61 p).1 = [] then none
  else some (decodeUrl (divide 61 p).1 false, decodeUrl (divide 61 p).2 false)

/-- An entry reads as it did before the URL was escaped. -/
theorem queryEntry_flatMap (p : Bytes) : queryEntry (p.flatMap urlByte) = rawEntry p := by
  have hkeeps : Keeps urlByte 61 := urlByte_keeps rfl (by decide) rfl
  rw [queryEntry, hkeeps.divide_flatMap, rawEntry]
  simp only [urlByte_keepsBlanks.flatMap_eq_nil, decodeUrl_flatMap]

/-- What an entry is worth: one, and two for each letter. -/
def weight (e : Bytes × Bytes) : Nat := 2 * (e.1.length + e.2.length) + 1

/-- The weight of all entries. -/
def total (es : Params) : Nat := (es.map weight).sum

/-- What a piece is worth to the server. -/
def pieceWeight (p : Bytes) : Nat := total (rawEntry p).toList

/-- A piece without a key weighs nothing. -/
theorem pieceWeight_of_none {p : Bytes} (h : (divide 61 p).1 = []) : pieceWeight p = 0 := by
  rw [pieceWeight, rawEntry, if_pos h]
  rfl

/-- A piece with a key weighs as much as the entry it is read as. -/
theorem pieceWeight_of_some {p : Bytes} (h : (divide 61 p).1 ≠ []) :
    pieceWeight p =
      2 * ((decodeUrl (divide 61 p).1 false).length + (decodeUrl (divide 61 p).2 false).length) +
        1 := by
  rw [pieceWeight, rawEntry, if_neg h]
  simp [total, weight]

/-- A piece never weighs more than its letters allow for. -/
theorem pieceWeight_le (p : Bytes) : pieceWeight p ≤ 2 * p.length + 1 := by
  by_cases hkey : (divide 61 p).1 = []
  · rw [pieceWeight_of_none hkey]
    omega
  · rw [pieceWeight_of_some hkey]
    have hk := length_decodeUrl_le (divide 61 p).1 false
    have hv := length_decodeUrl_le (divide 61 p).2 false
    have hp := length_divide_le (d := 61) p
    omega

/-- The entry is read as it was written, up to a `=` in the key. -/
structure Intact (e : Bytes × Bytes) : Prop where
  ampersand : 38 ∉ e.1
  stop : 35 ∉ e.1 ∧ 0 ∉ e.1
  tab : trim isTab (queryText e) = queryText e
  entry : ∃ v, rawEntry (queryText e) = some (e.1.takeWhile (· != 61), v)
  plain : percent.NoEscape (e.1.takeWhile (· != 61))

/-- An entry is its key, an equals sign, and its value escaped. -/
theorem queryText_eq (e : Bytes × Bytes) : queryText e = e.1 ++ 61 :: encodeQueryParam e.2 := by
  rw [queryText, List.append_assoc]
  rfl

theorem isTab_eq_true {c : UInt8} : isTab c = true ↔ c = 9 := by simp [isTab]

/-- Trimming an entry takes tabs off the front of its key. -/
theorem trim_queryText (e : Bytes × Bytes) :
    trim isTab (queryText e) = queryText (e.1.dropWhile isTab, e.2) := by
  have htab : 9 ∉ encodeQueryParam e.2 :=
    not_mem_encodeQueryParam rfl (by decide) (by decide) rfl e.2
  have hvalue : (encodeQueryParam e.2).rdropWhile isTab = encodeQueryParam e.2 := by
    rw [List.rdropWhile_eq_self_iff]
    intro hne h
    exact htab (isTab_eq_true.mp h ▸ List.getLast_mem hne)
  rw [trim, queryText_eq, queryText_eq, rdropWhile_append_cons rfl, hvalue,
    dropWhile_append_cons rfl]

/-- An entry is divided at the first equals sign, which may be one in its key. -/
theorem divide_queryText (e : Bytes × Bytes) :
    divide 61 (queryText e) = (e.1.takeWhile (· != 61),
      if 61 ∈ e.1 then (e.1.dropWhile (· != 61)).drop 1 ++ 61 :: encodeQueryParam e.2
      else encodeQueryParam e.2) := by
  rw [queryText_eq]
  split_ifs with hmem
  · rw [divide_append_of_mem hmem]
    rfl
  · rw [divide_of_not_mem hmem, List.takeWhile_eq_self_iff.mpr]
    exact fun c hc => bne_iff_ne.mpr fun h => hmem (h ▸ hc)

/-- The value the server reads is as long as the value and what of the key went into it. -/
theorem length_value_le (e : Bytes × Bytes) :
    (decodeUrl (divide 61 (queryText e)).2 false).length +
      (e.1.takeWhile (· != 61)).length ≤ e.1.length + e.2.length := by
  have hvalue : (decodeUrl (encodeQueryParam e.2) false).length = e.2.length := by
    rw [decodeUrl_encodeQueryParam]
  rw [divide_queryText]
  split_ifs with hmem
  · -- the `=` that ends the key early pays for the one that goes into the value
    have hseam := EscapeCode.length_decode_append_le percent id
      ((e.1.dropWhile (· != 61)).drop 1 ++ [61]) (encodeQueryParam e.2)
    have hparts := congrArg List.length
      (List.takeWhile_append_dropWhile (p := (· != 61)) (l := e.1))
    have hne : 0 < (e.1.dropWhile (· != 61)).length := by
      rw [List.length_pos_iff, Ne, List.dropWhile_eq_nil_iff]
      intro hall
      exact absurd (hall 61 hmem) (by decide)
    rw [← decodeUrl_false, ← decodeUrl_false, hvalue, List.append_assoc, List.singleton_append,
      List.length_append, List.length_drop, List.length_singleton] at hseam
    rw [List.length_append] at hparts
    dsimp only
    omega
  · have hprefix := (List.takeWhile_prefix (· != (61 : UInt8)) (l := e.1)).length_le
    dsimp only
    omega

/-! ## The account -/

/-- One entry without an `&`, read as a single piece. -/
theorem pieceWeight_queryText (e : Bytes × Bytes) :
    pieceWeight (trim isTab (queryText e)) ≤ weight e ∧
      (38 ∉ e.1 → 35 ∉ e.1 ∧ 0 ∉ e.1 → weight e ≤ pieceWeight (trim isTab (queryText e)) →
        Intact e) := by
  rw [trim_queryText]
  have hdrop := (List.dropWhile_suffix isTab (l := e.1)).length_le
  have hlen := length_value_le (e.1.dropWhile isTab, e.2)
  have hkey := divide_queryText (e.1.dropWhile isTab, e.2)
  by_cases hnone : (divide 61 (queryText (e.1.dropWhile isTab, e.2))).1 = []
  · rw [pieceWeight_of_none hnone]
    refine ⟨Nat.zero_le _, fun _ _ h => ?_⟩
    unfold weight at h
    omega
  · rw [pieceWeight_of_some hnone]
    have hdec := length_decodeUrl_le (divide 61 (queryText (e.1.dropWhile isTab, e.2))).1 false
    have hfst : (divide 61 (queryText (e.1.dropWhile isTab, e.2))).1 =
        (e.1.dropWhile isTab).takeWhile (· != 61) := congrArg Prod.fst hkey
    rw [hfst] at hdec hnone ⊢
    dsimp only at hlen
    unfold weight
    refine ⟨by omega, fun hamp hstop h => ?_⟩
    -- an even account: no tab was dropped, and decoding the key did not shorten it
    have hsame : e.1.dropWhile isTab = e.1 :=
      (List.dropWhile_suffix isTab).eq_of_length (by omega)
    rw [hsame] at hdec hnone hlen h hfst hkey
    have hplain : percent.NoEscape (e.1.takeWhile (· != 61)) :=
      noEscape_of_length_decodeUrl false (by omega)
    refine ⟨hamp, hstop, by rw [trim_queryText, hsame],
      ⟨decodeUrl (divide 61 (queryText e)).2 false, ?_⟩, hplain⟩
    rw [rawEntry, hfst, if_neg hnone, decodeUrl_of_noEscape hplain]

/-- The pieces of a text, and what they are worth. -/
def textWeight (s : Bytes) : Nat := ((split isTab 38 s).map pieceWeight).sum

/-- A text never weighs more than its letters allow for. -/
theorem textWeight_le (s : Bytes) : textWeight s ≤ 2 * s.length + 1 :=
  sum_split_le pieceWeight_le s

/-- Pieces weigh what they weigh together. -/
theorem textWeight_append (a b : Bytes) :
    textWeight (a ++ 38 :: b) = textWeight a + textWeight b := by
  rw [textWeight, split_append_cons, List.map_append, List.sum_append]
  rfl

/-- One entry: each `&` in its key costs something. -/
theorem textWeight_queryText (e : Bytes × Bytes) :
    textWeight (queryText e) ≤ weight e ∧
      (35 ∉ e.1 ∧ 0 ∉ e.1 → weight e ≤ textWeight (queryText e) → Intact e) := by
  obtain ⟨key, value⟩ := e
  have hvalue : 38 ∉ encodeQueryParam value :=
    not_mem_encodeQueryParam rfl (by decide) (by decide) rfl value
  induction hn : key.length using Nat.strong_induction_on generalizing key with
  | _ len ih =>
    subst hn
    by_cases hamp : 38 ∈ key
    · obtain ⟨a, b, rfl⟩ := List.append_of_mem hamp
      have hb := (ih b.length (by simp; omega) b rfl).1
      have ha := textWeight_le a
      have htext : queryText (a ++ 38 :: b, value) = a ++ 38 :: queryText (b, value) := by
        rw [queryText_eq, queryText_eq, List.append_assoc, List.cons_append]
      have hw : weight (a ++ 38 :: b, value) = 2 * a.length + 2 + weight (b, value) := by
        simp only [weight, List.length_append, List.length_cons]
        omega
      rw [htext, textWeight_append, hw]
      exact ⟨by omega, fun _ h => by omega⟩
    · have hmem : 38 ∉ queryText (key, value) := by
        rw [queryText_eq, List.mem_append, List.mem_cons]
        exact fun h => h.elim hamp fun h => h.elim (by decide) hvalue
      obtain ⟨hle, hintact⟩ := pieceWeight_queryText (key, value)
      rw [textWeight, split_of_not_mem hmem]
      split_ifs with hnil
      · refine ⟨Nat.zero_le _, fun _ h => ?_⟩
        simp only [weight, List.map_nil, List.sum_nil] at h
        omega
      · simp only [List.map_singleton, List.sum_singleton]
        exact ⟨hle, fun hstop h => hintact hamp hstop h⟩

/-- Before a `#`, which ends the query, and a NUL, which ends the line. -/
def isQueryText (c : UInt8) : Bool := c != 35 && c != 0

/-- What is left of the query. -/
def cut (s : Bytes) : Bytes := s.takeWhile isQueryText

/-- Entries are joined by ampersands. -/
theorem paramsToQueryStr_cons (e : Bytes × Bytes) (es : Params) :
    paramsToQueryStr (e :: es) =
      queryText e ++ if es = [] then [] else 38 :: paramsToQueryStr es := by
  cases es with
  | nil => simp [paramsToQueryStr]
  | cons e' es =>
    rw [if_neg (List.cons_ne_nil e' es), paramsToQueryStr, List.map_cons, List.map_cons,
      List.intercalate_cons_cons, List.append_assoc]
    rfl

/-- Nothing of an entry ends the query, unless it stands in the key. -/
theorem isQueryText_queryText {e : Bytes × Bytes} (h : 35 ∉ e.1 ∧ 0 ∉ e.1) :
    ∀ c ∈ queryText e, isQueryText c = true := by
  have h35 : 35 ∉ encodeQueryParam e.2 :=
    not_mem_encodeQueryParam rfl (by decide) (by decide) rfl e.2
  have h0 : 0 ∉ encodeQueryParam e.2 :=
    not_mem_encodeQueryParam rfl (by decide) (by decide) rfl e.2
  intro c hc
  rw [queryText_eq, List.mem_append, List.mem_cons] at hc
  rw [isQueryText, Bool.and_eq_true, bne_iff_ne, bne_iff_ne]
  rcases hc with hc | rfl | hc
  · exact ⟨fun heq => h.1 (heq ▸ hc), fun heq => h.2 (heq ▸ hc)⟩
  · decide
  · exact ⟨fun heq => h35 (heq ▸ hc), fun heq => h0 (heq ▸ hc)⟩

/-- **The account**: what is left of a query is worth no more than its entries, and
as much only if each of them is intact. -/
theorem sum_cut_le (es : Params) :
    textWeight (cut (paramsToQueryStr es)) ≤ total es ∧
      (total es ≤ textWeight (cut (paramsToQueryStr es)) → ∀ e ∈ es, Intact e) := by
  induction es with
  | nil => simp [cut, paramsToQueryStr, textWeight, split, total, trim]
  | cons e es ih =>
    have htotal : total (e :: es) = weight e + total es := by simp [total]
    rw [htotal, paramsToQueryStr_cons]
    -- the text of the first entry is cut only within its key
    by_cases hstop : 35 ∉ e.1 ∧ 0 ∉ e.1
    · obtain ⟨hle, hintact⟩ := textWeight_queryText e
      rw [cut, List.takeWhile_append_of_pos (isQueryText_queryText hstop)]
      have hcons : ∀ k, weight e ≤ textWeight (queryText e) → (∀ e ∈ es, Intact e) →
          k ∈ e :: es → Intact k := by
        intro k h hall hk
        rcases List.mem_cons.mp hk with rfl | hk
        · exact hintact hstop h
        · exact hall k hk
      split_ifs with hnil
      · subst hnil
        rw [List.takeWhile_nil, List.append_nil]
        have hzero : total [] = 0 := rfl
        exact ⟨by omega, fun h k hk => hcons k (by omega) (by simp) hk⟩
      · rw [List.takeWhile_cons_of_pos rfl, textWeight_append]
        rw [cut] at ih
        obtain ⟨hrest, hrestIntact⟩ := ih
        exact ⟨by omega, fun h k hk => hcons k (by omega) (hrestIntact (by omega)) hk⟩
    · -- the text ends inside the key
      have hmem : ∃ c ∈ e.1, isQueryText c = false := by
        rw [not_and_or, not_not, not_not] at hstop
        rcases hstop with h | h
        · exact ⟨35, h, rfl⟩
        · exact ⟨0, h, rfl⟩
      -- so what is left is shorter than the key alone
      have hshort : (cut (queryText e ++ if es = [] then [] else 38 :: paramsToQueryStr es)).length
          < e.1.length := by
        rw [queryText_eq, List.append_assoc]
        exact length_takeWhile_lt hmem _
      have hle := textWeight_le
        (cut (queryText e ++ if es = [] then [] else 38 :: paramsToQueryStr es))
      have hw : weight e = 2 * (e.1.length + e.2.length) + 1 := rfl
      exact ⟨by omega, fun h => by omega⟩

/-! ## What is read -/

/-- Entries weigh what they weigh together. -/
theorem total_append (a b : Params) : total (a ++ b) = total a + total b := by
  simp [total]

/-- Entries weigh the same in whatever order. -/
theorem total_perm {a b : Params} (h : a.Perm b) : total a = total b := (h.map weight).sum_eq

/-- What is read is worth no more than the pieces, and as much only if none of them
came twice. -/
theorem total_queryEntries_le (cache qs : List Bytes) :
    total (queryEntries cache qs) ≤ (qs.map fun q => total (queryEntry q).toList).sum ∧
      ((∀ q ∈ qs, (queryEntry q).isSome = true) →
        (qs.map fun q => total (queryEntry q).toList).sum ≤ total (queryEntries cache qs) →
          qs.Nodup ∧ ∀ q ∈ qs, q ∉ cache) := by
  induction qs generalizing cache with
  | nil => simp [queryEntries, total]
  | cons q qs ih =>
    rw [queryEntries, List.map_cons, List.sum_cons]
    split_ifs with hmem
    · obtain ⟨hle, -⟩ := ih cache
      refine ⟨by omega, fun hsome h => ?_⟩
      obtain ⟨e, he⟩ := Option.isSome_iff_exists.mp (hsome q (List.mem_cons_self ..))
      have hpos : 0 < total (queryEntry q).toList := by
        rw [he]
        simp [total, weight]
      omega
    · obtain ⟨hle, hnodup⟩ := ih (q :: cache)
      rw [total_append]
      refine ⟨by omega, fun hsome h => ?_⟩
      obtain ⟨hqs, hfresh⟩ := hnodup (fun r hr => hsome r (List.mem_cons_of_mem _ hr)) (by omega)
      refine ⟨List.nodup_cons.mpr ⟨fun hq => ?_, hqs⟩, fun r hr => ?_⟩
      · exact hfresh q hq (List.mem_cons_self ..)
      · rcases List.mem_cons.mp hr with rfl | hr
        · exact hmem
        · exact fun hc => hfresh r hr (List.mem_cons_of_mem _ hc)

/-- Pieces that do not repeat are all read. -/
theorem queryEntries_of_nodup {cache qs : List Bytes} (hqs : qs.Nodup)
    (hfresh : ∀ q ∈ qs, q ∉ cache) : queryEntries cache qs = qs.filterMap queryEntry := by
  induction qs generalizing cache with
  | nil => rfl
  | cons q qs ih =>
    obtain ⟨hq, hqs⟩ := List.nodup_cons.mp hqs
    have hrest : queryEntries (q :: cache) qs = qs.filterMap queryEntry := by
      refine ih hqs fun r hr hc => ?_
      rcases List.mem_cons.mp hc with rfl | hc
      · exact hq hr
      · exact hfresh r (List.mem_cons_of_mem _ hr) hc
    rw [queryEntries, if_neg (hfresh q (List.mem_cons_self ..)), hrest, List.filterMap_cons]
    cases queryEntry q <;> rfl

/-- A multimap has the entries that were put in. -/
theorem foldl_emplace_perm (ps es : Params) : (es.foldl emplace ps).Perm (ps ++ es) := by
  induction es generalizing ps with
  | nil => simp
  | cons e es ih =>
    refine (ih (emplace ps e)).trans ?_
    refine (List.Perm.append_right es (List.perm_orderedInsert _ e ps)).trans ?_
    exact List.perm_middle.symm

/-- An entry with the largest key goes to the end. -/
theorem emplace_of_last {ps : Params} {e : Bytes × Bytes} (h : ∀ p ∈ ps, p.1 ≤ e.1) :
    emplace ps e = ps ++ [e] := by
  induction ps with
  | nil => rfl
  | cons p ps ih =>
    rw [emplace, List.orderedInsert_cons, if_neg (h p (List.mem_cons_self ..))]
    exact congrArg (p :: ·) (ih fun q hq => h q (List.mem_cons_of_mem _ hq))

/-- Entries in the order of a multimap make that multimap. -/
theorem foldl_emplace_of_sorted (ps : Params) {es : Params}
    (h : (ps ++ es).Pairwise fun a b => a.1 ≤ b.1) : es.foldl emplace ps = ps ++ es := by
  induction es generalizing ps with
  | nil => simp
  | cons e es ih =>
    have hlast : ∀ p ∈ ps, p.1 ≤ e.1 := fun p hp =>
      (List.pairwise_append.mp h).2.2 p hp e (List.mem_cons_self ..)
    rw [List.foldl_cons, emplace_of_last hlast, ih (ps ++ [e]) (by simpa using h)]
    simp

/-! ## Which parameters survive -/

/-- A key the server reads as it was. -/
structure SurvivingKey (key : Bytes) : Prop where
  nonempty : key ≠ []
  ampersand : 38 ∉ key
  equals : 61 ∉ key
  stop : 35 ∉ key ∧ 0 ∉ key
  tab : key.head? ≠ some 9
  plain : percent.NoEscape key

/-- Entries that are read as they were written. -/
structure Surviving (es : Params) : Prop where
  nodup : es.Nodup
  keys : ∀ e ∈ es, SurvivingKey e.1

/-- What the server makes of the parameters the client writes. -/
def readBack (es : Params) : Params :=
  parseQueryText ((cut (paramsToQueryStr es)).flatMap urlByte)

/-- The query is split where it was before it was escaped. -/
theorem split_query (s : Bytes) :
    split isSpaceOrTab 38 (s.flatMap urlByte) =
      (split isTab 38 s).map fun p => p.flatMap urlByte :=
  split_flatMap (urlByte_keeps rfl (by decide) rfl) urlByte_keepsBlanks s

/-- An intact entry is one piece. -/
theorem Intact.split_eq {e : Bytes × Bytes} (h : Intact e) :
    split isTab 38 (queryText e) = [queryText e] := by
  have hvalue : 38 ∉ encodeQueryParam e.2 :=
    not_mem_encodeQueryParam rfl (by decide) (by decide) rfl e.2
  have hmem : 38 ∉ queryText e := by
    rw [queryText_eq, List.mem_append, List.mem_cons]
    exact fun hm => hm.elim h.ampersand fun hm => hm.elim (by decide) hvalue
  rw [split_of_not_mem hmem, h.tab, if_neg]
  rw [queryText_eq]
  simp

/-- Intact entries come apart as they were put together. -/
theorem split_cut {es : Params} (h : ∀ e ∈ es, Intact e) :
    split isTab 38 (cut (paramsToQueryStr es)) = es.map queryText := by
  induction es with
  | nil => rfl
  | cons e es ih =>
    have he := h e (List.mem_cons_self ..)
    rw [paramsToQueryStr_cons, cut, List.takeWhile_append_of_pos (isQueryText_queryText he.stop)]
    split_ifs with hnil
    · subst hnil
      rw [List.takeWhile_nil, List.append_nil, he.split_eq]
      rfl
    · rw [List.takeWhile_cons_of_pos rfl, split_append_cons, he.split_eq]
      rw [cut] at ih
      rw [ih fun k hk => h k (List.mem_cons_of_mem _ hk)]
      rfl

/-- Trimming leaves a key alone that does not begin with a tab. -/
theorem dropWhile_isTab_eq_self {key : Bytes} : key.dropWhile isTab = key ↔ key.head? ≠ some 9 := by
  cases key with
  | nil => simp
  | cons c key =>
    rw [List.dropWhile_cons, List.head?_cons, Ne, Option.some.injEq, ← isTab_eq_true]
    split_ifs with hc
    · have hlen := (List.dropWhile_suffix isTab (l := key)).length_le
      refine iff_of_false (fun h => ?_) (fun h => h hc)
      have := congrArg List.length h
      rw [List.length_cons] at this
      omega
    · exact iff_of_true rfl hc

/-- Without a `=` in its key, an intact entry is read as it was. -/
theorem Intact.survivingKey {e : Bytes × Bytes} (h : Intact e) (heq : 61 ∉ e.1) :
    SurvivingKey e.1 where
  nonempty hnil := by
    obtain ⟨v, hv⟩ := h.entry
    rw [rawEntry, if_pos (by rw [divide_queryText, hnil]; rfl)] at hv
    cases hv
  ampersand := h.ampersand
  equals := heq
  stop := h.stop
  tab := by
    have htab := h.tab
    rw [trim_queryText, queryText_eq, queryText_eq] at htab
    exact dropWhile_isTab_eq_self.mp (List.append_cancel_right htab)
  plain := by
    have hplain := h.plain
    rwa [List.takeWhile_eq_self_iff.mpr] at hplain
    exact fun c hc => bne_iff_ne.mpr fun h61 => heq (h61 ▸ hc)

/-- An entry with such a key reads back. -/
theorem SurvivingKey.rawEntry_eq {e : Bytes × Bytes} (h : SurvivingKey e.1) :
    rawEntry (queryText e) = some e := by
  have hdivide : divide 61 (queryText e) = (e.1, encodeQueryParam e.2) := by
    rw [queryText_eq, divide_of_not_mem h.equals]
  rw [rawEntry, hdivide, if_neg h.nonempty, decodeUrl_of_noEscape h.plain,
    decodeUrl_encodeQueryParam]

theorem SurvivingKey.intact {e : Bytes × Bytes} (h : SurvivingKey e.1) : Intact e := by
  have hkey : e.1.takeWhile (· != 61) = e.1 :=
    List.takeWhile_eq_self_iff.mpr fun c hc => bne_iff_ne.mpr fun h61 => h.equals (h61 ▸ hc)
  refine ⟨h.ampersand, h.stop, ?_, ⟨e.2, ?_⟩, ?_⟩
  · rw [trim_queryText, dropWhile_isTab_eq_self.mpr h.tab]
  · rw [h.rawEntry_eq, hkey]
  · rw [hkey]
    exact h.plain

/-- The pieces as they are sent. -/
def sent (ps : List Bytes) : List Bytes := ps.map fun p => p.flatMap urlByte

/-- What is read back are the entries of the pieces that were sent, once each. -/
theorem readBack_eq (es : Params) :
    readBack es =
      (queryEntries [] (sent (split isTab 38 (cut (paramsToQueryStr es))))).foldl emplace [] := by
  rw [readBack, parseQueryText, split_query]
  rfl

/-- The pieces that are sent weigh what all weigh. -/
theorem sum_sent (ps : List Bytes) :
    ((sent ps).map fun q => total (queryEntry q).toList).sum = (ps.map pieceWeight).sum := by
  rw [sent, List.map_map]
  refine congrArg List.sum (List.map_congr_left fun p _ => ?_)
  rw [Function.comp_apply, queryEntry_flatMap, pieceWeight]

/-- The pieces that are sent are read as all are. -/
theorem filterMap_sent (ps : List Bytes) :
    (sent ps).filterMap queryEntry = ps.filterMap rawEntry := by
  rw [sent, List.filterMap_map]
  exact List.filterMap_congr fun p _ => queryEntry_flatMap p

/-- What reads back had keys that survive, and no entry twice: anything else weighs less. -/
theorem surviving_of_readBack {es : Params} (h : readBack es = es) : Surviving es := by
  rw [readBack_eq] at h
  have hperm := foldl_emplace_perm []
    (queryEntries [] (sent (split isTab 38 (cut (paramsToQueryStr es)))))
  rw [h, List.nil_append] at hperm
  obtain ⟨hread, hnodup⟩ :=
    total_queryEntries_le [] (sent (split isTab 38 (cut (paramsToQueryStr es))))
  rw [sum_sent, ← total_perm hperm] at hread hnodup
  -- the account is even: every entry is intact, and every piece was read
  obtain ⟨hle, hintact⟩ := sum_cut_le es
  have hall := hintact hread
  rw [textWeight] at hle
  rw [split_cut hall] at hnodup hperm hle
  have hsome : ∀ q ∈ sent (es.map queryText), (queryEntry q).isSome = true := by
    intro q hq
    obtain ⟨p, hp, rfl⟩ := List.mem_map.mp hq
    obtain ⟨e, he, rfl⟩ := List.mem_map.mp hp
    obtain ⟨v, hv⟩ := (hall e he).entry
    rw [queryEntry_flatMap, hv]
    rfl
  obtain ⟨hqs, hfresh⟩ := hnodup hsome hle
  rw [queryEntries_of_nodup hqs hfresh, filterMap_sent, List.filterMap_map] at hperm
  -- so the keys are keys that were read, and those have no `=`
  have hkeys : ∀ e ∈ es, 61 ∉ e.1 := by
    intro e he hmem
    obtain ⟨e', he', heq⟩ := List.mem_filterMap.mp (hperm.mem_iff.mp he)
    obtain ⟨v, hv⟩ := (hall e' he').entry
    obtain rfl := Option.some.inj (hv.symm.trans heq)
    exact absurd (List.mem_takeWhile_imp hmem) (by decide)
  exact ⟨(hqs.of_map _).of_map _, fun e he => (hall e he).survivingKey (hkeys e he)⟩

/-- **Such entries read back.** -/
theorem readBack_of_surviving {es : Params} (hsorted : es.Pairwise fun a b => a.1 ≤ b.1)
    (h : Surviving es) : readBack es = es := by
  have hraw : ∀ e ∈ es, rawEntry (queryText e) = some e := fun e he => (h.keys e he).rawEntry_eq
  have hqs : (sent (es.map queryText)).Nodup := by
    rw [sent, List.map_map]
    refine List.Nodup.map_on ?_ h.nodup
    intro e he e' he' heq
    have hentry := congrArg queryEntry heq
    rw [Function.comp_apply, Function.comp_apply, queryEntry_flatMap, queryEntry_flatMap,
      hraw e he, hraw e' he'] at hentry
    exact Option.some.inj hentry
  rw [readBack_eq, split_cut fun e he => (h.keys e he).intact,
    queryEntries_of_nodup hqs (by simp), filterMap_sent, List.filterMap_map,
    show es.filterMap (rawEntry ∘ queryText) = es.filterMap some from List.filterMap_congr hraw,
    List.filterMap_some]
  exact foldl_emplace_of_sorted [] hsorted

/-- **Query parameters survive** exactly when none repeats and each key is one the
server reads as it was. -/
theorem params_survive_iff {es : Params} (hsorted : es.Pairwise fun a b => a.1 ≤ b.1) :
    readBack es = es ↔ Surviving es :=
  ⟨surviving_of_readBack, readBack_of_surviving hsorted⟩

end Httplib

end Sovd
