import Sovd.Catalog.Loader
import Sovd.Lib.ByteNumber

/-!
# What is decoded is encoded (`Catalog::decode`, `Catalog::encode`)

The two directions of the catalog's typed values, for the types where they are numbers
behind the text. The byte loops are `ByteNumber`, cut off at 64 bits
(`bytesToUint_eq`, `uintToBytes_eq`).

A number field is a scaled unsigned integer. Read and written back it stays what it is
(`reads_back_iff`), but for the length of the bytes, which is compared as an `int`.
Written from a value it is in range or refused (`encodes_iff`), but for the two widest
fields, where the greatest raw value becomes the next power of two when it is cast to
`double`.

An enumeration is one byte when it is written and any number of bytes when it is read;
`enum_codec` says what holds of both.
-/

namespace Sovd

namespace Catalog

/-! ## Bytes and integers -/

/-- The loop over the bytes is the value of the byte string, modulo 2⁶⁴. -/
theorem bytesToUint_eq (bytes : Bytes) (bigEndian : Bool) :
    bytesToUint bytes bigEndian = ByteNumber.value bigEndian bytes % 2 ^ 64 := by
  have hfold : ∀ (l : Bytes) (v : Nat),
      l.foldl (fun v b => (v * 256 + b.toNat) % 2 ^ 64) (v % 2 ^ 64) =
        l.foldl (fun v b => v * 256 + b.toNat) v % 2 ^ 64 := by
    intro l
    induction l with
    | nil => exact fun _ => rfl
    | cons b l ih =>
      intro v
      have hstep : (v % 2 ^ 64 * 256 + b.toNat) % 2 ^ 64 = (v * 256 + b.toNat) % 2 ^ 64 := by
        omega
      rw [List.foldl_cons, List.foldl_cons, hstep, ih]
  have hzero := hfold (if bigEndian then bytes else bytes.reverse) 0
  rw [Nat.zero_mod, ByteNumber.foldl_eq_little] at hzero
  cases bigEndian with
  | false => exact hzero.trans (by rw [if_neg Bool.false_ne_true, List.reverse_reverse]; rfl)
  | true => exact hzero

/-- The loop back gives the bytes of the number modulo 2⁶⁴. -/
theorem uintToBytes_eq (value nbytes : Nat) (bigEndian : Bool) :
    uintToBytes value nbytes bigEndian = ByteNumber.bytes bigEndian nbytes value := by
  have hpow : ∀ k, 2 ^ (k * 8) = 256 ^ k := fun k => by rw [Nat.mul_comm, Nat.pow_mul]
  cases bigEndian with
  | false =>
    simp [uintToBytes, ByteNumber.bytes, ByteNumber.littleBytes, hpow]
  | true =>
    refine List.ext_getElem (by simp [uintToBytes]) fun i hi _ => ?_
    simp [uintToBytes, ByteNumber.bytes, ByteNumber.littleBytes, hpow]

/-- Up to eight bytes nothing is cut off. -/
theorem bytesToUint_of_le {bytes : Bytes} (h : bytes.length ≤ 8) (bigEndian : Bool) :
    bytesToUint bytes bigEndian = ByteNumber.value bigEndian bytes := by
  have hlt : ByteNumber.value bigEndian bytes < 2 ^ 64 :=
    calc ByteNumber.value bigEndian bytes < 256 ^ bytes.length := ByteNumber.value_lt bytes
      _ ≤ 256 ^ 8 := Nat.pow_le_pow_right (by decide) h
      _ = 2 ^ 64 := by decide
  rw [bytesToUint_eq, Nat.mod_eq_of_lt hlt]

end Catalog

/-! ## Number fields -/

/-- The byte order of an encoding. -/
def Encoding.bigEndian (e : Encoding) : Bool := e.endian == str "big"

/-- `static_cast<double>` where nothing is rounded. -/
def exactU64 (n : Nat) : Rat := n

section

variable {item : DataItem} {s : Rat}

/-- A value is refused, or it is in range and written out. -/
theorem encode_float (castU64 : Nat → Rat) (htype : item.type = .float)
    (hw : item.encoding.WellFormed) (hscale : item.encoding.scale = .fin s) (hs : s ≠ 0) (x : Rat) :
    (0 ≤ Double.roundRat (x / s) ∧
        (Double.roundRat (x / s) : Rat) ≤ castU64 (256 ^ item.encoding.bytes.toNat - 1) →
      Catalog.encode castU64 item (.number (.fin x)) =
        .ok (ByteNumber.bytes item.encoding.bigEndian item.encoding.bytes.toNat
          (Double.roundRat (x / s)).toNat)) ∧
    (¬ (0 ≤ Double.roundRat (x / s) ∧
        (Double.roundRat (x / s) : Rat) ≤ castU64 (256 ^ item.encoding.bytes.toNat - 1)) →
      ∃ ex, Catalog.encode castU64 item (.number (.fin x)) = .error ex) := by
  -- `max_raw`: all ones in `bytes` bytes; a shift by 64 is avoided
  have hmax : (if 8 ≤ item.encoding.bytes then 2 ^ 64 - 1
      else 2 ^ (item.encoding.bytes.toNat * 8) - 1) = 256 ^ item.encoding.bytes.toNat - 1 := by
    split_ifs with h8
    · have heq : item.encoding.bytes = 8 := le_antisymm hw.le h8
      rw [heq]
      rfl
    · rw [Nat.mul_comm, Nat.pow_mul]
  have hzero : item.encoding.scale.isZero = false := by
    rw [hscale]
    exact beq_eq_false_iff_ne.mpr hs
  have hround : (if item.encoding.scale.isZero = true then Double.fin x
      else (Double.fin x).div item.encoding.scale).round = .fin (Double.roundRat (x / s)) := by
    rw [hzero, hscale]
    rfl
  have hraw : (Double.fin (Double.roundRat (x / s))).toU64 = (Double.roundRat (x / s)).toNat := by
    simp [Double.toU64]
  -- the guard of the source, on numbers
  have houtside : ∀ m : Rat, ((Double.fin (Double.roundRat (x / s))).lt (.fin 0) ||
      (Double.fin m).lt (.fin (Double.roundRat (x / s)))) = true ↔
        ¬ (0 ≤ Double.roundRat (x / s) ∧ (Double.roundRat (x / s) : Rat) ≤ m) := by
    intro m
    simp only [Double.lt, Bool.or_eq_true, decide_eq_true_eq, not_and_or, not_le]
    rw [Int.cast_lt_zero]
  unfold Catalog.encode
  rw [htype]
  dsimp only
  rw [hround, hmax, hraw, Catalog.uintToBytes_eq]
  constructor
  · intro hin
    rw [if_neg ((houtside _).not.mpr (not_not.mpr hin))]
    rfl
  · intro hout
    rw [if_pos ((houtside _).mpr hout)]
    exact ⟨_, rfl⟩

/-- A float is decoded if it has its width, and then is its raw value scaled. -/
theorem decode_float (castU64 : Nat → Rat) (htype : item.type = .float) (b : Bytes) :
    ((∃ v, Catalog.decode castU64 item b = .ok v) ↔ toInt32 b.length = item.encoding.bytes) ∧
      ∀ v, Catalog.decode castU64 item b = .ok v →
        v = .number ((Double.fin (castU64 (Catalog.bytesToUint b item.encoding.bigEndian))).mul
          item.encoding.scale) := by
  unfold Catalog.decode
  rw [htype]
  dsimp only
  by_cases hlen : toInt32 b.length = item.encoding.bytes
  · rw [if_neg (not_not.mpr hlen)]
    exact ⟨⟨fun _ => hlen, fun _ => ⟨_, rfl⟩⟩, fun v hv => (Except.ok.inj hv).symm⟩
  · rw [if_pos hlen]
    refine ⟨⟨fun h => ?_, fun h => absurd h hlen⟩, fun v hv => ?_⟩
    · obtain ⟨v, hv⟩ := h
      cases hv
    · cases hv

/-! ### Rounding -/

/-- A natural number is rounded to itself. -/
theorem roundRat_natCast (n : Nat) : Double.roundRat n = n := by
  have hfloor : ⌊(n : Rat) + 1 / 2⌋ = n := by
    rw [Int.floor_eq_iff]
    constructor <;> push_cast <;> linarith
  rw [Double.roundRat, if_pos (Nat.cast_nonneg n), hfloor]

/-- Which values are rounded to a positive integer. -/
theorem roundRat_eq_iff {q : Rat} {k : Int} (hk : 0 < k) :
    Double.roundRat q = k ↔ (k : Rat) - 1 / 2 ≤ q ∧ q < k + 1 / 2 := by
  have hk' : (1 : Rat) ≤ k := by exact_mod_cast hk
  unfold Double.roundRat
  split_ifs with hq
  · rw [Int.floor_eq_iff]
    constructor
    · rintro ⟨hlow, hhigh⟩
      constructor <;> linarith
    · rintro ⟨hlow, hhigh⟩
      constructor <;> linarith
  · -- a negative value is rounded down to zero at most
    have hfloor : 0 ≤ ⌊-q + 1 / 2⌋ := Int.floor_nonneg.mpr (by linarith [not_le.mp hq])
    constructor
    · intro h
      omega
    · rintro ⟨hlow, -⟩
      linarith [not_le.mp hq]

/-- The greatest number of so many bytes as a `double`: exact up to six bytes, the next
power of two from seven on. -/
theorem roundTo53_maxRaw {w : Nat} (h : w ≤ 8) :
    Double.roundTo53 (256 ^ w - 1) = if w ≤ 6 then 256 ^ w - 1 else 256 ^ w := by
  split_ifs with h6
  · have hpos : 1 ≤ 256 ^ w := Nat.one_le_two_pow.trans (Nat.pow_le_pow_left (by decide) w)
    have hlt : 256 ^ w - 1 < 2 ^ 53 :=
      calc 256 ^ w - 1 < 256 ^ w := Nat.sub_lt hpos Nat.one_pos
        _ ≤ 256 ^ 6 := Nat.pow_le_pow_right (by decide) h6
        _ ≤ 2 ^ 53 := by decide
    rw [Double.roundTo53, if_pos hlt, Nat.cast_sub hpos]
    push_cast
    rfl
  · obtain rfl | rfl : w = 7 ∨ w = 8 := by omega
    · decide +kernel
    · decide +kernel

/-- What the range check lets through: the numbers of so many bytes, and from seven bytes
on the first number beyond them. -/
theorem le_roundTo53_maxRaw_iff {w : Nat} (h : w ≤ 8) {r : Int} :
    (r : Rat) ≤ Double.roundTo53 (256 ^ w - 1) ↔ r < 256 ^ w ∨ 7 ≤ w ∧ r = 256 ^ w := by
  rw [roundTo53_maxRaw h]
  split_ifs with h6
  · have hcast : ((256 : Rat) ^ w - 1) = ((256 ^ w - 1 : Int) : Rat) := by push_cast; rfl
    rw [hcast, Int.cast_le]
    omega
  · have hcast : ((256 : Rat) ^ w) = ((256 ^ w : Int) : Rat) := by push_cast; rfl
    rw [hcast, Int.cast_le]
    omega

/-! ### Read and written back -/

/-- Exactly the lists of bytes of the right length are decoded, and the value is encoded
as these bytes again. -/
structure ReadsBack (item : DataItem) (b : Bytes) : Prop where
  decodes : (∃ v, Catalog.decode exactU64 item b = .ok v) ↔ (b.length : Int) = item.encoding.bytes
  encodes : ∀ v, Catalog.decode exactU64 item b = .ok v → Catalog.encode exactU64 item v = .ok b

/-- A length is cut to an `int` before it is compared. -/
theorem toInt32_eq_iff {n : Nat} {w : Int} (hpos : 1 ≤ w) (hle : w ≤ 8) :
    toInt32 n = w ↔ (n : Int) % 2 ^ 32 = w := by
  unfold toInt32
  omega

/-- **A number field is read and written back unchanged, but for bytes whose count is the
right one only modulo `2 ^ 32`.** -/
theorem reads_back_iff {lib : YamlLib} {yamlText : Bytes} {c : Catalog}
    (hload : Catalog.loadFromString lib yamlText = .ok c) (hitem : item ∈ c.data)
    (htype : item.type = .float) (hscale : item.encoding.scale = .fin s) (hs : s ≠ 0) (b : Bytes) :
    ReadsBack item b ↔
      ((b.length : Int) % 2 ^ 32 = item.encoding.bytes →
        (b.length : Int) = item.encoding.bytes) := by
  have hw := (Catalog.wellTyped hload hitem).encoding htype
  obtain ⟨hdecodes, hvalue⟩ := decode_float exactU64 htype b
  rw [toInt32_eq_iff hw.pos hw.le] at hdecodes
  -- `size()` is narrowed to `int`, so the length counts modulo 2³²
  constructor
  · intro h hmod
    exact h.decodes.mp (hdecodes.mpr hmod)
  · intro h
    have hlength : (b.length : Int) % 2 ^ 32 = item.encoding.bytes ↔
        (b.length : Int) = item.encoding.bytes := by
      have hpos := hw.pos
      have hle := hw.le
      exact ⟨h, fun heq => by omega⟩
    refine ⟨hdecodes.trans hlength, fun v hv => ?_⟩
    have hlen := hlength.mp (hdecodes.mp ⟨v, hv⟩)
    have hcount : item.encoding.bytes.toNat = b.length := by omega
    have hlt : ByteNumber.value item.encoding.bigEndian b < 256 ^ b.length := ByteNumber.value_lt b
    -- the scale is divided out again, exactly
    have hraw : (exactU64 (Catalog.bytesToUint b item.encoding.bigEndian) * s) / s =
        (ByteNumber.value item.encoding.bigEndian b : Nat) := by
      have hle := hw.le
      rw [mul_div_cancel_right₀ _ hs, exactU64, Catalog.bytesToUint_of_le (by omega)]
    have hround := congrArg Double.roundRat hraw
    rw [roundRat_natCast] at hround
    rw [hvalue v hv, hscale]
    have hencode := (encode_float exactU64 htype hw hscale hs
      (exactU64 (Catalog.bytesToUint b item.encoding.bigEndian) * s)).1
    rw [hround, hcount] at hencode
    have hin : ((ByteNumber.value item.encoding.bigEndian b : Int) : Rat) ≤
        exactU64 (256 ^ b.length - 1) := by
      rw [exactU64, Int.cast_natCast, Nat.cast_le]
      omega
    have hok := hencode ⟨Int.natCast_nonneg _, hin⟩
    rw [Int.toNat_natCast, ByteNumber.bytes_value] at hok
    exact hok

/-! ### In range or refused -/

/-- The value is refused, or what is written is the number it is rounded to. -/
def Encodes (item : DataItem) (s x : Rat) : Prop :=
  (∃ ex, Catalog.encode Double.roundTo53 item (.number (.fin x)) = .error ex) ∨
    ∃ b, Catalog.encode Double.roundTo53 item (.number (.fin x)) = .ok b ∧
      (b.length : Int) = item.encoding.bytes ∧
      (ByteNumber.value item.encoding.bigEndian b : Int) = Double.roundRat (x / s)

/-- **A value is in range or refused, but for a field of seven or eight bytes and a value
that is rounded to the first number beyond it.** -/
theorem encodes_iff {lib : YamlLib} {yamlText : Bytes} {c : Catalog}
    (hload : Catalog.loadFromString lib yamlText = .ok c) (hitem : item ∈ c.data)
    (htype : item.type = .float) (hscale : item.encoding.scale = .fin s) (hs : s ≠ 0) (x : Rat) :
    Encodes item s x ↔
      ¬ (7 ≤ item.encoding.bytes ∧ (256 : Rat) ^ item.encoding.bytes.toNat - 1 / 2 ≤ x / s ∧
        x / s < 256 ^ item.encoding.bytes.toNat + 1 / 2) := by
  have hw := (Catalog.wellTyped hload hitem).encoding htype
  have hpos := hw.pos
  have hle := hw.le
  obtain ⟨w, hbytes⟩ : ∃ w : Nat, item.encoding.bytes = w :=
    ⟨_, (Int.toNat_of_nonneg (by omega)).symm⟩
  obtain ⟨hok, herror⟩ := encode_float Double.roundTo53 htype hw hscale hs x
  rw [hbytes, Int.toNat_natCast] at hok herror ⊢
  have hround := roundRat_eq_iff (q := x / s) (k := 256 ^ w) (by positivity)
  push_cast at hround
  rw [← hround]
  -- `max_raw` as a double is one too many from 7 bytes on
  rw [le_roundTo53_maxRaw_iff (by omega)] at hok herror
  unfold Encodes
  rw [hbytes]
  generalize Double.roundRat (x / s) = r at hok herror ⊢
  by_cases hin : 0 ≤ r ∧ (r < 256 ^ w ∨ 7 ≤ w ∧ r = 256 ^ w)
  · rw [hok hin]
    -- the bytes are the number modulo `256 ^ w`
    have hvalue : (ByteNumber.value item.encoding.bigEndian
        (ByteNumber.bytes item.encoding.bigEndian w r.toNat) : Int) = r ↔ r < 256 ^ w := by
      obtain ⟨n, rfl⟩ := Int.eq_ofNat_of_zero_le hin.1
      rw [Int.toNat_natCast]
      exact_mod_cast ByteNumber.value_bytes_eq_iff
    constructor
    · rintro (⟨ex, hex⟩ | ⟨b, hb, -, hsame⟩) ⟨-, hr⟩
      · cases hex
      · obtain rfl := Except.ok.inj hb
        exact absurd hr (hvalue.mp hsame).ne
    · intro hexcept
      have hlt : r < 256 ^ w := hin.2.resolve_right fun hbeyond =>
        hexcept ⟨by omega, hbeyond.2⟩
      exact .inr ⟨_, rfl, by rw [ByteNumber.bytes_length], hvalue.mpr hlt⟩
  · obtain ⟨ex, hex⟩ := herror hin
    refine ⟨?_, fun _ => .inl ⟨ex, hex⟩⟩
    rintro - ⟨h7, hr⟩
    exact hin ⟨by rw [hr]; positivity, .inr ⟨by omega, hr⟩⟩

end

/-! ## Enumerations -/

section

variable {item : DataItem}

/-- An enum is decoded to the first label of its value, or else to its decimal text. -/
theorem decode_enum (castU64 : Nat → Rat) (htype : item.type = .enum) (b : Bytes) :
    Catalog.decode castU64 item b = .ok (.text
      (match item.values.find? fun ev => Catalog.intToU64 ev.raw == Catalog.bytesToUint b true with
        | some ev => ev.label
        | none => decimal (Catalog.bytesToUint b true))) := by
  unfold Catalog.decode
  rw [htype]
  cases hev : item.values.find? fun ev => Catalog.intToU64 ev.raw == Catalog.bytesToUint b true with
  | none =>
    dsimp only
    rw [hev]
  | some ev =>
    dsimp only
    rw [hev]

/-- An enum is encoded as the low byte of the first value of its label. -/
theorem encode_enum (castU64 : Nat → Rat) (htype : item.type = .enum) {ev : EnumValue}
    (hfind : (item.values.find? fun e => e.label == ev.label) = some ev) :
    Catalog.encode castU64 item (.text ev.label) = .ok [UInt8.ofNat (Catalog.intToU64 ev.raw)] := by
  unfold Catalog.encode
  rw [htype]
  dsimp only
  rw [hfind]

/-- The cast keeps what is not negative, and tells all values of an `int` apart. -/
theorem intToU64_eq_iff {i : Int} (hlow : -(2 ^ 31) ≤ i) (hhigh : i < 2 ^ 31) {n : Nat}
    (hn : n < 2 ^ 64) : Catalog.intToU64 i = n ↔ i = n ∨ i < 0 ∧ (n : Int) = 2 ^ 64 + i := by
  unfold Catalog.intToU64
  omega

/-- The value of one byte. -/
theorem value_singleton (x : UInt8) : ByteNumber.value true [x] = x.toNat := by
  simp [ByteNumber.value]

/-- The first entry with its label and with its raw value goes to the byte with that value
and back. -/
theorem enum_there_and_back (castU64 : Nat → Rat) (hw : item.WellTyped) (htype : item.type = .enum)
    {before after : List EnumValue} {ev : EnumValue} (hvalues : item.values = before ++ ev :: after)
    (hfirst : ∀ e ∈ before, e.label ≠ ev.label ∧ e.raw ≠ ev.raw) (hpos : 0 ≤ ev.raw)
    (hlt : ev.raw < 256) :
    Catalog.encode castU64 item (.text ev.label) = .ok [UInt8.ofNat ev.raw.toNat] ∧
      (ByteNumber.value true [UInt8.ofNat ev.raw.toNat] : Int) = ev.raw ∧
      Catalog.decode castU64 item [UInt8.ofNat ev.raw.toNat] = .ok (.text ev.label) := by
  have hlabel : (item.values.find? fun e => e.label == ev.label) = some ev := by
    rw [List.find?_eq_some_iff_append]
    refine ⟨beq_self_eq_true _, before, after, hvalues, fun e he => ?_⟩
    rw [Bool.not_eq_true', beq_eq_false_iff_ne]
    exact (hfirst e he).1
  have hcast : Catalog.intToU64 ev.raw = ev.raw.toNat := by
    unfold Catalog.intToU64
    omega
  have hbyte : (UInt8.ofNat ev.raw.toNat).toNat = ev.raw.toNat := by
    rw [UInt8.toNat_ofNat']
    omega
  have hread : Catalog.bytesToUint [UInt8.ofNat ev.raw.toNat] true = ev.raw.toNat := by
    rw [Catalog.bytesToUint_of_le (by simp), value_singleton, hbyte]
  have hraw : (item.values.find? fun e => Catalog.intToU64 e.raw == ev.raw.toNat) = some ev := by
    rw [List.find?_eq_some_iff_append]
    refine ⟨beq_iff_eq.mpr hcast, before, after, hvalues, fun e he => ?_⟩
    have hmem : e ∈ item.values := hvalues ▸ List.mem_append_left _ he
    obtain ⟨hlow, hhigh⟩ := hw.values e hmem
    rw [Bool.not_eq_true', beq_eq_false_iff_ne, Ne, intToU64_eq_iff hlow hhigh (by omega)]
    have hne := (hfirst e he).2
    omega
  refine ⟨?_, ?_, ?_⟩
  · rw [encode_enum castU64 htype hlabel, hcast]
  · rw [value_singleton, hbyte, Int.toNat_of_nonneg hpos]
  · rw [decode_enum castU64 htype, hread, hraw]

/-- A text that is read is the label of an entry with that number, or the number itself. -/
theorem enum_sound (castU64 : Nat → Rat) (hw : item.WellTyped) (htype : item.type = .enum)
    {b label : Bytes} (hdecode : Catalog.decode castU64 item b = .ok (.text label))
    (hlt : ByteNumber.value true b < 2 ^ 64)
    (hnegative : ∀ ev ∈ item.values, ev.raw < 0 →
      (ByteNumber.value true b : Int) ≠ 2 ^ 64 + ev.raw) :
    (∃ ev ∈ item.values, ev.label = label ∧ ev.raw = (ByteNumber.value true b : Int)) ∨
      ((∀ ev ∈ item.values, ev.raw ≠ (ByteNumber.value true b : Int)) ∧
        label = decimal (ByteNumber.value true b)) := by
  have hiff : ∀ ev ∈ item.values, Catalog.intToU64 ev.raw = ByteNumber.value true b ↔
      ev.raw = (ByteNumber.value true b : Int) := by
    intro ev hev
    obtain ⟨hlow, hhigh⟩ := hw.values ev hev
    rw [intToU64_eq_iff hlow hhigh hlt]
    exact or_iff_left fun h => hnegative ev hev h.1 h.2
  rw [decode_enum castU64 htype, Catalog.bytesToUint_eq, Nat.mod_eq_of_lt hlt] at hdecode
  split at hdecode
  next ev hev =>
    have hmem := List.mem_of_find?_eq_some hev
    have hraw : Catalog.intToU64 ev.raw = ByteNumber.value true b := by
      simpa using List.find?_some hev
    exact .inl ⟨ev, hmem, TypedValue.text.inj (Except.ok.inj hdecode), (hiff ev hmem).mp hraw⟩
  next hnone =>
    refine .inr ⟨fun ev hev heq => ?_, (TypedValue.text.inj (Except.ok.inj hdecode)).symm⟩
    exact List.find?_eq_none.mp hnone ev hev (beq_iff_eq.mpr ((hiff ev hev).mpr heq))

/-- **The enumeration codec.** The first entry of a label, if it has a value of one byte
that no earlier entry has, is written as that one byte and read back from it. A label that
is read belongs to the number that was read, or it is the number's own text and the number
belongs to none. -/
theorem enum_codec {lib : YamlLib} {yamlText : Bytes} {c : Catalog}
    (hload : Catalog.loadFromString lib yamlText = .ok c) (hitem : item ∈ c.data)
    (htype : item.type = .enum) (castU64 : Nat → Rat) :
    (∀ before ev after, item.values = before ++ ev :: after →
      (∀ e ∈ before, e.label ≠ ev.label ∧ e.raw ≠ ev.raw) → 0 ≤ ev.raw → ev.raw < 256 →
      Catalog.encode castU64 item (.text ev.label) = .ok [UInt8.ofNat ev.raw.toNat] ∧
        (ByteNumber.value true [UInt8.ofNat ev.raw.toNat] : Int) = ev.raw ∧
        Catalog.decode castU64 item [UInt8.ofNat ev.raw.toNat] = .ok (.text ev.label)) ∧
    ∀ b label, Catalog.decode castU64 item b = .ok (.text label) →
      ByteNumber.value true b < 2 ^ 64 →
      (∀ ev ∈ item.values, ev.raw < 0 → (ByteNumber.value true b : Int) ≠ 2 ^ 64 + ev.raw) →
      (∃ ev ∈ item.values, ev.label = label ∧ ev.raw = (ByteNumber.value true b : Int)) ∨
        ((∀ ev ∈ item.values, ev.raw ≠ (ByteNumber.value true b : Int)) ∧
          label = decimal (ByteNumber.value true b)) := by
  have hw := Catalog.wellTyped hload hitem
  constructor
  · intro before ev after hvalues hfirst hpos hlt
    exact enum_there_and_back castU64 hw htype hvalues hfirst hpos hlt
  · intro b label hdecode hlt hnegative
    exact enum_sound castU64 hw htype hdecode hlt hnegative

end

/-! ## A catalog at the edges -/

namespace EdgeCatalog

/-- A number of one byte, a number of eight, and an enumeration whose first value is no
byte and whose second label is a number. -/
def yamlText : Bytes := str ("data:\n" ++
  "- id: level\n  did: 0x0210\n  type: float\n  access: read_write\n" ++
  "  encoding:\n    bytes: 1\n" ++
  "- id: odometer\n  did: 0x0220\n  type: float\n  access: read_write\n" ++
  "  encoding:\n    bytes: 7\n" ++
  "- id: gear\n  did: 0x0230\n  type: enum\n  access: read_write\n" ++
  "  values:\n    256: sport\n    0: '5'\n    2: reverse\n")

def text (s : String) : Yaml := .scalar (str s)

def entry (id did type key : String) (fields : List (String × String)) : Yaml :=
  .map [(text "id", text id), (text "did", text did), (text "type", text type),
    (text "access", text "read_write"),
    (text key, .map (fields.map fun f => (text f.1, text f.2)))]

def entries : List Yaml :=
  [entry "level" "0x0210" "float" "encoding" [("bytes", "1")],
    entry "odometer" "0x0220" "float" "encoding" [("bytes", "7")],
    entry "gear" "0x0230" "enum" "values" [("256", "sport"), ("0", "5"), ("2", "reverse")]]

def lib : YamlLib where
  load document := if document = yamlText then .ok (.map [(text "data", .seq entries)])
    else .error (str "end of map not found")
  asBool _ := none
  asInt := Catalog.stoi
  asDouble _ := none

/-- One byte. -/
def level : DataItem :=
  { id := str "level", did := 0x0210, type := .float, access := .readWrite
    encoding := { bytes := 1 } }

/-- Seven bytes. -/
def odometer : DataItem :=
  { id := str "odometer", did := 0x0220, type := .float, access := .readWrite
    encoding := { bytes := 7 } }

/-- A value that does not fit a byte, and a label that looks like a value. -/
def gear : DataItem :=
  { id := str "gear", did := 0x0230, type := .enum, access := .readWrite
    values := [⟨256, str "sport"⟩, ⟨0, str "5"⟩, ⟨2, str "reverse"⟩] }

def catalog : Catalog := { data := [level, odometer, gear] }

theorem load_eq : Catalog.loadFromString lib yamlText = .ok catalog := by
  have hload : lib.load yamlText = .ok (.map [(text "data", .seq entries)]) := by
    simp only [lib, ↓reduceIte]
  rw [Catalog.loadFromString, hload]
  rfl

/-- One byte is read and written back. -/
theorem level_reads_back : ReadsBack level [0xC8] :=
  (reads_back_iff load_eq (by decide) rfl rfl one_ne_zero [0xC8]).mpr (by decide)

/-- With four gigabytes more they are read all the same. -/
theorem level_wraps :
    Catalog.loadFromString lib yamlText = .ok catalog ∧ level ∈ catalog.data ∧
      ¬ ReadsBack level (List.replicate (2 ^ 32 + 1) 0) := by
  refine ⟨load_eq, by decide, fun h => ?_⟩
  have hcount : toInt32 (List.replicate (2 ^ 32 + 1) (0 : UInt8)).length = 1 := by
    rw [List.length_replicate]
    decide
  have hlength := h.decodes.mp ((decode_float exactU64 rfl _).1.mpr hcount)
  rw [List.length_replicate] at hlength
  exact absurd hlength (by decide)

/-- A value of one byte is written. -/
theorem level_encodes : Encodes level 1 200 :=
  (encodes_iff load_eq (by decide) rfl rfl one_ne_zero 200).mpr (by decide)

/-- `2 ^ 56` is written as zero. -/
theorem odometer_wraps :
    Catalog.loadFromString lib yamlText = .ok catalog ∧ odometer ∈ catalog.data ∧
      Catalog.encode Double.roundTo53 odometer (.number (.fin (2 ^ 56))) =
        .ok [0, 0, 0, 0, 0, 0, 0] ∧
      ¬ Encodes odometer 1 (2 ^ 56) := by
  have hencode : Catalog.encode Double.roundTo53 odometer (.number (.fin (2 ^ 56))) =
      .ok [0, 0, 0, 0, 0, 0, 0] := by
    decide +kernel
  refine ⟨load_eq, by decide, hencode, ?_⟩
  rintro (⟨ex, hex⟩ | ⟨b, hb, -, hvalue⟩)
  · rw [hencode] at hex
    cases hex
  · rw [hencode] at hb
    obtain rfl := Except.ok.inj hb
    exact absurd hvalue (by decide +kernel)

/-- `reverse` goes to the byte 2 and back. -/
theorem gear_there_and_back :
    Catalog.encode exactU64 gear (.text (str "reverse")) = .ok [2] ∧
      (ByteNumber.value true [2] : Int) = 2 ∧
      Catalog.decode exactU64 gear [2] = .ok (.text (str "reverse")) :=
  (enum_codec load_eq (by decide) rfl exactU64).1
    [⟨256, str "sport"⟩, ⟨0, str "5"⟩] ⟨2, str "reverse"⟩ [] rfl (by decide) (by decide) (by decide)

/-- `sport` is written as a byte that is not its number, and 5 is read as the label of 0. -/
theorem gear_ambiguous :
    Catalog.loadFromString lib yamlText = .ok catalog ∧ gear ∈ catalog.data ∧
      (Catalog.encode exactU64 gear (.text (str "sport")) = .ok [0] ∧
        ¬ ∃ ev ∈ gear.values, ev.label = str "sport" ∧ ev.raw = ByteNumber.value true [0]) ∧
      Catalog.decode exactU64 gear [0] ≠ .ok (.text (str "sport")) ∧
      Catalog.decode exactU64 gear [5] = .ok (.text (str "5")) ∧
        ¬ ∃ ev ∈ gear.values, ev.label = str "5" ∧ ev.raw = ByteNumber.value true [5] :=
  ⟨load_eq, by decide, ⟨rfl, by decide⟩, by decide, rfl, by decide⟩

end EdgeCatalog

end Sovd
