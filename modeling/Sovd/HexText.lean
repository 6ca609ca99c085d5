import Sovd.Bytes

/-!
# Hexadecimal text

Identifiers and raw values travel as hexadecimal text. Writing it is uniform
(`toHex`, `toHexU16`: upper case, no marker); reading it is not. Byte strings are
read by a loop over pairs of digits (`fromHex`), identifiers by `std::stoul`, which
takes white space, a sign and a second marker in its stride (`stoul16`).

`parseHexU16_toHexU16` is the fact the data routes rest on: the DID text made for
a catalog item is read back as that item's DID.

Mirroring notes vs the C++:
- `stoul16` is `std::stoul(s, &consumed, 16)` with a 64-bit `unsigned long`: a value
  that does not fit is an exception, a minus sign negates modulo `2^64`.
- The digit tables and lambdas are arithmetic on ASCII codes.
-/

namespace Sovd

/-- The value of a digit; upper and lower case. -/
def nibble (c : UInt8) : Option Nat :=
  if 48 ≤ c ∧ c ≤ 57 then some (c.toNat - 48)
  else if 97 ≤ c ∧ c ≤ 102 then some (c.toNat - 97 + 10)
  else if 65 ≤ c ∧ c ≤ 70 then some (c.toNat - 65 + 10)
  else none

/-- `"0123456789ABCDEF"[n]`. -/
def hexChar (n : Nat) : UInt8 := UInt8.ofNat (if n < 10 then 48 + n else 55 + n)

/-- `"0123456789abcdef"[n]`. -/
def lowerHexChar (n : Nat) : UInt8 := UInt8.ofNat (if n < 10 then 48 + n else 87 + n)

/-- Two digits for each byte. -/
def toHex (bytes : Bytes) : Bytes :=
  bytes.flatMap fun b => [hexChar (b.toNat / 16), hexChar (b.toNat % 16)]

/-- `snprintf("%04X")`. -/
def toHexU16 (v : UInt16) : Bytes :=
  [hexChar (v.toNat / 4096), hexChar (v.toNat / 256 % 16), hexChar (v.toNat / 16 % 16),
    hexChar (v.toNat % 16)]

/-- The text after an optional `0x` or `0X`. -/
def stripHexMarker (s : Bytes) : Bytes :=
  match s with
  | 48 :: x :: rest => if x = 120 ∨ x = 88 then rest else s
  | _ => s

/-- The loop of `from_hex` over pairs of digits. -/
def fromHexPairs : Bytes → Option Bytes
  | [] => some []
  | [_] => none
  | a :: b :: rest =>
    match nibble a, nibble b with
    | some hi, some lo => (fromHexPairs rest).map fun out => UInt8.ofNat (hi * 16 + lo) :: out
    | _, _ => none

/-- `from_hex`: the bytes of a hex text, with or without a marker. -/
def fromHex (s : Bytes) : Option Bytes :=
  let s := stripHexMarker s
  if s = [] ∨ s.length % 2 ≠ 0 then none else fromHexPairs s

/-- `isspace` in the C locale. -/
def isSpace (c : UInt8) : Bool := c == 32 || (9 ≤ c && c ≤ 13)

/-- A digit in either case. -/
def isHexDigit (c : UInt8) : Bool := (nibble c).isSome

/-- The number a string of digits stands for. -/
def hexValue (digits : Bytes) : Nat :=
  digits.foldl (fun v c => v * 16 + (nibble c).getD 0) 0

/-- `strtoul`'s sign and, if a digit follows it, its own `0x`. -/
def stoulSign (s : Bytes) : Bool × Bytes :=
  match s with
  | 45 :: rest => (true, rest)
  | 43 :: rest => (false, rest)
  | _ => (false, s)

/-- The marker is skipped only if a digit follows it. -/
def stoulMarker (s : Bytes) : Bytes :=
  match s with
  | 48 :: x :: d :: rest => if (x = 120 ∨ x = 88) ∧ isHexDigit d then d :: rest else s
  | _ => s

/-- The value and the number of characters read; `none` is an exception. -/
def stoul16 (s : Bytes) : Option (Nat × Nat) :=
  let (negative, afterSign) := stoulSign (s.dropWhile isSpace)
  let text := stoulMarker afterSign
  let digits := text.takeWhile isHexDigit
  if digits = [] then none
  else if 2 ^ 64 ≤ hexValue digits then none
  else
    let value := if negative then (2 ^ 64 - hexValue digits) % 2 ^ 64 else hexValue digits
    some (value, s.length - (text.drop digits.length).length)

/-- The adapter's `parse_hex_u16`; the catalog's throws where this fails. -/
def parseHexU16 (text : Bytes) : Option UInt16 :=
  let s := stripHexMarker text
  if s = [] then none
  else
    match stoul16 s with
    | none => none
    | some (value, consumed) =>
      if consumed ≠ s.length ∨ 0xFFFF < value then none else some (UInt16.ofNat value)

/-! ## What is written is read back -/

/-- A digit has the value it stands for. -/
theorem nibble_hexChar : ∀ n < 16, nibble (hexChar n) = some n := by decide

/-- A digit is none of the characters `stoul` treats specially. -/
theorem not_special_of_isHexDigit {c : UInt8} (h : isHexDigit c = true) :
    isSpace c = false ∧ c ≠ 45 ∧ c ≠ 43 ∧ c ≠ 120 ∧ c ≠ 88 ∧ c ≠ 0 := by
  have hrange : (48 ≤ c.toNat ∧ c.toNat ≤ 57) ∨ (97 ≤ c.toNat ∧ c.toNat ≤ 102) ∨
      (65 ≤ c.toNat ∧ c.toNat ≤ 70) := by
    unfold isHexDigit nibble at h
    split_ifs at h with h₁ h₂ h₃
    · exact .inl ⟨UInt8.le_iff_toNat_le.mp h₁.1, UInt8.le_iff_toNat_le.mp h₁.2⟩
    · exact .inr (.inl ⟨UInt8.le_iff_toNat_le.mp h₂.1, UInt8.le_iff_toNat_le.mp h₂.2⟩)
    · exact .inr (.inr ⟨UInt8.le_iff_toNat_le.mp h₃.1, UInt8.le_iff_toNat_le.mp h₃.2⟩)
    · simp at h
  have hne : ∀ d : UInt8, d.toNat ≠ c.toNat → c ≠ d := fun d hd hcd => hd (hcd ▸ rfl)
  refine ⟨?_, hne _ ?_, hne _ ?_, hne _ ?_, hne _ ?_, hne _ ?_⟩
  · rw [isSpace, Bool.or_eq_false_iff, Bool.and_eq_false_iff]
    refine ⟨beq_eq_false_iff_ne.mpr (hne _ ?_), .inr (decide_eq_false ?_)⟩
    · show (32 : Nat) ≠ c.toNat
      omega
    · intro hle
      have h13 : c.toNat ≤ 13 := UInt8.le_iff_toNat_le.mp hle
      omega
  · show (45 : Nat) ≠ c.toNat
    omega
  · show (43 : Nat) ≠ c.toNat
    omega
  · show (120 : Nat) ≠ c.toNat
    omega
  · show (88 : Nat) ≠ c.toNat
    omega
  · show (0 : Nat) ≠ c.toNat
    omega

/-! Digits have no marker, no sign and no marker of `stoul`'s own. -/

/-- Digits have no marker. -/
theorem stripHexMarker_digits {s : Bytes} (hs : ∀ c ∈ s, isHexDigit c = true) :
    stripHexMarker s = s := by
  unfold stripHexMarker
  split
  next x rest =>
    obtain ⟨-, -, -, h120, h88, -⟩ := not_special_of_isHexDigit (hs x (by simp))
    rw [if_neg (by simp [h120, h88])]
  next => rfl

/-- Digits have no sign. -/
theorem stoulSign_hexDigit {c : UInt8} {s : Bytes} (hc : isHexDigit c = true) :
    stoulSign (c :: s) = (false, c :: s) := by
  obtain ⟨-, h45, h43, -⟩ := not_special_of_isHexDigit hc
  unfold stoulSign
  split
  next h => exact absurd (List.cons.inj h).1 h45
  next h => exact absurd (List.cons.inj h).1 h43
  next => rfl

/-- Digits have no marker for `strtoul` either. -/
theorem stoulMarker_digits {s : Bytes} (hs : ∀ c ∈ s, isHexDigit c = true) :
    stoulMarker s = s := by
  unfold stoulMarker
  split
  next x d rest =>
    -- the second character is a digit, so it is no `x`
    obtain ⟨-, -, -, h120, h88, -⟩ := not_special_of_isHexDigit (hs x (by simp))
    rw [if_neg (by simp [h120, h88])]
  next => rfl

/-- A string of digits is read whole. -/
theorem stoul16_of_digits {s : Bytes} (hne : s ≠ []) (hs : ∀ c ∈ s, isHexDigit c = true)
    (hlt : hexValue s < 2 ^ 64) : stoul16 s = some (hexValue s, s.length) := by
  cases s with
  | nil => exact absurd rfl hne
  | cons c s =>
    have hc := hs c (List.mem_cons_self ..)
    have hdrop : (c :: s).dropWhile isSpace = c :: s := by
      simp [(not_special_of_isHexDigit hc).1]
    have htake : (c :: s).takeWhile isHexDigit = c :: s := List.takeWhile_eq_self_iff.mpr hs
    unfold stoul16
    rw [hdrop, stoulSign_hexDigit hc]
    dsimp only
    rw [stoulMarker_digits hs, htake, if_neg hne, if_neg (by omega)]
    simp

/-- Digits of a number below 2¹⁶ are read as that number. -/
theorem parseHexU16_of_digits {s : Bytes} (hne : s ≠ []) (hs : ∀ c ∈ s, isHexDigit c = true)
    (hlt : hexValue s ≤ 0xFFFF) : parseHexU16 s = some (UInt16.ofNat (hexValue s)) := by
  unfold parseHexU16
  rw [stripHexMarker_digits hs]
  dsimp only
  rw [if_neg hne, stoul16_of_digits hne hs (by omega)]
  dsimp only
  rw [if_neg (by omega)]

/-- What is written as a digit is one. -/
theorem isHexDigit_hexChar {n : Nat} (hn : n < 16) : isHexDigit (hexChar n) = true := by
  rw [isHexDigit, nibble_hexChar n hn]
  rfl

/-- A DID is written in digits. -/
theorem isHexDigit_of_mem_toHexU16 {v : UInt16} {c : UInt8} (hc : c ∈ toHexU16 v) :
    isHexDigit c = true := by
  have hv := v.toNat_lt
  simp only [toHexU16, List.mem_cons, List.not_mem_nil, or_false] at hc
  rcases hc with rfl | rfl | rfl | rfl <;> exact isHexDigit_hexChar (by omega)

/-- Digits are ASCII. -/
theorem isHexDigit_ascii {c : UInt8} (h : isHexDigit c = true) : c ≤ 0x7F := by
  rw [isHexDigit, nibble] at h
  split_ifs at h with h₁ h₂ h₃
  · exact UInt8.le_trans h₁.2 (by decide)
  · exact UInt8.le_trans h₂.2 (by decide)
  · exact UInt8.le_trans h₃.2 (by decide)
  · cases h

/-- Hex texts are ASCII. -/
theorem toHex_ascii (bytes : Bytes) : ∀ c ∈ toHex bytes, c ≤ 0x7F := by
  intro c hc
  obtain ⟨b, -, hb⟩ := List.mem_flatMap.mp hc
  have hlt := b.toNat_lt
  simp only [List.mem_cons, List.not_mem_nil, or_false] at hb
  rcases hb with rfl | rfl
  · exact isHexDigit_ascii (isHexDigit_hexChar (by omega))
  · exact isHexDigit_ascii (isHexDigit_hexChar (by omega))

/-- The digits of a DID are worth it. -/
theorem hexValue_toHexU16 (v : UInt16) : hexValue (toHexU16 v) = v.toNat := by
  have hv := v.toNat_lt
  simp only [hexValue, toHexU16, List.foldl_cons, List.foldl_nil,
    nibble_hexChar _ (show v.toNat / 4096 < 16 by omega),
    nibble_hexChar _ (show v.toNat / 256 % 16 < 16 by omega),
    nibble_hexChar _ (show v.toNat / 16 % 16 < 16 by omega),
    nibble_hexChar _ (show v.toNat % 16 < 16 by omega), Option.getD_some]
  omega

/-- The DID text made for an item is read as that item's DID. -/
theorem parseHexU16_toHexU16 (v : UInt16) : parseHexU16 (toHexU16 v) = some v := by
  have hv := v.toNat_lt
  rw [parseHexU16_of_digits (by simp [toHexU16]) (fun c hc => isHexDigit_of_mem_toHexU16 hc)
    (by rw [hexValue_toHexU16]; omega), hexValue_toHexU16, UInt16.ofNat_toNat]

/-- The DID text made for an item goes through the C ABI unchanged. -/
theorem cStr_toHexU16 (v : UInt16) : cStr (toHexU16 v) = toHexU16 v := by
  rw [cStr_eq_self]
  intro h
  exact (not_special_of_isHexDigit (isHexDigit_of_mem_toHexU16 h)).2.2.2.2.2 rfl

end Sovd
