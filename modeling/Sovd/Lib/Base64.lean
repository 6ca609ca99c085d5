import Mathlib.Data.List.Basic

/-!
# Base64

Three bytes are four digits of six bits. What is left over at the end, one byte or two,
is two digits or three, and in the standard form the group is filled up with `=`
(`encode`). The form for URLs has two other digits and is not filled up (`encodeUrl`).

`decode` reads standard text four characters at a time and takes `=` for a zero, so it
gives the bytes back with a zero for each `=` (`decode_encode`). `encode_eq` relates the
two forms.
-/

namespace Base64

/-- A digit of six bits in the standard alphabet. -/
def char (v : Nat) : UInt8 :=
  if v < 26 then UInt8.ofNat (65 + v)
  else if v < 52 then UInt8.ofNat (71 + v)
  else if v < 62 then UInt8.ofNat (v - 4)
  else if v = 62 then 43
  else 47

/-- The last two digits of the alphabet for URLs are others. -/
def toUrl (c : UInt8) : UInt8 := if c = 43 then 45 else if c = 47 then 95 else c

/-- The letter of base64 that stands for one of base64url. -/
def ofUrl (c : UInt8) : UInt8 := if c = 45 then 43 else if c = 95 then 47 else c

/-- The letter of a digit in base64url. -/
def urlChar (v : Nat) : UInt8 := toUrl (char v)

/-- What a character stands for; `=` is a zero. -/
def value (c : UInt8) : Option Nat :=
  if 65 ≤ c ∧ c ≤ 90 then some (c.toNat - 65)
  else if 97 ≤ c ∧ c ≤ 122 then some (c.toNat - 71)
  else if 48 ≤ c ∧ c ≤ 57 then some (c.toNat + 4)
  else if c = 43 then some 62
  else if c = 47 then some 63
  else if c = 61 then some 0
  else none

/-- The digits of a group: three bytes, or what is left over. -/
def digits : List UInt8 → List Nat
  | [] => []
  | [a] => [a.toNat / 4, a.toNat % 4 * 16]
  | [a, b] => [a.toNat / 4, a.toNat % 4 * 16 + b.toNat / 16, b.toNat % 16 * 4]
  | a :: b :: c :: rest =>
    [a.toNat / 4, a.toNat % 4 * 16 + b.toNat / 16, b.toNat % 16 * 4 + c.toNat / 64,
      c.toNat % 64] ++ digits rest

/-- How many bytes the last group is short of three. -/
def padding (n : Nat) : Nat := (3 - n % 3) % 3

/-- Base64, with its padding. -/
def encode (s : List UInt8) : List UInt8 :=
  (digits s).map char ++ List.replicate (padding s.length) 61

/-- Base64url, without padding. -/
def encodeUrl (s : List UInt8) : List UInt8 := (digits s).map urlChar

/-- Four characters are three bytes. -/
def decode : List UInt8 → Option (List UInt8)
  | [] => some []
  | w :: x :: y :: z :: rest =>
    match value w, value x, value y, value z with
    | some w, some x, some y, some z =>
      (decode rest).map fun out =>
        [UInt8.ofNat (w * 4 + x / 16), UInt8.ofNat (x % 16 * 16 + y / 4),
          UInt8.ofNat (y % 4 * 64 + z)] ++ out
    | _, _, _, _ => none
  | _ => none

/-! ## Digits and characters -/

/-- A letter has the value of its digit. -/
theorem value_char : ∀ v < 64, value (char v) = some v := by decide

/-- The two alphabets stand for the same digits. -/
theorem ofUrl_urlChar : ∀ v < 64, ofUrl (urlChar v) = char v := by decide

/-- No digit is padding. -/
theorem char_ne : ∀ v < 64, char v ≠ 61 := by decide

/-- Neither a dot nor what fills up. -/
theorem urlChar_ne : ∀ v < 64, urlChar v ≠ 46 ∧ urlChar v ≠ 61 := by decide

/-- Digits are below 64. -/
theorem digits_lt (s : List UInt8) : ∀ v ∈ digits s, v < 64 := by
  fun_induction digits s with
  | case1 => simp
  | case2 a =>
    have ha := a.toNat_lt
    simp only [List.mem_cons, List.not_mem_nil, or_false]
    omega
  | case3 a b =>
    have ha := a.toNat_lt
    have hb := b.toNat_lt
    simp only [List.mem_cons, List.not_mem_nil, or_false]
    omega
  | case4 a b c rest ih =>
    have ha := a.toNat_lt
    have hb := b.toNat_lt
    have hc := c.toNat_lt
    simp only [List.mem_append, List.mem_cons, List.not_mem_nil, or_false]
    rintro v (hv | hv)
    · omega
    · exact ih v hv

/-- Digits and padding make groups of four. -/
theorem digits_length (s : List UInt8) :
    (digits s).length + padding s.length = (s.length + 2) / 3 * 4 := by
  fun_induction digits s with
  | case1 => simp [padding]
  | case2 => simp [padding]
  | case3 => simp [padding]
  | case4 a b c rest ih =>
    simp only [List.length_append, List.length_cons, List.length_nil, padding] at ih ⊢
    omega

/-- The text is filled up to a multiple of four. -/
theorem fill_length (s : List UInt8) :
    (4 - (digits s).length % 4) % 4 = padding s.length := by
  have hlength := digits_length s
  have hlt : padding s.length < 3 := Nat.mod_lt _ (by decide)
  omega

/-- Only nothing has no digits. -/
theorem digits_eq_nil {s : List UInt8} (h : digits s = []) : s = [] := by
  fun_cases digits s with
  | case1 => rfl
  | case2 => simp [digits] at h
  | case3 => simp [digits] at h
  | case4 => simp [digits] at h

/-! ## The two forms -/

/-- Base64url has neither dots nor padding in it. -/
theorem encodeUrl_mem {s : List UInt8} {c : UInt8} (h : c ∈ encodeUrl s) : c ≠ 46 ∧ c ≠ 61 := by
  obtain ⟨v, hv, rfl⟩ := List.mem_map.mp h
  exact urlChar_ne v (digits_lt s v hv)

/-- The standard form is the other one, translated and filled up. -/
theorem encode_eq (s : List UInt8) :
    encode s = (encodeUrl s).map ofUrl ++
      List.replicate ((4 - (encodeUrl s).length % 4) % 4) 61 := by
  rw [encode, encodeUrl, List.map_map, List.length_map, fill_length]
  congr 1
  exact List.map_congr_left fun v hv => (ofUrl_urlChar v (digits_lt s v hv)).symm

/-- Base64url is base64 with the letters changed and the padding gone. -/
theorem map_toUrl_encode (s : List UInt8) :
    (encode s).map toUrl = encodeUrl s ++ List.replicate (padding s.length) 61 := by
  rw [encode, List.map_append, List.map_map, List.map_replicate]
  rfl

/-- What fills up is all there is after the last digit. -/
theorem takeWhile_reverse_encode (s : List UInt8) :
    (encode s).reverse.takeWhile (· == 61) = List.replicate (padding s.length) 61 := by
  have hdigit : ∀ c ∈ ((digits s).map char).reverse.head?, ¬ (c == 61) = true := by
    intro c hc
    have hmem : c ∈ (digits s).map char := List.mem_reverse.mp (List.mem_of_mem_head? hc)
    obtain ⟨v, hv, rfl⟩ := List.mem_map.mp hmem
    simpa using char_ne v (digits_lt s v hv)
  rw [encode, List.reverse_append, List.reverse_replicate,
    List.takeWhile_append_of_pos (by simp)]
  cases hrev : ((digits s).map char).reverse with
  | nil => simp
  | cons c cs =>
    rw [hrev] at hdigit
    rw [List.takeWhile_cons, if_neg (hdigit c rfl), List.append_nil]

/-- Without it there is only the text for URLs. -/
theorem dropWhile_reverse_toUrl (s : List UInt8) :
    (((encode s).map toUrl).reverse.dropWhile (· == 61)).reverse = encodeUrl s := by
  have hdigit : ∀ c ∈ (encodeUrl s).reverse.head?, ¬ (c == 61) = true := by
    intro c hc
    simpa using (encodeUrl_mem (List.mem_reverse.mp (List.mem_of_mem_head? hc))).2
  rw [map_toUrl_encode, List.reverse_append, List.reverse_replicate,
    List.dropWhile_append_of_pos (by simp)]
  cases hrev : (encodeUrl s).reverse with
  | nil => rw [List.dropWhile_nil, ← hrev, List.reverse_reverse]
  | cons c cs =>
    rw [hrev] at hdigit
    rw [List.dropWhile_cons, if_neg (hdigit c rfl), ← hrev, List.reverse_reverse]

/-! ## Reading it back -/

/-- Four digits are three bytes. -/
theorem decode_group {w x y z : Nat} (hw : w < 64) (hx : x < 64) (hy : y < 64) (hz : z < 64)
    (rest : List UInt8) :
    decode (char w :: char x :: char y :: char z :: rest) = (decode rest).map fun out =>
      [UInt8.ofNat (w * 4 + x / 16), UInt8.ofNat (x % 16 * 16 + y / 4),
        UInt8.ofNat (y % 4 * 64 + z)] ++ out := by
  rw [decode, value_char w hw, value_char x hx, value_char y hy, value_char z hz]

/-- A number that is a byte is that byte. -/
theorem ofNat_eq {n : Nat} {a : UInt8} (h : n = a.toNat) : UInt8.ofNat n = a := by
  rw [h, UInt8.ofNat_toNat]

/-- `=` reads as the zero that `char` writes as `A`. -/
theorem value_fill : value 61 = some 0 := rfl

/-- What was encoded is decoded, with a NUL for each padding. -/
theorem decode_encode (s : List UInt8) :
    decode (encode s) = some (s ++ List.replicate (padding s.length) 0) := by
  fun_induction digits s with
  | case1 => rfl
  -- two letters for the last byte, then two paddings
  | case2 a =>
    have ha := a.toNat_lt
    show decode [char (a.toNat / 4), char (a.toNat % 4 * 16), 61, 61] = some [a, 0, 0]
    rw [decode, value_char _ (by omega), value_char _ (by omega), value_fill]
    have h₁ : UInt8.ofNat (a.toNat / 4 * 4 + a.toNat % 4 * 16 / 16) = a := ofNat_eq (by omega)
    have h₂ : a.toNat % 4 * 16 % 16 * 16 + 0 / 4 = 0 := by omega
    dsimp only
    rw [h₁, h₂]
    rfl
  -- three letters for the last two bytes
  | case3 a b =>
    have ha := a.toNat_lt
    have hb := b.toNat_lt
    show decode [char (a.toNat / 4), char (a.toNat % 4 * 16 + b.toNat / 16),
      char (b.toNat % 16 * 4), 61] = some [a, b, 0]
    rw [decode, value_char _ (by omega), value_char _ (by omega), value_char _ (by omega),
      value_fill]
    have h₁ : UInt8.ofNat (a.toNat / 4 * 4 + (a.toNat % 4 * 16 + b.toNat / 16) / 16) = a :=
      ofNat_eq (by omega)
    have h₂ : UInt8.ofNat ((a.toNat % 4 * 16 + b.toNat / 16) % 16 * 16 + b.toNat % 16 * 4 / 4) =
        b := ofNat_eq (by omega)
    have h₃ : b.toNat % 16 * 4 % 4 * 64 + 0 = 0 := by omega
    dsimp only
    rw [h₁, h₂, h₃]
    rfl
  -- a whole group, which decides nothing about the padding
  | case4 a b c rest ih =>
    have ha := a.toNat_lt
    have hb := b.toNat_lt
    have hc := c.toNat_lt
    have hpad : padding (a :: b :: c :: rest).length = padding rest.length := by
      simp only [padding, List.length_cons]
      omega
    rw [encode, digits, hpad]
    show decode (char _ :: char _ :: char _ :: char _ :: encode rest) = _
    have h₁ : UInt8.ofNat (a.toNat / 4 * 4 + (a.toNat % 4 * 16 + b.toNat / 16) / 16) = a :=
      ofNat_eq (by omega)
    have h₂ : UInt8.ofNat ((a.toNat % 4 * 16 + b.toNat / 16) % 16 * 16 +
        (b.toNat % 16 * 4 + c.toNat / 64) / 4) = b := ofNat_eq (by omega)
    have h₃ : UInt8.ofNat ((b.toNat % 16 * 4 + c.toNat / 64) % 4 * 64 + c.toNat % 64) = c :=
      ofNat_eq (by omega)
    rw [decode_group (by omega) (by omega) (by omega) (by omega), ih, h₁, h₂, h₃]
    rfl

end Base64
