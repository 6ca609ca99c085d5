import Sovd.Json.FloatText

/-!
# Numbers that were typed (`std::stod`)

`stod` converts the longest part of a text that is a number, after white space, and takes
no notice of what follows it: a decimal or hexadecimal numeral, an infinity or a NaN. It
throws one exception if there is no such part and another if the library reports that the
number is out of range.

`DecimalText` is a decimal numeral, part by part. `stod_text` says what becomes of a text
that is one and nothing else, `stod_eq_invalidArgument` which texts have no number.

Mirroring notes vs the C++:
- The text is passed as a C string, and read in the C locale.
- A number that is too large is out of range. Whether one below the smallest normal double
  is, the C standard leaves to the library: that is the parameter `underflows`.
- The digits in brackets after `nan`, and what else is not looked at, are left out.
-/

namespace Sovd

/-- What `std::stod` returns or throws. -/
inductive Stod
  | value (x : Double)
  | invalidArgument
  | outOfRange
  deriving DecidableEq

/-- The value of the decimal numeral a text starts with. -/
def readDecimal (s : Bytes) : Rat :=
  let int := s.takeWhile isDigit
  let (frac, s) := readFraction (s.dropWhile isDigit)
  digitsValue (int ++ frac) * 10 ^ (readExponent s - frac.length)

/-- The exponent of two, after a hexadecimal significand. -/
def readBinaryExponent (s : Bytes) : Int :=
  match s with
  | [] => 0
  | p :: rest =>
    if p = 112 ∨ p = 80 then
      let (negative, digits) := stoulSign rest
      let k : Int := digitsValue (digits.takeWhile isDigit)
      if negative then -k else k
    else 0

/-- The value of the hexadecimal numeral a text starts with, after its marker. -/
def readHexadecimal (s : Bytes) : Rat :=
  let int := s.takeWhile isHexDigit
  let (frac, s) :=
    match s.dropWhile isHexDigit with
    | 46 :: rest => (rest.takeWhile isHexDigit, rest.dropWhile isHexDigit)
    | rest => ([], rest)
  hexValue (int ++ frac) * 2 ^ (readBinaryExponent s - 4 * frac.length)

/-- A digit, or a point and a digit. -/
def startsWithDigit (digit : UInt8 → Bool) (s : Bytes) : Bool :=
  match s with
  | 46 :: c :: _ => digit c
  | c :: _ => digit c
  | [] => false

/-- The text after `0x`, if a hexadecimal numeral follows. -/
def afterMarker (s : Bytes) : Option Bytes :=
  match s with
  | 48 :: x :: rest =>
    if (x = 120 ∨ x = 88) ∧ startsWithDigit isHexDigit rest = true then some rest else none
  | _ => none

/-- The text starts with these three letters, small or capital. -/
def startsWithLetters (letters s : Bytes) : Bool :=
  s.length ≥ 3 && (s.take 3).map (fun c => if 65 ≤ c ∧ c ≤ 90 then c + 32 else c) == letters

/-- The smallest normal double. -/
def minNormal : Rat := 2 ^ (-1022 : Int)

/-- The number is reported to be out of range. -/
def outOfRange (underflows : Rat → Bool) (q : Rat) : Bool :=
  match Double.nearest q with
  | .fin _ => decide (q ≠ 0) && decide (|q| < minNormal) && underflows q
  | _ => true

/-- A number with its sign. -/
def withSign (negative : Bool) (q : Rat) : Rat := if negative then -q else q

/-- What `stod` makes of a finite number. -/
def stodFinite (underflows : Rat → Bool) (q : Rat) : Stod :=
  if outOfRange underflows q then .outOfRange else .value (Double.nearest q)

/-- `std::stod`, on the text up to its first NUL. -/
def stod (underflows : Rat → Bool) (s : Bytes) : Stod :=
  let (negative, s) := stoulSign ((cStr s).dropWhile isSpace)
  match afterMarker s with
  | some digits => stodFinite underflows (withSign negative (readHexadecimal digits))
  | none =>
    if startsWithDigit isDigit s then
      stodFinite underflows (withSign negative (readDecimal s))
    else if startsWithLetters (str "inf") s then .value (.inf negative)
    else if startsWithLetters (str "nan") s then .value .nan
    else .invalidArgument

/-! ## Texts without a number -/

/-- After white space and a sign there is a number, or a word for one. -/
def StartsWithNumber (s : Bytes) : Prop :=
  let s := (stoulSign ((cStr s).dropWhile isSpace)).2
  startsWithDigit isDigit s = true ∨ startsWithLetters (str "inf") s = true ∨
    startsWithLetters (str "nan") s = true

instance (s : Bytes) : Decidable (StartsWithNumber s) :=
  inferInstanceAs (Decidable (_ ∨ _ ∨ _))

/-- A number is never an invalid argument. -/
theorem stodFinite_ne {underflows : Rat → Bool} {q : Rat} :
    stodFinite underflows q ≠ .invalidArgument := by
  unfold stodFinite
  split_ifs <;> simp

/-- A value comes of a number that is in range, and it is the nearest double. -/
theorem stodFinite_eq_value {underflows : Rat → Bool} {q : Rat} {x : Double} :
    stodFinite underflows q = .value x ↔
      outOfRange underflows q = false ∧ ∃ r, Double.nearest q = .fin r ∧ x = .fin r := by
  unfold stodFinite
  split_ifs with hrange
  · simp [hrange]
  · rw [Bool.not_eq_true] at hrange
    have hfin : ∃ r, Double.nearest q = .fin r := by
      unfold outOfRange at hrange
      split at hrange
      next r hr => exact ⟨r, hr⟩
      next => cases hrange
    obtain ⟨r, hr⟩ := hfin
    simp [hrange, hr, eq_comm]

/-- **The texts `stod` finds no number in.** -/
theorem stod_eq_invalidArgument {underflows : Rat → Bool} {s : Bytes} :
    stod underflows s = .invalidArgument ↔ ¬ StartsWithNumber s := by
  unfold stod StartsWithNumber
  rcases stoulSign ((cStr s).dropWhile isSpace) with ⟨negative, t⟩
  dsimp only
  split
  next digits hmarker =>
    have hdigit : startsWithDigit isDigit t = true := by
      unfold afterMarker at hmarker
      split at hmarker
      next => rfl
      next => cases hmarker
    simp [stodFinite_ne, hdigit]
  next =>
    split_ifs with hdigit hinf hnan
    · simp [stodFinite_ne, hdigit]
    · simp [hinf]
    · simp [hnan]
    · simp [hdigit, hinf, hnan]

/-! ## Decimal numerals -/

/-- A sign, if there is one: whether it is a minus. -/
def signText : Option Bool → Bytes
  | none => []
  | some true => [45]
  | some false => [43]

/-- A decimal number as it may be typed. -/
structure DecimalText where
  sign : Option Bool
  int : Bytes
  /-- What follows the point, if there is one. -/
  frac : Option Bytes
  /-- Whether the `e` is a capital, the sign and the digits. -/
  exponent : Option (Bool × Option Bool × Bytes)
  int_ok : ∀ c ∈ int, isDigit c = true
  frac_ok : ∀ c ∈ frac.getD [], isDigit c = true
  digits_ok : int ++ frac.getD [] ≠ []
  exponent_ok : ∀ e ∈ exponent, e.2.2 ≠ [] ∧ ∀ c ∈ e.2.2, isDigit c = true

namespace DecimalText

/-- The exponent with its letter and sign. -/
def exponentText (n : DecimalText) : Bytes :=
  match n.exponent with
  | none => []
  | some (capital, sign, digits) => (if capital then 69 else 101) :: (signText sign ++ digits)

/-- The fraction with its point. -/
def fracText (n : DecimalText) : Bytes :=
  match n.frac with
  | none => []
  | some digits => 46 :: digits

/-- The text of a number. -/
def text (n : DecimalText) : Bytes :=
  signText n.sign ++ (n.int ++ (n.fracText ++ n.exponentText))

/-- The exponent; without one it is 0. -/
def exponentValue (n : DecimalText) : Int :=
  match n.exponent with
  | none => 0
  | some (_, sign, digits) =>
    if sign = some true then -(digitsValue digits : Int) else digitsValue digits

/-- What it is worth without its sign. -/
def magnitude (n : DecimalText) : Rat :=
  digitsValue (n.int ++ n.frac.getD []) * 10 ^ (n.exponentValue - (n.frac.getD []).length)

/-- What it is worth. -/
def value (n : DecimalText) : Rat := withSign (n.sign == some true) n.magnitude

/-- The text after the sign. -/
def body (n : DecimalText) : Bytes := n.int ++ (n.fracText ++ n.exponentText)

/-! ### What the text is made of -/

/-- The letters of such a text. -/
def isNumberByte (c : UInt8) : Bool :=
  isDigit c || c == 43 || c == 45 || c == 46 || c == 69 || c == 101

/-- Digits are letters of a number. -/
theorem isNumberByte_of_isDigit {c : UInt8} (h : isDigit c = true) : isNumberByte c = true := by
  simp [isNumberByte, h]

theorem isNumberByte_signText (sign : Option Bool) :
    ∀ c ∈ signText sign, isNumberByte c = true := by
  match sign with
  | none => exact fun c hc => absurd hc List.not_mem_nil
  | some true => exact List.forall_mem_singleton.mpr rfl
  | some false => exact List.forall_mem_singleton.mpr rfl

/-- All that follows the sign are letters of a number. -/
theorem isNumberByte_body (n : DecimalText) : ∀ c ∈ n.body, isNumberByte c = true := by
  intro c hc
  unfold body fracText exponentText at hc
  rcases List.mem_append.mp hc with hc | hc
  · exact isNumberByte_of_isDigit (n.int_ok c hc)
  rcases List.mem_append.mp hc with hc | hc
  · have hfrac := n.frac_ok
    cases hf : n.frac with
    | none =>
      rw [hf] at hc
      cases hc
    | some ds =>
      rw [hf] at hc hfrac
      rcases List.mem_cons.mp hc with rfl | hc
      · rfl
      · exact isNumberByte_of_isDigit (hfrac c hc)
  · have hexponent := n.exponent_ok
    cases he : n.exponent with
    | none =>
      rw [he] at hc
      cases hc
    | some e =>
      obtain ⟨capital, sign, ds⟩ := e
      rw [he] at hc hexponent
      rcases List.mem_cons.mp hc with rfl | hc
      · cases capital <;> rfl
      · rcases List.mem_append.mp hc with hc | hc
        · exact isNumberByte_signText sign c hc
        · exact isNumberByte_of_isDigit ((hexponent _ rfl).2 c hc)

/-- The whole text is made of letters of a number. -/
theorem isNumberByte_text (n : DecimalText) : ∀ c ∈ n.text, isNumberByte c = true := by
  intro c hc
  rcases List.mem_append.mp hc with hc | hc
  · exact isNumberByte_signText n.sign c hc
  · exact n.isNumberByte_body c hc

/-- No NUL ends it, and no white space stands before it. -/
theorem dropWhile_text (n : DecimalText) : (cStr n.text).dropWhile isSpace = n.text := by
  have hzero : cStr n.text = n.text :=
    cStr_eq_self.mpr fun h => absurd (n.isNumberByte_text 0 h) (by decide)
  have hspace : ∀ c, isNumberByte c = true → isSpace c = false :=
    forall_byte (by decide +kernel)
  rw [hzero]
  cases htext : n.text with
  | nil => rfl
  | cons c s =>
    have hc := hspace c (n.isNumberByte_text c (by rw [htext]; exact List.mem_cons_self ..))
    rw [List.dropWhile_cons, hc, if_neg Bool.false_ne_true]

/-- A digit, or a point and a digit. -/
theorem startsWithDigit_body (n : DecimalText) : startsWithDigit isDigit n.body = true := by
  unfold body
  cases hint : n.int with
  | cons c s =>
    have hc := n.int_ok c (by rw [hint]; exact List.mem_cons_self ..)
    have hpoint : c ≠ 46 := isDigit_ne hc rfl
    rw [List.cons_append]
    unfold startsWithDigit
    split
    next h => exact absurd (List.cons.inj h).1 hpoint
    next h =>
      obtain ⟨rfl, -⟩ := List.cons.inj h
      exact hc
    next h => cases h
  | nil =>
    have hdigits := n.digits_ok
    have hfrac := n.frac_ok
    unfold fracText
    cases hf : n.frac with
    | none =>
      rw [hint, hf] at hdigits
      exact absurd rfl hdigits
    | some ds =>
      rw [hint, hf] at hdigits
      rw [hf] at hfrac
      cases ds with
      | nil => exact absurd rfl hdigits
      | cons d ds => exact hfrac d (List.mem_cons_self ..)

/-- The body has no marker of a hex number. -/
theorem afterMarker_body (n : DecimalText) : afterMarker n.body = none := by
  unfold afterMarker
  split
  next x rest h =>
    have hx := n.isNumberByte_body x (by rw [h]; simp)
    rw [if_neg]
    rintro ⟨rfl | rfl, -⟩
    · cases hx
    · cases hx
  next => rfl

/-- The sign of the text is read. -/
theorem stoulSign_text (n : DecimalText) : stoulSign n.text = (n.sign == some true, n.body) := by
  show stoulSign (signText n.sign ++ n.body) = _
  match n.sign with
  | some true => rfl
  | some false => rfl
  | none =>
    have hdigit := n.startsWithDigit_body
    rw [signText, List.nil_append]
    unfold stoulSign
    split
    next h =>
      rw [h] at hdigit
      cases hdigit
    next h =>
      rw [h] at hdigit
      cases hdigit
    next => rfl

/-! ### Its value -/

/-- The digits end where the exponent begins. -/
theorem exponentText_head (n : DecimalText) :
    ∀ c ∈ n.exponentText.head?, isDigit c = false ∧ c ≠ 46 := by
  intro c hc
  unfold exponentText at hc
  cases he : n.exponent with
  | none =>
    rw [he] at hc
    cases hc
  | some e =>
    obtain ⟨capital, sign, ds⟩ := e
    rw [he] at hc
    cases capital <;> cases hc <;> decide

theorem fracText_head (n : DecimalText) :
    ∀ c ∈ (n.fracText ++ n.exponentText).head?, isDigit c = false := by
  intro c hc
  unfold fracText at hc
  cases hf : n.frac with
  | none =>
    rw [hf] at hc
    exact (n.exponentText_head c hc).1
  | some ds =>
    rw [hf] at hc
    cases hc
    rfl

/-- The fraction of the text is read. -/
theorem readFraction_text (n : DecimalText) :
    readFraction (n.fracText ++ n.exponentText) = (n.frac.getD [], n.exponentText) := by
  have hfrac := n.frac_ok
  unfold fracText
  cases hf : n.frac with
  | none =>
    rw [List.nil_append]
    unfold readFraction
    split
    next rest h =>
      have hhead := (n.exponentText_head 46 (by rw [h]; rfl)).2
      exact absurd rfl hhead
    next => rfl
  | some ds =>
    rw [hf] at hfrac
    obtain ⟨htake, hdrop⟩ := span_digits hfrac fun c hc => (n.exponentText_head c hc).1
    show (List.takeWhile isDigit (ds ++ n.exponentText),
      List.dropWhile isDigit (ds ++ n.exponentText)) = _
    rw [Option.getD_some] at htake hdrop
    rw [htake, hdrop, Option.getD_some]

/-- Its exponent is read. -/
theorem readExponent_text (n : DecimalText) : readExponent n.exponentText = n.exponentValue := by
  have hexponent := n.exponent_ok
  unfold exponentText exponentValue
  cases he : n.exponent with
  | none => rfl
  | some e =>
    obtain ⟨capital, sign, ds⟩ := e
    rw [he] at hexponent
    obtain ⟨hne, hds⟩ := hexponent _ rfl
    have hsign : stoulSign (signText sign ++ ds) = (sign == some true, ds) := by
      match sign with
      | some true => rfl
      | some false => rfl
      | none =>
        cases ds with
        | nil => exact absurd rfl hne
        | cons d ds => exact stoulSign_digit (hds d (List.mem_cons_self ..)) ds
    have hall : ds.takeWhile isDigit = ds := List.takeWhile_eq_self_iff.mpr hds
    have hmark : (if capital = true then (69 : UInt8) else 101) = 101 ∨
        (if capital = true then (69 : UInt8) else 101) = 69 := by cases capital <;> simp
    dsimp only
    rw [readExponent, if_pos hmark, hsign]
    dsimp only
    rw [hall]
    simp

/-- The body is read as what it is worth. -/
theorem readDecimal_body (n : DecimalText) : readDecimal n.body = n.magnitude := by
  obtain ⟨htake, hdrop⟩ := span_digits n.int_ok n.fracText_head
  unfold readDecimal body
  dsimp only
  rw [htake, hdrop, readFraction_text]
  dsimp only
  rw [readExponent_text, magnitude]

/-- **What `stod` makes of a text that is a decimal number.** -/
theorem stod_text (n : DecimalText) (underflows : Rat → Bool) :
    stod underflows n.text = stodFinite underflows n.value := by
  unfold stod
  rw [n.dropWhile_text, n.stoulSign_text]
  dsimp only
  rw [n.afterMarker_body, if_pos n.startsWithDigit_body, n.readDecimal_body, value]

/-- Such a text begins with a number, being one. -/
theorem startsWithNumber_text (n : DecimalText) : StartsWithNumber n.text := by
  unfold StartsWithNumber
  rw [n.dropWhile_text, n.stoulSign_text]
  exact .inl n.startsWithDigit_body

end DecimalText

end Sovd
