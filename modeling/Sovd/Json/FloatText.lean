import Sovd.Double
import Sovd.HexText
import Mathlib.Data.Int.Log
import Mathlib.Data.Nat.Prime.Basic

/-!
# Numbers as text

A number is written as RFC 8259 has it: a sign, an integer part, perhaps decimals,
perhaps an exponent. `Numeral` is such a text with its parts told apart.

`to_chars` chooses the digits of a double and formats them; `strtod` is the double
nearest to what a numeral says. `strtod_toChars`: a double that was written is read back,
as long as the digits chosen are good enough to tell it from its neighbours
(`Grisu2Correct`, which is what the library promises of its digit generation).

Mirroring notes vs the C++:
- The digit generation (`grisu2`) is a parameter: what it leaves in the buffer for a
  positive double, and the decimal exponent.
- `append_exponent` writes one, two or three digits by hand; these are the numeral's.
- `strtod` is the C library's on the texts the lexer gives it; it rounds to nearest,
  ties to even, and what is too large is infinite.
- The sign of a zero is not kept, as `Double` has none.
-/

namespace Sovd

/-! ## Binary64 -/

namespace Double

/-- The nearest integer, ties to even. -/
def roundEven (q : Rat) : Int :=
  let below := ⌊q⌋
  let frac := q - below
  if 1 / 2 < frac ∨ (frac = 1 / 2 ∧ below % 2 = 1) then below + 1 else below

/-- One unit in the last place of a double of this size. -/
def ulp (q : Rat) : Rat := 2 ^ max (Int.log 2 |q| - 52) (-1074)

/-- The nearest double, ties to even. -/
def nearest (q : Rat) : Double :=
  if q = 0 then .fin 0
  else
    let magnitude := roundEven (|q| / ulp q) * ulp q
    if 2 ^ 1024 ≤ magnitude then .inf (decide (q < 0))
    else .fin (if q < 0 then -magnitude else magnitude)

/-- The values of finite doubles. -/
def IsBinary64 (q : Rat) : Prop :=
  ∃ m e : Int, |m| < 2 ^ 53 ∧ -1074 ≤ e ∧ e ≤ 971 ∧ q = m * 2 ^ e

/-- An integer is rounded to itself. -/
theorem roundEven_intCast (i : Int) : roundEven (i : Rat) = i := by
  unfold roundEven
  rw [Int.floor_intCast]
  dsimp only
  rw [sub_self, if_neg (by norm_num)]

/-- The sign of a double does not matter. -/
theorem isBinary64_neg {q : Rat} (h : IsBinary64 q) : IsBinary64 (-q) := by
  obtain ⟨m, e, hm, hlo, hhi, rfl⟩ := h
  refine ⟨-m, e, by rwa [abs_neg], hlo, hhi, ?_⟩
  rw [Int.cast_neg, neg_mul]

/-- Nor does taking it away. -/
theorem isBinary64_abs {q : Rat} (h : IsBinary64 q) : IsBinary64 |q| := by
  rcases abs_choice q with hq | hq
  · rwa [hq]
  · rw [hq]
    exact isBinary64_neg h

/-- Rounding to nearest is odd. -/
theorem nearest_neg {q r : Rat} (hq : 0 < q) (h : nearest q = .fin r) :
    nearest (-q) = .fin (-r) := by
  have hlt : ¬ q < 0 := not_lt.mpr hq.le
  have hulp : ulp (-q) = ulp q := by rw [ulp, ulp, abs_neg]
  unfold nearest at h ⊢
  rw [if_neg hq.ne'] at h
  rw [if_neg (neg_ne_zero.mpr hq.ne'), abs_neg, hulp]
  dsimp only at h ⊢
  split at h
  next => cases h
  next hsmall =>
    rw [if_neg hsmall, if_pos (neg_lt_zero.mpr hq), Double.fin.inj h]

/-- A double is a whole number of units in the last place of its size. -/
theorem div_ulp {m e : Int} (hm : |m| < 2 ^ 53) (hlo : -1074 ≤ e) (hne : (m : Rat) * 2 ^ e ≠ 0) :
    ∃ i : Int, |(m : Rat) * 2 ^ e| / ulp (m * 2 ^ e) = i := by
  have hle : max (Int.log 2 |(m : Rat) * 2 ^ e| - 52) (-1074) ≤ e := by
    apply max_le _ hlo
    have hpow : (2 : Rat) ^ Int.log 2 |(m : Rat) * 2 ^ e| ≤ |(m : Rat) * 2 ^ e| := by
      exact_mod_cast Int.zpow_log_le_self (by norm_num) (abs_pos.mpr hne)
    have hlt : |(m : Rat) * 2 ^ e| < 2 ^ (53 + e) := by
      have hm' : |(m : Rat)| < 2 ^ (53 : Int) := by exact_mod_cast hm
      rw [abs_mul, zpow_add₀ (by norm_num), abs_of_pos (zpow_pos (by norm_num : (0 : Rat) < 2) e)]
      exact mul_lt_mul_of_pos_right hm' (zpow_pos (by norm_num) e)
    have hlog := (zpow_lt_zpow_iff_right₀ (by norm_num : (1 : Rat) < 2)).mp (hpow.trans_lt hlt)
    omega
  obtain ⟨k, hk⟩ := Int.eq_ofNat_of_zero_le (sub_nonneg.mpr hle)
  refine ⟨|m| * 2 ^ k, ?_⟩
  have hsplit : (2 : Rat) ^ e = 2 ^ k * ulp (m * 2 ^ e) := by
    rw [ulp, ← zpow_natCast, ← zpow_add₀ (by norm_num)]
    congr 1
    omega
  have hpos : 0 < ulp ((m : Rat) * 2 ^ e) := zpow_pos (by norm_num) _
  rw [div_eq_iff hpos.ne', abs_mul, abs_of_pos (zpow_pos (by norm_num : (0 : Rat) < 2) e)]
  conv_lhs => rw [hsplit]
  push_cast
  ring

/-- The double nearest to a double is that double. -/
theorem nearest_of_isBinary64 {q : Rat} (h : IsBinary64 q) : nearest q = .fin q := by
  obtain ⟨m, e, hm, hlo, hhi, rfl⟩ := h
  unfold nearest
  split
  next hzero => rw [hzero]
  next hne =>
    obtain ⟨i, hi⟩ := div_ulp hm hlo hne
    have hpos : 0 < ulp ((m : Rat) * 2 ^ e) := zpow_pos (by norm_num) _
    have hmag : (roundEven (|(m : Rat) * 2 ^ e| / ulp (m * 2 ^ e)) : Rat) * ulp (m * 2 ^ e) =
        |(m : Rat) * 2 ^ e| := by
      rw [hi, roundEven_intCast, ← hi, div_mul_cancel₀ _ hpos.ne']
    have hlt : |(m : Rat) * 2 ^ e| < 2 ^ 1024 := by
      have hm' : |(m : Rat)| < 2 ^ (53 : Int) := by exact_mod_cast hm
      have he : (2 : Rat) ^ e ≤ 2 ^ (971 : Int) := zpow_le_zpow_right₀ (by norm_num) hhi
      calc |(m : Rat) * 2 ^ e| = |(m : Rat)| * 2 ^ e := by
            rw [abs_mul, abs_of_pos (zpow_pos (by norm_num : (0 : Rat) < 2) e)]
        _ < 2 ^ (53 : Int) * 2 ^ e := mul_lt_mul_of_pos_right hm' (zpow_pos (by norm_num) e)
        _ ≤ 2 ^ (53 : Int) * 2 ^ (971 : Int) := by gcongr
        _ = 2 ^ 1024 := by rw [← zpow_add₀ (by norm_num), ← zpow_natCast]; norm_num
    dsimp only
    rw [hmag, if_neg (not_le.mpr hlt)]
    split
    next hneg => rw [abs_of_neg hneg, neg_neg]
    next hnneg => rw [abs_of_nonneg (not_lt.mp hnneg)]

end Double

/-! ## Reading digits -/

/-- Digits in front count by the place of those behind. -/
theorem digitsValue_append (s t : Bytes) :
    digitsValue (s ++ t) = digitsValue s * 10 ^ t.length + digitsValue t := by
  have hfold : ∀ (ds : Bytes) (v : Nat), ds.foldl (fun v c => v * 10 + (c.toNat - 48)) v =
      v * 10 ^ ds.length + digitsValue ds := by
    intro ds
    induction ds with
    | nil => simp [digitsValue]
    | cons c ds ih =>
      intro v
      rw [digitsValue, List.foldl_cons, List.foldl_cons, ih, ih (0 * 10 + _), List.length_cons]
      ring
  rw [digitsValue, List.foldl_append, hfold]
  rfl

/-- Zeros are worth nothing. -/
theorem digitsValue_zeros (n : Nat) : digitsValue (List.replicate n 48) = 0 := by
  induction n with
  | zero => rfl
  | succ n ih =>
    rw [List.replicate_succ', digitsValue_append, ih]
    rfl

/-- The decimal text of a number is worth that number. -/
theorem digitsValue_decimal (n : Nat) : digitsValue (decimal n) = n := by
  have hdigits : ∀ ds : List Nat, (∀ d ∈ ds, d < 10) →
      digitsValue (ds.reverse.map fun d => UInt8.ofNat (48 + d)) = Nat.ofDigits 10 ds := by
    intro ds
    induction ds with
    | nil => intro _; rfl
    | cons d ds ih =>
      intro hlt
      have hd := hlt d (List.mem_cons_self ..)
      have hbyte : digitsValue [UInt8.ofNat (48 + d)] = d := by
        show 0 * 10 + ((48 + d) % 256 - 48) = d
        omega
      rw [List.reverse_cons, List.map_append, digitsValue_append,
        ih fun x hx => hlt x (List.mem_cons_of_mem _ hx), Nat.ofDigits_cons, List.map_singleton,
        hbyte, List.length_singleton]
      ring
  unfold decimal
  split
  next hzero => rw [hzero]; rfl
  next =>
    rw [hdigits _ fun d hd => Nat.digits_lt_base (by norm_num) hd, Nat.ofDigits_digits]

theorem isDigit_decimal (n : Nat) : ∀ c ∈ decimal n, isDigit c = true := by
  intro c hc
  obtain ⟨hlo, hhi⟩ := decimal_digit n c hc
  rw [isDigit, Bool.and_eq_true, decide_eq_true_eq, decide_eq_true_eq]
  exact ⟨hlo, hhi⟩

theorem decimal_ne_nil (n : Nat) : decimal n ≠ [] := by
  unfold decimal
  split_ifs with hn
  · exact List.cons_ne_nil 48 []
  · rw [Ne, List.map_eq_nil_iff, List.reverse_eq_nil_iff]
    exact Nat.digits_ne_nil_iff_ne_zero.mpr hn

/-- A run of digits is read up to the first byte that is none. -/
theorem span_digits {ds t : Bytes} (hds : ∀ c ∈ ds, isDigit c = true)
    (ht : ∀ c ∈ t.head?, isDigit c = false) :
    (ds ++ t).takeWhile isDigit = ds ∧ (ds ++ t).dropWhile isDigit = t := by
  rw [List.takeWhile_append_of_pos hds, List.dropWhile_append_of_pos hds]
  cases t with
  | nil => simp
  | cons c t => simp [ht c (by simp)]

/-! ## Numerals -/

/-- At least two digits. -/
def exponentDigits (k : Nat) : Bytes := if k < 10 then 48 :: decimal k else decimal k

/-- `append_exponent`: a sign and at least two digits. -/
def appendExponent (e : Int) : Bytes := (if e < 0 then 45 else 43) :: exponentDigits e.natAbs

/-- Digits that do not start with a zero. -/
structure Leading (ds : Bytes) : Prop where
  digits : ∀ c ∈ ds, isDigit c = true
  head : ∃ c, ds.head? = some c ∧ c ≠ 48

/-- A number as it is written, part by part. -/
structure Numeral where
  negative : Bool
  int : Bytes
  frac : Bytes
  exponent : Option Int
  int_ok : int = [48] ∨ Leading int
  frac_ok : ∀ c ∈ frac, isDigit c = true

namespace Numeral

/-- The exponent with its `e`. -/
def exponentText (n : Numeral) : Bytes :=
  match n.exponent with
  | none => []
  | some e => 101 :: appendExponent e

/-- The fraction with its point. -/
def fracText (n : Numeral) : Bytes := if n.frac = [] then [] else 46 :: n.frac

/-- The text of a numeral. -/
def text (n : Numeral) : Bytes :=
  (if n.negative then [45] else []) ++ (n.int ++ (n.fracText ++ n.exponentText))

/-- What it is worth without its sign. -/
def magnitude (n : Numeral) : Rat :=
  digitsValue (n.int ++ n.frac) * 10 ^ (n.exponent.getD 0 - n.frac.length)

/-- What it is worth. -/
def value (n : Numeral) : Rat := if n.negative then -n.magnitude else n.magnitude

/-- The lexer takes it for a floating-point number. -/
def IsFloat (n : Numeral) : Prop := n.frac ≠ [] ∨ n.exponent.isSome

/-- The digits in front of the point are digits. -/
theorem int_digits (n : Numeral) : ∀ c ∈ n.int, isDigit c = true := by
  rcases n.int_ok with h | h
  · rw [h]
    exact List.forall_mem_singleton.mpr rfl
  · exact h.digits

/-- There is a digit in front of the point. -/
theorem int_head (n : Numeral) : ∃ c s, n.int = c :: s := by
  rcases n.int_ok with h | h
  · exact ⟨48, [], h⟩
  · obtain ⟨c, hc, -⟩ := h.head
    obtain ⟨s, hs⟩ := List.head?_eq_some_iff.mp hc
    exact ⟨c, s, hs⟩

end Numeral

/-! ## `strtod` -/

/-- The digits behind a point. -/
def readFraction (s : Bytes) : Bytes × Bytes :=
  match s with
  | 46 :: rest => (rest.takeWhile isDigit, rest.dropWhile isDigit)
  | _ => ([], s)

/-- The exponent; without one it is 0. -/
def readExponent (s : Bytes) : Int :=
  match s with
  | [] => 0
  | e :: rest =>
    if e = 101 ∨ e = 69 then
      let (negative, digits) := stoulSign rest
      let k : Int := digitsValue (digits.takeWhile isDigit)
      if negative then -k else k
    else 0

/-- `strtod` on the text of a JSON number: the nearest double. -/
def strtod (s : Bytes) : Double :=
  let (negative, s) := stoulSign s
  let int := s.takeWhile isDigit
  let (frac, s) := readFraction (s.dropWhile isDigit)
  let magnitude : Rat := digitsValue (int ++ frac) * 10 ^ (readExponent s - frac.length)
  Double.nearest (if negative then -magnitude else magnitude)

/-- A digit is no other letter. -/
theorem isDigit_ne {c d : UInt8} (hc : isDigit c = true) (hd : isDigit d = false) : c ≠ d := by
  rintro rfl
  rw [hc] at hd
  cases hd

/-- A digit is no sign. -/
theorem stoulSign_digit {c : UInt8} (hc : isDigit c = true) (s : Bytes) :
    stoulSign (c :: s) = (false, c :: s) := by
  unfold stoulSign
  split
  next h => exact absurd (List.cons.inj h).1 (isDigit_ne hc (by decide))
  next h => exact absurd (List.cons.inj h).1 (isDigit_ne hc (by decide))
  next => rfl

/-- The digits of an exponent are digits. -/
theorem isDigit_exponentDigits (k : Nat) : ∀ c ∈ exponentDigits k, isDigit c = true := by
  intro c hc
  unfold exponentDigits at hc
  split at hc
  next =>
    rcases List.mem_cons.mp hc with rfl | hc
    · rfl
    · exact isDigit_decimal k c hc
  next => exact isDigit_decimal k c hc

/-- The digits of an exponent are worth it. -/
theorem digitsValue_exponentDigits (k : Nat) : digitsValue (exponentDigits k) = k := by
  unfold exponentDigits
  split
  next => exact digitsValue_decimal k
  next => exact digitsValue_decimal k

/-- An exponent that was written is read back. -/
theorem readExponent_append (e : Int) : readExponent (101 :: appendExponent e) = e := by
  have hdigits : (exponentDigits e.natAbs).takeWhile isDigit = exponentDigits e.natAbs :=
    List.takeWhile_eq_self_iff.mpr (isDigit_exponentDigits _)
  unfold appendExponent
  by_cases hneg : e < 0
  · rw [if_pos hneg]
    show -((digitsValue ((exponentDigits e.natAbs).takeWhile isDigit) : Nat) : Int) = e
    rw [hdigits, digitsValue_exponentDigits]
    omega
  · rw [if_neg hneg]
    show ((digitsValue ((exponentDigits e.natAbs).takeWhile isDigit) : Nat) : Int) = e
    rw [hdigits, digitsValue_exponentDigits]
    omega

namespace Numeral

/-- The exponent of a numeral is read back. -/
theorem readExponent_text (n : Numeral) : readExponent n.exponentText = n.exponent.getD 0 := by
  unfold exponentText
  cases n.exponent with
  | none => rfl
  | some e => exact readExponent_append e

/-- What follows the digits of a numeral is no digit. -/
theorem exponentText_head (n : Numeral) : ∀ c ∈ n.exponentText.head?, isDigit c = false := by
  intro c hc
  unfold exponentText at hc
  cases he : n.exponent with
  | none =>
    rw [he] at hc
    cases hc
  | some e =>
    rw [he] at hc
    cases hc
    rfl

/-- The fraction of a numeral is read back. -/
theorem readFraction_text (n : Numeral) :
    readFraction (n.fracText ++ n.exponentText) = (n.frac, n.exponentText) := by
  unfold fracText
  split
  next hnil =>
    rw [List.nil_append, hnil]
    unfold readFraction exponentText
    cases n.exponent with
    | none => rfl
    | some e => rfl
  next =>
    obtain ⟨htake, hdrop⟩ := span_digits n.frac_ok n.exponentText_head
    show (List.takeWhile isDigit (n.frac ++ n.exponentText),
      List.dropWhile isDigit (n.frac ++ n.exponentText)) = _
    rw [htake, hdrop]

/-- The digits in front of the point end where they end. -/
theorem tail_head (n : Numeral) :
    ∀ c ∈ (n.fracText ++ n.exponentText).head?, isDigit c = false := by
  intro c hc
  unfold fracText at hc
  split at hc
  next => exact n.exponentText_head c hc
  next =>
    cases hc
    rfl

/-- `strtod` reads a numeral as the double nearest to its value. -/
theorem strtod_text (n : Numeral) : strtod n.text = Double.nearest n.value := by
  have hsign : stoulSign n.text =
      (n.negative, n.int ++ (n.fracText ++ n.exponentText)) := by
    obtain ⟨c, s, hint⟩ := n.int_head
    have hc : isDigit c = true := n.int_digits c (by rw [hint]; exact List.mem_cons_self ..)
    unfold text
    cases n.negative with
    | true => rfl
    | false =>
      rw [hint]
      exact stoulSign_digit hc _
  obtain ⟨htake, hdrop⟩ := span_digits n.int_digits n.tail_head
  unfold strtod
  rw [hsign]
  dsimp only
  rw [htake, hdrop, readFraction_text]
  dsimp only
  rw [readExponent_text, value, magnitude]

end Numeral

/-! ## `to_chars` -/

/-- `format_buffer`: with a point in it, zeros around it, or an exponent. -/
def formatBuffer (buf : Bytes) (decimalExponent minExp maxExp : Int) : Bytes :=
  let k : Int := buf.length
  let n := k + decimalExponent
  if k ≤ n ∧ n ≤ maxExp then buf ++ List.replicate (n - k).toNat 48 ++ str ".0"
  else if 0 < n ∧ n ≤ maxExp then buf.take n.toNat ++ 46 :: buf.drop n.toNat
  else if minExp < n ∧ n ≤ 0 then str "0." ++ (List.replicate (-n).toNat 48 ++ buf)
  else (if k = 1 then buf else buf.take 1 ++ 46 :: buf.drop 1) ++ 101 :: appendExponent (n - 1)

/-- `to_chars`, with the digits that Grisu2 finds. -/
def toChars (grisu2 : Rat → Bytes × Int) (q : Rat) : Bytes :=
  let sign := if q < 0 then [45] else []
  if q = 0 then sign ++ str "0.0"
  else
    let (buf, decimalExponent) := grisu2 |q|
    sign ++ formatBuffer buf decimalExponent (-4) 15

/-- The digits tell a double from its neighbours. -/
structure Grisu2Correct (grisu2 : Rat → Bytes × Int) : Prop where
  leading : ∀ q, 0 < q → Double.IsBinary64 q → Leading (grisu2 q).1
  nearest : ∀ q, 0 < q → Double.IsBinary64 q →
    Double.nearest (digitsValue (grisu2 q).1 * 10 ^ (grisu2 q).2) = .fin q

/-- Digits behind leading ones lead as well. -/
theorem Leading.append {ds t : Bytes} (hds : Leading ds) (ht : ∀ c ∈ t, isDigit c = true) :
    Leading (ds ++ t) where
  digits c hc := (List.mem_append.mp hc).elim (hds.digits c) (ht c)
  head := by
    obtain ⟨c, hc, hne⟩ := hds.head
    exact ⟨c, by rw [List.head?_append, hc]; rfl, hne⟩

/-- A front of leading digits leads as well. -/
theorem Leading.take {ds : Bytes} (hds : Leading ds) {i : Nat} (hi : i ≠ 0) :
    Leading (ds.take i) where
  digits c hc := hds.digits c (List.mem_of_mem_take hc)
  head := by
    obtain ⟨c, hc, hne⟩ := hds.head
    exact ⟨c, by rw [List.head?_take, if_neg hi, hc], hne⟩

theorem isDigit_zeros (n : Nat) : ∀ c ∈ List.replicate n (48 : UInt8), isDigit c = true := by
  intro c hc
  rw [List.eq_of_mem_replicate hc]
  rfl

/-- Digits that are formatted are a number with a point or an exponent. -/
theorem exists_formatBuffer {buf : Bytes} (hbuf : Leading buf) (e : Int) :
    ∃ n : Numeral, n.negative = false ∧ n.text = formatBuffer buf e (-4) 15 ∧
      n.magnitude = digitsValue buf * 10 ^ e ∧ n.IsFloat := by
  have hdigits := hbuf.digits
  have hpos : 0 < buf.length := by
    obtain ⟨c, hc, -⟩ := hbuf.head
    obtain ⟨ds, rfl⟩ := List.head?_eq_some_iff.mp hc
    exact Nat.succ_pos _
  unfold formatBuffer
  dsimp only
  -- five layouts, each of them a numeral worth the digits at their exponent
  split_ifs with hwhole hinside hsmall hone
  · -- digits[000].0
    obtain ⟨z, rfl⟩ := Int.eq_ofNat_of_zero_le (show 0 ≤ e by omega)
    refine ⟨⟨false, buf ++ List.replicate z 48, [48], none, .inr (hbuf.append (isDigit_zeros z)),
      isDigit_zeros 1⟩, rfl, ?_, ?_, .inl (List.cons_ne_nil 48 [])⟩
    · rw [show ((buf.length : Int) + z - buf.length).toNat = z by omega]
      show [] ++ (buf ++ List.replicate z 48 ++ (46 :: [48] ++ [])) = _
      rfl
    · rw [Numeral.magnitude, digitsValue_append, digitsValue_append, digitsValue_zeros]
      show ((_ : Nat) : Rat) * 10 ^ ((0 : Int) - (1 : Nat)) = _
      rw [List.length_replicate, List.length_singleton, show digitsValue [48] = 0 from rfl]
      push_cast
      rw [zpow_natCast, zpow_neg_one]
      ring
  · -- dig.its
    -- the point stands `-e` digits from the end
    have hlen : ((buf.drop (buf.length + e).toNat).length : Int) = -e := by
      rw [List.length_drop]
      omega
    have hfrac : buf.drop (buf.length + e).toNat ≠ [] := by
      intro hnil
      rw [hnil, List.length_nil] at hlen
      omega
    refine ⟨⟨false, buf.take (buf.length + e).toNat, buf.drop (buf.length + e).toNat, none,
      .inr (hbuf.take (by omega)), fun c hc => hdigits c (List.mem_of_mem_drop hc)⟩, rfl, ?_, ?_,
      .inl hfrac⟩
    · rw [Numeral.text, Numeral.fracText, if_neg hfrac]
      simp [Numeral.exponentText]
    · rw [Numeral.magnitude, List.take_append_drop]
      dsimp only
      rw [hlen]
      simp
  · -- 0.[000]digits
    obtain ⟨z, hz⟩ := Int.eq_ofNat_of_zero_le (show 0 ≤ -(buf.length + e) by omega)
    have hfrac : List.replicate z 48 ++ buf ≠ [] :=
      List.append_ne_nil_of_right_ne_nil _ (List.length_pos_iff.mp hpos)
    refine ⟨⟨false, [48], List.replicate z 48 ++ buf, none, .inl rfl, ?_⟩, rfl, ?_, ?_,
      .inl hfrac⟩
    · intro c hc
      exact (List.mem_append.mp hc).elim (isDigit_zeros z c) (hdigits c)
    · rw [Numeral.text, Numeral.fracText, if_neg hfrac, hz]
      simp [Numeral.exponentText, str]
    · rw [Numeral.magnitude, digitsValue_append, digitsValue_append, digitsValue_zeros]
      dsimp only
      rw [List.length_append, List.length_replicate,
        show ((none : Option Int).getD 0 - ((z + buf.length : Nat) : Int)) = e by
          rw [Option.getD_none]; omega]
      simp [digitsValue]
  · -- de+123
    refine ⟨⟨false, buf, [], some (buf.length + e - 1), .inr hbuf, by simp⟩, rfl, ?_, ?_,
      .inr rfl⟩
    · simp [Numeral.text, Numeral.fracText, Numeral.exponentText]
    · rw [Numeral.magnitude, List.append_nil, hone]
      simp
  · -- d.igitse+123
    have hlen : ((buf.drop 1).length : Int) = buf.length - 1 := by
      rw [List.length_drop]
      omega
    have hfrac : buf.drop 1 ≠ [] := by
      intro hnil
      rw [hnil, List.length_nil] at hlen
      omega
    refine ⟨⟨false, buf.take 1, buf.drop 1, some (buf.length + e - 1),
      .inr (hbuf.take one_ne_zero), fun c hc => hdigits c (List.mem_of_mem_drop hc)⟩, rfl, ?_, ?_,
      .inr rfl⟩
    · rw [Numeral.text, Numeral.fracText, if_neg hfrac]
      simp [Numeral.exponentText]
    · rw [Numeral.magnitude, List.take_append_drop]
      dsimp only
      rw [hlen, Option.getD_some, show ((buf.length : Int) + e - 1 - (buf.length - 1)) = e by ring]

/-- A double is written as a number with a point or an exponent, of which it is nearest. -/
theorem exists_toChars {grisu2 : Rat → Bytes × Int} (hg : Grisu2Correct grisu2) {q : Rat}
    (hq : Double.IsBinary64 q) :
    ∃ n : Numeral, n.text = toChars grisu2 q ∧ Double.nearest n.value = .fin q ∧ n.IsFloat := by
  by_cases hzero : q = 0
  · obtain rfl := hzero
    refine ⟨⟨false, [48], [48], none, .inl rfl, isDigit_zeros 1⟩, rfl, ?_,
      .inl (List.cons_ne_nil 48 [])⟩
    simp [Numeral.value, Numeral.magnitude, digitsValue, Double.nearest]
  · have habs : 0 < |q| := abs_pos.mpr hzero
    have hbin := Double.isBinary64_abs hq
    obtain ⟨n, hsign, htext, hmag, hfloat⟩ := exists_formatBuffer (hg.leading |q| habs hbin)
      (grisu2 |q|).2
    have hnearest : Double.nearest n.magnitude = .fin |q| := by rw [hmag, hg.nearest |q| habs hbin]
    unfold toChars
    rw [if_neg hzero]
    dsimp only
    by_cases hneg : q < 0
    · -- the same number with a sign
      have hnonneg : 0 ≤ n.magnitude := by
        rw [hmag]
        exact mul_nonneg (Nat.cast_nonneg _) (zpow_nonneg (by norm_num) _)
      have hne : n.magnitude ≠ 0 := by
        intro h0
        rw [h0] at hnearest
        exact habs.ne (Double.fin.inj hnearest)
      refine ⟨{ n with negative := true }, ?_, ?_, hfloat⟩
      · rw [if_pos hneg, ← htext, Numeral.text, Numeral.text, hsign]
        rfl
      · show Double.nearest (-n.magnitude) = _
        rw [Double.nearest_neg (lt_of_le_of_ne hnonneg hne.symm) hnearest, abs_of_neg hneg, neg_neg]
    · refine ⟨n, ?_, ?_, hfloat⟩
      · rw [if_neg hneg, htext, List.nil_append]
      · rw [Numeral.value, hsign, abs_of_nonneg (not_lt.mp hneg)] at *
        exact hnearest

/-- A double that was written is read back. -/
theorem strtod_toChars {grisu2 : Rat → Bytes × Int} (hg : Grisu2Correct grisu2) {q : Rat}
    (hq : Double.IsBinary64 q) : strtod (toChars grisu2 q) = .fin q := by
  obtain ⟨n, htext, hnearest, -⟩ := exists_toChars hg hq
  rw [← htext, n.strtod_text, hnearest]

/-! ## All the digits are enough -/

/-- Every digit of a binary fraction. -/
def allDigits (q : Rat) : Bytes × Int :=
  let k := Nat.log2 q.den
  (decimal (q.num.natAbs * 5 ^ k), -k)

/-- The text of a number does not begin with a zero. -/
theorem leading_decimal {n : Nat} (hn : n ≠ 0) : Leading (decimal n) where
  digits := isDigit_decimal n
  head := by
    have hne : Nat.digits 10 n ≠ [] := Nat.digits_ne_nil_iff_ne_zero.mpr hn
    have hlast := Nat.getLast_digit_ne_zero 10 hn
    have hlt : (Nat.digits 10 n).getLast hne < 10 :=
      Nat.digits_lt_base (by norm_num) (List.getLast_mem hne)
    refine ⟨UInt8.ofNat (48 + (Nat.digits 10 n).getLast hne), ?_, ?_⟩
    · rw [decimal, if_neg hn, List.head?_map, List.head?_reverse, List.getLast?_eq_some_getLast hne]
      rfl
    · intro h48
      have hnat := congrArg UInt8.toNat h48
      rw [UInt8.toNat_ofNat'] at hnat
      have h48' : (48 : UInt8).toNat = 48 := rfl
      omega

/-- A binary fraction has a power of two for a denominator. -/
theorem den_of_isBinary64 {q : Rat} (hq : Double.IsBinary64 q) : q.den = 2 ^ Nat.log2 q.den := by
  obtain ⟨m, e, -, -, -, rfl⟩ := hq
  have hdvd : ∃ j : Nat, ((m : Rat) * 2 ^ e).den ∣ 2 ^ j := by
    rcases le_or_gt 0 e with he | he
    · obtain ⟨z, rfl⟩ := Int.eq_ofNat_of_zero_le he
      refine ⟨0, ?_⟩
      have hint : (m : Rat) * 2 ^ (z : Int) = ((m * 2 ^ z : Int) : Rat) := by
        push_cast
        rw [zpow_natCast]
      rw [hint, Rat.den_intCast]
      rfl
    · obtain ⟨z, hz⟩ := Int.eq_ofNat_of_zero_le (show 0 ≤ -e by omega)
      refine ⟨z, ?_⟩
      have hdiv : (m : Rat) * 2 ^ e = Rat.divInt m ((2 ^ z : Nat) : Int) := by
        rw [Rat.divInt_eq_div, show e = -(z : Int) by omega, zpow_neg, zpow_natCast, div_eq_mul_inv]
        push_cast
        rfl
      have hden := Rat.den_dvd m ((2 ^ z : Nat) : Int)
      rw [← hdiv] at hden
      exact_mod_cast hden
  obtain ⟨j, hj⟩ := hdvd
  obtain ⟨i, -, hi⟩ := (Nat.dvd_prime_pow Nat.prime_two).mp hj
  rw [hi, Nat.log2_two_pow]

/-- A stand-in for Grisu2 that writes all digits is correct. -/
theorem allDigits_correct : Grisu2Correct allDigits where
  leading q hpos _ := by
    have hnum : q.num.natAbs ≠ 0 := by
      rw [Int.natAbs_ne_zero, Rat.num_ne_zero]
      exact hpos.ne'
    exact leading_decimal (Nat.mul_ne_zero hnum (pow_ne_zero _ (by norm_num)))
  nearest q hpos hq := by
    have hnum : ((q.num.natAbs : Nat) : Rat) = q.num := by
      rw [Nat.cast_natAbs, abs_of_pos (Rat.num_pos.mpr hpos)]
    have hden : (q.den : Rat) = 2 ^ Nat.log2 q.den := by exact_mod_cast den_of_isBinary64 hq
    have hvalue : ((digitsValue (allDigits q).1 : Nat) : Rat) * 10 ^ (allDigits q).2 = q := by
      rw [allDigits]
      dsimp only
      rw [digitsValue_decimal, zpow_neg, zpow_natCast]
      push_cast
      rw [hnum, show (10 : Rat) = 2 * 5 by norm_num, mul_pow, mul_inv, mul_assoc,
        mul_comm ((2 : Rat) ^ _)⁻¹, ← mul_assoc (5 ^ _ : Rat),
        mul_inv_cancel₀ (pow_ne_zero _ (by norm_num)), one_mul, ← hden, ← div_eq_mul_inv,
        Rat.num_div_den]
    rw [hvalue, Double.nearest_of_isBinary64 hq]

example : toChars allDigits (25 / 2) = str "12.5" := by decide +kernel

end Sovd
