import Mathlib.Data.Nat.Digits.Defs
import Mathlib.Data.Nat.Digits.Lemmas
import Mathlib.Data.List.TakeWhile
import Mathlib.Tactic.SplitIfs

/-!
# Byte strings: the C++ `std::string`

A `std::string` is a sequence of bytes with no encoding attached, so the whole
development models it as `Bytes`. `str` writes an ASCII literal of the source.

The server hands texts to adapters as `c_str()`, and a C string ends at its
first NUL: `cStr` is what the other side of the C ABI sees. `cStr_eq_self`
says when the two agree.
-/

namespace Sovd

/-- A C++ `std::string`. -/
abbrev Bytes := List UInt8

instance : LawfulBEq Bytes := inferInstance

/-- An ASCII literal of the source. -/
def str (s : String) : Bytes := s.toList.map fun c => UInt8.ofNat c.toNat

/-- What holds of all bytes can be looked up. -/
theorem forall_byte {p : UInt8 → Prop} (h : ∀ n < 256, p (UInt8.ofNat n)) (b : UInt8) : p b := by
  have hb := h b.toNat b.toNat_lt
  rwa [UInt8.ofNat_toNat] at hb

/-- What a callee reads of `s.c_str()`: the bytes before the first NUL. -/
def cStr (s : Bytes) : Bytes := s.takeWhile (· != 0)

/-- A text goes through the C ABI unchanged exactly when it has no NUL. -/
theorem cStr_eq_self {s : Bytes} : cStr s = s ↔ (0 : UInt8) ∉ s := by
  rw [cStr, List.takeWhile_eq_self_iff]
  constructor
  · intro h h0
    exact absurd (h 0 h0) (by simp)
  · intro h b hb
    rw [bne_iff_ne]
    intro heq
    obtain rfl := heq
    exact h hb

/-- `std::to_string` of an unsigned integer (also `operator<<` of a stream). -/
def decimal (n : Nat) : Bytes :=
  if n = 0 then [48] else (Nat.digits 10 n).reverse.map fun d => UInt8.ofNat (48 + d)

/-- `std::to_string` of an `int`. -/
def intText (i : Int) : Bytes := if i < 0 then 45 :: decimal i.natAbs else decimal i.natAbs

/-- A cast to `int`. -/
def toInt32 (i : Int) : Int := (i + 2 ^ 31) % 2 ^ 32 - 2 ^ 31

/-- `isdigit` -/
def isDigit (c : UInt8) : Bool := 48 ≤ c && c ≤ 57

/-- The value of a string of digits. -/
def digitsValue (ds : Bytes) : Nat := ds.foldl (fun v c => v * 10 + (c.toNat - 48)) 0

theorem decimal_digit (n : Nat) : ∀ b ∈ decimal n, 48 ≤ b ∧ b ≤ 57 := by
  intro b hb
  unfold decimal at hb
  split_ifs at hb with hn
  · rw [List.mem_singleton.mp hb]
    decide
  · obtain ⟨d, hd, rfl⟩ := List.mem_map.mp hb
    have hlt : d < 10 := Nat.digits_lt_base (by omega) (List.mem_reverse.mp hd)
    have hdigits : ∀ d < 10, 48 ≤ UInt8.ofNat (48 + d) ∧ UInt8.ofNat (48 + d) ≤ 57 := by decide
    exact hdigits d hlt

theorem decimal_ascii (n : Nat) : ∀ b ∈ decimal n, b ≤ 0x7F :=
  fun b hb => UInt8.le_trans (decimal_digit n b hb).2 (by decide)

/-- A decimal digit survives the trip through its ASCII code. -/
private theorem digit_injOn {l₁ l₂ : List Nat} (h₁ : ∀ d ∈ l₁, d < 10) (h₂ : ∀ d ∈ l₂, d < 10)
    (h : l₁.map (fun d => UInt8.ofNat (48 + d)) = l₂.map fun d => UInt8.ofNat (48 + d)) :
    l₁ = l₂ := by
  induction l₁ generalizing l₂ with
  | nil => simpa using h.symm
  | cons d l₁ ih =>
    cases l₂ with
    | nil => simp at h
    | cons e l₂ =>
      simp only [List.map_cons, List.cons.injEq] at h
      have hd := h₁ d (List.mem_cons_self ..)
      have he := h₂ e (List.mem_cons_self ..)
      have hde : d = e := by
        have := congrArg UInt8.toNat h.1
        simp only [UInt8.toNat_ofNat'] at this
        omega
      rw [hde, ih (fun x hx => h₁ x (List.mem_cons_of_mem _ hx))
        (fun x hx => h₂ x (List.mem_cons_of_mem _ hx)) h.2]

/-- Decimal numerals of different numbers differ. -/
theorem decimal_injective : Function.Injective decimal := by
  have hlt : ∀ n : Nat, ∀ d ∈ (Nat.digits 10 n).reverse, d < 10 := fun n d hd =>
    Nat.digits_lt_base (by omega) (List.mem_reverse.mp hd)
  -- `0` is the one numeral that starts with the digit `0`
  have hzero : ∀ n : Nat, n ≠ 0 →
      (Nat.digits 10 n).reverse.map (fun d => UInt8.ofNat (48 + d)) ≠ [48] := by
    intro n hn h
    have h' : (Nat.digits 10 n).reverse = [0] :=
      digit_injOn (hlt n) (by simp) (by simpa using h)
    have hrev : Nat.digits 10 n = [0] := by
      rw [← List.reverse_reverse (Nat.digits 10 n), h']
      rfl
    have := Nat.ofDigits_digits 10 n
    rw [hrev] at this
    exact hn (by simpa using this.symm)
  intro m n h
  unfold decimal at h
  split_ifs at h with hm hn hn
  · omega
  · exact absurd h.symm (hzero n hn)
  · exact absurd h (hzero m hm)
  · have hr := digit_injOn (hlt m) (hlt n) h
    exact Nat.digits_inj_iff.mp (List.reverse_injective hr)

/-- Neither the sign nor a digit is a control character. -/
theorem not_mem_intText {b : UInt8} (hb : b < 45) (i : Int) : b ∉ intText i := by
  have hdigits : b ∉ decimal i.natAbs := by
    intro hmem
    have hlt : (45 : UInt8) < 48 := by decide
    exact UInt8.lt_asymm hb (UInt8.lt_of_lt_of_le hlt (decimal_digit i.natAbs b hmem).1)
  unfold intText
  split
  · exact List.not_mem_cons_of_ne_of_not_mem (UInt8.ne_of_lt hb) hdigits
  · exact hdigits

theorem intText_injective : Function.Injective intText := by
  -- a numeral without a sign does not start with one
  have hsign : ∀ m n : Nat, decimal m ≠ 45 :: decimal n := by
    intro m n h
    have hmem : (45 : UInt8) ∈ decimal m := h ▸ List.mem_cons_self ..
    exact absurd (decimal_digit m 45 hmem).1 (by decide)
  intro i j h
  unfold intText at h
  split_ifs at h with hi hj hj
  · have hn := decimal_injective (List.cons.inj h).2
    omega
  · exact absurd h.symm (hsign j.natAbs i.natAbs)
  · exact absurd h (hsign i.natAbs j.natAbs)
  · have hn := decimal_injective h
    omega

end Sovd
