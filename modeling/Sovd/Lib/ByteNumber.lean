import Mathlib.Data.Nat.Digits.Defs
import Mathlib.Data.Nat.Digits.Lemmas

/-!
# Unsigned numbers in bytes

A list of bytes stands for a number in base 256, least significant byte first
(`little`) or last (`big`). A number below `256 ^ w` has exactly one list of `w` bytes
that stands for it: `value_bytes_eq_iff` and `bytes_value` are the two directions, for either
order.
-/

namespace ByteNumber

/-- The number of a list of bytes, least significant first. -/
def little (l : List UInt8) : Nat := Nat.ofDigits 256 (l.map UInt8.toNat)

/-- The low `w` bytes of a number, least significant first. -/
def littleBytes (w n : Nat) : List UInt8 := (List.range w).map fun i => UInt8.ofNat (n / 256 ^ i)

/-- The number of a list of bytes in either order. -/
def value (bigEndian : Bool) (l : List UInt8) : Nat := little (if bigEndian then l.reverse else l)

/-- The low `w` bytes of a number in either order. -/
def bytes (bigEndian : Bool) (w n : Nat) : List UInt8 :=
  if bigEndian then (littleBytes w n).reverse else littleBytes w n

@[simp] theorem little_nil : little [] = 0 := rfl

@[simp] theorem little_cons (b : UInt8) (l : List UInt8) :
    little (b :: l) = b.toNat + 256 * little l := by
  simp [little, Nat.ofDigits_cons]

theorem little_append (l r : List UInt8) :
    little (l ++ r) = little l + 256 ^ l.length * little r := by
  rw [little, List.map_append, Nat.ofDigits_append, List.length_map]
  rfl

theorem little_lt (l : List UInt8) : little l < 256 ^ l.length := by
  have hlt := Nat.ofDigits_lt_base_pow_length (b := 256) (l := l.map UInt8.toNat) (by decide)
  rw [List.length_map] at hlt
  refine hlt fun d hd => ?_
  obtain ⟨b, -, rfl⟩ := List.mem_map.mp hd
  exact b.toNat_lt

@[simp] theorem littleBytes_zero (n : Nat) : littleBytes 0 n = [] := rfl

theorem littleBytes_succ (w n : Nat) :
    littleBytes (w + 1) n = UInt8.ofNat n :: littleBytes w (n / 256) := by
  have hshift : ∀ i, n / 256 ^ (i + 1) = n / 256 / 256 ^ i := by
    intro i
    rw [Nat.pow_succ', Nat.div_div_eq_div_mul]
  rw [littleBytes, List.range_succ_eq_map, List.map_cons, List.map_map]
  simp only [littleBytes, Function.comp_def, Nat.succ_eq_add_one, hshift, Nat.pow_zero, Nat.div_one]

@[simp] theorem littleBytes_length (w n : Nat) : (littleBytes w n).length = w := by
  simp [littleBytes]

/-- What does not fit into `w` bytes is dropped. -/
theorem little_littleBytes (w n : Nat) : little (littleBytes w n) = n % 256 ^ w := by
  induction w generalizing n with
  | zero => simp [Nat.mod_one]
  | succ w ih =>
    have hbyte : (UInt8.ofNat n).toNat = n % 256 := UInt8.toNat_ofNat'
    rw [littleBytes_succ, little_cons, ih, hbyte, Nat.pow_succ', Nat.mod_mul]

theorem littleBytes_little (l : List UInt8) : littleBytes l.length (little l) = l := by
  induction l with
  | nil => rfl
  | cons b l ih =>
    have hb := b.toNat_lt
    have hhead : UInt8.ofNat (b.toNat + 256 * little l) = b := by
      apply UInt8.toNat_inj.mp
      rw [UInt8.toNat_ofNat']
      omega
    have htail : (b.toNat + 256 * little l) / 256 = little l := by omega
    rw [List.length_cons, little_cons, littleBytes_succ, hhead, htail, ih]

/-- Reading from the most significant byte on, one byte at a time. -/
theorem foldl_eq_little (l : List UInt8) :
    l.foldl (fun v b => v * 256 + b.toNat) 0 = little l.reverse := by
  have hfrom : ∀ v, l.foldl (fun v b => v * 256 + b.toNat) v =
      little l.reverse + 256 ^ l.length * v := by
    induction l with
    | nil => simp
    | cons b l ih =>
      intro v
      rw [List.foldl_cons, ih, List.reverse_cons, little_append, List.length_reverse,
        List.length_cons, little_cons, little_nil]
      ring
  simpa using hfrom 0

/-! ## Either order -/

variable {bigEndian : Bool}

theorem value_lt (l : List UInt8) : value bigEndian l < 256 ^ l.length := by
  cases bigEndian with
  | false => exact little_lt l
  | true => exact l.length_reverse ▸ little_lt l.reverse

@[simp] theorem bytes_length (w n : Nat) : (bytes bigEndian w n).length = w := by
  cases bigEndian <;> simp [bytes]

theorem value_bytes_eq_mod (w n : Nat) : value bigEndian (bytes bigEndian w n) = n % 256 ^ w := by
  cases bigEndian with
  | false => exact little_littleBytes w n
  | true =>
    show little (littleBytes w n).reverse.reverse = _
    rw [List.reverse_reverse, little_littleBytes]

/-- The numbers that fit are those of their bytes. -/
theorem value_bytes_eq_iff {w n : Nat} :
    value bigEndian (bytes bigEndian w n) = n ↔ n < 256 ^ w := by
  rw [value_bytes_eq_mod, Nat.mod_eq_iff_lt (by positivity)]

/-- A list of bytes is the bytes of its number. -/
theorem bytes_value (l : List UInt8) : bytes bigEndian l.length (value bigEndian l) = l := by
  cases bigEndian with
  | false => exact littleBytes_little l
  | true =>
    show (littleBytes l.length (little l.reverse)).reverse = l
    rw [← l.length_reverse, littleBytes_little, List.reverse_reverse]

end ByteNumber
