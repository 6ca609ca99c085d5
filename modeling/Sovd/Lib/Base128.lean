import Mathlib.Tactic.SplitIfs
import Mathlib.Algebra.Order.Group.Nat

/-!
# Numbers in base 128

The length prefix of many formats: seven bits in a byte, least significant first, and the
top bit set on every byte but the last. A format that reads at most `k` such bytes carries
the numbers below `128 ^ k`, and of those every one (`decode_encode`).
-/

namespace Base128

def encode (n : ℕ) : List UInt8 :=
  if n < 128 then [UInt8.ofNat n] else UInt8.ofNat (n % 128 + 128) :: encode (n / 128)
termination_by n
decreasing_by omega

/-- The number at the head of the list, of at most `k` bytes, and what comes after it. -/
def decode : ℕ → List UInt8 → Option (ℕ × List UInt8)
  | 0, _ => none
  | _ + 1, [] => none
  | k + 1, b :: s =>
    if b.toNat < 128 then some (b.toNat, s)
    else (decode k s).map fun (n, s) => (b.toNat - 128 + 128 * n, s)

theorem decode_last {n : ℕ} (h : n < 128) (k : ℕ) (s : List UInt8) :
    decode (k + 1) (UInt8.ofNat n :: s) = some (n, s) := by
  have hbyte : (UInt8.ofNat n).toNat = n := by
    rw [UInt8.toNat_ofNat']
    omega
  rw [decode, hbyte, if_pos h]

theorem decode_more {m : ℕ} (h : m < 128) (k : ℕ) (s : List UInt8) :
    decode (k + 1) (UInt8.ofNat (m + 128) :: s) =
      (decode k s).map fun (n, s) => (m + 128 * n, s) := by
  have hbyte : (UInt8.ofNat (m + 128)).toNat = m + 128 := by
    rw [UInt8.toNat_ofNat']
    omega
  rw [decode, hbyte, if_neg (by omega), Nat.add_sub_cancel]

/-- What is written is read back, if it has no more bytes than the reader takes. -/
theorem decode_encode (k n : ℕ) (rest : List UInt8) :
    decode (k + 1) (encode n ++ rest) = if n < 128 ^ (k + 1) then some (n, rest) else none := by
  induction k generalizing n with
  | zero =>
    rw [encode, Nat.zero_add, Nat.pow_one]
    split_ifs with hsmall
    · exact decode_last hsmall 0 rest
    · exact decode_more (Nat.mod_lt n (by decide)) 0 _
  | succ k ih =>
    have hdigit : n % 128 < 128 := Nat.mod_lt n (by decide)
    rw [encode]
    split_ifs with hsmall hfits hfits
    · exact decode_last hsmall (k + 1) rest
    · have hpos : 1 ≤ 128 ^ (k + 1) := Nat.one_le_pow _ _ (by decide)
      rw [Nat.pow_succ] at hfits
      omega
    · have hrest : n / 128 < 128 ^ (k + 1) := by
        rw [Nat.pow_succ] at hfits
        omega
      rw [List.cons_append, decode_more hdigit, ih, if_pos hrest]
      simp only [Option.map_some, Nat.mod_add_div]
    · have hrest : ¬ n / 128 < 128 ^ (k + 1) := by
        rw [Nat.pow_succ] at hfits
        omega
      rw [List.cons_append, decode_more hdigit, ih, if_neg hrest, Option.map_none]

end Base128
