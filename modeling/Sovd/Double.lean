import Sovd.Bytes
import Mathlib.Algebra.Order.Field.Rat
import Mathlib.Data.Rat.Floor

/-!
# The C++ `double`

A rational, an infinity or not a number. Arithmetic is exact on rationals and
carries the others along; the one rounding that matters to the server, that of a
64-bit integer which becomes a `double`, is `roundTo53`. Casting a NaN to an
integer is undefined in C++; here it gives what x86-64 gives.
-/

namespace Sovd

/-- A double; a finite one is its value, so the two zeros are one. -/
inductive Double
  | fin (q : Rat)
  | inf (negative : Bool)
  | nan
  deriving DecidableEq

namespace Double

/-- `*` -/
def mul : Double → Double → Double
  | .fin a, .fin b => .fin (a * b)
  | .fin a, .inf n => if a = 0 then .nan else .inf (n != decide (a < 0))
  | .inf n, .fin a => if a = 0 then .nan else .inf (n != decide (a < 0))
  | .inf m, .inf n => .inf (m != n)
  | _, _ => .nan

/-- The divisor is not zero. -/
def div : Double → Double → Double
  | .fin a, .fin b => .fin (a / b)
  | .fin _, .inf _ => .fin 0
  | .inf n, .fin a => .inf (n != decide (a < 0))
  | _, _ => .nan

/-- `std::round`: half away from zero. -/
def roundRat (q : Rat) : Int :=
  if 0 ≤ q then ⌊q + 1 / 2⌋ else -⌊-q + 1 / 2⌋

/-- `std::round` -/
def round : Double → Double
  | .fin q => .fin (roundRat q)
  | x => x

/-- `<`, false of a NaN. -/
def lt : Double → Double → Bool
  | .fin a, .fin b => decide (a < b)
  | .fin _, .inf n => !n
  | .inf n, .fin _ => n
  | .inf m, .inf n => m && !n
  | _, _ => false

/-- `== 0.0` -/
def isZero : Double → Bool
  | .fin q => q == 0
  | _ => false

/-- `static_cast<uint64_t>`, of a value in range. -/
def toU64 : Double → Nat
  | .fin q => ⌊q⌋.toNat
  | _ => 2 ^ 63

/-- The nearest number with a 53-bit significand, ties to even. -/
def roundTo53 (n : Nat) : Rat :=
  if n < 2 ^ 53 then n
  else
    let ulp := 2 ^ (Nat.log2 n - 52)
    let quotient := n / ulp
    let remainder := n % ulp
    let up := ulp < 2 * remainder ∨ (2 * remainder = ulp ∧ quotient % 2 = 1)
    ((if up then quotient + 1 else quotient) * ulp : Nat)

/-- `std::to_string(double)`: six decimals. -/
def toText : Double → Bytes
  | .fin q =>
    let scaled := |q| * 1000000
    let below := ⌊scaled⌋.toNat
    let frac := scaled - below
    let n := if 1 / 2 < frac ∨ (frac = 1 / 2 ∧ below % 2 = 1) then below + 1 else below
    let decimals := decimal (n % 1000000)
    (if q < 0 then [45] else []) ++ decimal (n / 1000000) ++ [46] ++
      List.replicate (6 - decimals.length) 48 ++ decimals
  | .inf true => str "-inf"
  | .inf false => str "inf"
  | .nan => str "nan"

end Double

end Sovd
