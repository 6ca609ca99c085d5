import Mathlib.Order.Basic
import Mathlib.Tactic.Basic

/-!
# Where a bounded loop stops

A loop that goes on as long as what it last got says so, but not longer than a bound,
walks along a sequence and stops at one place of it: `StopsAt`. The place is unique, so
whoever knows the sequence knows the result.
-/

variable {α : Type*} {again : α → Prop} {x : ℕ → α} {limit k k' : ℕ}

/-- Everything before `k` says `again`, and at `k` the loop stops: there is no `again`, or
the bound is reached. -/
structure StopsAt (again : α → Prop) (x : ℕ → α) (limit k : ℕ) : Prop where
  le : k ≤ limit
  before : ∀ i < k, again (x i)
  here : k = limit ∨ ¬ again (x k)

namespace StopsAt

theorem now (h : ¬ again (x 0)) : StopsAt again x limit 0 :=
  ⟨Nat.zero_le _, fun _ hi => absurd hi (Nat.not_lt_zero _), .inr h⟩

theorem zero : StopsAt again x 0 0 :=
  ⟨Nat.le_refl 0, fun _ hi => absurd hi (Nat.not_lt_zero _), .inl rfl⟩

/-- One round, and the loop over the rest. -/
theorem step (h₀ : again (x 0)) (h : StopsAt again (fun i => x (i + 1)) limit k) :
    StopsAt again x (limit + 1) (k + 1) := by
  refine ⟨Nat.succ_le_succ h.le, fun i hi => ?_, h.here.imp_left (congrArg Nat.succ)⟩
  cases i with
  | zero => exact h₀
  | succ i => exact h.before i (Nat.lt_of_succ_lt_succ hi)

theorem not_lt (h : StopsAt again x limit k) (h' : StopsAt again x limit k') : ¬ k < k' := by
  intro hlt
  rcases h.here with rfl | hstop
  · exact absurd h'.le (Nat.not_le.mpr hlt)
  · exact hstop (h'.before k hlt)

theorem unique (h : StopsAt again x limit k) (h' : StopsAt again x limit k') : k = k' :=
  Nat.le_antisymm (Nat.not_lt.mp (h'.not_lt h)) (Nat.not_lt.mp (h.not_lt h'))

end StopsAt
