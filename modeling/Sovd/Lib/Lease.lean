import Mathlib.Order.Basic
import Mathlib.Logic.Function.Basic

/-!
# Tables of expiring leases

A lease names a holder and an instant from which it no longer counts. A lease
table maps keys to leases; `live now` forgets the leases that have run out by
`now`. An implementation may leave dead leases lying about (lazy expiry): what
it stands for at an instant is the live part of its table, and the operations
below say what happens to that part.

Keys, holders and the time line are arbitrary.
-/

/-- A holder and the first instant at which its lease has run out. -/
structure Lease (ι τ : Type*) where
  holder : ι
  expires : τ

namespace Lease

variable {κ ι τ : Type*}

/-- A table with at most one lease for each key. -/
abbrev Table (κ ι τ : Type*) := κ → Option (Lease ι τ)

section Live

variable [LT τ] [DecidableLT τ]

/-- The leases that still count at `now`. -/
def live (now : τ) (T : Table κ ι τ) : Table κ ι τ :=
  fun k => (T k).filter fun l => decide (now < l.expires)

theorem live_eq_some {now : τ} {T : Table κ ι τ} {k : κ} {l : Lease ι τ} :
    live now T k = some l ↔ T k = some l ∧ now < l.expires := by
  simp [live, Option.filter_eq_some_iff]

theorem live_congr {now : τ} {T U : Table κ ι τ} {k : κ} (h : T k = U k) :
    live now T k = live now U k := by
  simp [live, h]

end Live

/-- Later, only leases that counted before still count. -/
theorem live_of_le [Preorder τ] [DecidableLT τ] {t u : τ} {T : Table κ ι τ} {k : κ}
    {l : Lease ι τ} (htu : t ≤ u) (h : live u T k = some l) : live t T k = some l := by
  obtain ⟨hk, hlt⟩ := live_eq_some.mp h
  exact live_eq_some.mpr ⟨hk, lt_of_le_of_lt htu hlt⟩

section Update

variable [DecidableEq κ]

/-- `k` is given to the lease `l`, whatever it held. -/
def grant (T : Table κ ι τ) (k : κ) (l : Lease ι τ) : Table κ ι τ :=
  Function.update T k (some l)

/-- `k` is given back. -/
def revoke (T : Table κ ι τ) (k : κ) : Table κ ι τ := Function.update T k none

@[simp] theorem grant_self {T : Table κ ι τ} {k : κ} {l : Lease ι τ} :
    grant T k l k = some l := Function.update_self ..

@[simp] theorem grant_of_ne {T : Table κ ι τ} {k k' : κ} {l : Lease ι τ} (h : k' ≠ k) :
    grant T k l k' = T k' := Function.update_of_ne h ..

@[simp] theorem revoke_self {T : Table κ ι τ} {k : κ} : revoke T k k = none :=
  Function.update_self ..

@[simp] theorem revoke_of_ne {T : Table κ ι τ} {k k' : κ} (h : k' ≠ k) :
    revoke T k k' = T k' := Function.update_of_ne h ..

variable [LT τ] [DecidableLT τ]

/-- After a grant, what counts is the new lease (if it does) and the rest. -/
theorem live_grant_eq_some {now : τ} {T : Table κ ι τ} {k k' : κ} {l l' : Lease ι τ} :
    live now (grant T k l) k' = some l' ↔
      (k' = k ∧ l' = l ∧ now < l.expires) ∨ (k' ≠ k ∧ live now T k' = some l') := by
  rw [live_eq_some]
  by_cases h : k' = k
  · subst h
    rw [grant_self, Option.some.injEq]
    constructor
    · intro h
      obtain ⟨rfl, hlt⟩ := h
      exact .inl ⟨rfl, rfl, hlt⟩
    · intro h
      rcases h with ⟨-, rfl, hlt⟩ | ⟨hne, -⟩
      · exact ⟨rfl, hlt⟩
      · exact absurd rfl hne
  · rw [grant_of_ne h, ← live_eq_some]
    simp [h]

/-- After a key is given back, what counts is the rest. -/
theorem live_revoke_eq_some {now : τ} {T : Table κ ι τ} {k k' : κ} {l' : Lease ι τ} :
    live now (revoke T k) k' = some l' ↔ k' ≠ k ∧ live now T k' = some l' := by
  rw [live_eq_some]
  by_cases h : k' = k
  · subst h
    simp
  · rw [revoke_of_ne h, ← live_eq_some]
    simp [h]

end Update

end Lease
