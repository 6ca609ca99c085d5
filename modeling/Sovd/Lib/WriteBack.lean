import Mathlib.Logic.Function.Basic

/-!
# A register that is written after the fact

Several parties take turns at something that hands out values, one turn at a
time. Each then writes the value of its turn into a register they share, when
it gets to it: between a turn and its write others have turns and write.

What the register should hold is the value of the newest turn. It does once
everybody has written, unless an older value was written over the newest one
(`WriteBack.Inv.settled`). So the write to watch is the one that finds the newest
turn already written; any other is either the newest turn's own or will be
overwritten.

The register can also be cleared from outside. Until the next write it is then
not a register of turns at all.
-/

/-- A shared register and the turns not yet written to it. -/
structure WriteBack (ι α : Type*) where
  value : α
  /-- The value of the newest turn. -/
  newest : α
  turns : Nat := 0
  /-- The newest turn of those written. -/
  written : Nat := 0
  pending : ι → Option (Nat × α)
  cleared : Bool := false

namespace WriteBack

variable {ι α : Type*}

/-- The value is set from outside. -/
def clear (b : WriteBack ι α) (v : α) : WriteBack ι α :=
  { b with value := v, cleared := true }

section

variable [DecidableEq ι]

/-- `i` takes its turn, and has `v` to write. -/
def turn (b : WriteBack ι α) (i : ι) (v : α) : WriteBack ι α :=
  { b with
    newest := v
    turns := b.turns + 1
    pending := Function.update b.pending i (some (b.turns + 1, v)) }

/-- `i` writes what it took at turn `k`. -/
def write (b : WriteBack ι α) (i : ι) (k : Nat) (v : α) : WriteBack ι α :=
  { b with
    value := v
    written := max b.written k
    pending := Function.update b.pending i none
    cleared := false }

variable {b : WriteBack ι α} {i j : ι} {k : Nat} {v : α}

@[simp] theorem turn_pending_self : (b.turn i v).pending i = some (b.turns + 1, v) :=
  Function.update_self ..

theorem turn_pending_of_ne (h : j ≠ i) : (b.turn i v).pending j = b.pending j :=
  Function.update_of_ne h ..

@[simp] theorem write_pending_self : (b.write i k v).pending i = none :=
  Function.update_self ..

theorem write_pending_of_ne (h : j ≠ i) : (b.write i k v).pending j = b.pending j :=
  Function.update_of_ne h ..

end

/-- The newest turn is written or still to be written, and once it is written its
value is there. -/
structure Inv (b : WriteBack ι α) : Prop where
  written_le : b.written ≤ b.turns
  pending_le : ∀ i k v, b.pending i = some (k, v) → k ≤ b.turns
  pending_newest : ∀ i v, b.pending i = some (b.turns, v) → v = b.newest
  newest_left : b.written = b.turns ∨ ∃ i, b.pending i = some (b.turns, b.newest)
  value : b.cleared = false → b.written = b.turns → b.value = b.newest

namespace Inv

variable {b : WriteBack ι α}

theorem initial (v : α) : Inv { value := v, newest := v, pending := fun _ : ι => none } where
  written_le := Nat.le_refl 0
  pending_le _ _ _ h := by cases h
  pending_newest _ _ h := by cases h
  newest_left := .inl rfl
  value _ _ := rfl

/-- **With nothing left to write the register holds the value of the newest turn.** -/
theorem settled (h : b.Inv) (hpending : ∀ i, b.pending i = none) (hclear : b.cleared = false) :
    b.value = b.newest := by
  rcases h.newest_left with hwritten | hleft
  · exact h.value hclear hwritten
  · obtain ⟨i, hi⟩ := hleft
    rw [hpending i] at hi
    cases hi

/-- Setting the value from outside keeps the invariant: nothing is promised of it. -/
theorem clear (h : b.Inv) (v : α) : (b.clear v).Inv :=
  ⟨h.written_le, h.pending_le, h.pending_newest, h.newest_left, fun hc => by cases hc⟩

variable [DecidableEq ι]

/-- A turn keeps it: the new turn is the newest, and is left to be written. -/
theorem turn (h : b.Inv) (i : ι) (v : α) : (b.turn i v).Inv := by
  have hle := h.written_le
  refine ⟨Nat.le_succ_of_le hle, ?_, ?_, .inr ⟨i, turn_pending_self⟩, ?_⟩
  · intro j k w hj
    by_cases hji : j = i
    · subst hji
      rw [turn_pending_self] at hj
      cases hj
      exact Nat.le_refl _
    · rw [turn_pending_of_ne hji] at hj
      exact Nat.le_succ_of_le (h.pending_le j k w hj)
  · intro j w hj
    by_cases hji : j = i
    · subst hji
      rw [turn_pending_self] at hj
      cases hj
      rfl
    · rw [turn_pending_of_ne hji] at hj
      -- a turn nobody had yet
      exact absurd (h.pending_le j _ w hj) (Nat.not_succ_le_self b.turns)
  · intro _ hwritten
    have hnew : b.written = b.turns + 1 := hwritten
    omega

/-- A write leaves the newest value in place unless it puts an older one on top of it. -/
theorem write (h : b.Inv) {i : ι} {k : Nat} {v : α} (hi : b.pending i = some (k, v))
    (hover : b.written = b.turns → v = b.newest) : (b.write i k v).Inv := by
  have hk := h.pending_le i k v hi
  have hle := h.written_le
  have hold : ∀ {j w}, (b.write i k v).pending j = some w → b.pending j = some w := by
    intro j w hj
    by_cases hji : j = i
    · subst hji
      rw [write_pending_self] at hj
      cases hj
    · rwa [write_pending_of_ne hji] at hj
  refine ⟨Nat.max_le.mpr ⟨hle, hk⟩, fun j k' w hj => h.pending_le j k' w (hold hj),
    fun j w hj => h.pending_newest j w (hold hj), ?_, ?_⟩
  · show max b.written k = b.turns ∨ _
    rcases h.newest_left with hwritten | hleft
    · exact .inl (by omega)
    · obtain ⟨j, hj⟩ := hleft
      by_cases hji : j = i
      · subst hji
        obtain ⟨rfl, -⟩ := Prod.mk.inj (Option.some.inj (hi.symm.trans hj))
        exact .inl (Nat.max_eq_right hle)
      · exact .inr ⟨j, (write_pending_of_ne hji).trans hj⟩
  · intro _ hwritten
    have hmax : max b.written k = b.turns := hwritten
    by_cases hnewest : k = b.turns
    · subst hnewest
      exact h.pending_newest i v hi
    · exact hover (by omega)

end Inv

end WriteBack
