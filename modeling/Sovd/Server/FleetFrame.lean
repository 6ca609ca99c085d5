import Sovd.Server.AdapterFrame
import Sovd.Server.Answers
import Sovd.Server.Fleet

/-!
# One context among many

Every entity has a backend of its own kind, with a context of its own (`Vtable.at`). What
the functions of a backend keep of its context holds of that context before a request and
after it, and the contexts of the other entities are as they were. `routing_respects` says
so of the whole way of a request.
-/

namespace Sovd

section

variable {κ τ : Type} [DecidableEq κ] {Q : τ → τ → Prop} {k p : κ}

theorem update_respects (hrefl : ∀ x, Q x x) {s : κ → τ} {x : τ} (h : k = p → Q (s k) x) :
    Q (s p) (Function.update s k x p) := by
  by_cases hkp : k = p
  · subst hkp
    rw [Function.update_self]
    exact h rfl
  · rw [Function.update_of_ne (Ne.symm hkp)]
    exact hrefl _

/-- What a backend keeps of its own context, and leaves of any other. -/
theorem Vtable.at_respects {v : Vtable τ} {h : Handler} (hrefl : ∀ x, Q x x)
    (hv : k = p → v.Respects Q h) : (v.at k).Respects (fun s s' => Q (s p) (s' p)) h := by
  cases h with
  | getFaults =>
    intro f hf s path
    obtain ⟨g, hg, rfl⟩ := Option.map_eq_some_iff.mp hf
    exact update_respects hrefl fun hkp => hv hkp g hg ..
  | clearFaults =>
    intro f hf s path
    obtain ⟨g, hg, rfl⟩ := Option.map_eq_some_iff.mp hf
    exact update_respects hrefl fun hkp => hv hkp g hg ..
  | getDataBatch =>
    intro f hf s path did
    obtain ⟨g, hg, rfl⟩ := Option.map_eq_some_iff.mp hf
    exact update_respects hrefl fun hkp => hv hkp g hg ..
  | getData =>
    intro f hf s path did
    obtain ⟨g, hg, rfl⟩ := Option.map_eq_some_iff.mp hf
    exact update_respects hrefl fun hkp => hv hkp g hg ..
  | putData =>
    intro f hf s path did data
    obtain ⟨g, hg, rfl⟩ := Option.map_eq_some_iff.mp hf
    exact update_respects hrefl fun hkp => hv hkp g hg ..
  | postMode =>
    intro f hf s path mode
    obtain ⟨g, hg, rfl⟩ := Option.map_eq_some_iff.mp hf
    exact update_respects hrefl fun hkp => hv hkp g hg ..
  | deleteLock =>
    intro f hf s path mode
    obtain ⟨g, hg, rfl⟩ := Option.map_eq_some_iff.mp hf
    exact update_respects hrefl fun hkp => hv hkp g hg ..
  | postOperation =>
    intro f hf s path op params
    obtain ⟨g, hg, rfl⟩ := Option.map_eq_some_iff.mp hf
    exact update_respects hrefl fun hkp => hv hkp g hg ..
  | _ => trivial

end

/-- **What a request does to the adapters**, from the wire to the answer. -/
theorem routing_respects {σ : Type} {S : HttpServer σ} {env : ServerEnv} {req : Request}
    {s : ServerState σ} {Q : σ → σ → Prop} (hrefl : ∀ s, Q s s)
    (htrans : ∀ s t u, Q s t → Q t u → Q s u)
    (hQ : ∀ h path item, Routed req h path item → Admitted S env.toEnv req →
      S.toRouter.RespectsAt path Q h) :
    Q s.world.adapter (routing S env req s).1.world.adapter := by
  rcases routing_cases S env req s with ⟨es, htold⟩ | ⟨h, captures, hadmitted, -, hroute, hrun⟩
  · rw [htold]
    exact hrefl _
  · rw [hrun]
    exact Handler.run_respects hrefl htrans (hQ h _ _ ⟨captures, hroute, rfl, rfl⟩ hadmitted)

end Sovd
