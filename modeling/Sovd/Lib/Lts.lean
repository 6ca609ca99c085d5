import Mathlib.Data.List.Induction

/-!
# Labelled transition systems and their histories

Every long-running component of the development (a lock table, a socket, a
server) is a state with events that move it. This file states once what a run
is and how a fact about runs is proved:

> `hist_induct`: a property of (history, state) that holds at every initial
> state and that one event preserves holds of every history.

`run_append` cuts a run at any point, which is what turns a fact about the
last state of a run into a fact about every state along it. The library knows
nothing of what the events are.
-/

/-- A transition system over states `σ` and events `ε`. -/
structure Lts (σ ε : Type*) where
  init : σ → Prop
  step : σ → ε → σ → Prop

namespace Lts

variable {σ ε : Type*} (L : Lts σ ε)

/-- `L.Run s es t`: the events `es`, in order, lead from `s` to `t`. -/
def Run : σ → List ε → σ → Prop
  | s, [], t => s = t
  | s, e :: es, t => ∃ u, L.step s e u ∧ Run u es t

/-- `L.Hist es t`: `es` is everything that happened since an initial state. -/
def Hist (es : List ε) (t : σ) : Prop := ∃ s, L.init s ∧ L.Run s es t

variable {L}

@[simp] theorem run_nil {s t : σ} : L.Run s [] t ↔ s = t := Iff.rfl

@[simp] theorem run_cons {s t : σ} {e : ε} {es : List ε} :
    L.Run s (e :: es) t ↔ ∃ u, L.step s e u ∧ L.Run u es t := Iff.rfl

/-- A run cuts at any point of its event list. -/
theorem run_append {es₁ es₂ : List ε} :
    ∀ {s u : σ}, L.Run s (es₁ ++ es₂) u ↔ ∃ t, L.Run s es₁ t ∧ L.Run t es₂ u := by
  induction es₁ with
  | nil =>
    intro s u
    exact ⟨fun h => ⟨s, rfl, h⟩, fun ⟨t, ht, h⟩ => ht ▸ h⟩
  | cons e es ih =>
    intro s u
    constructor
    · intro h
      obtain ⟨v, hv, hr⟩ := h
      obtain ⟨t, h₁, h₂⟩ := ih.mp hr
      exact ⟨t, ⟨v, hv, h₁⟩, h₂⟩
    · intro h
      obtain ⟨t, ⟨v, hv, h₁⟩, h₂⟩ := h
      exact ⟨v, hv, ih.mpr ⟨t, h₁, h₂⟩⟩

/-- The last event of a run, peeled off. -/
theorem run_concat {s u : σ} {es : List ε} {e : ε} :
    L.Run s (es ++ [e]) u ↔ ∃ t, L.Run s es t ∧ L.step t e u := by
  rw [run_append]
  constructor
  · intro hx
    obtain ⟨t, h, v, hv, rfl⟩ := hx
    exact ⟨t, h, hv⟩
  · intro hx
    obtain ⟨t, h, hv⟩ := hx
    exact ⟨t, h, u, hv, rfl⟩

theorem hist_nil {s : σ} (h : L.init s) : L.Hist [] s := ⟨s, h, rfl⟩

theorem hist_concat {es : List ε} {s t : σ} {e : ε}
    (h : L.Hist es s) (hs : L.step s e t) : L.Hist (es ++ [e]) t := by
  obtain ⟨s₀, h₀, hr⟩ := h
  exact ⟨s₀, h₀, run_concat.mpr ⟨s, hr, hs⟩⟩

/-- **The history rule**: what holds at the start and is preserved by one
event holds of every history and the state it leads to. -/
theorem hist_induct {P : List ε → σ → Prop}
    (h₀ : ∀ s, L.init s → P [] s)
    (hstep : ∀ es s e t, L.Hist es s → P es s → L.step s e t → P (es ++ [e]) t) :
    ∀ {es : List ε} {s : σ}, L.Hist es s → P es s := by
  intro es
  induction es using List.reverseRecOn with
  | nil =>
    intro s h
    obtain ⟨s₀, hi, hr⟩ := h
    exact hr ▸ h₀ s₀ hi
  | append_singleton es e ih =>
    intro s h
    obtain ⟨s₀, hi, hr⟩ := h
    obtain ⟨t, hr', hs⟩ := run_concat.mp hr
    have hh : L.Hist es t := ⟨s₀, hi, hr'⟩
    exact hstep es t e s hh (ih hh) hs

/-- **The invariant rule** along a run from any state. -/
theorem run_invariant {I : σ → Prop} (hstep : ∀ s e t, I s → L.step s e t → I t) :
    ∀ {es : List ε} {s t : σ}, L.Run s es t → I s → I t := by
  intro es
  induction es with
  | nil =>
    intro s t h hI
    exact run_nil.mp h ▸ hI
  | cons e es ih =>
    intro s t h hI
    obtain ⟨u, hu, hr⟩ := h
    exact ih hr (hstep s e u hI hu)

/-! ## Systems given by a function -/

/-- The system in which `next` says what an event does, and whether it can happen. -/
def ofFn (init : σ → Prop) (next : σ → ε → Option σ) : Lts σ ε where
  init := init
  step s e t := next s e = some t

/-- A run of such a system can be computed. -/
theorem run_ofFn {init : σ → Prop} {next : σ → ε → Option σ} {es : List ε} :
    ∀ {s t : σ}, (ofFn init next).Run s es t ↔ es.foldlM next s = some t := by
  induction es with
  | nil =>
    intro s t
    exact ⟨congrArg some, Option.some.inj⟩
  | cons e es ih =>
    intro s t
    rw [List.foldlM_cons]
    constructor
    · intro h
      obtain ⟨u, hu, hr⟩ := h
      rw [show next s e = some u from hu]
      exact ih.mp hr
    · intro h
      obtain ⟨u, hu, hr⟩ := Option.bind_eq_some_iff.mp h
      exact ⟨u, hu, ih.mpr hr⟩

/-- What a computed run leads to is reached. -/
theorem exists_hist_of_any {init : σ → Prop} {next : σ → ε → Option σ} {p : σ → Prop}
    [DecidablePred p] {es : List ε} {s : σ} (h : init s)
    (hrun : (es.foldlM next s).any (fun t => decide (p t)) = true) :
    ∃ t, (ofFn init next).Hist es t ∧ p t := by
  obtain ⟨t, ht, hp⟩ := (Option.any_eq_true ..).mp hrun
  exact ⟨t, ⟨s, h, run_ofFn.mpr ht⟩, of_decide_eq_true hp⟩

/-! ## Logs -/

/-- Something of kind `Began` is in the history, and nothing of kind `Ended` after it. -/
def Since (Began Ended : ε → Prop) (es : List ε) : Prop :=
  ∃ before e after, es = before ++ e :: after ∧ Began e ∧ ∀ e' ∈ after, ¬ Ended e'

theorem Since.of_last {Began Ended : ε → Prop} (es : List ε) {e : ε} (he : Began e) :
    Since Began Ended (es ++ [e]) := ⟨es, e, [], rfl, he, by simp⟩

theorem Since.concat {Began Ended : ε → Prop} {es : List ε} {e : ε} (h : Since Began Ended es)
    (he : ¬ Ended e) : Since Began Ended (es ++ [e]) := by
  obtain ⟨before, e₀, after, rfl, h₀, hafter⟩ := h
  refine ⟨before, e₀, after ++ [e], by simp, h₀, ?_⟩
  intro e' he'
  rcases List.mem_append.mp he' with hmem | hmem
  · exact hafter e' hmem
  · exact List.mem_singleton.mp hmem ▸ he

/-! ## Properties of every step of a history -/

/-- Every step of the history `es`, which led to `t`, satisfies `P`. -/
def Always (L : Lts σ ε) (P : σ → ε → σ → Prop) (es : List ε) (t : σ) : Prop :=
  ∀ es₁ e es₂ s₁ s₂, es = es₁ ++ e :: es₂ → L.Hist es₁ s₁ → L.step s₁ e s₂ →
    L.Run s₂ es₂ t → P s₁ e s₂

/-- What follows from `P` at every reachable step follows from `P` at every step. -/
theorem Always.imp {P Q : σ → ε → σ → Prop} {es : List ε} {t : σ} (h : L.Always P es t)
    (hPQ : ∀ es s e s', L.Hist es s → L.step s e s' → P s e s' → Q s e s') : L.Always Q es t :=
  fun es₁ e es₂ s₁ s₂ hes h₁ hs hr => hPQ es₁ s₁ e s₂ h₁ hs (h es₁ e es₂ s₁ s₂ hes h₁ hs hr)

/-- **The conditional history rule**: an invariant that steps satisfying `P`
preserve holds along a history whose steps all satisfy `P`. -/
theorem Always.induct {P : σ → ε → σ → Prop} {I : σ → Prop} (h₀ : ∀ s, L.init s → I s)
    (hstep : ∀ s e s', I s → L.step s e s' → P s e s' → I s') :
    ∀ {es : List ε} {t : σ}, L.Hist es t → L.Always P es t → I t := by
  intro es
  induction es using List.reverseRecOn with
  | nil =>
    intro t h _
    obtain ⟨s₀, hi, hr⟩ := h
    exact run_nil.mp hr ▸ h₀ s₀ hi
  | append_singleton es e ih =>
    intro t h hP
    obtain ⟨s₀, hi, hr⟩ := h
    obtain ⟨s, hr', hs⟩ := run_concat.mp hr
    have hh : L.Hist es s := ⟨s₀, hi, hr'⟩
    refine hstep s e t (ih hh ?_) hs (hP es e [] s t rfl hh hs rfl)
    intro es₁ e₁ es₂ s₁ s₂ heq h₁ hs₁ hr₂
    obtain rfl := heq
    exact hP es₁ e₁ (es₂ ++ [e]) s₁ s₂ (by simp) h₁ hs₁ (run_concat.mpr ⟨s, hr₂, hs⟩)

/-- A history that satisfies `P` at every step does so up to any of its steps. -/
theorem Always.before {P : σ → ε → σ → Prop} {es es₁ es₂ : List ε} {e : ε} {s₁ s₂ t : σ}
    (h : L.Always P es t) (hes : es = es₁ ++ e :: es₂) (hs : L.step s₁ e s₂)
    (hr : L.Run s₂ es₂ t) : L.Always P es₁ s₁ := by
  intro es₃ e' es₄ s₃ s₄ heq h₃ hs₃ hr₃
  obtain rfl := heq
  exact h es₃ e' (es₄ ++ e :: es₂) s₃ s₄ (by simp [hes]) h₃ hs₃
    (run_append.mpr ⟨s₁, hr₃, s₂, hs, hr⟩)

/-- **The exact history rule**: where `C` says of every step from a state in `I` whether
it stays in `I`, a history keeps `I` if and only if all its steps satisfy `C`. -/
theorem always_iff {I : σ → Prop} {C : σ → ε → σ → Prop} (h₀ : ∀ s, L.init s → I s)
    (hstep : ∀ s e s', I s → L.step s e s' → (I s' ↔ C s e s')) {es : List ε} {t : σ} :
    L.Always (fun _ _ s' => I s') es t ↔ L.Always C es t := by
  constructor
  · intro h es₁ e es₂ s₁ s₂ hes h₁ hs hr
    have hI : I s₁ := Always.induct h₀ (fun _ _ _ _ _ hP => hP) h₁ (h.before hes hs hr)
    exact (hstep s₁ e s₂ hI hs).mp (h es₁ e es₂ s₁ s₂ hes h₁ hs hr)
  · intro h es₁ e es₂ s₁ s₂ hes h₁ hs hr
    have hI : I s₁ := Always.induct h₀ (fun s e s' hI hs hC => (hstep s e s' hI hs).mpr hC) h₁
      (h.before hes hs hr)
    exact (hstep s₁ e s₂ hI hs).mpr (h es₁ e es₂ s₁ s₂ hes h₁ hs hr)

/-- One step of a history that breaks `P`, the last, is enough. -/
theorem not_always_of_last {P : σ → ε → σ → Prop} {es : List ε} {e : ε} {s t : σ}
    (h : L.Hist es s) (hs : L.step s e t) (hP : ¬ P s e t) : ¬ L.Always P (es ++ [e]) t :=
  fun hall => hP (hall es e [] s t rfl h hs rfl)

/-- A computed run whose last step cannot satisfy `P`. -/
theorem exists_not_always {init : σ → Prop} {next : σ → ε → Option σ} {P : σ → ε → σ → Prop}
    {p : σ → Prop} [DecidablePred p] {s : σ} {es l : List ε} {e : ε} (h : init s)
    (hes : es = l ++ [e]) (hP : ∀ u t, P u e t → p t)
    (hrun : (es.foldlM next s).any (fun t => decide (¬ p t)) = true) :
    ∃ t, (ofFn init next).Hist es t ∧ ¬ (ofFn init next).Always P es t := by
  obtain rfl := hes
  obtain ⟨t, ⟨s₀, h₀, hr⟩, hp⟩ := exists_hist_of_any (p := fun t => ¬ p t) h hrun
  obtain ⟨u, hu, hs⟩ := run_concat.mp hr
  exact ⟨t, ⟨s₀, h₀, hr⟩, not_always_of_last ⟨s₀, h₀, hu⟩ hs (mt (hP u t) hp)⟩

/-- Whatever states the events `es` lead through from `s`, each step satisfies `P`. -/
def Along (L : Lts σ ε) (P : σ → ε → σ → Prop) : σ → List ε → Prop
  | _, [] => True
  | s, e :: es => ∀ s', L.step s e s' → P s e s' ∧ L.Along P s' es

theorem Along.at_step {P : σ → ε → σ → Prop} {es₁ es₂ : List ε} {e : ε} :
    ∀ {s s₁ s₂ : σ}, L.Along P s (es₁ ++ e :: es₂) → L.Run s es₁ s₁ → L.step s₁ e s₂ →
      P s₁ e s₂ := by
  induction es₁ with
  | nil =>
    intro s s₁ s₂ h hr hs
    obtain rfl := run_nil.mp hr
    exact (h s₂ hs).1
  | cons c es₁ ih =>
    intro s s₁ s₂ h hr hs
    obtain ⟨u, hu, hr'⟩ := hr
    exact ih (h u hu).2 hr' hs

/-- To check a history, follow its events from the initial states. -/
theorem Always.of_along {P : σ → ε → σ → Prop} {es : List ε} {t : σ}
    (h : ∀ s, L.init s → L.Along P s es) : L.Always P es t := by
  intro es₁ e es₂ s₁ s₂ hes h₁ hs _
  obtain rfl := hes
  obtain ⟨s₀, h₀, hr⟩ := h₁
  exact (h s₀ h₀).at_step hr hs

/-- Follows the events from `s` as far as they go, and checks each step. -/
def checkRun (next : σ → ε → Option σ) (p : σ → ε → Bool) : σ → List ε → Bool
  | _, [] => true
  | s, e :: es => p s e && (next s e).all fun t => checkRun next p t es

theorem along_of_checkRun {init : σ → Prop} {next : σ → ε → Option σ} {P : σ → ε → Prop}
    [∀ s e, Decidable (P s e)] {es : List ε} :
    ∀ {s : σ}, checkRun next (fun s e => decide (P s e)) s es = true →
      (ofFn init next).Along (fun s e _ => P s e) s es := by
  induction es with
  | nil => exact fun _ => trivial
  | cons e es ih =>
    intro s h t ht
    rw [checkRun, Bool.and_eq_true, decide_eq_true_eq, show next s e = some t from ht] at h
    exact ⟨h.1, ih h.2⟩

end Lts
