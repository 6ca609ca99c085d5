import Sovd.Bytes
import Sovd.Lib.Lts

/-!
# The lock of the web UI (`web/src/composables/useLock.ts`)

While someone edits the data of an entity in the browser, the page holds the lock of the
entity: it acquires it, renews it by a timer and releases it when the editing ends, the
view is left or the page is closed. None of this waits for anything else, so an event can
come between a request and its answer.

`Sound` is what the page owes the server: it releases a lock under the entity that the lock
was acquired for, it leaves none behind, and it renews none after the release. It holds
while two things do not happen (`Meets`): that another entity is selected with a lock
held, and that a lock arrives which the page does not expect any more.

Mirroring notes vs the TypeScript:
- `DataTable` calls `useLock` once, and `getPath` reads its `props.path`.
- The watcher of `props.path` runs in the update that changes it, so no promise is settled
  between the two.
- A request leaves when the call is made. `acquire` goes on with its answer, and after
  `releaseLock` there is nothing to go on with.
- A lock id is never empty, and so never a false one.
- Without the component nobody calls `acquire` or `release`, and `props.path` stays as it is.
-/

namespace Sovd

variable {α β : Type}

/-- `useLock` and the component it belongs to. The last three fields are the answers and
requests there have been. -/
structure LockUi (α β : Type) where
  path : Option α
  mounted : Bool := true
  lockId : Option β := none
  heartbeatTimer : Option ℕ := none
  /-- the intervals that run, and what each renews -/
  intervals : List (ℕ × Option α) := []
  nextTimer : ℕ := 0
  /-- the calls of `acquire` that wait, and the path each has read -/
  pending : List (Option α) := []
  acquired : List (Option α × β) := []
  released : List (Option α × β) := []
  renewed : List (Option α × β) := []

/-- What the user, the server, the timer and the router do. -/
inductive LockUiEvent (α β : Type)
  | acquire
  | acquired (call : ℕ) (id : β)
  | acquireFailed (call : ℕ)
  | release
  | select (path : Option α)
  | unmount
  | beforeunload
  | tick (timer : ℕ)

namespace LockUi

/-- `stopHeartbeat` -/
def stopHeartbeat (s : LockUi α β) : LockUi α β :=
  match s.heartbeatTimer with
  | none => s
  | some t =>
    { s with intervals := s.intervals.filter fun i => i.1 ≠ t, heartbeatTimer := none }

/-- `release`: it is sent with the path that is shown by then. -/
def release (s : LockUi α β) : LockUi α β :=
  let s := s.stopHeartbeat
  match s.lockId with
  | none => s
  | some id => { s with lockId := none, released := s.released ++ [(s.path, id)] }

/-- The same without an answer; where a lock was acquired, the API base is known. -/
def releaseBestEffort (s : LockUi α β) : LockUi α β := s.release

/-- `acquire`, up to where it waits. -/
def acquire (s : LockUi α β) : LockUi α β := { s with pending := s.pending ++ [s.path] }

/-- The rest of the call that has read `path`. -/
def onAcquired (s : LockUi α β) (path : Option α) (id : β) : LockUi α β :=
  { s with
    lockId := some id
    intervals := s.intervals ++ [(s.nextTimer, path)]
    heartbeatTimer := some s.nextTimer
    nextTimer := s.nextTimer + 1
    acquired := s.acquired ++ [(path, id)] }

/-- The callback of an interval. -/
def renew (s : LockUi α β) (path : Option α) : LockUi α β :=
  match s.lockId with
  | none => s
  | some id => { s with renewed := s.renewed ++ [(path, id)] }

/-- `props.path` changes, and the watcher of it runs. -/
def select [DecidableEq α] (s : LockUi α β) (path : Option α) : LockUi α β :=
  let prev := s.path
  let s := { s with path := path }
  if path ≠ prev ∧ prev.isSome ∧ s.lockId.isSome then s.release else s

/-- What each event makes of the composable; `none`: it cannot happen. -/
def next [DecidableEq α] (s : LockUi α β) : LockUiEvent α β → Option (LockUi α β)
  | .acquire => if s.mounted then some s.acquire else none
  | .acquired call id =>
    s.pending[call]?.map fun path =>
      { s with pending := s.pending.eraseIdx call }.onAcquired path id
  | .acquireFailed call =>
    s.pending[call]?.map fun _ => { s with pending := s.pending.eraseIdx call }
  | .release => if s.mounted then some s.release else none
  | .select path => if s.mounted then some (s.select path) else none
  | .unmount => if s.mounted then some { s with mounted := false }.release else none
  -- the listener is gone with the component
  | .beforeunload => some (if s.mounted then s.releaseBestEffort else s)
  | .tick timer => (s.intervals.find? fun i => i.1 = timer).map fun i => s.renew i.2

/-- The page before anything has happened. -/
def Fresh (s : LockUi α β) : Prop := s = { path := s.path }

/-- Every history of it. -/
def runs (α β : Type) [DecidableEq α] : Lts (LockUi α β) (LockUiEvent α β) := Lts.ofFn Fresh next

end LockUi

/-- The events on which the page releases what it holds. -/
def LockUiEvent.Releases : LockUiEvent α β → Prop
  | .release => True
  | .unmount => True
  | .beforeunload => True
  | _ => False

namespace LockUi

/-! ## One lock, one interval -/

/-- At most one lock is held, under the entity that is selected, and one interval renews it. -/
structure Keeps (s : LockUi α β) : Prop where
  names : ∀ r ∈ s.released, r ∈ s.acquired
  kept : ∀ a ∈ s.acquired, a ∈ s.released ∨ ∃ id ∈ s.lockId, a = (s.path, id)
  held : ∀ id ∈ s.lockId, (s.path, id) ∈ s.acquired ∧
    ∃ t, s.heartbeatTimer = some t ∧ s.intervals = [(t, s.path)]
  free : s.lockId = none → s.heartbeatTimer = none ∧ s.intervals = []

theorem keeps_of_fresh {s : LockUi α β} (h : s.Fresh) : s.Keeps := by
  rw [h]
  exact ⟨fun _ hr => absurd hr List.not_mem_nil, fun _ ha => absurd ha List.not_mem_nil,
    fun _ hid => absurd hid (by simp), fun _ => ⟨rfl, rfl⟩⟩

/-- Where no lock is held, every lock has been released. -/
theorem Keeps.all_released {s : LockUi α β} (h : s.Keeps) (hlock : s.lockId = none) :
    ∀ a ∈ s.acquired, a ∈ s.released := by
  intro a ha
  rcases h.kept a ha with hreleased | ⟨id, hid, -⟩
  · exact hreleased
  · rw [hlock] at hid
    cases hid

theorem release_of_free {s : LockUi α β} (hlock : s.lockId = none)
    (htimer : s.heartbeatTimer = none) : s.release = s := by
  simp [release, stopHeartbeat, hlock, htimer]

/-- The release of a lock, and of the only interval there is. -/
theorem release_of_held {s : LockUi α β} {id : β} {t : ℕ} (hlock : s.lockId = some id)
    (htimer : s.heartbeatTimer = some t) (hintervals : s.intervals = [(t, s.path)]) :
    s.release = { s with
      lockId := none, heartbeatTimer := none, intervals := [],
      released := s.released ++ [(s.path, id)] } := by
  simp [release, stopHeartbeat, hlock, htimer, hintervals]

/-- After a release no lock is held and no interval runs. -/
theorem Keeps.release {s : LockUi α β} (h : s.Keeps) :
    s.release.Keeps ∧ s.release.lockId = none ∧ s.release.acquired = s.acquired := by
  cases hlock : s.lockId with
  | none =>
    rw [release_of_free hlock (h.free hlock).1]
    exact ⟨h, hlock, rfl⟩
  | some id =>
    obtain ⟨hacquired, t, htimer, hintervals⟩ := h.held id hlock
    rw [release_of_held hlock htimer hintervals]
    refine ⟨⟨fun r hr => ?_, fun a ha => .inl ?_, fun _ hid => absurd hid (by simp),
      fun _ => ⟨rfl, rfl⟩⟩, rfl, rfl⟩
    · rcases List.mem_append.mp hr with hr | hr
      · exact h.names r hr
      · rw [List.mem_singleton.mp hr]
        exact hacquired
    · rcases h.kept a ha with hreleased | ⟨id', hid', rfl⟩
      · exact List.mem_append_left _ hreleased
      · obtain rfl := Option.some.inj (hlock.symm.trans hid')
        exact List.mem_append_right _ (List.mem_singleton.mpr rfl)

theorem Keeps.onAcquired {s : LockUi α β} (h : s.Keeps) (hlock : s.lockId = none) (id : β) :
    (s.onAcquired s.path id).Keeps := by
  refine ⟨fun r hr => List.mem_append_left _ (h.names r hr), fun a ha => ?_, fun id' hid' => ?_,
    fun hnone => by cases hnone⟩
  · rcases List.mem_append.mp ha with ha | ha
    · exact .inl (h.all_released hlock a ha)
    · exact .inr ⟨id, rfl, List.mem_singleton.mp ha⟩
  · obtain rfl := Option.some.inj hid'
    refine ⟨List.mem_append_right _ (List.mem_singleton.mpr rfl), s.nextTimer, rfl, ?_⟩
    simp only [LockUi.onAcquired, (h.free hlock).2, List.nil_append]

theorem Keeps.renew {s : LockUi α β} (h : s.Keeps) (path : Option α) : (s.renew path).Keeps := by
  unfold LockUi.renew
  split
  next => exact h
  next => exact ⟨h.names, h.kept, h.held, h.free⟩

theorem Keeps.select {s : LockUi α β} (h : s.Keeps) (hlock : s.lockId = none) (path : Option α) :
    { s with path := path }.Keeps := by
  refine ⟨h.names, fun a ha => .inl (h.all_released hlock a ha), fun id hid => ?_, h.free⟩
  rw [show s.lockId = some id from hid] at hlock
  cases hlock

section

variable [DecidableEq α]

theorem select_of_free {s : LockUi α β} (hlock : s.lockId = none) (path : Option α) :
    s.select path = { s with path := path } := by
  simp [select, hlock]

/-! ## Runs -/

/-- **What the page owes the server.** -/
structure Sound (s : LockUi α β) : Prop where
  /-- A release names the entity that the lock was acquired for. -/
  names : ∀ r ∈ s.released, r ∈ s.acquired
  /-- By the next releasing event at the latest, every lock has been released. -/
  all_released : ∀ e s', e.Releases → s.next e = some s' → ∀ a ∈ s.acquired, a ∈ s'.released
  /-- And then no interval is left. -/
  no_interval : ∀ e s', e.Releases → s.next e = some s' → s'.intervals = []

/-- An entity is selected while no lock is held. A lock arrives while the component is
there and holds none, and the entity it was asked for is still the selected one. -/
def Meets (s : LockUi α β) : LockUiEvent α β → Prop
  | .select _ => s.lockId = none
  | .acquired call _ => s.mounted = true ∧ s.lockId = none ∧ s.pending[call]? = some s.path
  | _ => True

/-- What a run keeps that meets the condition. -/
def Tidy (s : LockUi α β) : Prop := s.Keeps ∧ (s.mounted = false → s.lockId = none)

theorem Tidy.next {s s' : LockUi α β} {e : LockUiEvent α β} (h : s.Tidy)
    (hnext : s.next e = some s') (hmeets : s.Meets e) : s'.Tidy := by
  obtain ⟨hkeeps, hgone⟩ := h
  cases e with
  | acquire =>
    simp only [LockUi.next, Option.ite_none_right_eq_some, Option.some.injEq] at hnext
    obtain ⟨-, rfl⟩ := hnext
    exact ⟨⟨hkeeps.names, hkeeps.kept, hkeeps.held, hkeeps.free⟩, hgone⟩
  | acquired call id =>
    -- by the condition the page is still there and holds nothing
    obtain ⟨hmounted, hlock, hcall⟩ := hmeets
    simp only [LockUi.next, hcall, Option.map_some, Option.some.injEq] at hnext
    obtain rfl := hnext
    have hpending : { s with pending := s.pending.eraseIdx call }.Keeps :=
      ⟨hkeeps.names, hkeeps.kept, hkeeps.held, hkeeps.free⟩
    refine ⟨hpending.onAcquired hlock id, fun hnot => ?_⟩
    rw [show s.mounted = false from hnot] at hmounted
    cases hmounted
  | acquireFailed call =>
    simp only [LockUi.next, Option.map_eq_some_iff] at hnext
    obtain ⟨-, -, rfl⟩ := hnext
    exact ⟨⟨hkeeps.names, hkeeps.kept, hkeeps.held, hkeeps.free⟩, hgone⟩
  | release =>
    simp only [LockUi.next, Option.ite_none_right_eq_some, Option.some.injEq] at hnext
    obtain ⟨-, rfl⟩ := hnext
    exact ⟨hkeeps.release.1, fun _ => hkeeps.release.2.1⟩
  | select path =>
    simp only [LockUi.next, Option.ite_none_right_eq_some, Option.some.injEq] at hnext
    obtain ⟨-, rfl⟩ := hnext
    -- nothing is held, so the watcher has nothing to release
    rw [select_of_free hmeets]
    exact ⟨hkeeps.select hmeets path, hgone⟩
  | unmount =>
    simp only [LockUi.next, Option.ite_none_right_eq_some, Option.some.injEq] at hnext
    obtain ⟨-, rfl⟩ := hnext
    have hunmounted : { s with mounted := false }.Keeps :=
      ⟨hkeeps.names, hkeeps.kept, hkeeps.held, hkeeps.free⟩
    exact ⟨hunmounted.release.1, fun _ => hunmounted.release.2.1⟩
  | beforeunload =>
    obtain rfl := Option.some.inj hnext
    split
    · exact ⟨hkeeps.release.1, fun _ => hkeeps.release.2.1⟩
    · exact ⟨hkeeps, hgone⟩
  | tick timer =>
    simp only [LockUi.next, Option.map_eq_some_iff] at hnext
    obtain ⟨i, -, rfl⟩ := hnext
    -- a renewal keeps the lock or loses it
    refine ⟨hkeeps.renew i.2, fun hnot => ?_⟩
    unfold LockUi.renew at hnot ⊢
    split at hnot
    next hlock => exact hlock
    next id hlock =>
      rw [hgone hnot] at hlock
      cases hlock

/-- What a releasing event leads to holds no lock. -/
theorem Tidy.releases {s s' : LockUi α β} {e : LockUiEvent α β} (h : s.Tidy) (he : e.Releases)
    (hnext : s.next e = some s') :
    s'.Keeps ∧ s'.lockId = none ∧ s'.acquired = s.acquired := by
  obtain ⟨hkeeps, hgone⟩ := h
  cases e with
  | release =>
    simp only [LockUi.next, Option.ite_none_right_eq_some, Option.some.injEq] at hnext
    obtain ⟨-, rfl⟩ := hnext
    exact hkeeps.release
  | unmount =>
    simp only [LockUi.next, Option.ite_none_right_eq_some, Option.some.injEq] at hnext
    obtain ⟨-, rfl⟩ := hnext
    have hunmounted : { s with mounted := false }.Keeps :=
      ⟨hkeeps.names, hkeeps.kept, hkeeps.held, hkeeps.free⟩
    exact hunmounted.release
  | beforeunload =>
    obtain rfl := Option.some.inj hnext
    split
    · exact hkeeps.release
    next hnot => exact ⟨hkeeps, hgone (by simpa using hnot), rfl⟩
  | _ => cases he

theorem Tidy.sound {s : LockUi α β} (h : s.Tidy) : s.Sound where
  names := h.1.names
  all_released := by
    intro e s' he hnext a ha
    obtain ⟨hkeeps, hlock, hacquired⟩ := h.releases he hnext
    exact hkeeps.all_released hlock a (hacquired ▸ ha)
  no_interval := by
    intro e s' he hnext
    obtain ⟨hkeeps, hlock, -⟩ := h.releases he hnext
    exact (hkeeps.free hlock).2

/-- **The browser releases the lock it took**, in every run in which entities are selected
without a lock, and locks arrive when they are expected. -/
theorem lock_released {es : List (LockUiEvent α β)} {s : LockUi α β}
    (hrun : (runs α β).Hist es s) (hmeets : (runs α β).Always (fun s e _ => s.Meets e) es s) :
    s.Sound := by
  have htidy : s.Tidy := by
    refine Lts.Always.induct (fun s hs => ⟨keeps_of_fresh hs, fun _ => ?_⟩)
      (fun s e s' hI hs hP => hI.next hs hP) hrun hmeets
    rw [show s.Fresh from hs]
  exact htidy.sound

end

/-- A lock that is acquired and released. -/
theorem lock_released_once :
    ∃ s, (runs ℕ ℕ).Hist [.acquire, .acquired 0 7, .release] s ∧ s.Sound := by
  have hrun : (runs ℕ ℕ).Hist [.acquire, .acquired 0 7, .release]
      { path := some 1, nextTimer := 1, acquired := [(some 1, 7)], released := [(some 1, 7)] } :=
    ⟨{ path := some 1 }, rfl, Lts.run_ofFn.mpr rfl⟩
  refine ⟨_, hrun, lock_released hrun (.of_along fun s₀ hs₀ => ?_)⟩
  rw [show s₀ = { path := s₀.path } from hs₀]
  intro s₁ h₁
  obtain rfl := Option.some.inj h₁
  exact ⟨trivial, fun s₂ _ => ⟨⟨rfl, rfl, rfl⟩, fun s₃ _ => ⟨trivial, trivial⟩⟩⟩

/-- Another entity is selected while the lock is held: the release names the new one. And a
lock that arrives when the view has been left stays behind. -/
theorem lock_left_behind :
    (∃ s, (runs ℕ ℕ).Hist [.acquire, .acquired 0 7, .select (some 2)] s ∧
      s.acquired = [(some 1, 7)] ∧ s.released = [(some 2, 7)] ∧ ¬ s.Sound) ∧
    (∃ s, (runs ℕ ℕ).Hist [.acquire, .unmount, .acquired 0 7, .beforeunload] s ∧
      s.acquired = [(some 1, 7)] ∧ s.released = [] ∧ ¬ s.Sound) := by
  constructor
  · have hrun : (runs ℕ ℕ).Hist [.acquire, .acquired 0 7, .select (some 2)]
        { path := some 2, nextTimer := 1, acquired := [(some 1, 7)], released := [(some 2, 7)] } :=
      ⟨{ path := some 1 }, rfl, Lts.run_ofFn.mpr rfl⟩
    refine ⟨_, hrun, rfl, rfl, fun hsound => ?_⟩
    exact absurd (hsound.names (some 2, 7) (by decide)) (by decide)
  · have hrun : (runs ℕ ℕ).Hist [.acquire, .unmount, .acquired 0 7, .beforeunload]
        { path := some 1, mounted := false, lockId := some 7, heartbeatTimer := some 0,
          intervals := [(0, some 1)], nextTimer := 1, acquired := [(some 1, 7)] } :=
      ⟨{ path := some 1 }, rfl, Lts.run_ofFn.mpr rfl⟩
    refine ⟨_, hrun, rfl, rfl, fun hsound => ?_⟩
    exact absurd (hsound.all_released .beforeunload _ trivial rfl (some 1, 7) (by decide))
      (by decide)

end LockUi

end Sovd
