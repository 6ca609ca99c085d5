import Mathlib.Data.List.Chain
import Sovd.Uds.CallAtoms
import Sovd.Uds.SessionRuns

/-!
# The idle timeout (`SessionManager::heartbeat_loop`)

A lock that expires tells nobody, so the session manager ends a session by itself once no
call for which the lock is needed has touched it for the idle timeout. A client that goes
on making such calls is to keep its session.

What touches the session is not the call but two functions of the manager,
`ensure_session` and `ensure_security_level`, and whether a call comes by one of them
depends on the catalog: clearing faults never does, a write only if the data item asks for
a session or a level, an operation only if it asks for a session (`TouchesSession`).

`runs` lets calls, the rounds of the heartbeat and the time go on side by side, atom by
atom. `never_idled` says of every run whose successful calls all touch the session, less
than the idle timeout apart from start to start, that no round finds it idle. A client
that clears faults every four seconds loses its session after six
(`clearing_client_idled_out`).
-/

namespace Sovd

open Atoms SessionManager

/-- A call that was made: when it began, and what is left of it. -/
structure CallInProgress where
  call : LockedCall
  began : Time
  progress : Prog SessionManager SovdResult

/-- An entity whose session was last touched `since` then, and the calls made from then on. -/
structure ActiveSys where
  manager : SessionManager
  since : Time
  calls : List CallInProgress := []

/-- What can happen while calls are under way. -/
inductive ActiveEvent
  /-- A call begins, with its first atom. -/
  | begin (call : LockedCall)
  /-- The next atom of a call. -/
  | resume (i : Nat)
  /-- An exchange of a call that needs no lock. -/
  | read (request : Bytes)
  | heartbeat
  | wait (after : Nat)
  deriving DecidableEq

namespace ActiveSys

/-- A call takes its next step, or the heartbeat thread, the ECU or the clock does. -/
def next (c : UdsContext) (s : ActiveSys) : ActiveEvent → Option ActiveSys
  | .begin call =>
    let (progress, manager) := (c.prog call).step s.manager
    some { s with manager, calls := s.calls ++ [⟨call, s.manager.now, progress⟩] }
  | .resume i =>
    match s.calls[i]? with
    | none => none
    | some r =>
      let (progress, manager) := r.progress.step s.manager
      some { s with manager, calls := s.calls.set i { r with progress } }
  | .read request => some { s with manager := (send c.bus request s.manager).2 }
  | .heartbeat =>
    if s.manager.heartbeatRunning then
      some { s with manager := heartbeatTick c.config c.bus s.manager }
    else none
  | .wait after => some { s with manager := s.manager.wait after }

/-- The session is escalated, and there are no calls yet. -/
structure Escalated (s : ActiveSys) : Prop where
  calls : s.calls = []
  since : s.since = s.manager.lastTouch
  touched : s.manager.lastTouch ≤ s.manager.now
  session : s.manager.currentSessionType ≠ 0x01
  heartbeat : s.manager.heartbeatRunning = true

/-- The runs of an entity in an escalated session. -/
def runs (c : UdsContext) : Lts ActiveSys ActiveEvent := Lts.ofFn Escalated (next c)

/-- The calls that have come to an end, and were successful. -/
def successes (s : ActiveSys) : List CallInProgress :=
  s.calls.filter fun r => r.progress.result? = some .ok

/-- From the last touch before the run until now, one successful call has followed the
other in less than the idle timeout. -/
def ActiveClient (cfg : SessionManagerConfig) (s : ActiveSys) : Prop :=
  (s.since :: s.successes.map CallInProgress.began ++ [s.manager.now]).IsChain
    fun earlier later => later - earlier < cfg.idleTimeoutMs * 1000000

instance (cfg : SessionManagerConfig) (s : ActiveSys) : Decidable (s.ActiveClient cfg) :=
  inferInstanceAs (Decidable (List.IsChain _ _))

/-- A round of the heartbeat does not find the session idle. -/
def NotIdled (c : UdsContext) (s : ActiveSys) (e : ActiveEvent) (_ : ActiveSys) : Prop :=
  e = .heartbeat → s.manager.idle c.config = false

end ActiveSys

/-- The call comes by one of the functions that touch the session. -/
def TouchesSession (c : UdsContext) : LockedCall → Prop
  | .writeData did _ => ∃ d, parseHexU16 did = some d ∧
      (((c.findByDid d).bind DataItem.requiresSession).bind Uds.sessionNameToType ≠ none ∨
        (c.findByDid d).bind DataItem.requiresSecurityLevel ≠ none)
  | .clearFaults => False
  | .executeOperation op => ((c.catalogData.bind fun cat => cat.findOperation op).bind
      Operation.requiresSession).bind Uds.sessionNameToType ≠ none
  | .setMode mode => mode ≠ str "default" ∧ Uds.sessionNameToType mode ≠ none

/-! ## Calls -/

/-- Time goes on, and the last touch with it. -/
def Later (s s' : SessionManager) : Prop :=
  s.lastTouch ≤ s.now → s.now ≤ s'.now ∧ s.lastTouch ≤ s'.lastTouch ∧ s'.lastTouch ≤ s'.now

/-- Nothing happened. -/
theorem Later.refl (s : SessionManager) : Later s s := fun h => ⟨le_rfl, le_rfl, h⟩

/-- Only the bookkeeping is changed. -/
theorem later_of_eq {s s' : SessionManager} (hnow : s'.now = s.now)
    (htouch : s'.lastTouch = s.lastTouch) : Later s s' :=
  fun h => ⟨hnow.ge, htouch.ge, by rwa [htouch, hnow]⟩

/-- A touch is made at the present time. -/
theorem later_touch (s : SessionManager) : Later s s.touch := fun h => ⟨le_rfl, h, le_rfl⟩

theorem later_wait (after : Nat) (s : SessionManager) : Later s (s.wait after) := by
  intro h
  have hnow : s.now ≤ (s.wait after).now := Int.le_add_of_nonneg_right (Int.natCast_nonneg after)
  exact ⟨hnow, le_rfl, h.trans hnow⟩

section

variable {bus : Bus}

/-- An exchange takes its time. -/
theorem later_send (request : Bytes) (s : SessionManager) : Later s (send bus request s).2 :=
  later_wait (bus.delay s.wire request) s

/-- A round of the heartbeat touches nothing. -/
theorem later_heartbeatTick (cfg : SessionManagerConfig) (s : SessionManager) :
    Later s (heartbeatTick cfg bus s) := by
  unfold heartbeatTick
  split_ifs
  · exact later_of_eq rfl rfl
  · exact later_send _ s

/-- The steps of an exchange touch nothing back in time. -/
theorem within_sendProg (request : Bytes) : (sendProg bus request).Within Later :=
  fun s => ⟨later_send request s, trivial⟩

/-- Neither do those of `ensure_session`. -/
theorem within_ensureSessionProg (t : UInt8) : (ensureSessionProg bus t).Within Later := by
  intro s
  refine ⟨later_touch s, ?_⟩
  dsimp only
  split_ifs
  · trivial
  · refine (within_sendProg _).bind fun resp => ?_
    split_ifs
    · exact fun s₁ => ⟨later_of_eq rfl rfl, fun s₂ => ⟨later_of_eq rfl rfl, trivial⟩⟩
    · trivial

theorem within_revertToDefaultProg : (revertToDefaultProg bus).Within Later := by
  intro s
  refine ⟨.refl s, ?_⟩
  dsimp only
  split_ifs
  · exact fun s₁ => ⟨later_of_eq rfl rfl, trivial⟩
  · refine (within_sendProg _).bind fun resp => ?_
    exact fun s₁ => ⟨later_of_eq rfl rfl, fun s₂ => ⟨later_of_eq rfl rfl, trivial⟩⟩

/-- Neither do those of `ensure_security_level`. -/
theorem within_ensureSecurityLevelProg (l : UInt8) :
    (ensureSecurityLevelProg bus l).Within Later := by
  intro s
  refine ⟨later_touch s, ?_⟩
  dsimp only
  split_ifs
  · trivial
  · refine (within_sendProg _).bind fun seedResp => ?_
    split
    · trivial
    · refine (within_sendProg _).bind fun keyResp => ?_
      split_ifs
      · exact fun s₁ => ⟨later_of_eq rfl rfl, trivial⟩
      · trivial

end

section

variable (c : UdsContext)

/-- Neither do those of the session of an item. -/
theorem within_ensureSessionNamedProg (name : Option Bytes) :
    (c.ensureSessionNamedProg name).Within Later := by
  unfold UdsContext.ensureSessionNamedProg
  split
  · trivial
  · exact within_ensureSessionProg _

theorem within_ensureSecurityForDidProg (did : UInt16) :
    (c.ensureSecurityForDidProg did).Within Later := by
  unfold UdsContext.ensureSecurityForDidProg
  split
  · trivial
  · exact within_ensureSecurityLevelProg _

theorem within_exchangeProg (request : Bytes) (positive : Bytes → Bool) :
    (c.exchangeProg request positive).Within Later := by
  refine (within_sendProg request).bind fun resp => ?_
  cases resp with
  | none => trivial
  | some resp => trivial

/-- A write touches nothing back in time. -/
theorem within_writeDataProg (did data : Bytes) : (c.writeDataProg did data).Within Later := by
  unfold UdsContext.writeDataProg
  split
  · trivial
  · refine (within_ensureSessionNamedProg c _).bind fun
      | false => trivial
      | true => (within_ensureSecurityForDidProg c _).bind fun
        | false => trivial
        | true => ?_
    split_ifs
    · exact within_exchangeProg c _ _
    · exact within_exchangeProg c _ _

/-- **nor any call.** -/
theorem within_prog (call : LockedCall) : (c.prog call).Within Later := by
  cases call with
  | writeData did data => exact within_writeDataProg c did data
  | clearFaults => exact within_exchangeProg c _ _
  | executeOperation op =>
    unfold UdsContext.prog UdsContext.executeOperationProg
    dsimp only
    split
    · trivial
    · exact (within_ensureSessionNamedProg c _).bind fun
        | false => trivial
        | true => within_exchangeProg c _ _
  | setMode mode =>
    unfold UdsContext.prog UdsContext.setModeProg
    dsimp only
    split
    · exact within_revertToDefaultProg.bind fun _ => trivial
    · split
      · trivial
      · exact (within_ensureSessionProg _).bind fun _ => trivial

end

/-! ## Runs -/

/-- The first atom touches the session. -/
def TouchesFirst {α : Type} (p : Prog SessionManager α) : Prop := ∃ next, p = .atom touch next

/-- What begins with a touch does so whatever follows. -/
theorem TouchesFirst.bind {α β : Type} {p : Prog SessionManager α} (h : TouchesFirst p)
    (k : α → Prog SessionManager β) : TouchesFirst (p.bind k) := by
  obtain ⟨next, rfl⟩ := h
  exact ⟨fun s => (next s).bind k, rfl⟩

/-- A session that is known is touched first. -/
theorem touchesFirst_ensureSessionNamedProg (c : UdsContext) {name : Option Bytes}
    (h : name.bind Uds.sessionNameToType ≠ none) :
    TouchesFirst (c.ensureSessionNamedProg name) := by
  obtain ⟨t, ht⟩ := Option.ne_none_iff_exists'.mp h
  rw [UdsContext.ensureSessionNamedProg, ht]
  exact ⟨_, rfl⟩

/-- A write whose item asks for a session or a level begins with a touch. -/
theorem touchesFirst_writeDataProg {c : UdsContext} {did data : Bytes}
    (h : TouchesSession c (.writeData did data)) : TouchesFirst (c.writeDataProg did data) := by
  obtain ⟨d, hdid, hrequires⟩ := h
  rw [UdsContext.writeDataProg, hdid]
  dsimp only
  by_cases hsession :
      ((c.findByDid d).bind DataItem.requiresSession).bind Uds.sessionNameToType = none
  · -- no session that is known, so the level comes first
    obtain ⟨level, hlevel⟩ := Option.ne_none_iff_exists'.mp
      (hrequires.resolve_left (not_not.mpr hsession))
    have hlevelFirst : TouchesFirst (c.ensureSecurityForDidProg d) := by
      rw [UdsContext.ensureSecurityForDidProg, hlevel]
      exact ⟨_, rfl⟩
    rw [UdsContext.ensureSessionForDidProg, UdsContext.ensureSessionNamedProg, hsession]
    exact hlevelFirst.bind _
  · exact (touchesFirst_ensureSessionNamedProg c hsession).bind _

/-- An operation that asks for a session begins with a touch. -/
theorem touchesFirst_executeOperationProg {c : UdsContext} {op : Bytes}
    (h : TouchesSession c (.executeOperation op)) : TouchesFirst (c.executeOperationProg op) := by
  change ((c.catalogData.bind fun cat => cat.findOperation op).bind
    Operation.requiresSession).bind Uds.sessionNameToType ≠ none at h
  rw [UdsContext.executeOperationProg]
  cases hop : c.catalogData.bind fun cat => cat.findOperation op with
  | none =>
    rw [hop] at h
    exact absurd rfl h
  | some operation =>
    rw [hop] at h
    exact (touchesFirst_ensureSessionNamedProg c h).bind _

/-- Every call that touches the session begins with it. -/
theorem touchesFirst_prog {c : UdsContext} {call : LockedCall} (h : TouchesSession c call) :
    TouchesFirst (c.prog call) := by
  cases call with
  | writeData did data => exact touchesFirst_writeDataProg h
  | clearFaults => cases h
  | executeOperation op => exact touchesFirst_executeOperationProg h
  | setMode mode =>
    obtain ⟨hmode, hknown⟩ := h
    obtain ⟨t, ht⟩ := Option.ne_none_iff_exists'.mp hknown
    rw [UdsContext.prog, UdsContext.setModeProg, if_neg hmode, ht]
    exact ⟨_, rfl⟩

namespace ActiveSys

/-- The calls that were made, and when they began. -/
def made (s : ActiveSys) : List (LockedCall × Time) := s.calls.map fun r => (r.call, r.began)

/-- A list keeps an image that its new entry has as well. -/
theorem map_set_of_same {α β : Type} {f : α → β} {l : List α} {i : Nat} {a b : α}
    (h : l[i]? = some a) (hf : f b = f a) : (l.set i b).map f = l.map f := by
  induction l generalizing i with
  | nil => rfl
  | cons x l ih =>
    cases i with
    | zero =>
      obtain rfl := Option.some.inj h
      simp [hf]
    | succ i => simp [ih h]

/-- What a step can do: it may begin a call, which touches the session there and then if it
is one that does. -/
structure Advance (c : UdsContext) (s s' : ActiveSys) : Prop where
  since : s'.since = s.since
  manager : Later s.manager s'.manager
  made : s'.made = s.made ∨ ∃ call, s'.made = s.made ++ [(call, s.manager.now)] ∧
    (TouchesSession c call → s'.manager.lastTouch = s.manager.now)
  within : ∀ r ∈ s'.calls, r.progress.Within Later

/-- A step moves the clock forward, and touches the session only where a call does. -/
theorem advance {c : UdsContext} {s s' : ActiveSys} {e : ActiveEvent}
    (hwithin : ∀ r ∈ s.calls, r.progress.Within Later) (h : next c s e = some s') :
    Advance c s s' := by
  cases e with
  -- the first step of the call is taken with it
  | begin call =>
    obtain rfl := Option.some.inj h
    have hstep := (within_prog c call).step Later.refl s.manager
    refine ⟨rfl, hstep.1, .inr ⟨call, by simp [made], fun htouches => ?_⟩, fun r hr => ?_⟩
    · obtain ⟨next, hnext⟩ := touchesFirst_prog htouches
      rw [hnext]
      rfl
    · rcases List.mem_append.mp hr with hmem | hmem
      · exact hwithin r hmem
      · obtain rfl := List.mem_singleton.mp hmem
        exact hstep.2
  -- one more step of a call that is under way
  | resume i =>
    unfold next at h
    dsimp only at h
    split at h
    next => cases h
    next r hr =>
      obtain rfl := Option.some.inj h
      have hstep := (hwithin r (List.mem_of_getElem? hr)).step Later.refl s.manager
      refine ⟨rfl, hstep.1, .inl ?_, fun r' hr' => ?_⟩
      · exact map_set_of_same hr rfl
      · rcases List.mem_or_eq_of_mem_set hr' with hmem | rfl
        · exact hwithin r' hmem
        · exact hstep.2
  | read request =>
    obtain rfl := Option.some.inj h
    exact ⟨rfl, later_send request s.manager, .inl rfl, hwithin⟩
  | heartbeat =>
    obtain ⟨-, hs'⟩ := Option.ite_none_right_eq_some.mp h
    obtain rfl := Option.some.inj hs'
    exact ⟨rfl, later_heartbeatTick c.config s.manager, .inl rfl, hwithin⟩
  | wait after =>
    obtain rfl := Option.some.inj h
    exact ⟨rfl, later_wait after s.manager, .inl rfl, hwithin⟩

/-- What holds at every moment of a run. -/
structure Sound (c : UdsContext) (s : ActiveSys) : Prop where
  clock : s.manager.lastTouch ≤ s.manager.now
  since : s.since ≤ s.manager.lastTouch
  touched : ∀ k ∈ s.made, TouchesSession c k.1 → k.2 ≤ s.manager.lastTouch
  within : ∀ r ∈ s.calls, r.progress.Within Later

/-- The state in which a session was raised is a sound one. -/
theorem Escalated.sound {c : UdsContext} {s : ActiveSys} (h : s.Escalated) : s.Sound c where
  clock := h.touched
  since := h.since.le
  touched := by simp [made, h.calls]
  within := by simp [h.calls]

/-- One step: the last touch does not go back. -/
theorem Sound.step {c : UdsContext} {s s' : ActiveSys} {e : ActiveEvent} (h : s.Sound c)
    (hs : next c s e = some s') : s'.Sound c := by
  have hadvance := advance h.within hs
  obtain ⟨hnow, htouch, hclock⟩ := hadvance.manager h.clock
  refine ⟨hclock, ?_, fun k hk htouches => ?_, hadvance.within⟩
  · rw [hadvance.since]
    exact h.since.trans htouch
  · rcases hadvance.made with hsame | ⟨call, hmade, hfirst⟩
    · exact (h.touched k (hsame ▸ hk) htouches).trans htouch
    · rcases List.mem_append.mp (hmade ▸ hk) with hmem | hmem
      · exact (h.touched k hmem htouches).trans htouch
      · obtain rfl := List.mem_singleton.mp hmem
        exact (hfirst htouches).ge

/-- Time has gone on, and the calls that were made since began no earlier. -/
structure Grew (s t : ActiveSys) : Prop where
  since : t.since = s.since
  now : s.manager.now ≤ t.manager.now
  made : ∃ new, t.made = s.made ++ new ∧ ∀ k ∈ new, s.manager.now ≤ k.2

/-- A step keeps what was said since then. -/
theorem Grew.step {c : UdsContext} {s u u' : ActiveSys} {e : ActiveEvent} (h : s.Grew u)
    (hu : u.Sound c) (hs : next c u e = some u') : s.Grew u' := by
  have hadvance := advance hu.within hs
  obtain ⟨hnow, -, -⟩ := hadvance.manager hu.clock
  obtain ⟨new, hmade, hlater⟩ := h.made
  refine ⟨hadvance.since.trans h.since, h.now.trans hnow, ?_⟩
  rcases hadvance.made with hsame | ⟨call, hcall, -⟩
  · exact ⟨new, hsame.trans hmade, hlater⟩
  · refine ⟨new ++ [(call, u.manager.now)], by rw [hcall, hmade, List.append_assoc], ?_⟩
    intro k hk
    rcases List.mem_append.mp hk with hmem | hmem
    · exact hlater k hmem
    · obtain rfl := List.mem_singleton.mp hmem
      exact h.now

/-- A run keeps what was said since then. -/
theorem grew_of_run {c : UdsContext} {s t : ActiveSys} {es : List ActiveEvent} (h : s.Sound c)
    (hrun : (runs c).Run s es t) : s.Grew t := by
  have hstart : s.Grew s := ⟨rfl, le_rfl, [], by simp, fun _ hk => absurd hk List.not_mem_nil⟩
  exact (Lts.run_invariant (I := fun u => u.Sound c ∧ s.Grew u)
    (fun u e u' hu hs => ⟨hu.1.step hs, hu.2.step hu.1 hs⟩) hrun ⟨h, hstart⟩).2

/-- The successful calls are some of those made before, and some made since. -/
theorem successes_split {s t : ActiveSys} (hgrew : s.Grew t) :
    ∃ before since, t.successes = before ++ since ∧
      (∀ r ∈ before, (r.call, r.began) ∈ s.made) ∧ ∀ r ∈ since, s.manager.now ≤ r.began := by
  obtain ⟨new, hmade, hlater⟩ := hgrew.made
  have hlen : s.made.length = s.calls.length := List.length_map _
  let succeeded := fun r : CallInProgress => decide (r.progress.result? = some .ok)
  refine ⟨(t.calls.take s.calls.length).filter succeeded,
    (t.calls.drop s.calls.length).filter succeeded, ?_, fun r hr => ?_, fun r hr => ?_⟩
  · rw [← List.filter_append, List.take_append_drop]
    rfl
  · have hmem : (r.call, r.began) ∈ t.made.take s.calls.length := by
      rw [made, ← List.map_take]
      exact List.mem_map_of_mem (List.mem_filter.mp hr).1
    rwa [hmade, ← hlen, List.take_left] at hmem
  · have hmem : (r.call, r.began) ∈ t.made.drop s.calls.length := by
      rw [made, ← List.map_drop]
      exact List.mem_map_of_mem (List.mem_filter.mp hr).1
    rw [hmade, ← hlen, List.drop_left] at hmem
    exact hlater _ hmem

/-- At any moment of the run of an active client the last success before it, or the start,
is less than the idle timeout ago; and the session was touched since. -/
theorem touched_lately {c : UdsContext} {s t : ActiveSys} {cfg : SessionManagerConfig}
    (h : s.Sound c) (hgrew : s.Grew t) (hactive : t.ActiveClient cfg)
    (htouch : ∀ r ∈ t.successes, TouchesSession c r.call) :
    s.manager.now - s.manager.lastTouch < cfg.idleTimeoutMs * 1000000 := by
  obtain ⟨before, since, hsplit, hold, hnew⟩ := successes_split hgrew
  have hearlier : ∀ a ∈ s.since :: before.map CallInProgress.began, a ≤ s.manager.lastTouch := by
    refine List.forall_mem_cons.mpr ⟨h.since, fun a ha => ?_⟩
    obtain ⟨r, hr, rfl⟩ := List.mem_map.mp ha
    have hsuccess : r ∈ t.successes := hsplit ▸ List.mem_append_left since hr
    exact h.touched _ (hold r hr) (htouch r hsuccess)
  have hfollowing : ∀ b ∈ since.map CallInProgress.began ++ [t.manager.now],
      s.manager.now ≤ b := by
    intro b hb
    rcases List.mem_append.mp hb with hmem | hmem
    · obtain ⟨r, hr, rfl⟩ := List.mem_map.mp hmem
      exact hnew r hr
    · exact List.mem_singleton.mp hmem ▸ hgrew.now
  have hchain := hactive
  rw [ActiveClient, hsplit, hgrew.since, List.map_append, ← List.cons_append,
    List.append_assoc] at hchain
  have hgap := hchain.rel_getLast_head_of_append (List.cons_ne_nil _ _)
    (List.append_ne_nil_of_right_ne_nil _ (List.cons_ne_nil _ _))
  refine lt_of_le_of_lt ?_ hgap
  exact sub_le_sub (hfollowing _ (List.head_mem _)) (hearlier _ (List.getLast_mem _))

/-- A session that was touched within the timeout is not idle. -/
theorem not_idle {cfg : SessionManagerConfig} {s : SessionManager}
    (hclock : s.lastTouch ≤ s.now) (h : s.now - s.lastTouch < cfg.idleTimeoutMs * 1000000) :
    s.idle cfg = false := by
  refine decide_eq_false (not_le.mpr ?_)
  rw [Int.tdiv_eq_ediv_of_nonneg (sub_nonneg.mpr hclock)]
  exact Int.ediv_lt_of_lt_mul (by decide) h

/-- **An active client keeps its session**, if all its successful calls touch it. -/
theorem never_idled {c : UdsContext} {es : List ActiveEvent} {t : ActiveSys}
    (hactive : t.ActiveClient c.config) (htouch : ∀ r ∈ t.successes, TouchesSession c r.call) :
    (runs c).Always (NotIdled c) es t := by
  intro es₁ e es₂ s₁ s₂ hes h₁ hs hrun _
  have hsound : s₁.Sound c := Lts.hist_induct (P := fun _ s => s.Sound c)
    (fun _ hinit => Escalated.sound hinit) (fun _ _ _ _ _ hsound hstep => hsound.step hstep) h₁
  have hgrew : s₁.Grew t := grew_of_run hsound (Lts.run_cons.mpr ⟨s₂, hs, hrun⟩)
  exact not_idle hsound.clock (touched_lately hsound hgrew hactive htouch)

end ActiveSys

/-! ## Six seconds -/

namespace SixSeconds

/-- An ECU that accepts everything, and no catalog. -/
def context : UdsContext where
  bus := SecurityEcu.agreeable.bus

/-- A client has asked for the extended session. -/
def start : ActiveSys where
  manager := (context.setMode {} [] (str "extended")).2
  since := 0

/-- A session has just been raised. -/
theorem start_escalated : start.Escalated := ⟨rfl, rfl, by decide, by decide, by decide⟩

/-- A call after four seconds, and a round of the heartbeat after four more. -/
def events (call : LockedCall) : List ActiveEvent :=
  [.wait 4000000000, .begin call, .wait 4000000000, .heartbeat]

end SixSeconds

open ActiveSys SixSeconds in
/-- A client that asks for its session again keeps it. -/
theorem renewing_client_keeps_session :
    ∃ t, (runs context).Hist (events (.setMode (str "extended"))) t ∧
      t.ActiveClient context.config ∧
      (runs context).Always (NotIdled context) (events (.setMode (str "extended"))) t := by
  refine ⟨_, ⟨start, start_escalated, Lts.run_ofFn.mpr rfl⟩, ?_, ?_⟩
  · decide
  · refine never_idled (by decide) fun r hr => ?_
    obtain rfl := List.mem_singleton.mp hr
    exact ⟨by decide, by decide⟩

open ActiveSys SixSeconds in
/-- A client that clears faults every four seconds loses it after eight. -/
theorem clearing_client_idled_out :
    ∃ t, (runs context).Hist (events .clearFaults) t ∧ t.ActiveClient context.config ∧
      ¬ (runs context).Always (NotIdled context) (events .clearFaults) t := by
  refine ⟨_, ⟨start, start_escalated, Lts.run_ofFn.mpr rfl⟩, ?_, ?_⟩
  · decide
  · intro hkept
    have hidle := hkept [.wait 4000000000, .begin .clearFaults, .wait 4000000000] .heartbeat []
      _ _ rfl ⟨start, start_escalated, Lts.run_ofFn.mpr rfl⟩ rfl rfl rfl
    exact absurd hidle (by decide)

end Sovd
