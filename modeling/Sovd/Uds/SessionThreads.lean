import Mathlib.Tactic.Common
import Sovd.Lib.Lts
import Sovd.Lib.WriteBack
import Sovd.Uds.SessionManager

/-!
# The session manager under threads (`adapters/uds_doip/src/session_manager.cpp`)

`ensure_session` and `revert_to_default` give `mtx_` up while they talk to the ECU
and while they join the heartbeat thread, so two of them can be anywhere in each
other's way. Here each call goes through its steps one at a time, in any interleaving
with the other calls and with the heartbeat thread.

Two things go wrong. A call that joins may find, when it starts its own thread, that
another call has started one since, and assigning to a joinable `std::thread` ends
the process. And a call may record its session over that of a call whose exchange
came later. `thread_safe` says that nothing else does: in a run in which no call starts
its thread while one is there that another call started since this one joined, and no
record comes on top of the newest exchange's, the manager is in order throughout
(`ThreadSafe`).

The record is a register that is written after the fact (`WriteBack`): the exchange
is the turn, the record the write, the idle timeout clears it (`Move.book`).

Mirroring notes vs the C++:
- A step is a section under `mtx_`, one `send_`, or one of stop, join and start. The
  record and the start are two steps, with `mtx_` held from one to the other.
- `handle` is the thread `heartbeat_thread_` stands for while it is joinable. A thread
  that has returned from `heartbeat_loop` is no longer in `loops`.
- `std::terminate` leaves a state from which nothing moves.
- The sleep of the loop lies between `top` and `woken` and takes any time.
- Where the two bodies coincide (exchange, stop, join) they are one definition, with
  `none` for the revert that finds the default session and has nothing to record.
- `threads`, `sends`, `lastSession`, `recorded`, `idleFired` and the numbers in
  `CallPc` are ghosts.
-/

namespace Sovd

open Uds

/-! ## Calls, loops and their steps -/

/-- The calls that start or stop the heartbeat thread. -/
inductive SessionOp
  | ensure (sessionType : UInt8)
  | revert
  deriving DecidableEq

/-- The session the ECU is asked for. -/
def SessionOp.session : SessionOp → UInt8
  | ensure sessionType => sessionType
  | revert => 0x01

/-- The exchange of a call that will record its session. -/
structure Sent where
  op : SessionOp
  /-- How many such exchanges there were, this one included. -/
  turn : Nat
  confirmed : Bool
  deriving DecidableEq

/-- What the call leaves when nothing comes between. -/
def Sent.outcome (w : Sent) (data : SessionManager) : Bool × SessionManager :=
  match w.op with
  | .ensure sessionType =>
    (true, { data with currentSessionType := sessionType, heartbeatRunning := true })
  | .revert =>
    (w.confirmed, { data with
      currentSessionType := 0x01, currentSecurityLevel := 0, heartbeatRunning := false })

/-- What a call does next. -/
inductive CallPc
  | send (op : SessionOp)
  | stop (sent : Option Sent)
  | join (sent : Option Sent)
  /-- `joined` threads had been started when the call joined. -/
  | record (sent : Sent) (joined : Nat)
  | start (joined : Nat)
  deriving DecidableEq

/-- What the heartbeat thread does next: check the flag before the sleep and after
it, look at the clock under the lock, send. -/
inductive LoopPc
  | top
  | woken
  | locking
  | send
  deriving DecidableEq

/-- The session manager, its thread handle, and every thread and call under way. -/
structure ThreadSys where
  data : SessionManager
  handle : Option Nat := none
  loops : Nat → Option LoopPc := fun _ => none
  calls : Nat → Option CallPc := fun _ => none
  returned : List (Nat × Bool) := []
  mutex : Option Nat := none
  terminated : Bool := false
  threads : Nat := 0
  sends : Nat := 0
  /-- The last session the ECU confirmed, or the default one after a revert. -/
  lastSession : UInt8 := 0x01
  recorded : Nat := 0
  /-- An idle timeout has fired since the last record. -/
  idleFired : Bool := false

/-- The next step of a call or a thread, or time that passes. -/
inductive ThreadEvent
  | ensure (c : Nat) (sessionType : UInt8)
  | revert (c : Nat)
  | call (c : Nat)
  | beat (tid : Nat)
  | time (t : Time)
  deriving DecidableEq

namespace ThreadSys

/-- A call goes on at `pc`. -/
def goto (s : ThreadSys) (c : Nat) (pc : CallPc) : ThreadSys :=
  { s with calls := Function.update s.calls c (some pc) }

/-- A call returns. -/
def ret (s : ThreadSys) (c : Nat) (result : Bool) : ThreadSys :=
  { s with calls := Function.update s.calls c none, returned := s.returned ++ [(c, result)] }

/-- A thread goes on at `pc`, or ends. -/
def loopTo (s : ThreadSys) (tid : Nat) (pc : Option LoopPc) : ThreadSys :=
  { s with loops := Function.update s.loops tid pc }

/-- `heartbeat_thread_.join()` returns, or there is nothing to join. -/
def JoinReturns (s : ThreadSys) : Prop := ∀ tid ∈ s.handle, s.loops tid = none

instance (s : ThreadSys) : Decidable s.JoinReturns := Option.decidableForallMem s.handle

/-- The first section of `ensure_session`. -/
def ensure (c : Nat) (sessionType : UInt8) (s : ThreadSys) : ThreadSys :=
  let s := { s with data := { s.data with lastTouch := s.data.now } }
  if s.data.currentSessionType = sessionType then s.ret c true
  else s.goto c (.send (.ensure sessionType))

/-- The first section of `revert_to_default`. -/
def revert (c : Nat) (s : ThreadSys) : ThreadSys :=
  if s.data.currentSessionType = 0x01 then s.goto c (.stop none) else s.goto c (.send .revert)

/-- The exchange. An escalation that fails is over, a revert goes on. -/
def exchange (bus : Bus) (c : Nat) (op : SessionOp) (s : ThreadSys) : ThreadSys :=
  let sent := SessionManager.send bus (encodeDiagnosticSessionControl op.session) s.data
  let confirmed := sent.1.any fun resp => decodeDiagnosticSessionControl resp op.session
  let s := { s with data := sent.2 }
  if confirmed = true ∨ op = .revert then
    { s with sends := s.sends + 1, lastSession := op.session }.goto c
      (.stop (some ⟨op, s.sends + 1, confirmed⟩))
  else s.ret c false

/-- The last section, up to the start of the thread. -/
def record (c : Nat) (w : Sent) (joined : Nat) (s : ThreadSys) : ThreadSys :=
  let s := { s with recorded := max s.recorded w.turn, idleFired := false }
  match w.op with
  | .ensure sessionType =>
    { s with
      data := { s.data with currentSessionType := sessionType, heartbeatRunning := true }
      mutex := some c }.goto c (.start joined)
  | .revert =>
    { s with
      data := { s.data with currentSessionType := 0x01, currentSecurityLevel := 0 } }.ret c
      w.confirmed

/-- The next step of a call; `none`: it has to wait. -/
def callStep (bus : Bus) (c : Nat) (s : ThreadSys) : CallPc → Option ThreadSys
  | .send op => some (s.exchange bus c op)
  | .stop sent =>
    some ({ s with data := { s.data with heartbeatRunning := false } }.goto c (.join sent))
  | .join sent =>
    if s.JoinReturns then
      match sent with
      | none => some ({ s with handle := none }.ret c true)
      | some w => some ({ s with handle := none }.goto c (.record w s.threads))
    else none
  | .record w joined => if s.mutex = none then some (s.record c w joined) else none
  | .start _ =>
    match s.handle with
    -- assigning to a joinable thread
    | some _ => some { s with terminated := true }
    | none =>
      some ({ s with
        handle := some s.threads
        loops := Function.update s.loops s.threads (some .top)
        threads := s.threads + 1
        mutex := none }.ret c true)

/-- The next step of `heartbeat_loop`; `none`: it has to wait. -/
def loopStep (cfg : SessionManagerConfig) (bus : Bus) (tid : Nat) (s : ThreadSys) :
    LoopPc → Option ThreadSys
  | .top => some (s.loopTo tid (if s.data.heartbeatRunning then some .woken else none))
  | .woken => some (s.loopTo tid (if s.data.heartbeatRunning then some .locking else none))
  | .locking =>
    if s.mutex = none then
      if s.data.heartbeatRunning then
        if s.data.idle cfg then
          some ({ s with
            data := { s.data with
              currentSessionType := 0x01, currentSecurityLevel := 0, heartbeatRunning := false }
            idleFired := true }.loopTo tid none)
        else some (s.loopTo tid (some .send))
      else some (s.loopTo tid none)
    else none
  | .send =>
    some ({ s with data := (SessionManager.send bus encodeTesterPresent s.data).2 }.loopTo tid
      (some .top))

/-- One step of one thread; nothing happens after `std::terminate`. -/
def next (cfg : SessionManagerConfig) (bus : Bus) (s : ThreadSys) (e : ThreadEvent) :
    Option ThreadSys :=
  if s.terminated then none
  else
    match e with
    | .ensure c sessionType =>
      if s.calls c = none ∧ s.mutex = none then some (s.ensure c sessionType) else none
    | .revert c => if s.calls c = none ∧ s.mutex = none then some (s.revert c) else none
    | .call c => (s.calls c).bind (s.callStep bus c)
    | .beat tid => (s.loops tid).bind (s.loopStep cfg bus tid)
    | .time t =>
      if s.data.now ≤ t then some { s with data := { s.data with now := t } } else none

end ThreadSys

/-- One session manager and its threads, from its construction on. -/
def threadLts (cfg : SessionManagerConfig) (bus : Bus) : Lts ThreadSys ThreadEvent :=
  .ofFn (fun s => ∃ t, s = { data := { lastTouch := t, now := t } }) (ThreadSys.next cfg bus)

/-- The manager is in order. -/
structure ThreadSafe (s : ThreadSys) : Prop where
  /-- `heartbeat_thread_` was never assigned while it was joinable. -/
  alive : s.terminated = false
  one_loop : ∀ tid tid', s.loops tid ≠ none → s.loops tid' ≠ none → tid = tid'
  session : (∀ c, s.calls c = none) → s.idleFired = false →
    s.data.currentSessionType = s.lastSession

/-- The step does not start a thread where another call has started one since this call
joined, nor record an older session where the newest is recorded already. -/
def InTurn (s : ThreadSys) (e : ThreadEvent) : Prop :=
  match e with
  | .call c =>
    match s.calls c with
    | some (.start joined) => ∀ tid ∈ s.handle, tid < joined
    | some (.record w _) => s.recorded = s.sends → w.op.session = s.lastSession
    | _ => True
  | _ => True

instance (s : ThreadSys) : (e : ThreadEvent) → Decidable (InTurn s e)
  | .call c =>
    match h : s.calls c with
    | some (.start joined) =>
      decidable_of_iff (∀ tid ∈ s.handle, tid < joined) (by simp only [InTurn, h])
    | some (.record w _) =>
      decidable_of_iff (s.recorded = s.sends → w.op.session = s.lastSession)
        (by simp only [InTurn, h])
    | none | some (.send _) | some (.stop _) | some (.join _) =>
      .isTrue (by simp only [InTurn, h])
  | .ensure .. | .revert _ | .beat _ | .time _ => .isTrue trivial

/-! ## Calls and beats with nothing in between -/

namespace ThreadSys

variable {cfg : SessionManagerConfig} {bus : Bus} {s s' : ThreadSys} {c tid : Nat}

/-- The step of a call is one of the system. -/
theorem step_call {pc : CallPc} (halive : s.terminated = false) (hpc : s.calls c = some pc)
    (hs : s.callStep bus c pc = some s') : (threadLts cfg bus).step s (.call c) s' := by
  show s.next cfg bus (.call c) = some s'
  rw [next, if_neg (by simp [halive]), hpc, Option.bind_some, hs]

/-- The step of a thread is one of the system. -/
theorem step_beat {pc : LoopPc} (halive : s.terminated = false) (hpc : s.loops tid = some pc)
    (hs : s.loopStep cfg bus tid pc = some s') : (threadLts cfg bus).step s (.beat tid) s' := by
  show s.next cfg bus (.beat tid) = some s'
  rw [next, if_neg (by simp [halive]), hpc, Option.bind_some, hs]

/-- Nothing is in a call's way. -/
structure Clear (s : ThreadSys) : Prop where
  alive : s.terminated = false
  loops : ∀ tid, s.loops tid = none
  mutex : s.mutex = none

/-- The call `c`, left alone, gets from `s` to its return with this outcome. -/
def Ends (cfg : SessionManagerConfig) (bus : Bus) (c : Nat) (s : ThreadSys)
    (outcome : Bool × SessionManager) : Prop :=
  ∃ n s', (threadLts cfg bus).Run s (List.replicate n (.call c)) s' ∧ s'.calls c = none ∧
    s'.returned = s.returned ++ [(c, outcome.1)] ∧ s'.data = outcome.2

variable {outcome : Bool × SessionManager}

/-- A call that ends after its next step ends. -/
theorem Ends.head (hs : (threadLts cfg bus).step s (.call c) s')
    (hreturned : s'.returned = s.returned) (h : Ends cfg bus c s' outcome) :
    Ends cfg bus c s outcome := by
  obtain ⟨n, t, hrun, hend, hret, hdata⟩ := h
  exact ⟨n + 1, t, ⟨s', hs, hrun⟩, hend, hreturned ▸ hret, hdata⟩

/-- From the stop on: join, record and, for an escalation, start. -/
theorem ends_of_stop {w : Sent} (hs : s.Clear) (hpc : s.calls c = some (.stop (some w))) :
    Ends cfg bus c s (w.outcome s.data) := by
  obtain ⟨op, turn, confirmed⟩ := w
  have hjoin : s.JoinReturns := fun tid _ => hs.loops tid
  cases op with
  | ensure sessionType =>
    refine ⟨4, _, ⟨_, step_call hs.alive hpc rfl,
      _, step_call hs.alive (Function.update_self ..) (if_pos hjoin),
      _, step_call hs.alive (Function.update_self ..) (if_pos hs.mutex),
      _, step_call hs.alive (Function.update_self ..) rfl, rfl⟩, ?_⟩
    exact ⟨Function.update_self .., rfl, rfl⟩
  | revert =>
    refine ⟨3, _, ⟨_, step_call hs.alive hpc rfl,
      _, step_call hs.alive (Function.update_self ..) (if_pos hjoin),
      _, step_call hs.alive (Function.update_self ..) (if_pos hs.mutex), rfl⟩, ?_⟩
    exact ⟨Function.update_self .., rfl, rfl⟩

section

variable {response : Option Bytes} {data : SessionManager}

/-- The ECU confirmed the session, or the call does not care. -/
theorem ends_of_going (op : SessionOp) (hs : s.Clear) (hpc : s.calls c = some (.send op))
    (hsend : SessionManager.send bus (encodeDiagnosticSessionControl op.session) s.data =
      (response, data))
    (hgo : (response.any fun r => decodeDiagnosticSessionControl r op.session) = true ∨
      op = .revert) :
    Ends cfg bus c s (Sent.outcome ⟨op, s.sends + 1,
      response.any fun r => decodeDiagnosticSessionControl r op.session⟩ data) := by
  have hexchange : s.exchange bus c op =
      { s with data := data, sends := s.sends + 1, lastSession := op.session }.goto c
        (.stop (some ⟨op, s.sends + 1,
          response.any fun r => decodeDiagnosticSessionControl r op.session⟩)) := by
    unfold exchange
    rw [hsend]
    exact if_pos hgo
  refine .head (step_call hs.alive hpc (congrArg some hexchange)) rfl ?_
  exact ends_of_stop ⟨hs.alive, hs.loops, hs.mutex⟩ (Function.update_self ..)

/-- A session that the ECU refuses ends the call at once. -/
theorem ends_of_refused {sessionType : UInt8} (hs : s.Clear)
    (hpc : s.calls c = some (.send (.ensure sessionType)))
    (hsend : SessionManager.send bus (encodeDiagnosticSessionControl sessionType) s.data =
      (response, data))
    (hno : (response.any fun r => decodeDiagnosticSessionControl r sessionType) = false) :
    Ends cfg bus c s (false, data) := by
  have hexchange :
      s.exchange bus c (.ensure sessionType) = { s with data := data }.ret c false := by
    unfold exchange
    rw [SessionOp.session, hsend]
    exact if_neg (by simp [hno])
  refine ⟨1, _, ⟨_, step_call hs.alive hpc (congrArg some hexchange), rfl⟩, ?_⟩
  exact ⟨Function.update_self .., rfl, rfl⟩

end

/-- The call `c`, begun by `e` and left alone. -/
def Alone (cfg : SessionManagerConfig) (bus : Bus) (c : Nat) (s : ThreadSys) (e : ThreadEvent)
    (outcome : Bool × SessionManager) : Prop :=
  ∃ n s', (threadLts cfg bus).Run s (e :: List.replicate n (.call c)) s' ∧ s'.calls c = none ∧
    s'.returned = s.returned ++ [(c, outcome.1)] ∧ s'.data = outcome.2

/-- A call ends alone that nobody disturbs. -/
theorem Ends.alone {e : ThreadEvent} (h : Ends cfg bus c s' outcome)
    (hs : (threadLts cfg bus).step s e s') (hreturned : s'.returned = s.returned) :
    Alone cfg bus c s e outcome := by
  obtain ⟨n, t, hrun, hend, hret, hdata⟩ := h
  exact ⟨n, t, ⟨s', hs, hrun⟩, hend, hreturned ▸ hret, hdata⟩

/-- `ensureSession` is `ensure_session` with nothing in between. -/
theorem ensure_alone (hs : s.Clear) (hfree : s.calls c = none) (sessionType : UInt8) :
    Alone cfg bus c s (.ensure c sessionType)
      (SessionManager.ensureSession bus sessionType s.data) := by
  have hbegin : (threadLts cfg bus).step s (.ensure c sessionType) (s.ensure c sessionType) :=
    (if_neg (by simp [hs.alive])).trans (if_pos ⟨hfree, hs.mutex⟩)
  by_cases hsame : s.data.currentSessionType = sessionType
  · rw [SessionManager.ensureSession, if_pos hsame]
    rw [ensure, if_pos hsame] at hbegin
    exact ⟨0, _, ⟨_, hbegin, rfl⟩, Function.update_self .., rfl, rfl⟩
  rw [SessionManager.ensureSession, if_neg hsame]
  rw [ensure, if_neg hsame] at hbegin
  refine Ends.alone ?_ hbegin rfl
  split
  next data hsend =>
    exact ends_of_refused ⟨hs.alive, hs.loops, hs.mutex⟩ (Function.update_self ..) hsend rfl
  next resp data hsend =>
    split
    next hdec =>
      exact ends_of_going (.ensure sessionType) ⟨hs.alive, hs.loops, hs.mutex⟩
        (Function.update_self ..) hsend (.inl hdec)
    next hdec =>
      exact ends_of_refused ⟨hs.alive, hs.loops, hs.mutex⟩ (Function.update_self ..) hsend
        (Bool.eq_false_iff.mpr hdec)

/-- `revertToDefault` is `revert_to_default` with nothing in between. -/
theorem revert_alone (hs : s.Clear) (hfree : s.calls c = none) :
    Alone cfg bus c s (.revert c) (SessionManager.revertToDefault bus s.data) := by
  have hbegin : (threadLts cfg bus).step s (.revert c) (s.revert c) :=
    (if_neg (by simp [hs.alive])).trans (if_pos ⟨hfree, hs.mutex⟩)
  have hjoin : s.JoinReturns := fun tid _ => hs.loops tid
  by_cases hsame : s.data.currentSessionType = 0x01
  · rw [SessionManager.revertToDefault, if_pos hsame]
    rw [revert, if_pos hsame] at hbegin
    exact ⟨2, _, ⟨_, hbegin, _, step_call hs.alive (Function.update_self ..) rfl,
      _, step_call hs.alive (Function.update_self ..) (if_pos hjoin), rfl⟩,
      Function.update_self .., rfl, rfl⟩
  rw [SessionManager.revertToDefault, if_neg hsame]
  rw [revert, if_neg hsame] at hbegin
  refine Ends.alone ?_ hbegin rfl
  exact ends_of_going .revert ⟨hs.alive, hs.loops, hs.mutex⟩ (Function.update_self ..) rfl
    (.inr rfl)

/-- `heartbeatTick` is a round of the loop with nothing in between. -/
theorem beat_alone (halive : s.terminated = false) (hloop : s.loops tid = some .top)
    (hrunning : s.data.heartbeatRunning = true) (hmutex : s.mutex = none) :
    ∃ n s', (threadLts cfg bus).Run s (List.replicate n (.beat tid)) s' ∧
      s'.data = SessionManager.heartbeatTick cfg bus s.data ∧
      s'.loops tid = if s.data.idle cfg then none else some .top := by
  unfold SessionManager.heartbeatTick
  have htop : s.loopStep cfg bus tid .top = some (s.loopTo tid (some .woken)) := by
    rw [loopStep, if_pos hrunning]
  have hwoken : (s.loopTo tid (some .woken)).loopStep cfg bus tid .woken =
      some ((s.loopTo tid (some .woken)).loopTo tid (some .locking)) :=
    congrArg (fun pc => some ((s.loopTo tid (some .woken)).loopTo tid pc)) (if_pos hrunning)
  split
  next hidle =>
    exact ⟨3, _, ⟨_, step_beat halive hloop htop,
      _, step_beat halive (Function.update_self ..) hwoken,
      _, step_beat halive (Function.update_self ..)
        ((if_pos hmutex).trans ((if_pos hrunning).trans (if_pos hidle))), rfl⟩,
      rfl, Function.update_self ..⟩
  next hidle =>
    exact ⟨4, _, ⟨_, step_beat halive hloop htop,
      _, step_beat halive (Function.update_self ..) hwoken,
      _, step_beat halive (Function.update_self ..)
        ((if_pos hmutex).trans ((if_pos hrunning).trans (if_neg hidle))),
      _, step_beat halive (Function.update_self ..) rfl, rfl⟩,
      rfl, Function.update_self ..⟩

end ThreadSys

/-! ## What a step does -/

/-- The exchange that the call has yet to record. -/
def CallPc.pending : CallPc → Option (Nat × UInt8)
  | stop (some w) | join (some w) | record w _ => some (w.turn, w.op.session)
  | _ => none

/-- How many threads there had been when the call joined. -/
def CallPc.joined : CallPc → Option Nat
  | record _ joined | start joined => some joined
  | _ => none

/-- The request thread that takes the step. -/
def ThreadEvent.caller : ThreadEvent → Option Nat
  | ensure c _ | revert c | call c => some c
  | beat _ | time _ => none

namespace ThreadSys

/-- What a step can be to the calls, to the recorded session and to the threads. -/
inductive Move (s : ThreadSys) : ThreadEvent → ThreadSys → Prop
  | within {e : ThreadEvent} {c : Nat} {pc : Option CallPc} {data : SessionManager}
      {returned : List (Nat × Bool)} (hcaller : e.caller = some c)
      (hpending : pc.bind CallPc.pending = (s.calls c).bind CallPc.pending)
      (hjoined : pc.bind CallPc.joined = none)
      (hsession : data.currentSessionType = s.data.currentSessionType) :
      Move s e { s with
        data := data, calls := Function.update s.calls c pc, returned := returned }
  | exchange {c : Nat} {op : SessionOp} {data : SessionManager} {confirmed : Bool}
      (hsession : data.currentSessionType = s.data.currentSessionType) :
      Move s (.call c) ({ s with
        data := data, sends := s.sends + 1, lastSession := op.session }.goto c
          (.stop (some ⟨op, s.sends + 1, confirmed⟩)))
  | join {c : Nat} {sent : Option Sent} {returned : List (Nat × Bool)}
      (hpc : s.calls c = some (.join sent)) (hjoin : s.JoinReturns) :
      Move s (.call c) { s with
        handle := none
        calls := Function.update s.calls c (sent.map fun w => .record w s.threads)
        returned := returned }
  | record {c : Nat} {w : Sent} {joined : Nat} {pc : Option CallPc} {data : SessionManager}
      {mutex : Option Nat} {returned : List (Nat × Bool)}
      (hpc : s.calls c = some (.record w joined)) (hpending : pc.bind CallPc.pending = none)
      (hjoined : ∀ n, pc.bind CallPc.joined = some n → n = joined)
      (hsession : data.currentSessionType = w.op.session) :
      Move s (.call c) { s with
        data := data
        calls := Function.update s.calls c pc
        mutex := mutex
        returned := returned
        recorded := max s.recorded w.turn
        idleFired := false }
  | start {c joined : Nat} (hpc : s.calls c = some (.start joined)) (hhandle : s.handle = none) :
      Move s (.call c) ({ s with
        handle := some s.threads
        loops := Function.update s.loops s.threads (some .top)
        threads := s.threads + 1
        mutex := none }.ret c true)
  | terminate {c joined tid : Nat} (hpc : s.calls c = some (.start joined))
      (hhandle : s.handle = some tid) : Move s (.call c) { s with terminated := true }
  | beat {tid : Nat} {pc : Option LoopPc} {data : SessionManager} (htid : s.loops tid ≠ none)
      (hsession : data.currentSessionType = s.data.currentSessionType) :
      Move s (.beat tid) ({ s with data := data }.loopTo tid pc)
  | idle {tid : Nat} {data : SessionManager} (htid : s.loops tid ≠ none)
      (hsession : data.currentSessionType = 0x01) :
      Move s (.beat tid) ({ s with data := data, idleFired := true }.loopTo tid none)
  | time {t : Time} : Move s (.time t) { s with data := { s.data with now := t } }

variable {cfg : SessionManagerConfig} {bus : Bus} {s s' : ThreadSys} {e : ThreadEvent} {c tid : Nat}

/-- An exchange leaves the threads alone. -/
theorem move_exchange {op : SessionOp} (hpc : s.calls c = some (.send op)) :
    Move s (.call c) (s.exchange bus c op) := by
  unfold exchange
  dsimp only
  split
  next => exact .exchange rfl
  next => exact .within rfl (by rw [hpc]; rfl) rfl rfl

/-- A record is made by the call that has joined. -/
theorem move_record {w : Sent} {joined : Nat} (hpc : s.calls c = some (.record w joined)) :
    Move s (.call c) (s.record c w joined) := by
  unfold record
  dsimp only
  split
  next hop => exact .record hpc rfl (fun _ hn => (Option.some.inj hn).symm) (by rw [hop]; rfl)
  next hop => exact .record hpc rfl (fun _ hn => by cases hn) (by rw [hop]; rfl)

/-- Every step of a call is one of the moves. -/
theorem callStep_move {pc : CallPc} (hpc : s.calls c = some pc)
    (h : s.callStep bus c pc = some s') : Move s (.call c) s' := by
  cases pc with
  | send op =>
    cases h
    exact move_exchange hpc
  | stop sent =>
    cases h
    refine .within rfl ?_ rfl rfl
    rw [hpc]
    cases sent <;> rfl
  | join sent =>
    obtain ⟨hjoin, h⟩ := Option.ite_none_right_eq_some.mp h
    cases sent with
    | none | some w =>
      cases h
      exact .join hpc hjoin
  | record w joined =>
    obtain ⟨-, h⟩ := Option.ite_none_right_eq_some.mp h
    cases h
    exact move_record hpc
  | start joined =>
    unfold callStep at h
    dsimp only at h
    split at h
    next tid hhandle =>
      cases h
      exact .terminate hpc hhandle
    next hhandle =>
      cases h
      exact .start hpc hhandle

/-- Every step of a thread is one of the moves. -/
theorem loopStep_move {pc : LoopPc} (hpc : s.loops tid = some pc)
    (h : s.loopStep cfg bus tid pc = some s') : Move s (.beat tid) s' := by
  have htid : s.loops tid ≠ none := by
    rw [hpc]
    exact Option.some_ne_none pc
  cases pc with
  | locking =>
    obtain ⟨-, h⟩ := Option.ite_none_right_eq_some.mp h
    split at h
    next =>
      split at h
      next =>
        cases h
        exact .idle htid rfl
      next =>
        cases h
        exact .beat htid rfl
    next =>
      cases h
      exact .beat htid rfl
  | top | woken | send =>
    cases h
    exact .beat htid rfl

/-- Every step is one of the moves. -/
theorem next_move (h : s.next cfg bus e = some s') : Move s e s' := by
  unfold next at h
  split at h
  next => cases h
  next =>
    cases e with
    | ensure c sessionType =>
      obtain ⟨⟨hfree, -⟩, h⟩ := Option.ite_none_right_eq_some.mp h
      cases h
      unfold ensure
      dsimp only
      split <;> exact .within rfl (by simp [hfree, CallPc.pending]) rfl rfl
    | revert c =>
      obtain ⟨⟨hfree, -⟩, h⟩ := Option.ite_none_right_eq_some.mp h
      cases h
      unfold revert
      split <;> exact .within rfl (by simp [hfree, CallPc.pending]) rfl rfl
    | call c =>
      obtain ⟨pc, hpc, hstep⟩ := Option.bind_eq_some_iff.mp h
      exact callStep_move hpc hstep
    | beat tid =>
      obtain ⟨pc, hpc, hstep⟩ := Option.bind_eq_some_iff.mp h
      exact loopStep_move hpc hstep
    | time t =>
      obtain ⟨-, h⟩ := Option.ite_none_right_eq_some.mp h
      cases h
      exact .time

/-- A step leaves the calls of the other request threads where they are. -/
theorem Move.calls (h : Move s e s') (hc : e.caller ≠ some c) : s'.calls c = s.calls c := by
  have hne : ∀ c', e.caller = some c' → c ≠ c' := by
    intro c' hc' heq
    exact hc (heq ▸ hc')
  cases h with
  | within hcaller => exact Function.update_of_ne (hne _ hcaller) ..
  | exchange | join | record | start => exact Function.update_of_ne (hne _ rfl) ..
  | terminate | beat | idle | time => rfl

end ThreadSys

/-! ## The record is written back after the exchange -/

namespace ThreadSys

variable {s s' : ThreadSys} {e : ThreadEvent} {c : Nat}

/-- The recorded session as a register. -/
def book (s : ThreadSys) : WriteBack Nat UInt8 where
  value := s.data.currentSessionType
  newest := s.lastSession
  turns := s.sends
  written := s.recorded
  pending c := (s.calls c).bind CallPc.pending
  cleared := s.idleFired

/-- What is to be recorded, after a call has gone on. -/
theorem pending_update (calls : Nat → Option CallPc) (c : Nat) (pc : Option CallPc) :
    (fun c' => (Function.update calls c pc c').bind CallPc.pending) =
      Function.update (fun c' => (calls c').bind CallPc.pending) c (pc.bind CallPc.pending) :=
  Function.comp_update (fun pc : Option CallPc => pc.bind CallPc.pending) calls c pc

/-- It is the same if the call has as much to record as before. -/
theorem pending_update_of_eq {pc : Option CallPc}
    (h : pc.bind CallPc.pending = (s.calls c).bind CallPc.pending) :
    (fun c' => (Function.update s.calls c pc c').bind CallPc.pending) =
      fun c' => (s.calls c').bind CallPc.pending := by
  rw [pending_update, h]
  exact Function.update_eq_self ..

/-- A step is nothing to the recorded session, or it is an exchange, a record or the idle
timeout. -/
theorem Move.book (h : Move s e s') :
    s'.book = s.book ∨ (∃ c v, s'.book = s.book.turn c v) ∨
      (∃ c w joined, e = .call c ∧ s.calls c = some (.record w joined) ∧
        s'.book = s.book.write c w.turn w.op.session) ∨
      s'.book = s.book.clear 0x01 := by
  cases h with
  | within _ hpending _ hsession =>
    left
    simp only [ThreadSys.book, hsession, pending_update_of_eq hpending]
  | @exchange c op data confirmed hsession =>
    -- the exchange is the turn
    refine .inr (.inl ⟨c, op.session, ?_⟩)
    simp only [ThreadSys.book, goto, hsession, pending_update, WriteBack.turn]
    rfl
  | @join c sent _ hpc =>
    left
    have hpending : (sent.map fun w => CallPc.record w s.threads).bind CallPc.pending =
        (s.calls c).bind CallPc.pending := by
      rw [hpc]
      cases sent <;> rfl
    simp only [ThreadSys.book, pending_update_of_eq hpending]
  | @record c w joined _ _ _ _ hpc hpending _ hsession =>
    -- the record is its write
    refine .inr (.inr (.inl ⟨c, w, joined, rfl, hpc, ?_⟩))
    simp only [ThreadSys.book, pending_update, hpending, hsession, WriteBack.write]
  | @start c joined hpc =>
    left
    have hpending : (none : Option CallPc).bind CallPc.pending =
        (s.calls c).bind CallPc.pending := by
      rw [hpc]
      rfl
    simp only [ThreadSys.book, ret, pending_update_of_eq hpending]
  | terminate => exact .inl rfl
  | beat _ hsession =>
    left
    simp only [ThreadSys.book, loopTo, hsession]
  | idle _ hsession =>
    -- an idle session is cleared from outside
    refine .inr (.inr (.inr ?_))
    simp only [ThreadSys.book, loopTo, hsession, WriteBack.clear]
  | time => exact .inl rfl

end ThreadSys

/-! ## The thread is started after a join -/

/-- The thread that loops can be joined, and the one that can be joined was started
after the join of every call on its way from join to start. -/
structure ThreadInv (s : ThreadSys) : Prop where
  alive : s.terminated = false
  handled : ∀ tid, s.loops tid ≠ none → s.handle = some tid
  joined : ∀ c n, (s.calls c).bind CallPc.joined = some n →
    n ≤ s.threads ∧ ∀ tid, s.handle = some tid → n ≤ tid

namespace ThreadInv

variable {cfg : SessionManagerConfig} {bus : Bus} {s s' : ThreadSys} {e : ThreadEvent} {c : Nat}

/-- There is no thread at the start. -/
theorem initial (h : (threadLts cfg bus).init s) : ThreadInv s := by
  obtain ⟨t, rfl⟩ := h
  exact ⟨rfl, fun tid htid => absurd rfl htid, fun c n hn => by cases hn⟩

/-- There is one thread at most. -/
theorem one_loop (h : ThreadInv s) {tid tid' : Nat} (htid : s.loops tid ≠ none)
    (htid' : s.loops tid' ≠ none) : tid = tid' :=
  Option.some.inj ((h.handled tid htid).symm.trans (h.handled tid' htid'))

/-- One call has moved: what it joined is to be shown, the others are where they were. -/
theorem joined_update (h : ThreadInv s) {pc : Option CallPc} {threads : Nat} {handle : Option Nat}
    (hold : ∀ n, (n ≤ s.threads ∧ ∀ tid, s.handle = some tid → n ≤ tid) →
      n ≤ threads ∧ ∀ tid, handle = some tid → n ≤ tid)
    (hpc : ∀ n, pc.bind CallPc.joined = some n →
      n ≤ threads ∧ ∀ tid, handle = some tid → n ≤ tid) (c' n : Nat)
    (hn : (Function.update s.calls c pc c').bind CallPc.joined = some n) :
    n ≤ threads ∧ ∀ tid, handle = some tid → n ≤ tid := by
  by_cases hcc : c' = c
  · subst hcc
    rw [Function.update_self] at hn
    exact hpc n hn
  · rw [Function.update_of_ne hcc] at hn
    exact hold n (h.joined c' n hn)

/-- A beat is one of the thread that can be joined. -/
theorem handled_update (h : ThreadInv s) {tid : Nat} (htid : s.loops tid ≠ none)
    (pc : Option LoopPc) (tid' : Nat) (htid' : Function.update s.loops tid pc tid' ≠ none) :
    s.handle = some tid' := by
  by_cases heq : tid' = tid
  · exact heq ▸ h.handled tid htid
  · rw [Function.update_of_ne heq] at htid'
    exact h.handled tid' htid'

/-- **A step keeps the invariant**, if calls take their turns. -/
theorem step (h : ThreadInv s) (hs : s.Move e s') (hturn : InTurn s e) : ThreadInv s' := by
  cases hs with
  | within _ _ hjoined =>
    refine ⟨h.alive, h.handled, h.joined_update (fun _ hn => hn) ?_⟩
    intro n hn
    rw [hjoined] at hn
    cases hn
  | exchange =>
    exact ⟨h.alive, h.handled, h.joined_update (fun _ hn => hn) fun n hn => by cases hn⟩
  | @join c sent _ hpc hjoin =>
    refine ⟨h.alive, ?_, h.joined_update ?_ ?_⟩
    · intro tid htid
      exact absurd (hjoin tid (h.handled tid htid)) htid
    · intro n hn
      exact ⟨hn.1, fun tid htid => by cases htid⟩
    · intro n hn
      cases sent with
      | none => cases hn
      | some w =>
        cases hn
        exact ⟨Nat.le_refl _, fun tid htid => by cases htid⟩
  | @record c w joined _ _ _ _ hpc _ hjoined =>
    refine ⟨h.alive, h.handled, h.joined_update (fun _ hn => hn) ?_⟩
    intro n hn
    rw [hjoined n hn]
    exact h.joined c joined (by rw [hpc]; rfl)
  | @start c joined hpc hhandle =>
    refine ⟨h.alive, ?_, h.joined_update ?_ fun n hn => by cases hn⟩
    · -- the new thread is the only one
      intro tid htid
      by_cases heq : tid = s.threads
      · exact heq ▸ rfl
      · have hold := h.handled tid ((Function.update_of_ne heq ..).symm.trans_ne htid)
        rw [hhandle] at hold
        cases hold
    · intro n hn
      refine ⟨Nat.le_succ_of_le hn.1, ?_⟩
      intro tid htid
      cases htid
      exact hn.1
  | @terminate c joined tid hpc hhandle =>
    -- no thread was started since the join, and none from before it is left
    simp only [InTurn, hpc] at hturn
    have hlt := hturn tid hhandle
    have hle := (h.joined c joined (by rw [hpc]; rfl)).2 tid hhandle
    omega
  | beat htid => exact ⟨h.alive, h.handled_update htid _, h.joined⟩
  | idle htid => exact ⟨h.alive, h.handled_update htid _, h.joined⟩
  | time => exact ⟨h.alive, h.handled, h.joined⟩

end ThreadInv

/-! ## The manager in order -/

variable {cfg : SessionManagerConfig} {bus : Bus}

namespace ThreadSys

/-- Nothing is recorded at the start. -/
theorem book_initial {s : ThreadSys} (h : (threadLts cfg bus).init s) : s.book.Inv := by
  obtain ⟨t, rfl⟩ := h
  exact .initial 0x01

/-- A step keeps the records in order. -/
theorem book_step {s s' : ThreadSys} {e : ThreadEvent} (h : s.book.Inv)
    (hs : s.Move e s') (hturn : InTurn s e) : s'.book.Inv := by
  rcases hs.book with hsame | ⟨c, v, hnew⟩ | ⟨c, w, joined, rfl, hc, hwrite⟩ | hclear
  · exact hsame ▸ h
  · exact hnew ▸ h.turn c v
  · rw [hwrite]
    simp only [InTurn, hc] at hturn
    refine h.write ?_ hturn
    show (s.calls c).bind CallPc.pending = _
    rw [hc]
    rfl
  · exact hclear ▸ h.clear 0x01

end ThreadSys

/-- **As long as no call starts its thread with another's in place since its join, and no
record comes on top of the newest exchange's, the session manager is in order.** -/
theorem thread_safe {es : List ThreadEvent} {s : ThreadSys} (h : (threadLts cfg bus).Hist es s)
    (hturn : (threadLts cfg bus).Always (fun s e _ => InTurn s e) es s) : ThreadSafe s := by
  have hinv : ThreadInv s ∧ s.book.Inv :=
    Lts.Always.induct (I := fun s => ThreadInv s ∧ s.book.Inv)
      (fun _ h₀ => ⟨.initial h₀, ThreadSys.book_initial h₀⟩)
      (fun _ _ _ hI hs hturn =>
        ⟨hI.1.step (ThreadSys.next_move hs) hturn,
          ThreadSys.book_step hI.2 (ThreadSys.next_move hs) hturn⟩) h hturn
  obtain ⟨hthreads, hbook⟩ := hinv
  refine ⟨hthreads.alive, fun _ _ => hthreads.one_loop, ?_⟩
  intro hidle hfired
  refine hbook.settled ?_ hfired
  intro c
  show (s.calls c).bind CallPc.pending = none
  rw [hidle c]
  rfl

/-- A request thread that takes no step has no call. -/
theorem calls_of_hist {es : List ThreadEvent} {s : ThreadSys} (h : (threadLts cfg bus).Hist es s)
    {c : Nat} (hc : ∀ e ∈ es, e.caller ≠ some c) : s.calls c = none := by
  refine Lts.hist_induct (P := fun es s => (∀ e ∈ es, e.caller ≠ some c) → s.calls c = none)
    ?_ ?_ h hc
  · intro s h₀ _
    obtain ⟨t, rfl⟩ := h₀
    rfl
  · intro es s e t _ ih hs hall
    rw [(ThreadSys.next_move hs).calls (hall e (by simp))]
    exact ih fun e' he' => hall e' (by simp [he'])

namespace Overlap

/-- An ECU that does everything it is asked for. -/
def willing : Bus where
  reply _ request := some (request.modifyHead (· + 0x40))

/-- An escalation and, while its thread beats, a revert. -/
def inTurn : List ThreadEvent :=
  [.ensure 0 0x03, .call 0, .call 0, .call 0, .call 0, .call 0, .revert 1, .beat 0, .call 1,
    .call 1, .beat 0, .call 1, .call 1]

/-- Two escalations to one session, both past the join before either starts its thread. -/
def startTwice : List ThreadEvent :=
  [.ensure 0 0x03, .ensure 1 0x03, .call 0, .call 1, .call 0, .call 1, .call 0, .call 1,
    .call 0, .call 0, .call 1, .call 1]

/-- Two escalations, the one that asked first recorded last. -/
def recordSwapped : List ThreadEvent :=
  [.ensure 0 0x03, .ensure 1 0x02, .call 0, .call 1, .call 1, .call 1, .call 1, .call 1,
    .call 0, .beat 0, .call 0, .call 0, .call 0]

/-- To show what a run from the construction on leads to, compute it. -/
theorem leads_to (es : List ThreadEvent) (p : ThreadSys → Prop) [DecidablePred p]
    (h : (es.foldlM (ThreadSys.next {} willing) { data := {} }).any (fun s => decide (p s)) =
      true) : ∃ s, (threadLts {} willing).Hist es s ∧ p s :=
  Lts.exists_hist_of_any ⟨0, rfl⟩ h

end Overlap

open Overlap in
/-- Two calls, one after the other, each with a heartbeat thread of its own. -/
theorem thread_safe_in_turn :
    ∃ s, (threadLts {} willing).Hist inTurn s ∧ s.threads = 1 ∧ ThreadSafe s := by
  obtain ⟨s, h, hthreads⟩ := leads_to inTurn (fun s => s.threads = 1) (by decide +kernel)
  refine ⟨s, h, hthreads, thread_safe h (.of_along ?_)⟩
  intro s₀ h₀
  obtain ⟨t, rfl⟩ := h₀
  exact Lts.along_of_checkRun (by rfl)

open Overlap in
/-- **Overlapping escalations end the process, or leave the older session recorded.** -/
theorem overlap_breaks :
    (∃ s, (threadLts {} willing).Hist startTwice s ∧ s.terminated = true) ∧
      ∃ s, (threadLts {} willing).Hist recordSwapped s ∧ (∀ c, s.calls c = none) ∧
        s.idleFired = false ∧ s.data.currentSessionType = 0x03 ∧ s.lastSession = 0x02 := by
  constructor
  · exact leads_to startTwice (fun s => s.terminated = true) (by decide +kernel)
  · obtain ⟨s, h, h₀, h₁, hrest⟩ := leads_to recordSwapped
      (fun s => s.calls 0 = none ∧ s.calls 1 = none ∧ s.idleFired = false ∧
        s.data.currentSessionType = 0x03 ∧ s.lastSession = 0x02) (by decide +kernel)
    refine ⟨s, h, ?_, hrest⟩
    intro c
    by_cases hc : c < 2
    · obtain rfl | rfl : c = 0 ∨ c = 1 := by omega
      · exact h₀
      · exact h₁
    · -- nobody else calls
      have hcallers : ∀ e ∈ recordSwapped, e.caller = none ∨ e.caller = some 0 ∨
          e.caller = some 1 := by decide
      refine calls_of_hist h fun e he heq => ?_
      have hcaller := hcallers e he
      simp only [heq, reduceCtorEq, Option.some.injEq, false_or] at hcaller
      omega

end Sovd
