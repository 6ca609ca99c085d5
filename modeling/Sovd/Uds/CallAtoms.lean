import Sovd.Lib.Atoms
import Sovd.Uds.UdsAdapter

/-!
# The calls of the UDS adapter, atom by atom

The functions of the adapter hold `mtx_` only to look at the bookkeeping and to change it.
While a request is on its way the heartbeat thread has its turn, and so have other calls.
This module takes each of them apart where the mutexes do: `prog` is what a call does, one
atom for each time it holds one of them.

With nothing in between they are the functions of `UdsAdapter.lean` (`finish_prog`).

Mirroring notes vs the C++:
- An exchange is one atom, as `send_and_resolve` holds `transport_mtx` for all of it. The
  time it takes can pass before the atom, with anything happening in it.
- `stop_heartbeat_locked` clears the flag. The round the thread is in when it is joined has
  come before; threads and joins themselves are in `SessionThreads.lean`.
-/

namespace Sovd

open Atoms Uds

/-! ## The session manager -/

namespace SessionManager

/-- `last_touch_ = std::chrono::steady_clock::now()` -/
def touch (s : SessionManager) : SessionManager := { s with lastTouch := s.now }

/-- `stop_heartbeat_locked`, as far as the others see it. -/
def stopHeartbeat (s : SessionManager) : SessionManager := { s with heartbeatRunning := false }

/-- One exchange with the ECU. -/
def sendProg (bus : Bus) (request : Bytes) : Prog SessionManager (Option Bytes) :=
  .atom (fun s => (send bus request s).2) fun s => .done (send bus request s).1

/-- `ensure_session`: the flag is cleared in a step of its own, before the session is recorded and
the thread is started again. -/
def ensureSessionProg (bus : Bus) (sessionType : UInt8) : Prog SessionManager Bool :=
  .atom touch fun s =>
    if s.currentSessionType = sessionType then .done true
    else
      (sendProg bus (encodeDiagnosticSessionControl sessionType)).bind fun resp =>
        if resp.any fun r => decodeDiagnosticSessionControl r sessionType then
          .atom stopHeartbeat fun _ =>
            .atom (fun s => { s with currentSessionType := sessionType, heartbeatRunning := true })
              fun _ => .done true
        else .done false

/-- `revert_to_default`: the thread is stopped after the exchange and before the records. -/
def revertToDefaultProg (bus : Bus) : Prog SessionManager Bool :=
  .atom id fun s =>
    if s.currentSessionType = 0x01 then .atom stopHeartbeat fun _ => .done true
    else
      (sendProg bus (encodeDiagnosticSessionControl 0x01)).bind fun resp =>
        .atom stopHeartbeat fun _ =>
          .atom (fun s => { s with currentSessionType := 0x01, currentSecurityLevel := 0 })
            fun _ => .done (resp.any fun r => decodeDiagnosticSessionControl r 0x01)

/-- `ensure_security_level`: two exchanges, and the level in a step after them. -/
def ensureSecurityLevelProg (bus : Bus) (level : UInt8) : Prog SessionManager Bool :=
  .atom touch fun s =>
    if level ≤ s.currentSecurityLevel then .done true
    else
      (sendProg bus (encodeSecurityAccessRequestSeed level)).bind fun seedResp =>
        match seedResp.bind fun r => decodeSecurityAccessSeed r level with
        | none => .done false
        | some seed =>
          (sendProg bus (encodeSecurityAccessSendKey level
            (deriveKeyDemoOnlyNotSecure seed level))).bind fun keyResp =>
            if keyResp.any fun r => decodeSecurityAccessKeyAccepted r level then
              .atom (fun s => { s with currentSecurityLevel := level }) fun _ => .done true
            else .done false

/-! ### Nothing in between -/

/-- Without a break it is `send`. -/
@[simp] theorem finish_sendProg (bus : Bus) (request : Bytes) (s : SessionManager) :
    (sendProg bus request).finish s = send bus request s := rfl

/-- Without a break it is `ensure_session`. -/
theorem finish_ensureSessionProg (bus : Bus) (t : UInt8) (s : SessionManager) :
    (ensureSessionProg bus t).finish s = ensureSession bus t s := by
  unfold ensureSessionProg ensureSession
  rw [Prog.finish_atom]
  dsimp only
  split_ifs with h
  · rfl
  · rw [Prog.finish_bind, finish_sendProg, touch]
    rcases send bus (encodeDiagnosticSessionControl t) { s with lastTouch := s.now } with
      ⟨_ | resp, s'⟩
    · rfl
    · simp only [Option.any_some]
      split_ifs
      · rfl
      · rfl

/-- Without a break it is `revert_to_default`. -/
theorem finish_revertToDefaultProg (bus : Bus) (s : SessionManager) :
    (revertToDefaultProg bus).finish s = revertToDefault bus s := by
  unfold revertToDefaultProg revertToDefault
  rw [Prog.finish_atom]
  dsimp only [id]
  split_ifs with h
  · rfl
  · rw [Prog.finish_bind, finish_sendProg]
    rfl

/-- Without a break it is `ensure_security_level`. -/
theorem finish_ensureSecurityLevelProg (bus : Bus) (l : UInt8) (s : SessionManager) :
    (ensureSecurityLevelProg bus l).finish s = ensureSecurityLevel bus l s := by
  unfold ensureSecurityLevelProg ensureSecurityLevel
  rw [Prog.finish_atom]
  dsimp only
  split_ifs with h
  · rfl
  · rw [Prog.finish_bind, finish_sendProg, touch]
    rcases send bus (encodeSecurityAccessRequestSeed l) { s with lastTouch := s.now } with
      ⟨_ | seedResp, s₁⟩
    · rfl
    · simp only [Option.bind_some]
      cases decodeSecurityAccessSeed seedResp l with
      | none => rfl
      | some seed =>
        dsimp only
        rw [Prog.finish_bind, finish_sendProg]
        rcases send bus (encodeSecurityAccessSendKey l (deriveKeyDemoOnlyNotSecure seed l)) s₁ with
          ⟨_ | keyResp, s₂⟩
        · rfl
        · simp only [Option.any_some]
          split_ifs
          · rfl
          · rfl

end SessionManager

/-! ## The adapter -/

/-- The calls for which the server asks for the lock. -/
inductive LockedCall
  | writeData (did data : Bytes)
  | clearFaults
  | executeOperation (op : Bytes)
  | setMode (mode : Bytes)
  deriving DecidableEq

namespace UdsContext

open SessionManager

/-- The session that the catalog names, if it is a known one. -/
def ensureSessionNamedProg (c : UdsContext) (name : Option Bytes) : Prog SessionManager Bool :=
  match name.bind sessionNameToType with
  | none => .done true
  | some sessionType => ensureSessionProg c.bus sessionType

/-- `ensure_session_for_did` -/
def ensureSessionForDidProg (c : UdsContext) (did : UInt16) : Prog SessionManager Bool :=
  c.ensureSessionNamedProg ((c.findByDid did).bind DataItem.requiresSession)

/-- `ensure_security_for_did`; the level is cut to eight bits. -/
def ensureSecurityForDidProg (c : UdsContext) (did : UInt16) : Prog SessionManager Bool :=
  match (c.findByDid did).bind DataItem.requiresSecurityLevel with
  | none => .done true
  | some level => ensureSecurityLevelProg c.bus (UInt8.ofInt level)

/-- One exchange, and what its response says. -/
def exchangeProg (c : UdsContext) (request : Bytes) (positive : Bytes → Bool) :
    Prog SessionManager SovdResult :=
  (sendProg c.bus request).bind fun
    | none => .done .transport
    | some resp => .done (if positive resp then .ok else negativeOrInternal resp)

/-- `uds_doip_write_data`: the session, the level, and only then the write. -/
def writeDataProg (c : UdsContext) (did data : Bytes) : Prog SessionManager SovdResult :=
  match parseHexU16 did with
  | none => .done .badRequest
  | some did =>
    (c.ensureSessionForDidProg did).bind fun
      | false => .done .transport
      | true =>
        (c.ensureSecurityForDidProg did).bind fun
          | false => .done .forbidden
          | true =>
            if (c.findByDid did).any DataItem.ioControl then
              c.exchangeProg (encodeIoControl did kIoControlShortTermAdjustment data)
                (fun resp => decodeIoControl resp did)
            else
              c.exchangeProg (encodeWriteDataByIdentifier did data)
                (fun resp => decodeWriteDataByIdentifier resp did)

/-- `uds_doip_set_mode` -/
def setModeProg (c : UdsContext) (mode : Bytes) : Prog SessionManager SovdResult :=
  if mode = str "default" then
    (revertToDefaultProg c.bus).bind fun confirmed => .done (if confirmed then .ok else .transport)
  else
    match sessionNameToType mode with
    | none => .done .badRequest
    | some sessionType =>
      (ensureSessionProg c.bus sessionType).bind fun active =>
        .done (if active then .ok else .transport)

/-- `uds_doip_execute_operation` -/
def executeOperationProg (c : UdsContext) (op : Bytes) : Prog SessionManager SovdResult :=
  match c.catalogData.bind fun cat => cat.findOperation op with
  | none => .done .notFound
  | some operation =>
    (c.ensureSessionNamedProg operation.requiresSession).bind fun
      | false => .done .transport
      | true =>
        c.exchangeProg (encodeRoutineControl kRoutineStart operation.routineId [])
          (fun resp => (decodeRoutineControl resp operation.routineId).isSome)

/-- The calls that take the session lock, by the steps others can see between. -/
def prog (c : UdsContext) : LockedCall → Prog SessionManager SovdResult
  | .writeData did data => c.writeDataProg did data
  | .clearFaults =>
    c.exchangeProg encodeClearDiagnosticInformation decodeClearDiagnosticInformation
  | .executeOperation op => c.executeOperationProg op
  | .setMode mode => c.setModeProg mode

/-- The functions of the table. -/
def performLocked (c : UdsContext) (s : SessionManager) (entityPath paramsJson : Bytes) :
    LockedCall → SovdResult × SessionManager
  | .writeData did data => c.writeData s entityPath did data
  | .clearFaults => c.clearFaults s entityPath
  | .executeOperation op =>
    ((c.executeOperation s entityPath op paramsJson).1,
      (c.executeOperation s entityPath op paramsJson).2.2)
  | .setMode mode => c.setMode s entityPath mode

section

variable (c : UdsContext) (s : SessionManager)

/-- The same of the session that the catalog names. -/
@[simp] theorem finish_ensureSessionNamedProg (name : Option Bytes) :
    (c.ensureSessionNamedProg name).finish s = c.ensureSessionNamed name s := by
  unfold ensureSessionNamedProg ensureSessionNamed
  cases name.bind sessionNameToType with
  | none => rfl
  | some t => exact finish_ensureSessionProg c.bus t s

/-- The same of the level of a data item. -/
@[simp] theorem finish_ensureSecurityForDidProg (did : UInt16) :
    (c.ensureSecurityForDidProg did).finish s = c.ensureSecurityForDid did s := by
  unfold ensureSecurityForDidProg ensureSecurityForDid
  cases (c.findByDid did).bind DataItem.requiresSecurityLevel with
  | none => rfl
  | some level => exact finish_ensureSecurityLevelProg c.bus _ s

/-- The same of one exchange. -/
@[simp] theorem finish_exchangeProg (request : Bytes) (positive : Bytes → Bool) :
    (c.exchangeProg request positive).finish s = c.exchange request positive s := by
  unfold exchangeProg exchange
  rw [Prog.finish_bind, finish_sendProg]
  rcases send c.bus request s with ⟨_ | resp, s'⟩
  · rfl
  · rfl

/-- Without a break a write is the function of the adapter. -/
theorem finish_writeDataProg (entityPath did data : Bytes) :
    (c.writeDataProg did data).finish s = c.writeData s entityPath did data := by
  unfold writeDataProg writeData
  cases parseHexU16 did with
  | none => rfl
  | some did =>
    simp only [Prog.finish_bind, ensureSessionForDidProg, ensureSessionForDid,
      finish_ensureSessionNamedProg]
    rcases c.ensureSessionNamed ((c.findByDid did).bind DataItem.requiresSession) s with
      ⟨_ | _, s₁⟩
    · rfl
    · simp only [Prog.finish_bind, finish_ensureSecurityForDidProg]
      rcases c.ensureSecurityForDid did s₁ with ⟨_ | _, s₂⟩
      · rfl
      · dsimp only
        split_ifs
        · exact c.finish_exchangeProg s₂ _ _
        · exact c.finish_exchangeProg s₂ _ _

/-- Setting a mode is its atoms run to the end. -/
theorem finish_setModeProg (entityPath mode : Bytes) :
    (c.setModeProg mode).finish s = c.setMode s entityPath mode := by
  unfold setModeProg setMode
  split_ifs
  · rw [Prog.finish_bind, finish_revertToDefaultProg]
    rfl
  · cases sessionNameToType mode with
    | none => rfl
    | some t =>
      simp only [Prog.finish_bind, finish_ensureSessionProg]
      rfl

/-- Starting an operation is its atoms run to the end. -/
theorem finish_executeOperationProg (entityPath op paramsJson : Bytes) :
    (c.executeOperationProg op).finish s =
      ((c.executeOperation s entityPath op paramsJson).1,
        (c.executeOperation s entityPath op paramsJson).2.2) := by
  unfold executeOperationProg executeOperation
  cases c.catalogData.bind fun cat => cat.findOperation op with
  | none => rfl
  | some operation =>
    dsimp only
    rw [Prog.finish_bind, finish_ensureSessionNamedProg]
    rcases c.ensureSessionNamed operation.requiresSession s with ⟨_ | _, s₁⟩
    · rfl
    · dsimp only
      rw [finish_exchangeProg, exchange]
      rcases send c.bus (encodeRoutineControl kRoutineStart operation.routineId []) s₁ with
        ⟨_ | resp, s₂⟩
      · rfl
      · dsimp only
        cases decodeRoutineControl resp operation.routineId with
        | none => rfl
        | some data => rfl

/-- **Nothing in between**: a call whose atoms come one right after the other is the
function of the table. -/
theorem finish_prog (entityPath paramsJson : Bytes) (call : LockedCall) :
    (c.prog call).finish s = c.performLocked s entityPath paramsJson call := by
  cases call with
  | writeData did data => exact c.finish_writeDataProg s entityPath did data
  | clearFaults => exact c.finish_exchangeProg s _ _
  | executeOperation op => exact c.finish_executeOperationProg s entityPath op paramsJson
  | setMode mode => exact c.finish_setModeProg s entityPath mode

end

end UdsContext

end Sovd
