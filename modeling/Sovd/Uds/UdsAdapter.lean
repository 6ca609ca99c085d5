import Sovd.Catalog.DidCatalog
import Sovd.Core.Adapter
import Sovd.HexText
import Sovd.Uds.SessionManager

/-!
# The UDS adapter (`adapters/uds_doip/src/uds_doip_adapter.cpp`)

The functions the adapter puts into its table, over the state of its session
manager. A write escalates the session and then the security level as the
catalog asks for the DID, and sends one request; a routine escalates the
session as the catalog asks for the operation. Reading and clearing faults
escalate nothing.

Every function but `set_mode` with `default` only raises things:
`UdsContext.writeData_moves` and its siblings say so, and the run of
`ensureSession`, `ensureSecurityLevel` and `send` in each is the whole proof.

Mirroring notes vs the C++:
- The exchange itself, with its pending responses and faults, is `Bus.reply`
  here; `Uds/Exchange.lean` is about how it comes about.
- Reading DTCs is left out.
-/

namespace Sovd

open Uds SessionManager

/-- `nrc_to_sovd_result`; a code the table does not have is internal. -/
def nrcToSovdResult (nrc : UInt8) : SovdResult :=
  if nrc = 0x10 then .internal
  else if nrc = 0x11 then .unsupported
  else if nrc = 0x12 then .unsupported
  else if nrc = 0x13 then .badRequest
  else if nrc = 0x14 then .internal
  else if nrc = 0x21 then .busy
  else if nrc = 0x22 then .conflict
  else if nrc = 0x24 then .conflict
  else if nrc = 0x31 then .badRequest
  else if nrc = 0x33 then .forbidden
  else if nrc = 0x35 then .forbidden
  else if nrc = 0x36 then .busy
  else if nrc = 0x37 then .busy
  else if nrc = 0x70 then .unsupported
  else if nrc = 0x78 then .busy
  else if nrc = 0x7E then .unsupported
  else if nrc = 0x7F then .unsupported
  else .internal

/-- What a response that is not the positive one comes to. -/
def negativeOrInternal (resp : Bytes) : SovdResult :=
  match isNegativeResponse resp with
  | some nrc => nrcToSovdResult nrc
  | none => .internal

/-- What does not change of an adapter's context: its catalog, if it has one, and
the ECU it talks to. -/
structure UdsContext where
  catalogData : Option Catalog := none
  config : SessionManagerConfig := {}
  bus : Bus

namespace UdsContext

/-- The catalog entry of a DID, if the adapter has a catalog. -/
def findByDid (c : UdsContext) (did : UInt16) : Option DataItem :=
  c.catalogData.bind fun cat => cat.findByDid did

/-- A session name nobody knows is no reason to refuse. -/
def ensureSessionNamed (c : UdsContext) (name : Option Bytes) (s : SessionManager) :
    Bool × SessionManager :=
  match name.bind sessionNameToType with
  | none => (true, s)
  | some sessionType => ensureSession c.bus sessionType s

/-- `ensure_session_for_did`: an unknown session name asks for nothing. -/
def ensureSessionForDid (c : UdsContext) (did : UInt16) (s : SessionManager) :
    Bool × SessionManager :=
  c.ensureSessionNamed ((c.findByDid did).bind DataItem.requiresSession) s

/-- `ensure_security_for_did`: `static_cast<uint8_t>` keeps the low byte of the level. -/
def ensureSecurityForDid (c : UdsContext) (did : UInt16) (s : SessionManager) :
    Bool × SessionManager :=
  match (c.findByDid did).bind DataItem.requiresSecurityLevel with
  | none => (true, s)
  | some level => ensureSecurityLevel c.bus (UInt8.ofInt level) s

/-- One request, and what its response amounts to. -/
def exchange (c : UdsContext) (request : Bytes) (positive : Bytes → Bool) (s : SessionManager) :
    SovdResult × SessionManager :=
  match send c.bus request s with
  | (none, s) => (.transport, s)
  | (some resp, s) => (if positive resp then .ok else negativeOrInternal resp, s)

/-- `uds_doip_clear_faults` -/
def clearFaults (c : UdsContext) (s : SessionManager) (_entityPath : Bytes) :
    SovdResult × SessionManager :=
  c.exchange encodeClearDiagnosticInformation decodeClearDiagnosticInformation s

/-- `uds_doip_read_data`: neither a session nor a level is asked for. -/
def readData (c : UdsContext) (s : SessionManager) (_entityPath did : Bytes) :
    SovdResult × Bytes × SessionManager :=
  match parseHexU16 did with
  | none => (.badRequest, [], s)
  | some did =>
    match send c.bus (encodeReadDataByIdentifier did) s with
    | (none, s) => (.transport, [], s)
    | (some resp, s) =>
      match decodeReadDataByIdentifier resp did with
      | none => (negativeOrInternal resp, [], s)
      | some data => (.ok, data, s)

/-- `uds_doip_write_data`: the session, the level, and then the write or the I/O control. -/
def writeData (c : UdsContext) (s : SessionManager) (_entityPath did data : Bytes) :
    SovdResult × SessionManager :=
  match parseHexU16 did with
  | none => (.badRequest, s)
  | some did =>
    match c.ensureSessionForDid did s with
    | (false, s) => (.transport, s)
    | (true, s) =>
      -- the session stays raised where the level is refused
      match c.ensureSecurityForDid did s with
      | (false, s) => (.forbidden, s)
      | (true, s) =>
        if (c.findByDid did).any DataItem.ioControl then
          c.exchange (encodeIoControl did kIoControlShortTermAdjustment data)
            (fun resp => decodeIoControl resp did) s
        else
          c.exchange (encodeWriteDataByIdentifier did data)
            (fun resp => decodeWriteDataByIdentifier resp did) s

/-- `uds_doip_set_mode`: `default` ends the session, any other known name raises it. -/
def setMode (c : UdsContext) (s : SessionManager) (_entityPath mode : Bytes) :
    SovdResult × SessionManager :=
  if mode = str "default" then
    let (confirmed, s) := revertToDefault c.bus s
    (if confirmed then .ok else .transport, s)
  else
    match sessionNameToType mode with
    | none => (.badRequest, s)
    | some sessionType =>
      let (active, s) := ensureSession c.bus sessionType s
      (if active then .ok else .transport, s)

/-- The document of a routine that was started. -/
def operationResultText (op : Bytes) : Bytes :=
  str "\x7b\"operation\":\"" ++ op ++ str "\",\"status\":\"completed\"\x7d"

/-- `uds_doip_execute_operation`; the parameters are not sent. -/
def executeOperation (c : UdsContext) (s : SessionManager) (_entityPath op _paramsJson : Bytes) :
    SovdResult × Option Bytes × SessionManager :=
  match c.catalogData.bind fun cat => cat.findOperation op with
  | none => (.notFound, none, s)
  | some operation =>
    match c.ensureSessionNamed operation.requiresSession s with
    | (false, s) => (.transport, none, s)
    | (true, s) =>
      match send c.bus (encodeRoutineControl kRoutineStart operation.routineId []) s with
      | (none, s) => (.transport, none, s)
      | (some resp, s) =>
        match decodeRoutineControl resp operation.routineId with
        | none => (negativeOrInternal resp, none, s)
        | some _ => (.ok, some (operationResultText op), s)

/-- The table of functions. -/
def vtable (c : UdsContext) : Vtable SessionManager where
  clearFaults := some c.clearFaults
  readData := some c.readData
  writeData := some c.writeData
  setMode := some c.setMode
  executeOperation := some c.executeOperation

/-! ## What each function can raise -/

section

variable (c : UdsContext)

/-- Raising the session of an item is moves of the session manager. -/
theorem ensureSessionNamed_moves (name : Option Bytes) (s : SessionManager) :
    ∃ exchanged, Moves s (c.ensureSessionNamed name s).2 exchanged := by
  unfold ensureSessionNamed
  split
  next => exact ⟨[], .refl s⟩
  next t ht => exact ensureSession_moves t s

/-- Raising the level of an item is moves. -/
theorem ensureSecurityForDid_moves (did : UInt16) (s : SessionManager) :
    ∃ exchanged, Moves s (c.ensureSecurityForDid did s).2 exchanged := by
  unfold ensureSecurityForDid
  split
  next => exact ⟨[], .refl s⟩
  next l hl => exact ensureSecurityLevel_moves _ s

/-- One exchange is moves. -/
theorem exchange_moves (request : Bytes) (positive : Bytes → Bool) (s : SessionManager) :
    ∃ exchanged, Moves s (c.exchange request positive s).2 exchanged := by
  unfold exchange
  split
  next s' hs => exact ⟨_, send_moves hs⟩
  next resp s' hs => exact ⟨_, send_moves hs⟩

/-- Clearing the faults is moves. -/
theorem clearFaults_moves (s : SessionManager) (entityPath : Bytes) :
    ∃ exchanged, Moves s (c.clearFaults s entityPath).2 exchanged := c.exchange_moves ..

/-- Writing a data item is moves. -/
theorem writeData_moves (s : SessionManager) (entityPath did data : Bytes) :
    ∃ exchanged, Moves s (c.writeData s entityPath did data).2 exchanged := by
  unfold writeData
  split
  next => exact ⟨[], .refl s⟩
  next did hdid =>
    obtain ⟨x₁, h₁⟩ :=
      c.ensureSessionNamed_moves ((c.findByDid did).bind DataItem.requiresSession) s
    rw [← ensureSessionForDid] at h₁
    split
    next s₁ hs₁ =>
      rw [hs₁] at h₁
      exact ⟨x₁, h₁⟩
    next s₁ hs₁ =>
      rw [hs₁] at h₁
      -- session, level, and then one of the two requests
      obtain ⟨x₂, h₂⟩ := c.ensureSecurityForDid_moves did s₁
      split
      next s₂ hs₂ =>
        rw [hs₂] at h₂
        exact ⟨_, h₁.trans h₂⟩
      next s₂ hs₂ =>
        rw [hs₂] at h₂
        split
        · obtain ⟨x₃, h₃⟩ :=
            c.exchange_moves (encodeIoControl did kIoControlShortTermAdjustment data)
              (fun resp => decodeIoControl resp did) s₂
          exact ⟨_, (h₁.trans h₂).trans h₃⟩
        · obtain ⟨x₃, h₃⟩ := c.exchange_moves (encodeWriteDataByIdentifier did data)
            (fun resp => decodeWriteDataByIdentifier resp did) s₂
          exact ⟨_, (h₁.trans h₂).trans h₃⟩

/-- Starting an operation is moves. -/
theorem executeOperation_moves (s : SessionManager) (entityPath op paramsJson : Bytes) :
    ∃ exchanged, Moves s (c.executeOperation s entityPath op paramsJson).2.2 exchanged := by
  unfold executeOperation
  split
  next => exact ⟨[], .refl s⟩
  next operation hop =>
    obtain ⟨x₁, h₁⟩ := c.ensureSessionNamed_moves operation.requiresSession s
    split
    next s₁ hs₁ =>
      rw [hs₁] at h₁
      exact ⟨x₁, h₁⟩
    next s₁ hs₁ =>
      rw [hs₁] at h₁
      split
      next s₂ hs₂ => exact ⟨_, h₁.trans (send_moves hs₂)⟩
      next resp s₂ hs₂ =>
        split <;> exact ⟨_, h₁.trans (send_moves hs₂)⟩

/-- A mode other than `default` raises the session at most; `default` reverts it. -/
theorem setMode_moves {mode : Bytes} (hmode : mode ≠ str "default") (s : SessionManager)
    (entityPath : Bytes) : ∃ exchanged, Moves s (c.setMode s entityPath mode).2 exchanged := by
  unfold setMode
  rw [if_neg hmode]
  split
  next => exact ⟨[], .refl s⟩
  next t ht => exact ensureSession_moves t s

/-- The mode `default` is `revert_to_default`. -/
theorem setMode_default (s : SessionManager) (entityPath : Bytes) :
    (c.setMode s entityPath (str "default")).2 = (revertToDefault c.bus s).2 := by
  unfold setMode
  rw [if_pos rfl]

end

end UdsContext

end Sovd
