import Sovd.Catalog.Loader
import Sovd.Uds.DtcRecords
import Sovd.Uds.SessionRuns

/-!
# What a write has behind it (`adapters/uds_doip/src/uds_doip_adapter.cpp`)

A catalog may ask for a session and a security level before a DID is written. The
write checks its own record of the two, so the question is what the record is worth:
`Kept` says that since it was last dropped the recorded session is the last one the
ECU confirmed (the default one if there was none), and the recorded level, if any,
was obtained by a seed and a key the ECU accepted. Every call of the adapter keeps it.

With that, `write_gated` says what a write request has behind it when it is sent.

Mirroring notes vs the C++:
- Calls come one at a time, with any time between them and rounds of the heartbeat
  among them, against an ECU that may answer anything.
- `relockedAt` is where on the wire the record was last dropped, by a revert or by the
  idle timeout.
- Of reading faults only the request matters here.
-/

namespace Sovd

open Uds SessionManager

/-! ## The record and the wire -/

/-- The session that the exchange opened. -/
def Exchange.opened (x : Exchange) : Option UInt8 :=
  match x.request, x.response with
  | [sid, t], some resp =>
    if sid = kSidDiagnosticSessionControl ∧ decodeDiagnosticSessionControl resp t = true then some t
    else none
  | _, _ => none

/-- The last session that was opened. -/
def lastOpened (xs : List Exchange) : Option UInt8 := xs.reverse.findSome? Exchange.opened

/-- Level `l` was asked for, and the key to the seed accepted. -/
def Obtained (l : UInt8) (xs : List Exchange) : Prop :=
  ∃ pre seedResp seed keyResp post,
    xs = pre ++ ⟨encodeSecurityAccessRequestSeed l, some seedResp⟩ ::
      ⟨encodeSecurityAccessSendKey l (deriveKeyDemoOnlyNotSecure seed l), some keyResp⟩ :: post ∧
    decodeSecurityAccessSeed seedResp l = some seed ∧
    decodeSecurityAccessKeyAccepted keyResp l = true

/-- The session opened last is the one of the later exchanges, if there is one. -/
theorem lastOpened_append (xs ys : List Exchange) :
    lastOpened (xs ++ ys) = (lastOpened ys).or (lastOpened xs) := by
  rw [lastOpened, List.reverse_append, List.findSome?_append]
  rfl

/-- A level that was obtained stays so, whatever comes after. -/
theorem Obtained.append {l : UInt8} {xs : List Exchange} (h : Obtained l xs)
    (ys : List Exchange) : Obtained l (xs ++ ys) := by
  obtain ⟨pre, seedResp, seed, keyResp, post, rfl, hseed, hkey⟩ := h
  exact ⟨pre, seedResp, seed, keyResp, post ++ ys, by simp, hseed, hkey⟩

/-- What the record is worth, dropped as it was after the first `k` exchanges. -/
structure Kept (k : Nat) (s : SessionManager) : Prop where
  le : k ≤ s.wire.length
  session : s.currentSessionType = (lastOpened (s.wire.drop k)).getD 0x01
  level : s.currentSecurityLevel = 0 ∨ Obtained s.currentSecurityLevel (s.wire.drop k)

/-- A request that is not about the session. -/
def OffSession (request : Bytes) : Prop := ∀ t, request ≠ [kSidDiagnosticSessionControl, t]

/-- A request that is no session control opens nothing. -/
theorem opened_offSession {x : Exchange} (h : OffSession x.request) : x.opened = none := by
  unfold Exchange.opened
  split
  next sid t resp hreq hresp =>
    rw [if_neg]
    rintro ⟨rfl, -⟩
    exact h t hreq
  next => rfl

section

variable {k : Nat} {bus : Bus}

/-- Only the wire, the session and the level matter. -/
theorem Kept.congr {s s' : SessionManager} (h : Kept k s) (hwire : s'.wire = s.wire)
    (hsession : s'.currentSessionType = s.currentSessionType)
    (hlevel : s'.currentSecurityLevel = s.currentSecurityLevel) : Kept k s' :=
  ⟨hwire ▸ h.le, by rw [hsession, hwire, h.session], by rw [hlevel, hwire]; exact h.level⟩

/-- Time stamps do not matter to the records. -/
theorem Kept.touch {s : SessionManager} (h : Kept k s) : Kept k { s with lastTouch := s.now } :=
  h.congr rfl rfl rfl

theorem Kept.wait {s : SessionManager} (h : Kept k s) (d : Nat) : Kept k (s.wait d) :=
  h.congr rfl rfl rfl

/-- A request is one exchange more. -/
theorem drop_send {s : SessionManager} (h : k ≤ s.wire.length) (request : Bytes) :
    (SessionManager.send bus request s).2.wire.drop k =
      s.wire.drop k ++ [⟨request, bus.reply s.wire request⟩] :=
  List.drop_append_of_le_length h

/-- What it opens is the last that was opened, if it opens something. -/
theorem lastOpened_send (bus : Bus) {s : SessionManager} (h : k ≤ s.wire.length) (request : Bytes) :
    lastOpened ((SessionManager.send bus request s).2.wire.drop k) =
      (Exchange.opened ⟨request, bus.reply s.wire request⟩).or (lastOpened (s.wire.drop k)) := by
  rw [drop_send h, lastOpened_append]
  simp [lastOpened]

/-- A level that was obtained stays obtained. -/
theorem Kept.level_send {s : SessionManager} (h : Kept k s) (request : Bytes) :
    s.currentSecurityLevel = 0 ∨ Obtained s.currentSecurityLevel
      ((SessionManager.send bus request s).2.wire.drop k) := by
  rw [drop_send h.le]
  exact h.level.imp_right fun hob => hob.append _

/-- The history only grows. -/
theorem le_send {s : SessionManager} (h : k ≤ s.wire.length) (request : Bytes) :
    k ≤ (SessionManager.send bus request s).2.wire.length :=
  h.trans (by simp [SessionManager.send])

/-- Requests that are no session control keep the records. -/
theorem Kept.send {s : SessionManager} (h : Kept k s) {request : Bytes}
    (hoff : OffSession request) : Kept k (send bus request s).2 := by
  refine ⟨le_send h.le request, ?_, h.level_send request⟩
  rw [lastOpened_send bus h.le, opened_offSession hoff, Option.none_or]
  exact h.session

/-- A request for a seed is no session control. -/
theorem offSession_seed (l : UInt8) : OffSession (encodeSecurityAccessRequestSeed l) :=
  fun _ heq => absurd (List.cons.inj heq).1 (by decide)

/-- A key is no session control. -/
theorem offSession_key (l : UInt8) (seed : Bytes) : OffSession (keyRequest l seed) :=
  fun _ heq => absurd (List.cons.inj heq).1 (by decide)

/-- A session that the ECU confirms is opened. -/
theorem opened_confirmed {t : UInt8} {s : SessionManager} (h : Confirms bus t s) :
    Exchange.opened ⟨encodeDiagnosticSessionControl t,
      bus.reply s.wire (encodeDiagnosticSessionControl t)⟩ = some t := by
  obtain ⟨resp, hresp, hdec⟩ := (Option.any_eq_true ..).mp h
  rw [hresp]
  simp [Exchange.opened, encodeDiagnosticSessionControl, hdec]

/-- A session that the ECU does not confirm is not opened. -/
theorem opened_refused {t : UInt8} {s : SessionManager} (h : ¬ Confirms bus t s) :
    Exchange.opened ⟨encodeDiagnosticSessionControl t,
      bus.reply s.wire (encodeDiagnosticSessionControl t)⟩ = none := by
  cases hresp : bus.reply s.wire (encodeDiagnosticSessionControl t) with
  | none => rfl
  | some resp =>
    rw [Confirms, hresp, Option.any_some] at h
    simp [Exchange.opened, encodeDiagnosticSessionControl, h]

/-- `ensure_session` records what was opened. -/
theorem Kept.ensureSession {s : SessionManager} (h : Kept k s) (t : UInt8) :
    Kept k (ensureSession bus t s).2 := by
  by_cases hact : s.currentSessionType = t
  · rw [ensureSession_active hact]
    exact h.touch
  have htouch := h.touch
  have hopened := lastOpened_send bus htouch.le (encodeDiagnosticSessionControl t)
  by_cases hc : Confirms bus t s
  · rw [opened_confirmed (s := { s with lastTouch := s.now }) hc] at hopened
    rw [ensureSession_confirmed hact hc]
    exact ⟨le_send htouch.le _, by rw [hopened]; rfl, htouch.level_send _⟩
  · rw [opened_refused (s := { s with lastTouch := s.now }) hc] at hopened
    rw [ensureSession_refused hact hc]
    exact ⟨le_send htouch.le _, by rw [hopened]; exact h.session, htouch.level_send _⟩

/-- `ensure_security_level` a level that was obtained. -/
theorem Kept.ensureSecurityLevel {s : SessionManager} (h : Kept k s) (l : UInt8) :
    Kept k (ensureSecurityLevel bus l s).2 := by
  by_cases hheld : l ≤ s.currentSecurityLevel
  · rw [ensureSecurityLevel_held hheld]
    exact h.touch
  have hasked : Kept k (askedSeed bus l s) := h.touch.send (offSession_seed l)
  cases hseed : seedFor bus l s with
  | none =>
    rw [ensureSecurityLevel_noSeed hheld hseed]
    exact hasked
  | some seed =>
    have hkeyed : Kept k (SessionManager.send bus (keyRequest l seed) (askedSeed bus l s)).2 :=
      hasked.send (offSession_key l seed)
    rw [ensureSecurityLevel_seed hheld hseed]
    dsimp only
    split
    next hgrants =>
      obtain ⟨seedResp, hseedResp, hseedDec⟩ := Option.bind_eq_some_iff.mp hseed
      obtain ⟨seed', hseed', hkey⟩ := hgrants
      obtain rfl : seed' = seed := Option.some.inj (hseed'.symm.trans hseed)
      obtain ⟨keyResp, hkeyResp, hkeyDec⟩ := (Option.any_eq_true ..).mp hkey
      refine ⟨hkeyed.le, hkeyed.session, .inr ?_⟩
      refine ⟨s.wire.drop k, seedResp, seed', keyResp, [], ?_, hseedDec, hkeyDec⟩
      change (SessionManager.send bus (keyRequest l seed') (askedSeed bus l s)).2.wire.drop k = _
      rw [drop_send hasked.le, hkeyResp, askedSeed, drop_send h.touch.le, hseedResp]
      simp [keyRequest]
    next => exact hkeyed

/-- `revert_to_default` drops the records, unless the session is the default one already. -/
theorem Kept.revertToDefault {s : SessionManager} (h : Kept k s) :
    ∃ k', Kept k' (revertToDefault bus s).2 ∧
      k' = if s.currentSessionType = 0x01 then k else (revertToDefault bus s).2.wire.length := by
  refine ⟨_, ?_, rfl⟩
  split
  next hdefault =>
    rw [revertToDefault_default hdefault]
    exact h.congr rfl rfl rfl
  next hescalated =>
    refine ⟨le_rfl, ?_, ?_⟩
    · rw [List.drop_length]
      exact (revertToDefault_spec bus s).1
    · rw [revertToDefault_escalated hescalated]
      exact .inl rfl

end

/-! ## The calls of an adapter -/

/-- The calls of the adapter, and the heartbeat. -/
inductive UdsCall
  | readFaults
  | clearFaults (entityPath : Bytes)
  | readData (entityPath did : Bytes)
  | writeData (entityPath did data : Bytes)
  | setMode (entityPath mode : Bytes)
  | executeOperation (entityPath op paramsJson : Bytes)
  | heartbeat
  deriving DecidableEq

namespace UdsContext

/-- What a call makes of the session manager. -/
def perform (c : UdsContext) (s : SessionManager) : UdsCall → SessionManager
  | .readFaults => (send c.bus (encodeReadDtcByStatusMask 0xFF) s).2
  | .clearFaults entityPath => (c.clearFaults s entityPath).2
  | .readData entityPath did => (c.readData s entityPath did).2.2
  | .writeData entityPath did data => (c.writeData s entityPath did data).2
  | .setMode entityPath mode => (c.setMode s entityPath mode).2
  | .executeOperation entityPath op paramsJson =>
    (c.executeOperation s entityPath op paramsJson).2.2
  | .heartbeat => heartbeatTick c.config c.bus s

/-- The call drops the record: it reverts from an escalated session, or idles out. -/
def Relocks (c : UdsContext) (s : SessionManager) : UdsCall → Prop
  | .setMode _ mode => mode = str "default" ∧ s.currentSessionType ≠ 0x01
  | .heartbeat => s.idle c.config = true
  | _ => False

instance (c : UdsContext) (s : SessionManager) (call : UdsCall) : Decidable (c.Relocks s call) := by
  unfold Relocks
  split <;> infer_instance

end UdsContext

/-- The session manager, and since when its records count. -/
structure WriteGateSys where
  manager : SessionManager
  /-- How many exchanges there were when the record was last dropped. -/
  relockedAt : Nat := 0

namespace WriteGateSys

/-- What went over the wire since the record was last dropped. -/
def since (s : WriteGateSys) : List Exchange := s.manager.wire.drop s.relockedAt

/-- A call, or a round of the heartbeat if it is running, after some time. -/
def next (c : UdsContext) (s : WriteGateSys) (e : Nat × UdsCall) : Option WriteGateSys :=
  let manager := s.manager.wait e.1
  if e.2 = .heartbeat ∧ manager.heartbeatRunning = false then none
  else
    let manager' := c.perform manager e.2
    some ⟨manager', if c.Relocks manager e.2 then manager'.wire.length else s.relockedAt⟩

/-- Every history of calls, one at a time. -/
def runs (c : UdsContext) : Lts WriteGateSys (Nat × UdsCall) :=
  Lts.ofFn (fun s => s.manager.Fresh ∧ s.relockedAt = 0) (next c)

variable {c : UdsContext} {k : Nat}

/-- The session an item asks for keeps the records. -/
theorem kept_ensureSessionNamed {s : SessionManager} (h : Kept k s) (name : Option Bytes) :
    Kept k (c.ensureSessionNamed name s).2 := by
  unfold UdsContext.ensureSessionNamed
  split
  next => exact h
  next t _ => exact h.ensureSession t

/-- The level an item asks for keeps the records. -/
theorem kept_ensureSecurityForDid {s : SessionManager} (h : Kept k s) (did : UInt16) :
    Kept k (c.ensureSecurityForDid did s).2 := by
  unfold UdsContext.ensureSecurityForDid
  split
  next => exact h
  next l _ => exact h.ensureSecurityLevel _

/-- An exchange that is no session control keeps the records. -/
theorem kept_exchange {s : SessionManager} (h : Kept k s) {request : Bytes}
    (hoff : OffSession request) (positive : Bytes → Bool) :
    Kept k (c.exchange request positive s).2 := by
  have hsent : Kept k (send c.bus request s).2 := h.send hoff
  unfold UdsContext.exchange
  split
  next s' hs =>
    rw [hs] at hsent
    exact hsent
  next resp s' hs =>
    rw [hs] at hsent
    exact hsent

/-- A request of another service. -/
theorem offSession_cons {sid : UInt8} (h : sid ≠ kSidDiagnosticSessionControl) (rest : Bytes) :
    OffSession (sid :: rest) :=
  fun _ heq => h (List.cons.inj heq).1

/-- Writing keeps them. -/
theorem kept_writeData {s : SessionManager} (h : Kept k s) (entityPath did data : Bytes) :
    Kept k (c.writeData s entityPath did data).2 := by
  unfold UdsContext.writeData
  split
  next => exact h
  next did hdid =>
    have h₁ : Kept k (c.ensureSessionForDid did s).2 := kept_ensureSessionNamed h _
    split
    next s₁ hs₁ =>
      rw [hs₁] at h₁
      exact h₁
    next s₁ hs₁ =>
      rw [hs₁] at h₁
      have h₂ : Kept k (c.ensureSecurityForDid did s₁).2 := kept_ensureSecurityForDid h₁ did
      split
      next s₂ hs₂ =>
        rw [hs₂] at h₂
        exact h₂
      next s₂ hs₂ =>
        rw [hs₂] at h₂
        split
        · exact kept_exchange h₂ (offSession_cons (by decide) _) _
        · exact kept_exchange h₂ (offSession_cons (by decide) _) _

/-- Starting an operation keeps them. -/
theorem kept_executeOperation {s : SessionManager} (h : Kept k s)
    (entityPath op paramsJson : Bytes) :
    Kept k (c.executeOperation s entityPath op paramsJson).2.2 := by
  unfold UdsContext.executeOperation
  split
  next => exact h
  next operation _ =>
    have h₁ : Kept k (c.ensureSessionNamed operation.requiresSession s).2 :=
      kept_ensureSessionNamed h _
    split
    next s₁ hs₁ =>
      rw [hs₁] at h₁
      exact h₁
    next s₁ hs₁ =>
      rw [hs₁] at h₁
      have h₂ : Kept k (send c.bus
          (encodeRoutineControl kRoutineStart operation.routineId []) s₁).2 :=
        h₁.send (offSession_cons (by decide) _)
      split
      next s₂ hs₂ =>
        rw [hs₂] at h₂
        exact h₂
      next resp s₂ hs₂ =>
        rw [hs₂] at h₂
        split <;> exact h₂

/-- Reading keeps them. -/
theorem kept_readData {s : SessionManager} (h : Kept k s) (entityPath did : Bytes) :
    Kept k (c.readData s entityPath did).2.2 := by
  unfold UdsContext.readData
  split
  next => exact h
  next did _ =>
    have h₁ : Kept k (send c.bus (encodeReadDataByIdentifier did) s).2 :=
      h.send (offSession_cons (by decide) _)
    split
    next s₁ hs₁ =>
      rw [hs₁] at h₁
      exact h₁
    next resp s₁ hs₁ =>
      rw [hs₁] at h₁
      split <;> exact h₁

/-- A mode keeps them, or drops them where it relocks. -/
theorem kept_setMode {s : SessionManager} (h : Kept k s) (entityPath mode : Bytes) :
    Kept (if c.Relocks s (.setMode entityPath mode) then
      (c.setMode s entityPath mode).2.wire.length else k) (c.setMode s entityPath mode).2 := by
  by_cases hdefault : mode = str "default"
  · obtain rfl := hdefault
    obtain ⟨k', hk', rfl⟩ : ∃ k', Kept k' (revertToDefault c.bus s).2 ∧
        k' = if s.currentSessionType = 0x01 then k else (revertToDefault c.bus s).2.wire.length :=
      h.revertToDefault
    rw [UdsContext.setMode_default]
    by_cases hsession : s.currentSessionType = 0x01
    · rw [if_pos hsession] at hk'
      rwa [if_neg (fun hr => hr.2 hsession)]
    · rw [if_neg hsession] at hk'
      rwa [if_pos ⟨rfl, hsession⟩]
  · rw [if_neg (fun hr => hdefault hr.1)]
    unfold UdsContext.setMode
    rw [if_neg hdefault]
    split
    next => exact h
    next t _ => exact h.ensureSession t

/-- The heartbeat drops them when it ends the session, and keeps them otherwise. -/
theorem kept_heartbeat {s : SessionManager} (h : Kept k s) :
    Kept (if c.Relocks s .heartbeat then (heartbeatTick c.config c.bus s).wire.length else k)
      (heartbeatTick c.config c.bus s) := by
  by_cases hidle : s.idle c.config = true
  · rw [if_pos (show c.Relocks s .heartbeat from hidle)]
    obtain ⟨hsession, hlevel, -⟩ := heartbeatTick_idle c.bus hidle
    refine ⟨le_rfl, ?_, .inl hlevel⟩
    rw [List.drop_length]
    exact hsession
  · rw [if_neg (show ¬ c.Relocks s .heartbeat from hidle), heartbeatTick, if_neg hidle]
    exact h.send (offSession_cons (by decide) _)

/-- **Every call keeps the record worth what it says.** -/
theorem kept_step {s s' : WriteGateSys} {e : Nat × UdsCall} (h : Kept s.relockedAt s.manager)
    (hs : (runs c).step s e s') : Kept s'.relockedAt s'.manager := by
  obtain ⟨d, call⟩ := e
  have hnext : next c s (d, call) = some s' := hs
  unfold next at hnext
  dsimp only at hnext
  split at hnext
  next => cases hnext
  next =>
    obtain rfl := Option.some.inj hnext
    have hw := h.wait d
    cases call with
    | readFaults => exact hw.send (offSession_cons (by decide) _)
    | clearFaults entityPath => exact kept_exchange hw (offSession_cons (by decide) _) _
    | readData entityPath did => exact kept_readData hw entityPath did
    | writeData entityPath did data => exact kept_writeData hw entityPath did data
    | setMode entityPath mode => exact kept_setMode hw entityPath mode
    | executeOperation entityPath op paramsJson =>
      exact kept_executeOperation hw entityPath op paramsJson
    | heartbeat => exact kept_heartbeat hw

/-- **In every history the records are kept.** -/
theorem kept_of_hist {es : List (Nat × UdsCall)} {s : WriteGateSys} (h : (runs c).Hist es s) :
    Kept s.relockedAt s.manager := by
  obtain ⟨s₀, ⟨⟨t, hfresh⟩, hzero⟩, hr⟩ := h
  refine Lts.run_invariant (I := fun s => Kept s.relockedAt s.manager)
    (fun _ _ _ hk hs => kept_step hk hs) hr ?_
  rw [hfresh, hzero]
  exact ⟨le_rfl, rfl, .inl rfl⟩

end WriteGateSys

/-! ## What a write sends -/

/-- `WriteDataByIdentifier` or `InputOutputControlByIdentifier` -/
def Exchange.IsWrite (x : Exchange) : Prop :=
  x.request.head? = some kSidWriteDataByIdentifier ∨ x.request.head? = some kSidIoControl

instance (x : Exchange) : Decidable x.IsWrite := inferInstanceAs (Decidable (_ ∨ _))

/-- Nothing was written on the way from `s` to `s'`. -/
def NoWrite (s s' : SessionManager) : Prop :=
  ∃ xs, s'.wire = s.wire ++ xs ∧ ∀ x ∈ xs, ¬ x.IsWrite

/-- Where nothing was sent, nothing was written. -/
theorem NoWrite.of_wire {s s' : SessionManager} (h : s'.wire = s.wire) : NoWrite s s' :=
  ⟨[], by simp [h], by simp⟩

/-- Two stretches without a write are one. -/
theorem NoWrite.trans {s₁ s₂ s₃ : SessionManager} (h₁ : NoWrite s₁ s₂) (h₂ : NoWrite s₂ s₃) :
    NoWrite s₁ s₃ := by
  obtain ⟨xs, hxs, hnx⟩ := h₁
  obtain ⟨ys, hys, hny⟩ := h₂
  refine ⟨xs ++ ys, by rw [hys, hxs, List.append_assoc], ?_⟩
  intro x hx
  rcases List.mem_append.mp hx with hleft | hright
  · exact hnx x hleft
  · exact hny x hright

/-- None of what was exchanged is a write. -/
theorem NoWrite.exchanged {s s' : SessionManager} (h : NoWrite s s') :
    ∀ x ∈ EcuSys.exchanged s s', ¬ x.IsWrite := by
  obtain ⟨xs, hxs, hnx⟩ := h
  rw [EcuSys.exchanged_eq hxs]
  exact hnx

/-- A request with another SID is no write. -/
theorem noWrite_send {bus : Bus} {sid : UInt8} {rest : Bytes} {s : SessionManager}
    (h : sid ≠ kSidWriteDataByIdentifier ∧ sid ≠ kSidIoControl) :
    NoWrite s (send bus (sid :: rest) s).2 := by
  refine ⟨[_], rfl, ?_⟩
  intro x hx
  rw [List.mem_singleton.mp hx]
  rintro (heq | heq)
  · exact h.1 (Option.some.inj heq)
  · exact h.2 (Option.some.inj heq)

/-- Raising the session writes nothing. -/
theorem noWrite_ensureSession (bus : Bus) (t : UInt8) (s : SessionManager) :
    NoWrite s (ensureSession bus t s).2 := by
  have hsend : NoWrite s (send bus (encodeDiagnosticSessionControl t)
      { s with lastTouch := s.now }).2 :=
    noWrite_send (s := { s with lastTouch := s.now }) (by decide)
  by_cases hact : s.currentSessionType = t
  · rw [ensureSession_active hact]
    exact .of_wire rfl
  · by_cases hc : Confirms bus t s
    · rw [ensureSession_confirmed hact hc]
      exact hsend
    · rw [ensureSession_refused hact hc]
      exact hsend

/-- Raising the level writes nothing. -/
theorem noWrite_ensureSecurityLevel (bus : Bus) (l : UInt8) (s : SessionManager) :
    NoWrite s (ensureSecurityLevel bus l s).2 := by
  have hasked : NoWrite s (askedSeed bus l s) :=
    noWrite_send (s := { s with lastTouch := s.now }) (by decide)
  by_cases hheld : l ≤ s.currentSecurityLevel
  · rw [ensureSecurityLevel_held hheld]
    exact .of_wire rfl
  · cases hseed : seedFor bus l s with
    | none =>
      rw [ensureSecurityLevel_noSeed hheld hseed]
      exact hasked
    | some seed =>
      have hkeyed : NoWrite s (send bus (keyRequest l seed) (askedSeed bus l s)).2 :=
        hasked.trans (noWrite_send (by decide))
      rw [ensureSecurityLevel_seed hheld hseed]
      dsimp only
      split <;> exact hkeyed

/-- When `ensure_session` succeeds the session is recorded. -/
theorem ensureSession_true {bus : Bus} {t : UInt8} {s s' : SessionManager}
    (h : ensureSession bus t s = (true, s')) : s'.currentSessionType = t := by
  unfold ensureSession at h
  dsimp only at h
  split at h
  next hact => exact (Prod.mk.inj h).2 ▸ hact
  next =>
    split at h
    next => cases (Prod.mk.inj h).1
    next =>
      split at h
      next => exact (Prod.mk.inj h).2 ▸ rfl
      next => cases (Prod.mk.inj h).1

/-- When `ensure_security_level` succeeds the level is reached. -/
theorem ensureSecurityLevel_true {bus : Bus} {l : UInt8} {s s' : SessionManager}
    (h : ensureSecurityLevel bus l s = (true, s')) : l ≤ s'.currentSecurityLevel := by
  unfold ensureSecurityLevel at h
  dsimp only at h
  split at h
  next hheld => exact (Prod.mk.inj h).2 ▸ hheld
  next =>
    split at h
    next => cases (Prod.mk.inj h).1
    next =>
      split at h
      next => cases (Prod.mk.inj h).1
      next =>
        split at h
        next => cases (Prod.mk.inj h).1
        next =>
          split at h
          next => exact (Prod.mk.inj h).2 ▸ UInt8.le_refl l
          next => cases (Prod.mk.inj h).1

namespace UdsContext

/-- The context's catalog, if it has one, came out of the loader. -/
def Loaded (c : UdsContext) : Prop :=
  ∀ cat ∈ c.catalogData, ∃ lib yamlText, Catalog.loadFromString lib yamlText = .ok cat

/-- The request that writes. -/
def writeRequest (c : UdsContext) (did : UInt16) (data : Bytes) : Bytes :=
  if (c.findByDid did).any DataItem.ioControl then
    encodeIoControl did kIoControlShortTermAdjustment data
  else encodeWriteDataByIdentifier did data

/-- What the catalog asks for before `did` is written is there, on the record and on
the wire since the record was last dropped. -/
structure Gated (c : UdsContext) (did : UInt16) (s : SessionManager) (since : List Exchange) :
    Prop where
  session : ∀ item name t, c.findByDid did = some item → item.requiresSession = some name →
    sessionNameToType name = some t → s.currentSessionType = t ∧
      (lastOpened since = some t ∨ (t = 0x01 ∧ lastOpened since = none))
  level : ∀ item n, c.findByDid did = some item → item.requiresSecurityLevel = some n → n ≤ 255 →
    ∃ l, n ≤ l.toNat ∧ Obtained l since

/-- The call sent one write request, its last, with what is asked for behind it. -/
def WritesGated (c : UdsContext) (did : UInt16) (data : Bytes) (k : Nat)
    (s s' : SessionManager) : Prop :=
  ∃ m resp, NoWrite s m ∧ s'.wire = m.wire ++ [⟨c.writeRequest did data, resp⟩] ∧
    c.Gated did m (m.wire.drop k)

variable {c : UdsContext} {k : Nat}

/-- Levels of up to 255 are not cut. -/
theorem toNat_ofInt {n : Int} (hpos : 0 < n) (hle : n ≤ 255) :
    ((UInt8.ofInt n).toNat : Int) = n := by
  unfold UInt8.ofInt
  rw [UInt8.toNat_ofNat']
  omega

/-- Past the check of the session, the session is the one that the item names. -/
theorem gated_session {did : UInt16} {s s₁ : SessionManager}
    (hs : c.ensureSessionForDid did s = (true, s₁)) {item : DataItem} {name : Bytes} {t : UInt8}
    (hitem : c.findByDid did = some item) (hname : item.requiresSession = some name)
    (htype : sessionNameToType name = some t) : s₁.currentSessionType = t := by
  unfold ensureSessionForDid ensureSessionNamed at hs
  rw [hitem, Option.bind_some, hname, Option.bind_some, htype] at hs
  exact ensureSession_true hs

/-- The check of the level leaves the session as it is. -/
theorem ensureSecurityForDid_session (did : UInt16) (s : SessionManager) :
    (c.ensureSecurityForDid did s).2.currentSessionType = s.currentSessionType := by
  unfold ensureSecurityForDid
  split
  · rfl
  · exact (ensureSecurityLevel_session c.bus _ s).1

/-- The level on the record is the one that is asked for, or a higher one. -/
theorem gated_level {did : UInt16} {s s₁ : SessionManager}
    (hs : c.ensureSecurityForDid did s = (true, s₁)) {item : DataItem} {n : Int}
    (hitem : c.findByDid did = some item) (hlevel : item.requiresSecurityLevel = some n)
    (hpos : 0 < n) (hle : n ≤ 255) : n ≤ s₁.currentSecurityLevel.toNat := by
  unfold ensureSecurityForDid at hs
  rw [hitem, Option.bind_some, hlevel] at hs
  have hrecorded := UInt8.le_iff_toNat_le.mp (ensureSecurityLevel_true hs)
  have hn := toNat_ofInt hpos hle
  omega

/-- The check of the session writes nothing. -/
theorem noWrite_ensureSessionForDid (did : UInt16) (s : SessionManager) :
    NoWrite s (c.ensureSessionForDid did s).2 := by
  unfold ensureSessionForDid ensureSessionNamed
  split
  next => exact .of_wire rfl
  next t _ => exact noWrite_ensureSession c.bus t s

/-- The check of the level writes nothing. -/
theorem noWrite_ensureSecurityForDid (did : UInt16) (s : SessionManager) :
    NoWrite s (c.ensureSecurityForDid did s).2 := by
  unfold ensureSecurityForDid
  split
  next => exact .of_wire rfl
  next l _ => exact noWrite_ensureSecurityLevel c.bus _ s

/-- An exchange is the one request and what was read for it. -/
theorem exchange_wire (request : Bytes) (positive : Bytes → Bool) (s : SessionManager) :
    (c.exchange request positive s).2.wire = s.wire ++ [⟨request, c.bus.reply s.wire request⟩] := by
  unfold exchange
  split
  next s' hs => exact (Prod.mk.inj hs).2 ▸ rfl
  next resp s' hs => exact (Prod.mk.inj hs).2 ▸ rfl

/-- A write is gated from every state whose records are kept. -/
theorem writeData_gated (hloaded : c.Loaded) {s : SessionManager} (h : Kept k s)
    (entityPath did data : Bytes) :
    (∃ number, parseHexU16 did = some number ∧
      c.WritesGated number data k s (c.writeData s entityPath did data).2) ∨
    ((c.writeData s entityPath did data).1 ≠ .ok ∧
      NoWrite s (c.writeData s entityPath did data).2) := by
  unfold writeData
  split
  next => exact .inr ⟨by simp, .of_wire rfl⟩
  next number hnumber =>
    -- the session first: what it takes writes nothing and keeps the records
    have hquiet₁ := noWrite_ensureSessionForDid (c := c) number s
    have h₁ : Kept k (c.ensureSessionForDid number s).2 := WriteGateSys.kept_ensureSessionNamed h _
    split
    next s₁ hs₁ =>
      rw [hs₁] at hquiet₁
      exact .inr ⟨by simp, hquiet₁⟩
    next s₁ hs₁ =>
      rw [hs₁] at hquiet₁ h₁
      -- then the level, which leaves the session as it is
      have hquiet₂ := noWrite_ensureSecurityForDid (c := c) number s₁
      have hsession := ensureSecurityForDid_session (c := c) number s₁
      have h₂ : Kept k (c.ensureSecurityForDid number s₁).2 :=
        WriteGateSys.kept_ensureSecurityForDid h₁ number
      split
      next s₂ hs₂ =>
        rw [hs₂] at hquiet₂
        exact .inr ⟨by simp, hquiet₁.trans hquiet₂⟩
      next s₂ hs₂ =>
        rw [hs₂] at hquiet₂ hsession h₂
        refine .inl ⟨number, hnumber, s₂,
          c.bus.reply s₂.wire (c.writeRequest number data), hquiet₁.trans hquiet₂, ?_, ?_, ?_⟩
        · unfold writeRequest
          split
          · exact exchange_wire ..
          · exact exchange_wire ..
        · intro item name t hitem hname htype
          have ht : s₂.currentSessionType = t :=
            hsession.trans (gated_session hs₁ hitem hname htype)
          refine ⟨ht, ?_⟩
          have hkept := h₂.session
          rw [ht] at hkept
          -- the session of the record was opened since `k`, or is the default one
          cases hlast : lastOpened (s₂.wire.drop k) with
          | none => exact .inr ⟨by rw [hkept, hlast]; rfl, rfl⟩
          | some t' => exact .inl (by rw [hkept, hlast]; rfl)
        · intro item n hitem hlevel hle
          obtain ⟨cat, hcat, hfind⟩ := Option.bind_eq_some_iff.mp hitem
          obtain ⟨lib, yamlText, hload⟩ := hloaded cat hcat
          -- a level of a loaded catalog is none but a positive one
          have hpos : 0 < n := Catalog.level_pos hload (List.mem_of_find?_eq_some hfind) hlevel
          have hrecorded := gated_level hs₂ hitem hlevel hpos hle
          refine ⟨s₂.currentSecurityLevel, hrecorded, h₂.level.resolve_left fun hzero => ?_⟩
          rw [hzero] at hrecorded
          exact absurd hpos (not_lt.mpr hrecorded)

/-- **A write has behind it what the catalog asks for**, in whatever state the calls
before it have left the adapter: the write request goes out last, for the DID, with the
session and the level there, or nothing is written and the call fails. -/
theorem write_gated (hloaded : c.Loaded) {es : List (Nat × UdsCall)} {s : WriteGateSys}
    (h : (WriteGateSys.runs c).Hist es s) (entityPath did data : Bytes) :
    (∃ number, parseHexU16 did = some number ∧
      c.WritesGated number data s.relockedAt s.manager
        (c.writeData s.manager entityPath did data).2) ∨
    ((c.writeData s.manager entityPath did data).1 ≠ .ok ∧
      NoWrite s.manager (c.writeData s.manager entityPath did data).2) :=
  writeData_gated hloaded (WriteGateSys.kept_of_hist h) entityPath did data

end UdsContext

/-! ## A catalog whose gates stand open -/

namespace OpenGates

def yamlText : Bytes := str ("data:\n" ++
  "- id: mileage\n  did: 0x0101\n  type: raw\n  access: read_write\n" ++
  "  requires_session: default\n" ++
  "- id: immobilizer\n  did: 0x0102\n  type: raw\n  access: read_write\n" ++
  "  requires_security_level: 256\n")

def entries : List Yaml :=
  [SharedDid.entry [("id", "mileage"), ("did", "0x0101"), ("type", "raw"),
      ("access", "read_write"), ("requires_session", "default")],
    SharedDid.entry [("id", "immobilizer"), ("did", "0x0102"), ("type", "raw"),
      ("access", "read_write"), ("requires_security_level", "256")]]

def lib : YamlLib where
  load text := if text = yamlText then .ok (.map [(.scalar (str "data"), .seq entries)])
    else .error (str "end of map not found")
  asBool text := if text = str "true" then some true
    else if text = str "false" then some false else none
  asInt := Catalog.stoi
  asDouble _ := none

/-- Asks for the session there is from the start. -/
def mileage : DataItem :=
  { id := str "mileage", did := 0x0101, access := .readWrite, requiresSession := str "default" }

/-- Asks for a level that becomes 0 when it is cut to eight bits. -/
def immobilizer : DataItem :=
  { id := str "immobilizer", did := 0x0102, access := .readWrite,
    requiresSecurityLevel := some 256 }

theorem load_eq : Catalog.loadFromString lib yamlText = .ok { data := [mileage, immobilizer] } := by
  have hload : lib.load yamlText = .ok (.map [(.scalar (str "data"), .seq entries)]) := by
    simp only [lib, ↓reduceIte]
  rw [Catalog.loadFromString, hload]
  rfl

/-- An adapter with this catalog, and an ECU that accepts everything. -/
def adapter : UdsContext where
  catalogData := some { data := [mileage, immobilizer] }
  bus := SecurityEcu.agreeable.bus

theorem loaded : adapter.Loaded := by
  rintro _ ⟨⟩
  exact ⟨lib, yamlText, load_eq⟩

/-- Nothing but the write goes over the wire: the default session is not confirmed, and
level 256 is 0 in eight bits. -/
theorem written_unasked :
    Catalog.loadFromString lib yamlText = .ok { data := [mileage, immobilizer] } ∧
      (WriteGateSys.runs adapter).Hist [] { manager := {} } ∧
      adapter.findByDid 0x0101 = some mileage ∧ mileage.requiresSession = some (str "default") ∧
      (adapter.writeData {} [] (str "0x0101") [7]).2.wire =
        [⟨[0x2E, 0x01, 0x01, 7], some [0x6E, 0x01, 0x5A]⟩] ∧
      adapter.findByDid 0x0102 = some immobilizer ∧ immobilizer.requiresSecurityLevel = some 256 ∧
      (adapter.writeData {} [] (str "0x0102") [7]).2.wire =
        [⟨[0x2E, 0x01, 0x02, 7], some [0x6E, 0x01, 0x5A]⟩] :=
  ⟨load_eq, Lts.hist_nil ⟨⟨0, rfl⟩, rfl⟩, by decide, rfl, by decide, by decide, rfl, by decide⟩

end OpenGates

/-! ## A catalog whose gate is shut -/

namespace ShutGate

def yamlText : Bytes := str ("data:\n" ++
  "- id: tuning\n  did: 0x0110\n  type: raw\n  access: read_write\n" ++
  "  requires_session: extended\n  requires_security_level: 1\n")

def entries : List Yaml :=
  [SharedDid.entry [("id", "tuning"), ("did", "0x0110"), ("type", "raw"),
    ("access", "read_write"), ("requires_session", "extended"),
    ("requires_security_level", "1")]]

def lib : YamlLib where
  load text := if text = yamlText then .ok (.map [(.scalar (str "data"), .seq entries)])
    else .error (str "end of map not found")
  asBool _ := none
  asInt := Catalog.stoi
  asDouble _ := none

/-- An item that asks for a session and a level. -/
def tuning : DataItem :=
  { id := str "tuning", did := 0x0110, access := .readWrite, requiresSession := str "extended"
    requiresSecurityLevel := some 1 }

theorem load_eq : Catalog.loadFromString lib yamlText = .ok { data := [tuning] } := by
  have hload : lib.load yamlText = .ok (.map [(.scalar (str "data"), .seq entries)]) := by
    simp only [lib, ↓reduceIte]
  rw [Catalog.loadFromString, hload]
  rfl

/-- An ECU that accepts everything, and repeats what it was asked. -/
def ecu : SecurityEcu where
  answer _ request :=
    match request with
    | sid :: rest => some ([sid + 0x40] ++ rest ++ [0x5A])
    | [] => none

/-- An adapter with this catalog and this ECU. -/
def adapter : UdsContext where
  catalogData := some { data := [tuning] }
  bus := ecu.bus

theorem loaded : adapter.Loaded := by
  rintro _ ⟨⟩
  exact ⟨lib, yamlText, load_eq⟩

/-- `tuning` is written, the session reverted, and `tuning` written again. -/
def events : List (Nat × UdsCall) :=
  [(0, .setMode [] (str "extended")), (1, .writeData [] (str "0x0110") [5]),
    (1, .setMode [] (str "default")), (1, .writeData [] (str "0x0110") [6])]

/-- What has gone over the wire: a session, a level and a write, the end of the session, and
all three once more. -/
def exchanged (s : WriteGateSys) : Bool :=
  decide (s.manager.wire.map Exchange.request =
    [[0x10, 0x03], [0x27, 0x01], [0x27, 0x02, 0xFE], [0x2E, 0x01, 0x10, 5], [0x10, 0x01],
      [0x10, 0x03], [0x27, 0x01], [0x27, 0x02, 0xFE], [0x2E, 0x01, 0x10, 6]])

/-- A third write has the session and the level of the second behind it. -/
theorem write_gated_shutGate :
    adapter.findByDid 0x0110 = some tuning ∧
    ∃ s, (WriteGateSys.runs adapter).Hist events s ∧ exchanged s = true ∧ s.relockedAt = 5 ∧
      ∃ number, parseHexU16 (str "0x0110") = some number ∧
        adapter.WritesGated number [7] s.relockedAt s.manager
          (adapter.writeData s.manager [] (str "0x0110") [7]).2 := by
  have hrun : (events.foldlM (WriteGateSys.next adapter) { manager := {} }).any (fun s =>
      decide ((exchanged s = true ∧ s.relockedAt = 5) ∧
        (adapter.writeData s.manager [] (str "0x0110") [7]).1 = .ok)) = true := by
    decide +kernel
  obtain ⟨s, hhist, ⟨hwire, hrelocked⟩, hok⟩ :=
    @Lts.exists_hist_of_any WriteGateSys _ (fun s => s.manager.Fresh ∧ s.relockedAt = 0)
      _ _ _ _ _ ⟨⟨0, rfl⟩, rfl⟩ hrun
  refine ⟨by decide, s, hhist, hwire, hrelocked, ?_⟩
  rcases UdsContext.write_gated loaded hhist [] (str "0x0110") [7] with hgated | ⟨hfailed, -⟩
  · exact hgated
  · exact absurd hok hfailed

end ShutGate

end Sovd
