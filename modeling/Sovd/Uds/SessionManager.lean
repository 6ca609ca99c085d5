import Sovd.Core.LockManager
import Sovd.Uds.UdsServices

/-!
# `SessionManager` (`adapters/uds_doip/src/session_manager.cpp`)

What the adapter believes about its one ECU: the diagnostic session and the
security level it last obtained, each with an exchange on the wire and each
dropped without asking when the server is done with it. The fields are kept
apart, and so is their bookkeeping.

`Moves` is what a series of exchanges can do to the two: each is as it was, or
was obtained by an exchange of the series that the ECU accepted. The three
operations that raise something (`ensureSession`, `ensureSecurityLevel` and,
raising nothing, `send`) are `Moves`; the two that drop something have a lemma
that says what they leave.

Mirroring notes vs the C++:
- `Bus` is the other end of `send_`: it may answer each request as it likes,
  knowing everything sent before, and take any time for it. `wire` is the
  record of the exchanges.
- `mtx_` and `transport_mtx` make each operation a step; the heartbeat thread is
  the flag that says it runs, and `heartbeatTick` one round of its loop.
-/

namespace Sovd

/-- A UDS request and what came back, if something did. -/
structure Exchange where
  request : Bytes
  response : Option Bytes
  deriving DecidableEq

/-- What the session manager sees of its ECU: the response to a request, and how long it takes. -/
structure Bus where
  reply : List Exchange → Bytes → Option Bytes
  delay : List Exchange → Bytes → Nat := fun _ _ => 0

/-- `SessionManagerConfig` -/
structure SessionManagerConfig where
  idleTimeoutMs : Int := 6000

/-- The session manager; the wire and the clock are ghosts. -/
structure SessionManager where
  currentSessionType : UInt8 := 0x01
  currentSecurityLevel : UInt8 := 0
  heartbeatRunning : Bool := false
  lastTouch : Time := 0
  now : Time := 0
  wire : List Exchange := []

namespace SessionManager

open Uds

/-- One exchange over the transport. -/
def send (bus : Bus) (request : Bytes) (s : SessionManager) : Option Bytes × SessionManager :=
  let response := bus.reply s.wire request
  (response,
    { s with wire := s.wire ++ [⟨request, response⟩], now := s.now + bus.delay s.wire request })

/-- `ensure_session` -/
def ensureSession (bus : Bus) (sessionType : UInt8) (s : SessionManager) : Bool × SessionManager :=
  let s := { s with lastTouch := s.now }
  if s.currentSessionType = sessionType then (true, s)
  else
    match send bus (encodeDiagnosticSessionControl sessionType) s with
    | (none, s) => (false, s)
    | (some resp, s) =>
      if decodeDiagnosticSessionControl resp sessionType then
        (true, { s with currentSessionType := sessionType, heartbeatRunning := true })
      else (false, s)

/-- Asks the ECU for the default session and records it, whatever the answer. -/
def revertToDefault (bus : Bus) (s : SessionManager) : Bool × SessionManager :=
  if s.currentSessionType = 0x01 then (true, { s with heartbeatRunning := false })
  else
    let (resp, s) := send bus (encodeDiagnosticSessionControl 0x01) s
    (resp.any fun r => decodeDiagnosticSessionControl r 0x01,
      { s with heartbeatRunning := false, currentSessionType := 0x01, currentSecurityLevel := 0 })

/-- `ensure_security_level`: a seed, the key for it, and the level if it is accepted. -/
def ensureSecurityLevel (bus : Bus) (level : UInt8) (s : SessionManager) :
    Bool × SessionManager :=
  let s := { s with lastTouch := s.now }
  if level ≤ s.currentSecurityLevel then (true, s)
  else
    match send bus (encodeSecurityAccessRequestSeed level) s with
    | (none, s) => (false, s)
    | (some seedResp, s) =>
      match decodeSecurityAccessSeed seedResp level with
      | none => (false, s)
      | some seed =>
        let key := deriveKeyDemoOnlyNotSecure seed level
        match send bus (encodeSecurityAccessSendKey level key) s with
        | (none, s) => (false, s)
        | (some keyResp, s) =>
          if decodeSecurityAccessKeyAccepted keyResp level then
            (true, { s with currentSecurityLevel := level })
          else (false, s)

/-- The session has not been touched for the idle timeout. -/
def idle (cfg : SessionManagerConfig) (s : SessionManager) : Bool :=
  decide (cfg.idleTimeoutMs ≤ (s.now - s.lastTouch).tdiv 1000000)

/-- One round of the heartbeat thread. -/
def heartbeatTick (cfg : SessionManagerConfig) (bus : Bus) (s : SessionManager) : SessionManager :=
  if s.idle cfg then
    { s with currentSessionType := 0x01, currentSecurityLevel := 0, heartbeatRunning := false }
  else (send bus encodeTesterPresent s).2

/-! ## What is obtained is obtained on the wire -/

/-- One of the exchanges is a session control request for `t` that the ECU accepted. -/
def Opened (t : UInt8) (wire : List Exchange) : Prop :=
  ∃ resp, ⟨encodeDiagnosticSessionControl t, some resp⟩ ∈ wire ∧
    decodeDiagnosticSessionControl resp t = true

/-- One of the exchanges sends a key for level `l` that the ECU accepted. -/
def Unlocked (l : UInt8) (wire : List Exchange) : Prop :=
  ∃ key resp, ⟨encodeSecurityAccessSendKey l key, some resp⟩ ∈ wire ∧
    decodeSecurityAccessKeyAccepted resp l = true

/-- What was opened stays so in a longer history. -/
theorem Opened.mono {t : UInt8} {wire wire' : List Exchange} (h : Opened t wire)
    (hsub : wire ⊆ wire') : Opened t wire' := by
  obtain ⟨resp, hmem, hdec⟩ := h
  exact ⟨resp, hsub hmem, hdec⟩

/-- What was unlocked stays so in a longer history. -/
theorem Unlocked.mono {l : UInt8} {wire wire' : List Exchange} (h : Unlocked l wire)
    (hsub : wire ⊆ wire') : Unlocked l wire' := by
  obtain ⟨key, resp, hmem, hdec⟩ := h
  exact ⟨key, resp, hsub hmem, hdec⟩

/-- `exchanged` went over the wire, and nothing was recorded that it does not show. -/
structure Moves (s s' : SessionManager) (exchanged : List Exchange) : Prop where
  wire : s'.wire = s.wire ++ exchanged
  session : s'.currentSessionType = s.currentSessionType ∨ Opened s'.currentSessionType exchanged
  level : s'.currentSecurityLevel = s.currentSecurityLevel ∨
    Unlocked s'.currentSecurityLevel exchanged

/-- Nothing happened. -/
theorem Moves.refl (s : SessionManager) : Moves s s [] := ⟨by simp, .inl rfl, .inl rfl⟩

/-- Two stretches of moves are one. -/
theorem Moves.trans {s₁ s₂ s₃ : SessionManager} {wire₁ wire₂ : List Exchange}
    (h₁ : Moves s₁ s₂ wire₁) (h₂ : Moves s₂ s₃ wire₂) : Moves s₁ s₃ (wire₁ ++ wire₂) := by
  refine ⟨by rw [h₂.wire, h₁.wire, List.append_assoc], ?_, ?_⟩
  · rcases h₂.session with heq | hop
    · rw [heq]
      exact h₁.session.imp_right fun h => h.mono (List.subset_append_left ..)
    · exact .inr (hop.mono (List.subset_append_right ..))
  · rcases h₂.level with heq | hun
    · rw [heq]
      exact h₁.level.imp_right fun h => h.mono (List.subset_append_left ..)
    · exact .inr (hun.mono (List.subset_append_right ..))

section

variable {bus : Bus}

/-- A request is a move. -/
theorem send_moves {request : Bytes} {response : Option Bytes} {s s' : SessionManager}
    (h : send bus request s = (response, s')) : Moves s s' [⟨request, response⟩] := by
  obtain ⟨rfl, rfl⟩ := Prod.mk.inj h
  exact ⟨rfl, .inl rfl, .inl rfl⟩

/-- The bookkeeping after an exchange that the ECU accepted. -/
theorem Moves.open {s s' : SessionManager} {exchanged : List Exchange} {t : UInt8}
    (h : Moves s s' exchanged) (ht : Opened t exchanged) :
    Moves s { s' with currentSessionType := t, heartbeatRunning := true } exchanged :=
  ⟨h.wire, .inr ht, h.level⟩

/-- A level that was unlocked may be recorded. -/
theorem Moves.unlock {s s' : SessionManager} {exchanged : List Exchange} {l : UInt8}
    (h : Moves s s' exchanged) (hl : Unlocked l exchanged) :
    Moves s { s' with currentSecurityLevel := l } exchanged :=
  ⟨h.wire, h.session, .inr hl⟩

/-- The time of the last touch does not matter. -/
theorem Moves.of_touch {s s' : SessionManager} {exchanged : List Exchange} {t : Time}
    (h : Moves { s with lastTouch := t } s' exchanged) : Moves s s' exchanged :=
  ⟨h.wire, h.session, h.level⟩

/-- `ensure_session` is moves. -/
theorem ensureSession_moves (t : UInt8) (s : SessionManager) :
    ∃ exchanged, Moves s (ensureSession bus t s).2 exchanged := by
  unfold ensureSession
  dsimp only
  split
  next => exact ⟨[], (Moves.refl _).of_touch⟩
  next =>
    split
    next s' hs => exact ⟨_, (send_moves hs).of_touch⟩
    next resp s' hs =>
      split
      next hdec => exact ⟨_, ((send_moves hs).open ⟨resp, by simp, hdec⟩).of_touch⟩
      next => exact ⟨_, (send_moves hs).of_touch⟩

/-- `ensure_security_level` is moves. -/
theorem ensureSecurityLevel_moves (l : UInt8) (s : SessionManager) :
    ∃ exchanged, Moves s (ensureSecurityLevel bus l s).2 exchanged := by
  unfold ensureSecurityLevel
  dsimp only
  split
  next => exact ⟨[], (Moves.refl _).of_touch⟩
  next =>
    split
    next s₁ hs₁ => exact ⟨_, (send_moves hs₁).of_touch⟩
    next seedResp s₁ hs₁ =>
      split
      next => exact ⟨_, (send_moves hs₁).of_touch⟩
      next seed hseed =>
        -- seed and key: the level counts once the key is accepted
        split
        next s₂ hs₂ => exact ⟨_, ((send_moves hs₁).trans (send_moves hs₂)).of_touch⟩
        next keyResp s₂ hs₂ =>
          have hboth := (send_moves hs₁).trans (send_moves hs₂)
          split
          next hdec =>
            exact ⟨_, (hboth.unlock
              ⟨deriveKeyDemoOnlyNotSecure seed l, keyResp, by simp, hdec⟩).of_touch⟩
          next => exact ⟨_, hboth.of_touch⟩

/-! ## What a teardown leaves -/

/-- After a revert the session is the default one. The level is gone, and the
default session was asked for, unless it was the recorded one already. -/
theorem revertToDefault_spec (bus : Bus) (s : SessionManager) :
    (revertToDefault bus s).2.currentSessionType = 0x01 ∧
      ((s.currentSessionType = 0x01 ∧ Moves s (revertToDefault bus s).2 []) ∨
        ((revertToDefault bus s).2.currentSecurityLevel = 0 ∧
          ∃ resp, (revertToDefault bus s).2.wire =
            s.wire ++ [⟨encodeDiagnosticSessionControl 0x01, resp⟩])) := by
  unfold revertToDefault
  split
  next h => exact ⟨h, .inl ⟨h, by simp, .inl rfl, .inl rfl⟩⟩
  next => exact ⟨rfl, .inr ⟨rfl, _, rfl⟩⟩

/-- A heartbeat that finds the session idle drops it without an exchange. -/
theorem heartbeatTick_idle (bus : Bus) {cfg : SessionManagerConfig} {s : SessionManager}
    (h : s.idle cfg = true) :
    (heartbeatTick cfg bus s).currentSessionType = 0x01 ∧
      (heartbeatTick cfg bus s).currentSecurityLevel = 0 ∧
      (heartbeatTick cfg bus s).wire = s.wire := by
  rw [heartbeatTick, if_pos h]
  exact ⟨rfl, rfl, rfl⟩

/-- A round leaves the session, or ends it. -/
theorem heartbeatTick_session (bus : Bus) (cfg : SessionManagerConfig) (s : SessionManager) :
    (heartbeatTick cfg bus s).currentSessionType = s.currentSessionType ∨
      (heartbeatTick cfg bus s).currentSessionType = 0x01 := by
  unfold heartbeatTick
  split
  · exact .inr rfl
  · exact .inl rfl

/-- A heartbeat that finds the session in use is a move. -/
theorem heartbeatTick_busy (bus : Bus) {cfg : SessionManagerConfig} {s : SessionManager}
    (h : s.idle cfg = false) : ∃ exchanged, Moves s (heartbeatTick cfg bus s) exchanged := by
  rw [heartbeatTick, if_neg (by simp [h])]
  exact ⟨_, send_moves rfl⟩

end

end SessionManager

end Sovd
