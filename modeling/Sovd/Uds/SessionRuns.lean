import Sovd.Lib.Lts
import Sovd.Uds.SessionManager

/-!
# Runs of the session manager (`adapters/uds_doip/src/session_manager.cpp`)

The session, the level and the heartbeat flag of a `SessionManager` are each set
by some of its operations and not by others. This file says what the three have
to do with each other, and with the ECU, along any series of operations.

`runs` is the manager on its own, against an ECU that may answer anything:

- `Reverted` is what `revert_to_default` promises. Its early return looks at the
  session only, so a level that was unlocked in the default session stays.
- `HeartbeatInStep`: the heartbeat runs exactly while escalated. The default session
  reached by `ensure_session` starts a heartbeat like any other.

`EcuSys.runs` adds the ECU's own security level, with the two ways it locks again: on
a session control request that it accepts, and on its session timeout. The manager
drops its record where it reverts and where it idles out, but not where
`ensure_session` changes the session, so there it may claim more than it has.

For each of the three a predicate on the state before a step and the ECU's answers
says whether the step keeps it, so the runs that keep it are characterised exactly.

Mirroring notes vs the C++:
- The operations come one at a time, in any order, with any time between them. A round
  of the heartbeat needs a thread that runs.
- A request the ECU does not get, or says nothing to, has no answer. An answer that
  does not reach the manager has had its effect.
- The sub-function of a SecurityAccess request is odd where it asks for a seed and even
  where it sends a key, which is why `ensure_security_level` is to be given odd levels.
- The ECU's session timeout strikes at the earliest when the idle timeout has passed
  since it last answered something.
-/

namespace Sovd

open Uds

/-- The calls of the session manager, and a round of its heartbeat. -/
inductive SessionCall
  | ensureSession (sessionType : UInt8)
  | ensureSecurityLevel (level : UInt8)
  | revertToDefault
  | heartbeat
  deriving DecidableEq

/-- An ECU, as far as the manager can tell: what it answers, how long it takes, and
which of its answers are lost on the way. -/
structure SecurityEcu where
  answer : List Exchange → Bytes → Option Bytes
  lost : List Exchange → Bytes → Bool := fun _ _ => false
  delay : List Exchange → Bytes → Nat := fun _ _ => 0

/-- What the session manager sees of the ECU: an answer may be lost. -/
def SecurityEcu.bus (ecu : SecurityEcu) : Bus where
  reply wire request := if ecu.lost wire request then none else ecu.answer wire request
  delay := ecu.delay

/-- An ECU that accepts whatever has a sub-function. -/
def SecurityEcu.agreeable : SecurityEcu where
  answer _ request := match request with
    | sid :: sub :: _ => some [sid + 0x40, sub, 0x5A]
    | _ => none

namespace SessionManager

/-- Time passes. -/
def wait (after : Nat) (s : SessionManager) : SessionManager := { s with now := s.now + after }

/-- What a call makes of the session manager. -/
def perform (cfg : SessionManagerConfig) (bus : Bus) : SessionCall → SessionManager → SessionManager
  | .ensureSession sessionType, s => (ensureSession bus sessionType s).2
  | .ensureSecurityLevel level, s => (ensureSecurityLevel bus level s).2
  | .revertToDefault, s => (revertToDefault bus s).2
  | .heartbeat, s => heartbeatTick cfg bus s

/-- There is a heartbeat thread for a round of it. -/
def Enabled (s : SessionManager) (call : SessionCall) : Prop :=
  call = .heartbeat → s.heartbeatRunning = true

instance (s : SessionManager) (call : SessionCall) : Decidable (s.Enabled call) :=
  inferInstanceAs (Decidable (_ → _))

/-- One call, a time after the last. -/
def next (cfg : SessionManagerConfig) (bus : Bus) (s : SessionManager) (e : Nat × SessionCall) :
    Option SessionManager :=
  if s.Enabled e.2 then some (perform cfg bus e.2 (s.wait e.1)) else none

/-- A manager just constructed. -/
def Fresh (s : SessionManager) : Prop := ∃ t : Time, s = { now := t, lastTouch := t }

/-- Every history of the session manager. -/
def runs (cfg : SessionManagerConfig) (bus : Bus) : Lts SessionManager (Nat × SessionCall) :=
  Lts.ofFn Fresh (next cfg bus)

/-! ## What each operation does to the three fields -/

/-- The session control request for `t` is answered, and accepted. -/
def Confirms (bus : Bus) (t : UInt8) (s : SessionManager) : Prop :=
  (bus.reply s.wire (encodeDiagnosticSessionControl t)).any
    (fun resp => decodeDiagnosticSessionControl resp t) = true

instance (bus : Bus) (t : UInt8) (s : SessionManager) : Decidable (Confirms bus t s) :=
  inferInstanceAs (Decidable (_ = _))

variable {cfg : SessionManagerConfig} {bus : Bus}

/-- A session that is recorded is only touched. -/
theorem ensureSession_active {t : UInt8} {s : SessionManager} (h : s.currentSessionType = t) :
    (ensureSession bus t s).2 = { s with lastTouch := s.now } := by
  unfold ensureSession
  rw [if_pos h]

/-- One that the ECU confirms is recorded, and the heartbeat runs. -/
theorem ensureSession_confirmed {t : UInt8} {s : SessionManager} (h : s.currentSessionType ≠ t)
    (hc : Confirms bus t s) :
    (ensureSession bus t s).2 =
      { (send bus (encodeDiagnosticSessionControl t) { s with lastTouch := s.now }).2 with
        currentSessionType := t, heartbeatRunning := true } := by
  obtain ⟨resp, hresp, hdec⟩ := (Option.any_eq_true ..).mp hc
  unfold ensureSession
  rw [if_neg h]
  simp [send, hresp, hdec]

/-- One that it does not leaves the records as they are. -/
theorem ensureSession_refused {t : UInt8} {s : SessionManager} (h : s.currentSessionType ≠ t)
    (hc : ¬ Confirms bus t s) :
    (ensureSession bus t s).2 =
      (send bus (encodeDiagnosticSessionControl t) { s with lastTouch := s.now }).2 := by
  unfold ensureSession
  rw [if_neg h]
  unfold Confirms at hc
  cases hresp : bus.reply s.wire (encodeDiagnosticSessionControl t) with
  | none => simp [send, hresp]
  | some resp =>
    rw [hresp, Option.any_some] at hc
    simp [send, hresp, hc]

/-- The seed the ECU gives for level `l`. -/
def seedFor (bus : Bus) (l : UInt8) (s : SessionManager) : Option Bytes :=
  (bus.reply s.wire (encodeSecurityAccessRequestSeed l)).bind
    fun resp => decodeSecurityAccessSeed resp l

/-- The manager once the seed for level `l` has been asked for. -/
def askedSeed (bus : Bus) (l : UInt8) (s : SessionManager) : SessionManager :=
  (send bus (encodeSecurityAccessRequestSeed l) { s with lastTouch := s.now }).2

/-- The key for level `l` that goes with a seed. -/
def keyRequest (l : UInt8) (seed : Bytes) : Bytes :=
  encodeSecurityAccessSendKey l (deriveKeyDemoOnlyNotSecure seed l)

/-- The seed for level `l` is given, and the key accepted. -/
def Grants (bus : Bus) (l : UInt8) (s : SessionManager) : Prop :=
  ∃ seed ∈ seedFor bus l s,
    (bus.reply (askedSeed bus l s).wire (keyRequest l seed)).any
      (fun resp => decodeSecurityAccessKeyAccepted resp l) = true

instance (bus : Bus) (l : UInt8) (s : SessionManager) : Decidable (Grants bus l s) :=
  inferInstanceAs (Decidable (∃ seed ∈ seedFor bus l s, _))

/-- A level that is reached is only touched. -/
theorem ensureSecurityLevel_held {l : UInt8} {s : SessionManager}
    (h : l ≤ s.currentSecurityLevel) :
    (ensureSecurityLevel bus l s).2 = { s with lastTouch := s.now } := by
  unfold ensureSecurityLevel
  rw [if_pos h]

/-- Without a seed nothing is recorded. -/
theorem ensureSecurityLevel_noSeed {l : UInt8} {s : SessionManager}
    (h : ¬ l ≤ s.currentSecurityLevel) (hseed : seedFor bus l s = none) :
    (ensureSecurityLevel bus l s).2 = askedSeed bus l s := by
  unfold ensureSecurityLevel
  rw [if_neg h]
  unfold seedFor at hseed
  cases hresp : bus.reply s.wire (encodeSecurityAccessRequestSeed l) with
  | none => simp [send, askedSeed, hresp]
  | some resp =>
    rw [hresp, Option.bind_some] at hseed
    simp [send, askedSeed, hresp, hseed]

/-- With the seed, the key goes out, and the level is recorded if the key is accepted. -/
theorem ensureSecurityLevel_seed {l : UInt8} {s : SessionManager} {seed : Bytes}
    (h : ¬ l ≤ s.currentSecurityLevel) (hseed : seedFor bus l s = some seed) :
    (ensureSecurityLevel bus l s).2 =
      let keyed := (send bus (keyRequest l seed) (askedSeed bus l s)).2
      if Grants bus l s then { keyed with currentSecurityLevel := l } else keyed := by
  obtain ⟨resp, hresp, hdec⟩ := Option.bind_eq_some_iff.mp hseed
  have hgrants : Grants bus l s ↔ (bus.reply (askedSeed bus l s).wire (keyRequest l seed)).any
      (fun resp => decodeSecurityAccessKeyAccepted resp l) = true := by
    simp [Grants, hseed]
  unfold ensureSecurityLevel
  rw [if_neg h]
  simp only [send, hresp, hdec]
  cases hkey : bus.reply (askedSeed bus l s).wire (keyRequest l seed) with
  | none =>
    simp only [askedSeed, send, hresp, keyRequest] at hkey
    simp [hgrants, hkey, askedSeed, send, hresp, keyRequest]
  | some keyResp =>
    simp only [askedSeed, send, hresp, keyRequest] at hkey
    by_cases hacc : decodeSecurityAccessKeyAccepted keyResp l = true
    · simp [hgrants, hkey, hacc, askedSeed, send, hresp, keyRequest]
    · simp [hgrants, hkey, hacc, askedSeed, send, hresp, keyRequest]

/-! ## A revert reverts -/

/-- What `revert_to_default` promises to leave. -/
structure Reverted (s : SessionManager) : Prop where
  session : s.currentSessionType = 0x01
  level : s.currentSecurityLevel = 0
  heartbeat : s.heartbeatRunning = false

/-- From the default session nothing is reset, and nothing is sent. -/
theorem revertToDefault_default {s : SessionManager} (h : s.currentSessionType = 0x01) :
    (revertToDefault bus s).2 = { s with heartbeatRunning := false } := by
  unfold revertToDefault
  rw [if_pos h]

/-- Any other session than the default one ends with all that was recorded under it. -/
theorem revertToDefault_escalated {s : SessionManager} (h : s.currentSessionType ≠ 0x01) :
    (revertToDefault bus s).2 =
      { (send bus (encodeDiagnosticSessionControl 0x01) s).2 with
        heartbeatRunning := false, currentSessionType := 0x01, currentSecurityLevel := 0 } := by
  unfold revertToDefault
  rw [if_neg h]

/-- No level is recorded beside the default session. -/
def LevelNeedsSession (s : SessionManager) : Prop :=
  s.currentSessionType = 0x01 → s.currentSecurityLevel = 0

instance (s : SessionManager) : Decidable s.LevelNeedsSession :=
  inferInstanceAs (Decidable (_ → _))

/-- `revert_to_default` leaves nothing exactly if no level was recorded without a session. -/
theorem reverted_iff (s : SessionManager) :
    (revertToDefault bus s).2.Reverted ↔ s.LevelNeedsSession := by
  by_cases h : s.currentSessionType = 0x01
  · rw [revertToDefault_default h]
    constructor
    · intro hrev _
      exact hrev.level
    · intro hlevel
      exact ⟨h, hlevel h, rfl⟩
  · rw [revertToDefault_escalated h]
    constructor
    · intro _ hdefault
      exact absurd hdefault h
    · intro _
      exact ⟨rfl, rfl, rfl⟩

/-- A step is a call that can be made, after some time. -/
theorem next_eq_some {s s' : SessionManager} {e : Nat × SessionCall} :
    next cfg bus s e = some s' ↔ s.Enabled e.2 ∧ perform cfg bus e.2 (s.wait e.1) = s' := by
  unfold next
  split
  next h => simp [h]
  next h => simp [h]

/-- A revert among the calls leaves the manager reverted. -/
def RevertReverts (_ : SessionManager) (e : Nat × SessionCall) (s' : SessionManager) : Prop :=
  e.2 = .revertToDefault → s'.Reverted

/-- No revert among the calls finds a level beside the default session. -/
def NoStrayLevel (s : SessionManager) (e : Nat × SessionCall) (_ : SessionManager) : Prop :=
  e.2 = .revertToDefault → s.LevelNeedsSession

/-- For each step: it reverts exactly if it meets no stray level. -/
theorem revertReverts_iff {s s' : SessionManager} {e : Nat × SessionCall}
    (h : (runs cfg bus).step s e s') : RevertReverts s e s' ↔ NoStrayLevel s e s' := by
  obtain ⟨_, rfl⟩ := next_eq_some.mp h
  refine forall_congr' fun hrev => ?_
  rw [hrev]
  exact reverted_iff _

/-- **A revert reverts** in exactly the runs in which none finds a level beside the
default session. -/
theorem revert_to_default_reverts_iff (cfg : SessionManagerConfig) (bus : Bus)
    (es : List (Nat × SessionCall)) (s : SessionManager) :
    (runs cfg bus).Always RevertReverts es s ↔ (runs cfg bus).Always NoStrayLevel es s := by
  constructor
  · intro h
    exact h.imp fun _ _ _ _ _ hs => (revertReverts_iff hs).mp
  · intro h
    exact h.imp fun _ _ _ _ _ hs => (revertReverts_iff hs).mpr

/-- A level unlocked in the default session outlives a revert. -/
theorem level_survives_revert :
    ∃ s, (runs {} SecurityEcu.agreeable.bus).Hist
        [(0, .ensureSecurityLevel 0x01), (0, .revertToDefault)] s ∧
      ¬ (runs {} SecurityEcu.agreeable.bus).Always RevertReverts
        [(0, .ensureSecurityLevel 0x01), (0, .revertToDefault)] s :=
  Lts.exists_not_always (p := fun s : SessionManager => s.currentSecurityLevel = 0) (s := {})
    (l := [(0, .ensureSecurityLevel 0x01)]) ⟨0, rfl⟩ rfl (fun _ _ h => (h rfl).level) (by decide)

/-! ## The heartbeat -/

/-- The heartbeat runs exactly while escalated. -/
def HeartbeatInStep (s : SessionManager) : Prop :=
  s.heartbeatRunning = true ↔ s.currentSessionType ≠ 0x01

instance (s : SessionManager) : Decidable s.HeartbeatInStep :=
  inferInstanceAs (Decidable (_ ↔ _))

/-- `ensure_session` does not lead from an escalated session to the default one. -/
def NotEnsuredDown (bus : Bus) (s : SessionManager) (e : Nat × SessionCall)
    (_ : SessionManager) : Prop :=
  e.2 = .ensureSession 0x01 → s.currentSessionType ≠ 0x01 → ¬ Confirms bus 0x01 s

/-- `ensure_session` keeps the heartbeat in step unless it takes the session down to default. -/
theorem ensureSession_heartbeat_iff {t : UInt8} {s : SessionManager} (h : s.HeartbeatInStep) :
    (ensureSession bus t s).2.HeartbeatInStep ↔
      (t = 0x01 → s.currentSessionType ≠ 0x01 → ¬ Confirms bus 0x01 s) := by
  by_cases hact : s.currentSessionType = t
  · rw [ensureSession_active hact]
    constructor
    · rintro - rfl hne
      exact absurd hact hne
    · intro _
      exact h
  · by_cases hc : Confirms bus t s
    · rw [ensureSession_confirmed hact hc]
      constructor
      · rintro hin rfl _
        exact absurd rfl (hin.mp rfl)
      · intro hdown
        have hne : t ≠ 0x01 := by
          rintro rfl
          exact hdown rfl hact hc
        exact iff_of_true rfl hne
    · rw [ensureSession_refused hact hc]
      constructor
      · rintro - rfl _
        exact hc
      · intro _
        exact h

/-- `ensure_security_level` leaves session and heartbeat alone. -/
theorem ensureSecurityLevel_session (bus : Bus) (l : UInt8) (s : SessionManager) :
    (ensureSecurityLevel bus l s).2.currentSessionType = s.currentSessionType ∧
      (ensureSecurityLevel bus l s).2.heartbeatRunning = s.heartbeatRunning := by
  by_cases h : l ≤ s.currentSecurityLevel
  · rw [ensureSecurityLevel_held h]
    exact ⟨rfl, rfl⟩
  · cases hseed : seedFor bus l s with
    | none =>
      rw [ensureSecurityLevel_noSeed h hseed]
      exact ⟨rfl, rfl⟩
    | some seed =>
      rw [ensureSecurityLevel_seed h hseed]
      dsimp only
      split <;> exact ⟨rfl, rfl⟩

/-- After `revert_to_default` the heartbeat is in step. -/
theorem revertToDefault_heartbeat (bus : Bus) (s : SessionManager) :
    (revertToDefault bus s).2.HeartbeatInStep := by
  by_cases h : s.currentSessionType = 0x01
  · rw [revertToDefault_default h]
    exact iff_of_false (by simp) (not_not.mpr h)
  · rw [revertToDefault_escalated h]
    exact iff_of_false (by simp) (by simp)

/-- A round of the heartbeat keeps it in step. -/
theorem heartbeatTick_heartbeat {s : SessionManager} (h : s.HeartbeatInStep) :
    (heartbeatTick cfg bus s).HeartbeatInStep := by
  unfold heartbeatTick
  split
  · exact iff_of_false (by simp) (by simp)
  · exact h

/-- For each step: the heartbeat stays in step exactly if it is no descent by `ensure_session`. -/
theorem perform_heartbeat_iff {s s' : SessionManager} {e : Nat × SessionCall}
    (hin : s.HeartbeatInStep) (h : (runs cfg bus).step s e s') :
    s'.HeartbeatInStep ↔ NotEnsuredDown bus s e s' := by
  obtain ⟨_, rfl⟩ := next_eq_some.mp h
  obtain ⟨d, call⟩ := e
  cases call with
  | ensureSession t =>
    rw [NotEnsuredDown, SessionCall.ensureSession.injEq]
    exact ensureSession_heartbeat_iff (s := s.wait d) hin
  | ensureSecurityLevel l =>
    obtain ⟨hsession, hbeat⟩ := ensureSecurityLevel_session bus l (s.wait d)
    refine iff_of_true ?_ (fun hcall => nomatch hcall)
    rw [HeartbeatInStep, perform, hsession, hbeat]
    exact hin
  | revertToDefault =>
    exact iff_of_true (revertToDefault_heartbeat bus _) (fun hcall => nomatch hcall)
  | heartbeat =>
    exact iff_of_true (heartbeatTick_heartbeat (s := s.wait d) hin) (fun hcall => nomatch hcall)

/-- **The heartbeat runs exactly while escalated** in exactly the runs in which
`ensure_session` never leads from an escalated session to the default one. -/
theorem heartbeat_in_step_iff (cfg : SessionManagerConfig) (bus : Bus)
    (es : List (Nat × SessionCall)) (s : SessionManager) :
    (runs cfg bus).Always (fun _ _ s' => s'.HeartbeatInStep) es s ↔
      (runs cfg bus).Always (NotEnsuredDown bus) es s := by
  refine Lts.always_iff ?_ (fun _ _ _ hin hs => perform_heartbeat_iff hin hs)
  rintro _ ⟨t, rfl⟩
  exact iff_of_false (by simp) (by simp)

/-- The default session, ensured from the extended one, has a heartbeat. -/
theorem default_session_heartbeat :
    ∃ s, (runs {} SecurityEcu.agreeable.bus).Hist
        [(0, .ensureSession 0x03), (0, .ensureSession 0x01)] s ∧
      ¬ (runs {} SecurityEcu.agreeable.bus).Always (fun _ _ s' => s'.HeartbeatInStep)
        [(0, .ensureSession 0x03), (0, .ensureSession 0x01)] s :=
  Lts.exists_not_always (p := HeartbeatInStep) (s := {}) (l := [(0, .ensureSession 0x03)])
    ⟨0, rfl⟩ rfl (fun _ _ h => h) (by decide)

end SessionManager

/-! ## The ECU's own level -/

namespace SecurityEcu

/-- A positive response repeats the service id, with `0x40` added, and the sub-function. -/
def positive (request response : Bytes) : Bool :=
  match request, response with
  | sid :: sub :: _, respSid :: respSub :: _ => respSid == sid + 0x40 && respSub == sub
  | _, _ => false

/-- What the ECU has unlocked once it has accepted a request: nothing after session
control, after a key the level of the key, otherwise what it had. -/
def effect (request : Bytes) (unlocked : UInt8) : UInt8 :=
  match request with
  | sid :: sub :: _ =>
    if sid = kSidDiagnosticSessionControl then 0
    else if sid = kSidSecurityAccess ∧ sub % 2 = 0 then sub - 1
    else unlocked
  | _ => unlocked

/-- The ECU accepts the request, whether or not the manager hears of it. -/
def Accepts (ecu : SecurityEcu) (wire : List Exchange) (request : Bytes) : Prop :=
  (ecu.answer wire request).any (positive request) = true

instance (ecu : SecurityEcu) (wire : List Exchange) (request : Bytes) :
    Decidable (ecu.Accepts wire request) := inferInstanceAs (Decidable (_ = _))

/-- What it has unlocked after a request. -/
def hear (ecu : SecurityEcu) (wire : List Exchange) (request : Bytes) (unlocked : UInt8) : UInt8 :=
  if ecu.Accepts wire request then effect request unlocked else unlocked

/-- What it has unlocked after the exchanges `xs`, made after those on `wire`. -/
def hearAll (ecu : SecurityEcu) : List Exchange → List Exchange → UInt8 → UInt8
  | _, [], unlocked => unlocked
  | wire, x :: xs, unlocked =>
    hearAll ecu (wire ++ [x]) xs (ecu.hear wire x.request unlocked)

/-- It answers one of the requests of `xs`. -/
def answersAny (ecu : SecurityEcu) : List Exchange → List Exchange → Bool
  | _, [] => false
  | wire, x :: xs => (ecu.answer wire x.request).isSome || answersAny ecu (wire ++ [x]) xs

variable {ecu : SecurityEcu} {wire : List Exchange}

/-- A session that the ECU opens relocks it. -/
theorem effect_session (t u : UInt8) : effect (encodeDiagnosticSessionControl t) u = 0 := rfl

/-- Asking for a seed relocks a level that is even, being the key of the one below. -/
theorem effect_seed (l u : UInt8) :
    effect (encodeSecurityAccessRequestSeed l) u = if l % 2 = 0 then l - 1 else u := by
  simp [effect, encodeSecurityAccessRequestSeed, kSidSecurityAccess, kSidDiagnosticSessionControl]

/-- A key that the ECU accepts unlocks the level. -/
theorem effect_key (l u : UInt8) (seed : Bytes) :
    effect (SessionManager.keyRequest l seed) u = if (l + 1) % 2 = 0 then l else u := by
  simp [effect, SessionManager.keyRequest, encodeSecurityAccessSendKey, kSidSecurityAccess,
    kSidDiagnosticSessionControl]

/-- A heartbeat neither relocks nor unlocks. -/
theorem effect_testerPresent (u : UInt8) : effect encodeTesterPresent u = u := rfl

/-- An answer that reaches the manager was the ECU's. -/
theorem accepts_of_bus {request : Bytes} (accepted : Bytes → Bool)
    (hacc : ∀ resp, accepted resp = true → positive request resp = true)
    (h : (ecu.bus.reply wire request).any accepted = true) : ecu.Accepts wire request := by
  obtain ⟨resp, hresp, hdec⟩ := (Option.any_eq_true ..).mp h
  have hlost : ecu.lost wire request = false ∧ ecu.answer wire request = some resp := by
    simpa [bus] using hresp
  rw [Accepts, hlost.2]
  exact hacc resp hdec

/-- A response with a seed is a positive one. -/
theorem positive_of_seed {l : UInt8} {resp seed : Bytes}
    (h : decodeSecurityAccessSeed resp l = some seed) :
    positive (encodeSecurityAccessRequestSeed l) resp = true := by
  unfold decodeSecurityAccessSeed at h
  split at h
  next r sub _ =>
    split_ifs at h with hr hsub
    simp only [not_not] at hr hsub
    simp [positive, encodeSecurityAccessRequestSeed, hr, hsub]
  next => cases h

/-- A response that accepts the key is a positive one. -/
theorem positive_of_key {l : UInt8} {resp seed : Bytes}
    (h : decodeSecurityAccessKeyAccepted resp l = true) :
    positive (SessionManager.keyRequest l seed) resp = true := by
  unfold decodeSecurityAccessKeyAccepted at h
  split at h
  next r sub _ => simpa [positive, SessionManager.keyRequest, encodeSecurityAccessSendKey] using h
  next => cases h

end SecurityEcu

/-- The session manager, and what its ECU has unlocked. -/
structure EcuSys where
  manager : SessionManager
  unlocked : UInt8 := 0
  /-- When the last call began that had the ECU answer something. -/
  lastHeard : Time := 0
  /-- The ECU's session timeout has struck since the last call. -/
  timedOut : Bool := false

/-- A call of the session manager, or a session that the ECU ends by itself. -/
inductive EcuEvent
  | call (after : Nat) (call : SessionCall)
  /-- The ECU's session timeout. -/
  | timeout (after : Nat)
  deriving DecidableEq

namespace EcuSys

open SessionManager SecurityEcu

/-- The exchanges of a call. -/
def exchanged (s s' : SessionManager) : List Exchange := s'.wire.drop s.wire.length

/-- What a call or a timeout makes of both. -/
def next (cfg : SessionManagerConfig) (ecu : SecurityEcu) (s : EcuSys) : EcuEvent → Option EcuSys
  | .call after call =>
    (SessionManager.next cfg ecu.bus s.manager (after, call)).map fun manager =>
      let xs := exchanged s.manager manager
      { manager := manager
        unlocked := ecu.hearAll s.manager.wire xs s.unlocked
        lastHeard :=
          if ecu.answersAny s.manager.wire xs then s.manager.now + after else s.lastHeard }
  | .timeout after =>
    let manager := s.manager.wait after
    if cfg.idleTimeoutMs ≤ (manager.now - s.lastHeard).tdiv 1000000 then
      some { s with manager := manager, unlocked := 0, timedOut := true }
    else none

/-- Both as they are at the start. -/
def Fresh (s : EcuSys) : Prop := s.manager.Fresh ∧ s.timedOut = false

/-- Every history of the session manager and its ECU. -/
def runs (cfg : SessionManagerConfig) (ecu : SecurityEcu) : Lts EcuSys EcuEvent :=
  Lts.ofFn Fresh (next cfg ecu)

/-- The manager claims no more than the ECU has unlocked. -/
def LevelBacked (s : EcuSys) : Prop := s.manager.currentSecurityLevel ≤ s.unlocked

/-- The call has the ECU lock, or record what it never unlocked: a session change by
`ensure_session` with a level recorded, an even level. -/
def Misleads (ecu : SecurityEcu) (s : SessionManager) : SessionCall → Prop
  | .ensureSession t => s.currentSessionType ≠ t ∧
      ecu.Accepts s.wire (encodeDiagnosticSessionControl t) ∧ s.currentSecurityLevel ≠ 0
  | .ensureSecurityLevel l => s.currentSecurityLevel < l ∧ Grants ecu.bus l s ∧ l % 2 = 0
  | .revertToDefault => False
  | .heartbeat => False

/-- The call drops the level that the ECU has locked, or has the ECU unlock another. -/
def Repairs (cfg : SessionManagerConfig) (ecu : SecurityEcu) (s : SessionManager) :
    SessionCall → Prop
  | .ensureSession _ => False
  | .ensureSecurityLevel l => s.currentSecurityLevel < l ∧
      ((l % 2 = 0 ∧ ecu.Accepts s.wire (encodeSecurityAccessRequestSeed l)) ∨
        ∃ seed ∈ seedFor ecu.bus l s, ecu.Accepts (askedSeed ecu.bus l s).wire (keyRequest l seed))
  | .revertToDefault => s.currentSessionType ≠ 0x01
  | .heartbeat => s.idle cfg = true

/-- A call does not mislead, and where the ECU's timeout has locked the recorded level
it repairs that. -/
def KeepsLevel (cfg : SessionManagerConfig) (ecu : SecurityEcu) (s : EcuSys) (e : EcuEvent)
    (_ : EcuSys) : Prop :=
  match e with
  | .timeout _ => True
  | .call after call =>
    let manager := s.manager.wait after
    ¬ Misleads ecu manager call ∧
      (s.timedOut = true → manager.currentSecurityLevel ≠ 0 → Repairs cfg ecu manager call)

/-- After a call the manager claims no more than the ECU has unlocked. -/
def BackedAfter (_ : EcuSys) (e : EcuEvent) (s' : EcuSys) : Prop :=
  ∀ after call, e = .call after call → s'.LevelBacked

variable {cfg : SessionManagerConfig} {ecu : SecurityEcu}

/-- What was exchanged is what the history has more. -/
theorem exchanged_eq {s s' : SessionManager} {l : List Exchange} (h : s'.wire = s.wire ++ l) :
    exchanged s s' = l := by
  rw [exchanged, h, List.drop_left]

/-- What a call leaves recorded, and what the ECU has unlocked then. -/
def levelsAfter (cfg : SessionManagerConfig) (ecu : SecurityEcu) (call : SessionCall)
    (s : SessionManager) (u : UInt8) : UInt8 × UInt8 :=
  let s' := perform cfg ecu.bus call s
  (s'.currentSecurityLevel, ecu.hearAll s.wire (exchanged s s') u)

/-- A session leaves the record, and relocks the ECU if that accepts it. -/
theorem levels_ensureSession (t u : UInt8) (s : SessionManager) :
    levelsAfter cfg ecu (.ensureSession t) s u = (s.currentSecurityLevel,
      if s.currentSessionType ≠ t ∧ ecu.Accepts s.wire (encodeDiagnosticSessionControl t) then 0
      else u) := by
  unfold levelsAfter perform
  dsimp only
  by_cases hact : s.currentSessionType = t
  · rw [ensureSession_active hact, exchanged_eq (l := []) (by simp),
      if_neg (fun h => h.1 hact)]
    rfl
  · have hout : (ensureSession ecu.bus t s).2.currentSecurityLevel = s.currentSecurityLevel ∧
        (ensureSession ecu.bus t s).2.wire = s.wire ++ [⟨encodeDiagnosticSessionControl t,
          ecu.bus.reply s.wire (encodeDiagnosticSessionControl t)⟩] := by
      by_cases hc : Confirms ecu.bus t s
      · rw [ensureSession_confirmed hact hc]
        exact ⟨rfl, rfl⟩
      · rw [ensureSession_refused hact hc]
        exact ⟨rfl, rfl⟩
    rw [exchanged_eq hout.2, hout.1]
    simp [hearAll, hear, effect_session, hact]

/-- A level that is reached changes nothing. -/
theorem levels_held {l : UInt8} {s : SessionManager} (h : l ≤ s.currentSecurityLevel) (u : UInt8) :
    levelsAfter cfg ecu (.ensureSecurityLevel l) s u = (s.currentSecurityLevel, u) := by
  unfold levelsAfter perform
  dsimp only
  rw [ensureSecurityLevel_held h, exchanged_eq (l := []) (by simp)]
  rfl

/-- Without a seed the record stays, whatever the ECU made of the request. -/
theorem levels_noSeed {l : UInt8} {s : SessionManager} (h : ¬ l ≤ s.currentSecurityLevel)
    (hseed : seedFor ecu.bus l s = none) (u : UInt8) :
    levelsAfter cfg ecu (.ensureSecurityLevel l) s u =
      (s.currentSecurityLevel, ecu.hear s.wire (encodeSecurityAccessRequestSeed l) u) := by
  unfold levelsAfter perform
  dsimp only
  rw [ensureSecurityLevel_noSeed h hseed,
    exchanged_eq (l := [⟨encodeSecurityAccessRequestSeed l, ecu.bus.reply s.wire _⟩]) rfl]
  rfl

/-- With a seed the key is sent, and the record is the level if the ECU grants it. -/
theorem levels_seed {l : UInt8} {s : SessionManager} {seed : Bytes}
    (h : ¬ l ≤ s.currentSecurityLevel) (hseed : seedFor ecu.bus l s = some seed) (u : UInt8) :
    levelsAfter cfg ecu (.ensureSecurityLevel l) s u =
      (if Grants ecu.bus l s then l else s.currentSecurityLevel,
        ecu.hear (askedSeed ecu.bus l s).wire (keyRequest l seed)
          (ecu.hear s.wire (encodeSecurityAccessRequestSeed l) u)) := by
  have hout : (ensureSecurityLevel ecu.bus l s).2.currentSecurityLevel =
        (if Grants ecu.bus l s then l else s.currentSecurityLevel) ∧
      (ensureSecurityLevel ecu.bus l s).2.wire = (askedSeed ecu.bus l s).wire ++
        [⟨keyRequest l seed, ecu.bus.reply (askedSeed ecu.bus l s).wire (keyRequest l seed)⟩] := by
    rw [ensureSecurityLevel_seed h hseed]
    dsimp only
    split <;> exact ⟨rfl, rfl⟩
  have hboth : exchanged s (ensureSecurityLevel ecu.bus l s).2 =
      [⟨encodeSecurityAccessRequestSeed l,
          ecu.bus.reply s.wire (encodeSecurityAccessRequestSeed l)⟩,
        ⟨keyRequest l seed, ecu.bus.reply (askedSeed ecu.bus l s).wire (keyRequest l seed)⟩] :=
    exchanged_eq (by rw [hout.2]; simp [askedSeed, send])
  unfold levelsAfter perform
  dsimp only
  rw [hboth, hout.1]
  rfl

/-- In the default session `revert_to_default` changes nothing. -/
theorem levels_revert_default {s : SessionManager} (h : s.currentSessionType = 0x01) (u : UInt8) :
    levelsAfter cfg ecu .revertToDefault s u = (s.currentSecurityLevel, u) := by
  unfold levelsAfter perform
  dsimp only
  rw [revertToDefault_default h, exchanged_eq (l := []) (by simp)]
  rfl

/-- In any other session the record is 0 afterwards. -/
theorem level_revert_escalated {s : SessionManager} (h : s.currentSessionType ≠ 0x01) (u : UInt8) :
    (levelsAfter cfg ecu .revertToDefault s u).1 = 0 := by
  unfold levelsAfter perform
  dsimp only
  rw [revertToDefault_escalated h]

/-- A heartbeat that finds the session idle drops the record. -/
theorem level_heartbeat_idle {s : SessionManager} (h : s.idle cfg = true) (u : UInt8) :
    (levelsAfter cfg ecu .heartbeat s u).1 = 0 := (heartbeatTick_idle ecu.bus h).2.1

/-- A heartbeat that finds the session in use leaves the record. -/
theorem levels_heartbeat_busy {s : SessionManager} (h : ¬ s.idle cfg = true) (u : UInt8) :
    levelsAfter cfg ecu .heartbeat s u = (s.currentSecurityLevel, u) := by
  unfold levelsAfter perform heartbeatTick
  dsimp only
  rw [if_neg h, exchanged_eq (l := [⟨encodeTesterPresent, ecu.bus.reply s.wire _⟩]) rfl]
  simp [hearAll, hear, effect_testerPresent, send]

theorem odd_iff (l : UInt8) : l % 2 = 1 ↔ ¬ l % 2 = 0 := by
  rw [← UInt8.toNat_inj, ← UInt8.toNat_inj, UInt8.toNat_mod]
  simp only [UInt8.reduceToNat]
  omega

theorem succ_even_iff (l : UInt8) : (l + 1) % 2 = 0 ↔ l % 2 = 1 := by
  rw [← UInt8.toNat_inj, ← UInt8.toNat_inj, UInt8.toNat_mod, UInt8.toNat_mod, UInt8.toNat_add]
  simp only [UInt8.reduceToNat]
  omega

theorem toNat_pred {l level : UInt8} (h : level < l) : (l - 1).toNat = l.toNat - 1 := by
  rw [UInt8.lt_iff_toNat_lt] at h
  refine UInt8.toNat_sub_of_le _ _ ?_
  rw [UInt8.le_iff_toNat_le]
  simp only [UInt8.reduceToNat]
  omega

theorem le_pred {l level : UInt8} (h : level < l) : level ≤ l - 1 := by
  have hpred := toNat_pred h
  rw [UInt8.lt_iff_toNat_lt] at h
  rw [UInt8.le_iff_toNat_le]
  omega

theorem not_le_pred {l level : UInt8} (h : level < l) : ¬ l ≤ l - 1 := by
  have hpred := toNat_pred h
  rw [UInt8.lt_iff_toNat_lt] at h
  rw [UInt8.le_iff_toNat_le]
  omega

/-- A seed was given by the ECU. -/
theorem accepts_of_seed {l : UInt8} {s : SessionManager} {seed : Bytes}
    (h : seedFor ecu.bus l s = some seed) :
    ecu.Accepts s.wire (encodeSecurityAccessRequestSeed l) := by
  obtain ⟨resp, hresp, hdec⟩ := Option.bind_eq_some_iff.mp h
  refine accepts_of_bus (fun resp => (decodeSecurityAccessSeed resp l).isSome) ?_ ?_
  · intro r hr
    obtain ⟨_, hseed⟩ := Option.isSome_iff_exists.mp hr
    exact positive_of_seed hseed
  · simp [hresp, hdec]

/-- A level that is granted was granted by the ECU. -/
theorem accepts_of_grants {l : UInt8} {s : SessionManager} {seed : Bytes}
    (h : seedFor ecu.bus l s = some seed) (hg : Grants ecu.bus l s) :
    ecu.Accepts (askedSeed ecu.bus l s).wire (keyRequest l seed) := by
  obtain ⟨seed', hseed', hkey⟩ := hg
  obtain rfl : seed' = seed := Option.some.inj (hseed'.symm.trans h)
  exact accepts_of_bus _ (fun _ => positive_of_key) hkey

/-- The seed request for a level above the recorded one leaves the ECU with no less
than that, whichever way the ECU reads it. -/
theorem hear_seed_ge (ecu : SecurityEcu) (wire : List Exchange) {l level u : UInt8}
    (h : level ≤ u) (hl : level < l) :
    level ≤ ecu.hear wire (encodeSecurityAccessRequestSeed l) u := by
  unfold hear
  split
  next =>
    rw [effect_seed]
    split
    next => exact le_pred hl
    next => exact h
  next => exact h

/-- Without a seed no level is granted. -/
theorem not_grants_of_noSeed {l : UInt8} {s : SessionManager} (h : seedFor ecu.bus l s = none) :
    ¬ Grants ecu.bus l s := by
  simp [Grants, h]

/-- A granted level is the ECU's where it is odd, and is above the ECU's where it is even. -/
theorem granted_iff {l u : UInt8} {s : SessionManager} {seed : Bytes}
    (hlt : s.currentSecurityLevel < l) (hseed : seedFor ecu.bus l s = some seed)
    (hgrants : Grants ecu.bus l s) :
    l ≤ ecu.hear (askedSeed ecu.bus l s).wire (keyRequest l seed)
        (ecu.hear s.wire (encodeSecurityAccessRequestSeed l) u) ↔
      ¬ Misleads ecu s (.ensureSecurityLevel l) := by
  rw [hear, if_pos (accepts_of_grants hseed hgrants), hear, if_pos (accepts_of_seed hseed),
    effect_key, effect_seed]
  by_cases hodd : l % 2 = 1
  · rw [if_pos ((succ_even_iff l).mpr hodd)]
    exact iff_of_true (UInt8.le_refl l) (fun hm => (odd_iff l).mp hodd hm.2.2)
  · have heven : l % 2 = 0 := not_not.mp (mt (odd_iff l).mpr hodd)
    rw [if_neg (mt (succ_even_iff l).mp hodd), if_pos heven]
    exact iff_of_false (not_le_pred hlt) (fun hm => hm ⟨hlt, hgrants, heven⟩)

/-- Where the ECU has the recorded level, only a misleading call changes that. -/
theorem backed_iff {call : SessionCall} {s : SessionManager} {u : UInt8}
    (h : s.currentSecurityLevel ≤ u) :
    (levelsAfter cfg ecu call s u).1 ≤ (levelsAfter cfg ecu call s u).2 ↔
      ¬ Misleads ecu s call := by
  cases call with
  | ensureSession t =>
    rw [levels_ensureSession]
    dsimp only [Misleads]
    split
    next hch => simp [hch.1, hch.2]
    next hch => exact iff_of_true h (fun hm => hch ⟨hm.1, hm.2.1⟩)
  | ensureSecurityLevel l =>
    by_cases hheld : l ≤ s.currentSecurityLevel
    · rw [levels_held hheld]
      exact iff_of_true h (fun hm => UInt8.not_le.mpr hm.1 hheld)
    have hlt : s.currentSecurityLevel < l := UInt8.not_le.mp hheld
    -- a request for a seed of a higher level takes no level away
    have hge := hear_seed_ge ecu s.wire h hlt
    cases hseed : seedFor ecu.bus l s with
    | none =>
      rw [levels_noSeed hheld hseed]
      exact iff_of_true hge (fun hm => not_grants_of_noSeed hseed hm.2.1)
    | some seed =>
      rw [levels_seed hheld hseed]
      dsimp only
      split
      next hgrants => exact granted_iff hlt hseed hgrants
      next hgrants =>
        -- the record is as it was, whatever the key did
        refine iff_of_true ?_ (fun hm => hgrants hm.2.1)
        rw [hear]
        split
        next =>
          rw [effect_key]
          split
          next => exact UInt8.le_of_lt hlt
          next => exact hge
        next => exact hge
  | revertToDefault =>
    refine iff_of_true ?_ not_false
    by_cases hdefault : s.currentSessionType = 0x01
    · rw [levels_revert_default hdefault]
      exact h
    · rw [level_revert_escalated hdefault]
      exact UInt8.zero_le
  | heartbeat =>
    refine iff_of_true ?_ not_false
    by_cases hidle : s.idle cfg = true
    · rw [level_heartbeat_idle hidle]
      exact UInt8.zero_le
    · rw [levels_heartbeat_busy hidle]
      exact h

/-- To a locked ECU a seed request is as good as a key where its level is even. -/
theorem hear_seed_locked_iff {l level : UInt8} {wire : List Exchange} (h : level ≠ 0)
    (hlt : level < l) :
    level ≤ ecu.hear wire (encodeSecurityAccessRequestSeed l) 0 ↔
      l % 2 = 0 ∧ ecu.Accepts wire (encodeSecurityAccessRequestSeed l) := by
  have hlocked : ¬ level ≤ 0 := mt UInt8.le_zero_iff.mp h
  rw [hear, effect_seed]
  split
  next hacc =>
    split
    next heven => exact iff_of_true (le_pred hlt) ⟨heven, hacc⟩
    next hodd => exact iff_of_false hlocked (fun hm => hodd hm.1)
  next hacc => exact iff_of_false hlocked (fun hm => hacc hm.2)

/-- Where the ECU has locked the recorded level, a call has to repair that. -/
theorem locked_iff {call : SessionCall} {s : SessionManager} (h : s.currentSecurityLevel ≠ 0) :
    (levelsAfter cfg ecu call s 0).1 ≤ (levelsAfter cfg ecu call s 0).2 ↔
      ¬ Misleads ecu s call ∧ Repairs cfg ecu s call := by
  have hlocked : ¬ s.currentSecurityLevel ≤ 0 := mt UInt8.le_zero_iff.mp h
  cases call with
  | ensureSession t =>
    rw [levels_ensureSession, ite_self]
    exact iff_of_false hlocked (fun hm => hm.2)
  | ensureSecurityLevel l =>
    -- a level that is recorded already is not asked for again
    by_cases hheld : l ≤ s.currentSecurityLevel
    · rw [levels_held hheld]
      exact iff_of_false hlocked (fun hm => UInt8.not_le.mpr hm.2.1 hheld)
    have hlt : s.currentSecurityLevel < l := UInt8.not_le.mp hheld
    cases hseed : seedFor ecu.bus l s with
    | none =>
      -- only the request for the seed was heard
      rw [levels_noSeed hheld hseed, hear_seed_locked_iff h hlt]
      constructor
      · intro heven
        exact ⟨fun hm => not_grants_of_noSeed hseed hm.2.1, hlt, .inl heven⟩
      · rintro ⟨-, -, heven | ⟨seed, hmem, -⟩⟩
        · exact heven
        · rw [hseed] at hmem
          cases hmem
    | some seed =>
      rw [levels_seed hheld hseed]
      dsimp only
      split
      next hgrants =>
        -- the record is `l` now, and so is the level if the ECU accepted the key
        rw [granted_iff hlt hseed hgrants]
        have hkey := accepts_of_grants hseed hgrants
        exact (and_iff_left ⟨hlt, .inr ⟨seed, hseed, hkey⟩⟩).symm
      next hgrants =>
        have hrepairs : Repairs cfg ecu s (.ensureSecurityLevel l) ↔
            l % 2 = 0 ∨ ecu.Accepts (askedSeed ecu.bus l s).wire (keyRequest l seed) := by
          simp [Repairs, hlt, hseed, accepts_of_seed hseed]
        have hmisleads : ¬ Misleads ecu s (.ensureSecurityLevel l) := fun hm => hgrants hm.2.1
        rw [hrepairs, and_iff_right hmisleads]
        by_cases heven : l % 2 = 0
        · -- the key of an even level changes nothing, its seed request did
          have hv : s.currentSecurityLevel ≤
              ecu.hear s.wire (encodeSecurityAccessRequestSeed l) 0 :=
            (hear_seed_locked_iff h hlt).mpr ⟨heven, accepts_of_seed hseed⟩
          rw [hear, effect_key, if_neg (fun hs => (odd_iff l).mp ((succ_even_iff l).mp hs) heven),
            ite_self]
          exact iff_of_true hv (.inl heven)
        · have hodd : l % 2 = 1 := (odd_iff l).mpr heven
          have hv : ¬ s.currentSecurityLevel ≤
              ecu.hear s.wire (encodeSecurityAccessRequestSeed l) 0 :=
            fun hle => heven ((hear_seed_locked_iff h hlt).mp hle).1
          rw [hear, effect_key, if_pos ((succ_even_iff l).mpr hodd)]
          split
          next hkey => exact iff_of_true (UInt8.le_of_lt hlt) (.inr hkey)
          next hkey => exact iff_of_false hv (not_or.mpr ⟨heven, hkey⟩)
  | revertToDefault =>
    -- in the default session nothing is sent, and the record stays
    by_cases hdefault : s.currentSessionType = 0x01
    · rw [levels_revert_default hdefault]
      exact iff_of_false hlocked (fun hm => hm.2 hdefault)
    · rw [level_revert_escalated hdefault]
      exact iff_of_true UInt8.zero_le ⟨not_false, hdefault⟩
  | heartbeat =>
    by_cases hidle : s.idle cfg = true
    · rw [level_heartbeat_idle hidle]
      exact iff_of_true UInt8.zero_le ⟨not_false, hidle⟩
    · rw [levels_heartbeat_busy hidle]
      exact iff_of_false hlocked (fun hm => hidle hm.2)

/-- What a call makes of the recorded and the unlocked level. -/
theorem next_call {s s' : EcuSys} {after : Nat} {call : SessionCall}
    (h : next cfg ecu s (.call after call) = some s') :
    let levels := levelsAfter cfg ecu call (s.manager.wait after) s.unlocked
    s'.manager.currentSecurityLevel = levels.1 ∧ s'.unlocked = levels.2 ∧ s'.timedOut = false := by
  obtain ⟨m, hm, rfl⟩ := Option.map_eq_some_iff.mp h
  rw [← (next_eq_some.mp hm).2]
  exact ⟨rfl, rfl, rfl⟩

instance (s : EcuSys) : Decidable s.LevelBacked := inferInstanceAs (Decidable (_ ≤ _))

/-- Either the ECU has the recorded level, or its timeout has just locked everything. -/
def Booked (s : EcuSys) : Prop :=
  if s.timedOut then s.unlocked = 0 else s.LevelBacked

/-- A timeout leaves nothing to be backed. -/
theorem booked_timeout {s s' : EcuSys} {after : Nat}
    (h : next cfg ecu s (.timeout after) = some s') : s'.Booked := by
  unfold next at h
  obtain ⟨_, hs'⟩ := Option.ite_none_right_eq_some.mp h
  obtain rfl := Option.some.inj hs'
  exact rfl

/-- For each step: the level stays backed exactly if the step keeps it. -/
theorem step_booked_iff {s s' : EcuSys} {e : EcuEvent} (hb : s.Booked)
    (h : (runs cfg ecu).step s e s') : s'.Booked ↔ KeepsLevel cfg ecu s e s' := by
  cases e with
  | timeout after => exact iff_of_true (booked_timeout h) trivial
  | call after call =>
    obtain ⟨hlevel, hunlocked, htimedOut⟩ := next_call h
    rw [Booked, htimedOut, if_neg Bool.false_ne_true, LevelBacked, hlevel, hunlocked]
    unfold Booked at hb
    split at hb
    next htimeout =>
      rw [hb]
      by_cases hzero : s.manager.currentSecurityLevel = 0
      · rw [backed_iff (s := s.manager.wait after) (UInt8.le_zero_iff.mpr hzero)]
        exact (and_iff_left fun _ hne => absurd hzero hne).symm
      · rw [locked_iff (s := s.manager.wait after) hzero]
        exact and_congr_right fun _ => ⟨fun hrep _ _ => hrep, fun hrep => hrep htimeout hzero⟩
    next htimeout =>
      rw [backed_iff (s := s.manager.wait after) hb]
      exact (and_iff_left fun hout => absurd hout htimeout).symm

/-- **The recorded level is backed by the ECU** after every call in exactly the runs in
which no call misleads, and a call after the ECU's timeout repairs what that locked. -/
theorem level_backed_iff (cfg : SessionManagerConfig) (ecu : SecurityEcu) (es : List EcuEvent)
    (s : EcuSys) :
    (runs cfg ecu).Always BackedAfter es s ↔ (runs cfg ecu).Always (KeepsLevel cfg ecu) es s := by
  have hinit : ∀ s, (runs cfg ecu).init s → s.Booked := by
    rintro s ⟨⟨t, hs⟩, htimedOut⟩
    rw [Booked, htimedOut, if_neg Bool.false_ne_true, LevelBacked, hs]
    exact UInt8.zero_le
  rw [← Lts.always_iff hinit (fun _ _ _ hb hs => step_booked_iff hb hs)]
  constructor
  · intro h
    refine h.imp fun _ s e s' _ hs hbacked => ?_
    cases e with
    | timeout after => exact booked_timeout hs
    | call after call =>
      rw [Booked, (next_call hs).2.2, if_neg Bool.false_ne_true]
      exact hbacked after call rfl
  · intro h
    refine h.imp fun _ s e s' _ hs hbooked => ?_
    rintro after call rfl
    rwa [Booked, (next_call hs).2.2, if_neg Bool.false_ne_true] at hbooked

/-- With level 1 unlocked, the way from the extended session to the programming session
locks the ECU, and the manager does not notice. -/
theorem level_stays_recorded :
    ∃ s, (runs {} .agreeable).Hist [.call 0 (.ensureSession 0x03),
        .call 0 (.ensureSecurityLevel 0x01), .call 0 (.ensureSession 0x02)] s ∧
      ¬ (runs {} .agreeable).Always BackedAfter [.call 0 (.ensureSession 0x03),
        .call 0 (.ensureSecurityLevel 0x01), .call 0 (.ensureSession 0x02)] s :=
  Lts.exists_not_always (p := LevelBacked) (s := { manager := {} })
    (l := [.call 0 (.ensureSession 0x03), .call 0 (.ensureSecurityLevel 0x01)])
    ⟨⟨0, rfl⟩, rfl⟩ rfl (fun _ _ h => h 0 _ rfl) (by decide)

end EcuSys

end Sovd
