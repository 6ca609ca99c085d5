import Sovd.Server.Handlers
import Sovd.Server.LockHandlers
import Sovd.Uds.UdsAdapter

/-!
# How long a session outlives the lock it was obtained under

A diagnostic session belongs to the ECU, a lock to a client. The server ends
the session when a lock is released (`handle_delete_lock` asks the adapter for
the mode `default`) and does nothing when a lock merely expires: the session
manager's idle timeout is all there is then. So a client can find a session, or
a security level, that somebody else obtained (`inherited_session`).

What does hold is `since_teardown`: a session that a request finds and uses was
obtained by an exchange of the run, and nothing has torn it down since; in
particular no lock was released since, so whoever obtained it let their lock
lapse, or had none. The level is kept in a field of its own, and a revert that
finds the default session recorded does not look at it; of the level the same is
said with the teardowns that found a session to revert.

The argument is a step lemma (`step_spec`): an event tears down and leaves the
default session, or it `Moves` the session manager, and what that raises is on
the wire. The history rule does the rest.

Mirroring notes vs the C++:
- Requests come one at a time; `env.now` and `env.later` are the readings of the
  steady clock a request makes, and its adapter call begins at `env.later`.
- The server is one with this one entity.
-/

namespace Sovd

open Uds SessionManager

/-! ## The system -/

/-- A server with one UDS entity. -/
structure UdsServer where
  path : Bytes
  context : UdsContext
  catalogs : List (Bytes × Catalog) := []
  oauth2Secret : Bytes := []

/-- The router of a server with this one entity. -/
def UdsServer.router (srv : UdsServer) : Router SessionManager where
  entities := [{ path := srv.path, vtable := some srv.context.vtable }]
  catalogs := srv.catalogs
  oauth2Secret := srv.oauth2Secret

/-- A request that concerns the entity's lock or ECU. -/
inductive EntityRequest
  | lock (r : LockRequest)
  | gated (k : GatedHandler)

/-- The handler of each request. -/
def EntityRequest.handle {σ : Type} (R : Router σ) (env : Env) (req : Request) (path : Bytes) :
    EntityRequest → World σ → World σ × Outcome
  | lock r => r.handle R env req path
  | gated k => k.handle R env req path

/-- The request is a DELETE, and there is such a lock to release. -/
def EntityRequest.releases (env : Env) (path : Bytes) (locks : LockManager) :
    EntityRequest → Bool
  | lock (.delete lockId) => decide ((locks.release env.now path lockId).1 = .released)
  | _ => false

/-- What happens: a request with what it asked of the adapter and what went over
the wire, a round of the heartbeat, time. -/
inductive SessionEvent
  | request (r : EntityRequest) (env : Env) (req : Request) (released : Bool)
      (calls : List AdapterCall) (wire : List Exchange)
  | heartbeat (idle : Bool) (wire : List Exchange)
  | time

namespace SessionEvent

/-- What was exchanged with the ECU. -/
def wire : SessionEvent → List Exchange
  | request _ _ _ _ _ wire => wire
  | heartbeat _ wire => wire
  | time => []

/-- A lock was released, or the mode `default` asked for. -/
def Reverts : SessionEvent → Prop
  | request _ _ _ released calls _ =>
    released = true ∨ ∃ p r, AdapterCall.setMode p (str "default") r ∈ calls
  | _ => False

/-- The heartbeat found the session idle. -/
def TimesOut : SessionEvent → Prop
  | heartbeat idle _ => idle = true
  | _ => False

/-- What ends a session. -/
def TearsDown (e : SessionEvent) : Prop := e.Reverts ∨ e.TimesOut

/-- What ends a security level: a revert that had a session to end, which shows on
the wire, or the idle timeout. -/
def DropsLevel (e : SessionEvent) : Prop :=
  (e.Reverts ∧ ∃ x ∈ e.wire, x.request = encodeDiagnosticSessionControl 0x01) ∨ e.TimesOut

/-- What drops a level tears the session down. -/
theorem DropsLevel.tearsDown {e : SessionEvent} (h : e.DropsLevel) : e.TearsDown :=
  h.imp_left And.left

/-- The lock id the request supplies. -/
def supplied : SessionEvent → Bytes
  | request _ _ req _ _ _ => headerValue req.headers (str "X-SOVD-Lock-Id")
  | _ => []

end SessionEvent

/-- The request starts at the readings it makes. -/
def World.at (t : Time) (w : World SessionManager) : World SessionManager :=
  { w with adapter := { w.adapter with now := t } }

/-- A request with what it asked of the backend, a round of the heartbeat, or time that passes. -/
inductive SessionStep (srv : UdsServer) (w : World SessionManager) :
    SessionEvent → World SessionManager → Prop
  | request {r : EntityRequest} {env : Env} {req : Request} {calls : List AdapterCall}
      {wire : List Exchange} {w' : World SessionManager}
      (hnow : w.adapter.now ≤ env.now ∧ env.now ≤ env.later)
      (hsweep : ∀ i, w.adapter.now ≤ env.sweep i ∧ env.sweep i ≤ env.now)
      (hw : (r.handle srv.router env req srv.path (w.at env.later)).1 = w')
      (hcalls : w'.calls = w.calls ++ calls)
      (hwire : w'.adapter.wire = w.adapter.wire ++ wire) :
      SessionStep srv w (.request r env req (r.releases env srv.path w.locks) calls wire) w'
  | heartbeat {adapter : SessionManager} {wire : List Exchange}
      (hrun : w.adapter.heartbeatRunning = true)
      (ha : heartbeatTick srv.context.config srv.context.bus w.adapter = adapter)
      (hwire : adapter.wire = w.adapter.wire ++ wire) :
      SessionStep srv w (.heartbeat (w.adapter.idle srv.context.config) wire) { w with adapter }
  | time {t : Time} (ht : w.adapter.now ≤ t) : SessionStep srv w .time (w.at t)

/-- Any requests on the entity, heartbeats and lapses of time, from the start of the server. -/
def sessionLts (srv : UdsServer) : Lts (World SessionManager) SessionEvent where
  init w := ∃ t, w = { adapter := { now := t } }
  step := SessionStep srv

/-! ## What one event can do -/

section

variable {srv : UdsServer}

/-- The entity of the server is its own. -/
theorem UdsServer.find (srv : UdsServer) :
    srv.router.find srv.path = some { path := srv.path, vtable := some srv.context.vtable } := by
  simp [router, Router.find]

/-- A request gets to the server's one adapter, if to any. -/
theorem UdsServer.select_of_getsTo {α : Type} {path : Bytes}
    {select : Vtable SessionManager → Option α} {f : α} (h : GetsTo srv.router path select f) :
    select srv.context.vtable = some f := by
  obtain ⟨e, he, -, hf⟩ := h
  obtain rfl := List.mem_singleton.mp (List.mem_of_find?_eq_some he)
  exact hf

/-- A gated request that acts reverts the session, and says so by its call, or
raises what the wire shows. -/
theorem acts_session {env : Env} {req : Request} {corr : Bytes} {s : SessionManager}
    {k : GatedHandler} {a : Act SessionManager}
    (h : Acts srv.router env req srv.path corr s k a) :
    ((∀ p r, a.call ≠ .setMode p (str "default") r) ∧
      ∃ exchanged, Moves s a.adapter exchanged) ∨
    ((∃ p r, a.call = .setMode p (str "default") r) ∧
      a.adapter = (revertToDefault srv.context.bus s).2) := by
  cases h with
  | clearFaults hf hr =>
    have hf := UdsServer.select_of_getsTo hf
    obtain rfl : srv.context.clearFaults = _ := Option.some.inj hf
    obtain rfl := (congrArg Prod.snd hr).symm
    exact .inl ⟨fun _ _ => by simp, srv.context.clearFaults_moves ..⟩
  | putData hf hitem hw hb hr =>
    have hf := UdsServer.select_of_getsTo hf
    obtain rfl : srv.context.writeData = _ := Option.some.inj hf
    obtain rfl := (congrArg Prod.snd hr).symm
    exact .inl ⟨fun _ _ => by simp, srv.context.writeData_moves ..⟩
  | postOperation hf hr =>
    have hf := UdsServer.select_of_getsTo hf
    obtain rfl : srv.context.executeOperation = _ := Option.some.inj hf
    obtain rfl := (congrArg (fun x => x.2.2) hr).symm
    exact .inl ⟨fun _ _ => by simp, srv.context.executeOperation_moves ..⟩
  | postMode hf hm hr =>
    rename_i f mode r s'
    have hf := UdsServer.select_of_getsTo hf
    obtain rfl : srv.context.setMode = f := Option.some.inj hf
    obtain rfl := (congrArg Prod.snd hr).symm
    by_cases hmode : cStr mode = str "default"
    · rw [hmode]
      exact .inr ⟨⟨_, _, rfl⟩, srv.context.setMode_default s (cStr srv.path)⟩
    · refine .inl ⟨fun p r h => hmode (AdapterCall.setMode.inj h).2.1, ?_⟩
      exact srv.context.setMode_moves hmode ..

/-- What is known of the session manager after an event that showed `wire`. -/
inductive Life (e : SessionEvent) (s s' : SessionManager) : Prop
  | moves (he : ¬ e.TearsDown) (h : Moves s s' e.wire)
  | ends (he : e.TearsDown) (hsession : s'.currentSessionType = 0x01)
      (hlevel : s'.currentSecurityLevel = 0 ∨
        (¬ e.DropsLevel ∧ s'.currentSecurityLevel = s.currentSecurityLevel))

/-- A revert is an end of the session, and of the level if there was a session. -/
theorem life_of_revert {r : EntityRequest} {env : Env} {req : Request} {released : Bool}
    {calls : List AdapterCall} {wire : List Exchange} {s s' : SessionManager} {t : Time}
    (he : SessionEvent.Reverts (.request r env req released calls wire))
    (hs : s' = (revertToDefault srv.context.bus { s with now := t }).2)
    (hwire : s'.wire = s.wire ++ wire) : Life (.request r env req released calls wire) s s' := by
  obtain ⟨hsession, hrest⟩ := revertToDefault_spec srv.context.bus { s with now := t }
  rw [← hs] at hsession hrest
  refine .ends (.inl he) hsession ?_
  rcases hrest with ⟨-, hmoves⟩ | ⟨hlevel, -⟩
  · -- nothing to revert: nothing was sent, and the level was not looked at
    have hempty : wire = [] := List.append_cancel_left (hwire.symm.trans hmoves.wire)
    have hlevel := hmoves.level.resolve_right fun ⟨key, resp, hmem, _⟩ => by cases hmem
    refine .inr ⟨?_, hlevel⟩
    intro h
    rcases h with ⟨-, x, hx, -⟩ | hidle
    · rw [SessionEvent.wire, hempty] at hx
      cases hx
    · exact hidle
  · exact .inl hlevel

/-- A request that reached no adapter. -/
theorem life_of_kept {r : EntityRequest} {env : Env} {req : Request} {calls : List AdapterCall}
    {wire : List Exchange} {w w' : World SessionManager} {t : Time}
    (hadapter : w'.adapter = (w.at t).adapter) (hkept : w'.calls = w.calls)
    (hcalls : w'.calls = w.calls ++ calls) (hwire : w'.adapter.wire = w.adapter.wire ++ wire) :
    Life (.request r env req false calls wire) w.adapter w'.adapter := by
  have hnone : calls = [] := by simpa [hkept] using hcalls
  have hempty : wire = [] := by simpa [hadapter, World.at] using hwire
  subst hnone hempty
  refine .moves ?_ ?_
  · intro h
    rcases h with (hrel | ⟨p, r, hmem⟩) | hidle
    · cases hrel
    · cases hmem
    · exact hidle
  · rw [hadapter]
    exact ⟨by simp [World.at, SessionEvent.wire], .inl rfl, .inl rfl⟩

/-- The teardown of a release is a revert, and is in the record of calls. -/
theorem revertMode_spec (srv : UdsServer) (w : World SessionManager) :
    (revertMode { path := srv.path, vtable := some srv.context.vtable } srv.path w).adapter =
        (revertToDefault srv.context.bus w.adapter).2 ∧
      ∃ r, (revertMode { path := srv.path, vtable := some srv.context.vtable } srv.path w).calls =
        w.calls ++ [.setMode (cStr srv.path) (str "default") r] :=
  ⟨srv.context.setMode_default w.adapter (cStr srv.path), _, rfl⟩

/-- What a lock request does to the session: a release ends it, the others leave it. -/
theorem lock_life {r : LockRequest} {env : Env} {req : Request} {calls : List AdapterCall}
    {wire : List Exchange} {w w' : World SessionManager}
    (hw : (r.handle srv.router env req srv.path (w.at env.later)).1 = w')
    (hcalls : w'.calls = w.calls ++ calls) (hwire : w'.adapter.wire = w.adapter.wire ++ wire) :
    Life (.request (.lock r) env req ((EntityRequest.lock r).releases env srv.path w.locks) calls
      wire) w.adapter w'.adapter := by
  cases hrel : (EntityRequest.lock r).releases env srv.path w.locks with
  | true =>
    cases r with
    | delete lockId =>
      -- a release asks for the default mode before it answers
      have hret : ((w.at env.later).locks.release env.now srv.path lockId).1 = .released :=
        of_decide_eq_true hrel
      have hdone : ((LockRequest.delete lockId).handle srv.router env req srv.path
          (w.at env.later)).1.adapter = _ := (handleDeleteLock_released srv.find rfl hret).1
      rw [(revertMode_spec srv _).1] at hdone
      exact life_of_revert (.inl rfl) (hw ▸ hdone) hwire
    | post => cases hrel
    | put lockId => cases hrel
  | false =>
    have hstep : LockStep srv.router env srv.path (w.at env.later) w' := hw ▸ r.step
    cases hstep with
    | none hkept => exact life_of_kept hkept.adapter hkept.calls hcalls hwire
    | call hdoes hkept hadapter hsame => exact life_of_kept hadapter hsame hcalls hwire
    | released he hdoes hend hadapter hsame =>
      obtain rfl := Option.some.inj (srv.find.symm.trans he)
      obtain ⟨hrevert, ret, hcall⟩ := revertMode_spec srv (w.at env.later)
      rw [hcall] at hsame
      have hcalls : calls = [.setMode (cStr srv.path) (str "default") ret] :=
        List.append_cancel_left (hcalls.symm.trans hsame)
      exact life_of_revert (.inr ⟨cStr srv.path, ret, by simp [hcalls]⟩)
        (hadapter.trans hrevert) hwire

/-- What a gated request does to it: what its backend call does. -/
theorem gated_life {k : GatedHandler} {env : Env} {req : Request} {calls : List AdapterCall}
    {wire : List Exchange} {w w' : World SessionManager}
    (hw : (k.handle srv.router env req srv.path (w.at env.later)).1 = w')
    (hcalls : w'.calls = w.calls ++ calls) (hwire : w'.adapter.wire = w.adapter.wire ++ wire) :
    Life (.request (.gated k) env req false calls wire) w.adapter w'.adapter := by
  -- past the lock check and the handler's own checks, or not
  by_cases hgo : checkLockHeader env req srv.path (w.at env.later).locks = true ∧
      ∃ a, Acts srv.router env req srv.path (correlationIdFor env req {}).1
        (w.at env.later).adapter k a
  · obtain ⟨hlock, a, ha⟩ := hgo
    have hdone := hw ▸ acts_reported hlock ha
    have hcall : calls = [a.call] := List.append_cancel_left (hcalls.symm.trans hdone.calls)
    rcases acts_session ha with ⟨hother, exchanged, hmoves⟩ | ⟨⟨p, r, hdefault⟩, hrevert⟩
    · rw [← hdone.adapter] at hmoves
      have hexch : wire = exchanged := List.append_cancel_left (hwire.symm.trans hmoves.wire)
      subst hexch
      refine .moves ?_ ⟨hwire, hmoves.session, hmoves.level⟩
      intro h
      rcases h with (hrel | ⟨p, r, hmem⟩) | hidle
      · cases hrel
      · rw [hcall] at hmem
        exact hother p r (List.mem_singleton.mp hmem).symm
      · exact hidle
    · exact life_of_revert (.inr ⟨p, r, by simp [hcall, hdefault]⟩)
        (hdone.adapter.trans hrevert) hwire
  · have hdeclined := hw ▸ handle_of_not_acts fun a hlock ha => hgo ⟨hlock, a, ha⟩
    exact life_of_kept hdeclined.adapter hdeclined.calls hcalls hwire

/-- **What one event does to the session manager.** -/
theorem step_life {w w' : World SessionManager} {e : SessionEvent}
    (h : (sessionLts srv).step w e w') : Life e w.adapter w'.adapter := by
  cases h with
  | request hnow hsweep hw hcalls hwire =>
    rename_i r env req calls wire
    cases r with
    | lock r => exact lock_life hw hcalls hwire
    | gated k => exact gated_life hw hcalls hwire
  | time ht =>
    exact .moves (fun he => he.elim id id)
      ⟨by simp [World.at, SessionEvent.wire], .inl rfl, .inl rfl⟩
  | heartbeat hrun ha hwire =>
    -- a round ends the session once it is idle, and sends TesterPresent until then
    subst ha
    cases hidle : w.adapter.idle srv.context.config with
    | true =>
      obtain ⟨hsession, hlevel, -⟩ := heartbeatTick_idle srv.context.bus hidle
      exact .ends (.inr rfl) hsession (.inl hlevel)
    | false =>
      obtain ⟨exchanged, hmoves⟩ := heartbeatTick_busy srv.context.bus hidle
      have hexch := List.append_cancel_left (hwire.symm.trans hmoves.wire)
      subst hexch
      exact .moves (fun he => he.elim id fun h => by cases h) hmoves

/-! ## What a recorded session or level goes back to -/

/-- What is recorded was obtained in the history, and not torn down since. -/
structure Held (es : List SessionEvent) (s : SessionManager) : Prop where
  session : s.currentSessionType ≠ 0x01 →
    Lts.Since (fun e => Opened s.currentSessionType e.wire) SessionEvent.TearsDown es
  level : s.currentSecurityLevel ≠ 0 →
    Lts.Since (fun e => Unlocked s.currentSecurityLevel e.wire) SessionEvent.DropsLevel es

/-- A step keeps what was said of the history so far. -/
theorem Held.step {es : List SessionEvent} {e : SessionEvent} {s s' : SessionManager}
    (h : Held es s) (hlife : Life e s s') : Held (es ++ [e]) s' := by
  cases hlife with
  | moves he hmoves =>
    refine ⟨fun hne => ?_, fun hne => ?_⟩
    · rcases hmoves.session with hsame | hopened
      · rw [hsame] at hne ⊢
        exact (h.session hne).concat he
      · exact .of_last es hopened
    · rcases hmoves.level with hsame | hunlocked
      · rw [hsame] at hne ⊢
        exact (h.level hne).concat fun hdrop => he hdrop.tearsDown
      · exact .of_last es hunlocked
  | ends he hsession hlevel =>
    refine ⟨fun hne => absurd hsession hne, fun hne => ?_⟩
    rcases hlevel with hzero | ⟨hdrop, hsame⟩
    · exact absurd hzero hne
    · -- a revert with nothing to revert: the level is the old one
      rw [hsame] at hne ⊢
      exact (h.level hne).concat hdrop

/-- **In every history the session is the one that was asked for last and not ended since.** -/
theorem held_of_hist {es : List SessionEvent} {w : World SessionManager}
    (h : (sessionLts srv).Hist es w) : Held es w.adapter := by
  refine Lts.hist_induct (P := fun es w => Held es w.adapter) ?_ ?_ h
  · intro w h
    obtain ⟨t, rfl⟩ := h
    exact ⟨fun hne => absurd rfl hne, fun hne => absurd rfl hne⟩
  · intro es w e w' _ hheld hstep
    exact hheld.step (step_life hstep)

/-- A write, an input-output control or a routine goes over the wire. -/
def SessionEvent.Works (e : SessionEvent) : Prop :=
  ∃ x ∈ e.wire, x.request.head? = some kSidWriteDataByIdentifier ∨
    x.request.head? = some kSidIoControl ∨ x.request.head? = some kSidRoutineControl

/-- A request of service `sid` goes over the wire. -/
def SessionEvent.Asks (sid : UInt8) (e : SessionEvent) : Prop :=
  ∃ x ∈ e.wire, x.request.head? = some sid

/-- **What a request can inherit.** Whenever a write or a routine is sent with no
new session (security) exchange while a session (level) is recorded, that was
obtained by an exchange of the run that no teardown followed. -/
theorem since_teardown {es : List SessionEvent} {w : World SessionManager}
    (h : (sessionLts srv).Hist es w) :
    ∀ e w', (sessionLts srv).step w e w' → e.Works →
      (w.adapter.currentSessionType ≠ 0x01 → ¬ e.Asks kSidDiagnosticSessionControl →
        Lts.Since (fun e => Opened w.adapter.currentSessionType e.wire)
          SessionEvent.TearsDown es) ∧
      (w.adapter.currentSecurityLevel ≠ 0 → ¬ e.Asks kSidSecurityAccess →
        Lts.Since (fun e => Unlocked w.adapter.currentSecurityLevel e.wire)
          SessionEvent.DropsLevel es) := by
  intro e w' _ _
  have hheld := held_of_hist h
  exact ⟨fun hne _ => hheld.session hne, fun hne _ => hheld.level hne⟩

end

/-- The stronger rule the server does not keep: what a request finds was obtained
under the lock id it supplies itself. -/
def SameLock (es : List SessionEvent) (w : World SessionManager) (e : SessionEvent) : Prop :=
  e.Works →
    (w.adapter.currentSessionType ≠ 0x01 → ¬ e.Asks kSidDiagnosticSessionControl →
      ∃ e₀ ∈ es, Opened w.adapter.currentSessionType e₀.wire ∧ e₀.supplied = e.supplied) ∧
    (w.adapter.currentSecurityLevel ≠ 0 → ¬ e.Asks kSidSecurityAccess →
      ∃ e₀ ∈ es, Unlocked w.adapter.currentSecurityLevel e₀.wire ∧ e₀.supplied = e.supplied)

/-! ## A session taken over with an expired lock -/

namespace Takeover

/-- An ECU that accepts every session and every write. -/
def bus : Bus where
  reply _ request :=
    match request with
    | [0x10, t] => some [0x50, t]
    | 0x2E :: a :: b :: _ => some [0x6E, a, b]
    | _ => none

/-- One ECU, with an item that wants the session `extended`. -/
def server : UdsServer where
  path := str "ecu"
  context :=
    { catalogData := some
        { data := [{ id := str "mileage", did := 0x0100,
                     requiresSession := some (str "extended") }] }
      bus }

/-- The three bodies of the run below, parsed. -/
def parse : JsonParser := fun text =>
  if text = str "\x7b\"ttl_seconds\":1\x7d" then some (.obj [(str "ttl_seconds", .int 1)])
  else if text = str "\x7b\"mode\":\"extended\"\x7d" then
    some (.obj [(str "mode", .str (str "extended"))])
  else if text = str "\x7b\"value\":\"01\"\x7d" then some (.obj [(str "value", .str (str "01"))])
  else none

/-- A request that arrives `s` seconds after the start. -/
def env (s : Int) : Env where
  ssl := { hmacSha256 := fun _ _ => [], encodeBlock := fun _ => [], decodeBlock := fun _ => none }
  parse := parse
  now := seconds s

def lockHeader (lockId : Bytes) : Headers := [(str "X-SOVD-Lock-Id", lockId)]

/-- POST locks for one second. -/
def lockA : Request :=
  { method := str "POST", path := str "/v1/entities/ecu/locks",
    body := str "\x7b\"ttl_seconds\":1\x7d" }

/-- POST modes under the first lock. -/
def modeA : Request :=
  { method := str "POST", path := str "/v1/entities/ecu/modes",
    headers := lockHeader (str "lock-1"), body := str "\x7b\"mode\":\"extended\"\x7d" }

/-- Another client's lock, two seconds later. -/
def lockB : Request := { method := str "POST", path := str "/v1/entities/ecu/locks" }

/-- Its write of a DID that asks for the extended session. -/
def writeB : Request :=
  { method := str "PUT", path := str "/v1/entities/ecu/data/0100",
    headers := lockHeader (str "lock-2"), body := str "\x7b\"value\":\"01\"\x7d" }

/-- One request at a time. -/
def run (r : EntityRequest) (s : Int) (req : Request) (w : World SessionManager) :
    World SessionManager :=
  (r.handle server.router (env s) req server.path (w.at (seconds s))).1

def w₀ : World SessionManager := { adapter := {} }

def w₁ : World SessionManager := run (.lock .post) 0 lockA w₀

def w₂ : World SessionManager := run (.gated .postMode) 0 modeA w₁

def w₃ : World SessionManager := run (.lock .post) 2 lockB w₂

def w₄ : World SessionManager := run (.gated (.putData (str "0100"))) 2 writeB w₃

def eventLockA : SessionEvent := .request (.lock .post) (env 0) lockA false [] []

def eventModeA : SessionEvent :=
  .request (.gated .postMode) (env 0) modeA false [.setMode (str "ecu") (str "extended") .ok]
    [⟨[0x10, 0x03], some [0x50, 0x03]⟩]

def eventLockB : SessionEvent := .request (.lock .post) (env 2) lockB false [] []

def eventWriteB : SessionEvent :=
  .request (.gated (.putData (str "0100"))) (env 2) writeB false
    [.writeData (str "ecu") (str "0100") [0x01] .ok]
    [⟨[0x2E, 0x01, 0x00, 0x01], some [0x6E, 0x01, 0x00]⟩]

/-- A request is a step of the history. -/
theorem run_step {r : EntityRequest} {s : Int} {req : Request} {w : World SessionManager}
    {calls : List AdapterCall} {wire : List Exchange} (hnow : w.adapter.now ≤ seconds s)
    (hcalls : (run r s req w).calls = w.calls ++ calls)
    (hwire : (run r s req w).adapter.wire = w.adapter.wire ++ wire) :
    (sessionLts server).step w
      (.request r (env s) req (r.releases (env s) server.path w.locks) calls wire)
      (run r s req w) :=
  .request ⟨hnow, le_refl _⟩ (fun _ => ⟨hnow, le_refl _⟩) rfl hcalls hwire

/-- A locks, opens a session and lets its lock run out; B locks. -/
theorem hist : (sessionLts server).Hist [eventLockA, eventModeA, eventLockB] w₃ := by
  have h₀ : (sessionLts server).Hist [] w₀ := Lts.hist_nil ⟨0, rfl⟩
  have h₁ : (sessionLts server).step w₀ eventLockA w₁ := run_step (by decide) rfl rfl
  have h₂ : (sessionLts server).step w₁ eventModeA w₂ := run_step (by decide) rfl rfl
  have h₃ : (sessionLts server).step w₂ eventLockB w₃ := run_step (by decide) rfl rfl
  exact Lts.hist_concat (Lts.hist_concat (Lts.hist_concat h₀ h₁) h₂) h₃

/-- B writes in the session that A opened. -/
theorem write : (sessionLts server).step w₃ eventWriteB w₄ := run_step (by decide) rfl rfl

/-- The write is accepted. -/
theorem write_works : eventWriteB.Works := ⟨_, .head _, .inl rfl⟩

/-- B's write asks for no session. -/
theorem write_asks_no_session : ¬ eventWriteB.Asks kSidDiagnosticSessionControl := by
  intro h
  obtain ⟨x, hx, hsid⟩ := h
  obtain rfl := List.mem_singleton.mp hx
  exact absurd hsid (by decide)

/-- The session is the one A left. -/
theorem extended : w₃.adapter.currentSessionType ≠ 0x01 := by
  show (0x03 : UInt8) ≠ 0x01
  decide

end Takeover

open Takeover in
/-- The session the second client writes in has not been torn down. -/
theorem since_teardown_takeover :
    Lts.Since (fun e => Opened w₃.adapter.currentSessionType e.wire) SessionEvent.TearsDown
      [eventLockA, eventModeA, eventLockB] :=
  (since_teardown hist eventWriteB w₄ write write_works).1 extended write_asks_no_session

open Takeover in
/-- And it is not its own: it was obtained under the lock that expired. -/
theorem inherited_session :
    (sessionLts server).Hist [eventLockA, eventModeA, eventLockB] w₃ ∧
      (sessionLts server).step w₃ eventWriteB w₄ ∧
      ¬ SameLock [eventLockA, eventModeA, eventLockB] w₃ eventWriteB := by
  refine ⟨hist, write, fun h => ?_⟩
  obtain ⟨e₀, he₀, hopened, hsupplied⟩ := (h write_works).1 extended write_asks_no_session
  simp only [List.mem_cons, List.not_mem_nil, or_false] at he₀
  rcases he₀ with rfl | rfl | rfl
  · obtain ⟨resp, hmem, -⟩ := hopened
    cases hmem
  · exact absurd (hsupplied : str "lock-1" = str "lock-2") (by decide)
  · obtain ⟨resp, hmem, -⟩ := hopened
    cases hmem

end Sovd
