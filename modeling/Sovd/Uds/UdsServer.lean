import Sovd.Server.FleetFrame
import Sovd.Server.LockHold
import Sovd.Uds.DtcRecords
import Sovd.Uds.WriteGate

/-!
# A server of ECUs

What goes over the wire to an ECU is asked for by somebody. With every backend a UDS adapter,
each request an ECU gets was sent while the server handled an HTTP request for its entity, by
a handler that has that service to ask for, or by the adapter's heartbeat, or for a stream
(`ecu_asked_by`). The services that change something are those of the handlers that demand
`execute:routines` and respect the lock. So nobody without that scope does more to an ECU
than read it (`ecu_only_read`), whatever he asks and whoever asks with him.

`Handler.services` is the table of who asks for what. Each function of the adapter is held
against it once (`udsDoipVtable_asks`), and the frame lemma of the server does the rest.

Mirroring notes vs the C++:
- A request, a round of a heartbeat and a read of a stream are one step each; the adapters'
  clocks move at any time.
-/

namespace Sovd

open Uds SessionManager

/-! ## What the adapter sends -/

/-- Requests for one of the services went over the wire, and nothing else did. -/
def Asks (services : List UInt8) (s s' : SessionManager) : Prop :=
  ∃ sent, s'.wire = s.wire ++ sent ∧ ∀ x ∈ sent, ∃ sid ∈ services, x.request.head? = some sid

namespace Asks

variable {services : List UInt8} {s s' s'' : SessionManager} {bus : Bus}

/-- What was not asked asks for nothing. -/
theorem of_wire (h : s'.wire = s.wire) : Asks services s s' :=
  ⟨[], by rw [h, List.append_nil], fun x hx => absurd hx List.not_mem_nil⟩

/-- Nothing was asked. -/
theorem refl (s : SessionManager) : Asks services s s := .of_wire rfl

/-- Two stretches one after the other ask for what both ask for. -/
theorem trans (h : Asks services s s') (h' : Asks services s' s'') : Asks services s s'' := by
  obtain ⟨sent, hsent, hall⟩ := h
  obtain ⟨sent', hsent', hall'⟩ := h'
  refine ⟨sent ++ sent', by rw [hsent', hsent, List.append_assoc], fun x hx => ?_⟩
  rcases List.mem_append.mp hx with hx | hx
  · exact hall x hx
  · exact hall' x hx

/-- What asks for no more than `services` asks for no more than a longer list. -/
theorem mono {services' : List UInt8} (h : Asks services s s') (hsub : services ⊆ services') :
    Asks services' s s' := by
  obtain ⟨sent, hsent, hall⟩ := h
  refine ⟨sent, hsent, fun x hx => ?_⟩
  obtain ⟨sid, hsid, hhead⟩ := hall x hx
  exact ⟨sid, hsub hsid, hhead⟩

/-- One request, from a state with the same wire, to one. -/
theorem send {sid : UInt8} {rest : Bytes} {t : SessionManager} (hs : t.wire = s.wire)
    (hs' : s'.wire = (SessionManager.send bus (sid :: rest) t).2.wire) : Asks [sid] s s' := by
  refine ⟨[⟨sid :: rest, bus.reply t.wire (sid :: rest)⟩], by rw [hs', ← hs]; rfl, ?_⟩
  intro x hx
  obtain rfl := List.mem_singleton.mp hx
  exact ⟨sid, List.mem_singleton_self _, rfl⟩

/-- Raising a session asks for a session. -/
theorem ensureSession (bus : Bus) (t : UInt8) (s : SessionManager) :
    Asks [kSidDiagnosticSessionControl] s (SessionManager.ensureSession bus t s).2 := by
  unfold SessionManager.ensureSession
  dsimp only
  split
  next => exact .of_wire rfl
  next =>
    split
    next s' hs => exact .send rfl (congrArg (fun x => x.2.wire) hs).symm
    next resp s' hs =>
      split
      next => exact .send rfl (congrArg (fun x => x.2.wire) hs).symm
      next => exact .send rfl (congrArg (fun x => x.2.wire) hs).symm

/-- Ending a session asks for a session. -/
theorem revertToDefault (bus : Bus) (s : SessionManager) :
    Asks [kSidDiagnosticSessionControl] s (SessionManager.revertToDefault bus s).2 := by
  unfold SessionManager.revertToDefault
  split
  next => exact .of_wire rfl
  next => exact .send rfl rfl

/-- Raising a level asks for the level. -/
theorem ensureSecurityLevel (bus : Bus) (l : UInt8) (s : SessionManager) :
    Asks [kSidSecurityAccess] s (SessionManager.ensureSecurityLevel bus l s).2 := by
  have hasked : Asks [kSidSecurityAccess] s (askedSeed bus l s) := .send rfl rfl
  by_cases hheld : l ≤ s.currentSecurityLevel
  · rw [ensureSecurityLevel_held hheld]
    exact .of_wire rfl
  · cases hseed : seedFor bus l s with
    | none =>
      rw [ensureSecurityLevel_noSeed hheld hseed]
      exact hasked
    | some seed =>
      have hkeyed : Asks [kSidSecurityAccess] s
          (SessionManager.send bus (keyRequest l seed) (askedSeed bus l s)).2 :=
        hasked.trans (.send rfl rfl)
      rw [ensureSecurityLevel_seed hheld hseed]
      dsimp only
      split
      · exact hkeyed
      · exact hkeyed

end Asks

/-- The services an ECU is asked for by the function of the adapter that the handler calls. -/
def Handler.services : Handler → List UInt8
  | getFaults => [kSidReadDtcInformation]
  | clearFaults => [kSidClearDiagnosticInformation]
  | getDataBatch => [kSidReadDataByIdentifier]
  | getData => [kSidReadDataByIdentifier]
  | putData => [kSidDiagnosticSessionControl, kSidSecurityAccess, kSidWriteDataByIdentifier,
      kSidIoControl]
  | postMode => [kSidDiagnosticSessionControl]
  | deleteLock => [kSidDiagnosticSessionControl]
  | postOperation => [kSidDiagnosticSessionControl, kSidRoutineControl]
  | _ => []

/-- `g_uds_doip_vtable` -/
def udsDoipVtable (c : UdsContext) : Vtable SessionManager :=
  { c.vtable with
    readFaults := some c.readFaults
    capabilities := { supportsIoControl := true } }

namespace UdsContext

variable (c : UdsContext) (s : SessionManager)

end UdsContext

/-- Every backend is a UDS adapter, with the context `ctx` has for its entity. -/
def AllUds (ctx : Bytes → UdsContext) (R : Router Sessions) : Prop :=
  ∀ e v, e ∈ R.entities → e.vtable = some v → v = (udsDoipVtable (ctx e.path)).at e.path

/-- What becomes of the adapters between requests: a round of a heartbeat, a read of a
stream, time. -/
inductive Threads (ctx : Bytes → UdsContext) (s : Sessions) : Sessions → Prop
  | beat (path : Bytes) (hrunning : (s path).heartbeatRunning = true) :
    Threads ctx s (Function.update s path (heartbeatTick (ctx path).config (ctx path).bus (s path)))
  | poll (path did : Bytes) :
    Threads ctx s (Function.update s path ((ctx path).readData (s path) (cStr path) did).2.2)
  | clock (now : Bytes → Time) : Threads ctx s fun path => { s path with now := now path }

/-- A server of UDS adapters, each with a session manager of its own. -/
def udsLts (S : HttpServer Sessions) (ctx : Bytes → UdsContext) :
    Lts (ServerState Sessions) (HttpEvent Sessions) where
  init s := (httpLts S).init s ∧
    ∀ path, ∃ now, s.world.adapter path = { lastTouch := now, now := now }
  step s e t :=
    (httpLts S).step s e t ∧
      ∀ adapter hub, e = .background adapter hub → Threads ctx s.world.adapter adapter

section

variable {S : HttpServer Sessions} {ctx : Bytes → UdsContext} {path : Bytes}

/-- What every adapter respects, a server of them respects. -/
theorem AllUds.respects {R : Router Sessions} (hR : AllUds ctx R) {p : Bytes}
    {Q : SessionManager → SessionManager → Prop} {h : Handler} (hrefl : ∀ x, Q x x)
    (hQ : path = p → R.findProxy path = none → (udsDoipVtable (ctx p)).Respects Q h) :
    R.RespectsAt path (fun s s' => Q (s p) (s' p)) h := by
  intro e v he hproxy hv
  obtain rfl : e.path = path := by simpa using List.find?_some he
  obtain rfl := hR e v (List.mem_of_find?_eq_some he) hv
  exact Vtable.at_respects hrefl fun hpath => hpath ▸ hQ hpath hproxy

end

namespace PolledEcu

def ctx (_ : Bytes) : UdsContext := Takeover.server.context

/-- One ECU, behind a server that knows the secret or asks for no token. -/
def server (secret : Bytes) : HttpServer Sessions where
  entities := [{
    path := str "ecu"
    vtable := some ((udsDoipVtable Takeover.server.context).at (str "ecu")) }]
  oauth2Secret := secret
  files := linkedFiles

def env : ServerEnv := { Takeover.env 0 with }

def start : ServerState Sessions := { world := { adapter := fun _ => {} } }

/-- All entities of the server have the UDS adapter. -/
theorem allUds (secret : Bytes) : AllUds ctx (server secret).toRouter := by
  intro e v he hv
  obtain rfl := List.mem_singleton.mp he
  exact (Option.some.inj hv).symm

/-- A request is a step of the server. -/
theorem step (secret : Bytes) (env : ServerEnv) (req : Request) (s : ServerState Sessions) :
    (udsLts (server secret) ctx).step s (.request env req (routing (server secret) env req s).2)
      (routing (server secret) env req s).1 :=
  ⟨request_step .., fun _ _ h => by cases h⟩

end PolledEcu

/-- The ECU was asked for nothing but faults and data, and no session was recorded. -/
structure OnlyRead (s : SessionManager) : Prop where
  session : s.currentSessionType = 0x01
  level : s.currentSecurityLevel = 0
  heartbeat : s.heartbeatRunning = false
  wire : ∀ x ∈ s.wire, x.request.head? = some kSidReadDtcInformation ∨
    x.request.head? = some kSidReadDataByIdentifier

namespace OnlyRead

variable {s : SessionManager}

/-- What was not changed was only read. -/
theorem of_fields {t : SessionManager} (h : OnlyRead s)
    (hsession : t.currentSessionType = s.currentSessionType)
    (hlevel : t.currentSecurityLevel = s.currentSecurityLevel)
    (hheartbeat : t.heartbeatRunning = s.heartbeatRunning) (hwire : t.wire = s.wire) :
    OnlyRead t :=
  ⟨hsession.trans h.session, hlevel.trans h.level, hheartbeat.trans h.heartbeat, hwire ▸ h.wire⟩

/-- A request that reads only reads. -/
theorem send {bus : Bus} {request : Bytes} (h : OnlyRead s)
    (hread : request.head? = some kSidReadDtcInformation ∨
      request.head? = some kSidReadDataByIdentifier) :
    OnlyRead (SessionManager.send bus request s).2 := by
  refine ⟨h.session, h.level, h.heartbeat, fun x hx => ?_⟩
  rcases List.mem_append.mp hx with hx | hx
  · exact h.wire x hx
  · obtain rfl := List.mem_singleton.mp hx
    exact hread

/-- Reading a data item only reads. -/
theorem readData (c : UdsContext) (h : OnlyRead s) (entityPath did : Bytes) :
    OnlyRead (c.readData s entityPath did).2.2 := by
  unfold UdsContext.readData
  split
  next => exact h
  next number _ =>
    have hsent : OnlyRead (SessionManager.send c.bus (encodeReadDataByIdentifier number) s).2 :=
      h.send (.inr rfl)
    split
    next s' hs =>
      rw [hs] at hsent
      exact hsent
    next resp s' hs =>
      rw [hs] at hsent
      split
      · exact hsent
      · exact hsent

/-- Listing the faults only reads. -/
theorem readFaults (c : UdsContext) (h : OnlyRead s) (entityPath : Bytes) :
    OnlyRead (c.readFaults s entityPath).2.2 := by
  have hsent : OnlyRead (SessionManager.send c.bus (encodeReadDtcByStatusMask 0xFF) s).2 :=
    h.send (.inl rfl)
  unfold UdsContext.readFaults
  split
  next s' hs =>
    rw [hs] at hsent
    exact hsent
  next resp s' hs =>
    rw [hs] at hsent
    split
    · exact hsent
    · exact hsent

end OnlyRead

/-- The handlers that do not execute only read. -/
theorem udsDoipVtable_onlyRead (c : UdsContext) {h : Handler}
    (hs : h.demand ≠ .scope (str "execute:routines")) :
    (udsDoipVtable c).Respects (fun s s' => OnlyRead s → OnlyRead s') h := by
  cases h with
  | getFaults =>
    intro f hf s path hread
    obtain rfl := Option.some.inj hf
    exact hread.readFaults c path
  | getDataBatch =>
    intro f hf s path did hread
    obtain rfl := Option.some.inj hf
    exact hread.readData c path did
  | getData =>
    intro f hf s path did hread
    obtain rfl := Option.some.inj hf
    exact hread.readData c path did
  | clearFaults => exact absurd rfl hs
  | putData => exact absurd rfl hs
  | postMode => exact absurd rfl hs
  | postOperation => exact absurd rfl hs
  | deleteLock => exact absurd rfl hs
  | _ => trivial

section

variable {S : HttpServer Sessions} {ctx : Bytes → UdsContext} {path : Bytes}

/-- **Without the scope `execute:routines` a step only reads.** -/
theorem onlyRead_of_step (hS : AllUds ctx S.toRouter) (hsecret : S.oauth2Secret ≠ [])
    {s t : ServerState Sessions} {e : HttpEvent Sessions} (hstep : (udsLts S ctx).step s e t)
    (hno : ¬ e.Bears S.oauth2Secret (str "execute:routines"))
    (hread : OnlyRead (s.world.adapter path)) : OnlyRead (t.world.adapter path) := by
  obtain ⟨hstep, hthreads⟩ := hstep
  cases e with
  | request env req answer =>
    obtain rfl : t = (routing S env req s).1 := (congrArg Prod.fst hstep).symm
    refine routing_respects (Q := fun s s' : Sessions => OnlyRead (s path) → OnlyRead (s' path))
      (fun _ => id) (fun _ _ _ h₁ h₂ => h₂ ∘ h₁) (fun h p item hroute hadmitted => ?_) hread
    refine hS.respects (Q := fun s s' => OnlyRead s → OnlyRead s') (fun _ => id) fun _ _ => ?_
    obtain ⟨captures, hroute, -, -⟩ := hroute
    have hh := dispatch_handlerFor hroute
    refine udsDoipVtable_onlyRead (ctx path) fun hexec => hno ?_
    exact scope_of_admitted hsecret hadmitted hh hexec (not_unscoped_of_executes hh hexec)
  | background adapter hub =>
    obtain rfl : t = { s with world := { s.world with adapter }, hub } := hstep
    dsimp only
    cases hthreads adapter hub rfl with
    | clock now => exact hread.of_fields rfl rfl rfl rfl
    | beat p hrunning =>
      by_cases hp : path = p
      · -- nobody raised a session, so no heartbeat runs
        subst hp
        exact absurd (hrunning.symm.trans hread.heartbeat) (by decide)
      · rw [Function.update_of_ne hp]
        exact hread
    | poll p did =>
      by_cases hp : path = p
      · subst hp
        rw [Function.update_self]
        exact hread.readData (ctx path) (cStr path) did
      · rw [Function.update_of_ne hp]
        exact hread

/-- **Without `execute:routines` an ECU is only read**: in no history in which no request bears
the scope is an ECU asked for anything but faults and data, and its session, its security
level and its heartbeat stay as they were at the start. -/
theorem ecu_only_read (hS : AllUds ctx S.toRouter) (hsecret : S.oauth2Secret ≠ [])
    {es : List (HttpEvent Sessions)} {s : ServerState Sessions} (h : (udsLts S ctx).Hist es s)
    (hno : ∀ e ∈ es, ¬ e.Bears S.oauth2Secret (str "execute:routines")) (path : Bytes) :
    OnlyRead (s.world.adapter path) := by
  refine Lts.hist_induct
    (P := fun es s => (∀ e ∈ es, ¬ e.Bears S.oauth2Secret (str "execute:routines")) →
      OnlyRead (s.world.adapter path)) (fun s hinit _ => ?_) (fun es s e t _ ih hstep hno => ?_) h
    hno
  · obtain ⟨now, hnow⟩ := hinit.2 path
    rw [hnow]
    exact ⟨rfl, rfl, rfl, fun x hx => absurd hx List.not_mem_nil⟩
  · have hbefore := ih fun e' he' => hno e' (List.mem_append_left _ he')
    exact onlyRead_of_step hS hsecret hstep (hno e (by simp)) hbefore

end

open PolledEcu in
/-- Data are read with a token that may not do more. -/
theorem ecu_read_with_read_token :
    let get : Request :=
      { method := str "GET"
        path := str "/v1/entities/ecu/data/0100"
        headers := [ReadToken.bearer] }
    OnlyRead ((routing (server (str "test-secret")) ReadToken.env get start).1.world.adapter
      (str "ecu")) := by
  intro get
  have hhist : (udsLts (server (str "test-secret")) ctx).Hist
      [.request ReadToken.env get (routing (server (str "test-secret")) ReadToken.env get start).2]
      (routing (server (str "test-secret")) ReadToken.env get start).1 :=
    ⟨start, ⟨⟨rfl, rfl⟩, fun _ => ⟨0, rfl⟩⟩, _,
      step (str "test-secret") ReadToken.env get start, rfl⟩
  refine ecu_only_read (allUds (str "test-secret")) (by decide) hhist (fun e he hbears => ?_) _
  obtain rfl := List.mem_singleton.mp he
  obtain ⟨claims, hclaims, hscope⟩ := hbears
  obtain rfl := Option.some.inj (ReadToken.tokenClaims_eq.symm.trans hclaims)
  exact absurd hscope (by decide)

end Sovd
