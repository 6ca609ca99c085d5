import Sovd.Catalog.DidCatalog
import Sovd.Core.Adapter
import Sovd.Core.EntityRegistry
import Sovd.Core.LockManager
import Sovd.Server.Http
import Sovd.Server.Oauth2

/-!
# What a request handler works on

`Router` is what `main` wired up and no request changes: entities with their
backends, catalogs, proxies, the OAuth2 secret. `World` is what requests do
change: the lock table, the adapters, and three records of what went out (adapter
calls that can change something on an ECU, events handed to the event sink,
requests sent upstream). `Env` is what one request meets.

A handler is a function from a world to a world and an outcome: the response it
leaves, or the exception that left it. The helpers every handler opens with are
here, and `lockGated`, the opening the four lock-gated handlers share.

Mirroring notes vs the C++:
- The records are ghosts; an event is the document whose `dump` the sink gets.
- `correlationId` is what `generate_correlation_id` would return, `nowMs` and
  `nowSeconds` the system clock; `now` is a reading of the lock manager's clock,
  `later` the one an operation makes after it and `sweep` those of
  `held_lock_count`.
- `proxyBusy` says that another request holds the proxied entity's connection;
  `remote` is the upstream server (`none`: unreachable).
-/

namespace Sovd

/-- An entity, as a request finds it. -/
structure Entity (σ : Type) where
  path : Bytes
  type : EntityType := .component
  vtable : Option (Vtable σ) := none

/-- Where a proxied entity lives. -/
structure ProxyTarget where
  baseUrl : Bytes
  remotePath : Bytes
  tlsClientCert : Bytes := []
  tlsClientKey : Bytes := []
  tlsCaCert : Bytes := []
  deriving DecidableEq

/-- A request the HTTP client is asked to make. -/
structure ClientRequest where
  method : Bytes
  path : Bytes
  params : List (Bytes × Bytes) := []
  headers : Headers := []
  body : Bytes := []
  deriving DecidableEq

/-- A response the HTTP client got. -/
structure RemoteResponse where
  status : Int
  headers : Headers := []
  body : Bytes := []

/-- What the router was configured with. -/
structure Router (σ : Type) where
  entities : List (Entity σ)
  catalogs : List (Bytes × Catalog) := []
  proxies : List (Bytes × ProxyTarget) := []
  oauth2Secret : Bytes := []
  serverId : Bytes := []
  role : Bytes := []

/-- All that requests can change or leave behind. -/
structure World (σ : Type) where
  locks : LockManager := {}
  adapter : σ
  calls : List AdapterCall := []
  events : List Json := []
  upstream : List ClientRequest := []

/-- What one request meets. -/
structure Env where
  ssl : OpenSsl
  parse : JsonParser
  castU64 : Nat → Rat := Double.roundTo53
  now : Time := 0
  later : Time := now
  sweep : Nat → Time := fun _ => now
  nowMs : Int := 0
  nowSeconds : Int := 0
  correlationId : Bytes := str "req-0000000000000000"
  proxyBusy : Bool := false
  remote : ClientRequest → Option RemoteResponse := fun _ => none

/-- How a handler ends. -/
abbrev Outcome := Except Exn Response

variable {σ : Type}

namespace Router

/-- `EntityRegistry::find` -/
def find (R : Router σ) (path : Bytes) : Option (Entity σ) :=
  R.entities.find? fun e => e.path == path

/-- `find_catalog` -/
def findCatalog (R : Router σ) (path : Bytes) : Option Catalog :=
  (R.catalogs.find? fun c => c.1 == path).map Prod.snd

/-- `find_proxy` -/
def findProxy (R : Router σ) (path : Bytes) : Option ProxyTarget :=
  (R.proxies.find? fun p => p.1 == path).map Prod.snd

/-- `has_oauth2_scope`: with no secret configured everything is allowed. -/
def hasOauth2Scope (R : Router σ) (env : Env) (req : Request) (scope : Bytes) : Bool :=
  if R.oauth2Secret = [] then true
  else
    match Oauth2.bearerClaims env.ssl env.parse env.nowSeconds R.oauth2Secret
        (headerValue req.headers (str "Authorization")) with
    | none => false
    | some claims => claims.hasScope scope

end Router

/-- The request's correlation id (a fresh one if it has none), and the response that says it. -/
def correlationIdFor (env : Env) (req : Request) (res : Response) : Bytes × Response :=
  let given := headerValue req.headers (str "X-SOVD-Correlation-Id")
  let id := if given = [] then env.correlationId else given
  (id, res.setHeader (str "X-SOVD-Correlation-Id") id)

/-- An answer has no status yet. -/
theorem correlationIdFor_status (env : Env) (req : Request) :
    (correlationIdFor env req {}).2.status = -1 :=
  Response.setHeader_status ..

/-- The document of an event. -/
def eventDocument (env : Env) (type : Bytes) (fields : List (Bytes × Json)) : Json :=
  .obj (Json.set (Json.set fields (str "event") (.str type)) (str "ts_ms") (.int env.nowMs))

/-- `emit_event`: the document goes to the sink, or `dump` throws and nothing does. -/
def emitEvent (env : Env) (type : Bytes) (fields : List (Bytes × Json)) (w : World σ) :
    Except Exn (World σ) :=
  (eventDocument env type fields).dump.map fun j => { w with events := w.events ++ [j] }

/-- An event and what the handler goes on with; the exception ends the handler. -/
def emitThen (env : Env) (type : Bytes) (fields : List (Bytes × Json)) (w : World σ)
    (next : World σ → World σ × Outcome) : World σ × Outcome :=
  match emitEvent env type fields w with
  | .error ex => (w, .error ex)
  | .ok w => next w

/-- `http_status_for` -/
def httpStatusFor : SovdResult → Int
  | .ok => 200
  | .notFound => 404
  | .locked => 423
  | .badRequest => 400
  | .unsupported => 501
  | .busy => 503
  | .transport => 502
  | .negativeResponse => 502
  | .internal => 500
  | .forbidden => 403
  | .conflict => 409

/-- The request `try_forward` makes of the HTTP client; methods other than the
four are not proxied. -/
def upstreamRequest (proxy : ProxyTarget) (req : Request) (res : Response) (entityPath : Bytes) :
    Option ClientRequest :=
  let pre := str "/v1/entities/" ++ entityPath
  let suffix := if req.path.length > pre.length then req.path.drop pre.length else []
  let remoteUrlPath := str "/v1/entities/" ++ proxy.remotePath ++ suffix
  let lockId := headerValue req.headers (str "X-SOVD-Lock-Id")
  let corr := headerValue res.headers (str "X-SOVD-Correlation-Id")
  let headers := (if lockId = [] then [] else [(str "X-SOVD-Lock-Id", lockId)]) ++
    (if corr = [] then [] else [(str "X-SOVD-Correlation-Id", corr)])
  if req.method = str "GET" then
    some { method := str "GET", path := remoteUrlPath, params := req.params, headers }
  else if req.method = str "PUT" then
    some { method := str "PUT", path := remoteUrlPath, headers, body := req.body }
  else if req.method = str "POST" then
    some { method := str "POST", path := remoteUrlPath, headers, body := req.body }
  else if req.method = str "DELETE" then
    some { method := str "DELETE", path := remoteUrlPath, headers }
  else none

/-- What `try_forward` answers once the upstream server has, or has not. -/
def relay (env : Env) (proxy : ProxyTarget) (res : Response) (sent : ClientRequest) : Outcome :=
  match env.remote sent with
  | none =>
    writeError res 502 (str "TRANSPORT")
      (str "upstream SOVD server unreachable: " ++ proxy.baseUrl)
  | some remote =>
    let res := { res with status := remote.status }.setContent (.raw remote.body)
      (headerValue remote.headers (str "Content-Type") (str "application/json"))
    let remoteCorr := headerValue remote.headers (str "X-SOVD-Correlation-Id")
    .ok (if remoteCorr = [] then res else res.setHeader (str "X-SOVD-Correlation-Id") remoteCorr)

/-- `try_forward`: `none` when the entity is not proxied. -/
def tryForward (R : Router σ) (env : Env) (req : Request) (res : Response) (entityPath : Bytes)
    (w : World σ) : Option (World σ × Outcome) :=
  match R.findProxy entityPath with
  | none => none
  | some proxy =>
    if env.proxyBusy then
      some (w, writeError res 503 (str "BUSY")
        (str "another request to this proxied entity is already in flight"))
    else
      match upstreamRequest proxy req res entityPath with
      | none =>
        some (w, writeError res 501 (str "UNSUPPORTED")
          (str "method not proxied: " ++ req.method))
      | some sent =>
        some ({ w with upstream := w.upstream ++ [sent] }, relay env proxy res sent)

/-- The opening of the handlers that act on an entity: find it, and forward what
is proxied. -/
def withEntity (R : Router σ) (env : Env) (req : Request) (path : Bytes) (w : World σ)
    (act : (e : Entity σ) → (corr : Bytes) → Response → World σ × Outcome) : World σ × Outcome :=
  let (corr, res) := correlationIdFor env req {}
  match R.find path with
  | none => (w, writeError res 404 (str "NOT_FOUND") (str "unknown entity: " ++ path))
  | some e =>
    match tryForward R env req res path w with
    | some out => out
    | none => act e corr res -- a local entity

/-- The same for the handlers that need a backend function. -/
def withBackend {α : Type} (R : Router σ) (env : Env) (req : Request) (path : Bytes)
    (select : Vtable σ → Option α) (w : World σ)
    (act : (f : α) → (corr : Bytes) → Response → World σ × Outcome) : World σ × Outcome :=
  withEntity R env req path w fun e corr res =>
    match e.vtable.bind select with
    | none => (w, writeError res 501 (str "UNSUPPORTED") (str "entity has no diagnostic backend"))
    | some f => act f corr res

/-- `check_lock_header`, without the response it writes. -/
def checkLockHeader (env : Env) (req : Request) (path : Bytes) (locks : LockManager) : Bool :=
  locks.checkLock env.now path (headerValue req.headers (str "X-SOVD-Lock-Id"))

/-- The same with the lock check the four lock-gated handlers add. -/
def lockGated {α : Type} (R : Router σ) (env : Env) (req : Request) (path : Bytes)
    (select : Vtable σ → Option α) (w : World σ)
    (act : (f : α) → (corr : Bytes) → Response → World σ × Outcome) : World σ × Outcome :=
  withBackend R env req path select w fun f corr res =>
    if checkLockHeader env req path w.locks then act f corr res
    else
      (w, writeError res 423 (str "LOCKED") (str "entity is locked; supply X-SOVD-Lock-Id header"))

/-! ## What the opening lets through -/

/-- Locks, adapters, calls and events are as they were. -/
structure Untouched (w w' : World σ) : Prop where
  locks : w'.locks = w.locks
  adapter : w'.adapter = w.adapter
  calls : w'.calls = w.calls
  events : w'.events = w.events

/-- Nothing happened. -/
theorem Untouched.rfl {w : World σ} : Untouched w w := ⟨Eq.refl _, Eq.refl _, Eq.refl _, Eq.refl _⟩

/-- The request gets as far as the backend function `f` of a local entity. -/
def GetsTo {α : Type} (R : Router σ) (path : Bytes) (select : Vtable σ → Option α) (f : α) : Prop :=
  ∃ e, R.find path = some e ∧ R.findProxy path = none ∧ e.vtable.bind select = some f

/-- Forwarding touches nothing here, and happens only for what is proxied. -/
theorem tryForward_untouched {R : Router σ} {env : Env} {req : Request} {res : Response}
    {path : Bytes} {w : World σ} {out : World σ × Outcome}
    (h : tryForward R env req res path w = some out) : Untouched w out.1 := by
  unfold tryForward at h
  split at h
  next => cases h
  next proxy hp =>
    split_ifs at h
    · obtain rfl := Option.some.inj h
      exact .rfl
    · split at h
      next =>
        obtain rfl := Option.some.inj h
        exact .rfl
      next sent hs =>
        obtain rfl := Option.some.inj h
        exact ⟨rfl, rfl, rfl, rfl⟩

/-- Only a request for an entity with a proxy target is passed on. -/
theorem tryForward_eq_none {R : Router σ} {env : Env} {req : Request} {res : Response}
    {path : Bytes} {w : World σ} :
    tryForward R env req res path w = none ↔ R.findProxy path = none := by
  unfold tryForward
  split
  next hp => simp [hp]
  next proxy hp =>
    rw [hp]
    split_ifs
    · simp
    · split <;> simp

section Opening

variable {α : Type} {R : Router σ} {env : Env} {req : Request} {path : Bytes}
  {select : Vtable σ → Option α} {w : World σ}
  {act : (f : α) → (corr : Bytes) → Response → World σ × Outcome}

/-- A local entity is the handler's business. -/
theorem withEntity_of_local {act : Entity σ → Bytes → Response → World σ × Outcome}
    {e : Entity σ} (he : R.find path = some e) (hp : R.findProxy path = none) :
    withEntity R env req path w act =
      act e (correlationIdFor env req {}).1 (correlationIdFor env req {}).2 := by
  unfold withEntity
  simp only [he, tryForward_eq_none.mpr hp]

/-- Anything else leaves the server as it is. -/
theorem withEntity_of_not {act : Entity σ → Bytes → Response → World σ × Outcome}
    (h : ∀ e, R.find path = some e → R.findProxy path ≠ none) :
    Untouched w (withEntity R env req path w act).1 := by
  unfold withEntity
  dsimp only
  split
  next => exact .rfl
  next e he =>
    split
    next out hout => exact tryForward_untouched hout
    next hout => exact absurd (tryForward_eq_none.mp hout) (h e he)

/-- A handler that gets to its adapter function goes on with it. -/
theorem withBackend_of_getsTo {f : α} (h : GetsTo R path select f) :
    withBackend R env req path select w act =
      act f (correlationIdFor env req {}).1 (correlationIdFor env req {}).2 := by
  obtain ⟨e, he, hp, hf⟩ := h
  rw [withBackend, withEntity_of_local he hp, hf]

/-- A handler that does not get there leaves the server as it is. -/
theorem withBackend_of_not (h : ∀ f, ¬ GetsTo R path select f) :
    Untouched w (withBackend R env req path select w act).1 := by
  by_cases hlocal : ∃ e, R.find path = some e ∧ R.findProxy path = none
  · obtain ⟨e, he, hp⟩ := hlocal
    rw [withBackend, withEntity_of_local he hp]
    split
    next => exact .rfl
    next f hf => exact absurd ⟨e, he, hp, hf⟩ (h f)
  · -- unknown or proxied: the backend is not looked for
    exact withEntity_of_not fun e he hp => hlocal ⟨e, he, hp⟩

/-- One that gets there past the gate goes on. -/
theorem lockGated_of_getsTo {f : α} (h : GetsTo R path select f)
    (hlock : checkLockHeader env req path w.locks = true) :
    lockGated R env req path select w act =
      act f (correlationIdFor env req {}).1 (correlationIdFor env req {}).2 := by
  unfold lockGated
  rw [withBackend_of_getsTo h, if_pos hlock]

/-- One that does not get there, or not past the gate, leaves the server as it is. -/
theorem lockGated_of_not
    (h : ∀ f, GetsTo R path select f → checkLockHeader env req path w.locks = false) :
    Untouched w (lockGated R env req path select w act).1 := by
  unfold lockGated
  by_cases hf : ∃ f, GetsTo R path select f
  · obtain ⟨f, hf⟩ := hf
    rw [withBackend_of_getsTo hf, h f hf]
    exact .rfl
  · exact withBackend_of_not (not_exists.mp hf)

end Opening

/-! ## Events -/

/-- An event that can be written is told. -/
theorem emitEvent_of_utf8 {env : Env} {type : Bytes} {fields : List (Bytes × Json)} (w : World σ)
    (h : (eventDocument env type fields).utf8 = true) :
    emitEvent env type fields w =
      .ok { w with events := w.events ++ [eventDocument env type fields] } := by
  rw [emitEvent, Json.dump_of_utf8 h]
  rfl

/-- An event that is not UTF-8 throws. -/
theorem emitEvent_of_not_utf8 {env : Env} {type : Bytes} {fields : List (Bytes × Json)}
    (w : World σ) (h : (eventDocument env type fields).utf8 = false) :
    emitEvent env type fields w = .error .invalidUtf8 := by
  rw [emitEvent, Json.dump_of_not_utf8 h]
  rfl

/-- An event that was delivered is UTF-8, and was delivered once. -/
theorem emitEvent_eq_ok {env : Env} {type : Bytes} {fields : List (Bytes × Json)}
    {w w' : World σ} (h : emitEvent env type fields w = .ok w') :
    (eventDocument env type fields).utf8 = true ∧
      w' = { w with events := w.events ++ [eventDocument env type fields] } := by
  cases hutf : (eventDocument env type fields).utf8 with
  | true =>
    rw [emitEvent_of_utf8 w hutf] at h
    exact ⟨rfl, (Except.ok.inj h).symm⟩
  | false =>
    rw [emitEvent_of_not_utf8 w hutf] at h
    cases h

/-- Only events are new. -/
structure OnlyEvents (w w' : World σ) : Prop where
  locks : w'.locks = w.locks
  adapter : w'.adapter = w.adapter
  calls : w'.calls = w.calls

/-- An event and an answer change nothing but the events. -/
theorem emitThen_onlyEvents {env : Env} {type : Bytes} {fields : List (Bytes × Json)} {w : World σ}
    {next : World σ → World σ × Outcome} (hnext : ∀ w, (next w).1 = w) :
    OnlyEvents w (emitThen env type fields w next).1 := by
  unfold emitThen
  split
  next => exact ⟨rfl, rfl, rfl⟩
  next w' hw' =>
    obtain ⟨-, rfl⟩ := emitEvent_eq_ok hw'
    rw [hnext]
    exact ⟨rfl, rfl, rfl⟩

/-- An event says what it is. -/
@[simp] theorem eventDocument_type (env : Env) (type : Bytes) (fields : List (Bytes × Json)) :
    (eventDocument env type fields).get? (str "event") = some (.str type) := by
  rw [eventDocument, Json.get?_set_of_ne (by decide), Json.get?_set_self]

/-- The fields of an event are in its document. -/
theorem eventDocument_get? {env : Env} {type : Bytes} {fields : List (Bytes × Json)} {key : Bytes}
    (h₁ : key ≠ str "event") (h₂ : key ≠ str "ts_ms") :
    (eventDocument env type fields).get? key = (Json.obj fields).get? key := by
  rw [eventDocument, Json.get?_set_of_ne h₂, Json.get?_set_of_ne h₁]

/-- What has to be UTF-8 in an event is its type and its fields. -/
theorem eventDocument_utf8 {env : Env} {type : Bytes} {fields : List (Bytes × Json)}
    (hf : ∀ m ∈ fields, m.1 ≠ str "event" ∧ m.1 ≠ str "ts_ms") (ht : Utf8.valid type = true) :
    (eventDocument env type fields).utf8 = Json.utf8Members fields := by
  -- neither key is a field already, so setting them adds their own texts only
  have hset : ∀ m ∈ Json.set fields (str "event") (.str type), m.1 ≠ str "ts_ms" := by
    intro m hm
    rcases List.mem_append.mp hm with hm | hm
    · exact (hf m (List.mem_filter.mp hm).1).2
    · rw [List.mem_singleton.mp hm]
      exact (by decide : str "event" ≠ str "ts_ms")
  have hev : Utf8.valid (str "event") = true := by decide
  have hts : Utf8.valid (str "ts_ms") = true := by decide
  rw [eventDocument, Json.utf8_obj, Json.utf8Members_set hset,
    Json.utf8Members_set fun m hm => (hf m hm).1]
  simp [ht, hev, hts]

end Sovd
