import Sovd.Lib.Lts
import Sovd.Server.Gateway
import Sovd.Server.Httplib
import Sovd.Server.Scope
import Sovd.Server.StaticFiles
import Sovd.Server.StreamHandlers

/-!
# From a request to its answer (`register_routes`, `Server::routing`)

Before a request is dispatched, one hook looks at it: it answers preflights, hands out
the files of the web UI, and refuses what the role of the server or the token of the
request does not permit. What it lets through is dispatched, and a handler's answer is
sent with the CORS headers the hook left.

`routing_cases` says all a request can do: it is told to the event sink and no more, or
it was admitted and its handler did what handlers do. What holds of every run of the
server (`httpLts`) is proved from it.

Mirroring notes vs the C++:
- The handlers start from an empty response and read none of its headers but the
  correlation id, so the CORS headers are put in front of theirs.
- The response an exception leaves behind is not modelled, only the exception.
- A request is one step. It is one the library hands on: a request whose `Range` header cannot
  be read is answered before (`process`), and what is here an answer is what the handler left,
  before the library cuts it to the ranges that were asked for.
- What the threads of adapters and streams do in between is a step
  of its own, and may leave any adapter and any hub behind.
-/

namespace Sovd

open Wildcard

variable {σ : Type}

/-- What leaves the hook or a handler instead of an answer. -/
inductive Failure
  | json (ex : Exn)
  /-- `std::out_of_range` -/
  | outOfRange

/-- What a request is answered with, or the exception that took its place. -/
abbrev Answer := Except Failure Response

/-- What `main` sets up around the router. -/
structure HttpServer (σ : Type) extends Router σ where
  corsAllowedOrigins : List Bytes := []
  webRoot : Bytes := []
  files : FileSystem

/-- `svr->set_payload_max_length(64 * 1024)` -/
def payloadMaxLength : Nat := 64 * 1024

/-! ## The hook -/

/-- `has_header` -/
def hasHeader (headers : Headers) (key : Bytes) : Bool :=
  headers.any fun h => caseIgnoreEqual h.1 key

/-- `apply_cors_headers`: only for an origin that is listed. -/
def applyCorsHeaders (origins : List Bytes) (req : Request) (res : Response) : Response :=
  let origin := headerValue req.headers (str "Origin")
  if origin = [] then res
  else if origin ∈ origins then
    (res.setHeader (str "Access-Control-Allow-Origin") origin).setHeader
      (str "Access-Control-Expose-Headers") (str "X-SOVD-Correlation-Id")
  else res

/-- The answer to an OPTIONS request. -/
def preflight (origins : List Bytes) (req : Request) : Response :=
  let res := applyCorsHeaders origins req {}
  let res :=
    if hasHeader res.headers (str "Access-Control-Allow-Origin") then
      ((res.setHeader (str "Access-Control-Allow-Methods")
        (str "GET, POST, PUT, DELETE, OPTIONS")).setHeader (str "Access-Control-Allow-Headers")
        (str "Content-Type, Authorization, X-SOVD-Lock-Id, X-SOVD-Correlation-Id")).setHeader
        (str "Access-Control-Max-Age") (str "600")
    else res
  { res with status := 204 }

/-- `httplib::Server::HandlerResponse` -/
inductive HandlerResponse
  | handled (answer : Answer)
  | unhandled (res : Response)

/-- A request that is refused: the event that tells of it, and the answer. -/
structure Refusal where
  event : Bytes
  fields : List (Bytes × Json)
  answer : Outcome

/-- The refusal of a gateway, and the event that tells of it. -/
def gatewayRefusal (role : Bytes) (req : Request) (corr : Bytes) (res : Response) :
    Option Refusal :=
  (gatewayRefuses role req res).map fun answer =>
    { event := str "gateway_route_denied"
      fields := [(str "method", .str req.method), (str "path", .str req.path),
        (str "correlation_id", .str corr)]
      answer }

/-- The refusal of a token, and the event that tells of it. -/
def oauth2Refusal (env : Env) (secret : Bytes) (req : Request) (corr : Bytes) (res : Response) :
    Option Refusal :=
  let fields (status : Int) := [(str "method", .str req.method), (str "path", .str req.path),
    (str "status", .int status), (str "correlation_id", .str corr)]
  if secret = [] then none
  else
    match checkOauth2 env secret req.method req.path
      (headerValue req.headers (str "Authorization")) with
    | .ok => none
    | .unauthorized =>
      some
        { event := str "oauth2_denied"
          fields := fields 401
          answer := writeError (res.setHeader (str "WWW-Authenticate") (str "Bearer")) 401
            (str "UNAUTHORIZED") (str "missing or invalid bearer token") }
    | .forbidden =>
      some
        { event := str "oauth2_denied"
          fields := fields 403
          answer := writeError res 403 (str "FORBIDDEN") (str "token lacks the required scope") }

/-- `serve_static_file`, where a web root is set. -/
def staticAnswer (S : HttpServer σ) (req : Request) : Option Answer :=
  if S.webRoot = [] then none
  else
    match serveStaticFile S.files S.webRoot req {} with
    | .declined => none
    | .threw => some (.error .outOfRange)
    | .served _ res => some (.ok res)

/-- The handler that is run before any route. -/
def preRouting (S : HttpServer σ) (env : Env) (req : Request) (w : World σ) :
    World σ × HandlerResponse :=
  if req.method = str "OPTIONS" then (w, .handled (.ok (preflight S.corsAllowedOrigins req)))
  else
    match staticAnswer S req with
    | some answer => (w, .handled answer)
    | none =>
      let cors := applyCorsHeaders S.corsAllowedOrigins req {}
      let (corr, res) := correlationIdFor env req cors
      match (gatewayRefusal S.role req corr res).or
        (oauth2Refusal env S.oauth2Secret req corr res) with
      | some refusal =>
        let (w, out) := emitThen env refusal.event refusal.fields w fun w => (w, refusal.answer)
        (w, .handled (out.mapError .json))
      | none => (w, .unhandled cors)

/-! ## Routing -/

/-- A body that comes in chunks, or ends with the connection, is not measured. -/
def payloadTooLarge (req : Request) : Bool :=
  Httplib.expectContent req.method &&
    !caseIgnoreEqual (headerValue req.headers (str "Transfer-Encoding")) (str "chunked") &&
    hasHeader req.headers (str "Content-Length") && decide (payloadMaxLength < req.body.length)

/-- The methods `routing` has a table for; OPTIONS never gets there. -/
def tableMethods : List Bytes :=
  [str "GET", str "HEAD", str "POST", str "PUT", str "DELETE", str "OPTIONS", str "PATCH"]

/-- The answer with what the hook left. -/
def Response.behind (res cors : Response) : Response :=
  { res with headers := cors.headers ++ res.headers }

/-- `routing`: what the handlers make of a request. -/
def routing (S : HttpServer σ) (env : ServerEnv) (req : Request) (s : ServerState σ) :
    ServerState σ × Answer :=
  match preRouting S env.toEnv req s.world with
  | (world, .handled answer) => ({ s with world }, answer)
  | (world, .unhandled res) =>
    let s := { s with world }
    if payloadTooLarge req then (s, .ok { res with status := 413 })
    else
      match serve S.toRouter env req s with
      | some (s, out) => (s, (out.mapError .json).map (·.behind res))
      | none => (s, .ok { res with status := if req.method ∈ tableMethods then 404 else 400 })

/-- An answer that is no exception is the handler's, with the headers of the hook before it. -/
theorem outcome_of_answer {out : Outcome} {cors res : Response}
    (h : (out.mapError Failure.json).map (·.behind cors) = .ok res) :
    ∃ res', out = .ok res' ∧ res'.status = res.status ∧ res'.body = res.body := by
  cases out with
  | error ex => cases h
  | ok res' =>
    obtain rfl := Except.ok.inj h
    exact ⟨res', rfl, rfl, rfl⟩

/-! ## What a request can do -/

/-- Events were told, and nothing else happened. -/
def Told (s s' : ServerState σ) : Prop :=
  ∃ es, s' = { s with world := { s.world with events := s.world.events ++ es } }

/-- Nothing was told. -/
theorem Told.refl (s : ServerState σ) : Told s s := ⟨[], by rw [List.append_nil]⟩

/-- An event and a fixed answer: the world has no part in it. -/
theorem emitThen_answer (env : Env) (type : Bytes) (fields : List (Bytes × Json))
    (answer : Outcome) : ∃ es out, ∀ w : World σ,
      (emitThen env type fields w fun w => (w, answer)) =
        ({ w with events := w.events ++ es }, out) := by
  cases hutf : (eventDocument env type fields).utf8 with
  | true =>
    refine ⟨[eventDocument env type fields], answer, fun w => ?_⟩
    rw [emitThen, emitEvent_of_utf8 w hutf]
  | false =>
    refine ⟨[], .error .invalidUtf8, fun w => ?_⟩
    rw [emitThen, emitEvent_of_not_utf8 w hutf, List.append_nil]

/-- An answer that follows an event is the answer that was to follow. -/
theorem emitThen_answered {env : Env} {type : Bytes} {fields : List (Bytes × Json)} {w : World σ}
    {answer : Outcome} {res : Response}
    (h : (emitThen env type fields w fun w => (w, answer)).2 = .ok res) : answer = .ok res := by
  unfold emitThen at h
  split at h
  next => cases h
  next => exact h

/-- What is answered in words of the source. -/
theorem writeError_status {res res' : Response} {status : Int} {code message : Bytes}
    (h : writeError res status code message = .ok res') : res'.status = status :=
  (Response.setJson_eq_ok h).2.1

/-- The request got past the hook. -/
structure Admitted (S : HttpServer σ) (env : Env) (req : Request) : Prop where
  role : S.role = str "gateway" → gatewayRouteAllowed req.method req.path = true
  token : S.oauth2Secret ≠ [] → checkOauth2 env S.oauth2Secret req.method req.path
    (headerValue req.headers (str "Authorization")) = .ok

/-- A gateway lets through what its list allows. -/
theorem gatewayRefusal_eq_none {role : Bytes} {req : Request} {corr : Bytes} {res : Response} :
    gatewayRefusal role req corr res = none ↔
      (role = str "gateway" → gatewayRouteAllowed req.method req.path = true) := by
  rw [gatewayRefusal, Option.map_eq_none_iff, gatewayRefuses]
  cases gatewayRouteAllowed req.method req.path <;> simp

/-- With a secret, the token has to do. -/
theorem oauth2Refusal_eq_none {env : Env} {secret : Bytes} {req : Request} {corr : Bytes}
    {res : Response} : oauth2Refusal env secret req corr res = none ↔
      (secret ≠ [] → checkOauth2 env secret req.method req.path
        (headerValue req.headers (str "Authorization")) = .ok) := by
  unfold oauth2Refusal
  by_cases hsecret : secret = []
  · simp [hsecret]
  · rw [if_neg hsecret]
    split
    next hok => simp [hok]
    next hno => simp [hno, hsecret]
    next hno => simp [hno, hsecret]

/-- What is not refused is admitted. -/
theorem refusal_eq_none {S : HttpServer σ} {env : Env} {req : Request} {corr : Bytes}
    {res : Response} : (gatewayRefusal S.role req corr res).or
        (oauth2Refusal env S.oauth2Secret req corr res) = none ↔ Admitted S env req := by
  rw [Option.or_eq_none_iff, gatewayRefusal_eq_none, oauth2Refusal_eq_none]
  exact ⟨fun h => ⟨h.1, h.2⟩, fun h => ⟨h.role, h.token⟩⟩

/-- **The hook**: it answers by the request alone, having told the event sink at most, or
lets an admitted request through. -/
theorem preRouting_cases (S : HttpServer σ) (env : Env) (req : Request) :
    (∃ es answer, ∀ w, preRouting S env req w =
        ({ w with events := w.events ++ es }, .handled answer)) ∨
      (Admitted S env req ∧ ∀ w, preRouting S env req w =
        (w, .unhandled (applyCorsHeaders S.corsAllowedOrigins req {}))) := by
  by_cases hopt : req.method = str "OPTIONS"
  · exact .inl ⟨[], _, fun w => by rw [preRouting, if_pos hopt, List.append_nil]⟩
  cases hstatic : staticAnswer S req with
  | some answer =>
    exact .inl ⟨[], answer, fun w => by rw [preRouting, if_neg hopt, hstatic, List.append_nil]⟩
  | none =>
    let named := correlationIdFor env req (applyCorsHeaders S.corsAllowedOrigins req {})
    cases hrefusal : (gatewayRefusal S.role req named.1 named.2).or
      (oauth2Refusal env S.oauth2Secret req named.1 named.2) with
    | none =>
      exact .inr ⟨refusal_eq_none.mp hrefusal, fun w => by
        simp only [preRouting, if_neg hopt, hstatic, named, hrefusal]⟩
    | some refusal =>
      obtain ⟨es, out, htold⟩ :=
        emitThen_answer (σ := σ) env refusal.event refusal.fields refusal.answer
      exact .inl ⟨es, out.mapError .json, fun w => by
        simp only [preRouting, if_neg hopt, hstatic, named, hrefusal, htold w]⟩

/-- **All a request can do**: be told of, or be admitted and handled. -/
theorem routing_cases (S : HttpServer σ) (env : ServerEnv) (req : Request) (s : ServerState σ) :
    Told s (routing S env req s).1 ∨
      ∃ h captures, Admitted S env.toEnv req ∧ payloadTooLarge req = false ∧
        dispatch req.method req.path = some (h, captures) ∧
        routing S env req s =
          let out := h.run S.toRouter env req (captures.getD 0 []) (captures.getD 1 []) s
          (out.1, (out.2.mapError .json).map
            (·.behind (applyCorsHeaders S.corsAllowedOrigins req {}))) := by
  unfold routing
  rcases preRouting_cases S env.toEnv req with ⟨es, answer, hpre⟩ | ⟨hadmitted, hpre⟩
  · rw [hpre]
    exact .inl ⟨es, rfl⟩
  · rw [hpre]
    dsimp only
    by_cases hlarge : payloadTooLarge req = true
    · rw [if_pos hlarge]
      exact .inl (.refl s)
    · rw [if_neg hlarge, serve]
      cases hroute : dispatch req.method req.path with
      | none => exact .inl (.refl s)
      | some r => exact .inr ⟨r.1, r.2, hadmitted, eq_false_of_ne_true hlarge, rfl, rfl⟩

/-- A handler is reached through one of its rows. -/
theorem row_of_handler {method path : Bytes} {h : Handler} (hh : handlerFor method path = some h) :
    ∃ pattern, (pattern, h) ∈ handlersFor method ∧ isMatch pattern path = true := by
  obtain ⟨r, hr, rfl⟩ := Option.map_eq_some_iff.mp hh
  have hmatch := List.find?_some hr
  exact ⟨r.1, List.mem_of_find?_eq_some hr, hmatch⟩

/-- The rows of every method. -/
theorem mem_tables {method : Bytes} {r : Pattern × Handler} (h : r ∈ handlersFor method) :
    r ∈ getHandlers ++ postHandlers ++ putHandlers ++ deleteHandlers := by
  simp only [List.mem_append]
  unfold handlersFor at h
  split_ifs at h
  · exact .inl (.inl (.inl h))
  · exact .inl (.inl (.inr h))
  · exact .inl (.inr h)
  · exact .inr h
  · cases h

/-- The handler a request is dispatched to is the one it is for. -/
theorem dispatch_handlerFor {method path : Bytes} {h : Handler} {captures : List Bytes}
    (hroute : dispatch method path = some (h, captures)) : handlerFor method path = some h := by
  rw [← dispatch_handler, hroute]
  rfl

/-- All but the two handlers at the top are under an entity. -/
theorem underEntity_of_handler {method path : Bytes} {h : Handler}
    (hh : handlerFor method path = some h) (hroot : h ≠ .root) (hlist : h ≠ .listEntities) :
    ∃ rest, isMatch (Pattern.underEntity rest) path = true := by
  have hrows : ∀ r ∈ getHandlers ++ postHandlers ++ putHandlers ++ deleteHandlers,
      r.2 ≠ .root → r.2 ≠ .listEntities → ∃ rest, r.1 = Pattern.underEntity rest := by
    intro r hr hroot hlist
    simp only [getHandlers, postHandlers, putHandlers, deleteHandlers, List.cons_append,
      List.nil_append, List.mem_cons, List.not_mem_nil, or_false] at hr
    rcases hr with rfl | rfl | rfl | rfl | rfl | rfl | rfl | rfl | rfl | rfl | rfl | rfl | rfl |
      rfl | rfl
    · exact absurd rfl hroot
    · exact absurd rfl hlist
    all_goals exact ⟨_, rfl⟩
  obtain ⟨pattern, hmem, hmatch⟩ := row_of_handler hh
  obtain ⟨rest, hrest⟩ := hrows (pattern, h) (mem_tables hmem) hroot hlist
  obtain rfl : pattern = Pattern.underEntity rest := hrest
  exact ⟨rest, hmatch⟩

/-- An admitted request for no static file goes to its handler. -/
theorem routing_of_dispatch {S : HttpServer σ} {env : ServerEnv} {req : Request} {h : Handler}
    {captures : List Bytes} (hadmitted : Admitted S env.toEnv req)
    (hstatic : staticAnswer S req = none) (hsmall : payloadTooLarge req = false)
    (hroute : dispatch req.method req.path = some (h, captures)) (s : ServerState σ) :
    routing S env req s =
      let out := h.run S.toRouter env req (captures.getD 0 []) (captures.getD 1 []) s
      (out.1, (out.2.mapError .json).map
        (·.behind (applyCorsHeaders S.corsAllowedOrigins req {}))) := by
  have hopt : req.method ≠ str "OPTIONS" := by
    intro hopt
    rw [hopt] at hroute
    cases hroute
  have hpre : preRouting S env.toEnv req s.world =
      (s.world, .unhandled (applyCorsHeaders S.corsAllowedOrigins req {})) := by
    rw [preRouting, if_neg hopt, hstatic]
    dsimp only
    rw [refusal_eq_none.mpr hadmitted]
  rw [routing, hpre]
  dsimp only
  rw [hsmall, if_neg Bool.false_ne_true, serve, hroute]
  rfl

/-- What is under an entity is no file of the web UI. -/
theorem staticAnswer_of_underEntity {S : HttpServer σ} {req : Request} {rest : Pattern}
    (h : isMatch (Pattern.underEntity rest) req.path = true) : staticAnswer S req = none := by
  have hpath : staticPath req = none := by
    obtain ⟨cs, hm⟩ := isMatch_iff.mp h
    obtain ⟨tail, htail⟩ := hm.prefix
    have hroot : req.path ≠ str "/" := by
      intro hroot
      have hlen := congrArg List.length (htail.trans hroot)
      rw [List.length_append] at hlen
      have hv1 : (str "/v1/entities/").length = 13 ∧ (str "/").length = 1 := by decide
      omega
    have hv1 : str "/v1" <+: req.path ∧ (req.path.length = 3 ∨ req.path[3]? = some 47) := by
      rw [← htail]
      exact ⟨⟨str "/entities/" ++ tail, rfl⟩, .inr rfl⟩
    unfold staticPath
    dsimp only
    by_cases hget : req.method = str "GET"
    · rw [if_neg (not_not.mpr hget), if_neg fun h => hroot h.1, if_pos hv1]
    · rw [if_pos hget]
  rw [staticAnswer, serveStaticFile, hpath]
  split_ifs <;> rfl

/-- What the hook answers to what it refuses. -/
theorem refusal_status {S : HttpServer σ} {env : Env} {req : Request} {corr : Bytes}
    {res res' : Response} {refusal : Refusal}
    (h : (gatewayRefusal S.role req corr res).or
      (oauth2Refusal env S.oauth2Secret req corr res) = some refusal)
    (hanswer : refusal.answer = .ok res') : res'.status ∈ [401, 403] := by
  rcases Option.or_eq_some_iff.mp h with hgateway | ⟨-, hoauth2⟩
  · obtain ⟨answer, hrefuses, rfl⟩ := Option.map_eq_some_iff.mp hgateway
    unfold gatewayRefuses at hrefuses
    split_ifs at hrefuses
    obtain rfl := Option.some.inj hrefuses
    dsimp only at hanswer
    rw [writeError_status hanswer]
    decide
  · unfold oauth2Refusal at hoauth2
    dsimp only at hoauth2
    split_ifs at hoauth2
    split at hoauth2
    next => cases hoauth2
    next =>
      obtain rfl := Option.some.inj hoauth2
      dsimp only at hanswer
      rw [writeError_status hanswer]
      decide
    next =>
      obtain rfl := Option.some.inj hoauth2
      dsimp only at hanswer
      rw [writeError_status hanswer]
      decide

/-- A request for an entity is turned away on its way, or goes to its handler. -/
theorem routing_of_underEntity (S : HttpServer σ) (env : ServerEnv) {req : Request} {h : Handler}
    {captures : List Bytes} {rest : Pattern}
    (hmatch : isMatch (Pattern.underEntity rest) req.path = true)
    (hroute : dispatch req.method req.path = some (h, captures)) (s : ServerState σ) :
    (Told s (routing S env req s).1 ∧
      ∀ res, (routing S env req s).2 = .ok res → res.status ∈ [401, 403, 413]) ∨
    (Admitted S env.toEnv req ∧ routing S env req s =
      let out := h.run S.toRouter env req (captures.getD 0 []) (captures.getD 1 []) s
      (out.1, (out.2.mapError .json).map
        (·.behind (applyCorsHeaders S.corsAllowedOrigins req {})))) := by
  have hstatic : staticAnswer S req = none := staticAnswer_of_underEntity hmatch
  have hopt : req.method ≠ str "OPTIONS" := by
    intro hopt
    rw [hopt] at hroute
    cases hroute
  let named := correlationIdFor env.toEnv req (applyCorsHeaders S.corsAllowedOrigins req {})
  -- the gateway refuses first, then the token check
  cases hrefusal : (gatewayRefusal S.role req named.1 named.2).or
    (oauth2Refusal env.toEnv S.oauth2Secret req named.1 named.2) with
  | some refusal =>
    obtain ⟨es, out, htold⟩ :=
      emitThen_answer (σ := σ) env.toEnv refusal.event refusal.fields refusal.answer
    have hrouting : routing S env req s =
        ({ s with world := { s.world with events := s.world.events ++ es } },
          out.mapError .json) := by
      simp only [routing, preRouting, if_neg hopt, hstatic, named, hrefusal, htold]
    rw [hrouting]
    refine .inl ⟨⟨es, rfl⟩, fun res hres => ?_⟩
    cases out with
    | error ex => cases hres
    | ok res' =>
      obtain rfl := Except.ok.inj hres
      have hanswer : (emitThen env.toEnv refusal.event refusal.fields s.world
          fun w => (w, refusal.answer)).2 = .ok res' := by rw [htold]
      have hstatus := refusal_status hrefusal (emitThen_answered hanswer)
      simp only [List.mem_cons, List.not_mem_nil, or_false] at hstatus ⊢
      exact hstatus.elim .inl fun h => .inr (.inl h)
  | none =>
    have hadmitted := refusal_eq_none.mp hrefusal
    cases hsmall : payloadTooLarge req with
    | false => exact .inr ⟨hadmitted, routing_of_dispatch hadmitted hstatic hsmall hroute s⟩
    -- what is too large gets to no handler
    | true =>
      have hrouting : routing S env req s =
          (s, .ok { applyCorsHeaders S.corsAllowedOrigins req {} with status := 413 }) := by
        simp only [routing, preRouting, if_neg hopt, hstatic, named, hrefusal, hsmall, if_true]
      rw [hrouting]
      refine .inl ⟨.refl s, fun res hres => ?_⟩
      obtain rfl := Except.ok.inj hres
      exact (by decide : (413 : Int) ∈ [401, 403, 413])

/-- Of a GET no body is read. -/
theorem payloadTooLarge_of_get {req : Request}
    (h : req.method = str "GET" ∨ req.method = str "HEAD") : payloadTooLarge req = false := by
  have hcontent : Httplib.expectContent req.method = false := by
    rcases h with hget | hhead
    · rw [hget]
      decide
    · rw [hhead]
      decide
  simp [payloadTooLarge, hcontent]

/-- The status that is sent of an answer to a request without a `Range` header; what becomes of
it with one is said by `sendAnswer`. -/
def answerStatus : Answer → Int
  | .error _ => 500
  | .ok res => if res.status = -1 then 200 else res.status

/-! ## Runs of the server -/

/-- A request with its answer, or what other threads do meanwhile. -/
inductive HttpEvent (σ : Type)
  | request (env : ServerEnv) (req : Request) (answer : Answer)
  /-- The threads of adapters and streams. -/
  | background (adapter : σ) (hub : HubSys)

/-- The server, from a start without tickets and streams. -/
def httpLts (S : HttpServer σ) : Lts (ServerState σ) (HttpEvent σ) where
  init s := s.tickets = {} ∧ s.hub = {}
  step s e s' :=
    match e with
    | .request env req answer => routing S env req s = (s', answer)
    | .background adapter hub => s' = { s with world := { s.world with adapter }, hub }

/-- A request is answered in every state. -/
theorem request_step (S : HttpServer σ) (env : ServerEnv) (req : Request) (s : ServerState σ) :
    (httpLts S).step s (.request env req (routing S env req s).2) (routing S env req s).1 :=
  rfl

end Sovd
