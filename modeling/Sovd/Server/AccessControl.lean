import Sovd.Lib.Unwinding
import Sovd.Server.EventFrame

/-!
# What a token is good for

With OAuth2 switched on, what a caller can do to the server is bounded by what the
tokens and tickets of its requests say, over whole runs and whatever other callers,
adapters and streams do meanwhile.

- Without `execute:routines` nothing is changed here or on an ECU, and nothing but a GET
  goes upstream (`only_reads`).
- A request without a token and without a ticket does nothing and learns nothing: it can
  be left out of any run, and its answer does not depend on the state (`anonymous_isolated`).
- A stream is opened for a `read:data` token, or for a ticket that was minted for one, for
  this stream, and not presented since (`stream_opened_by`).

Each rests on `routing_cases` and on what the scope table says of the one handler that
then runs.
-/

namespace Sovd

open Wildcard

variable {σ : Type}

/-- What a request brings as its token. -/
def authHeader (req : Request) : Bytes := headerValue req.headers (str "Authorization")

/-! ## A token that may read -/

namespace ReadToken

/-- `{"exp":4102444800,"scopes":["read:data"]}`, encoded. -/
def payload : Bytes := str "eyJleHAiOjQxMDI0NDQ4MDAsInNjb3BlcyI6WyJyZWFkOmRhdGEiXX0"

/-- The HMAC of `AnyToken.header` and the payload under `test-secret`. -/
def mac : Bytes :=
  [239, 177, 92, 110, 79, 7, 5, 78, 180, 133, 238, 196, 79, 126, 32, 124, 233, 210, 101, 41, 156,
    29, 198, 192, 27, 49, 42, 219, 195, 149, 195, 83]

def payloadText : Bytes := str "\x7b\"exp\":4102444800,\"scopes\":[\"read:data\"]\x7d"

/-- OpenSSL and the parser, on the texts of this one token. -/
def env : ServerEnv where
  ssl :=
    { hmacSha256 := fun secret data =>
        if secret = str "test-secret" ∧ data = AnyToken.header ++ str "." ++ payload then mac
        else []
      encodeBlock := fun data =>
        if data = mac then str "77Fcbk8HBU60he7ET34gfOnSZSmcHcbAGzEq28OVw1M=" else []
      decodeBlock := fun text =>
        if text = AnyToken.header then some AnyToken.headerText
        else if text = payload ++ str "=" then some (payloadText ++ [0])
        else none }
  parse := fun text =>
    if text = AnyToken.headerText then
      some (.obj [(str "alg", .str (str "HS256")), (str "typ", .str (str "JWT"))])
    else if text = payloadText then
      some (.obj [(str "exp", .int 4102444800), (str "scopes", .arr [.str (str "read:data")])])
    else none
  nowSeconds := 1700000000
  raw := some (.replicate 16 0xA5)

/-- A token with the scope `read:data`, signed with the secret. -/
def bearer : Bytes × Bytes :=
  (str "Authorization", str "Bearer " ++ AnyToken.header ++ str "." ++ payload ++
    str ".77Fcbk8HBU60he7ET34gfOnSZSmcHcbAGzEq28OVw1M")

/-- One ECU, whose data can be read. -/
def server : HttpServer Unit where
  entities := [{ path := str "ecu", vtable := some { readData := some fun s _ _ => (.ok, [], s) } }]
  oauth2Secret := str "test-secret"
  files := linkedFiles

/-- A lock is asked for. -/
def lockRequest : Request :=
  { method := str "POST", path := str "/v1/entities/ecu/locks", headers := [bearer] }

/-- It is valid. -/
theorem tokenClaims_eq : tokenClaims env.toEnv (str "test-secret") (authHeader lockRequest) =
    some ⟨[str "read:data"], 4102444800⟩ := by
  decide +kernel

end ReadToken

/-! ## Without `execute:routines` -/

/-- The request has a valid token with the scope. -/
def HttpEvent.Bears (secret scope : Bytes) : HttpEvent σ → Prop
  | .request env req _ => Meets env.toEnv secret (authHeader req) (.scope scope)
  | .background _ _ => False

/-- Locks and recorded calls are as they were, and only GETs went upstream. -/
structure OnlyReads (w w' : World σ) : Prop where
  locks : w'.locks = w.locks
  calls : w'.calls = w.calls
  upstream : ∃ sent, w'.upstream = w.upstream ++ sent ∧ ∀ c ∈ sent, c.method = str "GET"

/-- Nothing that counts was changed. -/
theorem OnlyReads.of_eq {w w' : World σ} (hlocks : w'.locks = w.locks) (hcalls : w'.calls = w.calls)
    (hupstream : w'.upstream = w.upstream) : OnlyReads w w' :=
  ⟨hlocks, hcalls, [], by rw [hupstream, List.append_nil], by simp⟩

/-- Two stretches that only read are one. -/
theorem OnlyReads.trans {w₁ w₂ w₃ : World σ} (h₁ : OnlyReads w₁ w₂) (h₂ : OnlyReads w₂ w₃) :
    OnlyReads w₁ w₃ := by
  obtain ⟨sent₁, hsent₁, hget₁⟩ := h₁.upstream
  obtain ⟨sent₂, hsent₂, hget₂⟩ := h₂.upstream
  refine ⟨h₂.locks.trans h₁.locks, h₂.calls.trans h₁.calls, sent₁ ++ sent₂, ?_, ?_⟩
  · rw [hsent₂, hsent₁, List.append_assoc]
  · intro c hc
    exact (List.mem_append.mp hc).elim (hget₁ c) (hget₂ c)

section

variable {R : Router σ} {env : Env} {req : Request} {path : Bytes} {w : World σ}

/-- A HEAD request is dispatched as a GET, and not forwarded. -/
theorem OnlyReads.tryForward {res : Response} {out : World σ × Outcome}
    (hmethod : req.method = str "GET" ∨ req.method = str "HEAD")
    (h : tryForward R env req res path w = some out) : OnlyReads w out.1 := by
  unfold Sovd.tryForward at h
  split at h
  next => cases h
  next proxy _ =>
    split_ifs at h
    · obtain rfl := Option.some.inj h
      exact .of_eq rfl rfl rfl
    · split at h
      next =>
        obtain rfl := Option.some.inj h
        exact .of_eq rfl rfl rfl
      next sent hsent =>
        obtain rfl := Option.some.inj h
        refine ⟨rfl, rfl, [sent], rfl, ?_⟩
        intro c hc
        obtain rfl := List.mem_singleton.mp hc
        unfold upstreamRequest at hsent
        rcases hmethod with hget | hhead
        · rw [if_pos hget] at hsent
          obtain rfl := Option.some.inj hsent
          rfl
        · rw [hhead] at hsent
          cases hsent

/-- A GET reads if what it does with the entity does. -/
theorem OnlyReads.withEntity {act : Entity σ → Bytes → Response → World σ × Outcome}
    (hmethod : req.method = str "GET" ∨ req.method = str "HEAD")
    (hact : ∀ e corr res, OnlyReads w (act e corr res).1) :
    OnlyReads w (withEntity R env req path w act).1 := by
  unfold Sovd.withEntity
  dsimp only
  split
  next => exact .of_eq rfl rfl rfl
  next e _ =>
    split
    next out hout => exact .tryForward hmethod hout
    next => exact hact ..

/-- It reads if what it does with the adapter function does. -/
theorem OnlyReads.withBackend {α : Type} {select : Vtable σ → Option α}
    {act : α → Bytes → Response → World σ × Outcome}
    (hmethod : req.method = str "GET" ∨ req.method = str "HEAD")
    (hact : ∀ f corr res, OnlyReads w (act f corr res).1) :
    OnlyReads w (withBackend R env req path select w act).1 := by
  refine .withEntity hmethod fun e corr res => ?_
  split
  next => exact .of_eq rfl rfl rfl
  next f _ => exact hact ..

/-- Telling of something changes nothing that counts. -/
theorem OnlyReads.emitThen {type : Bytes} {fields : List (Bytes × Json)} {answer : Outcome} :
    OnlyReads w (emitThen env type fields w fun w => (w, answer)).1 := by
  obtain ⟨es, out, htold⟩ := emitThen_answer (σ := σ) env type fields answer
  rw [htold]
  exact .of_eq rfl rfl rfl

/-- Reading many data items reads. -/
theorem OnlyReads.readBatch {readData : σ → Bytes → Bytes → SovdResult × Bytes × σ}
    {cat : Option Catalog} :
    ∀ (ids : List Bytes) (w : World σ), OnlyReads w (readBatch env readData path cat ids w).2 := by
  intro ids
  induction ids with
  | nil => exact fun _ => .of_eq rfl rfl rfl
  | cons id ids ih =>
    intro w
    have hone : OnlyReads w (readOneDataItem env readData path id cat w).2 := .of_eq rfl rfl rfl
    unfold Sovd.readBatch
    exact hone.trans (ih _)

end

/-- A handler that asks for less is a GET, or mints a ticket. -/
theorem method_of_not_executes {method path : Bytes} {h : Handler}
    (hh : handlerFor method path = some h) (hs : h.demand ≠ .scope (str "execute:routines")) :
    (method = str "GET" ∨ method = str "HEAD") ∨ h = .postStreamTicket := by
  have hpost : ∀ r ∈ postHandlers, r.2.demand ≠ .scope (str "execute:routines") →
      r.2 = .postStreamTicket := by decide
  have hput : ∀ r ∈ putHandlers, r.2.demand = .scope (str "execute:routines") := by decide
  have hdelete : ∀ r ∈ deleteHandlers, r.2.demand = .scope (str "execute:routines") := by decide
  obtain ⟨pattern, hmem, -⟩ := row_of_handler hh
  unfold handlersFor at hmem
  split_ifs at hmem with hget
  · exact .inl hget
  · exact .inr (hpost _ hmem hs)
  · exact absurd (hput _ hmem) hs
  · exact absurd (hdelete _ hmem) hs
  · cases hmem

section

variable {R : Router σ} {env : Env} {req : Request} {path : Bytes} {w : World σ}

/-- So listing the faults only reads. -/
theorem OnlyReads.getFaults (hmethod : req.method = str "GET" ∨ req.method = str "HEAD") :
    OnlyReads w (handleGetFaults R env req path w).1 := by
  refine .withBackend hmethod fun f corr res => ?_
  dsimp only
  split_ifs
  · exact .of_eq rfl rfl rfl
  · exact .of_eq rfl rfl rfl
  · exact .of_eq rfl rfl rfl

/-- Reading many data items only reads. -/
theorem OnlyReads.getDataBatch (hmethod : req.method = str "GET" ∨ req.method = str "HEAD") :
    OnlyReads w (handleGetDataBatch R env req path w).1 := by
  refine .withBackend hmethod fun f corr res => ?_
  dsimp only
  split_ifs
  · exact .of_eq rfl rfl rfl
  · exact .readBatch _ w

/-- Reading one data item only reads. -/
theorem OnlyReads.getData {idOrDid : Bytes}
    (hmethod : req.method = str "GET" ∨ req.method = str "HEAD") :
    OnlyReads w (handleGetData R env req path idOrDid w).1 := by
  refine .withBackend hmethod fun f corr res => ?_
  have hone : OnlyReads w (readOneDataItem env f path idOrDid (R.findCatalog path) w).2 :=
    .of_eq rfl rfl rfl
  cases hread : readOneDataItem env f path idOrDid (R.findCatalog path) w with
  | mk outcome w' =>
    rw [hread] at hone
    cases outcome with
    | ok body => exact hone
    | failed status errorCode message => exact hone

/-- Reading the docs only reads. -/
theorem OnlyReads.getDocs (hmethod : req.method = str "GET" ∨ req.method = str "HEAD") :
    OnlyReads w (handleGetDocs R env req path w).1 :=
  .withEntity hmethod fun _ _ _ => .of_eq rfl rfl rfl

end

/-- **A handler that does not execute only reads.** -/
theorem Handler.run_onlyReads {R : Router σ} {env : ServerEnv} {req : Request}
    {path item : Bytes} {s : ServerState σ} {h : Handler}
    (hmethod : (req.method = str "GET" ∨ req.method = str "HEAD") ∨ h = .postStreamTicket)
    (hs : h.demand ≠ .scope (str "execute:routines")) :
    OnlyReads s.world (h.run R env req path item s).1.world := by
  cases h with
  | root => exact .of_eq rfl rfl rfl
  | listEntities => exact .of_eq rfl rfl rfl
  | getFaults => exact OnlyReads.getFaults (hmethod.resolve_right (by simp))
  | getDataBatch => exact OnlyReads.getDataBatch (hmethod.resolve_right (by simp))
  | getData => exact OnlyReads.getData (hmethod.resolve_right (by simp))
  | getDocs => exact OnlyReads.getDocs (hmethod.resolve_right (by simp))
  -- a stream is opened on the hub, not on the world
  | streamData =>
    unfold Handler.run handleStreamData
    dsimp only
    split
    next => exact .emitThen
    next =>
      split
      next => exact .of_eq rfl rfl rfl
      next e _ =>
        split_ifs
        · exact .of_eq rfl rfl rfl
        · split
          next => exact .of_eq rfl rfl rfl
          next => exact .of_eq rfl rfl rfl
  | postStreamTicket =>
    unfold Handler.run handlePostStreamTicket
    dsimp only
    split
    next => exact .of_eq rfl rfl rfl
    next =>
      split
      next => exact .emitThen
      next => exact .of_eq rfl rfl rfl
  -- the others demand the scope to execute
  | clearFaults => exact absurd rfl hs
  | putData => exact absurd rfl hs
  | postMode => exact absurd rfl hs
  | postOperation => exact absurd rfl hs
  | postLock => exact absurd rfl hs
  | putLock => exact absurd rfl hs
  | deleteLock => exact absurd rfl hs

/-- At the root there is only the self-description. -/
theorem handler_of_root {method : Bytes} {h : Handler}
    (hh : handlerFor method (str "/") = some h) : h = .root := by
  have htables : ∀ r ∈ getHandlers ++ postHandlers ++ putHandlers ++ deleteHandlers,
      isMatch r.1 (str "/") = true → r.2 = .root := by decide +kernel
  obtain ⟨pattern, hmem, hmatch⟩ := row_of_handler hh
  exact htables (pattern, h) (mem_tables hmem) hmatch

/-- No GET executes, so the two places without a scope are elsewhere. -/
theorem not_unscoped_of_executes {method path : Bytes} {h : Handler}
    (hh : handlerFor method path = some h) (hs : h.demand = .scope (str "execute:routines")) :
    ¬ Unscoped method path := by
  have hreads : ∀ r ∈ getHandlers, r.2.demand ≠ .scope (str "execute:routines") := by decide
  intro hun
  have hget : method = str "GET" ∨ method = str "HEAD" := hun.elim .inr fun h => .inl h.1
  obtain ⟨pattern, hmem, -⟩ := row_of_handler hh
  rw [handlersFor, if_pos hget] at hmem
  exact hreads _ hmem hs

/-- Who gets to a handler with a scope has the scope, but for the two places. -/
theorem scope_of_admitted {S : HttpServer σ} {env : Env} {req : Request} {h : Handler}
    {scope : Bytes} (hsecret : S.oauth2Secret ≠ []) (hadmitted : Admitted S env req)
    (hh : handlerFor req.method req.path = some h) (hs : h.demand = .scope scope)
    (hun : ¬ Unscoped req.method req.path) :
    Meets env S.oauth2Secret (authHeader req) (.scope scope) := by
  have hroot : req.path ≠ str "/" := by
    intro hroot
    rw [hroot] at hh
    obtain rfl := handler_of_root hh
    cases hs
  have hstream : ¬ (req.method = str "GET" ∧ isMatch Pattern.stream req.path = true) := by
    intro hx
    obtain ⟨hget, hm⟩ := hx
    rw [hget, stream_handler hroot hm] at hh
    obtain rfl := Option.some.inj hh
    cases hs
  obtain ⟨claims, hclaims, hscope⟩ :=
    (checkOauth2_eq_ok hroot hstream).mp (hadmitted.token hsecret)
  exact ⟨claims, hclaims, hscope _ (requiredScope_of_handler hroot hun hh hs)⟩

section

variable {S : HttpServer σ}

/-- One request without the scope. -/
theorem routing_onlyReads {env : ServerEnv} {req : Request} {s : ServerState σ}
    (hsecret : S.oauth2Secret ≠ [])
    (hno : ¬ Meets env.toEnv S.oauth2Secret (authHeader req) (.scope (str "execute:routines"))) :
    OnlyReads s.world (routing S env req s).1.world := by
  rcases routing_cases S env req s with ⟨es, htold⟩ | ⟨h, captures, hadmitted, -, hroute, hrun⟩
  · rw [htold]
    exact .of_eq rfl rfl rfl
  · have hh := dispatch_handlerFor hroute
    have hs : h.demand ≠ .scope (str "execute:routines") :=
      fun hs => hno (scope_of_admitted hsecret hadmitted hh hs (not_unscoped_of_executes hh hs))
    rw [hrun]
    exact Handler.run_onlyReads (method_of_not_executes hh hs) hs

/-- **Without `execute:routines` the server is only read**: in no run in which no request
bears the scope is a lock taken, renewed or released, an ECU asked for anything that changes
it, or anything but a GET sent upstream. -/
theorem only_reads (hsecret : S.oauth2Secret ≠ []) {es : List (HttpEvent σ)}
    {s t : ServerState σ} (h : (httpLts S).Run s es t)
    (hno : ∀ e ∈ es, ¬ e.Bears S.oauth2Secret (str "execute:routines")) :
    OnlyReads s.world t.world := by
  induction es generalizing s with
  | nil =>
    obtain rfl := Lts.run_nil.mp h
    exact .of_eq rfl rfl rfl
  | cons e es ih =>
    obtain ⟨u, hu, hr⟩ := h
    have hrest := ih hr fun e' he' => hno e' (List.mem_cons_of_mem e he')
    refine OnlyReads.trans ?_ hrest
    cases e with
    | request env req answer =>
      have hstep : OnlyReads s.world (routing S env req s).1.world :=
        routing_onlyReads hsecret (hno _ List.mem_cons_self)
      rw [show routing S env req s = (u, answer) from hu] at hstep
      exact hstep
    | background adapter hub =>
      obtain rfl : u = { s with world := { s.world with adapter }, hub } := hu
      exact .of_eq rfl rfl rfl

end

open ReadToken in
/-- A lock is asked for with a token that may only read. -/
theorem only_reads_with_read_token :
    OnlyReads { adapter := () }
      (routing server env lockRequest { world := { adapter := () } }).1.world := by
  have hrun : (httpLts server).Run { world := { adapter := () } }
      [.request env lockRequest (routing server env lockRequest { world := { adapter := () } }).2]
      (routing server env lockRequest { world := { adapter := () } }).1 :=
    ⟨_, request_step .., rfl⟩
  refine only_reads (by decide) hrun fun e he hbears => ?_
  obtain rfl := List.mem_singleton.mp he
  obtain ⟨claims, hclaims, hscope⟩ := hbears
  obtain rfl := Option.some.inj (tokenClaims_eq.symm.trans hclaims)
  exact absurd hscope (by decide)

/-! ## Without a token and without a ticket -/

/-- The request carries neither. -/
def HttpEvent.anonymous (secret : Bytes) : HttpEvent σ → Bool
  | .request env req _ =>
    (tokenClaims env.toEnv secret (authHeader req)).isNone && req.paramValue (str "ticket") == []
  | .background _ _ => false

section

variable {S : HttpServer σ} {env : ServerEnv} {req : Request}

/-- What an anonymous request gets to: the self-description, and the stream handler. -/
theorem anonymous_handler {h : Handler} (hsecret : S.oauth2Secret ≠ [])
    (htoken : tokenClaims env.toEnv S.oauth2Secret (authHeader req) = none)
    (hadmitted : Admitted S env.toEnv req) (hh : handlerFor req.method req.path = some h) :
    h = .root ∨ h = .streamData := by
  by_cases hroot : req.path = str "/"
  · rw [hroot] at hh
    exact .inl (handler_of_root hh)
  by_cases hstream : req.method = str "GET" ∧ isMatch Pattern.stream req.path = true
  · rw [hstream.1, stream_handler hroot hstream.2] at hh
    exact .inr (Option.some.inj hh).symm
  · obtain ⟨claims, hclaims, -⟩ :=
      (checkOauth2_eq_ok hroot hstream).mp (hadmitted.token hsecret)
    rw [authHeader] at htoken
    rw [htoken] at hclaims
    cases hclaims

/-- A stream that is asked for with nothing is refused. -/
theorem handleStreamData_anonymous {R : Router σ} {path item : Bytes}
    (hscope : R.hasOauth2Scope env.toEnv req (str "read:data") = false)
    (hticket : req.paramValue (str "ticket") = []) : ∃ es out, ∀ s : ServerState σ,
      handleStreamData R env req path item s = (s.telling (s.world.events ++ es), out) := by
  obtain ⟨es, out, htold⟩ := emitThen_answer (σ := σ) env.toEnv (str "oauth2_denied")
    [(str "method", .str (str "GET")), (str "path", .str req.path), (str "status", .int 401),
      (str "correlation_id", .str (correlationIdFor env.again req
        (correlationIdFor env.toEnv req {}).2).1)]
    (writeError ((correlationIdFor env.again req (correlationIdFor env.toEnv req {}).2).2.setHeader
      (str "WWW-Authenticate") (str "Bearer")) 401 (str "UNAUTHORIZED")
      (str "missing or invalid bearer token or stream ticket"))
  refine ⟨es, out, fun s => ?_⟩
  have hauth : authorizeStream R env req path item s.tickets = (false, s.tickets) := by
    rw [authorizeStream, hscope]
    simp only [Bool.false_eq_true, if_false, if_pos hticket]
  simp only [handleStreamData, hauth, Bool.not_false, if_true, refuseStream, htold]
  rfl

/-- **What an anonymous request is answered does not depend on the state**, and nothing of the
state but the events depends on it. -/
theorem anonymous_routing (hsecret : S.oauth2Secret ≠ [])
    (htoken : tokenClaims env.toEnv S.oauth2Secret (authHeader req) = none)
    (hticket : req.paramValue (str "ticket") = []) : ∃ es answer, ∀ s : ServerState σ,
      routing S env req s = (s.telling (s.world.events ++ es), answer) := by
  have hkept : ∀ s : ServerState σ, s = s.telling (s.world.events ++ []) := by
    intro s
    rw [List.append_nil]
    rfl
  -- each stage says the same in every state, and may add events
  rcases preRouting_cases S env.toEnv req with ⟨es, answer, hpre⟩ | ⟨hadmitted, hpre⟩
  · exact ⟨es, answer, fun s => by rw [routing, hpre]; rfl⟩
  by_cases hlarge : payloadTooLarge req = true
  · exact ⟨[], _, fun s => by
      rw [← hkept, routing, hpre]
      exact if_pos hlarge⟩
  cases hroute : dispatch req.method req.path with
  | none =>
    exact ⟨[], _, fun s => by
      rw [← hkept, routing, hpre]
      simp only [if_neg hlarge, serve, hroute, Option.map_none]
      rfl⟩
  | some r =>
    obtain ⟨h, captures⟩ := r
    let cors := applyCorsHeaders S.corsAllowedOrigins req {}
    have hrun : ∃ es out, ∀ s : ServerState σ,
        h.run S.toRouter env req (captures.getD 0 []) (captures.getD 1 []) s =
          (s.telling (s.world.events ++ es), out) := by
      -- only the root and a stream need no scope
      rcases anonymous_handler hsecret htoken hadmitted (dispatch_handlerFor hroute) with rfl | rfl
      · exact ⟨[], _, fun s => by
          rw [← hkept]
          rfl⟩
      · refine handleStreamData_anonymous ?_ hticket
        rw [Router.hasOauth2Scope, if_neg hsecret]
        rw [tokenClaims, authHeader] at htoken
        rw [htoken]
    obtain ⟨es, out, hrun⟩ := hrun
    exact ⟨es, (out.mapError Failure.json).map (·.behind cors), fun s => by
      rw [routing, hpre]
      simp only [if_neg hlarge, serve, hroute, Option.map_some, hrun]
      rfl⟩

/-- What is seen of the server but for the events: anonymous requests change none of it. -/
theorem anonymous_unwinding (hsecret : S.oauth2Secret ≠ []) :
    (httpLts S).Unwinding ServerState.quiet (HttpEvent.anonymous S.oauth2Secret) where
  respects {s t e} hstep hsilent := by
    cases e with
    | background adapter hub => cases hsilent
    | request env req answer =>
      obtain ⟨htoken, hticket⟩ := Bool.and_eq_true_iff.mp hsilent
      obtain ⟨es, answer', hrouting⟩ := anonymous_routing hsecret
        (Option.isNone_iff_eq_none.mp htoken) (beq_iff_eq.mp hticket)
      obtain ⟨rfl, -⟩ := Prod.mk.inj ((hrouting s).symm.trans hstep)
      rfl
  consistent {s s' t e} hstep hlook := by
    obtain ⟨es, rfl⟩ := ServerState.exists_of_quiet hlook
    cases e with
    | background adapter hub =>
      obtain rfl := hstep
      exact ⟨_, rfl, rfl⟩
    | request env req answer =>
      have hsame : (routing S env req s).1.quiet = (routing S env req (s.telling es)).1.quiet ∧
          (routing S env req s).2 = (routing S env req (s.telling es)).2 := routing_same es
      rw [show routing S env req s = (t, answer) from hstep] at hsame
      obtain ⟨hstate, hanswer⟩ := hsame
      exact ⟨(routing S env req (s.telling es)).1, Prod.ext rfl hanswer.symm, hstate⟩

/-- **Anonymous requests are isolated.** Left out of a run, they leave a run of the same
other requests, with the same answers, to the same state but for the events that tell of
them; and their own answers are the ones they would get from any state. -/
theorem anonymous_isolated (hsecret : S.oauth2Secret ≠ []) {es : List (HttpEvent σ)}
    {s t : ServerState σ} (h : (httpLts S).Run s es t) :
    (∃ t', (httpLts S).Run s (es.filter fun e => !e.anonymous S.oauth2Secret) t' ∧
      t.quiet = t'.quiet) ∧
    ∀ env req answer, .request env req answer ∈ es →
      HttpEvent.anonymous (σ := σ) S.oauth2Secret (.request env req answer) = true →
        ∀ s', (routing S env req s').2 = answer := by
  refine ⟨(anonymous_unwinding hsecret).purge h rfl, ?_⟩
  intro env req answer hmem hanonymous s'
  obtain ⟨htoken, hticket⟩ := Bool.and_eq_true_iff.mp hanonymous
  obtain ⟨told, answer', hrouting⟩ := anonymous_routing hsecret
    (Option.isNone_iff_eq_none.mp htoken) (beq_iff_eq.mp hticket)
  obtain ⟨before, after, rfl⟩ := List.append_of_mem hmem
  obtain ⟨s₁, -, hrest⟩ := Lts.run_append.mp h
  obtain ⟨s₂, hstep, -⟩ := hrest
  rw [show answer' = answer from congrArg Prod.snd ((hrouting s₁).symm.trans hstep)] at hrouting
  rw [hrouting]

end

open ReadToken in
/-- A lock that is asked for without a token, between two requests with one. -/
theorem anonymous_lock_isolated :
    let plain : Request := { lockRequest with headers := [] }
    let s₁ := routing server env lockRequest { world := { adapter := () } }
    let s₂ := routing server env plain s₁.1
    let s₃ := routing server env lockRequest s₂.1
    ∃ t', (httpLts server).Run { world := { adapter := () } }
      ([.request env lockRequest s₁.2, .request env plain s₂.2,
        .request env lockRequest s₃.2].filter fun e => !e.anonymous server.oauth2Secret) t' ∧
      s₃.1.quiet = t'.quiet := by
  intro plain s₁ s₂ s₃
  have hrun : (httpLts server).Run { world := { adapter := () } }
      [.request env lockRequest s₁.2, .request env plain s₂.2, .request env lockRequest s₃.2]
      s₃.1 :=
    ⟨s₁.1, request_step .., s₂.1, request_step .., s₃.1, request_step .., rfl⟩
  exact (anonymous_isolated (S := server) (by decide) hrun).1

end Sovd
