import Sovd.Lib.Unwinding
import Sovd.Server.Proxy
import Sovd.Server.Ranges
import Sovd.Server.RequestTrail

/-!
# A gateway and the servers behind it

A gateway passes on what is asked of its proxied entities, each to the server that has the
entity. The whole is a gateway, servers, and the wires between them, over which a request or
its answer may get lost. `two_tier` says that every server behind the gateway makes a run of
its own: the requests it answers are those of its own clients and those the gateway sent it,
each once, in the order in which they came in, and what a client of the gateway is answered
is what the server answered. Whatever holds of every run of a server so holds of it behind a
gateway.

Which requests the gateway sends, and to whom, is decided by the request alone
(`PassesOn`), and what the server makes of it is what was meant where `Forwardable` says so.

Mirroring notes vs the C++:
- A request on the wire is that of `Httplib`, with the length of its body; an answer is its
  status, the headers that were set and the body. The client reads the headers of an answer as
  the server reads those of a request, and fails where it cannot.
- The connection is a plain one. (Over TLS, the library sends a request a second time if the
  server hung up without an answer.)
- A request in flight holds the connection of its entity, so that the server has answered, or
  was given up, before the next is sent; `proxyBusy` is free.
- The body of a stream stays empty.
-/

namespace Sovd

open Wildcard

variable {σ τ : Type}

/-! ## Over the wire -/

namespace Httplib

/-- The length of a body is a header of its request. -/
def framed (wire : Wire) (req : Request) : Request :=
  if wire.body = [] then req
  else { req with headers := req.headers ++ [(str "Content-Length", decimal wire.body.length)] }

/-- The request a server reads, with its body framed as the client sent it. -/
def received (wire : Wire) : Option Request := (receive wire).map (framed wire)

/-- All but the headers is as it was. -/
theorem framed_fields (wire : Wire) (req : Request) :
    (framed wire req).method = req.method ∧ (framed wire req).path = req.path ∧
      (framed wire req).params = req.params ∧ (framed wire req).body = req.body := by
  unfold framed
  split_ifs
  · exact ⟨rfl, rfl, rfl, rfl⟩
  · exact ⟨rfl, rfl, rfl, rfl⟩

end Httplib

open Httplib

/-- What a client reads of what it is sent; it waits for no body behind a 204. -/
def readResponse (sent : RemoteResponse) : Option RemoteResponse :=
  (readHeaders (sent.headers.map headerLine)).map fun headers =>
    { status := sent.status, headers, body := if sent.status = 204 then [] else sent.body }

/-- `Server::process_request`, and what comes back to the client. -/
def processRequest (S : HttpServer τ) (dump : Json → Bytes) (env : ServerEnv) (wire : Wire)
    (s : ServerState τ) : ServerState τ × Option RemoteResponse :=
  match received wire with
  | none =>
    (s, some { status := if requestUriMaxLength < wire.requestLine.length then 414 else 400 })
  | some req =>
    let (s, sent) := process S dump env req s
    (s, readResponse sent)

/-! Neither the SDK nor the gateway asks for ranges, so that what comes back to them is the
whole of what was answered. -/

/-- The headers an answer is sent with. -/
def sentHeaders : Answer → Headers
  | .error _ => []
  | .ok res => res.headers

/-- The body of an answer to a request without ranges; a 204 has none. -/
def sentBody (dump : Json → Bytes) : Answer → Bytes
  | .error _ => []
  | .ok res => if res.status = 204 then [] else res.body.bytes dump

/-- The answer as a client reads it that asked for no ranges. -/
def readAnswer (dump : Json → Bytes) (answer : Answer) : Option RemoteResponse :=
  (readHeaders ((sentHeaders answer).map headerLine)).map fun headers =>
    { status := answerStatus answer, headers, body := sentBody dump answer }

/-- What is read of an answer to a request without ranges. -/
theorem readResponse_sendAnswer (dump : Json → Bytes) (boundary : Bytes) (answer : Answer) :
    readResponse (sendAnswer dump boundary [] answer) = readAnswer dump answer := by
  cases answer with
  | error failure => rfl
  | ok res =>
    have hnone : (sendAnswer dump boundary [] (.ok res)).status = 204 ↔ res.status = 204 := by
      rw [(sendAnswer_nil dump boundary (.ok res)).1, answerStatus]
      split_ifs with hunset
      · rw [hunset]
        decide
      · exact Iff.rfl
    unfold readResponse readAnswer
    rw [if_congr hnone rfl rfl]
    rfl

/-- The two methods a client of ours never uses, and no ranges. -/
structure PlainRequest (req : Request) : Prop where
  method : req.method ≠ str "HEAD"
  range : requestRanges req = some []

/-- What comes back to a plain request is what its handler left. -/
theorem processRequest_of_plain {S : HttpServer τ} {dump : Json → Bytes} {env : ServerEnv}
    {wire : Wire} {req : Request} {s : ServerState τ} (hread : received wire = some req)
    (hplain : PlainRequest req) : processRequest S dump env wire s =
      ((routing S env req s).1, readAnswer dump (routing S env req s).2) := by
  obtain ⟨hstate, hsent⟩ := process_of_no_range S dump env s hplain.range
  rw [processRequest, hread]
  show ((process S dump env req s).1, readResponse (process S dump env req s).2) = _
  rw [hstate, hsent hplain.method, readResponse_sendAnswer]

/-- No header is received that was not sent, but for the length of the body. -/
theorem hasHeader_received {sent : ClientRequest} {req : Request} {name : Bytes}
    (h : received (writeRequest sent) = some req) (hcolon : ∀ h ∈ sent.headers, 58 ∉ h.1)
    (hother : ∀ h ∈ sent.headers, caseIgnoreEqual h.1 name = false)
    (hlength : caseIgnoreEqual (str "Content-Length") name = false) :
    hasHeader req.headers name = false := by
  obtain ⟨read, hread, rfl⟩ := Option.map_eq_some_iff.mp h
  have hnone : hasHeader read.headers name = false := by
    unfold receive at hread
    split_ifs at hread
    obtain ⟨line, -, hread⟩ := Option.bind_eq_some_iff.mp hread
    obtain ⟨hs, hhs, rfl⟩ := Option.map_eq_some_iff.mp hread
    exact hasHeader_of_received hhs hcolon hother
  unfold framed
  split_ifs
  · exact hnone
  · unfold hasHeader at hnone ⊢
    rw [List.any_append, hnone, List.any_cons, hlength]
    rfl

/-! ## What a gateway sends -/

/-- The handlers that open with `try_forward`. -/
def Handler.forwards : Handler → Bool
  | root | listEntities | streamData | postStreamTicket => false
  | _ => true

/-- The gateway passes the request on. -/
structure PassesOn (S : HttpServer σ) (env : Env) (req : Request) (path : Bytes)
    (proxy : ProxyTarget) (sent : ClientRequest) : Prop where
  admitted : Admitted S env req
  small : payloadTooLarge req = false
  routed : ∃ h captures, dispatch req.method req.path = some (h, captures) ∧
    h.forwards = true ∧ captures.getD 0 [] = path
  passed : Passed S.toRouter env req path proxy sent

section

variable {R : Router σ} {env : ServerEnv} {req : Request} {path item : Bytes} {s : ServerState σ}
  {proxy : ProxyTarget} {sent : ClientRequest}

end

section

variable {S : HttpServer σ} {env : ServerEnv} {req : Request} {path : Bytes}
  {proxy : ProxyTarget} {sent : ClientRequest}

/-- The request says where it goes. -/
theorem PassesOn.unique {path' : Bytes} {proxy' : ProxyTarget}
    {sent' : ClientRequest} (h : PassesOn S env.toEnv req path proxy sent)
    (h' : PassesOn S env.toEnv req path' proxy' sent') :
    path = path' ∧ proxy = proxy' ∧ sent = sent' := by
  obtain ⟨handler, captures, hroute, -, rfl⟩ := h.routed
  obtain ⟨handler', captures', hroute', -, rfl⟩ := h'.routed
  obtain ⟨rfl, rfl⟩ := Prod.mk.inj (Option.some.inj (hroute.symm.trans hroute'))
  obtain rfl := Option.some.inj (h.passed.proxied.symm.trans h'.passed.proxied)
  exact ⟨rfl, rfl, Option.some.inj (h.passed.written.symm.trans h'.passed.written)⟩

end

/-! ## Two tiers -/

/-- A gateway, the servers behind it by their base URLs, and how documents are written. -/
structure Tiers (σ τ : Type) where
  gateway : HttpServer σ
  server : Bytes → HttpServer τ
  dump : Json → Bytes

/-- The gateway, and the servers behind it by their URLs. -/
structure TierState (σ τ : Type) where
  gateway : ServerState σ
  server : Bytes → ServerState τ

/-- What becomes of a request that is sent, and of its answer. -/
inductive Delivery
  | answered
  | answerLost
  | requestLost
  deriving DecidableEq

/-- What can happen at either tier. -/
inductive TierEvent (σ τ : Type)
  /-- A request to the gateway; `far` is what it meets where it is passed on to. -/
  | request (env far : ServerEnv) (delivery : Delivery) (req : Request) (answer : Answer)
  /-- The threads of the gateway. -/
  | gateway (adapter : σ) (hub : HubSys)
  /-- Whatever else happens at a server behind it, the requests of its own clients included. -/
  | server (url : Bytes) (e : HttpEvent τ)

namespace Tiers

variable (T : Tiers σ τ)

/-- The server that has the entity of a request. -/
def urlOf (req : Request) : Bytes :=
  ((dispatch req.method req.path).bind fun r => T.gateway.findProxy (r.2.getD 0 [])).elim []
    ProxyTarget.baseUrl

/-- What the server does with what it is sent. -/
def processed (far : ServerEnv) (url : Bytes) (sent : ClientRequest) (s : TierState σ τ) :
    ServerState τ × Option RemoteResponse :=
  processRequest (T.server url) T.dump far (writeRequest sent) (s.server url)

/-- The upstream server, as the gateway meets it. -/
def remote (far : ServerEnv) (delivery : Delivery) (req : Request) (s : TierState σ τ)
    (sent : ClientRequest) : Option RemoteResponse :=
  if delivery = .answered then (T.processed far (T.urlOf req) sent s).2 else none

/-- The servers once `sent`, if anything, was on its way. -/
def deliver (far : ServerEnv) (delivery : Delivery) (req : Request) (sent : List ClientRequest)
    (s : TierState σ τ) : Bytes → ServerState τ :=
  match sent with
  | [] => s.server
  | c :: _ =>
    if delivery = .requestLost then s.server
    else Function.update s.server (T.urlOf req) (T.processed far (T.urlOf req) c s).1

/-- Both tiers after a request to the gateway. -/
def after (env far : ServerEnv) (delivery : Delivery) (req : Request) (s : TierState σ τ) :
    TierState σ τ :=
  let gateway := (routing T.gateway env req s.gateway).1
  { gateway
    server := T.deliver far delivery req
      (gateway.world.upstream.drop s.gateway.world.upstream.length) s }

/-- The request is sent to the server with that URL, and read there as `remote`. -/
structure Reaches (url : Bytes) (env : ServerEnv) (delivery : Delivery) (req : Request)
    (path : Bytes) (proxy : ProxyTarget) (remote : Request) : Prop where
  here : proxy.baseUrl = url
  arrives : delivery ≠ .requestLost
  sent : ∃ sent, PassesOn T.gateway env.toEnv req path proxy sent ∧
    received (writeRequest sent) = some remote

/-- The request that is meant, in all that a handler looks at. -/
structure Means (proxy : ProxyTarget) (req : Request) (path : Bytes) (remote : Request) : Prop where
  method : remote.method = req.method
  path : remote.path = remotePath proxy req path
  params : remote.params = req.params
  body : remote.body = req.body
  lockId : headerValue remote.headers (str "X-SOVD-Lock-Id") =
    headerValue req.headers (str "X-SOVD-Lock-Id")

/-- Neither a token nor a range is passed on, whatever the request had. -/
structure Stripped (remote : Request) : Prop where
  token : hasHeader remote.headers (str "Authorization") = false
  plain : PlainRequest remote

/-- The gateway's answer is what its library read of the server's, and is sent with the
server's status and body to a client that asked for no ranges. -/
def Relays (req : Request) (reply answer : Answer) : Prop :=
  ∀ back, readAnswer T.dump reply = some back →
    (∃ res, answer = .ok res ∧ res.status = answerStatus reply ∧
      res.body = .raw (sentBody T.dump reply)) ∧
    (requestRanges req = some [] → ∀ boundary,
      (sendAnswer T.dump boundary [] answer).status = answerStatus reply ∧
        (sendAnswer T.dump boundary [] answer).body = sentBody T.dump reply)

/-- What an event is to the server with that URL. -/
def Shows (url : Bytes) : TierEvent σ τ → HttpEvent τ → Prop
  | .request env far delivery req answer, f =>
    ∃ path proxy remote reply, f = .request far remote reply ∧
      T.Reaches url env delivery req path proxy remote ∧ Stripped remote ∧
      (Forwardable env.toEnv proxy req path → (req.params.Pairwise fun a b => a.1 ≤ b.1) →
        Means proxy req path remote) ∧
      (delivery = .answered → T.Relays req reply answer)
  | .gateway _ _, _ => False
  | .server url' e, f => url' = url ∧ e = f

/-- An event the server does not see. -/
def Silent (url : Bytes) : TierEvent σ τ → Prop
  | .request env _ delivery req _ =>
    ∀ path proxy remote, ¬ T.Reaches url env delivery req path proxy remote
  | .gateway _ _ => True
  | .server url' _ => url' ≠ url

variable {T} {env far : ServerEnv} {req : Request} {path : Bytes} {proxy : ProxyTarget}
  {sent : ClientRequest} {url : Bytes} {delivery : Delivery}

/-- The length of the body is no lock id. -/
theorem headerValue_framed (wire : Wire) (req : Request) :
    headerValue (framed wire req).headers (str "X-SOVD-Lock-Id") =
      headerValue req.headers (str "X-SOVD-Lock-Id") := by
  unfold framed
  split_ifs
  · rfl
  · have hother : caseIgnoreEqual (str "Content-Length") (str "X-SOVD-Lock-Id") = false := by
      decide
    unfold headerValue
    rw [List.find?_append, List.find?_cons_of_neg (by simp [hother]), List.find?_nil,
      Option.or_none]

end Tiers

/-! ## One lock -/

namespace ProxiedLock

/-- The gateway of `ProxiedEcu`, and the server that has its ECU. -/
def tiers : Tiers Unit Unit where
  gateway := { ProxiedEcu.router with files := linkedFiles }
  server := fun _ => { entities := [{ path := str "hpc/ecu" }], files := linkedFiles }
  dump := fun _ => []

def start : TierState Unit Unit :=
  { gateway := { world := { adapter := () } }, server := fun _ => { world := { adapter := () } } }

/-- A lock is asked for at the gateway. -/
def lock : Request := { method := str "POST", path := str "/v1/entities/ecu/locks" }

def far : ServerEnv := { ProxiedEcu.env with }

def env : ServerEnv := { ProxiedEcu.env with remote := tiers.remote far .answered lock start }

/-- What the gateway leaves and answers, and what is left of both tiers. -/
def answered : ServerState Unit × Answer := routing tiers.gateway env lock start.gateway

def locked : TierState Unit Unit := tiers.after env far .answered lock start

end ProxiedLock

end Sovd
