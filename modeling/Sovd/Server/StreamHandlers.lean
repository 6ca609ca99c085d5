import Sovd.Server.LockHandlers
import Sovd.Server.ReadHandlers
import Sovd.Server.Routes
import Sovd.Server.StreamHub
import Sovd.Server.StreamTicket

/-!
# Streams, and what every request goes to (`routes_streams.cpp`, `routes.cpp`)

A stream is asked for with a token or with a ticket, which is gone once it was
presented. It is a share of a poller, kept by the response that is sent in chunks.
Neither a stream nor a ticket for one goes through a proxy.

`ServerState` is all that requests change: the world of the other handlers, the
tickets, and the streams. `serve` gives a request to the handler of its route.

Mirroring notes vs the C++:
- The subscription of a stream is the object the hub made last, and its `read_fn` goes
  by the number of its subscription; the body of the response stays empty.
- `atoi` is glibc's: a `strtol` cut down to 32 bits.
- `correlation_id_for` is called twice for a refused stream, and makes a new id each time
  if the request has none: `again` is what the second call meets.
-/

namespace Sovd

variable {σ : Type}

/-- `std::atoi(s.c_str())` -/
def atoi (s : Bytes) : Int :=
  let s := (cStr s).dropWhile isSpace
  let digits := match s with
    | 45 :: rest => rest
    | 43 :: rest => rest
    | _ => s
  let n : Nat := (digits.takeWhile isDigit).foldl (fun v c => v * 10 + (c.toNat - 48)) 0
  let signed : Int := if s.head? = some 45 then -n else n
  toInt32 (max (-2 ^ 63) (min (2 ^ 63 - 1) signed))

/-- All that the handlers see of the server. -/
structure ServerState (σ : Type) where
  world : World σ
  tickets : StreamTicketStore := {}
  hub : HubSys := {}

/-- What one request meets, with what `RAND_bytes` leaves for a ticket, what
`generate_correlation_id` would return the second time, and the boundary between the parts
of a body that is sent in parts. -/
structure ServerEnv extends Env where
  raw : Option (Vector UInt8 16) := none
  nextCorrelationId : Bytes := str "req-0000000000000001"
  boundary : Bytes := str "--cpp-httplib-multipart-data-0"

/-- What a second `correlation_id_for` meets. -/
def ServerEnv.again (env : ServerEnv) : Env :=
  { env.toEnv with correlationId := env.nextCorrelationId }

/-- What `event_sink_` and the response get of a stream that is refused. -/
def refuseStream (env : ServerEnv) (req : Request) (res : Response) (s : ServerState σ) :
    ServerState σ × Outcome :=
  let (corr, res) := correlationIdFor env.again req res
  let (world, out) := emitThen env.toEnv (str "oauth2_denied")
    [(str "method", .str (str "GET")), (str "path", .str req.path), (str "status", .int 401),
      (str "correlation_id", .str corr)] s.world fun w =>
      (w, writeError (res.setHeader (str "WWW-Authenticate") (str "Bearer")) 401
        (str "UNAUTHORIZED") (str "missing or invalid bearer token or stream ticket"))
  ({ s with world }, out)

/-- Whether a stream may be opened; a ticket that was presented is used up. -/
def authorizeStream (R : Router σ) (env : ServerEnv) (req : Request) (path idOrDid : Bytes)
    (tickets : StreamTicketStore) : Bool × StreamTicketStore :=
  if R.hasOauth2Scope env.toEnv req (str "read:data") then (true, tickets)
  else
    let ticket := req.paramValue (str "ticket")
    if ticket = [] then (false, tickets) else tickets.redeem env.now ticket path idOrDid

/-- The interval that is asked for, of 100 ms at least. -/
def streamInterval (req : Request) : Int :=
  if req.params.any fun p => p.1 == str "interval_ms" then
    max 100 (atoi (req.paramValue (str "interval_ms")))
  else 1000

/-- `handle_stream_data`: the ticket is burned before anything else is looked at. -/
def handleStreamData (R : Router σ) (env : ServerEnv) (req : Request) (path idOrDid : Bytes)
    (s : ServerState σ) : ServerState σ × Outcome :=
  let (_, res) := correlationIdFor env.toEnv req {}
  let (authorized, tickets) := authorizeStream R env req path idOrDid s.tickets
  let s := { s with tickets }
  if !authorized then refuseStream env req res s
  else
    match R.find path with
    | none => (s, writeError res 404 (str "NOT_FOUND") (str "unknown entity: " ++ path))
    | some e =>
      if (R.findProxy path).isSome then
        (s, writeError res 501 (str "UNSUPPORTED")
          (str "streaming through a Phase 4 proxy is not supported"))
      else
        match e.vtable.bind Vtable.readData with
        | none =>
          (s, writeError res 501 (str "UNSUPPORTED") (str "entity has no diagnostic backend"))
        | some _ =>
          let hub := s.hub.subscribe ⟨path, idOrDid, streamInterval req⟩ s.hub.subscribed
          ({ s with hub }, .ok ((res.setHeader (str "Cache-Control") (str "no-cache")).setHeader
            (str "Content-Type") (str "text/event-stream")))

/-- `handle_post_stream_ticket` -/
def handlePostStreamTicket (R : Router σ) (env : ServerEnv) (req : Request)
    (path idOrDid : Bytes) (s : ServerState σ) : ServerState σ × Outcome :=
  let (corr, res) := correlationIdFor env.toEnv req {}
  match R.find path with
  | none => (s, writeError res 404 (str "NOT_FOUND") (str "unknown entity: " ++ path))
  | some _ =>
    match s.tickets.issue env.now env.later env.raw path idOrDid with
    | (none, tickets) =>
      let (world, out) := emitThen env.toEnv (str "stream_ticket_denied")
        [(str "entity", .str path), (str "id", .str idOrDid), (str "correlation_id", .str corr),
          (str "reason", .str (str "capacity"))] s.world fun w =>
          (w, writeError res 503 (str "BUSY") (str "server-wide stream-ticket capacity reached"))
      ({ s with tickets, world }, out)
    | (some ticket, tickets) =>
      ({ s with tickets }, { res with status := 201 }.setJson
        (.obj [(str "ticket", .str ticket), (str "ttl_seconds", .int kStreamTicketTtlSeconds)]))

/-- A handler that touches neither tickets nor streams. -/
def onWorld (handle : World σ → World σ × Outcome) (s : ServerState σ) :
    ServerState σ × Outcome :=
  let (world, out) := handle s.world
  ({ s with world }, out)

/-- The handler of a route, on what its pattern captured. -/
def Handler.run (R : Router σ) (env : ServerEnv) (req : Request) (path item : Bytes) :
    Handler → ServerState σ → ServerState σ × Outcome
  | root => onWorld (handleRoot R env.toEnv req)
  | listEntities => onWorld (handleListEntities R env.toEnv req)
  | getFaults => onWorld (handleGetFaults R env.toEnv req path)
  | clearFaults => onWorld (handleClearFaults R env.toEnv req path)
  | getDataBatch => onWorld (handleGetDataBatch R env.toEnv req path)
  | streamData => handleStreamData R env req path item
  | postStreamTicket => handlePostStreamTicket R env req path item
  | getData => onWorld (handleGetData R env.toEnv req path item)
  | putData => onWorld (handlePutData R env.toEnv req path item)
  | postMode => onWorld (handlePostMode R env.toEnv req path)
  | postOperation => onWorld (handlePostOperation R env.toEnv req path item)
  | postLock => onWorld (handlePostLock R env.toEnv req path)
  | putLock => onWorld (handlePutLock R env.toEnv req path item)
  | deleteLock => onWorld (handleDeleteLock R env.toEnv req path item)
  | getDocs => onWorld (handleGetDocs R env.toEnv req path)

/-- What a request does; without a route for it, nothing. -/
def serve (R : Router σ) (env : ServerEnv) (req : Request) (s : ServerState σ) :
    Option (ServerState σ × Outcome) :=
  (dispatch req.method req.path).map fun (h, captures) =>
    h.run R env req (captures.getD 0 []) (captures.getD 1 []) s

end Sovd
