import Sovd.Client.SovdClient
import Sovd.Server.Httplib
import Sovd.Server.Routes
import Sovd.Server.SessionLife
import Sovd.Uds.Line

/-!
# How often one call starts a routine (`SovdClient::execute_operation`)

A call is a POST, and the client makes it again as long as the server answers 503.
The server answers 503 when the adapter says `busy`, and that is what the adapter
makes of an ECU that is still working after ten pending responses. The ECU has
accepted the start by then, and the next POST starts the routine once more.

What the adapter says rests on the messages it reads after the start, which need not be
the answer to it: the connection may still hold a late answer to an earlier request. So
the call starts a routine at most once exactly where no start that the ECU accepts is
followed by messages that end `busy`, whoever they were meant for (`at_most_once_iff`).
The one fact behind it is that a start that was not the last of its call ended `busy`
(`attempts_starts`).

Mirroring notes vs the C++:
- The adapter's bus is `Line.bus`, so every request goes through `send_and_resolve` on
  one connection, late answers included.
- `Attempt` is everything else that one POST meets: what happened on the server
  since the last one, how the library fails, who answers if the handler does not.
- `starts` is a ghost, the starts that this call put on the wire.
-/

namespace Sovd

open Httplib SessionManager StreamEvent Uds

/-! ## Starts, and what the ECU makes of them -/

/-- RoutineControl Start, `31 01 …`. -/
def isRoutineStart : Bytes → Bool
  | sid :: sub :: _ => sid == kSidRoutineControl && sub == kRoutineStart
  | _ => false

/-- The ECU's first message is the positive response, or says that it is at work. -/
def accepted : List Bytes → Bool
  | first :: _ => first.head? == some (kSidRoutineControl + 0x40) || isPending first
  | [] => false

/-- What is returned of the messages is an NRC that the server takes for `busy`. -/
def endsBusy (messages : List Bytes) : Bool :=
  ((resolveAnswer messages).bind isNegativeResponse).any fun nrc => nrcToSovdResult nrc == .busy

/-- One start that was put on the wire. -/
structure Start where
  /-- What the ECU sends in answer to it. -/
  own : List Bytes
  /-- What the adapter reads after it. -/
  read : List Bytes
  /-- What the ECU sent in answer to each request before it. -/
  earlier : List (List Bytes)
  readable : Readable read

/-- The ECU accepted it for execution. -/
def Start.accepted (s : Start) : Bool := Sovd.accepted s.own

/-- What was read after it ends `busy`. -/
def Start.busy (s : Start) : Bool := endsBusy s.read

/-- What was read is what the ECU sent, in answer to this request or to one before it. -/
def Start.Sent (s : Start) : Prop := ∀ m ∈ s.read, m ∈ s.own ∨ ∃ a ∈ s.earlier, m ∈ a

/-- A server with one UDS entity, its connection and the ECU behind it. -/
structure EcuServer where
  path : Bytes
  catalogData : Option Catalog := none
  config : SessionManagerConfig := {}
  line : Line
  ecu : Ecu
  catalogs : List (Bytes × Catalog) := []
  oauth2Secret : Bytes := []

/-- The server over this ECU. -/
def EcuServer.server (srv : EcuServer) : UdsServer where
  path := srv.path
  context := { catalogData := srv.catalogData, config := srv.config, bus := srv.line.bus }
  catalogs := srv.catalogs
  oauth2Secret := srv.oauth2Secret

section

variable (srv : EcuServer)

/-- What the ECU sends in answer to the requests among `exchanged` that get to it. -/
def EcuServer.answers : (before exchanged : List Exchange) → List (List Bytes)
  | _, [] => []
  | before, x :: xs =>
    (if srv.line.sends before x.request then [srv.ecu before x.request] else []) ++
      answers (before ++ [x]) xs

/-- The start that the request `request` after `before` is. -/
def EcuServer.start (before : List Exchange) (request : Bytes) : Start where
  own := srv.ecu before request
  read := srv.line.read before request
  earlier := srv.answers [] before
  readable := readable_messagesRead ..

/-- The starts among `exchanged` that are put on the wire. -/
def EcuServer.starts : (before exchanged : List Exchange) → List Start
  | _, [] => []
  | before, x :: xs =>
    (if isRoutineStart x.request && srv.line.sends before x.request then
      [srv.start before x.request] else []) ++ starts (before ++ [x]) xs

/-- The starts of two stretches. -/
theorem EcuServer.starts_append (before xs ys : List Exchange) :
    srv.starts before (xs ++ ys) = srv.starts before xs ++ srv.starts (before ++ xs) ys := by
  induction xs generalizing before with
  | nil => simp [starts]
  | cons x xs ih => simp [starts, ih]

/-- Other requests start nothing. -/
theorem EcuServer.starts_eq_nil {before xs : List Exchange}
    (h : ∀ x ∈ xs, isRoutineStart x.request = false) : srv.starts before xs = [] := by
  induction xs generalizing before with
  | nil => rfl
  | cons x xs ih =>
    rw [starts, h x (List.mem_cons_self ..), Bool.false_and, if_neg Bool.false_ne_true,
      List.nil_append]
    exact ih fun y hy => h y (List.mem_cons_of_mem _ hy)

end

/-! ## What one request to the server starts -/

/-- At most the session is asked for. -/
theorem ensureSession_wire (bus : Bus) (t : UInt8) (s : SessionManager) :
    ∃ exchanged, (ensureSession bus t s).2.wire = s.wire ++ exchanged ∧
      ∀ x ∈ exchanged, x.request = encodeDiagnosticSessionControl t := by
  have hsend : ∀ {response : Option Bytes} {s' : SessionManager},
      send bus (encodeDiagnosticSessionControl t) { s with lastTouch := s.now } = (response, s') →
        s'.wire = s.wire ++ [⟨encodeDiagnosticSessionControl t, response⟩] :=
    fun h => (send_moves h).wire
  have hone : ∀ response : Option Bytes,
      ∀ x ∈ [Exchange.mk (encodeDiagnosticSessionControl t) response],
        x.request = encodeDiagnosticSessionControl t := by simp
  unfold ensureSession
  dsimp only
  split
  next => exact ⟨[], by simp, by simp⟩
  next =>
    split
    next s' hs => exact ⟨_, hsend hs, hone _⟩
    next resp s' hs =>
      have hwire := hsend hs
      split <;> exact ⟨_, hwire, hone _⟩

/-- What one request may have started: nothing, or one routine, with which it ended `busy`
if that is what the request came to. -/
def StartsOnce (new : List Start) (busy : Prop) : Prop :=
  new = [] ∨ ∃ a, new = [a] ∧ (busy → a.busy = true)

/-- A start that ends busy may be said to end so for less. -/
theorem StartsOnce.imp {new : List Start} {busy busy' : Prop} (h : StartsOnce new busy)
    (himp : busy' → busy) : StartsOnce new busy' :=
  h.imp_right fun ⟨a, hnew, ha⟩ => ⟨a, hnew, ha ∘ himp⟩

/-- A negative response is `busy` or not by its code alone. -/
theorem endsBusy_of_negativeOrInternal {answer : List Bytes} {resp : Bytes}
    (hres : resolveAnswer answer = some resp) (h : negativeOrInternal resp = .busy) :
    endsBusy answer = true := by
  unfold negativeOrInternal at h
  split at h
  next nrc hnrc => simp [endsBusy, hres, hnrc, h]
  next => cases h

/-- A negative response is no positive one. -/
theorem decodeRoutineControl_of_negative {resp : Bytes} {nrc : UInt8} {routineId : UInt16}
    (h : isNegativeResponse resp = some nrc) : decodeRoutineControl resp routineId = none := by
  unfold isNegativeResponse at h
  split at h
  next sid b nrc' rest =>
    split_ifs at h with hsid
    rw [hsid]
    unfold decodeRoutineControl
    split
    next heq =>
      rw [if_pos]
      rw [← (List.cons.inj heq).1]
      decide
    next => rfl
  next => cases h

/-- One operation sends one start at most, and is busy only if that ended busy. -/
theorem executeOperation_starts (srv : EcuServer) (s : SessionManager) (entityPath op : Bytes)
    (paramsJson : Bytes) :
    let out := srv.server.context.executeOperation s entityPath op paramsJson
    ∃ exchanged, out.2.2.wire = s.wire ++ exchanged ∧
      StartsOnce (srv.starts s.wire exchanged) (out.1 = .busy) := by
  dsimp only
  unfold UdsContext.executeOperation
  split
  next => exact ⟨[], by simp, .inl rfl⟩
  next operation hop =>
    obtain ⟨session, hsession, hnone⟩ : ∃ session,
        (srv.server.context.ensureSessionNamed operation.requiresSession s).2.wire =
          s.wire ++ session ∧ srv.starts s.wire session = [] := by
      unfold UdsContext.ensureSessionNamed
      split
      next => exact ⟨[], by simp, rfl⟩
      next t ht =>
        obtain ⟨session, hwire, hreq⟩ := ensureSession_wire srv.server.context.bus t s
        refine ⟨session, hwire, srv.starts_eq_nil fun x hx => ?_⟩
        rw [hreq x hx]
        rfl
    split
    next s₁ hs₁ =>
      rw [hs₁] at hsession
      exact ⟨session, hsession, .inl hnone⟩
    next s₁ hs₁ =>
      rw [hs₁] at hsession
      -- the start, after whatever the session took
      let start := encodeRoutineControl kRoutineStart operation.routineId []
      have hstart : ∀ response, srv.starts s.wire (session ++ [⟨start, response⟩]) =
          if srv.line.sends s₁.wire start then [srv.start s₁.wire start] else [] := by
        intro response
        rw [srv.starts_append, hnone, hsession]
        show (if (true && srv.line.sends (s.wire ++ session) start) = true then _ else []) ++ [] = _
        rw [Bool.true_and, List.append_nil]
      have hwire : ∀ {response s₂}, send srv.server.context.bus start s₁ = (response, s₂) →
          s₂.wire = s.wire ++ (session ++ [⟨start, response⟩]) := by
        intro response s₂ hs₂
        rw [(send_moves hs₂).wire, hsession, List.append_assoc]
      have honce : ∀ {response} {busy : Prop},
          (busy → (srv.start s₁.wire start).busy = true) →
          StartsOnce (srv.starts s.wire (session ++ [⟨start, response⟩])) busy := by
        intro response busy hbusy
        rw [hstart]
        split_ifs
        · exact .inr ⟨_, rfl, hbusy⟩
        · exact .inl rfl
      split
      next s₂ hs₂ => exact ⟨_, hwire hs₂, honce fun h => by cases h⟩
      next resp s₂ hs₂ =>
        have hres : resolveAnswer (srv.line.read s₁.wire start) = some resp := by
          rw [← srv.line.bus_reply]
          exact (Prod.mk.inj hs₂).1
        split
        next => exact ⟨_, hwire hs₂, honce (endsBusy_of_negativeOrInternal hres)⟩
        next => exact ⟨_, hwire hs₂, honce fun h => by cases h⟩

/-- Of the results only `busy` has a status that is tried again. -/
theorem eq_busy_of_isRetried {r : SovdResult} {status : Int}
    (hstatus : status = 500 ∨ status = httpStatusFor r)
    (h : SovdClient.isRetried status = true) : r = .busy := by
  rcases hstatus with rfl | rfl
  · exact absurd h (by decide)
  · revert h
    cases r <;> decide

/-- An answer is one to retry only if the adapter was busy. -/
theorem report_retried {σ : Type} {env : Env} {res : Response} {a : Act σ} {w : World σ}
    (hanswer : SovdClient.isRetried (finalStatus (a.answer res)) = false)
    (h : SovdClient.isRetried (finalStatus (a.report env res w).2) = true) :
    a.call.ret = .busy := by
  by_cases hret : a.call.ret = .ok
  · -- an event that cannot be written is a 500
    rw [report_outcome hret] at h
    split_ifs at h
    · rw [hanswer] at h
      cases h
    · exact absurd h (by decide)
  · unfold Act.report finishCall at h
    rw [if_pos hret] at h
    refine eq_busy_of_isRetried ?_ h
    refine (finalStatus_setJson _ _).imp_right fun heq => heq.trans ?_
    cases a.call.ret <;> rfl

/-- `busy` is reported with a 503. -/
theorem report_busy {σ : Type} {env : Env} {res : Response} {a : Act σ} {w : World σ}
    (h : a.call.ret = .busy) (hfailed : Utf8.valid a.failed = true) :
    finalStatus (a.report env res w).2 = 503 := by
  have hutf : (Json.obj [(str "error", .str (str "ADAPTER_ERROR")),
      (str "message", .str a.failed)]).utf8 = true := by
    have hkeys : Utf8.valid (str "error") = true ∧ Utf8.valid (str "ADAPTER_ERROR") = true ∧
        Utf8.valid (str "message") = true := by decide
    simp [hkeys, hfailed]
  obtain ⟨res', hres', hstatus⟩ :=
    Response.setJson_of_utf8 { res with status := httpStatusFor .busy } hutf
  unfold Act.report finishCall
  rw [h, if_pos (by decide)]
  show finalStatus (writeError res (httpStatusFor .busy) (str "ADAPTER_ERROR") a.failed) = 503
  rw [writeError, hres', finalStatus, hstatus]
  rfl

/-- An operation that was executed is answered with a document, or a 500. -/
theorem isRetried_operationResult (env : Env) (req : Request) (out : Option Bytes) :
    SovdClient.isRetried (finalStatus
      ((correlationIdFor env req {}).2.setJson (operationResult env out))) = false := by
  have hstatus : (correlationIdFor env req {}).2.status = -1 := by
    simp [correlationIdFor]
  rcases finalStatus_setJson (correlationIdFor env req {}).2 (operationResult env out) with h | h
  · rw [h]
    rfl
  · rw [h, finalStatus, hstatus]
    rfl

/-- **One request starts at most one routine**, and is not tried again unless that ended
`busy`. -/
theorem handlePostOperation_starts (srv : EcuServer) (env : Env) (req : Request) (path op : Bytes)
    (w : World SessionManager) :
    let out := handlePostOperation srv.server.router env req path op w
    ∃ exchanged, out.1.adapter.wire = w.adapter.wire ++ exchanged ∧
      StartsOnce (srv.starts w.adapter.wire exchanged)
        (SovdClient.isRetried (finalStatus out.2) = true) := by
  intro out
  have hout : out = (GatedHandler.postOperation op).handle srv.server.router env req path w := rfl
  by_cases hacts : ∃ a, checkLockHeader env req path w.locks = true ∧
      Acts srv.server.router env req path (correlationIdFor env req {}).1 w.adapter
        (.postOperation op) a
  case neg =>
    have hkept := (handle_of_not_acts fun a hlock ha => hacts ⟨a, hlock, ha⟩ :
      Declined w ((GatedHandler.postOperation op).handle srv.server.router env req path w).1)
    exact ⟨[], by rw [hout, hkept.adapter, List.append_nil], .inl rfl⟩
  obtain ⟨a, hlock, ha⟩ := hacts
  rw [handle_of_acts hlock ha] at hout
  have hadapter : out.1.adapter = a.adapter := hout ▸ (report_world ..).adapter
  cases ha with
  | postOperation hf hr =>
    have hselect := UdsServer.select_of_getsTo hf
    obtain rfl : srv.server.context.executeOperation = _ := Option.some.inj hselect
    obtain ⟨exchanged, hwire, hstarts⟩ := executeOperation_starts srv w.adapter (cStr path)
      (cStr op) (cStr (operationParams req.body))
    rw [hr] at hwire hstarts
    refine ⟨exchanged, by rw [hadapter, hwire], hstarts.imp_right ?_⟩
    intro hone
    obtain ⟨answer, heq, hbusy⟩ := hone
    refine ⟨answer, heq, fun hretried => hbusy ?_⟩
    rw [hout] at hretried
    exact report_retried (isRetried_operationResult env req _) hretried

/-! ## One call of the client -/

namespace SovdClient

/-- What one POST of the call meets. -/
structure Attempt where
  env : Env
  meanwhile : World SessionManager → World SessionManager := id
  /-- The library's error, if the request does not get to the server. -/
  unsent : Option Bytes := none
  /-- It is answered before it is dispatched. -/
  refused : Bool := false
  /-- The answer of anything but the handler of operations. -/
  other : RemoteResponse := { status := 404 }
  /-- The library's error, if the answer does not get back. -/
  lost : Option Bytes := none

/-- What does not change during a call. -/
structure Setting where
  server : EcuServer
  dump : Json → Bytes
  parse : JsonParser
  attempts : Nat → Attempt

/-- The server while a call is under way, and what was started for it. -/
structure CallState where
  world : World SessionManager
  attempt : Nat := 0
  starts : List Start := []

/-- The bytes of a body. -/
def bodyBytes (dump : Json → Bytes) : Body → Bytes
  | .empty => []
  | .json document => dump document
  | .raw content => content

/-- The request as the server reads it, and what the route of operations captures of it. -/
def operationTarget (dump : Json → Bytes) (call : Call) : Option (Request × Bytes × Bytes) :=
  match parseRequestLine (requestLine call.method (encodeUrl call.urlPath)) with
  | none => none
  | some req =>
    match dispatch req.method req.path with
    | some (.postOperation, [path, op]) =>
      some ({ req with
        headers := if call.lockId = [] then [] else [(str "X-SOVD-Lock-Id", call.lockId)]
        body := bodyBytes dump call.body }, path, op)
    | _ => none

/-- What the client gets of an answer. -/
def respond (dump : Json → Bytes) (out : Outcome) : RemoteResponse where
  status := finalStatus out
  body :=
    match out with
    | .ok res => bodyBytes dump res.body
    | .error _ => []

/-- One POST. -/
def exchange (setting : Setting) (call : Call) (s : CallState) :
    Except Bytes RemoteResponse × CallState :=
  let a := setting.attempts s.attempt
  let s := { s with world := a.meanwhile s.world, attempt := s.attempt + 1 }
  match a.unsent with
  | some e => (.error e, s)
  | none =>
    match if a.refused then none else operationTarget setting.dump call with
    | none => (.ok a.other, s)
    | some (req, path, op) =>
      let (world, out) :=
        handlePostOperation setting.server.server.router a.env req path op s.world
      let sent := world.adapter.wire.drop s.world.adapter.wire.length
      let s := { s with
        world
        starts := s.starts ++ setting.server.starts s.world.adapter.wire sent }
      match a.lost with
      | some e => (.error e, s)
      | none => (.ok (respond setting.dump out), s)

/-- The starts that one call puts on the wire, in order. -/
def startsOf (setting : Setting) (retry : RetryPolicy) (path op paramsJson lockId : Bytes)
    (w : World SessionManager) : List Start :=
  (request (exchange setting) setting.parse retry (executeOperation path op paramsJson lockId)
    { world := w }).2.starts

/-- What one POST may have started. -/
theorem exchange_starts (setting : Setting) (call : Call) (s : CallState) :
    ∃ new, (exchange setting call s).2.starts = s.starts ++ new ∧
      StartsOnce new
        (∃ res, (exchange setting call s).1 = .ok res ∧ isRetried res.status = true) := by
  unfold exchange
  dsimp only
  split
  next => exact ⟨[], by simp, .inl rfl⟩
  next =>
    split
    next => exact ⟨[], by simp, .inl rfl⟩
    next req path op htarget =>
      obtain ⟨exchanged, hwire, hstarts⟩ := handlePostOperation_starts setting.server
        (setting.attempts s.attempt).env req path op
        ((setting.attempts s.attempt).meanwhile s.world)
      rw [hwire, List.drop_left]
      split
      next =>
        refine ⟨_, rfl, hstarts.imp fun h => ?_⟩
        obtain ⟨res, hres, -⟩ := h
        cases hres
      next =>
        refine ⟨_, rfl, hstarts.imp fun h => ?_⟩
        obtain ⟨res, hres, hretried⟩ := h
        obtain rfl := Except.ok.inj hres
        exact hretried

/-- All but the last of the starts ended `busy`. -/
def BusyButLast (new : List Start) : Prop :=
  ∀ before a after, new = before ++ a :: after → after ≠ [] → a.busy = true

/-- One attempt's starts end busy but for the last. -/
theorem busyButLast_of_startsOnce {new : List Start} {busy : Prop} (h : StartsOnce new busy) :
    BusyButLast new := by
  intro before a after heq hafter
  rcases h with rfl | ⟨x, rfl, -⟩
  · simp at heq
  · have hlen := congrArg List.length heq
    have hpos := List.length_pos_iff.mpr hafter
    simp only [List.length_cons, List.length_nil, List.length_append] at hlen
    omega

/-- Starts that come after one POST that is tried again. -/
theorem BusyButLast.retry {new rest : List Start} {busy : Prop} (h : StartsOnce new busy)
    (hbusy : busy) (hrest : BusyButLast rest) : BusyButLast (new ++ rest) := by
  rcases h with rfl | ⟨x, rfl, hx⟩
  · exact hrest
  · intro before a after heq hafter
    cases before with
    | nil =>
      obtain rfl : x = a := (List.cons.inj heq).1
      exact hx hbusy
    | cons b before => exact hrest before a after (List.cons.inj heq).2 hafter

/-- **A start that is not the last of its call ended `busy`.** -/
theorem attempts_starts (setting : Setting) (call : Call) (left : Nat) (s : CallState) :
    ∃ new, (attempts (exchange setting) setting.parse call left s).2.starts = s.starts ++ new ∧
      BusyButLast new := by
  induction left generalizing s with
  | zero =>
    obtain ⟨new, hnew, honce⟩ := exchange_starts setting call s
    refine ⟨new, ?_, busyButLast_of_startsOnce honce⟩
    rw [← hnew]
    unfold attempts
    split
    next e s' hs => rw [hs]
    next res s' hs => split <;> rw [hs]
  | succ left ih =>
    obtain ⟨new, hnew, honce⟩ := exchange_starts setting call s
    unfold attempts
    split
    next e s' hs =>
      rw [hs] at hnew
      exact ⟨new, hnew, busyButLast_of_startsOnce honce⟩
    next res s' hs =>
      rw [hs] at hnew honce
      split
      next hretried =>
        obtain ⟨rest, hrest, hbusy⟩ := ih s'
        refine ⟨new ++ rest, ?_, .retry honce ⟨res, rfl, hretried⟩ hbusy⟩
        rw [hrest, hnew, List.append_assoc]
      next => exact ⟨new, hnew, busyButLast_of_startsOnce honce⟩

/-- With such an ECU all but the last of the starts were refused. -/
theorem countP_accepted_le_one {starts : List Start} (h : BusyButLast starts)
    (hclean : ∀ a ∈ starts, a.accepted = true → a.busy = false) :
    starts.countP Start.accepted ≤ 1 := by
  induction starts with
  | nil => exact Nat.zero_le _
  | cons a starts ih =>
    have htail : BusyButLast starts := fun before b after heq hafter =>
      h (a :: before) b after (by rw [heq, List.cons_append]) hafter
    have hle := ih htail fun b hb => hclean b (List.mem_cons_of_mem _ hb)
    by_cases hstarts : starts = []
    · rw [hstarts]
      exact List.countP_le_length
    · have hbusy := h [] a starts rfl hstarts
      have hnot : ¬ a.accepted = true := by
        intro hacc
        rw [hclean a (List.mem_cons_self ..) hacc] at hbusy
        cases hbusy
      rw [List.countP_cons_of_neg hnot]
      exact hle

/-- Every call starts a routine at most once, of those whose starts are answered, and
followed by what is read, as `replies` says. -/
def AtMostOnce (replies : List Bytes → List Bytes → Prop) : Prop :=
  ∀ (setting : Setting) (retry : RetryPolicy) (path op paramsJson lockId : Bytes)
    (w : World SessionManager),
    (∀ s ∈ startsOf setting retry path op paramsJson lockId w, s.Sent ∧ replies s.own s.read) →
      (startsOf setting retry path op paramsJson lockId w).countP Start.accepted ≤ 1

/-- If no accepted start ends busy, one is accepted at most. -/
theorem atMostOnce_of_clean {replies : List Bytes → List Bytes → Prop}
    (h : ∀ own read, replies own read → Readable read → accepted own = true →
      endsBusy read = false) : AtMostOnce replies := by
  intro setting retry path op paramsJson lockId w hreplies
  obtain ⟨new, hnew, hbusy⟩ := attempts_starts setting
    (executeOperation path op paramsJson lockId) retry.maxRetries.toNat { world := w }
  have hstarts : startsOf setting retry path op paramsJson lockId w = new := hnew
  rw [hstarts] at hreplies ⊢
  exact countP_accepted_le_one hbusy fun s hs => h s.own s.read (hreplies s hs).2 s.readable

/-! ## An ECU that is busy with what it accepted -/

namespace Restart

/-- What is delivered in answer to a start: an ack, and messages. -/
def delivered (call : Nat) (read : List Bytes) (request : Bytes) : List WireByte :=
  if isRoutineStart request then
    answering call ackFrame ++ read.flatMap fun m => answering call (replyFrame m)
  else []

/-- A connection on which every start is followed by the messages `read`. Nothing else is
answered in time; `late` says that these messages were meant for the first request. -/
def line (read : List Bytes) (late : Bool) : Line where
  ecuLogicalAddress := 0x0E80
  env wire request :=
    { arrivals := ofItems ((if wire = [] then answering 0 activationFrame else []) ++
        delivered (if late then 0 else wire.length) read request) }

/-- An entity with one routine. The ECU answers a start with `own`. -/
def server (own read : List Bytes) (late : Bool) : EcuServer where
  path := str "ecu"
  catalogData := some { operations := [{ id := str "selftest", routineId := 0x0203 }] }
  line := line read late
  ecu _ request := if isRoutineStart request then own else read

section

variable {read : List Bytes} {late : Bool}

/-- The connection is open for a call, with what is delivered on it. -/
theorem opens_delivered {wire : List Exchange} (request : Bytes)
    (hsock : wire ≠ [] → ((line read late).transport wire).sock = some []) :
    Opens ((line read late).env wire request) ((line read late).transport wire)
      (ofItems (delivered (if late then 0 else wire.length) read request)) := by
  by_cases hwire : wire = []
  · refine .inr ⟨by rw [hwire]; rfl, rfl, rfl, answering 0 activationFrame, ?_, ?_⟩
    · exact ⟨activationFrame.drop kHeaderSize, _, ⟨by decide, by decide⟩, rfl, rfl⟩
    · simp only [line, if_pos hwire, ofItems_append]
  · refine .inl ⟨[], hsock hwire, ?_⟩
    simp only [line, if_neg hwire, List.nil_append]

/-- A frame is its bytes, whatever call it answers. -/
theorem vals_answering (call : Nat) (bs : Bytes) : vals (answering call bs) = bs := by
  simp [vals, answering, Function.comp_def]

/-- A start reads the messages, and nothing is left after them. -/
theorem start_reads {wire : List Exchange} {request : Bytes}
    (hsock : wire ≠ [] → ((line read late).transport wire).sock = some [])
    (hstart : isRoutineStart request = true) (hread : Readable read)
    (hresolved : (resolveAnswer read).isSome = true) :
    (line read late).read wire request = read ∧
      ((line read late).transport (wire ++ [⟨request, none⟩])).sock = some [] := by
  let call := if late then 0 else wire.length
  let messages : List Received := read.map fun m => ⟨answering call (replyFrame m), m⟩
  have hpayloads : payloads messages = read := by
    rw [payloads, List.map_map]
    exact List.map_id read
  have hdiag : ∀ r ∈ messages, IsDiagnostic {} 0x0E80 r := by
    intro r hr
    obtain ⟨m, hm, rfl⟩ := List.mem_map.mp hr
    refine ⟨vals_answering .., ?_⟩
    have hfits := hread.2 m hm
    simp only [List.length_append, appendU16_length]
    omega
  have hack : IsFrame .diagnosticMessagePositiveAck (ackFrame.drop kHeaderSize)
      (answering call ackFrame) := ⟨by rw [vals_answering]; rfl, by decide⟩
  have hw : ofItems (delivered call read request) =
      ofItems (answering call ackFrame ++ messages.flatMap Received.frame) ++ [] := by
    rw [delivered, if_pos hstart, List.append_nil, List.flatMap_map]
  have hcall := messagesRead_eq request (opens_delivered request hsock) rfl hack hdiag hw
    (by rw [hpayloads]; exact hread.1) (by rw [hpayloads]; exact hresolved)
  refine ⟨(congrArg payloads hcall.1).trans hpayloads, ?_⟩
  rw [Line.transport_snoc]
  exact hcall.2

/-- Between the calls the connection holds nothing. -/
theorem transport_sock (hread : Readable read) (hresolved : (resolveAnswer read).isSome = true)
    (wire : List Exchange) (hwire : wire ≠ []) :
    ((line read late).transport wire).sock = some [] := by
  induction wire using List.reverseRecOn with
  | nil => exact absurd rfl hwire
  | append_singleton wire x ih =>
    by_cases hstart : isRoutineStart x.request = true
    · have hleft := (start_reads ih hstart hread hresolved).2
      rw [Line.transport_snoc] at hleft ⊢
      exact hleft
    · -- nothing comes, and so nothing is left
      obtain ⟨⟨w, hsock, hsuffix⟩, -⟩ := sendAndResolve_of_opens (line read late).cfg
        (line read late).ecuLogicalAddress x.request (opens_delivered x.request ih)
      rw [delivered, if_neg hstart] at hsuffix
      rw [Line.transport_snoc, hsock, List.suffix_nil.mp hsuffix]

/-- Every request is put on the wire. -/
theorem sends_all (hread : Readable read) (hresolved : (resolveAnswer read).isSome = true)
    (wire : List Exchange) (request : Bytes) : (line read late).sends wire request = true := by
  have hopen : Opens ((line read late).env wire request) ((line read late).transport wire) _ :=
    opens_delivered request (transport_sock hread hresolved wire)
  rcases connect_cases (line read late).cfg ((line read late).env wire request)
    ((line read late).transport wire) with ⟨w, t, hc, -, -⟩ | ⟨e, t, -, -, hnot⟩
  · unfold Line.sends
    dsimp only
    rw [hc]
    rfl
  · exact absurd hopen (hnot _)

end

/-- The start of the routine. -/
def start : Bytes := encodeRoutineControl kRoutineStart 0x0203 []

/-- A read that the ECU does not answer in time. -/
def unanswered : Exchange := ⟨encodeReadDataByIdentifier 0xF190, none⟩

def attempt : Attempt where
  env :=
    { ssl :=
        { hmacSha256 := fun _ _ => [], encodeBlock := fun _ => [], decodeBlock := fun _ => none }
      parse := fun _ => none }

/-- One ECU that answers as it is told, and a client that calls it. -/
def setting (own read : List Bytes) (late : Bool) : Setting where
  server := server own read late
  dump _ := []
  parse _ := none
  attempts _ := attempt

/-- The call that starts it. -/
def call : Call := executeOperation (str "ecu") (str "selftest") [] []

def req : Request where
  method := str "POST"
  path := str "/v1/entities/ecu/operations/selftest"
  body := str "\x7b\x7d"

/-- The request the call makes. -/
theorem target : operationTarget (fun _ => []) call = some (req, str "ecu", str "selftest") := by
  decide +kernel

/-- Messages that end `busy`, as one call can read them. -/
structure EndsBusy (read : List Bytes) : Prop where
  readable : Readable read
  busy : endsBusy read = true

section

variable {read : List Bytes}

/-- What ends busy is resolved. -/
theorem EndsBusy.resolved (h : EndsBusy read) : (resolveAnswer read).isSome = true := by
  have hbusy := h.busy
  unfold endsBusy at hbusy
  cases hres : resolveAnswer read with
  | none =>
    rw [hres] at hbusy
    cases hbusy
  | some resp => rfl

variable (own : List Bytes) (late : Bool)

/-- What ends busy is what the call reads. -/
theorem EndsBusy.read_start (h : EndsBusy read) (wire : List Exchange) :
    (line read late).read wire start = read :=
  (start_reads (transport_sock h.readable h.resolved wire) rfl h.readable h.resolved).1

/-- The start is sent, and what comes back is `busy`. -/
theorem executeOperation_busy (h : EndsBusy read) (s : SessionManager)
    (entityPath paramsJson : Bytes) :
    ∃ s', (server own read late).server.context.executeOperation s entityPath (str "selftest")
        paramsJson = (.busy, none, s') ∧
      ∃ response, s'.wire = s.wire ++ [⟨start, response⟩] := by
  obtain ⟨nrc, hnrc, hbusy⟩ : ∃ nrc, (resolveAnswer read).bind isNegativeResponse = some nrc ∧
      nrcToSovdResult nrc = .busy := by
    simpa [endsBusy, Option.any_eq_true] using h.busy
  obtain ⟨resp, hresp, hnrc⟩ := Option.bind_eq_some_iff.mp hnrc
  have hoperation : ((server own read late).server.context.catalogData.bind fun cat =>
      cat.findOperation (str "selftest")) =
        some { id := str "selftest", routineId := 0x0203 } := rfl
  have hreply : (line read late).bus.reply s.wire start = some resp := by
    rw [Line.bus_reply, h.read_start late, hresp]
  have hsend : send (server own read late).server.context.bus start s =
        (some resp, (send (server own read late).server.context.bus start s).2) :=
    Prod.ext hreply rfl
  refine ⟨_, ?_, some resp, (send_moves hsend).wire⟩
  rw [UdsContext.executeOperation, hoperation]
  simp only [UdsContext.ensureSessionNamed, Option.bind_none]
  rw [show encodeRoutineControl kRoutineStart 0x0203 [] = start from rfl, hsend]
  simp only [decodeRoutineControl_of_negative hnrc, negativeOrInternal, hnrc, hbusy]

/-- One POST, with what the handler makes of it. -/
theorem exchange_eq {s : CallState} {out : World SessionManager × Outcome}
    (hout : handlePostOperation (server own read late).server.router attempt.env req (str "ecu")
      (str "selftest") s.world = out) :
    exchange (setting own read late) call s = (.ok (respond (fun _ => []) out.2),
      { world := out.1, attempt := s.attempt + 1
        starts := s.starts ++ (server own read late).starts s.world.adapter.wire
          (out.1.adapter.wire.drop s.world.adapter.wire.length) }) := by
  have hattempt : (setting own read late).attempts s.attempt = attempt := rfl
  have htarget : (if attempt.refused then none
      else operationTarget (setting own read late).dump call) =
      some (req, str "ecu", str "selftest") := target
  unfold exchange
  rw [hattempt]
  dsimp only
  rw [htarget]
  dsimp only
  have hworld : attempt.meanwhile s.world = s.world := rfl
  rw [hworld]
  have hserver : (setting own read late).server = server own read late := rfl
  rw [hserver, hout]
  rfl

/-- One POST to the unlocked entity starts the routine and is answered 503. -/
theorem exchange_busy (h : EndsBusy read) {s : CallState} (hfree : s.world.locks = {}) :
    ∃ res s', exchange (setting own read late) call s = (.ok res, s') ∧
      isRetried res.status = true ∧ s'.world.locks = {} ∧
      s'.starts = s.starts ++ [(server own read late).start s.world.adapter.wire start] ∧
      ∃ response, s'.world.adapter.wire = s.world.adapter.wire ++ [⟨start, response⟩] := by
  obtain ⟨adapter, hr, response, hwire⟩ := executeOperation_busy own late h
    s.world.adapter (cStr (str "ecu")) (cStr (operationParams req.body))
  have hlock : checkLockHeader attempt.env req (str "ecu") s.world.locks = true := by
    rw [hfree]
    rfl
  have hacts : Acts (server own read late).server.router attempt.env req (str "ecu")
      (correlationIdFor attempt.env req {}).1 s.world.adapter (.postOperation (str "selftest")) _ :=
    .postOperation ⟨_, (server own read late).server.find, rfl, rfl⟩ hr
  obtain ⟨out, hout⟩ : ∃ out, handlePostOperation (server own read late).server.router attempt.env
      req (str "ecu") (str "selftest") s.world = out := ⟨_, rfl⟩
  have hhandle := handle_of_acts hlock hacts
  have hreport := acts_reported hlock hacts
  rw [GatedHandler.handle, hout] at hhandle hreport
  have hstatus : finalStatus out.2 = 503 := by
    rw [hhandle]
    exact report_busy rfl (by decide : Utf8.valid (str "operation failed") = true)
  have hadapter : out.1.adapter.wire = s.world.adapter.wire ++ [⟨start, response⟩] :=
    (congrArg SessionManager.wire hreport.adapter).trans hwire
  have hsends : (server own read late).line.sends s.world.adapter.wire start = true :=
    sends_all h.readable h.resolved _ _
  have hexchange := exchange_eq own late hout
  refine ⟨_, _, hexchange, ?_, ?_, ?_, response, hadapter⟩
  · show isRetried (finalStatus out.2) = true
    rw [hstatus]
    rfl
  · exact hreport.locks.trans hfree
  · dsimp only
    rw [hadapter, List.drop_left, EcuServer.starts, hsends]
    rfl

/-- The call makes two starts out of one. -/
theorem startsOf_busy (h : EndsBusy read) (wire : List Exchange) :
    ∃ response, startsOf (setting own read late) { maxRetries := 1 } (str "ecu") (str "selftest")
      [] [] { adapter := { wire } } =
        [(server own read late).start wire start,
          (server own read late).start (wire ++ [⟨start, response⟩]) start] := by
  obtain ⟨res, s, hfirst, hretried, hfree, hstarts, response, hwire⟩ :=
    exchange_busy own late h (s := { world := { adapter := { wire } } }) rfl
  obtain ⟨res', s', hsecond, -, -, hstarts', -⟩ :=
    exchange_busy own late h hfree
  refine ⟨response, ?_⟩
  unfold startsOf request
  have hleft : ({ maxRetries := 1 } : RetryPolicy).maxRetries.toNat = 1 := rfl
  have hcall : executeOperation (str "ecu") (str "selftest") [] [] = call := rfl
  rw [hleft, hcall, attempts_retried hfirst hretried, attempts_last hsecond, hstarts', hstarts,
    hwire]
  rfl

/-- What a start reads was sent: in answer to it, or late in answer to the first request. -/
theorem start_sent (h : EndsBusy read) {wire : List Exchange}
    (hown : own = read ∨ ∃ rest, wire = unanswered :: rest) :
    ((server own read late).start wire start).Sent := by
  intro m hm
  have hmem : m ∈ read := h.read_start late wire ▸ hm
  rcases hown with rfl | ⟨rest, rfl⟩
  · exact .inl hmem
  · refine .inr ⟨read, ?_, hmem⟩
    have hsends : (server own read late).line.sends [] unanswered.request = true :=
      sends_all h.readable h.resolved _ _
    show read ∈ (server own read late).answers [] (unanswered :: rest)
    rw [EcuServer.answers, if_pos hsends]
    exact List.mem_append_left _ (List.mem_singleton_self _)

end

end Restart

/-- **A call starts a routine at most once exactly where no start that the ECU accepts is
followed by messages that end `busy`**: still pending after ten more messages, or with an
NRC that says to try again. -/
theorem at_most_once_iff (replies : List Bytes → List Bytes → Prop) :
    AtMostOnce replies ↔ ∀ own read, replies own read → Readable read → accepted own = true →
      endsBusy read = false := by
  refine ⟨fun h own read hreplies hreadable hacc => ?_, atMostOnce_of_clean⟩
  by_contra hbusy
  have hread : Restart.EndsBusy read := ⟨hreadable, eq_true_of_ne_false hbusy⟩
  -- the messages may be an older answer, to a request that was not answered in time
  obtain ⟨response, hstarts⟩ := Restart.startsOf_busy own true hread
    [Restart.unanswered]
  have hle := h (Restart.setting own read true) { maxRetries := 1 } (str "ecu") (str "selftest")
    [] [] { adapter := { wire := [Restart.unanswered] } } fun s hs => by
      rw [hstarts] at hs
      have hboth : ∀ wire, ((Restart.server own read true).start (Restart.unanswered :: wire)
          Restart.start).Sent ∧ replies own ((Restart.line read true).read
            (Restart.unanswered :: wire) Restart.start) := by
        intro wire
        rw [hread.read_start true]
        exact ⟨Restart.start_sent own true hread (.inr ⟨wire, rfl⟩), hreplies⟩
      rcases List.mem_cons.mp hs with rfl | hs
      · exact hboth []
      · rw [List.mem_singleton.mp hs]
        exact hboth [⟨Restart.start, response⟩]
  rw [hstarts] at hle
  have haccepted : ∀ wire, ((Restart.server own read true).start wire Restart.start).accepted =
      true := fun _ => hacc
  simp [haccepted] at hle

/-- A routine that is still running after ten pending responses is started again. -/
theorem started_twice :
    (startsOf (Restart.setting (List.replicate 11 [0x7F, 0x31, 0x78])
      (List.replicate 11 [0x7F, 0x31, 0x78]) false) { maxRetries := 1 }
      (str "ecu") (str "selftest") [] [] { adapter := {} }).countP Start.accepted = 2 := by
  have hread : Restart.EndsBusy (List.replicate 11 [0x7F, 0x31, 0x78]) :=
    ⟨⟨by decide, by decide⟩, by decide⟩
  obtain ⟨response, hstarts⟩ := Restart.startsOf_busy _ false hread []
  rw [hstarts]
  rfl

end SovdClient

end Sovd
