import Sovd.Json.RoundTrip
import Sovd.Server.Dispatch
import Sovd.Server.LockHold
import Sovd.Server.TwoTier

/-!
# The client against the server

`SovdClient` on one side, `routing` on the other, the vendored HTTP library and its JSON
between them. A call of the client is one or more requests to the server, among those of
everybody else, and any of them or its answer may get lost (`Session`).

Three things are proved of it. An exchange is answered, or not, by what happened at the server
(`overHttp_exchanged`); the request that is sent is the one the call is for, and goes to the
handler it is meant for (`carries_of_call`); and a document arrives as it was sent
(`finish_document`). `call_ends` puts them together: all that can come of a call.
What is proved of the server so holds of what its clients see: whoever's `acquire_lock`
returns has the entity for himself (`acquired_lock_excludes`).

Mirroring notes vs the C++:
- The headers of a request are the content type, if it has a body to speak of, and the lock
  id; those the library adds of its own accord are not in the model, but for the length of
  the body.
- A turn is one exchange with all that happens at the server since the one before; a client
  without turns gets no answer.
- The client writes a lock id as it is given it. One with a CR LF in it is two header lines, or
  the end of the headers, and what the server makes of it is left open (`garbled`).
- `failure` is the library's text for what went wrong.
-/

namespace Sovd

open Httplib Wildcard

variable {σ : Type}

namespace SovdClient

/-- What `Get`, `Post`, `Put` and `Delete` are given. -/
def Call.sent (dump : Json → Bytes) (call : Call) : ClientRequest :=
  let hasContent := call.method = str "POST" ∨ call.method = str "PUT"
  { method := call.method
    path := call.urlPath
    headers :=
      (if hasContent then [(str "Content-Type", str "application/json")] else []) ++
        (if call.lockId = [] then [] else [(lockIdName, call.lockId)])
    body := if hasContent then call.body.bytes dump else [] }

/-! ## What a call meets -/

/-- What else happens at the server. -/
inductive Other (σ : Type)
  | request (env : ServerEnv) (req : Request)
  | background (adapter : σ) (hub : HubSys)

def Other.after (S : HttpServer σ) (s : ServerState σ) : Other σ → ServerState σ
  | request env req => (routing S env req s).1
  | background adapter hub => { s with world := { s.world with adapter }, hub }

def Other.event (answer : Answer) : Other σ → HttpEvent σ
  | request env req => .request env req answer
  | background adapter hub => .background adapter hub

/-- One exchange, and what went before it at the server. -/
structure Turn (σ : Type) where
  others : List (Other σ) := []
  env : ServerEnv
  delivery : Delivery := .answered
  failure : Bytes := []
  /-- What comes of a request whose lock id has a line end in it. -/
  garbled : ServerState σ → Except Bytes RemoteResponse × ServerState σ := fun s => (.error [], s)

/-- The server, and the exchanges a client has with it. -/
structure Session (σ : Type) where
  server : ServerState σ
  turns : List (Turn σ)

/-- The lock id is written on one line. -/
def Call.OneLine (call : Call) : Prop := ¬ crlf <:+: call.lockId

instance (call : Call) : Decidable call.OneLine := inferInstanceAs (Decidable (¬ _))

/-- One request of the client. -/
def overHttp (S : HttpServer σ) (dump : Json → Bytes) (call : Call) (w : Session σ) :
    Except Bytes RemoteResponse × Session σ :=
  match w.turns with
  | [] => (.error [], w)
  | turn :: turns =>
    let s := turn.others.foldl (Other.after S) w.server
    if turn.delivery = .requestLost then (.error turn.failure, ⟨s, turns⟩)
    -- what stands behind the line end is a header, or a request, of its own
    else if crlf <:+: call.lockId then
      let (back, s) := turn.garbled s
      (back, ⟨s, turns⟩)
    else
      let (s, back) := processRequest S dump turn.env (writeRequest (call.sent dump)) s
      match if turn.delivery = .answered then back else none with
      | none => (.error turn.failure, ⟨s, turns⟩)
      | some back => (.ok back, ⟨s, turns⟩)

/-- An event of a session: one of the others', or a request of the call. -/
def Session.Saw (w : Session σ) (sent : ClientRequest) (e : HttpEvent σ) : Prop :=
  ∃ turn ∈ w.turns, (∃ o ∈ turn.others, ∃ answer, e = o.event answer) ∨
    ∃ remote answer, received (writeRequest sent) = some remote ∧
      e = .request turn.env remote answer

/-- The next exchange brings no answer: there is none, the request or the answer is lost on its
way, or the answer has headers that cannot be read. -/
def Session.Unanswered (S : HttpServer σ) (dump : Json → Bytes) (call : Call) (w : Session σ) :
    Prop :=
  ∀ turn turns, w.turns = turn :: turns → turn.delivery = .answered →
    ∃ remote, received (writeRequest (call.sent dump)) = some remote ∧
      readAnswer dump (routing S turn.env remote
        (turn.others.foldl (Other.after S) w.server)).2 = none

section

variable {S : HttpServer σ} {dump : Json → Bytes} {call : Call} {w w' v : Session σ}
  {s t : ServerState σ}

/-- What the others do is a run of the server. -/
theorem run_others (others : List (Other σ)) (s : ServerState σ) :
    ∃ es, (httpLts S).Run s es (others.foldl (Other.after S) s) ∧
      ∀ e ∈ es, ∃ o ∈ others, ∃ answer, e = o.event answer := by
  induction others generalizing s with
  | nil => exact ⟨[], rfl, by simp⟩
  | cons o others ih =>
    obtain ⟨es, hrun, hes⟩ := ih (o.after S s)
    have hstep : ∃ answer, (httpLts S).step s (o.event answer) (o.after S s) := by
      cases o with
      | request env req => exact ⟨_, request_step S env req s⟩
      | background adapter hub => exact ⟨.error .outOfRange, rfl⟩
    obtain ⟨answer, hstep⟩ := hstep
    refine ⟨o.event answer :: es, ⟨_, hstep, hrun⟩, ?_⟩
    intro e he
    rcases List.mem_cons.mp he with rfl | he
    · exact ⟨o, List.mem_cons_self, answer, rfl⟩
    · obtain ⟨o', ho', hevent⟩ := hes e he
      exact ⟨o', List.mem_cons_of_mem _ ho', hevent⟩

/-- How one exchange ends, and what has happened at the server. -/
inductive Exchanged (S : HttpServer σ) (dump : Json → Bytes) (call : Call) (w : Session σ)
    (t : ServerState σ) : Except Bytes RemoteResponse → Prop
  | failed {es : List (HttpEvent σ)} (hrun : (httpLts S).Run w.server es t)
      (hes : ∀ e ∈ es, w.Saw (call.sent dump) e) (hlost : w.Unanswered S dump call)
      (failure : Bytes) : Exchanged S dump call w t (.error failure)
  | unread {es : List (HttpEvent σ)} (hrun : (httpLts S).Run w.server es t)
      (hes : ∀ e ∈ es, w.Saw (call.sent dump) e)
      (hread : received (writeRequest (call.sent dump)) = none) {back : RemoteResponse}
      (hstatus : back.status = 400 ∨ back.status = 414) (hbody : back.body = []) :
      Exchanged S dump call w t (.ok back)
  | answered {es : List (HttpEvent σ)} {s : ServerState σ} {turn : Turn σ} {remote : Request}
      {reply : Answer} {back : RemoteResponse} (hrun : (httpLts S).Run w.server es s)
      (hes : ∀ e ∈ es, w.Saw (call.sent dump) e) (hturn : turn ∈ w.turns)
      (hread : received (writeRequest (call.sent dump)) = some remote)
      (hstep : (httpLts S).step s (.request turn.env remote reply) t)
      (hback : readAnswer dump reply = some back) : Exchanged S dump call w t (.ok back)

/-- What has happened at the server, however it ended. -/
theorem Exchanged.run {out : Except Bytes RemoteResponse} (h : Exchanged S dump call w t out) :
    ∃ es, (httpLts S).Run w.server es t ∧ ∀ e ∈ es, w.Saw (call.sent dump) e := by
  cases h with
  | failed hrun hes => exact ⟨_, hrun, hes⟩
  | unread hrun hes => exact ⟨_, hrun, hes⟩
  | answered hrun hes hturn hread hstep =>
    refine ⟨_, Lts.run_concat.mpr ⟨_, hrun, hstep⟩, fun e he => ?_⟩
    rcases List.mem_append.mp he with he | he
    · exact hes e he
    · obtain rfl := List.mem_singleton.mp he
      exact ⟨_, hturn, .inr ⟨_, _, hread, rfl⟩⟩

/-- What is seen of fewer turns is seen of all. -/
theorem Session.Saw.mono {sent : ClientRequest} {e : HttpEvent σ} (h : v.Saw sent e)
    (hturns : v.turns ⊆ w.turns) : w.Saw sent e := by
  obtain ⟨turn, hturn, hsaw⟩ := h
  exact ⟨turn, hturns hturn, hsaw⟩

/-- What a server does with what it is sent. -/
theorem processRequest_cases {env : ServerEnv} {wire : Wire} {back : Option RemoteResponse}
    (hplain : ∀ remote, received wire = some remote → PlainRequest remote)
    (h : processRequest S dump env wire s = (t, back)) :
    (received wire = none ∧ t = s ∧
      ∃ b, back = some b ∧ (b.status = 400 ∨ b.status = 414) ∧ b.body = []) ∨
    ∃ remote, received wire = some remote ∧ t = (routing S env remote s).1 ∧
      back = readAnswer dump (routing S env remote s).2 := by
  cases hread : received wire with
  | none =>
    rw [processRequest, hread] at h
    obtain ⟨rfl, rfl⟩ := Prod.mk.inj h
    refine .inl ⟨rfl, rfl, _, rfl, ?_, rfl⟩
    dsimp only
    split_ifs
    · exact .inr rfl
    · exact .inl rfl
  | some remote =>
    rw [processRequest_of_plain hread (hplain remote hread)] at h
    obtain ⟨rfl, rfl⟩ := Prod.mk.inj h
    exact .inr ⟨remote, rfl, rfl, rfl⟩

/-- **One exchange.** -/
theorem overHttp_exchanged {out : Except Bytes RemoteResponse} (hline : call.OneLine)
    (hplain : ∀ remote, received (writeRequest (call.sent dump)) = some remote →
      PlainRequest remote) (h : overHttp S dump call w = (out, w')) :
    Exchanged S dump call w w'.server out ∧ w'.turns ⊆ w.turns := by
  unfold overHttp at h
  cases hturns : w.turns with
  | nil =>
    rw [hturns] at h
    obtain ⟨rfl, rfl⟩ := Prod.mk.inj h
    have hlost : w.Unanswered S dump call := by
      intro turn turns hcons
      rw [hturns] at hcons
      cases hcons
    have hrun : (httpLts S).Run w.server [] w.server := rfl
    exact ⟨.failed hrun (fun e he => absurd he List.not_mem_nil) hlost _,
      hturns ▸ List.Subset.refl _⟩
  | cons turn turns =>
    rw [hturns] at h
    have hmem : turn ∈ w.turns := hturns ▸ List.mem_cons_self
    have hsub : turns ⊆ turn :: turns := List.subset_cons_self turn turns
    obtain ⟨es, hrun, hes⟩ := run_others (S := S) turn.others w.server
    have hsaw : ∀ e ∈ es, w.Saw (call.sent dump) e := fun e he => ⟨turn, hmem, .inl (hes e he)⟩
    -- a turn that is not answered, or not so that it can be read
    have hlost : (turn.delivery = .answered → ∃ remote,
        received (writeRequest (call.sent dump)) = some remote ∧
          readAnswer dump (routing S turn.env remote
            (turn.others.foldl (Other.after S) w.server)).2 = none) →
        w.Unanswered S dump call := by
      intro hnone turn' turns' hcons
      rw [hturns] at hcons
      obtain ⟨rfl, rfl⟩ := List.cons.inj hcons
      exact hnone
    dsimp only at h
    by_cases hgone : turn.delivery = .requestLost
    · rw [if_pos hgone] at h
      obtain ⟨rfl, rfl⟩ := Prod.mk.inj h
      refine ⟨.failed hrun hsaw (hlost fun hanswered => ?_) _, hsub⟩
      rw [hgone] at hanswered
      cases hanswered
    rw [if_neg hgone, if_neg hline] at h
    cases hprocess : processRequest S dump turn.env (writeRequest (call.sent dump))
        (turn.others.foldl (Other.after S) w.server) with
    | mk t back =>
      rw [hprocess] at h
      dsimp only at h
      rcases processRequest_cases hplain hprocess with ⟨hread, rfl, b, rfl, hstatus, hbody⟩ |
        ⟨remote, hread, rfl, rfl⟩
      · by_cases hanswered : turn.delivery = .answered
        · rw [if_pos hanswered] at h
          obtain ⟨rfl, rfl⟩ := Prod.mk.inj h
          exact ⟨.unread hrun hsaw hread hstatus hbody, hsub⟩
        · rw [if_neg hanswered] at h
          obtain ⟨rfl, rfl⟩ := Prod.mk.inj h
          exact ⟨.failed hrun hsaw (hlost fun h => absurd h hanswered) _, hsub⟩
      · have hstep := request_step S turn.env remote
          (turn.others.foldl (Other.after S) w.server)
        have hall : ∀ e ∈ es ++ [.request turn.env remote (routing S turn.env remote
            (turn.others.foldl (Other.after S) w.server)).2], w.Saw (call.sent dump) e := by
          intro e he
          rcases List.mem_append.mp he with he | he
          · exact hsaw e he
          · obtain rfl := List.mem_singleton.mp he
            exact ⟨turn, hmem, .inr ⟨_, _, hread, rfl⟩⟩
        have hfull := Lts.run_concat.mpr ⟨_, hrun, hstep⟩
        by_cases hanswered : turn.delivery = .answered
        · rw [if_pos hanswered] at h
          cases hback : readAnswer dump (routing S turn.env remote
              (turn.others.foldl (Other.after S) w.server)).2 with
          | none =>
            rw [hback] at h
            obtain ⟨rfl, rfl⟩ := Prod.mk.inj h
            exact ⟨.failed hfull hall (hlost fun _ => ⟨remote, hread, hback⟩) _, hsub⟩
          | some back =>
            rw [hback] at h
            obtain ⟨rfl, rfl⟩ := Prod.mk.inj h
            exact ⟨.answered hrun hsaw hmem hread hstep hback, hsub⟩
        · rw [if_neg hanswered] at h
          obtain ⟨rfl, rfl⟩ := Prod.mk.inj h
          exact ⟨.failed hfull hall (hlost fun h => absurd h hanswered) _, hsub⟩

/-- What the attempts did that were told to come back later. -/
theorem run_of_retried (hline : call.OneLine)
    (hplain : ∀ remote, received (writeRequest (call.sent dump)) = some remote →
      PlainRequest remote) {n : Nat} (h : Retried (overHttp S dump) call n w v) :
    v.turns ⊆ w.turns ∧ ∃ es, (httpLts S).Run w.server es v.server ∧
      ∀ e ∈ es, w.Saw (call.sent dump) e := by
  induction h with
  | none w => exact ⟨List.Subset.refl _, [], rfl, fun e he => absurd he List.not_mem_nil⟩
  | again hexchange hretried hrest ih =>
    obtain ⟨hended, hturns⟩ := overHttp_exchanged hline hplain hexchange
    obtain ⟨es, hrun, hes⟩ := hended.run
    obtain ⟨hturns', es', hrun', hes'⟩ := ih
    refine ⟨fun turn hturn => hturns (hturns' hturn), es ++ es',
      Lts.run_append.mpr ⟨_, hrun, hrun'⟩, fun e he => ?_⟩
    rcases List.mem_append.mp he with he | he
    · exact hes e he
    · exact (hes' e he).mono hturns

end

end SovdClient

/-! ## The request a call makes -/

/-- The URL of a call is dispatched to the handler it is meant for. -/
theorem dispatch_call {p : EntityPath} {c : ClientCall} (h : ¬ c.Misrouted p) :
    dispatch (c.call p.text).method (str "/v1/entities/" ++ (c.urlParts p.text).1) =
      some (c.target p.text) := by
  cases c with
  | getDocs => exact (dispatch_getDocs_iff p).mpr h
  | getFaults _ => exact dispatch_getFaults p
  | clearFaults _ => exact dispatch_clearFaults p
  | getData id => exact (dispatch_getData_iff p id).mpr h
  | getDataBatch _ => exact dispatch_getDataBatch p
  | putData id _ _ => exact dispatch_putData p id
  | setMode _ _ => exact dispatch_setMode p
  | executeOperation op _ _ => exact (dispatch_executeOperation_iff p op).mpr h
  | acquireLock _ => exact (dispatch_acquireLock_iff p).mpr h
  | renewLock lockId _ => exact (dispatch_renewLock_iff p lockId).mpr h
  | releaseLock lockId => exact (dispatch_releaseLock_iff p lockId).mpr h
  | subscribeData id _ => exact dispatch_subscribeData p id

/-- The handler a call is meant for, and what it is to get besides the path. -/
def ClientCall.handler (c : ClientCall) : Handler := (c.target []).1

def ClientCall.item (c : ClientCall) : Bytes := (c.target []).2.getD 1 []

theorem ClientCall.target_eq (c : ClientCall) (path : Bytes) :
    (c.target path).1 = c.handler ∧ (c.target path).2.getD 0 [] = path ∧
      (c.target path).2.getD 1 [] = c.item := by
  cases c <;> exact ⟨rfl, rfl, rfl⟩

/-- The lock id as a server reads it. -/
def readLockId (lockId : Bytes) : Bytes := cStr (headerText lockId)

/-- What the server reads of a call. -/
structure Carries (dump : Json → Bytes) (p : EntityPath) (c : ClientCall) (remote : Request) :
    Prop where
  routed : Routed remote c.handler p.text c.item
  body : remote.body = ((c.call p.text).sent dump).body
  lockId : headerValue remote.headers (str "X-SOVD-Lock-Id") =
    readLockId (c.call p.text).lockId

/-- The headers of a call are read one by one, and of them the lock id is found. -/
theorem headerValue_of_call {dump : Json → Bytes} {call : SovdClient.Call} {hs : Headers}
    (h : readHeaders ((call.sent dump).headers.map headerLine) = some hs) :
    headerValue hs (str "X-SOVD-Lock-Id") = readLockId call.lockId := by
  have hcontent : receiveHeader (str "Content-Type", str "application/json") =
      some (str "Content-Type", str "application/json") := by decide +kernel
  have hother : caseIgnoreEqual (str "Content-Type") (str "X-SOVD-Lock-Id") = false := by decide
  have hself : caseIgnoreEqual lockIdName (str "X-SOVD-Lock-Id") = true := by decide
  -- behind a content type or not
  have hskip : ∀ hs : Headers, headerValue
      ((str "Content-Type", str "application/json") :: hs) (str "X-SOVD-Lock-Id") =
        headerValue hs (str "X-SOVD-Lock-Id") := by
    intro hs
    unfold headerValue
    rw [List.find?_cons_of_neg (by simp [hother])]
  have hlock : ∀ {hs : Headers},
      (if call.lockId = [] then [] else [(lockIdName, call.lockId)]).mapM receiveHeader =
        some hs → headerValue hs (str "X-SOVD-Lock-Id") = readLockId call.lockId := by
    intro hs hs'
    split_ifs at hs' with hnone
    · obtain rfl := Option.some.inj hs'
      rw [hnone]
      rfl
    · obtain ⟨-, rfl⟩ := (mapM_receiveHeader (by simp) hs).mp hs'
      simp only [headerValue, List.map_cons, List.map_nil, List.find?_cons, hself]
      rfl
  rw [readHeaders_eq, SovdClient.Call.sent] at h
  dsimp only at h
  by_cases hcall : call.method = str "POST" ∨ call.method = str "PUT"
  · rw [if_pos hcall, List.singleton_append, List.mapM_cons, hcontent] at h
    obtain ⟨first, hfirst, hrest⟩ := Option.bind_eq_some_iff.mp h
    obtain ⟨hs', hread, hcons⟩ := Option.bind_eq_some_iff.mp hrest
    obtain rfl := Option.some.inj hfirst
    obtain rfl := Option.some.inj hcons
    rw [hskip]
    exact hlock hread
  · rw [if_neg hcall, List.nil_append] at h
    exact hlock h

/-- What the server reads of a call, wherever it leads. -/
theorem received_call {dump : Json → Bytes} {p : EntityPath} {c : ClientCall} {remote : Request}
    (h : received (writeRequest ((c.call p.text).sent dump)) = some remote) :
    remote.method = (c.call p.text).method ∧
      remote.path = str "/v1/entities/" ++ (c.urlParts p.text).1 ∧
      remote.body = ((c.call p.text).sent dump).body ∧
      headerValue remote.headers (str "X-SOVD-Lock-Id") = readLockId (c.call p.text).lockId := by
  obtain ⟨read, hread, rfl⟩ := Option.map_eq_some_iff.mp h
  have hline : (writeRequest ((c.call p.text).sent dump)).requestLine =
      requestLine (c.call p.text).method (encodeUrl (str "/v1/entities/" ++
        (c.urlParts p.text).1 ++ (c.urlParts p.text).2)) := by
    rw [← urlPath_eq]
    rfl
  obtain ⟨req, hreq, hmethod, hpath⟩ := parseRequestLine_url (call_method p.text c)
    (urlParts_plain p c) (urlParts_query p.text c)
  unfold receive at hread
  split_ifs at hread
  rw [hline, hreq, Option.bind_some] at hread
  obtain ⟨hs, hhs, rfl⟩ := Option.map_eq_some_iff.mp hread
  obtain ⟨hm, hp, -, hb⟩ := framed_fields (writeRequest ((c.call p.text).sent dump))
    { req with headers := hs, body := if expectContent req.method
      then (writeRequest ((c.call p.text).sent dump)).body else [] }
  refine ⟨hm.trans hmethod, hp.trans hpath, ?_, ?_⟩
  · rw [hb]
    dsimp only
    rw [hmethod]
    show (if expectContent (c.call p.text).method
      then ((c.call p.text).sent dump).body else []) = ((c.call p.text).sent dump).body
    have hpost : expectContent (str "POST") = true := by decide
    have hput : expectContent (str "PUT") = true := by decide
    -- a method without content sends none
    by_cases hcall : (c.call p.text).method = str "POST" ∨ (c.call p.text).method = str "PUT"
    · have hexpect : expectContent (c.call p.text).method = true := by
        rcases hcall with hcall | hcall
        · rw [hcall, hpost]
        · rw [hcall, hput]
      rw [if_pos hexpect]
    · have hnone : ((c.call p.text).sent dump).body = [] := if_neg hcall
      rw [hnone, ite_self]
  · rw [Tiers.headerValue_framed]
    exact headerValue_of_call hhs

/-- The headers of a call are its content type and its lock id. -/
theorem name_of_sent {dump : Json → Bytes} {call : SovdClient.Call} {h : Bytes × Bytes}
    (hmem : h ∈ (call.sent dump).headers) : h.1 = str "Content-Type" ∨ h.1 = lockIdName := by
  rcases List.mem_append.mp hmem with hmem | hmem
  · split_ifs at hmem
    · exact .inl (congrArg Prod.fst (List.mem_singleton.mp hmem))
    · cases hmem
  · split_ifs at hmem
    · cases hmem
    · exact .inr (congrArg Prod.fst (List.mem_singleton.mp hmem))

/-- A client asks for no ranges. -/
theorem plain_of_call {dump : Json → Bytes} {p : EntityPath} {c : ClientCall} {remote : Request}
    (h : received (writeRequest ((c.call p.text).sent dump)) = some remote) :
    PlainRequest remote := by
  constructor
  · intro hhead
    have hmethod := call_method p.text c
    rw [← (received_call h).1, hhead] at hmethod
    exact absurd hmethod (by decide)
  · refine requestRanges_eq_nil.mpr (hasHeader_received h ?_ ?_ (by decide))
    · intro h hmem
      rcases name_of_sent hmem with hname | hname
      · rw [hname]
        decide
      · rw [hname]
        decide
    · intro h hmem
      rcases name_of_sent hmem with hname | hname
      · rw [hname]
        decide
      · rw [hname]
        decide

/-- **A call reaches the handler it is meant for**, with what it was given. -/
theorem carries_of_call {dump : Json → Bytes} {p : EntityPath} {c : ClientCall} {remote : Request}
    (hc : ¬ c.Misrouted p)
    (h : received (writeRequest ((c.call p.text).sent dump)) = some remote) :
    Carries dump p c remote := by
  obtain ⟨hmethod, hpath, hbody, hlock⟩ := received_call h
  refine ⟨?_, hbody, hlock⟩
  obtain ⟨hhandler, hentity, hitem⟩ := c.target_eq p.text
  refine ⟨(c.target p.text).2, ?_, hentity, hitem⟩
  rw [hmethod, hpath, ← hhandler]
  exact dispatch_call hc

/-! ## What comes back -/

/-- `json::dump` -/
def dumpText (grisu2 : Rat → Bytes × Int) (j : Json) : Bytes := j.stored.text grisu2

section

variable {grisu2 : Rat → Bytes × Int}

theorem parse_dumpText (hg : Grisu2Correct grisu2) {j : Json} (hutf : j.utf8 = true)
    (hrange : j.InRange) : parseJson (dumpText grisu2 j) = some j.stored.received :=
  parseJson_text hg (Json.sendable_stored j hutf hrange)

theorem dumpText_ne_nil (hg : Grisu2Correct grisu2) {j : Json} (hutf : j.utf8 = true)
    (hrange : j.InRange) : dumpText grisu2 j ≠ [] := by
  intro hnil
  have hparse := parse_dumpText hg hutf hrange
  rw [hnil] at hparse
  have hempty : parseJson [] = none := by decide +kernel
  rw [hempty] at hparse
  cases hparse

/-- Two members in the order of their keys are stored in that order. -/
theorem stored_pair {k k' : Bytes} {v v' : Json} (h : k < k') :
    (Json.obj [(k, v), (k', v')]).stored = .obj [(k, v.stored), (k', v'.stored)] := by
  have hput : SortedTable.put k' v'.stored [(k, v.stored)] = [(k, v.stored), (k', v'.stored)] := by
    refine SortedTable.put_of_lt fun q hq => ?_
    obtain rfl := List.mem_singleton.mp hq
    exact h
  rw [Json.stored, Json.storedMembers, Json.storedMembers, Json.storedMembers]
  exact congrArg Json.obj hput

/-- The body of an error as the library holds and reads it. -/
theorem received_error (code message : Bytes) :
    (Json.obj [(str "error", .str code), (str "message", .str message)]).stored.received =
      .obj [(str "error", .str code), (str "message", .str message)] := by
  rw [stored_pair (by decide)]
  rfl

/-- The document of an answer, as the client's `request` returns or throws it. -/
theorem finish_document (hg : Grisu2Correct grisu2) {res : Response} {j : Json}
    {back : RemoteResponse} (hback : readAnswer (dumpText grisu2) (.ok res) = some back)
    (hbody : res.body = .json j) (h204 : res.status ≠ 204) (hutf : j.utf8 = true)
    (hrange : j.InRange) :
    (200 ≤ answerStatus (.ok res) ∧ answerStatus (.ok res) < 300 →
      SovdClient.finish parseJson back = .ok j.stored.received) ∧
    (¬ (200 ≤ answerStatus (.ok res) ∧ answerStatus (.ok res) < 300) → ∀ code message,
      j = .obj [(str "error", .str code), (str "message", .str message)] →
        SovdClient.finish parseJson back = .error ⟨answerStatus (.ok res), code, message⟩) := by
  obtain ⟨headers, -, rfl⟩ := Option.map_eq_some_iff.mp hback
  have htext : sentBody (dumpText grisu2) (.ok res) = dumpText grisu2 j := by
    unfold sentBody
    dsimp only
    rw [if_neg h204, hbody]
    rfl
  have hparse := parse_dumpText hg hutf hrange
  constructor
  · intro hsuccess
    unfold SovdClient.finish
    dsimp only
    rw [if_neg (by omega), htext, if_neg (dumpText_ne_nil hg hutf hrange), hparse]
  · intro hfailure code message hj
    subst hj
    unfold SovdClient.finish SovdClient.errorBody
    dsimp only
    rw [if_pos (by omega), htext, hparse, received_error]
    rfl

/-- An error without a body has the status for its code. -/
theorem finish_empty {back : RemoteResponse} (h : back.status < 200 ∨ 300 ≤ back.status)
    (hbody : back.body = []) :
    SovdClient.finish parseJson back =
      .error ⟨back.status, str "HTTP_" ++ intText back.status, []⟩ := by
  have hnone : parseJson [] = none := by decide +kernel
  unfold SovdClient.finish SovdClient.errorBody
  rw [if_pos h, hbody]
  simp only [hnone]

/-- What a call returns or throws is what it was answered. -/
structure Reports (reply : Answer) (result : Except SovdError Json) : Prop where
  success : ∀ j, result = .ok j → 200 ≤ answerStatus reply ∧ answerStatus reply < 300
  document : ∀ res j, reply = .ok res → res.body = .json j → res.status ≠ 204 →
    j.utf8 = true → j.InRange → 200 ≤ answerStatus reply ∧ answerStatus reply < 300 →
      result = .ok j.stored.received
  noContent : ∀ res, reply = .ok res → res.status = 204 → result = .ok (.obj [])
  refusal : ∀ res code message, reply = .ok res → res.status ≠ 204 →
    res.body = .json (.obj [(str "error", .str code), (str "message", .str message)]) →
    Utf8.valid code = true → Utf8.valid message = true →
    ¬ (200 ≤ answerStatus reply ∧ answerStatus reply < 300) →
      result = .error ⟨answerStatus reply, code, message⟩
  exception : ∀ failure, reply = .error failure → result = .error ⟨500, str "HTTP_500", []⟩

theorem reports_finish (hg : Grisu2Correct grisu2) {reply : Answer} {back : RemoteResponse}
    (hback : readAnswer (dumpText grisu2) reply = some back) :
    Reports reply (SovdClient.finish parseJson back) := by
  -- what was read back has the status and the body that were sent
  have hstatus : back.status = answerStatus reply := by
    obtain ⟨headers, -, rfl⟩ := Option.map_eq_some_iff.mp hback
    rfl
  have hcontent : back.body = sentBody (dumpText grisu2) reply := by
    obtain ⟨headers, -, rfl⟩ := Option.map_eq_some_iff.mp hback
    rfl
  refine ⟨?_, ?_, ?_, ?_, ?_⟩
  · intro j hj
    unfold SovdClient.finish at hj
    split_ifs at hj with hfailed
    all_goals
      rw [← hstatus]
      omega
  · intro res j hreply hbody h204 hutf hrange hsuccess
    subst hreply
    exact (finish_document hg hback hbody h204 hutf hrange).1 hsuccess
  · intro res hreply h204
    subst hreply
    have hok : answerStatus (.ok res) = 204 := by
      rw [answerStatus, h204]
      rfl
    have hnone : sentBody (dumpText grisu2) (.ok res) = [] := if_pos h204
    unfold SovdClient.finish
    rw [hstatus, hok, if_neg (by decide), hcontent, hnone, if_pos rfl]
  · intro res code message hreply h204 hbody hcode hmessage hfailed
    subst hreply
    -- an error is one document of four texts
    have hutf : (Json.obj [(str "error", .str code), (str "message", .str message)]).utf8 =
        true := by
      have hkeys : Utf8.valid (str "error") = true ∧ Utf8.valid (str "message") = true := by
        decide
      simp [hcode, hmessage, hkeys]
    have hrange : (Json.obj [(str "error", .str code), (str "message", .str message)]).InRange :=
      ⟨trivial, trivial, trivial⟩
    exact (finish_document hg hback hbody h204 hutf hrange).2 hfailed code message rfl
  · intro failure hreply
    subst hreply
    have h500 : back.status = 500 := hstatus
    -- a handler that threw has no body, so the code is made of the status
    have hcode : str "HTTP_" ++ intText 500 = str "HTTP_500" := by decide +kernel
    rw [finish_empty (by omega) hcontent, h500, hcode]

/-- What has come of a call: the server is in state `t`, and the call ends with `result`. -/
inductive CallEnds (S : HttpServer σ) (grisu2 : Rat → Bytes × Int) (p : EntityPath)
    (c : ClientCall) (retry : RetryPolicy) (w : SovdClient.Session σ) (t : ServerState σ)
    (result : Except ClientFailure Json) : Prop
  /-- The body is not UTF-8: `dump` throws, and nothing was sent. -/
  | unwritten {ex : Exn} (hbody : SovdClient.dumpBody (c.call p.text).body = .error ex)
      (hstate : t = w.server) (hresult : result = .error (.json ex))
  /-- No answer came to the last attempt; to those before it came a 503 or 504. -/
  | unanswered {n : Nat} {v : SovdClient.Session σ} {es : List (HttpEvent σ)} {e : SovdError}
      (hn : n ≤ retry.maxRetries.toNat)
      (hretried : SovdClient.Retried (SovdClient.overHttp S (dumpText grisu2)) (c.call p.text) n w
        v)
      (hlost : v.Unanswered S (dumpText grisu2) (c.call p.text))
      (hrun : (httpLts S).Run w.server es t)
      (hes : ∀ e ∈ es, w.Saw ((c.call p.text).sent (dumpText grisu2)) e)
      (hresult : result = .error (.sovd e)) (hstatus : e.status = 0)
  /-- The request is too long, or its lock id cannot be read. -/
  | unread {es : List (HttpEvent σ)} {e : SovdError}
      (hread : received (writeRequest ((c.call p.text).sent (dumpText grisu2))) = none)
      (hrun : (httpLts S).Run w.server es t)
      (hes : ∀ e ∈ es, w.Saw ((c.call p.text).sent (dumpText grisu2)) e)
      (hresult : result = .error (.sovd e)) (hstatus : e.status = 400 ∨ e.status = 414)
  /-- The last attempt was answered, and so the call ends; with a 503 or 504 only if it had no
  retries left. -/
  | answered {n : Nat} {v : SovdClient.Session σ} {es : List (HttpEvent σ)} {s : ServerState σ}
      {turn : SovdClient.Turn σ} {remote : Request} {reply : Answer}
      (hn : n ≤ retry.maxRetries.toNat)
      (hretried : SovdClient.Retried (SovdClient.overHttp S (dumpText grisu2)) (c.call p.text) n w
        v)
      (hfinal : SovdClient.isRetried (answerStatus reply) = true → n = retry.maxRetries.toNat)
      (hrun : (httpLts S).Run w.server es s)
      (hes : ∀ e ∈ es, w.Saw ((c.call p.text).sent (dumpText grisu2)) e)
      (hturn : turn ∈ w.turns) (hcarries : Carries (dumpText grisu2) p c remote)
      (hread : received (writeRequest ((c.call p.text).sent (dumpText grisu2))) = some remote)
      (hstep : (httpLts S).step s (.request turn.env remote reply) t)
      {outcome : Except SovdError Json}
      (hreports : Reports reply outcome) (hresult : result = outcome.mapError .sovd)

/-- A call of the client, as far as `request` takes it. `subscribe_data` reads a stream instead of
one answer (`subscribe`), so what is said of calls does not speak of it. -/
def ClientCall.perform (c : ClientCall) (S : HttpServer σ) (grisu2 : Rat → Bytes × Int)
    (p : EntityPath) (retry : RetryPolicy) (w : SovdClient.Session σ) :
    Except ClientFailure Json × SovdClient.Session σ :=
  SovdClient.perform (SovdClient.overHttp S (dumpText grisu2)) parseJson retry (c.call p.text) w

/-- **A call and what came of it**: it could not be written, no answer came to its last attempt,
the server could not read it, or the last thing that happened at the server was the request the
call is for, and the call ends with the answer to it. -/
theorem call_ends (hg : Grisu2Correct grisu2) {S : HttpServer σ} {p : EntityPath}
    {c : ClientCall} (hc : ¬ c.Misrouted p) (hline : (c.call p.text).OneLine)
    (retry : RetryPolicy) (w : SovdClient.Session σ) :
    CallEnds S grisu2 p c retry w (c.perform S grisu2 p retry w).2.server
      (c.perform S grisu2 p retry w).1 := by
  unfold ClientCall.perform SovdClient.perform
  cases hbody : SovdClient.dumpBody (c.call p.text).body with
  | error ex => exact .unwritten hbody rfl rfl
  | ok body =>
    dsimp only
    have hplain : ∀ remote,
        received (writeRequest ((c.call p.text).sent (dumpText grisu2))) = some remote →
          PlainRequest remote := fun remote h => plain_of_call h
    -- attempts that are followed by another, and the last one
    obtain ⟨v, out, ⟨hexchanged, n, hn, hretried, hfinal⟩, hresult⟩ :=
      SovdClient.attempts_cases (SovdClient.overHttp S (dumpText grisu2)) parseJson
        (c.call p.text) retry.maxRetries.toNat w
    obtain ⟨hturns, es, hrun, hes⟩ := SovdClient.run_of_retried hline hplain hretried
    have hended := (SovdClient.overHttp_exchanged hline hplain hexchanged).1
    -- every turn of the run is one that this call saw
    have hall : ∀ {es' : List (HttpEvent σ)},
        (∀ e ∈ es', v.Saw ((c.call p.text).sent (dumpText grisu2)) e) →
          ∀ e ∈ es ++ es', w.Saw ((c.call p.text).sent (dumpText grisu2)) e := by
      intro es' hes' e he
      rcases List.mem_append.mp he with he | he
      · exact hes e he
      · exact (hes' e he).mono hturns
    unfold SovdClient.request
    rw [hresult]
    cases hended with
    | failed hrun' hes' hlost failure =>
      exact .unanswered hn hretried hlost (Lts.run_append.mpr ⟨_, hrun, hrun'⟩) (hall hes') rfl
        rfl
    | unread hrun' hes' hread hstatus hempty =>
      have hfails := finish_empty (by omega) hempty
      exact .unread hread (Lts.run_append.mpr ⟨_, hrun, hrun'⟩) (hall hes')
        (congrArg (Except.mapError ClientFailure.sovd) hfails) hstatus
    | answered hrun' hes' hturn hread hstep hback =>
      rename_i es' s turn remote reply back
      have hstatus : back.status = answerStatus reply := by
        obtain ⟨headers, -, rfl⟩ := Option.map_eq_some_iff.mp hback
        rfl
      exact .answered hn hretried (fun hagain => hfinal back rfl (hstatus ▸ hagain))
        (Lts.run_append.mpr ⟨_, hrun, hrun'⟩) (hall hes') (hturns hturn)
        (carries_of_call hc hread) hread hstep (reports_finish hg hback) rfl

end

/-- A call to clear the faults, just after somebody else has taken the lock. -/
theorem clear_ends :
    let w : SovdClient.Session Unit :=
      { server := HeldLock.start
        turns := [{ others := [.request HeldLock.env HeldLock.lock], env := HeldLock.env }] }
    CallEnds HeldLock.server allDigits ecu (.clearFaults []) {} w
      ((ClientCall.clearFaults []).perform HeldLock.server allDigits ecu {} w).2.server
      ((ClientCall.clearFaults []).perform HeldLock.server allDigits ecu {} w).1 :=
  call_ends allDigits_correct id (by decide) {} _

end Sovd
