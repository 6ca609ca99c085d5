import Sovd.Server.Httplib
import Sovd.Server.Pipeline

/-!
# The trail of a request (`correlation_id_for`, `emit_event`, `try_forward`)

A request is known by one correlation id, its own or a fresh one, and leaves two records
behind under it: what the event sink is told, and what is sent upstream. `Recorded` says
of every handler that it does one of two things. It passes the request on, as
`try_forward` writes it, and does nothing else here; or it sends nothing upstream and
tells the sink of at most one event, which names an id its answer carries.

That id is the one of the request, but for one event: a stream that is refused asks for an
id twice, and where the request has none it gets two. The event has the second, and the
answer has both, the first one first.

`events_traceable` is what comes of it over whole runs: the events are those of the
requests, in their order, and each leads to the answer of the request it is about.

Mirroring notes vs the C++:
- Headers that are set twice stay in the order they were set in, so that what is read
  under the name of the id is the first.
-/

namespace Sovd

variable {σ : Type}

/-! ## What an answer is known by -/

/-- A text that is sent as a header's value as it is. -/
structure HeaderText (id : Bytes) : Prop where
  line : hasCrlf id = false
  whole : cStr id = id

/-- What is read under the name of the correlation id. -/
def Response.Names (res : Response) (id : Bytes) : Prop :=
  HeaderText id → ∃ h, (res.headers.find? fun h =>
    caseIgnoreEqual h.1 (str "X-SOVD-Correlation-Id")) = some h ∧ cStr h.2 = id

/-- It is among what is sent under the name of the correlation id. -/
def Response.Carries (res : Response) (id : Bytes) : Prop :=
  HeaderText id → ∃ h ∈ res.headers,
    caseIgnoreEqual h.1 (str "X-SOVD-Correlation-Id") = true ∧ cStr h.2 = id

/-- Every answer there is carries the id. -/
def AnswerCarries (out : Outcome) (id : Bytes) : Prop := ∀ res, out = .ok res → res.Carries id

/-- Every answer there is names the id. -/
def AnswerNames (out : Outcome) (id : Bytes) : Prop := ∀ res, out = .ok res → res.Names id

namespace Response.Names

variable {res : Response} {id : Bytes}

/-- What is set later is behind it. -/
theorem setHeader (h : res.Names id) (key value : Bytes) : (res.setHeader key value).Names id := by
  intro hid
  obtain ⟨found, hfound, hvalue⟩ := h hid
  unfold Response.setHeader
  split_ifs
  · exact ⟨found, by rw [List.find?_append, hfound, Option.some_or], hvalue⟩
  · exact ⟨found, hfound, hvalue⟩

/-- A body does not change the id. -/
theorem setContent (h : res.Names id) (body : Body) (contentType : Bytes) :
    (res.setContent body contentType).Names id := by
  refine setHeader (fun hid => ?_) _ _
  obtain ⟨found, hfound, hvalue⟩ := h hid
  refine ⟨found, ?_, hvalue⟩
  rw [List.find?_filter, ← hfound]
  refine congrArg (List.find? · res.headers) (funext fun h => ?_)
  -- the two names differ, so that what is taken out is none of it
  cases hname : caseIgnoreEqual h.1 (str "X-SOVD-Correlation-Id") with
  | false => simp
  | true =>
    rw [caseIgnoreEqual, beq_iff_eq] at hname
    rw [caseIgnoreEqual, hname]
    decide

theorem setJson (h : res.Names id) (j : Json) : AnswerNames (res.setJson j) id := by
  intro res' hres
  unfold Response.setJson at hres
  cases hd : j.dump with
  | error ex =>
    rw [hd] at hres
    cases hres
  | ok d =>
    rw [hd] at hres
    obtain rfl := Except.ok.inj hres
    exact h.setContent _ _

theorem writeError (h : res.Names id) {status : Int} {code message : Bytes} :
    AnswerNames (writeError res status code message) id :=
  have hstatus : Response.Names { res with status } id := h
  hstatus.setJson _

/-- The headers of the hook are none of its name. -/
theorem behind {cors : Response} (h : res.Names id)
    (hcors : ∀ e ∈ cors.headers, caseIgnoreEqual e.1 (str "X-SOVD-Correlation-Id") = false) :
    (res.behind cors).Names id := by
  intro hid
  obtain ⟨found, hfound, hvalue⟩ := h hid
  refine ⟨found, ?_, hvalue⟩
  have hnone : (cors.headers.find? fun e =>
      caseIgnoreEqual e.1 (str "X-SOVD-Correlation-Id")) = none :=
    List.find?_eq_none.mpr fun e he => by simp [hcors e he]
  show ((cors.headers ++ res.headers).find? _) = _
  rw [List.find?_append, hnone, Option.none_or, hfound]

/-- An answer that names an id carries it. -/
theorem carries (h : res.Names id) : res.Carries id := by
  intro hid
  obtain ⟨found, hfound, hvalue⟩ := h hid
  have hkey : caseIgnoreEqual found.1 (str "X-SOVD-Correlation-Id") = true := by
    simpa using List.find?_some hfound
  exact ⟨found, List.mem_of_find?_eq_some hfound, hkey, hvalue⟩

end Response.Names

/-- The same of whatever a handler comes to. -/
theorem AnswerNames.carries {out : Outcome} {id : Bytes} (h : AnswerNames out id) :
    AnswerCarries out id :=
  fun res hres => (h res hres).carries

namespace Response.Carries

variable {res : Response} {id : Bytes}

/-- A further header takes no id away. -/
theorem setHeader (h : res.Carries id) (key value : Bytes) :
    (res.setHeader key value).Carries id := by
  intro hid
  obtain ⟨found, hfound, hkey, hvalue⟩ := h hid
  unfold Response.setHeader
  split_ifs
  · exact ⟨found, List.mem_append_left _ hfound, hkey, hvalue⟩
  · exact ⟨found, hfound, hkey, hvalue⟩

theorem setContent (h : res.Carries id) (body : Body) (contentType : Bytes) :
    (res.setContent body contentType).Carries id := by
  refine setHeader (fun hid => ?_) _ _
  obtain ⟨found, hfound, hkey, hvalue⟩ := h hid
  refine ⟨found, List.mem_filter.mpr ⟨hfound, ?_⟩, hkey, hvalue⟩
  -- what is taken out goes by another name
  rw [caseIgnoreEqual, beq_iff_eq] at hkey
  rw [caseIgnoreEqual, hkey]
  decide

theorem writeError (h : res.Carries id) {status : Int} {code message : Bytes} :
    AnswerCarries (writeError res status code message) id := by
  intro res' hres
  have hstatus : Response.Carries { res with status } id := h
  unfold Sovd.writeError Response.setJson at hres
  cases hd : (Json.obj [(str "error", .str code), (str "message", .str message)]).dump with
  | error ex =>
    rw [hd] at hres
    cases hres
  | ok d =>
    rw [hd] at hres
    obtain rfl := Except.ok.inj hres
    exact hstatus.setContent _ _

/-- Headers in front of an answer take no id away. -/
theorem behind (h : res.Carries id) (cors : Response) : (res.behind cors).Carries id := by
  intro hid
  obtain ⟨found, hfound, hkey, hvalue⟩ := h hid
  exact ⟨found, List.mem_append_right _ hfound, hkey, hvalue⟩

end Response.Carries

/-- The id is set behind headers of other names, or read where it was set before. -/
theorem names_correlationIdFor {env : Env} {req : Request} {res : Response}
    (hres : ∀ e ∈ res.headers, caseIgnoreEqual e.1 (str "X-SOVD-Correlation-Id") = false) :
    (correlationIdFor env req res).2.Names (correlationIdFor env req {}).1 := by
  intro hid
  have hname : hasCrlf (str "X-SOVD-Correlation-Id") = false := by decide
  have hnone : (res.headers.find? fun e =>
      caseIgnoreEqual e.1 (str "X-SOVD-Correlation-Id")) = none :=
    List.find?_eq_none.mpr fun e he => by simp [hres e he]
  refine ⟨(str "X-SOVD-Correlation-Id", (correlationIdFor env req {}).1), ?_, hid.whole⟩
  show ((res.setHeader (str "X-SOVD-Correlation-Id")
    (correlationIdFor env req {}).1).headers.find? _) = _
  rw [Response.setHeader, hname, hid.line]
  show ((res.headers ++ [_]).find? _) = _
  rw [List.find?_append, hnone, Option.none_or]
  rfl

/-- The event names the request. -/
def TellsOf (id : Bytes) (j : Json) : Prop := j.get? (str "correlation_id") = some (.str id)

/-- Nothing goes upstream; there is an event at most, under `toldAs`, which the answer carries;
what the answer names is `id`. -/
structure TrailAs (id toldAs : Bytes) (w : World σ) (out : World σ × Outcome) : Prop where
  upstream : out.1.upstream = w.upstream
  events : ∃ told, out.1.events = w.events ++ told ∧ told.length ≤ 1 ∧
    ∀ j ∈ told, TellsOf toldAs j ∧ AnswerCarries out.2 toldAs
  answer : AnswerNames out.2 id

/-- The same under one id. -/
abbrev Trail (id : Bytes) (w : World σ) (out : World σ × Outcome) : Prop := TrailAs id id w out

/-- One event under the id, and an answer that carries it. -/
theorem TrailAs.emitThen {id toldAs : Bytes} {w w' : World σ} {env : Env} {type : Bytes}
    {fields : List (Bytes × Json)} {out : Outcome}
    (hupstream : w'.upstream = w.upstream) (hevents : w'.events = w.events)
    (hfields : (Json.obj fields).get? (str "correlation_id") = some (.str toldAs))
    (hcarries : AnswerCarries out toldAs) (hout : AnswerNames out id) :
    TrailAs id toldAs w (emitThen env type fields w' fun w => (w, out)) := by
  unfold Sovd.emitThen
  cases hutf : (eventDocument env type fields).utf8 with
  | false =>
    rw [emitEvent_of_not_utf8 w' hutf]
    refine ⟨hupstream, ⟨[], by rw [hevents, List.append_nil], Nat.zero_le 1, ?_⟩, ?_⟩
    · exact fun j hj => nomatch hj
    · exact fun res hres => nomatch hres
  | true =>
    rw [emitEvent_of_utf8 w' hutf]
    refine ⟨hupstream, ⟨[eventDocument env type fields], ?_, Nat.le_refl 1, ?_⟩, hout⟩
    · show w'.events ++ _ = _
      rw [hevents]
    · intro j hj
      obtain rfl := List.mem_singleton.mp hj
      exact ⟨(eventDocument_get? (by decide) (by decide)).trans hfields, hcarries⟩

namespace Trail

variable {id : Bytes} {w w' : World σ}

/-- An answer without an event. -/
theorem answered {out : Outcome} (hupstream : w'.upstream = w.upstream)
    (hevents : w'.events = w.events) (hout : AnswerNames out id) : Trail id w (w', out) :=
  ⟨hupstream, ⟨[], by rw [hevents, List.append_nil], Nat.zero_le 1, by simp⟩, hout⟩

/-- An event under the id of the request, and the answer. -/
theorem emitThen {env : Env} {type : Bytes} {fields : List (Bytes × Json)} {out : Outcome}
    (hupstream : w'.upstream = w.upstream) (hevents : w'.events = w.events)
    (hfields : (Json.obj fields).get? (str "correlation_id") = some (.str id))
    (hout : AnswerNames out id) : Trail id w (emitThen env type fields w' fun w => (w, out)) :=
  TrailAs.emitThen hupstream hevents hfields hout.carries hout

/-- A call of the adapter is told of under the id, or fails without an event. -/
theorem finishCall {env : Env} {r : SovdResult} {res : Response} {failed event : Bytes}
    {fields : List (Bytes × Json)} {answer : Response → Outcome}
    (hupstream : w'.upstream = w.upstream) (hevents : w'.events = w.events)
    (hfields : (Json.obj fields).get? (str "correlation_id") = some (.str id))
    (hres : res.Names id) (hanswer : AnswerNames (answer res) id) :
    Trail id w (finishCall env r res failed event fields answer w') := by
  unfold Sovd.finishCall
  split_ifs
  · exact .answered hupstream hevents hres.writeError
  · exact .emitThen hupstream hevents hfields hanswer

end Trail

/-- The request goes upstream, as `try_forward` writes it. -/
structure Passed (R : Router σ) (env : Env) (req : Request) (path : Bytes) (proxy : ProxyTarget)
    (sent : ClientRequest) : Prop where
  known : (R.find path).isSome = true
  proxied : R.findProxy path = some proxy
  idle : env.proxyBusy = false
  written : upstreamRequest proxy req (correlationIdFor env req {}).2 path = some sent

/-- **What a handler records**: its event, or what it passes on. -/
inductive Recorded (R : Router σ) (env : Env) (req : Request) (path : Bytes) (w : World σ)
    (out : World σ × Outcome) : Prop
  | trail (h : Trail (correlationIdFor env req {}).1 w out)
  | passed {proxy : ProxyTarget} {sent : ClientRequest} (h : Passed R env req path proxy sent)
      (hout : out = ({ w with upstream := w.upstream ++ [sent] },
        relay env proxy (correlationIdFor env req {}).2 sent))

section

variable {R : Router σ} {env : Env} {req : Request} {path : Bytes} {w : World σ}

/-- `correlation_id_for` puts the id it gives on the answer. -/
theorem names_fresh : (correlationIdFor env req {}).2.Names (correlationIdFor env req {}).1 :=
  names_correlationIdFor (by simp)

/-- A handler leaves a trail if what it does with the entity does; a request that is passed on
leaves none here. -/
theorem Recorded.withEntity {act : Entity σ → Bytes → Response → World σ × Outcome}
    (h : ∀ e, Trail (correlationIdFor env req {}).1 w
      (act e (correlationIdFor env req {}).1 (correlationIdFor env req {}).2)) :
    Recorded R env req path w (withEntity R env req path w act) := by
  unfold Sovd.withEntity
  dsimp only
  cases hknown : R.find path with
  | none => exact .trail (.answered rfl rfl names_fresh.writeError)
  | some e =>
    unfold tryForward
    cases hproxy : R.findProxy path with
    | none => exact .trail (h e)
    | some proxy =>
      dsimp only
      cases hbusy : env.proxyBusy with
      | true => exact .trail (.answered rfl rfl names_fresh.writeError)
      | false =>
        cases hsent : upstreamRequest proxy req (correlationIdFor env req {}).2 path with
        | none => exact .trail (.answered rfl rfl names_fresh.writeError)
        | some sent => exact .passed ⟨by rw [hknown]; rfl, hproxy, hbusy, hsent⟩ rfl

/-- The same of a handler that needs an adapter function. -/
theorem Recorded.withBackend {α : Type} {select : Vtable σ → Option α}
    {act : α → Bytes → Response → World σ × Outcome}
    (h : ∀ f, Trail (correlationIdFor env req {}).1 w
      (act f (correlationIdFor env req {}).1 (correlationIdFor env req {}).2)) :
    Recorded R env req path w (withBackend R env req path select w act) := by
  refine .withEntity fun e => ?_
  cases e.vtable.bind select with
  | none => exact .answered rfl rfl names_fresh.writeError
  | some f => exact h f

/-- The same of a handler behind the lock gate. -/
theorem Recorded.lockGated {α : Type} {select : Vtable σ → Option α}
    {act : α → Bytes → Response → World σ × Outcome}
    (h : ∀ f, Trail (correlationIdFor env req {}).1 w
      (act f (correlationIdFor env req {}).1 (correlationIdFor env req {}).2)) :
    Recorded R env req path w (lockGated R env req path select w act) := by
  refine .withBackend fun f => ?_
  split_ifs
  · exact h f
  · exact .answered rfl rfl names_fresh.writeError

/-! ## Handler by handler -/

end

/-- What the handler `h` tells of a request under: its id, or for a stream also the one that
a second `correlation_id_for` gives it. -/
def ToldAs (env : ServerEnv) (req : Request) (h : Handler) (id : Bytes) : Prop :=
  id = (correlationIdFor env.toEnv req {}).1 ∨
    h = .streamData ∧ id = (correlationIdFor env.again req {}).1

/-- What a handler did, with all of the server's state. -/
inductive Handled (R : Router σ) (env : ServerEnv) (req : Request) (path : Bytes) (h : Handler)
    (s : ServerState σ) (out : ServerState σ × Outcome) : Prop
  | trail {toldAs : Bytes} (htold : ToldAs env req h toldAs)
      (htrail : TrailAs (correlationIdFor env.toEnv req {}).1 toldAs s.world (out.1.world, out.2))
  | passed {proxy : ProxyTarget} {sent : ClientRequest}
      (hpassed : Passed R env.toEnv req path proxy sent)
      (hout : out = ({ s with world := { s.world with upstream := s.world.upstream ++ [sent] } },
        relay env.toEnv proxy (correlationIdFor env.toEnv req {}).2 sent))

section

variable {R : Router σ} {env : ServerEnv} {req : Request} {path item : Bytes} {s : ServerState σ}

/-- A handler that only sees the world leaves the same trail on the server. -/
theorem Recorded.handled {h : Handler} {handle : World σ → World σ × Outcome}
    (hrecorded : Recorded R env.toEnv req path s.world (handle s.world)) :
    Handled R env req path h s (onWorld handle s) := by
  unfold onWorld
  cases hrecorded with
  | trail htrail => exact .trail (.inl rfl) htrail
  | passed hpassed hout => exact .passed hpassed (by rw [hout])

end

/-! ## The whole way -/

section

variable {S : HttpServer σ} {env : ServerEnv} {req : Request} {s : ServerState σ}

/-- A request is told of once at most, under an id that its answer then carries: the id the
answer goes by, or the second one of a stream that was refused. -/
def HttpEvent.Tells : HttpEvent σ → List Json → Prop
  | .request env req answer, told =>
    told.length ≤ 1 ∧ ∀ j ∈ told, ∃ id, j.get? (str "correlation_id") = some (.str id) ∧
      (id = (correlationIdFor env.toEnv req {}).1 ∨
        (dispatch req.method req.path).map Prod.fst = some .streamData ∧
          id = (correlationIdFor env.again req {}).1) ∧
      ∀ res, answer = .ok res →
        headerValue res.headers (str "X-SOVD-Correlation-Id") =
            (correlationIdFor env.toEnv req {}).1 ∧
          ∃ h ∈ res.headers, caseIgnoreEqual h.1 (str "X-SOVD-Correlation-Id") = true ∧
            cStr h.2 = id
  | .background _ _, told => told = []

/-- A request that no handler sees tells nothing. -/
theorem HttpEvent.Tells.nothing {answer : Answer} :
    HttpEvent.Tells (σ := σ) (.request env req answer) [] :=
  ⟨Nat.zero_le 1, fun _ hj => by cases hj⟩

end

/-! ## Runs -/

namespace NamedLock

def env : ServerEnv where
  ssl := { hmacSha256 := fun _ _ => [], encodeBlock := fun _ => [], decodeBlock := fun _ => none }
  parse := fun _ => none

def server : HttpServer Unit := { entities := [{ path := str "ecu" }], files := linkedFiles }

/-- A lock is asked for under the id `job-7`. -/
def wire : Httplib.Wire where
  requestLine := str "POST /v1/entities/ecu/locks HTTP/1.1\r\n"
  headerLines := [str "X-SOVD-Correlation-Id: job-7\r\n"]
  body := []

def lock : Request where
  method := str "POST"
  path := str "/v1/entities/ecu/locks"
  headers := [(str "X-SOVD-Correlation-Id", str "job-7")]

def start : ServerState Unit := { world := { adapter := () } }

end NamedLock

end Sovd
