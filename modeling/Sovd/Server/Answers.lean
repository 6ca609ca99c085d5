import Sovd.Server.AccessControl

/-!
# From what a handler answers to what is answered

A request for an entity is turned away on its way with a 401, a 403 or a 413, or its answer
is the one of its handler with the CORS headers before it. So an answer of another kind
comes from the handler, and the document a handler writes for an admitted GET is the
document that is answered.
-/

namespace Sovd

open Wildcard

variable {σ : Type}

/-- The request goes to the handler, with what the pattern captures. -/
def Routed (req : Request) (h : Handler) (path item : Bytes) : Prop :=
  ∃ captures, dispatch req.method req.path = some (h, captures) ∧ captures.getD 0 [] = path ∧
    captures.getD 1 [] = item

/-- The handlers of an entity that are reached by a GET alone. -/
def Handler.gets : Handler → Bool
  | getFaults => true
  | getDataBatch => true
  | getData => true
  | streamData => true
  | getDocs => true
  | _ => false

/-- An answer of a status that is no default and no exception's. -/
theorem ok_of_answerStatus {answer : Answer} {status : Int} (h : answerStatus answer = status)
    (h200 : status ≠ 200) (h500 : status ≠ 500) :
    ∃ res, answer = .ok res ∧ res.status = status := by
  cases answer with
  | error failure => exact absurd h.symm h500
  | ok res =>
    refine ⟨res, rfl, ?_⟩
    unfold answerStatus at h
    dsimp only at h
    split_ifs at h
    · exact absurd h.symm h200
    · exact h

section

variable {S : HttpServer σ} {env : ServerEnv} {req : Request} {h : Handler} {path item : Bytes}
  {s : ServerState σ}

/-- An answer that is no refusal of the way is the handler's. -/
theorem run_of_answered {t : ServerState σ} {res : Response} (hroute : Routed req h path item)
    (hroot : h ≠ .root) (hlist : h ≠ .listEntities) (hstep : routing S env req s = (t, .ok res))
    (hstatus : res.status ∉ [401, 403, 413]) :
    ∃ res', (h.run S.toRouter env req path item s).2 = .ok res' ∧ res'.status = res.status ∧
      res'.body = res.body ∧ t = (h.run S.toRouter env req path item s).1 := by
  obtain ⟨captures, hroute, rfl, rfl⟩ := hroute
  obtain ⟨rest, hmatch⟩ := underEntity_of_handler (dispatch_handlerFor hroute) hroot hlist
  rcases routing_of_underEntity S env hmatch hroute s with ⟨-, hrefused⟩ | ⟨-, hrun⟩
  · rw [hstep] at hrefused
    exact absurd (hrefused res rfl) hstatus
  · rw [hstep] at hrun
    obtain ⟨rfl, hanswer⟩ := Prod.mk.inj hrun
    obtain ⟨res', hout, hsame, hbody⟩ := outcome_of_answer hanswer.symm
    exact ⟨res', hout, hsame, hbody, rfl⟩

theorem method_of_gets {method path : Bytes} (hh : handlerFor method path = some h)
    (hgets : h.gets = true) : method = str "GET" ∨ method = str "HEAD" := by
  refine (method_of_not_executes hh ?_).resolve_right ?_
  · have hreads : ∀ h : Handler, h.gets = true →
        h.demand ≠ .scope (str "execute:routines") := by
      intro h
      cases h <;> decide
    exact hreads h hgets
  · intro hmint
    rw [hmint] at hgets
    cases hgets

/-- An admitted GET of an entity is answered by its handler. -/
theorem routing_of_gets (hroute : Routed req h path item) (hgets : h.gets = true)
    (hadmitted : Admitted S env.toEnv req) :
    routing S env req s = ((h.run S.toRouter env req path item s).1,
      ((h.run S.toRouter env req path item s).2.mapError .json).map
        (·.behind (applyCorsHeaders S.corsAllowedOrigins req {}))) := by
  obtain ⟨captures, hroute, rfl, rfl⟩ := hroute
  have hh := dispatch_handlerFor hroute
  have hroot : h ≠ .root := by
    intro hroot
    rw [hroot] at hgets
    cases hgets
  have hlist : h ≠ .listEntities := by
    intro hlist
    rw [hlist] at hgets
    cases hgets
  obtain ⟨rest, hmatch⟩ := underEntity_of_handler hh hroot hlist
  exact routing_of_dispatch hadmitted (staticAnswer_of_underEntity hmatch)
    (payloadTooLarge_of_get (method_of_gets hh hgets)) hroute s

/-- The document a GET is answered with is what its handler writes. -/
theorem answered_document (hroute : Routed req h path item) (hgets : h.gets = true)
    (hadmitted : Admitted S env.toEnv req) {body : Json} (hutf : body.utf8 = true)
    (hrun : (h.run S.toRouter env req path item s).2 =
      (correlationIdFor env.toEnv req {}).2.setJson body) :
    ∃ res, (routing S env req s).2 = .ok res ∧ answerStatus (.ok res) = 200 ∧
      res.body = .json body := by
  obtain ⟨res, hres, hstatus⟩ :=
    Response.setJson_of_utf8 (correlationIdFor env.toEnv req {}).2 hutf
  rw [correlationIdFor_status] at hstatus
  refine ⟨res.behind (applyCorsHeaders S.corsAllowedOrigins req {}), ?_, ?_, ?_⟩
  · rw [routing_of_gets hroute hgets hadmitted, hrun, hres]
    rfl
  · show (if res.status = -1 then (200 : Int) else res.status) = 200
    rw [if_pos hstatus]
  · exact (Response.setJson_eq_ok hres).2.2

end

end Sovd
