import Sovd.Json.StringTokens
import Sovd.Server.Handlers
import Sovd.Uds.UdsAdapter

/-!
# The result of an operation (`mock_adapter.cpp`, `uds_doip_adapter.cpp`, `routes_operations.cpp`)

Both adapters write the document of an operation that was executed by putting its name
between two pieces of JSON, and `handle_post_operation` parses what they wrote and answers
that, or an empty object if it is no document.

`operation_named_iff`: the answer names the operation exactly if there is nothing in the
name to escape. In one direction the text is the dump of the document. In the other a name that is
a member of the answer was read off the text between two quotation marks
(`string_of_text`), and wherever these stand, what is between them is shorter than the
name that was put in, or has nothing to escape (`string_of_result`).

Mirroring notes vs the C++:
- The text is the one in `Uds/UdsAdapter.lean`; the mock adapter spells it the same way.
- What the other functions of the mock adapter do with its state is left out.
-/

namespace Sovd

open JsonLexer UdsContext

variable {σ : Type}

/-- `mock_execute_operation` -/
def mockExecuteOperation (s : σ) (_entityPath op _paramsJson : Bytes) :
    SovdResult × Option Bytes × σ :=
  (.ok, some (operationResultText op), s)

/-- The two adapters' functions. -/
inductive ExecutesOperation : (σ : Type) →
    (σ → Bytes → Bytes → Bytes → SovdResult × Option Bytes × σ) → Prop
  | mock (σ : Type) : ExecutesOperation σ mockExecuteOperation
  | udsDoip (c : UdsContext) : ExecutesOperation SessionManager c.executeOperation

/-- A response that is not the positive one is a failure. -/
theorem negativeOrInternal_ne_ok (resp : Bytes) : negativeOrInternal resp ≠ .ok := by
  have hall : ∀ nrc, nrcToSovdResult nrc ≠ .ok := forall_byte (by decide +kernel)
  unfold negativeOrInternal
  split
  next nrc hnrc => exact hall nrc
  next => simp

/-- What an adapter writes once an operation was executed. -/
theorem ExecutesOperation.written {f : σ → Bytes → Bytes → Bytes → SovdResult × Option Bytes × σ}
    (hf : ExecutesOperation σ f) {s s' : σ} {entityPath op paramsJson : Bytes}
    {out : Option Bytes} (h : f s entityPath op paramsJson = (.ok, out, s')) :
    out = some (operationResultText op) := by
  cases hf with
  | mock =>
    cases h
    rfl
  | udsDoip c =>
    unfold executeOperation at h
    split at h
    next => cases h
    next operation hop =>
      split at h
      next => cases h
      next s₁ hs₁ =>
        split at h
        next => cases h
        next resp s₂ hs₂ =>
          split at h
          next => exact absurd (Prod.mk.inj h).1 (negativeOrInternal_ne_ok resp)
          next =>
            cases h
            rfl

/-! ## The text -/

/-- What comes after the name. -/
def resultTail : Bytes := str "\",\"status\":\"completed\"\x7d"

/-- The text has the name of the operation in its middle. -/
theorem operationResultText_eq (op : Bytes) :
    operationResultText op = str "\x7b\"operation\":\"" ++ (op ++ resultTail) := by
  rw [operationResultText, List.append_assoc]
  rfl

/-- The document of an operation that was executed. -/
def operationDocument (op : Bytes) : Json :=
  .obj [(str "operation", .str op), (str "status", .str (str "completed"))]

/-- A name with nothing to escape makes the text of the document. -/
theorem text_operationDocument {op : Bytes} (h : Verbatim op) (grisu2 : Rat → Bytes × Int) :
    (operationDocument op).text grisu2 = operationResultText op := by
  have hkeys : dumpString (str "operation") = str "\"operation\"" ∧
      dumpString (str "status") = str "\"status\"" ∧
      dumpString (str "completed") = str "\"completed\"" := by decide
  rw [operationDocument, Json.text, Json.text, Json.textMembers, Json.textMembers, Json.text,
    hkeys.1, hkeys.2.1, hkeys.2.2, h.dumpString, operationResultText_eq, resultTail]
  simp [str]

/-- The document can be sent if the name can. -/
theorem sendable_operationDocument {op : Bytes} (h : Utf8.valid op = true) :
    (operationDocument op).Sendable := by
  have hkeys : Utf8.valid (str "operation") = true ∧ Utf8.valid (str "status") = true ∧
      Utf8.valid (str "completed") = true := by decide
  have hlt : str "operation" < str "status" := by decide
  simp [operationDocument, Json.Sendable, Json.SendableMembers, SortedTable.Sorted, h, hkeys, hlt]

/-- A name with nothing to escape is read back. -/
theorem parseJson_operationResultText {op : Bytes} (h : Verbatim op) :
    parseJson (operationResultText op) = some (operationDocument op) := by
  rw [← text_operationDocument h allDigits,
    parseJson_text allDigits_correct (sendable_operationDocument h.1)]
  rfl

/-! ## Between two quotation marks -/

/-- A string that is read from inside the name on, with a token after it. -/
theorem string_in_name {x v rest : Bytes}
    (h : scanString .text (x ++ resultTail) = some (v, rest))
    (herror : (scan rest).1 ≠ .parseError) : v.length < x.length ∨ Verbatim v := by
  obtain ⟨body, hbody, hrun⟩ := scanString_eq_some h
  have hlength := stringRun_length hrun
  rw [slack, Nat.add_zero, Nat.zero_add] at hlength
  rcases Nat.lt_or_ge x.length body.length with hpast | hwithin
  · -- it goes on past the name, which a backslash at the end of the name brings about
    have htail : resultTail = 34 :: 44 :: 34 :: str "status\":\"completed\"\x7d" := by decide
    obtain ⟨z, rfl, hz⟩ : ∃ z, body = x ++ 34 :: z ∧ resultTail = 34 :: (z ++ 34 :: rest) := by
      rcases List.append_eq_append_iff.mp hbody with ⟨z, rfl, hz⟩ | ⟨z, rfl, hz⟩
      · cases z with
        | nil => simp at hpast
        | cons c z =>
          rw [htail, List.cons_append] at hz
          obtain ⟨rfl, -⟩ := List.cons.inj hz
          exact ⟨z, rfl, htail.trans hz⟩
      · rw [List.length_append] at hpast
        omega
    obtain ⟨added, hrest⟩ := stringRun_quote rfl hrun
    rw [htail, List.cons_inj_right] at hz
    cases z with
    | nil => cases hz
    | cons c z =>
      rw [List.cons_append, List.cons_eq_cons] at hz
      obtain ⟨rfl, hz⟩ := hz
      cases z with
      | nil =>
        -- the string is closed by the mark before `status`, where no token starts
        rw [List.nil_append, List.cons_inj_right] at hz
        subst hz
        exact absurd rfl herror
      | cons c z =>
        rw [List.cons_append, List.cons_eq_cons] at hz
        obtain ⟨rfl, -⟩ := hz
        cases hrest
  · rcases Nat.lt_or_ge v.length x.length with hlt | hge
    · exact .inl hlt
    · obtain ⟨rfl, hv⟩ := verbatim_of_length hrun (hwithin.trans hge)
      exact .inr hv

/-- A string that is read up to a quote has no escapes where the text has none. -/
theorem verbatim_of_scan {w s v rest : Bytes} (hw : Verbatim w)
    (h : scanString .text (w ++ 34 :: s) = some (v, rest)) : Verbatim v := by
  rw [hw.scanString] at h
  cases h
  exact hw

/-- The strings after the name are those of the text around it. -/
theorem string_after_name {t v rest : Bytes} (ht : 34 :: t <:+ resultTail)
    (h : scanString .text t = some (v, rest)) : Verbatim v := by
  have htail : resultTail = [34, 44, 34, 115, 116, 97, 116, 117, 115, 34, 58, 34, 99, 111, 109,
      112, 108, 101, 116, 101, 100, 34, 125] := by decide
  have hcases : t = [44] ++ 34 :: str "status\":\"completed\"\x7d" ∨
      t = str "status" ++ 34 :: str ":\"completed\"\x7d" ∨
      t = [58] ++ 34 :: str "completed\"\x7d" ∨
      t = str "completed" ++ 34 :: str "\x7d" ∨ t = str "\x7d" := by
    rw [htail] at ht
    simpa [List.suffix_cons_iff, str] using ht
  rcases hcases with rfl | rfl | rfl | rfl | rfl
  · exact verbatim_of_scan (by decide) h
  · exact verbatim_of_scan (by decide) h
  · exact verbatim_of_scan (by decide) h
  · exact verbatim_of_scan (by decide) h
  · cases h

/-- Every string of the text is shorter than the name or has nothing to escape. -/
theorem string_of_result {op t v rest : Bytes} (ht : 34 :: t <:+ operationResultText op)
    (h : scanString .text t = some (v, rest)) (herror : (scan rest).1 ≠ .parseError) :
    v.length < op.length ∨ Verbatim v := by
  have hhead : str "\x7b\"operation\":\"" =
      [123, 34, 111, 112, 101, 114, 97, 116, 105, 111, 110, 34, 58, 34] := by decide
  have hcases : t = str "operation" ++ 34 :: 58 :: 34 :: (op ++ resultTail) ∨
      t = [58] ++ 34 :: (op ++ resultTail) ∨ t = op ++ resultTail ∨
      34 :: t <:+ op ++ resultTail := by
    rw [operationResultText_eq, hhead] at ht
    simpa [List.suffix_cons_iff, str] using ht
  rcases hcases with rfl | rfl | rfl | ⟨pre, hpre⟩
  · exact .inr (verbatim_of_scan (by decide) h)
  · exact .inr (verbatim_of_scan (by decide) h)
  · exact string_in_name h herror
  · rcases List.append_eq_append_iff.mp hpre with ⟨z, rfl, hz⟩ | ⟨z, rfl, hz⟩
    · cases z with
      | nil => exact .inr (string_after_name (hz ▸ List.suffix_refl _) h)
      | cons c z =>
        obtain ⟨rfl, rfl⟩ := List.cons.inj hz
        rw [List.length_append, List.length_cons]
        exact (string_in_name h herror).imp_left fun hlt => by omega
    · exact .inr (string_after_name ⟨z, hz.symm⟩ h)

/-! ## The answer -/

/-- The answer is an object that says `operation` is this name and `status` is completed. -/
def AnswersFor (op : Bytes) (outcome : Outcome) : Prop :=
  ∃ res doc, outcome = .ok res ∧ res.body = .json doc ∧
    doc.get? (str "operation") = some (.str op) ∧
    doc.get? (str "status") = some (.str (str "completed"))

/-- Cutting at a NUL makes nothing longer. -/
theorem cStr_length_le (s : Bytes) : (cStr s).length ≤ s.length :=
  (List.takeWhile_sublist _).length_le

/-- The text has no NUL in it, the name being cut already. -/
theorem cStr_operationResultText (op : Bytes) :
    cStr (operationResultText (cStr op)) = operationResultText (cStr op) := by
  have hop : (0 : UInt8) ∉ cStr op := by
    intro h
    have hne := List.mem_takeWhile_imp h
    simp at hne
  have hpieces : (0 : UInt8) ∉ str "\x7b\"operation\":\"" ∧ (0 : UInt8) ∉ resultTail := by decide
  rw [cStr_eq_self, operationResultText_eq, List.mem_append, List.mem_append]
  exact fun h => h.elim hpieces.1 (fun h => h.elim hop hpieces.2)

/-- A name without escapes has no NUL. -/
theorem cStr_of_verbatim {s : Bytes} (h : Verbatim s) : cStr s = s := by
  rw [cStr_eq_self]
  exact fun h0 => absurd (h.2 0 h0).2.2 (by decide)

/-- The answer is what the parser makes of the text, or an empty object. -/
theorem operationResult_eq {env : Env} (hparse : env.parse = parseJson) (op : Bytes) :
    operationResult env (some (operationResultText (cStr op))) =
      (parseJson (operationResultText (cStr op))).getD (.obj []) := by
  rw [operationResult, hparse, Option.map_some, Option.bind_some, cStr_operationResultText]

/-- For a name without escapes it is the document that is meant. -/
theorem operationResult_of_verbatim {env : Env} (hparse : env.parse = parseJson) {op : Bytes}
    (h : Verbatim op) :
    operationResult env (some (operationResultText (cStr op))) = operationDocument op := by
  rw [operationResult_eq hparse, cStr_of_verbatim h, parseJson_operationResultText h,
    Option.getD_some]

/-- A document with the name in it was made of a name that needs no escape. -/
theorem verbatim_of_named {env : Env} (hparse : env.parse = parseJson) {op : Bytes}
    (h : (operationResult env (some (operationResultText (cStr op)))).get? (str "operation") =
      some (.str op)) : Verbatim op := by
  rw [operationResult_eq hparse] at h
  cases hdoc : parseJson (operationResultText (cStr op)) with
  | none =>
    rw [hdoc] at h
    cases h
  | some doc =>
    rw [hdoc, Option.getD_some] at h
    obtain ⟨t, rest, ht, hscan, herror⟩ := string_of_text hdoc h
    have hle := cStr_length_le op
    rcases string_of_result ht hscan herror with hlt | hv
    · omega
    · exact hv

/-- The event can be told if all its fields can. -/
theorem operationEvent_utf8 {env : Env} {path op corr : Bytes} :
    (eventDocument env (str "operation_executed") [(str "entity", .str path),
      (str "operation", .str op), (str "correlation_id", .str corr)]).utf8 = true ↔
      Utf8.valid path = true ∧ Utf8.valid op = true ∧ Utf8.valid corr = true := by
  have hkeys : Utf8.valid (str "entity") = true ∧ Utf8.valid (str "operation") = true ∧
      Utf8.valid (str "correlation_id") = true := by decide
  have hother : str "entity" ≠ str "event" ∧ str "entity" ≠ str "ts_ms" ∧
      str "operation" ≠ str "event" ∧ str "operation" ≠ str "ts_ms" ∧
      str "correlation_id" ≠ str "event" ∧ str "correlation_id" ≠ str "ts_ms" := by decide
  rw [eventDocument_utf8 (by simp [hother]) (by decide)]
  simp [hkeys]

/-- What the answer is made of: the event that goes out first, and the document. -/
theorem answersFor_report {env : Env} {res : Response} {w : World σ} {a : Act σ} {op : Bytes}
    {j : Json} (hok : a.call.ret = .ok) (ha : a.answer = fun res => res.setJson j) :
    AnswersFor op (a.report env res w).2 ↔
      (eventDocument env a.event a.fields).utf8 = true ∧ j.utf8 = true ∧
        j.get? (str "operation") = some (.str op) ∧
        j.get? (str "status") = some (.str (str "completed")) := by
  rw [report_outcome hok, ha]
  split_ifs with hevent
  · constructor
    · rintro ⟨res', doc, hres, hbody, hdoc⟩
      obtain ⟨hutf, -, hbody'⟩ := Response.setJson_eq_ok hres
      obtain rfl : doc = j := Body.json.inj (hbody.symm.trans hbody')
      exact ⟨hevent, hutf, hdoc⟩
    · rintro ⟨-, hutf, hdoc⟩
      obtain ⟨res', hres, -⟩ := Response.setJson_of_utf8 res hutf
      exact ⟨res', j, hres, (Response.setJson_eq_ok hres).2.2, hdoc⟩
  · constructor
    · rintro ⟨res', doc, hres, -⟩
      cases hres
    · rintro ⟨h, -⟩
      exact absurd h hevent

section

variable {R : Router σ} {env : Env} {req : Request} {path op : Bytes} {w : World σ}
  {f : σ → Bytes → Bytes → Bytes → SovdResult × Option Bytes × σ}

/-- The name in the answer is that of the document that was parsed. -/
theorem answersFor_iff {name : Bytes} (hf : ExecutesOperation σ f)
    (hget : GetsTo R path Vtable.executeOperation f)
    (hlock : checkLockHeader env req path w.locks = true)
    (hok : (f w.adapter (cStr path) (cStr op) (cStr (operationParams req.body))).1 = .ok) :
    AnswersFor name (handlePostOperation R env req path op w).2 ↔
      (Utf8.valid path = true ∧ Utf8.valid op = true ∧
        Utf8.valid (correlationIdFor env req {}).1 = true) ∧
      (operationResult env (some (operationResultText (cStr op)))).utf8 = true ∧
      (operationResult env (some (operationResultText (cStr op)))).get? (str "operation") =
        some (.str name) ∧
      (operationResult env (some (operationResultText (cStr op)))).get? (str "status") =
        some (.str (str "completed")) := by
  rcases hcall : f w.adapter (cStr path) (cStr op) (cStr (operationParams req.body)) with
    ⟨r, out, s'⟩
  rw [hcall] at hok
  obtain rfl : r = .ok := hok
  obtain rfl := hf.written hcall
  have hact := handle_of_acts hlock (.postOperation hget hcall)
  rw [GatedHandler.handle] at hact
  rw [hact, answersFor_report rfl rfl, operationEvent_utf8]

/-- **When the result of an operation names the operation that ran.** -/
theorem operation_named_iff (hf : ExecutesOperation σ f)
    (hget : GetsTo R path Vtable.executeOperation f) (hparse : env.parse = parseJson)
    (hlock : checkLockHeader env req path w.locks = true)
    (hok : (f w.adapter (cStr path) (cStr op) (cStr (operationParams req.body))).1 = .ok) :
    AnswersFor op (handlePostOperation R env req path op w).2 ↔
      Verbatim op ∧ Utf8.valid path = true ∧
        Utf8.valid (correlationIdFor env req {}).1 = true := by
  rw [answersFor_iff hf hget hlock hok]
  constructor
  · rintro ⟨⟨hpath, -, hcorr⟩, -, hname, -⟩
    exact ⟨verbatim_of_named hparse hname, hpath, hcorr⟩
  · rintro ⟨hop, hpath, hcorr⟩
    rw [operationResult_of_verbatim hparse hop]
    refine ⟨⟨hpath, hop.1, hcorr⟩, ?_, rfl, rfl⟩
    have hkeys : Utf8.valid (str "operation") = true ∧ Utf8.valid (str "status") = true ∧
        Utf8.valid (str "completed") = true := by decide
    simp [operationDocument, hkeys, hop.1]

end

namespace ForgedResult

def env : Env where
  ssl := { hmacSha256 := fun _ _ => [], encodeBlock := fun _ => [], decodeBlock := fun _ => none }
  parse := parseJson

def router : Router Unit where
  entities :=
    [{ path := str "engine", vtable := some { executeOperation := some mockExecuteOperation } }]

def request : Request where
  method := str "POST"
  path := str "/v1/entities/engine/operations/"

def world : World Unit := { adapter := () }

/-- The entity has the operation of the mock. -/
theorem hasBackend : GetsTo router (str "engine") Vtable.executeOperation mockExecuteOperation :=
  ⟨_, rfl, rfl, rfl⟩

/-- Its answer is that of another operation. -/
def name : Bytes := str "x\",\"operation\":\"erase"

end ForgedResult

open ForgedResult in
/-- A name without anything to escape is named. -/
theorem operation_named_reset :
    AnswersFor (str "reset")
      (handlePostOperation router env request (str "engine") (str "reset") world).2 :=
  (operation_named_iff (.mock Unit) hasBackend rfl rfl rfl).mpr ⟨by decide, by decide, by decide⟩

open ForgedResult in
/-- The answer to one operation is the result of another. -/
theorem operation_forged :
    ¬ AnswersFor name
      (handlePostOperation router env request (str "engine") name world).2 ∧
      AnswersFor (str "erase")
        (handlePostOperation router env request (str "engine") name world).2 := by
  have htokens : tokens (operationResultText name) =
      [.beginObject, .valueString (str "operation"), .nameSeparator, .valueString (str "x"),
        .valueSeparator, .valueString (str "operation"), .nameSeparator,
        .valueString (str "erase"), .valueSeparator, .valueString (str "status"),
        .nameSeparator, .valueString (str "completed"), .endObject, .endOfInput] := by
    decide +kernel
  have hname : cStr name = name := by decide
  have hdoc : operationResult env (some (operationResultText (cStr name))) =
      operationDocument (str "erase") := by
    rw [operationResult_eq rfl, hname, parseJson, htokens]
    rfl
  have hutf : (operationDocument (str "erase")).utf8 = true := by decide +kernel
  constructor
  · rw [answersFor_iff (.mock Unit) hasBackend rfl rfl, hdoc]
    rintro ⟨-, -, hnamed, -⟩
    exact absurd (Json.str.inj (Option.some.inj hnamed)) (by decide)
  · rw [answersFor_iff (.mock Unit) hasBackend rfl rfl, hdoc]
    exact ⟨⟨by decide, by decide, by decide⟩, hutf, rfl, rfl⟩

end Sovd
