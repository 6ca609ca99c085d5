import Sovd.Server.Handlers

/-!
# The audit trail of the lock-gated handlers

Whatever a request made the ECU do has to be in the event sink: one event that
names the entity and the DID, mode or operation, and the caller is told that it
happened (`Audited`). The handlers call the adapter first and build the event
after, out of the texts of the request. Two things can go wrong in between.

- The adapter reads a text up to its first NUL, and the event names the whole
  text, so the event can name something the adapter never saw.
- The event is written as JSON, which throws on a text that is not UTF-8: the ECU
  has acted, no event is delivered, and the answer is a 500.

`audit_iff` says that these are the only ways: once the adapter says OK, a
request is audited exactly when its texts are UTF-8 and the one the adapter
receives has no NUL (`Auditable`). A request that is not answered OK by an
adapter is always audited: it leaves no such event.

The argument goes through `Acts`: the fields of the event and the arguments of
the call are side by side in each of its rules. What is parsed out of a JSON body
is UTF-8 (`JsonParser.Strict`), so of a mode only the NUL matters.
-/

namespace Sovd

variable {σ : Type}

/-! ## What an audit trail is -/

/-- What the adapter acted on, as it received it, under the name its event gives it. -/
def AdapterCall.target : AdapterCall → Option (Bytes × Bytes)
  | .clearFaults _ _ => none
  | .writeData _ did _ _ => some (str "did", did)
  | .setMode _ mode _ => some (str "mode", mode)
  | .executeOperation _ op _ _ => some (str "operation", op)

/-- The event that each handler tells. -/
def GatedHandler.eventType : GatedHandler → Bytes
  | clearFaults => str "faults_cleared"
  | putData _ => str "data_written"
  | postMode => str "mode_changed"
  | postOperation _ => str "operation_executed"

/-- The event names the entity and what the adapter acted on. -/
structure Names (k : GatedHandler) (path : Bytes) (call : AdapterCall) (j : Json) : Prop where
  type : j.get? (str "event") = some (.str k.eventType)
  entity : j.get? (str "entity") = some (.str path)
  target : ∀ key text, call.target = some (key, text) → j.get? key = some (.str text)

/-- What the request asked of adapters, and what it delivered to the sink. -/
def asked (w w' : World σ) : List AdapterCall := w'.calls.drop w.calls.length

/-- What was told since. -/
def delivered (w w' : World σ) : List Json := w'.events.drop w.events.length

/-- **The audit obligation** of one request. -/
structure Audited (k : GatedHandler) (path : Bytes) (w : World σ) (out : World σ × Outcome) :
    Prop where
  acted : ∀ call ∈ asked w out.1, call.ret = .ok →
    (∃ j, delivered w out.1 = [j] ∧ Names k path call j) ∧ isSuccess (finalStatus out.2) = true
  idle : (∀ call ∈ asked w out.1, call.ret ≠ .ok) →
    ∀ j ∈ delivered w out.1, j.get? (str "event") ≠ some (.str k.eventType)

/-! ## The event against the call -/

/-- The text the request names is UTF-8 (a mode is, having been parsed). -/
def NamesUtf8 : GatedHandler → Prop
  | .putData idOrDid => Utf8.valid idOrDid = true
  | .postOperation op => Utf8.valid op = true
  | _ => True

/-- The text handed to the adapter is the same on both sides of the C ABI. -/
def NulFree (R : Router σ) (env : Env) (req : Request) (path : Bytes) : GatedHandler → Prop
  | .clearFaults => True
  | .putData idOrDid => findItem (R.findCatalog path) idOrDid = none → (0 : UInt8) ∉ idOrDid
  | .postMode => ∀ mode, postedMode env req.body = .ok mode → (0 : UInt8) ∉ mode
  | .postOperation op => (0 : UInt8) ∉ op

/-- A request whose event can be written and says what the adapter was told. -/
structure Auditable (R : Router σ) (env : Env) (req : Request) (path : Bytes) (k : GatedHandler) :
    Prop where
  entity : Utf8.valid path = true
  correlation : Utf8.valid (correlationIdFor env req {}).1 = true
  names : NamesUtf8 k
  nulFree : NulFree R env req path k

theorem eventType_utf8 (k : GatedHandler) : Utf8.valid k.eventType = true := by
  have htypes : ∀ type ∈ [str "faults_cleared", str "data_written", str "mode_changed",
      str "operation_executed"], Utf8.valid type = true := by decide
  apply htypes
  cases k <;> simp [GatedHandler.eventType]

/-- A mode that was parsed out of a body is UTF-8. -/
theorem postedMode_utf8 {env : Env} (hp : env.parse.Strict) {body mode : Bytes}
    (h : postedMode env body = .ok mode) : Utf8.valid mode = true := by
  unfold postedMode at h
  split at h
  next => cases h
  next parsed hparsed =>
    split at h
    next => cases h
    next m hm =>
      obtain rfl := Except.ok.inj h
      obtain ⟨v, hv, hs⟩ := Option.bind_eq_some_iff.mp hm
      exact hp.getString hparsed hv hs

section

variable {R : Router σ} {env : Env} {req : Request} {path corr : Bytes} {s : σ}
  {k : GatedHandler} {a : Act σ}

theorem Acts.event_eq (h : Acts R env req path corr s k a) : a.event = k.eventType := by
  cases h <;> rfl

/-- No field is called like the two that every event has. -/
theorem Acts.fields_plain (h : Acts R env req path corr s k a) :
    ∀ m ∈ a.fields, m.1 ≠ str "event" ∧ m.1 ≠ str "ts_ms" := by
  have hnames : ∀ key ∈ [str "entity", str "id", str "did", str "mode", str "operation",
      str "correlation_id"], key ≠ str "event" ∧ key ≠ str "ts_ms" := by decide
  intro m hm
  apply hnames
  cases h <;> simp only [List.mem_cons, List.not_mem_nil, or_false] at hm <;>
    rcases hm with rfl | rfl | rfl | rfl <;> simp

/-- The event can be written exactly when the texts in it are UTF-8. -/
theorem Acts.utf8_iff (hp : env.parse.Strict) (h : Acts R env req path corr s k a) :
    (eventDocument env a.event a.fields).utf8 = true ↔
      Utf8.valid path = true ∧ Utf8.valid corr = true ∧ NamesUtf8 k := by
  rw [eventDocument_utf8 h.fields_plain (h.event_eq ▸ eventType_utf8 k)]
  have hkeys : ∀ key ∈ [str "entity", str "id", str "did", str "mode", str "operation",
      str "correlation_id"], Utf8.valid key = true := by decide
  simp only [List.mem_cons, List.not_mem_nil, or_false, forall_eq_or_imp, forall_eq] at hkeys
  obtain ⟨hent, hid, hdid, hmode, hop, hcorr⟩ := hkeys
  cases h with
  | clearFaults hf hr =>
    simp [hent, hcorr, NamesUtf8]
  | putData hf hitem hw hb hr =>
    rename_i f item idOrDid bytes r s'
    simp only [Json.utf8Members_cons, Json.utf8Members_nil, Json.utf8_str, hent, hid, hdid, hcorr,
      Bool.true_and, Bool.and_true, Bool.and_eq_true, NamesUtf8]
    cases item with
    | none =>
      show _ ∧ Utf8.valid idOrDid = true ∧ Utf8.valid idOrDid = true ∧ _ ↔ _
      tauto
    | some i =>
      -- the item was found under the text of the request; its DID is hex digits
      obtain ⟨c, -, hc⟩ := Option.bind_eq_some_iff.mp hitem
      obtain ⟨-, rfl⟩ := Catalog.findById_mem hc
      show _ ∧ Utf8.valid i.id = true ∧ Utf8.valid (toHexU16 i.did) = true ∧ _ ↔ _
      rw [utf8_toHexU16]
      tauto
  | postMode hf hm hr =>
    simp [hent, hmode, hcorr, postedMode_utf8 hp hm, NamesUtf8]
  | postOperation hf hr =>
    simp only [Json.utf8Members_cons, Json.utf8Members_nil, Json.utf8_str, hent, hop, hcorr,
      Bool.true_and, Bool.and_true, Bool.and_eq_true, NamesUtf8]
    tauto

/-- An event that says `text` where the adapter was told `cStr text` names what
the adapter acted on exactly when there is no NUL. -/
theorem names_target_iff {call : AdapterCall} {fields : List (Bytes × Json)} {key text type : Bytes}
    (hcall : call.target = some (key, cStr text))
    (hget : (Json.obj fields).get? key = some (.str text))
    (hkey : key ≠ str "event" ∧ key ≠ str "ts_ms") :
    (∀ key' text', call.target = some (key', text') →
      (eventDocument env type fields).get? key' = some (.str text')) ↔ (0 : UInt8) ∉ text := by
  rw [← cStr_eq_self]
  constructor
  · intro h
    have hdoc := h key (cStr text) hcall
    rw [eventDocument_get? hkey.1 hkey.2, hget] at hdoc
    simpa using hdoc.symm
  · intro h key' text' htarget
    rw [hcall, h] at htarget
    obtain ⟨rfl, rfl⟩ : key = key' ∧ text = text' := by simpa using htarget
    rw [eventDocument_get? hkey.1 hkey.2, hget]

theorem Acts.names_iff (h : Acts R env req path corr s k a) :
    Names k path a.call (eventDocument env a.event a.fields) ↔ NulFree R env req path k := by
  have htype : (eventDocument env a.event a.fields).get? (str "event") =
      some (.str k.eventType) := by rw [eventDocument_type, h.event_eq]
  have hentity : (eventDocument env a.event a.fields).get? (str "entity") = some (.str path) := by
    rw [eventDocument_get? (by decide) (by decide)]
    cases h <;> rfl
  -- what is left of `Names` is the text the adapter was told
  have hnames : Names k path a.call (eventDocument env a.event a.fields) ↔
      ∀ key text, a.call.target = some (key, text) →
        (eventDocument env a.event a.fields).get? key = some (.str text) :=
    ⟨fun hn => hn.target, fun ht => ⟨htype, hentity, ht⟩⟩
  rw [hnames]
  cases h with
  | clearFaults hf hr => simp [AdapterCall.target, NulFree]
  | putData hf hitem hw hb hr =>
    rename_i f item idOrDid bytes r s'
    rw [names_target_iff rfl rfl (by decide), NulFree, hitem]
    cases item with
    | none => simp [didText]
    | some i => simp [didText, cStr_eq_self.mp (cStr_toHexU16 i.did)]
  | postMode hf hm hr =>
    rw [names_target_iff rfl rfl (by decide), NulFree, hm]
    simp
  | postOperation hf hr => exact names_target_iff rfl rfl (by decide)

/-- The answer to a request that was audited is a success. -/
theorem Acts.answer_success (hp : env.parse.Strict) (h : Acts R env req path corr s k a)
    {res : Response} (hres : res.status = -1) :
    isSuccess (finalStatus (a.answer res)) = true := by
  cases h with
  | postOperation hf hr =>
    rename_i f op r out s'
    -- the adapter's document, if it is one, is UTF-8
    have hutf : (operationResult env out).utf8 = true := by
      unfold operationResult
      cases hd : (out.map cStr).bind env.parse with
      | none => simp
      | some j =>
        obtain ⟨text, -, hj⟩ := Option.bind_eq_some_iff.mp hd
        exact hp text j hj
    obtain ⟨res', hres', hstatus⟩ := Response.setJson_of_utf8 res hutf
    show isSuccess (finalStatus (res.setJson (operationResult env out))) = true
    rw [hres', finalStatus, hstatus, hres]
    decide
  | _ =>
    show isSuccess (finalStatus (noContent res)) = true
    rfl

end

/-! ## The audit theorem -/

section

variable {R : Router σ} {env : Env} {req : Request} {path : Bytes} {w : World σ}
  {k : GatedHandler}

/-- The request gets to the adapter, and the adapter says OK. -/
def AnsweredOk (R : Router σ) (env : Env) (req : Request) (path : Bytes) (k : GatedHandler)
    (w : World σ) : Prop :=
  checkLockHeader env req path w.locks = true ∧
    ∃ a, Acts R env req path (correlationIdFor env req {}).1 w.adapter k a ∧ a.call.ret = .ok

theorem acts_asked {a : Act σ} (hlock : checkLockHeader env req path w.locks = true)
    (h : Acts R env req path (correlationIdFor env req {}).1 w.adapter k a) :
    asked w (k.handle R env req path w).1 = [a.call] := by
  rw [asked, (acts_reported hlock h).calls, List.drop_left]

theorem acts_delivered {a : Act σ} (hlock : checkLockHeader env req path w.locks = true)
    (h : Acts R env req path (correlationIdFor env req {}).1 w.adapter k a) :
    delivered w (k.handle R env req path w).1 =
      if a.call.ret = .ok ∧ (eventDocument env a.event a.fields).utf8 = true
      then [eventDocument env a.event a.fields] else [] := by
  rw [delivered, (acts_reported hlock h).events, List.drop_left]

/-- A request that is turned away leaves nothing to audit. -/
theorem Declined.audited {out : World σ × Outcome} (h : Declined w out.1) :
    Audited k path w out := by
  have hasked : asked w out.1 = [] := by rw [asked, h.calls, List.drop_length]
  refine ⟨by simp [hasked], fun _ => ?_⟩
  obtain ⟨es, hes, hdenied⟩ := h.events
  rw [delivered, hes, List.drop_left]
  intro j hj
  rw [hdenied j hj]
  cases k <;> simp [GatedHandler.eventType] <;> decide

/-- **The audit theorem.** A request is audited exactly when it is not answered
OK, or its texts are UTF-8 and the adapter is told what they say. -/
theorem audit_iff (hp : env.parse.Strict) :
    Audited k path w (k.handle R env req path w) ↔
      (AnsweredOk R env req path k w → Auditable R env req path k) := by
  constructor
  · intro haudit h
    obtain ⟨hlock, a, ha, hret⟩ := h
    have hasked := acts_asked hlock ha
    obtain ⟨⟨j, hj, hnames⟩, -⟩ := haudit.acted a.call (by simp [hasked]) hret
    rw [acts_delivered hlock ha] at hj
    split at hj
    next hok =>
      obtain rfl := List.singleton_inj.mp hj
      obtain ⟨hpath, hcorr, htext⟩ := (ha.utf8_iff hp).mp hok.2
      exact ⟨hpath, hcorr, htext, ha.names_iff.mp hnames⟩
    next => cases hj
  · intro h
    by_cases hgo : checkLockHeader env req path w.locks = true ∧
        ∃ a, Acts R env req path (correlationIdFor env req {}).1 w.adapter k a
    · obtain ⟨hlock, a, ha⟩ := hgo
      -- one call, and its event if the adapter said OK and it can be written
      have hasked := acts_asked hlock ha
      have hdel := acts_delivered hlock ha
      by_cases hret : a.call.ret = .ok
      · have hable := h ⟨hlock, a, ha, hret⟩
        have hutf := (ha.utf8_iff hp).mpr ⟨hable.entity, hable.correlation, hable.names⟩
        rw [if_pos ⟨hret, hutf⟩] at hdel
        refine ⟨fun call hcall _ => ⟨⟨_, hdel, ?_⟩, ?_⟩, fun hnone => ?_⟩
        · obtain rfl : call = a.call := by simpa [hasked] using hcall
          exact ha.names_iff.mpr hable.nulFree
        · rw [handle_of_acts hlock ha, report_outcome hret, if_pos hutf]
          exact ha.answer_success hp (correlationIdFor_status env req)
        · exact absurd hret (hnone a.call (by simp [hasked]))
      · rw [if_neg fun hok => hret hok.1] at hdel
        refine ⟨fun call hcall hok => ?_, fun _ => by simp [hdel]⟩
        obtain rfl : call = a.call := by simpa [hasked] using hcall
        exact absurd hok hret
    · exact (handle_of_not_acts fun a hlock ha => hgo ⟨hlock, a, ha⟩).audited

end

/-! ## Faults cleared, and no trace of it -/

namespace ClearFaults

/-- A backend that clears faults whenever it is asked. -/
def backend : Vtable Unit := { clearFaults := some fun s _ => (.ok, s) }

def router : Router Unit := { entities := [{ path := str "ecu", vtable := some backend }] }

/-- No token library; the parser is never asked. -/
def env : Env where
  ssl := { hmacSha256 := fun _ _ => [], encodeBlock := fun _ => [], decodeBlock := fun _ => none }
  parse := fun _ => none

/-- DELETE faults under the correlation id the client gives. -/
def request (correlationId : Bytes) : Request :=
  { method := str "DELETE", path := str "/v1/entities/ecu/faults",
    headers := [(str "X-SOVD-Correlation-Id", correlationId)] }

def world : World Unit := { adapter := () }

end ClearFaults

open ClearFaults in
/-- A request with an ASCII correlation id is audited. -/
theorem audit_iff_ascii :
    Audited .clearFaults (str "ecu") world
      (GatedHandler.clearFaults.handle router env (request (str "req-1")) (str "ecu") world) := by
  refine (audit_iff fun text j h => by cases h).mpr fun _ => ?_
  exact ⟨by decide, by decide, trivial, trivial⟩

open ClearFaults in
/-- A correlation id that is not UTF-8: the faults are gone, the sink has nothing,
and the client is told that the request failed. -/
theorem cleared_but_not_audited :
    ¬ Audited .clearFaults (str "ecu") world
      (GatedHandler.clearFaults.handle router env (request [0xFF]) (str "ecu") world) := by
  intro h
  obtain ⟨⟨j, hj, -⟩, -⟩ := h.acted (.clearFaults (str "ecu") .ok) (List.mem_singleton_self _) rfl
  have hnone : delivered world
      (GatedHandler.clearFaults.handle router env (request [0xFF]) (str "ecu") world).1 = [] := rfl
  rw [hnone] at hj
  cases hj

end Sovd
