import Sovd.Server.World

/-!
# The request handlers (`server/src/routes_*.cpp`)

The handlers that act on an ECU (PUT data, DELETE faults, POST modes, POST
operations) open with `lockGated`, work out from the request what to ask of the
adapter, ask it, and report: an error response, or an event and an answer
(`finishCall`). The event is built after the effect, so an event that cannot be
written turns a request that took effect into a 500.

`Acts` says, one rule a handler, which adapter call a request amounts to and how
it is reported. Two lemmas tie the handlers to it and are all the rest of the
development uses: a request that acts does exactly that (`handle_of_acts`), and
any other leaves everything as it was but for a denied scope that is reported
(`handle_of_not_acts`).

Mirroring notes vs the C++:
- `json` texts in braces are documents here; the words of every error are the
  source's.
- What `putDataBytes` and `postedMode` refuse is the text of a 400.
-/

namespace Sovd

variable {σ : Type}

/-- What the handler does once the adapter has answered `r`. -/
def finishCall (env : Env) (r : SovdResult) (res : Response) (failed event : Bytes)
    (fields : List (Bytes × Json)) (answer : Response → Outcome) (w : World σ) :
    World σ × Outcome :=
  if r ≠ .ok then (w, writeError res (httpStatusFor r) (str "ADAPTER_ERROR") failed)
  else emitThen env event fields w fun w => (w, answer res)

/-- A 204. -/
def noContent (res : Response) : Outcome := .ok { res with status := 204 }

/-! ## Faults -/

/-- `handle_clear_faults` -/
def handleClearFaults (R : Router σ) (env : Env) (req : Request) (path : Bytes) (w : World σ) :
    World σ × Outcome :=
  lockGated R env req path Vtable.clearFaults w fun clearFaults corr res =>
    let (r, adapter) := clearFaults w.adapter (cStr path)
    finishCall env r res (str "clear_faults failed") (str "faults_cleared")
      [(str "entity", .str path), (str "correlation_id", .str corr)] noContent
      { w with adapter, calls := w.calls ++ [.clearFaults (cStr path) r] }

/-! ## Data -/

/-- What reading one data item comes to. -/
inductive DataReadOutcome
  | ok (body : Json)
  | failed (status : Int) (errorCode message : Bytes)

/-- The document of a value read through the catalog. -/
def itemBody (item : DataItem) (value : TypedValue) : Json :=
  .obj ([(str "id", .str item.id), (str "did", .str (toHexU16 item.did)),
    (str "value", match value with
      | .text s => .str s
      | .number x => .float x)] ++
    if item.encoding.unit = [] then [] else [(str "unit", .str item.encoding.unit)])

/-- What the answer of `read_data` becomes. -/
def dataReadOutcome (castU64 : Nat → Rat) (idOrDid : Bytes) (item : Option DataItem)
    (r : SovdResult) (bytes : Bytes) : DataReadOutcome :=
  if r ≠ .ok then .failed (httpStatusFor r) (str "ADAPTER_ERROR") (str "read_data failed")
  else
    match item with
    | some item =>
      match Catalog.decode castU64 item bytes with
      | .ok value => .ok (itemBody item value)
      | .error ex =>
        .failed 502 (str "ADAPTER_ERROR") (str "catalog decode failed: " ++ ex.what)
    | none => .ok (.obj [(str "id", .str idOrDid), (str "value", .str (toHex bytes))])

/-- Hex text is UTF-8. -/
theorem utf8_toHexU16 (v : UInt16) : Utf8.valid (toHexU16 v) = true :=
  Utf8.valid_of_ascii fun _ hc => isHexDigit_ascii (isHexDigit_of_mem_toHexU16 hc)

/-- The text the adapter is asked for: the DID of a catalog item, else the text given. -/
def didText (item : Option DataItem) (idOrDid : Bytes) : Bytes :=
  match item with
  | some i => toHexU16 i.did
  | none => idOrDid

/-- The catalog item that a path segment names, if the entity has a catalog. -/
def findItem (cat : Option Catalog) (idOrDid : Bytes) : Option DataItem :=
  cat.bind fun c => c.findById idOrDid

/-- `read_one_data_item` -/
def readOneDataItem (env : Env) (readData : σ → Bytes → Bytes → SovdResult × Bytes × σ)
    (path idOrDid : Bytes) (cat : Option Catalog) (w : World σ) : DataReadOutcome × World σ :=
  let item := findItem cat idOrDid
  let (r, bytes, adapter) := readData w.adapter (cStr path) (cStr (didText item idOrDid))
  (dataReadOutcome env.castU64 idOrDid item r bytes, { w with adapter })

/-- `handle_get_data` -/
def handleGetData (R : Router σ) (env : Env) (req : Request) (path idOrDid : Bytes)
    (w : World σ) : World σ × Outcome :=
  withBackend R env req path Vtable.readData w fun readData _ res =>
    match readOneDataItem env readData path idOrDid (R.findCatalog path) w with
    | (.ok body, w) => (w, res.setJson body)
    | (.failed status errorCode message, w) => (w, writeError res status errorCode message)

/-- The bytes the body of a PUT asks to write. -/
def putDataBytes (env : Env) (item : Option DataItem) (body : Bytes) : Except Bytes Bytes :=
  match env.parse body with
  | none => .error (str "invalid JSON body")
  | some parsed =>
    match parsed.get? (str "value") with
    | none => .error (str "expected \x7b\"value\": ...\x7d")
    | some value =>
      match item with
      | some item =>
        -- every type but `float` is written from a string
        let typed : Except Bytes TypedValue :=
          if item.type = .float then
            match value.getNumber? with
            | some x => .ok (.number x)
            | none => .error (str "value must be a number for this data item")
          else
            match value.getString? with
            | some s => .ok (.text s)
            | none => .error (str "value must be a string for this data item")
        match typed with
        | .error text => .error text
        | .ok typed => (Catalog.encode env.castU64 item typed).mapError CatalogError.what
      | none =>
        match value.getString? with
        | none => .error (str "expected \x7b\"value\": \"<hex>\"\x7d")
        | some s =>
          match fromHex s with
          | some bytes => .ok bytes
          | none => .error (str "value must be hex-encoded bytes")

/-- The item cannot be written. -/
def readOnly (item : DataItem) : Bool := item.access == .read

/-- The item needs a scope the request does not have. -/
def scopeDenied (R : Router σ) (env : Env) (req : Request) (item : DataItem) : Bool :=
  item.requiresSecurityLevel.isSome && !R.hasOauth2Scope env req (str "execute:security_access")

/-- `handle_put_data`: the item is checked before the body, and the body before the adapter is
asked. -/
def handlePutData (R : Router σ) (env : Env) (req : Request) (path idOrDid : Bytes)
    (w : World σ) : World σ × Outcome :=
  lockGated R env req path Vtable.writeData w fun writeData corr res =>
    let item := findItem (R.findCatalog path) idOrDid
    let didHex := didText item idOrDid
    -- the two restrictions are those of the item, and a text without one has none
    match item.filter readOnly with
    | some i =>
      (w, writeError res 400 (str "BAD_REQUEST")
        (str "data item '" ++ i.id ++ str "' is read-only"))
    | none =>
      match item.filter (scopeDenied R env req) with
      | some i =>
        emitThen env (str "security_access_scope_denied")
          [(str "entity", .str path), (str "id", .str i.id), (str "correlation_id", .str corr)]
          w fun w =>
            (w, writeError res 403 (str "FORBIDDEN")
              (str "token lacks execute:security_access scope required for '" ++ i.id ++ str "'"))
      | none =>
        match putDataBytes env item req.body with
        | .error text => (w, writeError res 400 (str "BAD_REQUEST") text)
        | .ok bytes =>
          let (r, adapter) := writeData w.adapter (cStr path) (cStr didHex) bytes
          finishCall env r res (str "write_data failed") (str "data_written")
            [(str "entity", .str path),
              (str "id", .str (item.elim idOrDid DataItem.id)),
              (str "did", .str didHex), (str "correlation_id", .str corr)] noContent
            { w with adapter, calls := w.calls ++ [.writeData (cStr path) (cStr didHex) bytes r] }

/-! ## Modes and operations -/

/-- The mode the body of a POST asks for. -/
def postedMode (env : Env) (body : Bytes) : Except Bytes Bytes :=
  match env.parse body with
  | none => .error (str "invalid JSON body")
  | some parsed =>
    match (parsed.get? (str "mode")).bind Json.getString? with
    | none => .error (str "expected \x7b\"mode\": \"<name>\"\x7d")
    | some mode => .ok mode

/-- `handle_post_mode` -/
def handlePostMode (R : Router σ) (env : Env) (req : Request) (path : Bytes) (w : World σ) :
    World σ × Outcome :=
  lockGated R env req path Vtable.setMode w fun setMode corr res =>
    match postedMode env req.body with
    | .error text => (w, writeError res 400 (str "BAD_REQUEST") text)
    | .ok mode =>
      let (r, adapter) := setMode w.adapter (cStr path) (cStr mode)
      finishCall env r res (str "set_mode failed") (str "mode_changed")
        [(str "entity", .str path), (str "mode", .str mode), (str "correlation_id", .str corr)]
        noContent
        { w with adapter, calls := w.calls ++ [.setMode (cStr path) (cStr mode) r] }

/-- The parameters handed to the adapter; no body is an empty object. -/
def operationParams (body : Bytes) : Bytes := if body = [] then str "\x7b\x7d" else body

/-- The document answered for an operation: the adapter's, if it is one. -/
def operationResult (env : Env) (outResult : Option Bytes) : Json :=
  ((outResult.map cStr).bind env.parse).getD (.obj [])

/-- `handle_post_operation`: what the operation gave back is put in the answer. -/
def handlePostOperation (R : Router σ) (env : Env) (req : Request) (path op : Bytes)
    (w : World σ) : World σ × Outcome :=
  lockGated R env req path Vtable.executeOperation w fun executeOperation corr res =>
    let paramsJson := operationParams req.body
    let (r, outResult, adapter) :=
      executeOperation w.adapter (cStr path) (cStr op) (cStr paramsJson)
    finishCall env r res (str "operation failed") (str "operation_executed")
      [(str "entity", .str path), (str "operation", .str op), (str "correlation_id", .str corr)]
      (fun res => res.setJson (operationResult env outResult))
      { w with
        adapter
        calls := w.calls ++ [.executeOperation (cStr path) (cStr op) (cStr paramsJson) r] }

/-! ## What a gated request amounts to -/

/-- The lock-gated handlers, with what their routes capture besides the path. -/
inductive GatedHandler
  | clearFaults
  | putData (idOrDid : Bytes)
  | postMode
  | postOperation (op : Bytes)

/-- The four handlers that ask a backend to change something. -/
def GatedHandler.handle (R : Router σ) (env : Env) (req : Request) (path : Bytes) :
    GatedHandler → World σ → World σ × Outcome
  | clearFaults => handleClearFaults R env req path
  | putData idOrDid => handlePutData R env req path idOrDid
  | postMode => handlePostMode R env req path
  | postOperation op => handlePostOperation R env req path op

/-- An adapter call that was made, what it left, and how it is reported. -/
structure Act (σ : Type) where
  call : AdapterCall
  adapter : σ
  failed : Bytes
  event : Bytes
  fields : List (Bytes × Json)
  answer : Response → Outcome

/-- The event and the answer that follow a backend call. -/
def Act.report (env : Env) (res : Response) (a : Act σ) (w : World σ) : World σ × Outcome :=
  finishCall env a.call.ret res a.failed a.event a.fields a.answer
    { w with adapter := a.adapter, calls := w.calls ++ [a.call] }

/-- What a request the lock check lets through does, `corr` being its correlation id. -/
inductive Acts (R : Router σ) (env : Env) (req : Request) (path corr : Bytes) (s : σ) :
    GatedHandler → Act σ → Prop
  | clearFaults {f r s'} (hf : GetsTo R path Vtable.clearFaults f)
      (hr : f s (cStr path) = (r, s')) :
      Acts R env req path corr s .clearFaults
        { call := .clearFaults (cStr path) r
          adapter := s'
          failed := str "clear_faults failed"
          event := str "faults_cleared"
          fields := [(str "entity", .str path), (str "correlation_id", .str corr)]
          answer := noContent }
  | putData {f item idOrDid bytes r s'} (hf : GetsTo R path Vtable.writeData f)
      (hitem : findItem (R.findCatalog path) idOrDid = item)
      (hw : ∀ i, item = some i → readOnly i = false ∧ scopeDenied R env req i = false)
      (hb : putDataBytes env item req.body = .ok bytes)
      (hr : f s (cStr path) (cStr (didText item idOrDid)) bytes = (r, s')) :
      Acts R env req path corr s (.putData idOrDid)
        { call := .writeData (cStr path) (cStr (didText item idOrDid)) bytes r
          adapter := s'
          failed := str "write_data failed"
          event := str "data_written"
          fields := [(str "entity", .str path), (str "id", .str (item.elim idOrDid DataItem.id)),
            (str "did", .str (didText item idOrDid)), (str "correlation_id", .str corr)]
          answer := noContent }
  | postMode {f mode r s'} (hf : GetsTo R path Vtable.setMode f)
      (hm : postedMode env req.body = .ok mode)
      (hr : f s (cStr path) (cStr mode) = (r, s')) :
      Acts R env req path corr s .postMode
        { call := .setMode (cStr path) (cStr mode) r
          adapter := s'
          failed := str "set_mode failed"
          event := str "mode_changed"
          fields := [(str "entity", .str path), (str "mode", .str mode),
            (str "correlation_id", .str corr)]
          answer := noContent }
  | postOperation {f op r out s'} (hf : GetsTo R path Vtable.executeOperation f)
      (hr : f s (cStr path) (cStr op) (cStr (operationParams req.body)) = (r, out, s')) :
      Acts R env req path corr s (.postOperation op)
        { call := .executeOperation (cStr path) (cStr op) (cStr (operationParams req.body)) r
          adapter := s'
          failed := str "operation failed"
          event := str "operation_executed"
          fields := [(str "entity", .str path), (str "operation", .str op),
            (str "correlation_id", .str corr)]
          answer := fun res => res.setJson (operationResult env out) }

/-- Nothing changed but for events that say a scope was denied. -/
structure Declined (w w' : World σ) : Prop where
  locks : w'.locks = w.locks
  adapter : w'.adapter = w.adapter
  calls : w'.calls = w.calls
  events : ∃ es, w'.events = w.events ++ es ∧
    ∀ j ∈ es, j.get? (str "event") = some (.str (str "security_access_scope_denied"))

/-- A server that was left as it is had nothing asked of its backend. -/
theorem Untouched.declined {w w' : World σ} (h : Untouched w w') : Declined w w' :=
  ⟨h.locks, h.adapter, h.calls, [], by simp [h.events], by simp⟩

section Spec

variable {R : Router σ} {env : Env} {req : Request} {path : Bytes} {w : World σ}

/-- **What a request does that acts**: its one adapter call, and the report of it. -/
theorem handle_of_acts {k : GatedHandler} {a : Act σ}
    (hlock : checkLockHeader env req path w.locks = true)
    (h : Acts R env req path (correlationIdFor env req {}).1 w.adapter k a) :
    k.handle R env req path w = a.report env (correlationIdFor env req {}).2 w := by
  cases h with
  | clearFaults hf hr =>
    rw [GatedHandler.handle, handleClearFaults, lockGated_of_getsTo hf hlock, hr]
    rfl
  | putData hf hitem hw hb hr =>
    rename_i f item idOrDid bytes r s'
    have hread : item.filter readOnly = none := by
      rw [Option.filter_eq_none_iff]
      intro i hi
      simp [(hw i hi).1]
    have hscope : item.filter (scopeDenied R env req) = none := by
      rw [Option.filter_eq_none_iff]
      intro i hi
      simp [(hw i hi).2]
    rw [GatedHandler.handle, handlePutData, lockGated_of_getsTo hf hlock]
    simp only [hitem, hread, hscope, hb, hr]
    rfl
  | postMode hf hm hr =>
    rw [GatedHandler.handle, handlePostMode, lockGated_of_getsTo hf hlock]
    simp only [hm, hr]
    rfl
  | postOperation hf hr =>
    rw [GatedHandler.handle, handlePostOperation, lockGated_of_getsTo hf hlock]
    simp only [hr]
    rfl

/-- A gated request that does not act is turned away past the gate, if not before. -/
theorem lockGated_declined {α : Type} {select : Vtable σ → Option α}
    {act : (f : α) → (corr : Bytes) → Response → World σ × Outcome}
    (h : ∀ f, GetsTo R path select f → checkLockHeader env req path w.locks = true →
      Declined w (act f (correlationIdFor env req {}).1 (correlationIdFor env req {}).2).1) :
    Declined w (lockGated R env req path select w act).1 := by
  by_cases hgate : ∃ f, GetsTo R path select f ∧ checkLockHeader env req path w.locks = true
  · obtain ⟨f, hf, hlock⟩ := hgate
    rw [lockGated_of_getsTo hf hlock]
    exact h f hf hlock
  · refine (lockGated_of_not fun f hf => ?_).declined
    exact eq_false_of_ne_true fun hlock => hgate ⟨f, hf, hlock⟩

/-- A denied scope is reported as such, or not at all. -/
theorem emitEvent_scope_denied {fields : List (Bytes × Json)} {w' : World σ}
    (h : emitEvent env (str "security_access_scope_denied") fields w = .ok w') :
    Declined w w' := by
  obtain ⟨-, rfl⟩ := emitEvent_eq_ok h
  refine ⟨rfl, rfl, rfl, [_], rfl, ?_⟩
  intro j hj
  rw [List.mem_singleton.mp hj, eventDocument_type]

/-- **What any other request does**: nothing to the locks or an adapter. -/
theorem handle_of_not_acts {k : GatedHandler}
    (h : ∀ a, checkLockHeader env req path w.locks = true →
      ¬ Acts R env req path (correlationIdFor env req {}).1 w.adapter k a) :
    Declined w (k.handle R env req path w).1 := by
  cases k with
  | clearFaults =>
    refine lockGated_declined fun f hf hlock => ?_
    exact absurd (.clearFaults hf rfl) (h _ hlock)
  | postOperation op =>
    refine lockGated_declined fun f hf hlock => ?_
    exact absurd (.postOperation hf rfl) (h _ hlock)
  | postMode =>
    refine lockGated_declined fun f hf hlock => ?_
    dsimp only
    split
    next => exact Untouched.rfl.declined
    next mode hm => exact absurd (.postMode hf hm rfl) (h _ hlock)
  | putData idOrDid =>
    refine lockGated_declined fun f hf hlock => ?_
    dsimp only
    split
    next => exact Untouched.rfl.declined
    next hread =>
      split
      next i hi =>
        -- the scope is missing: reported if the event can be written
        unfold emitThen
        split
        next => exact Untouched.rfl.declined
        next w' hw' => exact emitEvent_scope_denied hw'
      next hscope =>
        split
        next => exact Untouched.rfl.declined
        next bytes hb =>
          refine absurd (.putData hf rfl (fun i hi => ?_) hb rfl) (h _ hlock)
          rw [Option.filter_eq_none_iff] at hread hscope
          exact ⟨eq_false_of_ne_true (hread i hi), eq_false_of_ne_true (hscope i hi)⟩

/-- What acting does to the world: one event more where there is something to report. -/
structure Reported (env : Env) (w : World σ) (a : Act σ) (w' : World σ) : Prop where
  locks : w'.locks = w.locks
  adapter : w'.adapter = a.adapter
  calls : w'.calls = w.calls ++ [a.call]
  events : w'.events = w.events ++
    if a.call.ret = .ok ∧ (eventDocument env a.event a.fields).utf8 = true
    then [eventDocument env a.event a.fields] else []

/-- What is reported is what was done. -/
theorem report_world (env : Env) (res : Response) (a : Act σ) (w : World σ) :
    Reported env w a (a.report env res w).1 := by
  unfold Act.report finishCall emitThen
  by_cases hret : a.call.ret = .ok
  · rw [if_neg (not_not.mpr hret)]
    cases hutf : (eventDocument env a.event a.fields).utf8 with
    | true =>
      rw [emitEvent_of_utf8 _ hutf]
      exact ⟨rfl, rfl, rfl, by simp [hret, hutf]⟩
    | false =>
      rw [emitEvent_of_not_utf8 _ hutf]
      exact ⟨rfl, rfl, rfl, by simp [hutf]⟩
  · rw [if_pos hret]
    exact ⟨rfl, rfl, rfl, by simp [hret]⟩

/-- What acting answers once the adapter said OK. -/
theorem report_outcome {res : Response} {a : Act σ} (h : a.call.ret = .ok) :
    (a.report env res w).2 =
      if (eventDocument env a.event a.fields).utf8 = true then a.answer res
      else .error .invalidUtf8 := by
  unfold Act.report finishCall emitThen
  rw [if_neg (not_not.mpr h)]
  cases hutf : (eventDocument env a.event a.fields).utf8 with
  | true =>
    rw [emitEvent_of_utf8 _ hutf]
    rfl
  | false =>
    rw [emitEvent_of_not_utf8 _ hutf]
    rfl

/-- A handler that acts reports that it did. -/
theorem acts_reported {k : GatedHandler} {a : Act σ}
    (hlock : checkLockHeader env req path w.locks = true)
    (h : Acts R env req path (correlationIdFor env req {}).1 w.adapter k a) :
    Reported env w a (k.handle R env req path w).1 := by
  rw [handle_of_acts hlock h]
  exact report_world ..

/-- A request that changed the record of calls was let through and acted. -/
theorem acts_of_calls {k : GatedHandler} (h : (k.handle R env req path w).1.calls ≠ w.calls) :
    checkLockHeader env req path w.locks = true ∧
      ∃ a, Acts R env req path (correlationIdFor env req {}).1 w.adapter k a := by
  by_contra hno
  refine h (handle_of_not_acts fun a hlock ha => ?_).calls
  exact hno ⟨hlock, a, ha⟩

end Spec

end Sovd
