import Sovd.Client.SovdClient
import Sovd.Client.Stod
import Sovd.Json.Parse

/-!
# Typed writes (`SovdClient::get_docs`, `put_typed_data`)

`put_typed_data` looks an id up in the entity's `/docs`, and sends what was typed as a number
if the id is listed as `float` and as a string if not. Of the exceptions that can come up it
catches two: the client's own while it asks for `/docs`, and that of `stod` for a text with
no number in it.

`typed_write_iff` says when it does what it is for (`WritesAsTyped`), whatever the server
answers: `/docs` has the types that `get_docs` reads, and what was typed is a decimal number
in range or starts with no number at all, where the id is a `float`, or UTF-8, where not.

Mirroring notes vs the C++:
- The exceptions of `json` (`type_error`) and of `stod` are told apart by their kind only.
- `value()` on anything but an object throws; `contains()` finds nothing there.
- A range over a document goes through its items, its members' values or, if it is neither
  array nor object nor null, the document itself.
- The requests that are sent are recorded by `recording`, around any exchange.
-/

namespace Sovd

/-- `SovdError` or something else. -/
inductive ClientExn
  | sovd (e : SovdError)
  | jsonTypeError
  | outOfRange

/-- `DataItemDoc` -/
structure DataItemDoc where
  id : Bytes := []
  did : Bytes := []
  type : Bytes := []
  access : Bytes := []
  ioControl : Bool := false
  requiresSession : Option Bytes := none
  length : Option Int := none
  scale : Option Double := none
  unit : Option Bytes := none
  values : Json := .null

/-- `OperationDoc` -/
structure OperationDoc where
  id : Bytes := []
  routineId : Bytes := []
  async : Bool := false
  requiresSession : Option Bytes := none

/-- `DocsResult` -/
structure DocsResult where
  path : Bytes
  type : Bytes := []
  hasBackend : Bool := false
  capabilities : Option Capabilities := none
  data : List DataItemDoc := []
  operations : List OperationDoc := []

namespace Json

/-- `get<bool>()`; `none` is an exception here and below. -/
def getBool? : Json → Option Bool
  | .bool b => some b
  | _ => none

/-- `get<int>()`, of a number that fits or, as x86-64 has it, does not. -/
def getInt? : Json → Option Int
  | .int i => some (toInt32 i)
  | .bool b => some (if b then 1 else 0)
  | .float (.fin q) =>
    let i := if 0 ≤ q then ⌊q⌋ else ⌈q⌉
    some (if -2 ^ 31 ≤ i ∧ i < 2 ^ 31 then i else -2 ^ 31)
  | .float _ => some (-2 ^ 31)
  | _ => none

/-- `value(key, default)` -/
def value {α : Type} (get : Json → Option α) (j : Json) (key : Bytes) (default : α) : Option α :=
  match j with
  | .obj _ =>
    match j.get? key with
    | some v => get v
    | none => some default
  | _ => none

/-- `if (j.contains(key)) out = j[key].get<…>()` -/
def optional {α : Type} (get : Json → Option α) (j : Json) (key : Bytes) : Option (Option α) :=
  match j.get? key with
  | some v => (get v).map some
  | none => some none

/-- What a range over the document goes through. -/
def elements : Json → List Json
  | .arr items => items
  | .obj members => members.map Prod.snd
  | .null => []
  | j => [j]

end Json

namespace SovdClient

/-! ## `get_docs` -/

/-- The capabilities of an entity; `none`: a field is of the wrong type, which throws. -/
def capabilitiesOf (c : Json) : Option Capabilities := do
  let supportsBatchRead ← c.value Json.getBool? (str "supports_batch_read") false
  let supportsAsyncOperations ← c.value Json.getBool? (str "supports_async_operations") false
  let supportsIoControl ← c.value Json.getBool? (str "supports_io_control") false
  some { supportsBatchRead, supportsAsyncOperations, supportsIoControl }

/-- One entry of `data`. -/
def dataItemDoc (d : Json) : Option DataItemDoc := do
  let id ← d.value Json.getString? (str "id") []
  let did ← d.value Json.getString? (str "did") []
  let type ← d.value Json.getString? (str "type") []
  let access ← d.value Json.getString? (str "access") []
  let ioControl ← d.value Json.getBool? (str "io_control") false
  let requiresSession ← d.optional Json.getString? (str "requires_session")
  let length ← d.optional Json.getInt? (str "length")
  let scale ← d.optional Json.getNumber? (str "scale")
  let unit ← d.optional Json.getString? (str "unit")
  let values := (d.get? (str "values")).getD .null
  some { id, did, type, access, ioControl, requiresSession, length, scale, unit, values }

/-- One entry of `operations`. -/
def operationDoc (o : Json) : Option OperationDoc := do
  let id ← o.value Json.getString? (str "id") []
  let routineId ← o.value Json.getString? (str "routine_id") []
  let async ← o.value Json.getBool? (str "async") false
  let requiresSession ← o.optional Json.getString? (str "requires_session")
  some { id, routineId, async, requiresSession }

/-- What `get_docs` makes of the answer; `none` is a `type_error`. -/
def docsResult (path : Bytes) (j : Json) : Option DocsResult := do
  let path ← j.value Json.getString? (str "path") path
  let type ← j.value Json.getString? (str "type") []
  let hasBackend ← j.value Json.getBool? (str "has_backend") false
  let capabilities ← j.optional capabilitiesOf (str "capabilities")
  let data ← (← j.value some (str "data") (.arr [])).elements.mapM dataItemDoc
  let operations ← (← j.value some (str "operations") (.arr [])).elements.mapM operationDoc
  some { path, type, hasBackend, capabilities, data, operations }

/-! ## `put_typed_data` -/

/-- The first item with that id counts. -/
def isFloat (docs : DocsResult) (id : Bytes) : Bool :=
  ((docs.data.find? fun d => d.id == id).map fun d => d.type == str "float").getD false

/-- The lookup in `/docs`; without an answer the id is as good as unnamed. -/
def lookupFloat (path id : Bytes) (docs : Except SovdError Json) : Option Bool :=
  match docs with
  | .error _ => some false
  | .ok j => (docsResult path j).map fun docs => isFloat docs id

section

variable {ω : Type*}

/-- `put_data` -/
def sendData (exchange : Call → ω → Except Bytes RemoteResponse × ω) (parse : JsonParser)
    (retry : RetryPolicy) (path id : Bytes) (value : Json) (lockId : Bytes) (w : ω) :
    Except ClientExn Unit × ω :=
  match (Json.obj [(str "value", value)]).dump with
  | .error _ => (.error .jsonTypeError, w)
  | .ok _ =>
    match request exchange parse retry (putData path id value lockId) w with
    | (.error e, w) => (.error (.sovd e), w)
    | (.ok _, w) => (.ok (), w)

/-- `put_typed_data`: the docs are asked for the type, and a float is sent as a number. -/
def putTypedData (exchange : Call → ω → Except Bytes RemoteResponse × ω) (parse : JsonParser)
    (retry : RetryPolicy) (underflows : Rat → Bool) (path id rawValue lockId : Bytes) (w : ω) :
    Except ClientExn Unit × ω :=
  let (docs, w) := request exchange parse retry (getDocs path) w
  match lookupFloat path id docs with
  | none => (.error .jsonTypeError, w)
  | some false => sendData exchange parse retry path id (.str rawValue) lockId w
  | some true =>
    match stod underflows rawValue with
    | .value x => sendData exchange parse retry path id (.float x) lockId w
    | .outOfRange => (.error .outOfRange, w)
    | .invalidArgument =>
      (.error (.sovd ⟨0, str "BAD_REQUEST",
        str "'" ++ rawValue ++ str "' is not a valid number for this data item"⟩), w)

/-! ## What is sent -/

/-- The exchange, with a record of what was sent. -/
def recording (exchange : Call → ω → Except Bytes RemoteResponse × ω) (call : Call)
    (s : ω × List Call) : Except Bytes RemoteResponse × ω × List Call :=
  let (res, w) := exchange call s.1
  (res, w, s.2 ++ [call])

/-- However often it is tried, a request is sent as it is, and at least once. -/
theorem attempts_recording (exchange : Call → ω → Except Bytes RemoteResponse × ω)
    (parse : JsonParser) (call : Call) (left : Nat) (w : ω) (sent : List Call) :
    ∃ n, attempts (recording exchange) parse call left (w, sent) =
      ((attempts exchange parse call left w).1, (attempts exchange parse call left w).2,
        sent ++ List.replicate (n + 1) call) := by
  induction left generalizing w sent with
  | zero =>
    refine ⟨0, ?_⟩
    unfold attempts recording
    rcases exchange call w with ⟨res | res, w'⟩
    · rfl
    · dsimp only
      split <;> rfl
  | succ left ih =>
    unfold attempts
    rcases hexchange : exchange call w with ⟨res | res, w'⟩
    · refine ⟨0, ?_⟩
      simp only [recording, hexchange]
      rfl
    · simp only [recording, hexchange]
      split_ifs
      · obtain ⟨n, hn⟩ := ih w' (sent ++ [call])
        refine ⟨n + 1, ?_⟩
        rw [hn, List.append_assoc, List.singleton_append, ← List.replicate_succ]
      · exact ⟨0, rfl⟩

/-- A call that is recorded goes as it would, and leaves its attempts. -/
theorem request_recording (exchange : Call → ω → Except Bytes RemoteResponse × ω)
    (parse : JsonParser) (retry : RetryPolicy) (call : Call) (w : ω) (sent : List Call) :
    ∃ n, request (recording exchange) parse retry call (w, sent) =
      ((request exchange parse retry call w).1, (request exchange parse retry call w).2,
        sent ++ List.replicate (n + 1) call) :=
  attempts_recording ..

/-- The PUTs among the requests. -/
def puts (sent : List Call) : List Call := sent.filter fun call => call.method == str "PUT"

/-- What of a request that is no PUT counts among the PUTs. -/
theorem puts_lookup (path : Bytes) (n : Nat) : puts (List.replicate n (getDocs path)) = [] := by
  have hmethod : ¬ ((getDocs path).method == str "PUT") = true :=
    show ¬ (str "GET" == str "PUT") = true by decide
  rw [puts, List.filter_replicate, if_neg hmethod]

/-- The one PUT that was sent, however often, is this. -/
def Puts (call : Call) (sent : List Call) : Prop := ∃ n, puts sent = List.replicate (n + 1) call

/-- What was put is one call, however often it was tried. -/
theorem Puts.unique {call call' : Call} {sent : List Call} (h : Puts call sent)
    (h' : Puts call' sent) : call = call' := by
  obtain ⟨n, hn⟩ := h
  obtain ⟨m, hm⟩ := h'
  rw [hn, List.replicate_succ, List.replicate_succ] at hm
  exact (List.cons.inj hm).1

/-- Something was put. -/
theorem Puts.ne_nil {call : Call} {sent : List Call} (h : Puts call sent) : puts sent ≠ [] := by
  obtain ⟨n, hn⟩ := h
  rw [hn, List.replicate_succ]
  exact List.cons_ne_nil _ _

section

variable (exchange : Call → ω → Except Bytes RemoteResponse × ω) (parse : JsonParser)
  (retry : RetryPolicy) (path id : Bytes) (lockId : Bytes)

/-- A value that can be written is sent, and what goes wrong then is a `SovdError`. -/
theorem sendData_of_utf8 {value : Json} (hvalue : value.utf8 = true) (w : ω) (n : Nat) :
    let run := sendData (recording exchange) parse retry path id value lockId
      (w, List.replicate n (getDocs path))
    (∀ ex, run.1 = .error ex → ∃ e, ex = .sovd e) ∧
      Puts (putData path id value lockId) run.2.2 := by
  have hutf : (Json.obj [(str "value", value)]).utf8 = true := by
    have hkey : Utf8.valid (str "value") = true := by decide
    simp [hkey, hvalue]
  obtain ⟨m, hm⟩ := request_recording exchange parse retry (putData path id value lockId) w
    (List.replicate n (getDocs path))
  have hputs : Puts (putData path id value lockId) (List.replicate n (getDocs path) ++
      List.replicate (m + 1) (putData path id value lockId)) := by
    refine ⟨m, ?_⟩
    have hput : puts (List.replicate (m + 1) (putData path id value lockId)) =
        List.replicate (m + 1) (putData path id value lockId) := by
      have hmethod : ((putData path id value lockId).method == str "PUT") = true :=
        show (str "PUT" == str "PUT") = true by decide
      rw [puts, List.filter_replicate, if_pos hmethod]
    rw [puts, List.filter_append, ← puts, ← puts, puts_lookup, hput, List.nil_append]
  unfold sendData
  rw [Json.dump_of_utf8 hutf]
  dsimp only
  rw [hm]
  cases (request exchange parse retry (putData path id value lockId) w).1 with
  | error e => exact ⟨fun ex hex => ⟨e, (Except.error.inj hex).symm⟩, hputs⟩
  | ok j => exact ⟨fun ex hex => (by cases hex), hputs⟩

/-- A text that is not UTF-8 is not sent, and the exception is another. -/
theorem sendData_of_not_utf8 {value : Json} (hvalue : value.utf8 = false) (s : ω × List Call) :
    sendData (recording exchange) parse retry path id value lockId s =
      (.error .jsonTypeError, s) := by
  have hutf : (Json.obj [(str "value", value)]).utf8 = false := by simp [hvalue]
  unfold sendData
  rw [Json.dump_of_not_utf8 hutf]

end

/-- **What a typed write is to do**, given the answer of `/docs`: what it throws, and the
requests that are sent. -/
structure WritesAsTyped (path id rawValue lockId : Bytes) (docs : Except SovdError Json)
    (out : Except ClientExn Unit) (sent : List Call) : Prop where
  throws : ∀ ex, out = .error ex → ∃ e, ex = .sovd e
  number : lookupFloat path id docs = some true → ∀ n : DecimalText, n.text = rawValue →
    ∃ q, Double.nearest n.value = .fin q ∧ Puts (putData path id (.float (.fin q)) lockId) sent
  rejected : lookupFloat path id docs = some true → (∀ n : DecimalText, n.text ≠ rawValue) →
    (∃ e, out = .error (.sovd e) ∧ e.code = str "BAD_REQUEST") ∧ puts sent = []
  text : lookupFloat path id docs ≠ some true → Puts (putData path id (.str rawValue) lockId) sent

/-- What can be written as it was typed. -/
def Writable (underflows : Rat → Bool) (path id rawValue : Bytes) (docs : Except SovdError Json) :
    Prop :=
  match lookupFloat path id docs with
  | none => False
  | some false => Utf8.valid rawValue = true
  | some true =>
    (∃ n : DecimalText, n.text = rawValue ∧ outOfRange underflows n.value = false) ∨
      ¬ StartsWithNumber rawValue

section

variable (exchange : Call → ω → Except Bytes RemoteResponse × ω) (parse : JsonParser)
  (retry : RetryPolicy) {path id rawValue lockId : Bytes} {docs : Except SovdError Json}

/-- What is no float is sent as the text it is. -/
theorem writesAsTyped_text (hlookup : lookupFloat path id docs = some false) (w : ω) (n : Nat) :
    let run := sendData (recording exchange) parse retry path id (.str rawValue) lockId
      (w, List.replicate n (getDocs path))
    WritesAsTyped path id rawValue lockId docs run.1 run.2.2 ↔ Utf8.valid rawValue = true := by
  constructor
  · intro h
    by_contra hraw
    rw [Bool.not_eq_true] at hraw
    have hthrows := h.throws
    rw [sendData_of_not_utf8 exchange parse retry path id lockId (by simpa using hraw)] at hthrows
    obtain ⟨e, he⟩ := hthrows _ rfl
    cases he
  · intro hraw
    have hvalue : (Json.str rawValue).utf8 = true := by simpa using hraw
    obtain ⟨hthrows, hputs⟩ := sendData_of_utf8 exchange parse retry path id lockId hvalue w n
    refine ⟨hthrows, fun h => ?_, fun h => ?_, fun _ => hputs⟩
    · rw [hlookup] at h
      cases h
    · rw [hlookup] at h
      cases h

/-- A number that was found is sent: that is right if it is all that was typed. -/
theorem writesAsTyped_value (hlookup : lookupFloat path id docs = some true) (x : Double)
    (w : ω) (n : Nat) :
    let run := sendData (recording exchange) parse retry path id (.float x) lockId
      (w, List.replicate n (getDocs path))
    WritesAsTyped path id rawValue lockId docs run.1 run.2.2 ↔
      (∃ n : DecimalText, n.text = rawValue) ∧
        ∀ n : DecimalText, n.text = rawValue →
          ∃ q, Double.nearest n.value = .fin q ∧ x = .fin q := by
  obtain ⟨hthrows, hputs⟩ := sendData_of_utf8 exchange parse retry path id lockId
    (Json.utf8_float x) w n
  constructor
  · intro h
    constructor
    · by_contra hno
      exact hputs.ne_nil (h.rejected hlookup (not_exists.mp hno)).2
    · intro m hm
      obtain ⟨q, hq, hput⟩ := h.number hlookup m hm
      refine ⟨q, hq, ?_⟩
      have hbody := Body.json.inj (congrArg Call.body (hputs.unique hput))
      simpa using hbody
  · rintro ⟨⟨m, hm⟩, hall⟩
    refine ⟨hthrows, fun _ m' hm' => ?_, fun _ hno => absurd hm (hno m), fun h => absurd hlookup h⟩
    obtain ⟨q, hq, rfl⟩ := hall m' hm'
    exact ⟨q, hq, hputs⟩

end

/-- **When a typed write sends what was typed.** -/
theorem typed_write_iff (exchange : Call → ω → Except Bytes RemoteResponse × ω)
    (parse : JsonParser) (retry : RetryPolicy) (underflows : Rat → Bool)
    (path id rawValue lockId : Bytes) (w : ω) :
    let docs := (request exchange parse retry (getDocs path) w).1
    let run := putTypedData (recording exchange) parse retry underflows path id rawValue lockId
      (w, [])
    WritesAsTyped path id rawValue lockId docs run.1 run.2.2 ↔
      Writable underflows path id rawValue docs := by
  -- the docs are asked for first, whatever comes of it
  obtain ⟨k, hk⟩ := request_recording exchange parse retry (getDocs path) w []
  rw [List.nil_append] at hk
  unfold putTypedData Writable
  rw [hk]
  generalize (request exchange parse retry (getDocs path) w).1 = docs
  generalize (request exchange parse retry (getDocs path) w).2 = w₁
  dsimp only
  cases hlookup : lookupFloat path id docs with
  | none =>
    -- docs that cannot be read: what is thrown is none of the errors allowed
    refine ⟨fun h => ?_, False.elim⟩
    obtain ⟨e, he⟩ := h.throws _ rfl
    cases he
  | some float =>
    cases float with
    | false => exact writesAsTyped_text exchange parse retry hlookup w₁ (k + 1)
    | true =>
      dsimp only
      cases hstod : stod underflows rawValue with
      | value x =>
        refine (writesAsTyped_value exchange parse retry hlookup x w₁ (k + 1)).trans ?_
        -- `stod` returned, so the text begins as a number does
        have hstarts : StartsWithNumber rawValue := by
          by_contra hno
          rw [stod_eq_invalidArgument.mpr hno] at hstod
          cases hstod
        constructor
        · rintro ⟨⟨m, rfl⟩, -⟩
          rw [m.stod_text, stodFinite_eq_value] at hstod
          exact .inl ⟨m, rfl, hstod.1⟩
        · -- the text of a number is read whole, so it is this one
          rintro (⟨m, hm, -⟩ | hno)
          · refine ⟨⟨m, hm⟩, ?_⟩
            rintro m' rfl
            rw [m'.stod_text, stodFinite_eq_value] at hstod
            exact hstod.2
          · exact absurd hstarts hno
      | outOfRange =>
        constructor
        · -- `stod` throws `out_of_range`, which nothing catches
          intro h
          obtain ⟨e, he⟩ := h.throws _ rfl
          cases he
        · rintro (⟨m, rfl, hrange⟩ | hno)
          · rw [m.stod_text, stodFinite, hrange, if_neg Bool.false_ne_true] at hstod
            cases hstod
          · rw [stod_eq_invalidArgument.mpr hno] at hstod
            cases hstod
      | invalidArgument =>
        have hno := stod_eq_invalidArgument.mp hstod
        refine ⟨fun _ => .inr hno, fun _ => ⟨?_, ?_, ?_, fun h => absurd hlookup h⟩⟩
        · intro ex hex
          exact ⟨_, (Except.error.inj hex).symm⟩
        · rintro - m rfl
          exact absurd m.startsWithNumber_text hno
        · intro _ _
          exact ⟨⟨_, rfl, rfl⟩, puts_lookup path (k + 1)⟩

end

/-! ## A decimal comma -/

namespace DecimalComma

/-- The docs of an item of type float. -/
def docsText : Bytes :=
  str "\x7b\"data\":[\x7b\"id\":\"limit\",\"type\":\"float\"\x7d]\x7d"

/-- The docs as they are parsed. -/
def docs : Json :=
  .obj [(str "data", .arr
    [.obj [(str "id", .str (str "limit")), (str "type", .str (str "float"))]])]

/-- A server that has such docs and accepts every write. -/
def exchange (call : Call) (w : Unit) : Except Bytes RemoteResponse × Unit :=
  (.ok { status := 200, body := if call.method = str "GET" then docsText else [] }, w)

theorem parse_docsText : parseJson docsText = some docs := by
  have htokens : JsonLexer.tokens docsText =
      [.beginObject, .valueString (str "data"), .nameSeparator, .beginArray, .beginObject,
        .valueString (str "id"), .nameSeparator, .valueString (str "limit"), .valueSeparator,
        .valueString (str "type"), .nameSeparator, .valueString (str "float"), .endObject,
        .endArray, .endObject, .endOfInput] := by decide +kernel
  rw [parseJson, htokens]
  rfl

theorem request_docs :
    request exchange parseJson {} (getDocs (str "engine")) () = (.ok docs, ()) := by
  have hfinish : finish parseJson { status := 200, body := docsText } = .ok docs := by
    unfold finish
    dsimp only
    rw [parse_docsText]
    rfl
  have hexchange : exchange (getDocs (str "engine")) () =
      (.ok { status := 200, body := docsText }, ()) := by
    have hmethod : (getDocs (str "engine")).method = str "GET" := rfl
    unfold exchange
    rw [if_pos hmethod]
  unfold request attempts
  rw [hexchange]
  dsimp only
  rw [if_neg (by decide), hfinish]

/-- `std::stod` stops at the comma. -/
theorem stod_comma : stod (fun _ => false) (str "12,5") = .value (.fin 12) := by
  have hread : readDecimal (str "12,5") = 12 := by
    have hint : (str "12,5").takeWhile isDigit = [49, 50] := by decide
    have hrest : readFraction ((str "12,5").dropWhile isDigit) = ([], [44, 53]) := by decide
    have hvalue : digitsValue ([49, 50] ++ []) = 12 := by decide
    have hexponent : readExponent [44, 53] = 0 := by decide
    unfold readDecimal
    rw [hint, hrest]
    dsimp only
    rw [hvalue, hexponent]
    norm_num
  have hstod : stod (fun _ => false) (str "12,5") =
      stodFinite (fun _ => false) (readDecimal (str "12,5")) := rfl
  have htwelve : Double.nearest 12 = .fin 12 :=
    Double.nearest_of_isBinary64 ⟨12, 0, by norm_num, by norm_num, by norm_num, by norm_num⟩
  rw [hstod, hread, stodFinite_eq_value]
  refine ⟨?_, 12, htwelve, rfl⟩
  rw [outOfRange, htwelve]
  simp

end DecimalComma

open DecimalComma in
/-- What follows the comma is lost: 12 is written. -/
theorem decimal_comma_cut :
    let run := putTypedData (recording exchange) parseJson {} (fun _ => false) (str "engine")
      (str "limit") (str "12,5") (str "lock") ((), [])
    Puts (putData (str "engine") (str "limit") (.float (.fin 12)) (str "lock")) run.2.2 ∧
      ¬ WritesAsTyped (str "engine") (str "limit") (str "12,5") (str "lock")
        (request exchange parseJson {} (getDocs (str "engine")) ()).1 run.1 run.2.2 := by
  have hlookup : lookupFloat (str "engine") (str "limit") (.ok docs) = some true := rfl
  obtain ⟨k, hk⟩ := request_recording exchange parseJson {} (getDocs (str "engine")) () []
  rw [request_docs, List.nil_append] at hk
  unfold putTypedData
  rw [hk, request_docs]
  dsimp only
  rw [hlookup, stod_comma]
  dsimp only
  refine ⟨(sendData_of_utf8 exchange parseJson {} (str "engine") (str "limit") (str "lock")
    (Json.utf8_float _) () (k + 1)).2, fun h => ?_⟩
  obtain ⟨⟨n, hn⟩, -⟩ := (writesAsTyped_value exchange parseJson {} hlookup (.fin 12) ()
    (k + 1)).mp h
  -- no decimal number has a comma in it
  exact absurd (n.isNumberByte_text 44 (by rw [hn]; decide)) (by decide)

end SovdClient

end Sovd
