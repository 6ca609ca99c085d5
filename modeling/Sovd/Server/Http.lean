import Sovd.Server.Json

/-!
# Requests and responses as the handlers see them

The server side of the HTTP library, as far as handlers touch it: a parsed
request, a response under construction, header lookup and the setters.

Mirroring notes vs the C++:
- Headers are the list of a multimap's entries in its iteration order; names are
  compared without case, the first entry that fits is the one found, and a value
  is read through `c_str()`.
- `status = -1` is a response no one has set the status of; the library sends it
  as 200, or as 206 where ranges were asked for (`sendAnswer`).
- A body written with `dump()` is the document; a body handed on from upstream is
  its bytes.
-/

namespace Sovd

/-- The headers, in the order they came. -/
abbrev Headers := List (Bytes × Bytes)

/-- A request, as a handler sees it. -/
structure Request where
  method : Bytes
  path : Bytes
  params : List (Bytes × Bytes) := []
  headers : Headers := []
  body : Bytes := []
  deriving DecidableEq

/-- A body; a document is written when it is sent. -/
inductive Body
  | empty
  | json (document : Json)
  | raw (content : Bytes)

/-- A response; without a status the library chooses one. -/
structure Response where
  status : Int := -1
  headers : Headers := []
  body : Body := .empty

/-- The table of `case_ignore`, which is that of Latin-1. -/
def toLower (c : UInt8) : UInt8 :=
  if (65 ≤ c ∧ c ≤ 90) ∨ (192 ≤ c ∧ c ≤ 222 ∧ c ≠ 215) then c + 32 else c

/-- `case_ignore::equal` -/
def caseIgnoreEqual (a b : Bytes) : Bool := a.map toLower == b.map toLower

/-- `get_header_value`, of the first entry with that name. -/
def headerValue (headers : Headers) (key : Bytes) (default : Bytes := []) : Bytes :=
  match headers.find? fun h => caseIgnoreEqual h.1 key with
  | some h => cStr h.2
  | none => default

/-- `get_param_value`; keys are compared exactly. -/
def Request.paramValue (req : Request) (key : Bytes) : Bytes :=
  match req.params.find? fun p => p.1 == key with
  | some p => p.2
  | none => []

/-- Up to the first NUL, as the loop of `has_crlf` goes. -/
def hasCrlf (s : Bytes) : Bool := (cStr s).any fun c => c == 13 || c == 10

/-- `set_header`, which drops what has a line end in it. -/
def Response.setHeader (res : Response) (key value : Bytes) : Response :=
  if !hasCrlf key && !hasCrlf value then { res with headers := res.headers ++ [(key, value)] }
  else res

/-- `set_content`, which replaces the content type. -/
def Response.setContent (res : Response) (body : Body) (contentType : Bytes) : Response :=
  { res with
    body := body
    headers := res.headers.filter fun h => !caseIgnoreEqual h.1 (str "Content-Type") }
  |>.setHeader (str "Content-Type") contentType

/-- `res.set_content(j.dump(), "application/json")`. -/
def Response.setJson (res : Response) (j : Json) : Except Exn Response :=
  j.dump.map fun d => res.setContent (.json d) (str "application/json")

/-- `write_error` -/
def writeError (res : Response) (status : Int) (code message : Bytes) : Except Exn Response :=
  { res with status := status }.setJson
    (.obj [(str "error", .str code), (str "message", .str message)])

/-- The status the library sends to a request without a `Range` header: 500 for an exception,
200 where none was set. -/
def finalStatus : Except Exn Response → Int
  | .error _ => 500
  | .ok res => if res.status = -1 then 200 else res.status

/-- A 2xx. -/
def isSuccess (status : Int) : Bool := decide (200 ≤ status ∧ status < 300)

@[simp] theorem Response.setHeader_status (res : Response) (key value : Bytes) :
    (res.setHeader key value).status = res.status := by
  unfold setHeader
  split_ifs <;> rfl

@[simp] theorem Response.setContent_status (res : Response) (body : Body) (contentType : Bytes) :
    (res.setContent body contentType).status = res.status := by
  simp [setContent]

/-- A document that is UTF-8 can be set. -/
theorem Response.setJson_of_utf8 (res : Response) {j : Json} (h : j.utf8 = true) :
    ∃ res', res.setJson j = .ok res' ∧ res'.status = res.status := by
  refine ⟨_, ?_, setContent_status res (.json j) (str "application/json")⟩
  rw [setJson, Json.dump_of_utf8 h]
  rfl

/-- A document that cannot be written ends in a 500; any other changes no status. -/
theorem finalStatus_setJson (res : Response) (j : Json) :
    finalStatus (res.setJson j) = 500 ∨ finalStatus (res.setJson j) = finalStatus (.ok res) := by
  unfold Response.setJson
  cases j.dump with
  | error ex => exact .inl rfl
  | ok d =>
    refine .inr ?_
    show finalStatus (.ok (res.setContent (.json d) (str "application/json"))) = _
    rw [finalStatus, Response.setContent_status]
    rfl

/-- What there is of a response once its document is written. -/
theorem Response.setJson_eq_ok {res res' : Response} {j : Json} (h : res.setJson j = .ok res') :
    j.utf8 = true ∧ res'.status = res.status ∧ res'.body = .json j := by
  unfold setJson at h
  cases hd : j.dump with
  | error ex =>
    rw [hd] at h
    cases h
  | ok d =>
    rw [hd] at h
    obtain rfl := Except.ok.inj h
    obtain ⟨hutf, rfl⟩ := Json.dump_eq_ok.mp hd
    exact ⟨hutf, setContent_status .., rfl⟩

/-- An error is sent as it is meant, or as a 500 if it cannot be written. -/
theorem finalStatus_writeError {res : Response} {status : Int} (hstatus : status ≠ -1)
    (code message : Bytes) :
    finalStatus (writeError res status code message) = 500 ∨
      finalStatus (writeError res status code message) = status := by
  refine (finalStatus_setJson _ _).imp_right fun h => h.trans ?_
  rw [finalStatus, if_neg hstatus]

/-- A refusal in words of the source has the status it names. -/
theorem finalStatus_refusal {res : Response} {status : Int} (hstatus : status ≠ -1)
    {code message : Bytes} (hcode : Utf8.valid code = true) (hmessage : Utf8.valid message = true) :
    finalStatus (writeError res status code message) = status := by
  have hkeys : Utf8.valid (str "error") = true ∧ Utf8.valid (str "message") = true := by decide
  have hutf : (Json.obj [(str "error", .str code), (str "message", .str message)]).utf8 = true := by
    simp [hkeys, hcode, hmessage]
  obtain ⟨res', hres', hres'status⟩ :=
    Response.setJson_of_utf8 { res with status := status } hutf
  rw [writeError, hres', finalStatus, hres'status, if_neg hstatus]

end Sovd
