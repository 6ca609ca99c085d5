import Sovd.Server.World

/-!
# The client SDK (`sovd_client.cpp`)

Every method of `SovdClient` hands `request` a method, a URL, a body and a lock id.
`request` sends them, and sends them again while the server answers 503 or 504 and
the retry policy allows it; what it returns or throws is made of the last answer
(`attempts_cases`). A body that cannot be written ends the method before (`perform`).

Mirroring notes vs the C++:
- The HTTP exchange is a parameter: it takes the request and the state of
  everything else (`ω`) and returns the answer, or the library's text for why there
  is none.
- The loop counts the retries that are left. `attempt < max_retries` holds as long
  as there are any; a policy with a negative number has none.
- The pause between two attempts is not in the model: what happens meanwhile is
  in the exchange that follows it.
- `subscribe_data` opens a connection of its own; of it only the URL is here.
-/

namespace Sovd

/-- `RetryPolicy`, without the pauses. -/
structure RetryPolicy where
  maxRetries : Int := 3

/-- What `request` throws. -/
structure SovdError where
  status : Int
  code : Bytes
  message : Bytes

/-- What leaves a method that does not return: what `request` throws, or what `dump` does. -/
inductive ClientFailure
  | sovd (error : SovdError)
  | json (ex : Exn)

namespace SovdClient

/-- The arguments of `request`. -/
structure Call where
  method : Bytes
  urlPath : Bytes
  body : Body := .empty
  lockId : Bytes := []

/-! ## The typed methods -/

/-- `join_ids` -/
def joinIds (ids : List Bytes) : Bytes := (str ",").intercalate ids

/-- `get_docs` -/
def getDocs (path : Bytes) : Call where
  method := str "GET"
  urlPath := str "/v1/entities/" ++ path ++ str "/docs"

/-- `get_faults`; no filter is no parameter. -/
def getFaults (path statusFilter : Bytes) : Call where
  method := str "GET"
  urlPath :=
    let url := str "/v1/entities/" ++ path ++ str "/faults"
    if statusFilter = [] then url else url ++ (str "?status=" ++ statusFilter)

/-- `clear_faults` -/
def clearFaults (path lockId : Bytes) : Call where
  method := str "DELETE"
  urlPath := str "/v1/entities/" ++ path ++ str "/faults"
  lockId

/-- `get_data` -/
def getData (path id : Bytes) : Call where
  method := str "GET"
  urlPath := str "/v1/entities/" ++ path ++ str "/data/" ++ id

/-- `get_data_batch` -/
def getDataBatch (path : Bytes) (ids : List Bytes) : Call where
  method := str "GET"
  urlPath := str "/v1/entities/" ++ path ++ str "/data?ids=" ++ joinIds ids

/-- `put_data` -/
def putData (path id : Bytes) (value : Json) (lockId : Bytes) : Call where
  method := str "PUT"
  urlPath := str "/v1/entities/" ++ path ++ str "/data/" ++ id
  body := .json (.obj [(str "value", value)])
  lockId

/-- `set_mode` -/
def setMode (path mode lockId : Bytes) : Call where
  method := str "POST"
  urlPath := str "/v1/entities/" ++ path ++ str "/modes"
  body := .json (.obj [(str "mode", .str mode)])
  lockId

/-- `execute_operation`; no parameters are an empty object. -/
def executeOperation (path op paramsJson lockId : Bytes) : Call where
  method := str "POST"
  urlPath := str "/v1/entities/" ++ path ++ str "/operations/" ++ op
  body := .raw (if paramsJson = [] then str "\x7b\x7d" else paramsJson)
  lockId

/-- `acquire_lock` -/
def acquireLock (path : Bytes) (ttlSeconds : Int) : Call where
  method := str "POST"
  urlPath := str "/v1/entities/" ++ path ++ str "/locks"
  body := .json (.obj [(str "ttl_seconds", .int ttlSeconds)])

/-- `renew_lock` -/
def renewLock (path lockId : Bytes) (ttlSeconds : Int) : Call where
  method := str "PUT"
  urlPath := str "/v1/entities/" ++ path ++ str "/locks/" ++ lockId
  body := .json (.obj [(str "ttl_seconds", .int ttlSeconds)])

/-- `release_lock` -/
def releaseLock (path lockId : Bytes) : Call where
  method := str "DELETE"
  urlPath := str "/v1/entities/" ++ path ++ str "/locks/" ++ lockId

/-- The URL of `subscribe_data`. -/
def subscribeData (path id : Bytes) (intervalMs : Int) : Call where
  method := str "GET"
  urlPath := str "/v1/entities/" ++ path ++ str "/data/" ++ id ++ str "/stream?interval_ms=" ++
    intText intervalMs

/-! ## The request loop -/

section

variable {ω : Type*}

/-- Only 503 and 504 are tried again. -/
def isRetried (status : Int) : Bool := status == 503 || status == 504

/-- The code and message of an error body, as far as it has them. -/
def errorBody (parse : JsonParser) (res : RemoteResponse) : Bytes × Bytes :=
  let code := str "HTTP_" ++ intText res.status
  match parse res.body with
  | none => (code, res.body)
  | some err =>
    match err.get? (str "error") with
    | none =>
      (code, (((err.get? (str "message")).bind Json.getString?).getD res.body))
    | some e =>
      match e.getString? with
      -- an error that is no string ends the attempt to read the body
      | none => (code, res.body)
      | some code => (code, (((err.get? (str "message")).bind Json.getString?).getD res.body))

/-- What `request` makes of the last answer. -/
def finish (parse : JsonParser) (res : RemoteResponse) : Except SovdError Json :=
  if res.status < 200 ∨ 300 ≤ res.status then
    let (code, message) := errorBody parse res
    .error ⟨res.status, code, message⟩
  else if res.body = [] then .ok (.obj [])
  else
    match parse res.body with
    | some j => .ok j
    | none => .error ⟨res.status, str "BAD_RESPONSE", str "server returned a non-JSON body"⟩

/-- The loop of `request`, with the retries that are left. -/
def attempts (exchange : Call → ω → Except Bytes RemoteResponse × ω) (parse : JsonParser)
    (call : Call) :
    Nat → ω → Except SovdError Json × ω
  | left, w =>
    match exchange call w with
    | (.error e, w') => (.error ⟨0, str "TRANSPORT", str "request failed: " ++ e⟩, w')
    | (.ok res, w') =>
      if isRetried res.status then
        match left with
        | 0 => (finish parse res, w')
        | left + 1 => attempts exchange parse call left w'
      else (finish parse res, w')

/-- `request` -/
def request (exchange : Call → ω → Except Bytes RemoteResponse × ω) (parse : JsonParser)
    (retry : RetryPolicy) (call : Call) (w : ω) : Except SovdError Json × ω :=
  attempts exchange parse call retry.maxRetries.toNat w

/-- `dump()` of a body that is a document. -/
def dumpBody : Body → Except Exn Body
  | .json document => document.dump.map .json
  | .empty => .ok .empty
  | .raw content => .ok (.raw content)

/-- A method: its body is written, and `request` is called with it. -/
def perform (exchange : Call → ω → Except Bytes RemoteResponse × ω) (parse : JsonParser)
    (retry : RetryPolicy) (call : Call) (w : ω) : Except ClientFailure Json × ω :=
  match dumpBody call.body with
  | .error ex => (.error (.json ex), w)
  | .ok _ =>
    let (result, w) := request exchange parse retry call w
    (result.mapError .sovd, w)

/-! ## What a call comes to -/

/-- What `request` makes of its last exchange. -/
def resultOf (parse : JsonParser) : Except Bytes RemoteResponse → Except SovdError Json
  | .error e => .error ⟨0, str "TRANSPORT", str "request failed: " ++ e⟩
  | .ok res => finish parse res

variable {exchange : Call → ω → Except Bytes RemoteResponse × ω} {parse : JsonParser}
  {call : Call} {res : RemoteResponse} {w w' : ω}

/-- Attempts, `n` of them, that were answered with a 503 or 504. -/
inductive Retried (exchange : Call → ω → Except Bytes RemoteResponse × ω) (call : Call) :
    Nat → ω → ω → Prop
  | none (w : ω) : Retried exchange call 0 w w
  | again {n : Nat} {w v w' : ω} {res : RemoteResponse} (hexchange : exchange call w = (.ok res, v))
      (hretried : isRetried res.status = true) (hrest : Retried exchange call n v w') :
      Retried exchange call (n + 1) w w'

/-- The last attempt of a call, from `v`: the ones before it were told to come back later, and
so was it only if no retries were left. -/
structure LastAttempt (exchange : Call → ω → Except Bytes RemoteResponse × ω) (call : Call)
    (left : Nat) (w v w' : ω) (out : Except Bytes RemoteResponse) : Prop where
  exchanged : exchange call v = (out, w')
  earlier : ∃ n ≤ left, Retried exchange call n w v ∧
    ∀ res, out = .ok res → isRetried res.status = true → n = left

/-- The loop ends with its last attempt: by induction on the retries that are left. -/
theorem attempts_cases (exchange : Call → ω → Except Bytes RemoteResponse × ω)
    (parse : JsonParser) (call : Call) (left : Nat) (w : ω) :
    ∃ v out, LastAttempt exchange call left w v (attempts exchange parse call left w).2 out ∧
      (attempts exchange parse call left w).1 = resultOf parse out := by
  induction left generalizing w with
  -- no attempt is left, so whatever comes back is returned
  | zero =>
    cases hexchange : exchange call w with
    | mk out w' =>
      have hlast : LastAttempt exchange call 0 w w w' out :=
        ⟨hexchange, 0, le_rfl, .none w, fun _ _ _ => rfl⟩
      refine ⟨w, out, ?_⟩
      rw [attempts, hexchange]
      cases out with
      | error e => exact ⟨hlast, rfl⟩
      | ok res =>
        dsimp only
        split
        · exact ⟨hlast, rfl⟩
        · exact ⟨hlast, rfl⟩
  | succ left ih =>
    cases hexchange : exchange call w with
    | mk out w' =>
      rw [attempts, hexchange]
      cases out with
      | error e =>
        exact ⟨w, _, ⟨hexchange, 0, Nat.zero_le _, .none w, fun _ h => by cases h⟩, rfl⟩
      | ok res =>
        dsimp only
        split
        -- busy: waited for, and tried again
        next hretried =>
          obtain ⟨v, out, ⟨hlast, n, hn, hbefore, hleft⟩, hresult⟩ := ih w'
          refine ⟨v, out, ⟨hlast, n + 1, Nat.succ_le_succ hn,
            .again hexchange hretried hbefore, fun res' hres' hagain => ?_⟩, hresult⟩
          rw [hleft res' hres' hagain]
        next hfinal =>
          refine ⟨w, _, ⟨hexchange, 0, Nat.zero_le _, .none w, fun res' hres' hagain => ?_⟩, rfl⟩
          obtain rfl := Except.ok.inj hres'
          exact absurd hagain hfinal

/-- An attempt that is to be repeated leaves one less. -/
theorem attempts_retried {left : Nat} (h : exchange call w = (.ok res, w'))
    (hretried : isRetried res.status = true) :
    attempts exchange parse call (left + 1) w = attempts exchange parse call left w' := by
  rw [attempts, h]
  simp only [hretried, if_true]

/-- Without retries the first answer is the last. -/
theorem attempts_last (h : exchange call w = (.ok res, w')) :
    (attempts exchange parse call 0 w).2 = w' := by
  rw [attempts, h]
  dsimp only
  split <;> rfl

end

end SovdClient

end Sovd
