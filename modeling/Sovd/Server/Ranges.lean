import Sovd.Server.Pipeline

/-!
# What is sent of an answer (`process_request` around the routing)

The library reads the `Range` header before it routes a request and applies it to what
was answered. A header it cannot read ends the request with a 416 before any handler has
seen it; of a success only the named parts are sent, with a 206 where the handler set no
status, or a 416 and nothing where the body has no such parts.

The handlers know nothing of this. A request without a `Range` header gets what its
handler left (`process_of_no_range`), and what the ranges are made into before the body is
cut lies inside the body (`resolveRanges_within`), which `get_range_offset_and_length`
asserts.

Mirroring notes vs the C++:
- A position that is left out is -1, as in the source.
- The boundary of a `multipart/byteranges` body is random, and part of what the request
  meets.
- Bodies are not compressed, and a stream has no body to be measured or cut.
-/

namespace Sovd

open Httplib Separated

variable {σ : Type}

/-- First and last position. -/
abbrev Range := Int × Int

/-- `Ranges` -/
abbrev Ranges := List Range

/-! ## The header -/

/-- A side of a range: digits that `stoll` can hold, or nothing. -/
def rangePosition (s : Bytes) : Option Int :=
  if !s.all isDigit then none
  else if s = [] then some (-1)
  else if digitsValue s < 2 ^ 63 then some (digitsValue s)
  else none

/-- One range: at least one end is there, and they are in order. -/
def parseRange (s : Bytes) : Option Range :=
  if 45 ∉ s then none
  else do
    let first ← rangePosition (divide 45 s).1
    let last ← rangePosition (divide 45 s).2
    if (first = -1 ∧ last = -1) ∨ (first ≠ -1 ∧ last ≠ -1 ∧ first > last) then none
    else some (first, last)

/-- `parse_range_header` -/
def parseRangeHeader (s : Bytes) : Option Ranges :=
  if 7 < s.length ∧ str "bytes=" <+: s then
    match (split isSpaceOrTab 44 (s.drop 6)).mapM parseRange with
    | some (r :: ranges) => some (r :: ranges)
    | _ => none
  else none

/-- The ranges of a request; `none`: it is answered with a 416 unseen. -/
def requestRanges (req : Request) : Option Ranges :=
  if hasHeader req.headers (str "Range") then
    parseRangeHeader (headerValue req.headers (str "Range"))
  else some []

/-! ## Ranges and the body -/

/-- `CPPHTTPLIB_RANGE_MAX_COUNT` -/
def rangeMaxCount : Nat := 1024

/-- What is left out is counted from the ends. -/
def resolveRange (length : Int) (r : Range) : Range :=
  let r := if r.1 = -1 ∧ r.2 = -1 then (0, length) else r
  let r := if r.1 = -1 then (length - r.2, length - 1) else r
  (r.1, if r.2 = -1 then length - 1 else r.2)

/-- The loop of `range_error`, and the positions it writes back; `none`: an error. -/
def resolveRanges (length prevFirst prevLast : Int) (overwrapping : Nat) : Ranges → Option Ranges
  | [] => some []
  | r :: ranges =>
    let r := resolveRange length r
    if ¬ (0 ≤ r.1 ∧ r.1 ≤ r.2 ∧ r.2 ≤ length - 1) then none
    -- in ascending order
    else if r.1 ≤ prevFirst then none
    else if r.1 ≤ prevLast ∧ 2 < overwrapping + 1 then none
    else
      (resolveRanges length (max prevFirst r.1) (max prevLast r.2)
        (if r.1 ≤ prevLast then overwrapping + 1 else overwrapping) ranges).map (r :: ·)

/-- The ranges of a success, as they are cut out of a body of that length. -/
def servedRanges (length : Nat) (ranges : Ranges) : Option Ranges :=
  if rangeMaxCount < ranges.length then none else resolveRanges length (-1) (-1) 0 ranges

/-! ## Cutting the body -/

/-- What is sent of a body. -/
def Body.bytes (dump : Json → Bytes) : Body → Bytes
  | .empty => []
  | .json document => dump document
  | .raw content => content

/-- The part of the body from the first to the last position. -/
def bodyPart (body : Bytes) (r : Range) : Bytes :=
  (body.drop r.1.toNat).take ((r.2 - r.1).toNat + 1)

/-- `make_content_range_header_field` -/
def contentRange (length : Nat) (r : Range) : Bytes :=
  str "bytes " ++ decimal r.1.toNat ++ str "-" ++ decimal r.2.toNat ++ str "/" ++ decimal length

/-- `process_multipart_ranges_data` -/
def multipartRanges (boundary contentType body : Bytes) (ranges : Ranges) : Bytes :=
  (ranges.flatMap fun r =>
    str "--" ++ boundary ++ crlf ++
      (if contentType = [] then [] else str "Content-Type: " ++ contentType ++ crlf) ++
      str "Content-Range: " ++ contentRange body.length r ++ crlf ++ crlf ++
      bodyPart body r ++ crlf) ++ str "--" ++ boundary ++ str "--"

/-- `apply_ranges`, on an answer with a 206. -/
def applyRanges (boundary : Bytes) (headers : Headers) (body : Bytes) :
    Ranges → Headers × Bytes
  | [] => (headers, body)
  | [r] => (headers ++ [(str "Content-Range", contentRange body.length r)], bodyPart body r)
  | ranges =>
    let isType (h : Bytes × Bytes) : Bool := caseIgnoreEqual h.1 (str "Content-Type")
    (headers.eraseP isType ++
        [(str "Content-Type", str "multipart/byteranges; boundary=" ++ boundary)],
      multipartRanges boundary ((headers.find? isType).elim [] Prod.snd) body ranges)

/-- The status of an answer before its ranges are looked at. -/
def routedStatus (ranges : Ranges) (res : Response) : Int :=
  if res.status = -1 then (if ranges = [] then 200 else 206) else res.status

/-- What is sent of an answer to a request with these ranges. -/
def sendAnswer (dump : Json → Bytes) (boundary : Bytes) (ranges : Ranges) :
    Answer → RemoteResponse
  | .error _ => { status := 500 }
  | .ok res =>
    let body := res.body.bytes dump
    let status := routedStatus ranges res
    if ranges = [] ∨ !isSuccess status then { status, headers := res.headers, body }
    else
      match servedRanges body.length ranges with
      | none => { status := 416, headers := res.headers }
      | some served =>
        -- a handler's own 200 is not cut
        let (headers, body) :=
          if status = 206 then applyRanges boundary res.headers body served
          else (res.headers, body)
        { status, headers, body }

/-- `Server::process_request`, of a request that was read. -/
def process (S : HttpServer σ) (dump : Json → Bytes) (env : ServerEnv) (req : Request)
    (s : ServerState σ) : ServerState σ × RemoteResponse :=
  match requestRanges req with
  | none => (s, { status := 416 })
  | some ranges =>
    let (s, answer) := routing S env req s
    let sent := sendAnswer dump env.boundary ranges answer
    (s, if req.method = str "HEAD" then { sent with body := [] } else sent)

/-! ## Without a `Range` header -/

/-- A header that is read names at least one range. -/
theorem requestRanges_eq_nil {req : Request} :
    requestRanges req = some [] ↔ hasHeader req.headers (str "Range") = false := by
  unfold requestRanges
  cases hasHeader req.headers (str "Range") with
  | false => simp
  | true =>
    refine ⟨fun h => ?_, fun h => by cases h⟩
    rw [if_pos rfl] at h
    unfold parseRangeHeader at h
    split_ifs at h
    split at h
    next => cases h
    next => cases h

/-- Without ranges an answer is sent as it was left. -/
theorem sendAnswer_nil (dump : Json → Bytes) (boundary : Bytes) (answer : Answer) :
    (sendAnswer dump boundary [] answer).status = answerStatus answer ∧
      ∀ res, answer = .ok res → (sendAnswer dump boundary [] answer).headers = res.headers ∧
        (sendAnswer dump boundary [] answer).body = res.body.bytes dump := by
  cases answer with
  | error failure => exact ⟨rfl, fun res h => by cases h⟩
  | ok res =>
    refine ⟨rfl, fun res' h => ?_⟩
    obtain rfl := Except.ok.inj h
    exact ⟨rfl, rfl⟩

/-- **A request without a `Range` header** gets what its handler left. -/
theorem process_of_no_range (S : HttpServer σ) (dump : Json → Bytes) (env : ServerEnv)
    (s : ServerState σ) {req : Request} (hrange : requestRanges req = some []) :
    (process S dump env req s).1 = (routing S env req s).1 ∧
      (req.method ≠ str "HEAD" → (process S dump env req s).2 =
        sendAnswer dump env.boundary [] (routing S env req s).2) := by
  unfold process
  rw [hrange]
  exact ⟨rfl, fun hhead => if_neg hhead⟩

/-- A document that was answered without a status is sent whole, with a 200. -/
theorem process_document {S : HttpServer σ} {env : ServerEnv} {req : Request}
    {s : ServerState σ} {res : Response} {body : Json} (hget : req.method = str "GET")
    (hrange : requestRanges req = some []) (hres : (routing S env req s).2 = .ok res)
    (hstatus : answerStatus (.ok res) = 200) (hbody : res.body = .json body)
    (dump : Json → Bytes) : (process S dump env req s).2.status = 200 ∧
      (process S dump env req s).2.body = dump body := by
  have hhead : req.method ≠ str "HEAD" := by
    rw [hget]
    decide
  rw [(process_of_no_range S dump env s hrange).2 hhead, hres]
  obtain ⟨hsent, hleft⟩ := sendAnswer_nil dump env.boundary (.ok res)
  refine ⟨hsent.trans hstatus, ?_⟩
  rw [(hleft res rfl).2, hbody]
  rfl

/-! ## With one -/

/-- **The parts lie inside the body**, each behind the one before. -/
theorem resolveRanges_within {length : Int} {ranges : Ranges} :
    ∀ {prevFirst prevLast : Int} {overwrapping : Nat} {served : Ranges},
      resolveRanges length prevFirst prevLast overwrapping ranges = some served →
        (∀ r ∈ served, prevFirst < r.1 ∧ 0 ≤ r.1 ∧ r.1 ≤ r.2 ∧ r.2 < length) ∧
          served.Pairwise fun r r' => r.1 < r'.1 := by
  induction ranges with
  | nil =>
    intro prevFirst prevLast overwrapping served h
    obtain rfl := Option.some.inj h
    exact ⟨fun r hr => absurd hr List.not_mem_nil, .nil⟩
  | cons r ranges ih =>
    intro prevFirst prevLast overwrapping served h
    rw [resolveRanges] at h
    split_ifs at h with hwithin hascending hoverlap
    all_goals
      obtain ⟨rest, hrest, rfl⟩ := Option.map_eq_some_iff.mp h
      obtain ⟨hall, hpairwise⟩ := ih hrest
      refine ⟨fun r' hr' => ?_, List.pairwise_cons.mpr ⟨fun r' hr' => ?_, hpairwise⟩⟩
      · rcases List.mem_cons.mp hr' with rfl | hr'
        · omega
        · have hlater := hall r' hr'
          omega
      · have hlater := hall r' hr'
        omega

/-- A part that is sent is as long as its range says. -/
theorem length_bodyPart {body : Bytes} {ranges served : Ranges} {r : Range}
    (h : servedRanges body.length ranges = some served) (hr : r ∈ served) :
    ((bodyPart body r).length : Int) = r.2 - r.1 + 1 := by
  unfold servedRanges at h
  split_ifs at h
  obtain ⟨-, hfirst, hordered, hlast⟩ := (resolveRanges_within h).1 r hr
  rw [bodyPart, List.length_take, List.length_drop]
  omega

/-- The status that is sent is the handler's, a 206 for the 200 of a handler that set none,
or a 416. -/
theorem sendAnswer_status (dump : Json → Bytes) (boundary : Bytes) (ranges : Ranges)
    (answer : Answer) : (sendAnswer dump boundary ranges answer).status = answerStatus answer ∨
      ranges ≠ [] ∧ ((sendAnswer dump boundary ranges answer).status = 206 ∨
        (sendAnswer dump boundary ranges answer).status = 416) := by
  cases answer with
  | error failure => exact .inl rfl
  | ok res =>
    have hrouted : routedStatus ranges res = answerStatus (.ok res) ∨
        ranges ≠ [] ∧ routedStatus ranges res = 206 := by
      unfold routedStatus answerStatus
      dsimp only
      split_ifs with hunset hnone
      · exact .inl rfl
      · exact .inr ⟨hnone, rfl⟩
      · exact .inl rfl
    have hkept : routedStatus ranges res = answerStatus (.ok res) ∨
        ranges ≠ [] ∧ (routedStatus ranges res = 206 ∨ routedStatus ranges res = 416) :=
      hrouted.imp_right fun h => ⟨h.1, .inl h.2⟩
    unfold sendAnswer
    dsimp only
    by_cases hwhole : ranges = [] ∨ (!isSuccess (routedStatus ranges res)) = true
    · rw [if_pos hwhole]
      exact hkept
    · rw [if_neg hwhole]
      split
      next => exact .inr ⟨fun hnone => hwhole (.inl hnone), .inr rfl⟩
      next => exact hkept

/-- A request for the first two bytes of four, and for two bytes behind them. -/
example : (parseRangeHeader (str "bytes=0-1, -2")).bind (servedRanges 4) = some [(0, 1), (2, 3)] :=
  by decide

end Sovd
