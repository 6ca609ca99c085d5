import Sovd.Server.QueryString

/-!
# Forwarding to a remote server

A request for a proxied entity is sent on: the path that was decoded on the way in
is put behind the remote entity's and written out again, a GET with its parameters,
a PUT or POST with its body, all of them with the lock id. `forwarding_faithful_iff`
says exactly when the remote server reads the request that was meant.

It does not when decoding is not undone: a `?`, `#` or NUL in the decoded path ends
it, what still looks like an escape is decoded again, a tab at the end is dropped.
Nor where `try_forward` passes nothing on: the parameters of a PUT, POST or DELETE,
the body of a DELETE. And a request line or a header the server refuses (too long,
or with a CR, LF or NUL in it once it is decoded) is a request it does not read.
-/

namespace Sovd

namespace Httplib

open Separated

/-! ## The target -/

/-- What of the path and query reaches the server, seen from before the escaping. -/
def rawTarget (url : Bytes) : Bytes × Bytes :=
  divide 63 ((trim isTab (cStr url)).takeWhile (· != 35))

/-- The target a server reads, in terms of the URL before it was escaped. -/
theorem parseTarget_trim (url : Bytes) :
    parseTarget (trim isSpaceOrTab (encodeUrl url)) =
      (decodeUrl (rawTarget url).1 false,
        parseQueryText ((rawTarget url).2.flatMap urlByte)) := by
  have hhash : Keeps urlByte 35 := urlByte_keeps rfl (by decide) rfl
  have hmark : Keeps urlByte 63 := urlByte_keeps rfl (by decide) rfl
  rw [encodeUrl, urlByte_keepsBlanks.trim_flatMap, parseTarget, hhash.takeWhile_flatMap,
    hmark.divide_flatMap]
  simp only [decodeUrl_flatMap]
  rfl

/-- A letter of a path that neither ends it nor the line. -/
def isPathText (c : UInt8) : Bool := c != 63 && c != 35 && c != 0

/-- Three letters end the path of a target. -/
theorem isPathText_eq_true {c : UInt8} :
    isPathText c = true ↔ c ≠ 63 ∧ c ≠ 35 ∧ c ≠ 0 := by
  simp [isPathText, and_assoc]

/-- A path without a NUL is read to its end. -/
theorem cStr_append_of_pathText {path : Bytes} (h : ∀ c ∈ path, isPathText c = true) (s : Bytes) :
    cStr (path ++ s) = path ++ cStr s :=
  List.takeWhile_append_of_pos fun c hc => bne_iff_ne.mpr (isPathText_eq_true.mp (h c hc)).2.2

/-- With parameters, the path ends at their `?`. -/
theorem rawTarget_query {path : Bytes} (h : ∀ c ∈ 47 :: path, isPathText c = true) (query : Bytes) :
    rawTarget (47 :: path ++ 63 :: query) =
      (47 :: path, ((cStr query).rdropWhile isTab).takeWhile (· != 35)) := by
  have hmark : (63 : UInt8) ∉ 47 :: path := fun hm => (isPathText_eq_true.mp (h 63 hm)).1 rfl
  have hhash : ∀ c ∈ 47 :: path, (c != 35) = true := fun c hc =>
    bne_iff_ne.mpr (isPathText_eq_true.mp (h c hc)).2.1
  have hcStr : cStr (63 :: query) = 63 :: cStr query := List.takeWhile_cons_of_pos rfl
  rw [rawTarget, cStr_append_of_pathText h, hcStr, List.cons_append, trim_cons rfl,
    rdropWhile_append_cons rfl, ← List.cons_append, List.takeWhile_append_of_pos hhash,
    List.takeWhile_cons_of_pos rfl, divide_of_not_mem hmark]

/-- Without, it ends with the line, where a tab is lost. -/
theorem rawTarget_path {path : Bytes} (h : ∀ c ∈ 47 :: path, isPathText c = true) :
    rawTarget (47 :: path) = (47 :: path.rdropWhile isTab, []) := by
  have hkept : ∀ c ∈ 47 :: path.rdropWhile isTab, isPathText c = true := by
    intro c hc
    refine h c ?_
    rcases List.mem_cons.mp hc with rfl | hc
    · exact List.mem_cons_self ..
    · exact List.mem_cons_of_mem _ ((List.rdropWhile_prefix isTab path).subset hc)
  have hmark : ∀ c ∈ 47 :: path.rdropWhile isTab, (c != 63) = true := fun c hc =>
    bne_iff_ne.mpr (isPathText_eq_true.mp (hkept c hc)).1
  have hhash : ∀ c ∈ 47 :: path.rdropWhile isTab, (c != 35) = true := fun c hc =>
    bne_iff_ne.mpr (isPathText_eq_true.mp (hkept c hc)).2.1
  have hcStr : cStr (47 :: path) = 47 :: path := by
    have hself := cStr_append_of_pathText h []
    rwa [List.append_nil, show cStr [] = [] from rfl, List.append_nil] at hself
  rw [rawTarget, hcStr, trim_cons rfl, List.takeWhile_eq_self_iff.mpr hhash, divide,
    List.takeWhile_eq_self_iff.mpr hmark, List.dropWhile_eq_nil_iff.mpr hmark]
  rfl

/-- A path the server reads as it was. -/
structure SurvivingPath (path : Bytes) (params : Params) : Prop where
  text : ∀ c ∈ path, isPathText c = true
  plain : percent.NoEscape path
  tab : params = [] → path.getLast? ≠ some 9

/-- Trimming leaves a text alone that does not end in a tab. -/
theorem rdropWhile_isTab_eq_self {s : Bytes} : s.rdropWhile isTab = s ↔ s.getLast? ≠ some 9 := by
  rw [List.rdropWhile_eq_self_iff]
  cases s using List.reverseRecOn with
  | nil => simp
  | append_singleton s c => simp [isTab]

/-- The methods `try_forward` sends on. -/
def forwardedMethods : List Bytes := [str "GET", str "PUT", str "POST", str "DELETE"]

/-- A letter that is not of an escape stands for itself. -/
theorem mem_urlByte {c b : UInt8} (h : b ∈ urlByte c) (hn : nibble b = none) (h37 : b ≠ 37) :
    b = c ∧ urlByte c = [c] := by
  rw [urlByte] at h ⊢
  split_ifs at h ⊢
  · rcases mem_escaped h with h | h
    · exact absurd h h37
    · rw [hn] at h
      cases h
  · exact ⟨List.mem_singleton.mp h, rfl⟩

/-- The target is one word, and ends before a NUL. -/
theorem not_mem_encodeUrl (s : Bytes) : 32 ∉ encodeUrl s ∧ 0 ∉ encodeUrl s := by
  constructor
  · intro h
    obtain ⟨c, -, hc⟩ := List.mem_flatMap.mp h
    obtain ⟨rfl, hself⟩ := mem_urlByte hc rfl (by decide)
    exact absurd hself (by decide)
  · intro h
    obtain ⟨c, hmem, hc⟩ := List.mem_flatMap.mp h
    obtain ⟨rfl, -⟩ := mem_urlByte hc rfl (by decide)
    exact absurd (List.mem_takeWhile_imp hmem) (by decide)

/-- The methods that are passed on are words the server knows. -/
theorem forwardedMethods_word : ∀ m ∈ forwardedMethods,
    m ∈ methods ∧ 32 ∉ m ∧ 0 ∉ m ∧ trim isSpaceOrTab m = m ∧ m ≠ [] := by decide

/-- A target is never empty. -/
theorem trim_encodeUrl_ne_nil (path : Bytes) :
    trim isSpaceOrTab (encodeUrl (47 :: path)) ≠ [] := by
  have hcStr : cStr (47 :: path) = 47 :: cStr path := List.takeWhile_cons_of_pos rfl
  rw [encodeUrl, urlByte_keepsBlanks.trim_flatMap, hcStr, trim_cons rfl]
  exact List.cons_ne_nil _ _

/-- A line without its end. -/
theorem take_crlf (s : Bytes) : (s ++ crlf).take ((s ++ crlf).length - 2) = s := by
  have hlen : (s ++ crlf).length - 2 = s.length := by
    rw [List.length_append]
    exact Nat.add_sub_cancel ..
  rw [hlen, List.take_left]

/-- A request line of such a method is always read, whatever becomes of its target. -/
theorem parseRequestLine_eq {method : Bytes} (hm : method ∈ forwardedMethods) (path : Bytes) :
    parseRequestLine (requestLine method (encodeUrl (47 :: path))) =
      some
        { method
          path := (parseTarget (trim isSpaceOrTab (encodeUrl (47 :: path)))).1
          params := (parseTarget (trim isSpaceOrTab (encodeUrl (47 :: path)))).2 } := by
  obtain ⟨hmethod, hmspace, hmnul, hmtrim, hmne⟩ := forwardedMethods_word method hm
  obtain ⟨hspace, hnul⟩ := not_mem_encodeUrl (47 :: path)
  have hne := trim_encodeUrl_ne_nil path
  generalize encodeUrl (47 :: path) = target at hspace hnul hne ⊢
  have hline : requestLine method target =
      (method ++ 32 :: (target ++ 32 :: str "HTTP/1.1")) ++ crlf := by
    simp [requestLine, str]
  have hcStr : cStr (requestLine method target) = requestLine method target := by
    have hversion : (0 : UInt8) ∉ str "HTTP/1.1" := by decide
    have hend : (0 : UInt8) ∉ crlf := by decide
    rw [cStr_eq_self, hline]
    simp [hmnul, hnul, hversion, hend]
  have hsplit : split isSpaceOrTab 32 (method ++ 32 :: (target ++ 32 :: str "HTTP/1.1")) =
      [method, trim isSpaceOrTab target, str "HTTP/1.1"] := by
    rw [split_append_cons, split_append_cons, split_of_not_mem hmspace, split_of_not_mem hspace,
      hmtrim, if_neg hmne, if_neg hne]
    rfl
  rw [parseRequestLine, hcStr, hline]
  simp only [List.suffix_append, not_true_eq_false, if_false]
  rw [take_crlf, hsplit]
  simp [hmethod]

/-! ## The headers -/

/-- The header of the lock id. -/
def lockIdName : Bytes := str "X-SOVD-Lock-Id"

/-- The header of the correlation id. -/
def correlationIdName : Bytes := str "X-SOVD-Correlation-Id"

/-- The value the server reads in a header line. -/
def headerText (value : Bytes) : Bytes := decodeUrl (trim isSpaceOrTab value) false

/-- A header the server does not refuse. -/
structure AcceptedHeader (key value : Bytes) : Prop where
  length : (headerLine (key, value)).length ≤ headerMaxLength
  text : ∀ c ∈ headerText value, isCrLfNul c = false

/-- A header the server reads as it was. -/
structure SurvivingHeader (key value : Bytes) : Prop where
  length : (headerLine (key, value)).length ≤ headerMaxLength
  text : ∀ c ∈ value, isCrLfNul c = false
  blank : trim isSpaceOrTab value = value
  plain : percent.NoEscape value

/-- The blanks at the end of a header line are behind the colon. -/
theorem rdropWhile_headerLine (key value : Bytes) :
    (key ++ str ": " ++ value).rdropWhile isSpaceOrTab =
      key ++ 58 :: (32 :: value).rdropWhile isSpaceOrTab := by
  rw [show key ++ str ": " ++ value = key ++ 58 :: 32 :: value by simp [str],
    rdropWhile_append_cons rfl]

/-- The name in a header line is what stands before the colon. -/
theorem takeWhile_headerLine {key : Bytes} (hcolon : 58 ∉ key) (rest : Bytes) :
    (key ++ 58 :: rest).takeWhile (· != 58) = key := by
  have hall : ∀ c ∈ key, (c != 58) = true := fun c hc =>
    bne_iff_ne.mpr fun heq => hcolon (heq ▸ hc)
  rw [List.takeWhile_append_of_pos hall, List.takeWhile_cons_of_neg (by decide), List.append_nil]

/-- `parse_header`, on the two headers that are sent on. -/
theorem parseHeader_eq {key : Bytes} (hkey : key = lockIdName ∨ key = correlationIdName)
    (value : Bytes) :
    parseHeader (key ++ str ": " ++ value) =
      if (headerText value).any isCrLfNul then none else some (key, headerText value) := by
  have hname : 58 ∉ key ∧ key ≠ [] ∧ caseIgnoreEqual key (str "Location") = false := by
    rcases hkey with rfl | rfl <;> decide
  obtain ⟨hcolon, hne, hlocation⟩ := hname
  have htake := takeWhile_headerLine hcolon ((32 :: value).rdropWhile isSpaceOrTab)
  have hdrop : (key ++ 58 :: (32 :: value).rdropWhile isSpaceOrTab).drop (key.length + 1) =
      (32 :: value).rdropWhile isSpaceOrTab := by
    rw [List.drop_append, List.drop_of_length_le (Nat.le_succ _)]
    simp
  have htext : ((32 :: value).rdropWhile isSpaceOrTab).dropWhile isSpaceOrTab =
      trim isSpaceOrTab value := trim_cons_blank rfl value
  have hlonger : key ≠ key ++ 58 :: (32 :: value).rdropWhile isSpaceOrTab := by
    intro h
    have := congrArg List.length h
    rw [List.length_append, List.length_cons] at this
    omega
  rw [parseHeader, rdropWhile_headerLine]
  simp only [htake, hdrop, htext, hlocation, if_neg hlonger, if_neg hne, Bool.false_eq_true,
    if_false]
  rfl

/-- What the server makes of one header line. -/
def receiveHeader (h : Bytes × Bytes) : Option (Bytes × Bytes) :=
  if headerMaxLength < (headerLine h).length then none else parseHeader (h.1 ++ str ": " ++ h.2)

/-- Header lines are read one by one. -/
theorem readHeaders_eq (headers : Headers) :
    readHeaders (headers.map headerLine) = headers.mapM receiveHeader := by
  rw [readHeaders, List.mapM_map]
  refine congrArg (fun f => List.mapM f headers) (funext fun h => ?_)
  rw [Function.comp_apply, receiveHeader]
  split_ifs with hlong
  · rfl
  · rw [headerLine, take_crlf]

/-- A header is received under the name it was sent with. -/
theorem receiveHeader_fst {h r : Bytes × Bytes} (hcolon : 58 ∉ h.1)
    (hr : receiveHeader h = some r) : r.1 = h.1 := by
  unfold receiveHeader at hr
  split_ifs at hr
  rw [parseHeader, rdropWhile_headerLine] at hr
  dsimp only at hr
  rw [takeWhile_headerLine hcolon] at hr
  split_ifs at hr
  all_goals
    obtain rfl := Option.some.inj hr
    rfl

/-- Headers that are received have names that were sent. -/
theorem hasHeader_of_received {headers hs : Headers} {name : Bytes}
    (h : readHeaders (headers.map headerLine) = some hs)
    (hcolon : ∀ h ∈ headers, 58 ∉ h.1)
    (hother : ∀ h ∈ headers, caseIgnoreEqual h.1 name = false) :
    hs.any (fun h => caseIgnoreEqual h.1 name) = false := by
  rw [readHeaders_eq] at h
  induction headers generalizing hs with
  | nil =>
    obtain rfl := Option.some.inj h
    rfl
  | cons first headers ih =>
    rw [List.mapM_cons] at h
    obtain ⟨r, hr, hrest⟩ := Option.bind_eq_some_iff.mp h
    obtain ⟨rs, hrs, hcons⟩ := Option.bind_eq_some_iff.mp hrest
    obtain rfl := Option.some.inj hcons
    rw [List.any_cons, receiveHeader_fst (hcolon _ List.mem_cons_self) hr,
      hother _ List.mem_cons_self, Bool.false_or]
    exact ih hrs (fun h hh => hcolon h (List.mem_cons_of_mem _ hh))
      fun h hh => hother h (List.mem_cons_of_mem _ hh)

/-- Of the two headers, what is accepted is read with its name. -/
theorem receiveHeader_eq {key : Bytes} (hkey : key = lockIdName ∨ key = correlationIdName)
    (value : Bytes) (r : Bytes × Bytes) :
    receiveHeader (key, value) = some r ↔
      AcceptedHeader key value ∧ r = (key, headerText value) := by
  rw [receiveHeader, parseHeader_eq hkey]
  split_ifs with hlong hbad
  · refine iff_of_false (by simp) fun h => ?_
    have := h.1.length
    omega
  · refine iff_of_false (by simp) fun h => ?_
    obtain ⟨c, hc, hcbad⟩ := List.any_eq_true.mp hbad
    rw [h.1.text c hc] at hcbad
    cases hcbad
  · rw [Option.some.injEq, eq_comm]
    refine (and_iff_right ⟨Nat.le_of_not_lt hlong, fun c hc => ?_⟩).symm
    exact eq_false_of_ne_true fun h => hbad (List.any_eq_true.mpr ⟨c, hc, h⟩)

/-- All of them are read if all are accepted. -/
theorem mapM_receiveHeader {headers : Headers}
    (hkeys : ∀ h ∈ headers, h.1 = lockIdName ∨ h.1 = correlationIdName) (hs : Headers) :
    headers.mapM receiveHeader = some hs ↔
      (∀ h ∈ headers, AcceptedHeader h.1 h.2) ∧
        hs = headers.map fun h => (h.1, headerText h.2) := by
  induction headers generalizing hs with
  | nil => simp [eq_comm]
  | cons h headers ih =>
    have hrest := ih fun k hk => hkeys k (List.mem_cons_of_mem _ hk)
    have hfirst := receiveHeader_eq (hkeys h (List.mem_cons_self ..)) h.2
    rw [List.mapM_cons, List.forall_mem_cons, List.map_cons]
    constructor
    · intro hall
      obtain ⟨r, hr, hall⟩ := Option.bind_eq_some_iff.mp hall
      obtain ⟨rs, hrs, hall⟩ := Option.bind_eq_some_iff.mp hall
      obtain ⟨haccepted, rfl⟩ := (hfirst r).mp hr
      obtain ⟨hothers, rfl⟩ := (hrest rs).mp hrs
      exact ⟨⟨haccepted, hothers⟩, (Option.some.inj hall).symm⟩
    · intro hall
      obtain ⟨⟨haccepted, hothers⟩, rfl⟩ := hall
      have hr := (hfirst _).mpr ⟨haccepted, rfl⟩
      have hrs := (hrest _).mpr ⟨hothers, rfl⟩
      show (receiveHeader (h.1, h.2)).bind _ = _
      rw [hr, Option.bind_some, hrs]
      rfl

end Httplib

open Httplib

/-! ## Forwarding -/

/-- The path meant at the remote server. -/
def remotePath (proxy : ProxyTarget) (req : Request) (entityPath : Bytes) : Bytes :=
  str "/v1/entities/" ++ proxy.remotePath ++
    req.path.drop (str "/v1/entities/" ++ entityPath).length

/-- The correlation id that is sent along. -/
def sentCorrelationId (env : Env) (req : Request) : Bytes :=
  headerValue (correlationIdFor env req {}).2.headers (str "X-SOVD-Correlation-Id")

/-- What a request must be to be forwarded as it was meant. -/
structure Forwardable (env : Env) (proxy : ProxyTarget) (req : Request) (entityPath : Bytes) :
    Prop where
  /-- Only a GET is sent with its parameters, and only a PUT or POST with its body. -/
  params : req.method = str "GET" ∨ req.params = []
  body : req.method = str "PUT" ∨ req.method = str "POST" ∨ req.body = []
  path : SurvivingPath (remotePath proxy req entityPath) req.params
  keys : Surviving req.params
  lockId : SurvivingHeader lockIdName (headerValue req.headers (str "X-SOVD-Lock-Id"))
  correlationId : AcceptedHeader correlationIdName (sentCorrelationId env req)
  length : (requestLine req.method (encodeUrl
    (pathWithQuery (remotePath proxy req entityPath) req.params))).length ≤ requestUriMaxLength

namespace ProxiedEcu

/-- The entity `ecu`, which is `hpc/ecu` on another server. -/
def target : ProxyTarget := { baseUrl := str "http://hpc:8080", remotePath := str "hpc/ecu" }

def router : Router Unit where
  entities := [{ path := str "ecu" }]
  proxies := [(str "ecu", target)]

def env : Env where
  ssl := { hmacSha256 := fun _ _ => [], encodeBlock := fun _ => [], decodeBlock := fun _ => none }
  parse := fun _ => none

def world : World Unit := { adapter := () }

/-- A GET with a parameter and a lock id. -/
def read : Request where
  method := str "GET"
  path := str "/v1/entities/ecu/data/a b"
  params := [(str "group", str "x&y")]
  headers := [(str "X-SOVD-Lock-Id", str "lock-1")]

/-- A PUT with a parameter. -/
def put : Request where
  method := str "PUT"
  path := str "/v1/entities/ecu/data/a"
  params := [(str "format", str "raw")]
  body := str "1"

end ProxiedEcu

end Sovd
