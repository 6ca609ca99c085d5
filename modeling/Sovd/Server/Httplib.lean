import Mathlib.Data.List.Sort
import Sovd.HexText
import Sovd.Lib.EscapeCode
import Sovd.Lib.Separated
import Sovd.Server.World

/-!
# The HTTP library on the wire

`write_request`, with which the proxy's client sends a request, and the part of
`process_request` with which a server reads one: the request line, the query, the
header lines. Both are the same vendored library, and they are not inverse to one
another: the client escapes some letters of the path but neither `%` nor `?` nor
`#`, the server unescapes whatever looks like an escape.

Mirroring notes vs the C++:
- A request on the wire is its request line, its header lines and its body. The
  lines keep their CRLF. Neither side's line buffer nor the `Content-Length`
  header, which is how the body is framed, is modelled, nor are the other headers
  the client adds of its own accord.
- `split` skips blanks to the left of a piece without looking where the piece ends;
  that shows only where the piece is blank, and then it is left out either way.
- A header is one line, whatever its value. What the gateway writes it has read from a line of
  its own, and `parse_header` refuses a value with a CR or LF in it; a lock id that the client
  is given may have a CR LF, and what the server then reads is left open there.
- A multimap is the list of its entries in iteration order.
-/

namespace Sovd

/-- `std::multimap<std::string, std::string>`. -/
abbrev Params := List (Bytes × Bytes)

namespace Httplib

open Separated

/-! ## Escapes -/

/-- `from_hex_to_i`, on the text from its index on. -/
def fromHexToI : Nat → Nat → Bytes → Option Nat
  | 0, val, _ => some val
  | _ + 1, _, [] => none
  | cnt + 1, val, c :: s => (nibble c).bind fun v => fromHexToI cnt (val * 16 + v) s

/-- `to_utf8`, which writes surrogates as nothing. -/
def toUtf8 (code : Nat) : Bytes :=
  if code < 0x80 then [UInt8.ofNat (code &&& 0x7F)]
  else if code < 0x800 then
    [UInt8.ofNat (0xC0 ||| (code >>> 6 &&& 0x1F)), UInt8.ofNat (0x80 ||| (code &&& 0x3F))]
  else if code < 0xD800 then
    [UInt8.ofNat (0xE0 ||| (code >>> 12 &&& 0xF)), UInt8.ofNat (0x80 ||| (code >>> 6 &&& 0x3F)),
      UInt8.ofNat (0x80 ||| (code &&& 0x3F))]
  else if code < 0xE000 then [] -- a surrogate is dropped
  else if code < 0x10000 then
    [UInt8.ofNat (0xE0 ||| (code >>> 12 &&& 0xF)), UInt8.ofNat (0x80 ||| (code >>> 6 &&& 0x3F)),
      UInt8.ofNat (0x80 ||| (code &&& 0x3F))]
  else if code < 0x110000 then
    [UInt8.ofNat (0xF0 ||| (code >>> 18 &&& 0x7)), UInt8.ofNat (0x80 ||| (code >>> 12 &&& 0x3F)),
      UInt8.ofNat (0x80 ||| (code >>> 6 &&& 0x3F)), UInt8.ofNat (0x80 ||| (code &&& 0x3F))]
  else []

/-- The text after a `%`: `uXXXX` or `XX`. -/
def readEscape : Bytes → Option (Bytes × Nat)
  | [] => none
  | c :: s =>
    -- a `u` is no digit, so nothing else is tried after it
    if c = 117 then (fromHexToI 4 0 s).map fun val => (toUtf8 val, 5)
    else (fromHexToI 2 0 (c :: s)).map fun val => ([UInt8.ofNat val], 2)

/-- A code that is read has all its digits. -/
theorem fromHexToI_take {cnt val : Nat} {s : Bytes} {r : Nat}
    (h : fromHexToI cnt val s = some r) :
    cnt ≤ s.length ∧ ∀ c ∈ s.take cnt, (nibble c).isSome = true := by
  induction cnt generalizing val s with
  | zero => simp
  | succ cnt ih =>
    cases s with
    | nil => cases h
    | cons c s =>
      obtain ⟨v, hv, hrest⟩ := Option.bind_eq_some_iff.mp h
      obtain ⟨hle, hall⟩ := ih hrest
      refine ⟨Nat.succ_le_succ hle, ?_⟩
      intro d hd
      rcases List.mem_cons.mp hd with rfl | hd
      · rw [hv]
        rfl
      · exact hall d hd

/-- A code point takes five bytes at most. -/
theorem length_toUtf8_le (code : Nat) : (toUtf8 code).length ≤ 5 := by
  unfold toUtf8
  split_ifs <;> simp

/-- A code is `u` and digits, or digits. -/
theorem readEscape_take {s out : Bytes} {n : Nat} (h : readEscape s = some (out, n)) :
    n ≤ s.length ∧ out.length ≤ n ∧ ∀ c ∈ s.take n, c = 117 ∨ (nibble c).isSome = true := by
  cases s with
  | nil => cases h
  | cons c s =>
    rw [readEscape] at h
    split_ifs at h with hc
    · obtain ⟨val, hval, heq⟩ := Option.map_eq_some_iff.mp h
      obtain ⟨rfl, rfl⟩ := Prod.mk.inj heq
      obtain ⟨hle, hall⟩ := fromHexToI_take hval
      refine ⟨Nat.succ_le_succ hle, length_toUtf8_le val, ?_⟩
      intro d hd
      rcases List.mem_cons.mp hd with rfl | hd
      · exact .inl hc
      · exact .inr (hall d hd)
    · obtain ⟨val, hval, heq⟩ := Option.map_eq_some_iff.mp h
      obtain ⟨rfl, rfl⟩ := Prod.mk.inj heq
      obtain ⟨hle, hall⟩ := fromHexToI_take hval
      exact ⟨hle, by simp, fun d hd => .inr (hall d hd)⟩

/-- The escapes `decode_url` knows. -/
def percent : EscapeCode UInt8 where
  marker := 37
  read := readEscape
  read_le h := (readEscape_take h).1
  shortens h := (readEscape_take h).2.1
  unmarked h hm := by
    rcases (readEscape_take h).2.2 37 hm with h37 | h37
    · exact absurd h37 (by decide)
    · exact absurd h37 (by decide)

/-- `decode_url` -/
def decodeUrl (s : Bytes) (convertPlusToSpace : Bool) : Bytes :=
  percent.decode (fun c => if convertPlusToSpace && c == 43 then 32 else c) s

/-- `%` and two digits, upper case. -/
def escaped (c : UInt8) : Bytes := [37, hexChar (c.toNat / 16), hexChar (c.toNat % 16)]

/-- One letter of `encode_url`. -/
def urlByte (c : UInt8) : Bytes :=
  if c ∈ str " +\r\n',;" ∨ 0x80 ≤ c then escaped c else [c]

/-- The loop ends at the first NUL. -/
def encodeUrl (s : Bytes) : Bytes := (cStr s).flatMap urlByte

/-- `std::isalnum` in the C locale. -/
def isAlnum (c : UInt8) : Bool :=
  (48 ≤ c && c ≤ 57) || (65 ≤ c && c ≤ 90) || (97 ≤ c && c ≤ 122)

/-- One letter of `encode_query_param`. -/
def queryParamByte (c : UInt8) : Bytes :=
  if isAlnum c = true ∨ c ∈ str "-_.!~*'()" then [c] else escaped c

/-- `encode_query_param` -/
def encodeQueryParam (value : Bytes) : Bytes := value.flatMap queryParamByte

/-! ## The client -/

/-- One entry of a query: the key is written as it is. -/
def queryText (p : Bytes × Bytes) : Bytes := p.1 ++ str "=" ++ encodeQueryParam p.2

/-- `params_to_query_str` -/
def paramsToQueryStr (params : Params) : Bytes := (str "&").intercalate (params.map queryText)

/-- `std::regex_match(path, std::regex("[^?]+\\?.*"))`; a dot matches no line end. -/
def hasQuery (path : Bytes) : Bool :=
  path.takeWhile (· != 63) != [] &&
    match path.dropWhile (· != 63) with
    | [] => false
    | _ :: rest => rest.all fun c => c != 10 && c != 13

/-- `append_query_params`: a path that has a query already is given more of it. -/
def appendQueryParams (path : Bytes) (params : Params) : Bytes :=
  path ++ (if hasQuery path then str "&" else str "?") ++ paramsToQueryStr params

/-- A request as it is sent. -/
structure Wire where
  requestLine : Bytes
  headerLines : List Bytes
  body : Bytes
  deriving DecidableEq

/-- The path `Get` and `write_request` make of a path and its parameters. -/
def pathWithQuery (path : Bytes) (params : Params) : Bytes :=
  if params = [] then path else appendQueryParams path params

/-- The end of a line. -/
def crlf : Bytes := [13, 10]

/-- The request line, as the client writes it. -/
def requestLine (method path : Bytes) : Bytes :=
  method ++ str " " ++ path ++ str " HTTP/1.1" ++ crlf

/-- One header, as both sides write it. -/
def headerLine (h : Bytes × Bytes) : Bytes := h.1 ++ str ": " ++ h.2 ++ crlf

/-- `write_request`: the path is escaped, the headers are written as they are. -/
def writeRequest (sent : ClientRequest) : Wire where
  requestLine := requestLine sent.method (encodeUrl (pathWithQuery sent.path sent.params))
  headerLines := sent.headers.map headerLine
  body := sent.body

/-! ## The server -/

/-- `is_space_or_tab` -/
def isSpaceOrTab (c : UInt8) : Bool := c == 32 || c == 9

/-- `params.emplace`: behind the entries whose key is not greater. -/
def emplace (params : Params) (p : Bytes × Bytes) : Params :=
  params.orderedInsert (fun a b => a.1 < b.1) p

/-- What one piece of the query holds; a piece without a key holds nothing. -/
def queryEntry (kv : Bytes) : Option (Bytes × Bytes) :=
  let (key, val) := divide 61 kv
  if key = [] then none else some (decodeUrl key true, decodeUrl val true)

/-- The entries of the pieces, in order; a piece that was there before is left out. -/
def queryEntries (cache : List Bytes) : List Bytes → Params
  | [] => []
  | kv :: rest =>
    if kv ∈ cache then queryEntries cache rest
    else (queryEntry kv).toList ++ queryEntries (kv :: cache) rest

/-- `parse_query_text`: entries that repeat are read once. -/
def parseQueryText (s : Bytes) : Params :=
  (queryEntries [] (split isSpaceOrTab 38 s)).foldl emplace []

/-- The methods the server knows. -/
def methods : List Bytes :=
  [str "GET", str "HEAD", str "POST", str "PUT", str "DELETE", str "CONNECT", str "OPTIONS",
    str "TRACE", str "PATCH", str "PRI"]

/-- The fragment is cut off first, then the query. -/
def parseTarget (target : Bytes) : Bytes × Params :=
  let target := target.takeWhile (· != 35)
  let (path, query) := divide 63 target
  (decodeUrl path false, parseQueryText query)

/-- `parse_request_line`: three words, with a known method and version. -/
def parseRequestLine (line : Bytes) : Option Request :=
  let s := cStr line
  if ¬ crlf <:+ s then none
  else
    match split isSpaceOrTab 32 (s.take (s.length - 2)) with
    | [method, target, version] =>
      if method ∉ methods then none
      else if version ≠ str "HTTP/1.1" ∧ version ≠ str "HTTP/1.0" then none
      else some { method, path := (parseTarget target).1, params := (parseTarget target).2 }
    | _ => none

/-- What a header value must not hold. -/
def isCrLfNul (c : UInt8) : Bool := c == 13 || c == 10 || c == 0

/-- `parse_header`, on a line without its CRLF. -/
def parseHeader (line : Bytes) : Option (Bytes × Bytes) :=
  let line := line.rdropWhile isSpaceOrTab
  let key := line.takeWhile (· != 58)
  if key = line then none
  else if key = [] then none
  else
    let text := (line.drop (key.length + 1)).dropWhile isSpaceOrTab
    -- the escapes of a value are decoded, those of a redirect target are not
    let val := if caseIgnoreEqual key (str "Location") then text else decodeUrl text false
    if val.any isCrLfNul then none else some (key, val)

/-- `CPPHTTPLIB_HEADER_MAX_LENGTH` -/
def headerMaxLength : Nat := 8192

/-- `CPPHTTPLIB_REQUEST_URI_MAX_LENGTH` -/
def requestUriMaxLength : Nat := 8192

/-- `read_headers`: one line that cannot be read ends it. -/
def readHeaders (lines : List Bytes) : Option Headers :=
  lines.mapM fun line =>
    if headerMaxLength < line.length then none else parseHeader (line.take (line.length - 2))

/-- `expect_content` -/
def expectContent (method : Bytes) : Bool :=
  method ∈ [str "POST", str "PUT", str "PATCH", str "PRI", str "DELETE"]

/-- The request a server makes of what it is sent; `none`: it answers 400 or 414. -/
def receive (wire : Wire) : Option Request :=
  if requestUriMaxLength < wire.requestLine.length then none
  else
    (parseRequestLine wire.requestLine).bind fun req =>
      (readHeaders wire.headerLines).map fun headers =>
        { req with headers, body := if expectContent req.method then wire.body else [] }

end Httplib

end Sovd
