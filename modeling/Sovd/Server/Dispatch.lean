import Sovd.Client.SovdClient
import Sovd.Lib.Segments
import Sovd.Server.Proxy
import Sovd.Server.Routes

/-!
# The client's URLs and the route table

The client builds a URL out of an entity's path and a resource's id, the server
takes it apart again with its patterns. Several patterns fit some of these URLs, and
the first one registered is used, so a URL goes astray when a segment of the entity
path, or the id, is a word the patterns know: a path with an inner segment `data`
makes `…/docs` a data item, a data item called `data` is a batch read.

`dispatch_inverts_iff` says for each method of the client which words these are
(`Misrouted`) and that every other URL goes to the intended handler, which gets back
the path and the id as they were.

What a pattern matches of such a URL is a matter of the segments
(`isMatch_end_iff`, `isMatch_item_iff`, `isMatch_stream_iff`); what it captures is
the longest text (`capture_end`, `capture_item`, `capture_stream`), which ends at the
last place the pattern's word stands.
-/

namespace Sovd

open Wildcard Segments Httplib Separated

/-! ## Paths and ids -/

/-- The letters an id may be made of. -/
def isWordChar (c : UInt8) : Bool := isAlnum c || c == 95 || c == 45

/-- A text of letters, digits, `_` and `-`. -/
structure Word where
  text : Bytes
  ne_nil : text ≠ []
  chars : ∀ c ∈ text, isWordChar c = true

/-- The path of an entity, segment by segment. -/
structure EntityPath where
  segments : List Word
  ne_nil : segments ≠ []

/-- A word is a segment of a path. -/
theorem Word.isSegment (w : Word) : IsSegment 47 w.text :=
  ⟨w.ne_nil, fun h => absurd (w.chars 47 h) (by decide)⟩

namespace EntityPath

variable (p : EntityPath)

/-- The segments, as the library on segments has them. -/
def toPath : Segments.Path (47 : UInt8) where
  segments := p.segments.map Word.text
  ne_nil h := p.ne_nil (List.map_eq_nil_iff.mp h)
  isSegment s hs := by
    obtain ⟨w, -, rfl⟩ := List.mem_map.mp hs
    exact w.isSegment

/-- The segments with slashes between them. -/
def text : Bytes := (str "/").intercalate (p.segments.map Word.text)

/-- A segment other than the first. -/
def HasInner (w : Bytes) : Prop := w ∈ (p.segments.map Word.text).tail

instance (w : Bytes) : Decidable (p.HasInner w) := inferInstanceAs (Decidable (_ ∈ _))

end EntityPath

/-! ## The calls -/

/-- The methods of the client that name an entity. -/
inductive ClientCall
  | getDocs
  | getFaults (statusFilter : Bytes)
  | clearFaults (lockId : Bytes)
  | getData (id : Word)
  | getDataBatch (ids : List Bytes)
  | putData (id : Word) (value : Json) (lockId : Bytes)
  | setMode (mode lockId : Bytes)
  | executeOperation (op : Word) (paramsJson lockId : Bytes)
  | acquireLock (ttlSeconds : Int)
  | renewLock (lockId : Word) (ttlSeconds : Int)
  | releaseLock (lockId : Word)
  | subscribeData (id : Word) (intervalMs : Int)

namespace ClientCall

/-- What the client sends for it. -/
def call (path : Bytes) : ClientCall → SovdClient.Call
  | getDocs => SovdClient.getDocs path
  | getFaults statusFilter => SovdClient.getFaults path statusFilter
  | clearFaults lockId => SovdClient.clearFaults path lockId
  | getData id => SovdClient.getData path id.text
  | getDataBatch ids => SovdClient.getDataBatch path ids
  | putData id value lockId => SovdClient.putData path id.text value lockId
  | setMode mode lockId => SovdClient.setMode path mode lockId
  | executeOperation op paramsJson lockId =>
    SovdClient.executeOperation path op.text paramsJson lockId
  | acquireLock ttlSeconds => SovdClient.acquireLock path ttlSeconds
  | renewLock lockId ttlSeconds => SovdClient.renewLock path lockId.text ttlSeconds
  | releaseLock lockId => SovdClient.releaseLock path lockId.text
  | subscribeData id intervalMs => SovdClient.subscribeData path id.text intervalMs

/-- The handler it is meant for, with what the handler is to be given. -/
def target (path : Bytes) : ClientCall → Handler × List Bytes
  | getDocs => (.getDocs, [path])
  | getFaults _ => (.getFaults, [path])
  | clearFaults _ => (.clearFaults, [path])
  | getData id => (.getData, [path, id.text])
  | getDataBatch _ => (.getDataBatch, [path])
  | putData id _ _ => (.putData, [path, id.text])
  | setMode _ _ => (.postMode, [path])
  | executeOperation op _ _ => (.postOperation, [path, op.text])
  | acquireLock _ => (.postLock, [path])
  | renewLock lockId _ => (.putLock, [path, lockId.text])
  | releaseLock lockId => (.deleteLock, [path, lockId.text])
  | subscribeData id _ => (.streamData, [path, id.text])

/-- The words that lead a URL to another handler. -/
def Misrouted (p : EntityPath) : ClientCall → Prop
  | getDocs => p.HasInner (str "data")
  | getData id =>
    id.text = str "faults" ∨ id.text = str "data" ∨
      (id.text = str "stream" ∧ p.HasInner (str "data"))
  | executeOperation op _ _ =>
    op.text = str "modes" ∨ (op.text = str "stream-ticket" ∧ p.HasInner (str "data"))
  | acquireLock _ => p.HasInner (str "operations")
  | renewLock _ _ => p.HasInner (str "data")
  | releaseLock lockId => lockId.text = str "faults"
  | _ => False

end ClientCall

/-- The server reads the request line of the call, and its table leads to the handler
the call is meant for. -/
def DispatchInverts (p : EntityPath) (c : ClientCall) : Prop :=
  ∃ req, parseRequestLine
      (requestLine (c.call p.text).method (encodeUrl (c.call p.text).urlPath)) = some req ∧
    dispatch req.method req.path = some (c.target p.text)

/-! ## The texts of these URLs -/

/-- A text of slashes and letters of words. -/
def Plain (s : Bytes) : Prop := ∀ c ∈ s, c = 47 ∨ isWordChar c = true

namespace Plain

variable {s t : Bytes}

/-- Two plain texts in a row are one. -/
theorem append (hs : Plain s) (ht : Plain t) : Plain (s ++ t) := by
  intro c hc
  rcases List.mem_append.mp hc with h | h
  · exact hs c h
  · exact ht c h

/-- A plain text with a slash in front is plain. -/
theorem slash (hs : Plain s) : Plain (47 :: s) := by
  intro c hc
  rcases List.mem_cons.mp hc with rfl | h
  · exact .inl rfl
  · exact hs c h

/-- No other letter is in a plain text. -/
theorem not_mem (hs : Plain s) {c : UInt8} (hc : c ≠ 47) (hw : isWordChar c = false) : c ∉ s := by
  intro h
  rcases hs c h with h47 | hword
  · exact hc h47
  · rw [hw] at hword
    exact absurd hword Bool.false_ne_true

/-- The front of a plain text is plain. -/
theorem left (h : Plain (s ++ t)) : Plain s := fun c hc => h c (List.mem_append_left t hc)

/-- A plain text has no line end, so `.` matches all of it. -/
theorem no_line_end (hs : Plain s) : ∀ c ∈ s, (c != 10 && c != 13) = true := by
  intro c hc
  have h10 := hs.not_mem (c := 10) (by decide) (by decide)
  have h13 := hs.not_mem (c := 13) (by decide) (by decide)
  rw [Bool.and_eq_true, bne_iff_ne, bne_iff_ne]
  exact ⟨fun h => h10 (h ▸ hc), fun h => h13 (h ▸ hc)⟩

/-- Nothing of it ends the path of a request line. -/
theorem isPathText (hs : Plain s) : ∀ c ∈ s, isPathText c = true := by
  intro c hc
  have h63 := hs.not_mem (c := 63) (by decide) (by decide)
  have h35 := hs.not_mem (c := 35) (by decide) (by decide)
  have h0 := hs.not_mem (c := 0) (by decide) (by decide)
  rw [isPathText_eq_true]
  exact ⟨fun h => h63 (h ▸ hc), fun h => h35 (h ▸ hc), fun h => h0 (h ▸ hc)⟩

end Plain

/-- Words are plain texts. -/
theorem Word.plain (w : Word) : Plain w.text := fun c hc => .inr (w.chars c hc)

/-- The paths of entities are plain texts. -/
theorem EntityPath.plain (p : EntityPath) : Plain p.text := by
  intro c hc
  rcases p.toPath.mem_text hc with h | ⟨s, hs, h⟩
  · exact .inl h
  · obtain ⟨w, -, rfl⟩ := List.mem_map.mp hs
    exact w.plain c h

theorem EntityPath.text_ne_nil (p : EntityPath) : p.text ≠ [] := p.toPath.text_ne_nil

/-- The server reads the path of such a URL as it was written, with or without a query. -/
theorem parseRequestLine_url {method t query : Bytes} (hm : method ∈ forwardedMethods)
    (ht : Plain t) (hquery : query = [] ∨ ∃ q, query = 63 :: q) :
    ∃ req, parseRequestLine
        (requestLine method (encodeUrl (str "/v1/entities/" ++ t ++ query))) = some req ∧
      req.method = method ∧ req.path = str "/v1/entities/" ++ t := by
  have hplain : Plain (str "v1/entities/" ++ t) := by
    refine Plain.append ?_ ht
    intro c hc
    revert c
    decide +kernel
  have hpath : ∀ c ∈ 47 :: (str "v1/entities/" ++ t), isPathText c = true :=
    hplain.slash.isPathText
  have hdecode : decodeUrl (47 :: (str "v1/entities/" ++ t)) false =
      47 :: (str "v1/entities/" ++ t) :=
    decodeUrl_of_noEscape (EscapeCode.noEscape_of_not_mem
      (hplain.slash.not_mem (c := 37) (by decide) (by decide)))
  have htab : (str "v1/entities/" ++ t).rdropWhile isTab = str "v1/entities/" ++ t := by
    rw [rdropWhile_isTab_eq_self]
    intro hlast
    exact hplain.not_mem (c := 9) (by decide) (by decide) (List.mem_of_getLast? hlast)
  have hstr : str "/v1/entities/" = 47 :: str "v1/entities/" := by decide
  simp only [hstr, List.cons_append]
  refine ⟨_, parseRequestLine_eq hm (str "v1/entities/" ++ t ++ query), rfl, ?_⟩
  dsimp only
  rw [parseTarget_trim]
  rcases hquery with rfl | ⟨q, rfl⟩
  · rw [List.append_nil, rawTarget_path hpath, htab, hdecode]
  · rw [← List.cons_append, rawTarget_query hpath, hdecode]

/-! ## What the patterns match -/

section

variable {a x l w : Bytes}

/-- `.` -/
def lineChar (c : UInt8) : Bool := c != 10 && c != 13

/-- `/v1/entities/(.+)/l` -/
def endPattern (l : Bytes) : Pattern := .underEntity [.lit (47 :: l)]

/-- `/v1/entities/(.+)/w/(.+)`, or with another wildcard at the end. -/
def itemPattern (w : Bytes) (ok : UInt8 → Bool) : Pattern :=
  .underEntity [.lit (47 :: (w ++ [47])), .plus ok]

/-- `/v1/entities/(.+)/w/(.+)/l` -/
def streamPattern (w l : Bytes) : Pattern :=
  .underEntity [.lit (47 :: (w ++ [47])), .plus lineChar, .lit (47 :: l)]

/-- A pattern under an entity matches where some tail matches the rest of it. -/
theorem isMatch_underEntity {rest : Pattern} {t : Bytes} (ht : Plain t) :
    isMatch (Pattern.underEntity rest) (str "/v1/entities/" ++ t) = true ↔
      ∃ u y, t = u ++ y ∧ u ≠ [] ∧ isMatch rest y = true := by
  rw [Pattern.underEntity, isMatch_lit]
  constructor
  · intro h
    obtain ⟨t', heq, hm⟩ := h
    obtain rfl := List.append_cancel_left heq
    obtain ⟨u, y, rfl, hne, -, hy⟩ := isMatch_plus.mp hm
    exact ⟨u, y, rfl, hne, hy⟩
  · intro h
    obtain ⟨u, y, rfl, hne, hy⟩ := h
    exact ⟨_, rfl, isMatch_plus.mpr ⟨u, y, rfl, hne, ht.left.no_line_end, hy⟩⟩

/-- The last segment decides. -/
theorem isMatch_end_iff (ha : a ≠ []) (hplain : Plain (a ++ 47 :: x)) (hx : 47 ∉ x)
    (hl : 47 ∉ l) :
    isMatch (endPattern l) (str "/v1/entities/" ++ (a ++ 47 :: x)) = true ↔ x = l := by
  rw [endPattern, isMatch_underEntity hplain]
  constructor
  · intro h
    obtain ⟨u, y, heq, -, hy⟩ := h
    rw [isMatch_last.mp hy] at heq
    exact (last_segment hx hl heq).2
  · intro h
    exact ⟨a, 47 :: x, rfl, ha, isMatch_last.mpr (by rw [h])⟩

/-- An inner segment decides. -/
theorem isMatch_item_iff (p : Segments.Path 47) (hplain : Plain (p.text ++ 47 :: x))
    (hx : IsSegment 47 x) (hw : 47 ∉ w) :
    isMatch (itemPattern w lineChar) (str "/v1/entities/" ++ (p.text ++ 47 :: x)) = true ↔
      w ∈ p.segments.tail := by
  rw [itemPattern, isMatch_underEntity hplain, ← p.between_iff hx hw]
  constructor
  · intro h
    obtain ⟨u, y, heq, hu, hy⟩ := h
    obtain ⟨t, rfl, ht⟩ := isMatch_lit.mp hy
    obtain ⟨v, z, rfl, hv, -, hz⟩ := isMatch_plus.mp ht
    obtain rfl := isMatch_nil.mp hz
    exact ⟨u, v, by simpa using heq, hu, hv⟩
  · intro h
    obtain ⟨u, v, heq, hu, hv⟩ := h
    have hvplain : Plain v := by
      intro c hc
      refine hplain c (heq ▸ ?_)
      simp [hc]
    exact ⟨u, _, heq, hu, isMatch_lit.mpr ⟨v, by simp, isMatch_plus.mpr
      ⟨v, [], (List.append_nil v).symm, hv, hvplain.no_line_end, isMatch_nil.mpr rfl⟩⟩⟩

/-- The last segment and an inner one that is not the last but one decide. -/
theorem isMatch_stream_iff (p : Segments.Path 47) {m : Bytes}
    (hplain : Plain (p.text ++ 47 :: m ++ 47 :: x)) (hm : IsSegment 47 m) (hx : 47 ∉ x)
    (hw : 47 ∉ w) (hl : 47 ∉ l) :
    isMatch (streamPattern w l) (str "/v1/entities/" ++ (p.text ++ 47 :: m ++ 47 :: x)) = true ↔
      x = l ∧ w ∈ p.segments.tail := by
  rw [streamPattern, isMatch_underEntity hplain, ← p.between_iff hm hw]
  constructor
  · intro h
    obtain ⟨u, y, heq, hu, hy⟩ := h
    obtain ⟨t, rfl, ht⟩ := isMatch_lit.mp hy
    obtain ⟨v, z, rfl, hv, -, hz⟩ := isMatch_plus.mp ht
    obtain rfl := isMatch_last.mp hz
    have hsplit : p.text ++ 47 :: m ++ 47 :: x = u ++ (47 :: (w ++ 47 :: v)) ++ 47 :: l := by
      simpa using heq
    obtain ⟨hinit, hlast⟩ := last_segment hx hl hsplit
    exact ⟨hlast, u, v, hinit, hu, hv⟩
  · intro h
    obtain ⟨rfl, u, v, heq, hu, hv⟩ := h
    have hvplain : Plain v := by
      intro c hc
      refine hplain.left c (heq ▸ ?_)
      simp [hc]
    refine ⟨u, 47 :: (w ++ 47 :: (v ++ 47 :: x)), by rw [heq]; simp, hu, ?_⟩
    exact isMatch_lit.mpr ⟨v ++ 47 :: x, by simp, isMatch_plus.mpr
      ⟨v, 47 :: x, rfl, hv, hvplain.no_line_end, isMatch_last.mpr rfl⟩⟩

/-! ## What the patterns capture -/

/-- The greedy capture ends where the longest one can: if no shorter tail matches the rest, all up
to it is the entity. -/
theorem capture_underEntity {rest : Pattern} {tail : Bytes} {cs : List Bytes} (ha : a ≠ [])
    (hplain : Plain a) (hrest : capture rest tail = some cs)
    (hlong : ∀ u y, tail = u ++ y → isMatch rest y = true → u = []) :
    capture (Pattern.underEntity rest) (str "/v1/entities/" ++ (a ++ tail)) = some (a :: cs) := by
  rw [Pattern.underEntity, capture_lit]
  exact capture_plus ha hplain.no_line_end hrest hlong

theorem capture_last_literal (l : Bytes) : capture [.lit l] l = some [] := by
  have h := capture_lit l [] []
  rwa [List.append_nil] at h

/-- A pattern that ends in one word captures all before it. -/
theorem capture_end (ha : a ≠ []) (hplain : Plain a) :
    capture (endPattern l) (str "/v1/entities/" ++ (a ++ 47 :: l)) = some [a] := by
  refine capture_underEntity ha hplain (capture_last_literal _) ?_
  intro u y heq hy
  rw [isMatch_last.mp hy] at heq
  exact List.self_eq_append_left.mp heq

/-- A pattern that ends in an item captures the entity and the item. -/
theorem capture_item {ok : UInt8 → Bool} (ha : a ≠ []) (hplain : Plain a) (hx : IsSegment 47 x)
    (hw : 47 ∉ w) (hok : ∀ c ∈ x, ok c = true) :
    capture (itemPattern w ok) (str "/v1/entities/" ++ (a ++ 47 :: w ++ 47 :: x)) =
      some [a, x] := by
  have hrest : capture [.lit (47 :: (w ++ [47])), .plus ok] (47 :: (w ++ 47 :: x)) = some [x] := by
    have h := capture_lit (47 :: (w ++ [47])) [.plus ok] x
    rw [capture_plus_last hx.ne_nil hok] at h
    simpa using h
  rw [List.append_assoc a, List.cons_append]
  refine capture_underEntity ha hplain hrest ?_
  intro u y heq hy
  obtain ⟨v, rfl, -⟩ := isMatch_lit.mp hy
  exact rfind_unique hx.not_mem hw (v := v) (by simpa using heq)

/-- A pattern with a word behind the item captures the entity and the item. -/
theorem capture_stream (ha : a ≠ []) (hplain : Plain a) (hx : IsSegment 47 x)
    (hxplain : Plain x) (hw : 47 ∉ w) :
    capture (streamPattern w l) (str "/v1/entities/" ++ (a ++ 47 :: w ++ 47 :: x ++ 47 :: l)) =
      some [a, x] := by
  have hid : capture [.plus lineChar, .lit (47 :: l)] (x ++ 47 :: l) = some [x] := by
    refine capture_plus hx.ne_nil hxplain.no_line_end (capture_last_literal _) ?_
    intro u y heq hy
    rw [isMatch_last.mp hy] at heq
    exact List.self_eq_append_left.mp heq
  have hrest : capture [.lit (47 :: (w ++ [47])), .plus lineChar, .lit (47 :: l)]
      (47 :: (w ++ 47 :: (x ++ 47 :: l))) = some [x] := by
    have h := capture_lit (47 :: (w ++ [47])) [.plus lineChar, .lit (47 :: l)] (x ++ 47 :: l)
    rw [hid] at h
    simpa using h
  rw [List.append_assoc, List.append_assoc a, List.cons_append, List.cons_append]
  refine capture_underEntity ha hplain hrest ?_
  intro u y heq hy
  obtain ⟨t, rfl, ht⟩ := isMatch_lit.mp hy
  obtain ⟨v, z, rfl, -, -, hz⟩ := isMatch_plus.mp ht
  obtain rfl := isMatch_last.mp hz
  -- what is behind the id is on both sides
  have hcut : 47 :: (w ++ 47 :: x) ++ 47 :: l = u ++ (47 :: (w ++ 47 :: v)) ++ 47 :: l := by
    simpa using heq
  exact rfind_unique hx.not_mem hw (List.append_cancel_right hcut)

end

/-! ## Looking a request up in a table -/

/-- The first row that matches, with what it captures. -/
def lookup (rows : List (Pattern × Handler)) (path : Bytes) : Option (Handler × List Bytes) :=
  rows.findSome? fun r => (capture r.1 path).map fun captures => (r.2, captures)

section

variable {path : Bytes} {q : Pattern} {h : Handler} {rows : List (Pattern × Handler)}

/-- A row that does not match is passed over. -/
theorem lookup_skip (hq : isMatch q path = false) :
    lookup ((q, h) :: rows) path = lookup rows path := by
  rw [lookup, List.findSome?_cons, capture_of_not_isMatch hq]
  rfl

/-- The first row that matches is taken. -/
theorem lookup_hit {cs : List Bytes} (hq : capture q path = some cs) :
    lookup ((q, h) :: rows) path = some (h, cs) := by
  rw [lookup, List.findSome?_cons, hq]
  rfl

/-- A row of another handler than the one that is meant must not match. -/
theorem lookup_other {h' : Handler} {cs : List Bytes} (hne : h ≠ h') :
    lookup ((q, h) :: rows) path = some (h', cs) ↔
      ¬ isMatch q path = true ∧ lookup rows path = some (h', cs) := by
  cases hq : isMatch q path with
  | true =>
    obtain ⟨cs', hcs'⟩ := Option.isSome_iff_exists.mp hq
    rw [lookup_hit hcs']
    constructor
    · intro heq
      exact absurd (congrArg Prod.fst (Option.some.inj heq)) hne
    · intro h
      exact absurd rfl h.1
  | false =>
    rw [lookup_skip hq]
    exact (and_iff_right Bool.false_ne_true).symm

end

/-- The rows a GET goes through. -/
theorem dispatch_get (path : Bytes) :
    dispatch (str "GET") path =
      lookup [(.root, .root), (.entities, .listEntities), (endPattern (str "faults"), .getFaults),
        (endPattern (str "data"), .getDataBatch),
        (streamPattern (str "data") (str "stream"), .streamData),
        (itemPattern (str "data") lineChar, .getData), (endPattern (str "docs"), .getDocs)] path :=
  rfl

/-- The rows a POST goes through. -/
theorem dispatch_post (path : Bytes) :
    dispatch (str "POST") path =
      lookup [(streamPattern (str "data") (str "stream-ticket"), .postStreamTicket),
        (endPattern (str "modes"), .postMode),
        (itemPattern (str "operations") lineChar, .postOperation),
        (endPattern (str "locks"), .postLock)] path :=
  rfl

/-- The rows a PUT goes through. -/
theorem dispatch_put (path : Bytes) :
    dispatch (str "PUT") path =
      lookup [(itemPattern (str "data") lineChar, .putData),
        (itemPattern (str "locks") (· != 47), .putLock)] path :=
  rfl

/-- The rows a DELETE goes through. -/
theorem dispatch_delete (path : Bytes) :
    dispatch (str "DELETE") path =
      lookup [(endPattern (str "faults"), .clearFaults),
        (itemPattern (str "locks") (· != 47), .deleteLock)] path :=
  rfl

/-- Neither the root nor the list of entities is under an entity. -/
theorem isMatch_top (t : Bytes) :
    isMatch Pattern.root (str "/v1/entities/" ++ t) = false ∧
      isMatch Pattern.entities (str "/v1/entities/" ++ t) = false := by
  have hlength : (str "/v1/entities/" ++ t).length = 13 + t.length := List.length_append
  constructor
  · rw [Bool.eq_false_iff]
    intro h
    have hroot := congrArg List.length (isMatch_last.mp h)
    rw [hlength, show (str "/").length = 1 from rfl] at hroot
    omega
  · rw [Bool.eq_false_iff]
    intro h
    have hentities := congrArg List.length (isMatch_last.mp h)
    rw [hlength, show (str "/v1/entities").length = 12 from rfl] at hentities
    omega

/-- A pattern that ends in another segment than the URL. -/
theorem isMatch_of_last_ne (ps : Pattern) {a x l : Bytes} (hx : 47 ∉ x) (hl : 47 ∉ l)
    (hne : x ≠ l) :
    isMatch (ps ++ [.lit (47 :: l)]) (str "/v1/entities/" ++ (a ++ 47 :: x)) = false := by
  rw [Bool.eq_false_iff]
  intro h
  obtain ⟨cs, hm⟩ := isMatch_iff.mp h
  obtain ⟨b, hb⟩ := hm.suffix
  rw [← List.append_assoc] at hb
  exact hne (last_segment hl hx hb).2.symm

/-! ## Where each URL goes -/

/-- The words of the patterns. -/
def keywords : List Bytes :=
  [str "faults", str "data", str "stream", str "docs", str "modes", str "operations", str "locks",
    str "stream-ticket"]

/-- The words of the table are segments themselves. -/
theorem isSegment_keyword : ∀ l ∈ keywords, IsSegment 47 l ∧ Plain l := by
  have hall : ∀ l ∈ keywords, l ≠ [] ∧ 47 ∉ l ∧ l.all isWordChar = true := by decide
  intro l hl
  obtain ⟨hne, hmem, hword⟩ := hall l hl
  exact ⟨⟨hne, hmem⟩, fun c hc => .inr (List.all_eq_true.mp hword c hc)⟩

section

variable {a x l : Bytes}

/-- A URL with another last segment is passed over by a pattern that ends in one word. -/
theorem end_of_last_ne (hx : 47 ∉ x) (hl : l ∈ keywords) (hne : x ≠ l) :
    isMatch (endPattern l) (str "/v1/entities/" ++ (a ++ 47 :: x)) = false :=
  isMatch_of_last_ne [.lit (str "/v1/entities/"), Pattern.any] hx
    (isSegment_keyword l hl).1.not_mem hne

/-- Such a URL is passed over by a pattern with a word behind the item as well. -/
theorem stream_of_last_ne (hx : 47 ∉ x) (hl : l ∈ keywords) (hne : x ≠ l) (w : Bytes) :
    isMatch (streamPattern w l) (str "/v1/entities/" ++ (a ++ 47 :: x)) = false :=
  isMatch_of_last_ne
    [.lit (str "/v1/entities/"), Pattern.any, .lit (47 :: (w ++ [47])), .plus lineChar] hx
    (isSegment_keyword l hl).1.not_mem hne

end

section

variable (p : EntityPath) {m x w l : Bytes}

/-- The data-item pattern on a resource that has no id. -/
theorem item_iff (hx : IsSegment 47 x ∧ Plain x) (hw : w ∈ keywords) :
    isMatch (itemPattern w lineChar) (str "/v1/entities/" ++ (p.text ++ 47 :: x)) = true ↔
      p.HasInner w :=
  isMatch_item_iff p.toPath (p.plain.append hx.2.slash) hx.1 (isSegment_keyword w hw).1.not_mem

/-- The same on a resource with an id, of a kind other than the pattern's. -/
theorem item_snoc_iff (hm : IsSegment 47 m ∧ Plain m) (hx : IsSegment 47 x ∧ Plain x)
    (hw : w ∈ keywords) (hne : w ≠ m) :
    isMatch (itemPattern w lineChar)
        (str "/v1/entities/" ++ (p.text ++ 47 :: m ++ 47 :: x)) = true ↔
      p.HasInner w := by
  have h := isMatch_item_iff (p.toPath.snoc hm.1) (x := x) (w := w)
    (by rw [p.toPath.text_snoc]; exact (p.plain.append hm.2.slash).append hx.2.slash) hx.1
    (isSegment_keyword w hw).1.not_mem
  rw [p.toPath.text_snoc] at h
  refine h.trans ?_
  show w ∈ (p.toPath.segments ++ [m]).tail ↔ w ∈ p.toPath.segments.tail
  rw [List.tail_append_of_ne_nil p.toPath.ne_nil, List.mem_append, List.mem_singleton]
  exact or_iff_left hne

/-- An item and the word behind it are found in a URL with that last segment, if the entity has
the word for items in it. -/
theorem stream_iff (hm : IsSegment 47 m ∧ Plain m) (hx : IsSegment 47 x ∧ Plain x)
    (hw : w ∈ keywords) (hl : l ∈ keywords) :
    isMatch (streamPattern w l) (str "/v1/entities/" ++ (p.text ++ 47 :: m ++ 47 :: x)) = true ↔
      x = l ∧ p.HasInner w :=
  isMatch_stream_iff p.toPath ((p.plain.append hm.2.slash).append hx.2.slash) hm.1 hx.1.not_mem
    (isSegment_keyword w hw).1.not_mem (isSegment_keyword l hl).1.not_mem

/-- A pattern that ends in one word matches by the last segment alone. -/
theorem end_iff (hm : Plain m) (hx : IsSegment 47 x ∧ Plain x) (hl : l ∈ keywords) :
    isMatch (endPattern l) (str "/v1/entities/" ++ (p.text ++ 47 :: m ++ 47 :: x)) = true ↔
      x = l :=
  isMatch_end_iff (List.append_ne_nil_of_left_ne_nil p.text_ne_nil _)
    ((p.plain.append hm.slash).append hx.2.slash) hx.1.not_mem (isSegment_keyword l hl).1.not_mem

end

section

variable (p : EntityPath) (id : Word)

theorem Word.no_slash : ∀ c ∈ id.text, (c != 47) = true := fun _ hc =>
  bne_iff_ne.mpr fun h => id.isSegment.not_mem (h ▸ hc)

theorem Word.segment : IsSegment 47 id.text ∧ Plain id.text := ⟨id.isSegment, id.plain⟩

/-- `get_docs` is misled by a segment `data`: the docs are taken for a data item. -/
theorem dispatch_getDocs_iff :
    dispatch (str "GET") (str "/v1/entities/" ++ (p.text ++ 47 :: str "docs")) =
        some (.getDocs, [p.text]) ↔ ¬ p.HasInner (str "data") := by
  have hdocs := isSegment_keyword (str "docs") (by decide)
  rw [dispatch_get, lookup_skip (isMatch_top _).1, lookup_skip (isMatch_top _).2,
    lookup_skip (end_of_last_ne hdocs.1.not_mem (by decide) (by decide)),
    lookup_skip (end_of_last_ne hdocs.1.not_mem (by decide) (by decide)),
    lookup_skip (stream_of_last_ne hdocs.1.not_mem (by decide) (by decide) _),
    lookup_other (by decide), item_iff p hdocs (by decide)]
  exact and_iff_left (lookup_hit (capture_end p.text_ne_nil p.plain))

/-- `get_faults` gets to its handler. -/
theorem dispatch_getFaults :
    dispatch (str "GET") (str "/v1/entities/" ++ (p.text ++ 47 :: str "faults")) =
      some (.getFaults, [p.text]) := by
  rw [dispatch_get, lookup_skip (isMatch_top _).1, lookup_skip (isMatch_top _).2]
  exact lookup_hit (capture_end p.text_ne_nil p.plain)

/-- `clear_faults` gets to its handler. -/
theorem dispatch_clearFaults :
    dispatch (str "DELETE") (str "/v1/entities/" ++ (p.text ++ 47 :: str "faults")) =
      some (.clearFaults, [p.text]) := by
  rw [dispatch_delete]
  exact lookup_hit (capture_end p.text_ne_nil p.plain)

/-- A data item whose id is another resource's word, or the end of a stream's path. -/
theorem dispatch_getData_iff :
    dispatch (str "GET") (str "/v1/entities/" ++ (p.text ++ 47 :: str "data" ++ 47 :: id.text)) =
        some (.getData, [p.text, id.text]) ↔
      ¬ (id.text = str "faults" ∨ id.text = str "data" ∨
        (id.text = str "stream" ∧ p.HasInner (str "data"))) := by
  have hkind := isSegment_keyword (str "data") (by decide)
  rw [dispatch_get, lookup_skip (isMatch_top _).1, lookup_skip (isMatch_top _).2,
    lookup_other (by decide), end_iff p hkind.2 id.segment (by decide),
    lookup_other (by decide), end_iff p hkind.2 id.segment (by decide),
    lookup_other (by decide), stream_iff p hkind id.segment (by decide) (by decide), not_or, not_or]
  exact and_congr_right' (and_congr_right' (and_iff_left (lookup_hit
    (capture_item p.text_ne_nil p.plain id.isSegment hkind.1.not_mem id.plain.no_line_end))))

/-- `get_data_batch` gets to its handler. -/
theorem dispatch_getDataBatch :
    dispatch (str "GET") (str "/v1/entities/" ++ (p.text ++ 47 :: str "data")) =
      some (.getDataBatch, [p.text]) := by
  have hdata := isSegment_keyword (str "data") (by decide)
  rw [dispatch_get, lookup_skip (isMatch_top _).1, lookup_skip (isMatch_top _).2,
    lookup_skip (end_of_last_ne hdata.1.not_mem (by decide) (by decide))]
  exact lookup_hit (capture_end p.text_ne_nil p.plain)

/-- `put_data` gets to its handler. -/
theorem dispatch_putData :
    dispatch (str "PUT") (str "/v1/entities/" ++ (p.text ++ 47 :: str "data" ++ 47 :: id.text)) =
      some (.putData, [p.text, id.text]) := by
  rw [dispatch_put]
  exact lookup_hit (capture_item p.text_ne_nil p.plain id.isSegment (by decide)
    id.plain.no_line_end)

/-- `set_mode` gets to its handler. -/
theorem dispatch_setMode :
    dispatch (str "POST") (str "/v1/entities/" ++ (p.text ++ 47 :: str "modes")) =
      some (.postMode, [p.text]) := by
  have hmodes := isSegment_keyword (str "modes") (by decide)
  rw [dispatch_post, lookup_skip (stream_of_last_ne hmodes.1.not_mem (by decide) (by decide) _)]
  exact lookup_hit (capture_end p.text_ne_nil p.plain)

/-- An operation of the name `modes` is taken for the entity `…/operations`, one of the name
`stream-ticket` for a data item. -/
theorem dispatch_executeOperation_iff :
    dispatch (str "POST")
        (str "/v1/entities/" ++ (p.text ++ 47 :: str "operations" ++ 47 :: id.text)) =
        some (.postOperation, [p.text, id.text]) ↔
      ¬ (id.text = str "modes" ∨ (id.text = str "stream-ticket" ∧ p.HasInner (str "data"))) := by
  have hkind := isSegment_keyword (str "operations") (by decide)
  rw [dispatch_post, lookup_other (by decide),
    stream_iff p hkind id.segment (by decide) (by decide), lookup_other (by decide),
    end_iff p hkind.2 id.segment (by decide), or_comm, not_or]
  exact and_congr_right' (and_iff_left (lookup_hit
    (capture_item p.text_ne_nil p.plain id.isSegment hkind.1.not_mem id.plain.no_line_end)))

/-- `acquire_lock` is misled by a segment `operations`: the locks are taken for one. -/
theorem dispatch_acquireLock_iff :
    dispatch (str "POST") (str "/v1/entities/" ++ (p.text ++ 47 :: str "locks")) =
        some (.postLock, [p.text]) ↔ ¬ p.HasInner (str "operations") := by
  have hlocks := isSegment_keyword (str "locks") (by decide)
  rw [dispatch_post,
    lookup_skip (stream_of_last_ne hlocks.1.not_mem (by decide) (by decide) _),
    lookup_skip (end_of_last_ne hlocks.1.not_mem (by decide) (by decide)),
    lookup_other (by decide), item_iff p hlocks (by decide)]
  exact and_iff_left (lookup_hit (capture_end p.text_ne_nil p.plain))

/-- `renew_lock` is misled by a segment `data`: the lock is taken for a data item. -/
theorem dispatch_renewLock_iff :
    dispatch (str "PUT") (str "/v1/entities/" ++ (p.text ++ 47 :: str "locks" ++ 47 :: id.text)) =
        some (.putLock, [p.text, id.text]) ↔ ¬ p.HasInner (str "data") := by
  have hkind := isSegment_keyword (str "locks") (by decide)
  rw [dispatch_put, lookup_other (by decide),
    item_snoc_iff p hkind id.segment (by decide) (by decide)]
  exact and_iff_left (lookup_hit
    (capture_item p.text_ne_nil p.plain id.isSegment hkind.1.not_mem id.no_slash))

/-- A lock of the id `faults` is taken for the faults of `…/locks`. -/
theorem dispatch_releaseLock_iff :
    dispatch (str "DELETE")
        (str "/v1/entities/" ++ (p.text ++ 47 :: str "locks" ++ 47 :: id.text)) =
        some (.deleteLock, [p.text, id.text]) ↔ ¬ id.text = str "faults" := by
  have hkind := isSegment_keyword (str "locks") (by decide)
  rw [dispatch_delete, lookup_other (by decide), end_iff p hkind.2 id.segment (by decide)]
  exact and_iff_left (lookup_hit
    (capture_item p.text_ne_nil p.plain id.isSegment hkind.1.not_mem id.no_slash))

/-- `subscribe_data` gets to its handler: its row is the first that could match. -/
theorem dispatch_subscribeData :
    dispatch (str "GET")
        (str "/v1/entities/" ++
          (p.text ++ 47 :: str "data" ++ 47 :: id.text ++ 47 :: str "stream")) =
      some (.streamData, [p.text, id.text]) := by
  have hkind := isSegment_keyword (str "data") (by decide)
  have hstream := isSegment_keyword (str "stream") (by decide)
  rw [dispatch_get, lookup_skip (isMatch_top _).1, lookup_skip (isMatch_top _).2,
    lookup_skip (end_of_last_ne hstream.1.not_mem (by decide) (by decide)),
    lookup_skip (end_of_last_ne hstream.1.not_mem (by decide) (by decide))]
  exact lookup_hit
    (capture_stream p.text_ne_nil p.plain id.isSegment id.plain hkind.1.not_mem)

end

/-! ## All calls -/

/-- What the server makes of a call's URL depends on its path alone. -/
theorem dispatchInverts_iff {p : EntityPath} {c : ClientCall} {t query : Bytes}
    (hm : (c.call p.text).method ∈ forwardedMethods)
    (hurl : (c.call p.text).urlPath = str "/v1/entities/" ++ t ++ query) (ht : Plain t)
    (hquery : query = [] ∨ ∃ q, query = 63 :: q) :
    DispatchInverts p c ↔
      dispatch (c.call p.text).method (str "/v1/entities/" ++ t) = some (c.target p.text) := by
  obtain ⟨req, hreq, hmethod, hpath⟩ := parseRequestLine_url hm ht hquery
  unfold DispatchInverts
  rw [hurl]
  constructor
  · intro h
    obtain ⟨req', hreq', hd⟩ := h
    obtain rfl := Option.some.inj (hreq.symm.trans hreq')
    rwa [hmethod, hpath] at hd
  · intro h
    exact ⟨req, hreq, by rwa [hmethod, hpath]⟩

/-- The path and the query of a call's URL. -/
def ClientCall.urlParts (path : Bytes) : ClientCall → Bytes × Bytes
  | getDocs => (path ++ 47 :: str "docs", [])
  | getFaults statusFilter =>
    (path ++ 47 :: str "faults", if statusFilter = [] then [] else str "?status=" ++ statusFilter)
  | clearFaults _ => (path ++ 47 :: str "faults", [])
  | getData id => (path ++ 47 :: str "data" ++ 47 :: id.text, [])
  | getDataBatch ids => (path ++ 47 :: str "data", str "?ids=" ++ SovdClient.joinIds ids)
  | putData id _ _ => (path ++ 47 :: str "data" ++ 47 :: id.text, [])
  | setMode _ _ => (path ++ 47 :: str "modes", [])
  | executeOperation op _ _ => (path ++ 47 :: str "operations" ++ 47 :: op.text, [])
  | acquireLock _ => (path ++ 47 :: str "locks", [])
  | renewLock lockId _ => (path ++ 47 :: str "locks" ++ 47 :: lockId.text, [])
  | releaseLock lockId => (path ++ 47 :: str "locks" ++ 47 :: lockId.text, [])
  | subscribeData id intervalMs =>
    (path ++ 47 :: str "data" ++ 47 :: id.text ++ 47 :: str "stream",
      str "?interval_ms=" ++ intText intervalMs)

/-- A URL is the path under an entity and a query. -/
theorem urlPath_eq (path : Bytes) (c : ClientCall) :
    (c.call path).urlPath =
      str "/v1/entities/" ++ (c.urlParts path).1 ++ (c.urlParts path).2 := by
  cases c with
  | getFaults statusFilter =>
    show (if statusFilter = [] then str "/v1/entities/" ++ path ++ str "/faults"
      else str "/v1/entities/" ++ path ++ str "/faults" ++ (str "?status=" ++ statusFilter)) =
      str "/v1/entities/" ++ (path ++ 47 :: str "faults") ++
        (if statusFilter = [] then [] else str "?status=" ++ statusFilter)
    split_ifs
    · rw [List.append_nil, List.append_assoc]
      rfl
    · rw [List.append_assoc (str "/v1/entities/") path]
      rfl
  | _ => simp [ClientCall.call, ClientCall.urlParts, str, SovdClient.getDocs,
      SovdClient.clearFaults, SovdClient.getData, SovdClient.getDataBatch, SovdClient.putData,
      SovdClient.setMode, SovdClient.executeOperation, SovdClient.acquireLock,
      SovdClient.renewLock, SovdClient.releaseLock, SovdClient.subscribeData]

/-- The path is plain. -/
theorem urlParts_plain (p : EntityPath) (c : ClientCall) : Plain (c.urlParts p.text).1 := by
  have hone : ∀ l ∈ keywords, Plain (p.text ++ 47 :: l) := fun l hl =>
    p.plain.append (isSegment_keyword l hl).2.slash
  have htwo : ∀ l ∈ keywords, ∀ id : Word, Plain (p.text ++ 47 :: l ++ 47 :: id.text) :=
    fun l hl id => (hone l hl).append id.plain.slash
  cases c with
  | getDocs => exact hone _ (by decide)
  | getFaults _ => exact hone _ (by decide)
  | clearFaults _ => exact hone _ (by decide)
  | getData id => exact htwo _ (by decide) id
  | getDataBatch _ => exact hone _ (by decide)
  | putData id _ _ => exact htwo _ (by decide) id
  | setMode _ _ => exact hone _ (by decide)
  | executeOperation op _ _ => exact htwo _ (by decide) op
  | acquireLock _ => exact hone _ (by decide)
  | renewLock lockId _ => exact htwo _ (by decide) lockId
  | releaseLock lockId => exact htwo _ (by decide) lockId
  | subscribeData id _ =>
    exact (htwo _ (by decide) id).append (isSegment_keyword (str "stream") (by decide)).2.slash

/-- The query begins with its question mark. -/
theorem urlParts_query (path : Bytes) (c : ClientCall) :
    (c.urlParts path).2 = [] ∨ ∃ q, (c.urlParts path).2 = 63 :: q := by
  cases c with
  | getFaults statusFilter =>
    by_cases h : statusFilter = []
    · exact .inl (if_pos h)
    · exact .inr ⟨str "status=" ++ statusFilter, if_neg h⟩
  | getDataBatch ids => exact .inr ⟨_, rfl⟩
  | subscribeData id intervalMs => exact .inr ⟨_, rfl⟩
  | _ => exact .inl rfl

/-- The methods of the client are among those the gateway passes on. -/
theorem call_method (path : Bytes) (c : ClientCall) :
    (c.call path).method ∈ forwardedMethods := by
  have hget : str "GET" ∈ forwardedMethods := by decide
  have hput : str "PUT" ∈ forwardedMethods := by decide
  have hpost : str "POST" ∈ forwardedMethods := by decide
  have hdelete : str "DELETE" ∈ forwardedMethods := by decide
  cases c with
  | putData _ _ _ => exact hput
  | renewLock _ _ => exact hput
  | setMode _ _ => exact hpost
  | executeOperation _ _ _ => exact hpost
  | acquireLock _ => exact hpost
  | clearFaults _ => exact hdelete
  | releaseLock _ => exact hdelete
  | _ => exact hget

/-- **A client's URL is dispatched to the handler it is meant for, with the path and
the id it was built from, exactly when it is not misrouted.** -/
theorem dispatch_inverts_iff (p : EntityPath) (c : ClientCall) :
    DispatchInverts p c ↔ ¬ c.Misrouted p := by
  refine (dispatchInverts_iff (call_method _ c) (urlPath_eq _ c) (urlParts_plain p c)
    (urlParts_query _ c)).trans ?_
  cases c with
  | getDocs => exact dispatch_getDocs_iff p
  | getFaults _ => exact iff_of_true (dispatch_getFaults p) id
  | clearFaults _ => exact iff_of_true (dispatch_clearFaults p) id
  | getData id => exact dispatch_getData_iff p id
  | getDataBatch _ => exact iff_of_true (dispatch_getDataBatch p) id
  | putData id _ _ => exact iff_of_true (dispatch_putData p id) fun h => h
  | setMode _ _ => exact iff_of_true (dispatch_setMode p) id
  | executeOperation op _ _ => exact dispatch_executeOperation_iff p op
  | acquireLock _ => exact dispatch_acquireLock_iff p
  | renewLock lockId _ => exact dispatch_renewLock_iff p lockId
  | releaseLock lockId => exact dispatch_releaseLock_iff p lockId
  | subscribeData id _ => exact iff_of_true (dispatch_subscribeData p id) fun h => h

/-- The entity `ecu`, and its data item `data`. -/
def ecu : EntityPath where
  segments := [⟨str "ecu", by decide, by decide +kernel⟩]
  ne_nil := List.cons_ne_nil _ _

def dataItem : Word := ⟨str "data", by decide, by decide +kernel⟩

/-- A read of the data item `data` of `ecu` is a batch read of `ecu/data`. -/
theorem data_item_misrouted :
    dispatch (str "GET") (str "/v1/entities/ecu/data/data") =
        some (.getDataBatch, [str "ecu/data"]) ∧
      ¬ DispatchInverts ecu (.getData dataItem) := by
  have hdispatch : dispatch (str "GET") (str "/v1/entities/ecu/data/data") =
      some (.getDataBatch, [str "ecu/data"]) := by decide +kernel
  refine ⟨hdispatch, ?_⟩
  rw [dispatchInverts_iff (call_method _ _) (urlPath_eq _ _) (urlParts_plain ecu _)
    (urlParts_query _ _)]
  show dispatch (str "GET") (str "/v1/entities/ecu/data/data") ≠
    some (.getData, [str "ecu", str "data"])
  rw [hdispatch]
  decide

end Sovd
