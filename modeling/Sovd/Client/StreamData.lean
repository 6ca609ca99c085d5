import Mathlib.Data.List.ReduceOption
import Sovd.Client.SovdClient
import Sovd.Json.RoundTrip
import Sovd.Lib.Framing
import Sovd.Server.Telemetry

/-!
# A subscription from end to end

The server sends each document of a stream as a line that ends with an empty line, and a
comment when there was none for a while. The client collects the bytes, takes the frames
off, and calls back with what it parses. `subscribeData_written` puts the two together:
one call for each document, in order, with that document, however the bytes were cut.

Three facts make it. A frame has no end of line but its last two, as `dump()` writes no
control character (`printable_text`), so the frames are found again (`receive_frames`).
A comment does not start as a document does. And what was dumped is parsed back
(`parseJson_text`), but for numbers that are not finite, which JSON has no text for.

Mirroring notes vs the C++:
- The response is what the HTTP library made of the exchange: the pieces of its body in
  the order it hands them over, and the result of `Get`. After a piece that was answered
  with `false` it hands over no more.
- `stop` gives what the flag says each time it is loaded; no flag is `none`.
- The calls are listed with the documents they get. What a callback throws is caught.
-/

namespace Sovd

/-! ## The content provider -/

/-- What is written for what `wait_next` returned. -/
def streamFrame (jsonLine : Option Bytes) : Bytes :=
  match jsonLine with
  | some line => str "data: " ++ line ++ str "\n\n"
  | none => str ": keep-alive\n\n"

/-- A document the server can hold and dump. -/
structure Document where
  json : Json
  inRange : json.InRange
  utf8 : json.utf8 = true

/-- The body of a stream of documents and of waits that ended without one. -/
def streamText (grisu2 : Rat → Bytes × Int) (items : List (Option Document)) : Bytes :=
  items.flatMap fun item => streamFrame (item.map fun d => d.json.stored.text grisu2)

/-! ## `subscribe_data` -/

namespace SovdClient

/-- The document a frame gives the callback. -/
def frameEvent (parse : JsonParser) (frame : Bytes) : Option Json :=
  if str "data: " <+: frame then parse (frame.drop 6) else none

/-- The loop over the buffer. -/
def takeFrames (parse : JsonParser) (buffer : Bytes) : List Json × Bytes :=
  let (frames, rest) := Framing.drain (str "\n\n") buffer
  (frames.filterMap (frameEvent parse), rest)

/-- What the stop flag says at its `load`-th reading. -/
def stopped (stop : Option (Nat → Bool)) (load : Nat) : Bool :=
  match stop with
  | none => false
  | some flag => flag load

/-- The content receiver over the pieces, with the number of loads of the flag. -/
def receivePieces (parse : JsonParser) (stop : Option (Nat → Bool)) :
    Nat → Bytes → List Bytes → List Json × Nat
  | loads, _, [] => ([], loads)
  | loads, buffer, piece :: pieces =>
    if stopped stop loads then ([], loads + 1)
    else
      let (events, rest) := takeFrames parse (buffer ++ piece)
      if stopped stop (loads + 1) then (events, loads + 2)
      else
        let (later, loads) := receivePieces parse stop (loads + 2) rest pieces
        (events ++ later, loads)

/-- The calls of the callback, and how the subscription ends. -/
def subscribe (parse : JsonParser) (stop : Option (Nat → Bool)) (pieces : List Bytes)
    (result : Except Bytes RemoteResponse) : List Json × Except SovdError Unit :=
  let (events, loads) := receivePieces parse stop 0 [] pieces
  let userRequestedStop := stopped stop loads
  match result with
  | .error text =>
    if userRequestedStop then (events, .ok ())
    else (events, .error ⟨0, str "TRANSPORT", str "stream connection lost: " ++ text⟩)
  | .ok res =>
    if res.status < 200 ∨ 300 ≤ res.status then
      let (code, message) := errorBody parse res
      (events, .error ⟨res.status, code, message⟩)
    else (events, .ok ())

/-! ## Frames are found again -/

theorem receivePieces_eq (parse : JsonParser) (loads : Nat) (buffer : Bytes)
    (pieces : List Bytes) :
    (receivePieces parse none loads buffer pieces).1 =
      (Framing.receive (str "\n\n") buffer pieces).1.filterMap (frameEvent parse) := by
  induction pieces generalizing loads buffer with
  | nil => rfl
  | cons piece pieces ih =>
    rw [receivePieces, Framing.receive, List.filterMap_append, ← ih (loads + 2)]
    rfl

/-- Without a flag, every frame of the body is looked at. -/
theorem subscribe_events (parse : JsonParser) (pieces : List Bytes)
    (result : Except Bytes RemoteResponse) :
    (subscribe parse none pieces result).1 =
      (Framing.receive (str "\n\n") [] pieces).1.filterMap (frameEvent parse) := by
  rw [← receivePieces_eq parse 0 [] pieces]
  unfold subscribe
  cases result with
  | error text => rfl
  | ok res =>
    dsimp only
    split_ifs
    · rfl
    · rfl

/-- A frame without the empty line after it. -/
def framePayload (jsonLine : Option Bytes) : Bytes :=
  match jsonLine with
  | some line => str "data: " ++ line
  | none => str ": keep-alive"

theorem streamFrame_eq (jsonLine : Option Bytes) :
    streamFrame jsonLine = framePayload jsonLine ++ str "\n\n" := by
  cases jsonLine with
  | none => rfl
  | some line => rfl

variable {grisu2 : Rat → Bytes × Int}

theorem sendable_document (d : Document) : d.json.stored.Sendable :=
  Json.sendable_stored d.json d.utf8 d.inRange

/-- No frame has an end of line inside. -/
theorem not_mem_framePayload (hg : Grisu2Correct grisu2) (item : Option Document) :
    (10 : UInt8) ∉ framePayload (item.map fun d => d.json.stored.text grisu2) := by
  intro hmem
  cases item with
  | none =>
    have hcomment : (10 : UInt8) ∉ str ": keep-alive" := by decide
    exact hcomment hmem
  | some d =>
    rcases List.mem_append.mp hmem with h | h
    · exact absurd h (by decide)
    · exact absurd (Json.printable_text hg _ (sendable_document d) 10 h) (by decide)

/-- What a frame gives the callback: the document, or nothing for a comment. -/
theorem frameEvent_framePayload (hg : Grisu2Correct grisu2) (item : Option Document) :
    frameEvent parseJson (framePayload (item.map fun d => d.json.stored.text grisu2)) =
      item.map fun d => d.json.stored.received := by
  cases item with
  | none => rfl
  | some d =>
    have hdrop : (str "data: " ++ d.json.stored.text grisu2).drop 6 = d.json.stored.text grisu2 :=
      rfl
    show frameEvent parseJson (str "data: " ++ d.json.stored.text grisu2) = _
    rw [frameEvent, if_pos (List.prefix_append _ _), hdrop,
      parseJson_text hg (sendable_document d)]
    rfl

/-- What the client hears of a stream, however its bytes are cut. -/
theorem subscribe_streamText (hg : Grisu2Correct grisu2) (items : List (Option Document))
    {pieces : List Bytes} (hpieces : pieces.flatten = streamText grisu2 items)
    (result : Except Bytes RemoteResponse) :
    (subscribe parseJson none pieces result).1 =
      items.reduceOption.map fun d => d.json.stored.received := by
  have hsent : pieces.flatten =
      (items.map fun item => framePayload (item.map fun d => d.json.stored.text grisu2)).flatMap
        fun frame => frame ++ (10 :: [10]) := by
    rw [hpieces, streamText, List.flatMap_map]
    congr 1
    funext item
    exact streamFrame_eq _
  have hclean : ∀ frame ∈ items.map fun item =>
      framePayload (item.map fun d => d.json.stored.text grisu2), (10 : UInt8) ∉ frame := by
    intro frame hframe
    obtain ⟨item, -, rfl⟩ := List.mem_map.mp hframe
    exact not_mem_framePayload hg item
  have hevents : (frameEvent parseJson ∘ fun item : Option Document =>
      framePayload (item.map fun d => d.json.stored.text grisu2)) =
      fun item => item.map fun d => d.json.stored.received :=
    funext fun item => frameEvent_framePayload hg item
  rw [subscribe_events, show str "\n\n" = 10 :: [10] from rfl,
    Framing.receive_frames hclean hsent, List.filterMap_map, hevents, ← List.reduceOption_map]
  show _ = (items.map (Option.map fun d => d.json.stored.received)).filterMap id
  rw [List.filterMap_map]
  rfl

/-- The callback is called once for each document, in order, with that document as it can
be written, and not for a comment. -/
theorem subscribe_delivers (hg : Grisu2Correct grisu2) (items : List (Option Document))
    {pieces : List Bytes} (hpieces : pieces.flatten = streamText grisu2 items)
    (result : Except Bytes RemoteResponse) :
    (subscribe parseJson none pieces result).1 =
        items.reduceOption.map (fun d => d.json.stored.received) ∧
      ((∀ d ∈ items.reduceOption, d.json.stored.Finite) →
        (subscribe parseJson none pieces result).1 =
          items.reduceOption.map fun d => d.json.stored) := by
  have hall := subscribe_streamText hg items hpieces result
  refine ⟨hall, ?_⟩
  intro hfinite
  rw [hall]
  apply List.map_congr_left
  intro d hd
  exact Json.received_of_finite _ (hfinite d hd)

/-- A poll that reads 12.5. -/
def reading : Document where
  json := .obj [(str "value", .float (.fin (25 / 2))), (str "unit", .str (str "V"))]
  inRange := by
    rw [Json.InRange, Json.InRangeMembers, Json.InRangeMembers, Json.InRangeMembers, Json.InRange]
    refine ⟨⟨25, -1, by decide, by decide, by decide, by norm_num⟩, ?_, trivial⟩
    rw [Json.InRange] <;> simp
  utf8 := by decide

/-- Two documents and a comment between them, cut inside an empty line and inside a document. -/
theorem subscribe_delivers_cut :
    (subscribe parseJson none
      [str "data: \x7b\"unit\":\"V\",\"value\":12.5\x7d\n",
        str "\n: keep-alive\n\ndata: \x7b\"unit\":\"V\",\"val", str "ue\":12.5\x7d\n\n"]
      (.ok ⟨200, [], []⟩)).1 =
    List.replicate 2 (.obj [(str "unit", .str (str "V")), (str "value", .float (.fin (25 / 2)))]) :=
  (subscribe_delivers allDigits_correct [some reading, none, some reading] (by decide +kernel)
    (.ok ⟨200, [], []⟩)).1

/-- A poll that reads 1 through a catalog with an infinite scale. -/
def infiniteReading : Document where
  json := streamBody (str "t") (dataReadOutcome (fun n => n) (str "t")
    (some { id := str "t", type := .float, encoding := { bytes := 1, scale := .inf false } })
    .ok [1])
  inRange := by
    show Json.InRange (.obj [(str "id", .str (str "t")), (str "did", .str (str "0000")),
      (str "value", .float (.inf false))])
    simp [Json.InRange, Json.InRangeMembers]
  utf8 := by decide

/-- An infinite number does not arrive. -/
theorem subscribe_infinite :
    (subscribe parseJson none [streamText allDigits [some infiniteReading]]
      (.ok ⟨200, [], []⟩)).1 ≠ [infiniteReading.json.stored] := by
  have hstored : infiniteReading.json.stored = .obj [(str "did", .str (str "0000")),
      (str "id", .str (str "t")), (str "value", .float (.inf false))] := rfl
  intro h
  rw [subscribe_streamText allDigits_correct [some infiniteReading] (List.append_nil _)] at h
  have heq : infiniteReading.json.stored.received = infiniteReading.json.stored :=
    (List.cons.inj h).1
  rw [hstored] at heq
  simp [Json.received, Json.receivedMembers] at heq

end SovdClient

end Sovd
