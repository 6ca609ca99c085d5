import Sovd.Lib.ChunkedStream
import Sovd.Uds.DoipTransport

/-!
# TCP segmentation does not matter (`DoipTransport` over `recv`)

The model of the transport reads from a script of bytes. Here it reads from a socket whose
bytes come in chunks, as `recv` returns them, and does the same: sockets that `readExact`
cannot tell apart (`ReadsAlike`) are not told apart by a reader or a call either, and a
socket in chunks is read like its script. So two sockets that deliver the same bytes cannot
be told apart by any sequence of calls (`segmentation_irrelevant`).

Mirroring notes vs the C++:
- The peer closes after its last byte, so a `recv` at the end returns 0. It neither times
  out nor fails.
- `before` and `after` of a `CallRecord` are what is still to be delivered, so that their
  difference is what the call consumed.
-/

namespace Sovd

open StreamEvent

/-! ## Sockets that read alike -/

section Alike

variable {S S' : Type} {readExact : ℕ → S → ReadResult × List WireByte × S}
  {readExact' : ℕ → S' → ReadResult × List WireByte × S'} {f : S → S'}

/-- What is made of a socket is made of its image, and leaves the image of what it leaves. -/
def ReadsAs {α : Type} (f : S → S') (onImage : α × S') (onSocket : α × S) : Prop :=
  onImage = (onSocket.1, f onSocket.2)

/-- Reading from the image is reading from the socket. -/
def ReadsAlike (readExact : ℕ → S → ReadResult × List WireByte × S)
    (readExact' : ℕ → S' → ReadResult × List WireByte × S') (f : S → S') : Prop :=
  ∀ n s, readExact' n (f s) =
    ((readExact n s).1, (readExact n s).2.1, f (readExact n s).2.2)

/-- Reads that are alike wait for the activation alike. -/
theorem ReadsAlike.awaitActivationBy (h : ReadsAlike readExact readExact' f) (s : S) :
    ReadsAs f (awaitActivationBy readExact' (f s)) (awaitActivationBy readExact s) := by
  unfold ReadsAs Sovd.awaitActivationBy
  rw [h]
  rcases readExact kHeaderSize s with ⟨rr, hdr, s₁⟩
  cases rr with
  | ok =>
    dsimp only
    cases decodeHeader (vals hdr) with
    | none => rfl
    | some header =>
      dsimp only
      rw [h]
      split_ifs
      · rfl
      · rfl
      · rcases readExact header.payloadLength s₁ with ⟨rr, payload, s₂⟩
        cases rr with
        | ok =>
          dsimp only
          cases decodeRoutingActivationResponse (vals payload) with
          | none => rfl
          | some resp =>
            dsimp only
            split_ifs <;> rfl
        | _ => rfl
  | _ => rfl

/-- They read a message alike. -/
theorem ReadsAlike.readDiagnosticMessageBy (h : ReadsAlike readExact readExact' f)
    (cfg : TransportConfig) (source : UInt16) (s : S) :
    ReadsAs f (readDiagnosticMessageBy readExact' cfg source (f s))
      (readDiagnosticMessageBy readExact cfg source s) := by
  unfold ReadsAs Sovd.readDiagnosticMessageBy
  rw [h]
  rcases readExact kHeaderSize s with ⟨rr, hdr, s₁⟩
  cases rr with
  | ok =>
    dsimp only
    cases decodeHeader (vals hdr) with
    | none => rfl
    | some header =>
      dsimp only
      rw [h]
      split_ifs
      · rfl
      · rfl
      · rcases readExact header.payloadLength s₁ with ⟨rr, payload, s₂⟩
        cases rr with
        | ok =>
          dsimp only
          cases decodeDiagnosticMessage (vals payload) with
          | none => rfl
          | some msg =>
            dsimp only
            split_ifs <;> rfl
        | _ => rfl
  | _ => rfl

/-- They receive an answer alike. -/
theorem ReadsAlike.receiveAnswerBy (h : ReadsAlike readExact readExact' f)
    (cfg : TransportConfig) (target : UInt16) (s : S) :
    ReadsAs f (receiveAnswerBy readExact' cfg target (f s))
      (receiveAnswerBy readExact cfg target s) := by
  unfold ReadsAs Sovd.receiveAnswerBy
  rw [h]
  rcases readExact kHeaderSize s with ⟨rr, hdr, s₁⟩
  cases rr with
  | ok =>
    dsimp only
    cases decodeHeader (vals hdr) with
    | none => rfl
    | some header =>
      dsimp only
      rw [h]
      split
      · rfl
      · rcases readExact header.payloadLength s₁ with ⟨rr, payload, s₂⟩
        cases rr with
        | ok =>
          dsimp only
          split_ifs
          · rfl
          · rfl
          · exact h.readDiagnosticMessageBy cfg target s₂
        | _ => rfl
  | _ => rfl

/-- The transport over the image of its socket. -/
def TransportOn.map (f : S → S') (t : TransportOn S) : TransportOn S' :=
  ⟨t.sock.map f, t.written⟩

/-- So a transport over one connects as it would over the other. -/
theorem ReadsAlike.connect (h : ReadsAlike readExact readExact' f) (cfg : TransportConfig)
    (dial : Dial) (sent : Bool) (fresh : S) (t : TransportOn S) :
    TransportOn.connect readExact' cfg dial sent (f fresh) (t.map f) =
      ((TransportOn.connect readExact cfg dial sent fresh t).1,
        (TransportOn.connect readExact cfg dial sent fresh t).2.map f) := by
  unfold TransportOn.connect
  have hconnected : (t.map f).isConnected = t.isConnected := Option.isSome_map
  rw [hconnected, h.awaitActivationBy fresh]
  split_ifs
  · rfl
  · rfl
  · rfl
  · rcases Sovd.awaitActivationBy readExact fresh with ⟨r, s⟩
    cases r <;> rfl

/-- A call on a connected transport. -/
inductive TransportCall
  | sendAndReceive (target : UInt16) (requestSent : Bool) (udsRequest : Bytes)
  | receivePendingResponse (expectedSource : UInt16)

/-- One call. -/
def TransportOn.perform (readExact : ℕ → S → ReadResult × List WireByte × S)
    (cfg : TransportConfig) (t : TransportOn S) :
    TransportCall → Except TransportError Received × TransportOn S
  | .sendAndReceive target requestSent udsRequest =>
    t.sendAndReceive readExact cfg target requestSent udsRequest
  | .receivePendingResponse expectedSource => t.receivePendingResponse readExact cfg expectedSource

/-- Every call on it ends alike. -/
theorem ReadsAlike.perform (h : ReadsAlike readExact readExact' f) (cfg : TransportConfig)
    (call : TransportCall) (t : TransportOn S) :
    (t.map f).perform readExact' cfg call =
      ((t.perform readExact cfg call).1, (t.perform readExact cfg call).2.map f) := by
  obtain ⟨sock, written⟩ := t
  cases call with
  | sendAndReceive target sent req =>
    cases sock with
    | none => rfl
    | some s =>
      simp only [TransportOn.perform, TransportOn.sendAndReceive, TransportOn.map, Option.map_some]
      rw [h.receiveAnswerBy]
      split_ifs <;> rfl
  | receivePendingResponse source =>
    cases sock with
    | none => rfl
    | some s =>
      simp only [TransportOn.perform, TransportOn.receivePendingResponse, TransportOn.map,
        Option.map_some]
      rw [h.readDiagnosticMessageBy]

end Alike

/-! ## The socket of a peer, and its script -/

/-- A connected socket: what the peer sends before it closes, in chunks. -/
abbrev Socket := Chunked WireByte

namespace Socket

/-- No reader sees the chunks. -/
theorem readsAlike : ReadsAlike Chunked.readExact StreamEvent.readExact
    (Chunked.script : Socket → Wire) :=
  fun n s => s.readExact_script n

/-- The wait for the activation, over chunks. -/
def awaitActivation (s : Socket) : Except TransportError Unit × Socket :=
  awaitActivationBy Chunked.readExact s

/-- One message, over chunks. -/
def readDiagnosticMessage (cfg : TransportConfig) (expectedSource : UInt16) (s : Socket) :
    Except TransportError Received × Socket :=
  readDiagnosticMessageBy Chunked.readExact cfg expectedSource s

/-- One answer, over chunks. -/
def receiveAnswer (cfg : TransportConfig) (target : UInt16) (s : Socket) :
    Except TransportError Received × Socket :=
  receiveAnswerBy Chunked.readExact cfg target s

/-- It reads what is read over the script of the chunks. -/
theorem mirrors_awaitActivation (s : Socket) :
    ReadsAs Chunked.script (Sovd.awaitActivation s.script) s.awaitActivation :=
  readsAlike.awaitActivationBy s

/-- One message read over chunks mirrors it read over their script. -/
theorem mirrors_readDiagnosticMessage (cfg : TransportConfig) (source : UInt16) (s : Socket) :
    ReadsAs Chunked.script (Sovd.readDiagnosticMessage cfg source s.script)
      (readDiagnosticMessage cfg source s) :=
  readsAlike.readDiagnosticMessageBy cfg source s

theorem mirrors_receiveAnswer (cfg : TransportConfig) (target : UInt16) (s : Socket) :
    ReadsAs Chunked.script (Sovd.receiveAnswer cfg target s.script) (receiveAnswer cfg target s) :=
  readsAlike.receiveAnswerBy cfg target s

/-- What a script loses at its front, the socket does. -/
theorem items_of_script {s s' : Socket} {bs : List WireByte}
    (h : s.script = ofItems bs ++ s'.script) : s.items = bs ++ s'.items := by
  rw [Chunked.script, Chunked.script, ← List.append_assoc, ← ofItems_append] at h
  exact ofItems_injective (List.append_cancel_right h)

/-- A script that is used up to some place leaves its items from there. -/
theorem items_suffix {s s' : Socket} (h : s'.script <:+ s.script) : s'.items <:+ s.items := by
  have hitems : ∀ c : Socket, StreamEvent.items c.script = c.items := by
    intro c
    rw [Chunked.script, items_append, items_ofItems]
    exact List.append_nil c.items
  rw [← hitems s, ← hitems s']
  exact h.filterMap item?

end Socket

/-! ## The transport, on a socket -/

/-- The transport whose socket comes in chunks. -/
abbrev ChunkedTransport := TransportOn Socket

namespace ChunkedTransport

/-- `connect`, over chunks. -/
def connect (cfg : TransportConfig) (dial : Dial) (activationSent : Bool) (fresh : Socket)
    (t : ChunkedTransport) : Except TransportError Unit × ChunkedTransport :=
  TransportOn.connect Chunked.readExact cfg dial activationSent fresh t

/-- One call, over chunks. -/
def perform (cfg : TransportConfig) (t : ChunkedTransport) (call : TransportCall) :
    Except TransportError Received × ChunkedTransport :=
  TransportOn.perform Chunked.readExact cfg t call

/-- What the connection will still deliver. -/
def items (t : ChunkedTransport) : List WireByte := (t.sock.map Chunked.items).getD []

/-- The transport over the script of its chunks. -/
def script (t : ChunkedTransport) : DoipTransport := t.map Chunked.script

/-- A connect over chunks is one over their script. -/
theorem connect_script (cfg : TransportConfig) (dial : Dial) (sent : Bool) (fresh : Socket)
    (t : ChunkedTransport) :
    t.script.connect cfg dial sent fresh.script =
      ((t.connect cfg dial sent fresh).1, (t.connect cfg dial sent fresh).2.script) :=
  Socket.readsAlike.connect cfg dial sent fresh t

/-- A call over chunks is one over their script. -/
theorem perform_script (cfg : TransportConfig) (call : TransportCall) (t : ChunkedTransport) :
    t.script.perform StreamEvent.readExact cfg call =
      ((t.perform cfg call).1, (t.perform cfg call).2.script) :=
  Socket.readsAlike.perform cfg call t

/-- What is still to come is in the script. -/
theorem items_eq_of_script {t t' : ChunkedTransport} (h : t.script = t'.script) :
    t.items = t'.items := by
  have hsock : t.sock.map Chunked.script = t'.sock.map Chunked.script :=
    congrArg TransportOn.sock h
  unfold items
  cases hs : t.sock with
  | none =>
    rw [hs, Option.map_none] at hsock
    rw [Option.map_eq_none_iff.mp hsock.symm]
  | some s =>
    rw [hs, Option.map_some] at hsock
    obtain ⟨s', hs', heq⟩ := Option.map_eq_some_iff.mp hsock.symm
    rw [hs']
    exact Chunked.script_inj.mp heq.symm

end ChunkedTransport

/-! ## A session -/

/-- What a call returned, and what was to be delivered before and after it. -/
structure CallRecord (α : Type) where
  result : Except TransportError α
  before : List WireByte
  after : List WireByte

/-- `connect` on a new socket. Where it fails the socket is gone, but not what was read. -/
def connectRecord (cfg : TransportConfig) (dial : Dial) (sent : Bool) (fresh : Socket) :
    CallRecord Unit where
  result := (ChunkedTransport.connect cfg dial sent fresh {}).1
  before := fresh.items
  after := if dial = .established ∧ sent = true then fresh.awaitActivation.2.items else fresh.items

/-- Calls one after the other, and their records. -/
def callRecords (cfg : TransportConfig) :
    ChunkedTransport → List TransportCall → List (TransportCall × CallRecord Received)
  | _, [] => []
  | t, call :: calls =>
    let (r, t') := t.perform cfg call
    (call, ⟨r, t.items, t'.items⟩) :: callRecords cfg t' calls

/-- What is seen of a connection, from the connect to the last call. -/
structure Session where
  activation : CallRecord Unit
  calls : List (TransportCall × CallRecord Received)

/-- A connect and the calls after it. -/
def session (cfg : TransportConfig) (dial : Dial) (sent : Bool) (fresh : Socket)
    (calls : List TransportCall) : Session where
  activation := connectRecord cfg dial sent fresh
  calls := callRecords cfg (ChunkedTransport.connect cfg dial sent fresh {}).2 calls

/-- The frames a call reports on when it returns `r`. -/
def TransportCall.Frames (cfg : TransportConfig) (r : Received) (frames : List WireByte) :
    TransportCall → Prop
  | .sendAndReceive target _ _ =>
    ∃ ack payload, IsFrame .diagnosticMessagePositiveAck payload ack ∧
      IsDiagnostic cfg target r ∧ frames = ack ++ r.frame
  | .receivePendingResponse source => IsDiagnostic cfg source r ∧ frames = r.frame

/-- Calls consume from the front; those that succeed, what they report on. -/
structure Session.TakesFrames (cfg : TransportConfig) (s : Session) : Prop where
  activation_suffix : s.activation.after <:+ s.activation.before
  activation_frame : s.activation.result = .ok () →
    ∃ act, IsActivation act ∧ s.activation.before = act ++ s.activation.after
  calls_suffix : ∀ c ∈ s.calls, c.2.after <:+ c.2.before
  calls_frames : ∀ c ∈ s.calls, ∀ r, c.2.result = .ok r →
    ∃ frames, c.1.Frames cfg r frames ∧ c.2.before = frames ++ c.2.after

section

variable {cfg : TransportConfig} {dial : Dial} {sent : Bool}

/-- Transports that the same bytes are coming to make the same records. -/
theorem callRecords_eq_of_script {t t' : ChunkedTransport} (h : t.script = t'.script)
    (calls : List TransportCall) : callRecords cfg t calls = callRecords cfg t' calls := by
  induction calls generalizing t t' with
  | nil => rfl
  | cons call calls ih =>
    have hstep := t.perform_script cfg call
    rw [h, t'.perform_script cfg call] at hstep
    obtain ⟨hresult, hscript⟩ := Prod.mk.inj hstep
    simp only [callRecords]
    rw [ih hscript.symm, hresult, ChunkedTransport.items_eq_of_script h,
      ChunkedTransport.items_eq_of_script hscript]

/-- A call uses its items up from the front. -/
theorem suffix_of_perform (call : TransportCall) (t : ChunkedTransport) :
    (t.perform cfg call).2.items <:+ t.items := by
  obtain ⟨sock, written⟩ := t
  cases sock with
  | none => cases call <;> exact List.suffix_refl _
  | some s =>
    cases call with
    | sendAndReceive target sent req =>
      cases sent with
      | false => exact List.suffix_refl _
      | true =>
        have hsuffix := receiveAnswer_suffix cfg target s.script
        rw [s.mirrors_receiveAnswer] at hsuffix
        exact Socket.items_suffix hsuffix
    | receivePendingResponse source =>
      have hsuffix := readDiagnosticMessage_suffix cfg source s.script
      rw [s.mirrors_readDiagnosticMessage] at hsuffix
      exact Socket.items_suffix hsuffix

/-- An answer that was received is the frames that were used up for it. -/
theorem frames_of_perform {call : TransportCall} {t : ChunkedTransport} {r : Received}
    (h : (t.perform cfg call).1 = .ok r) :
    ∃ frames, call.Frames cfg r frames ∧ t.items = frames ++ (t.perform cfg call).2.items := by
  obtain ⟨sock, written⟩ := t
  cases sock with
  | none => cases call <;> cases h
  | some s =>
    cases call with
    | sendAndReceive target sent req =>
      cases sent with
      | false => cases h
      | true =>
        have hresult : (s.receiveAnswer cfg target).1 = .ok r := h
        have hread := s.mirrors_receiveAnswer cfg target
        rw [ReadsAs, hresult] at hread
        obtain ⟨ack, payload, hack, hdiag, hscript⟩ := receiveAnswer_eq_ok.mp hread
        exact ⟨ack ++ r.frame, ⟨ack, payload, hack, hdiag, rfl⟩, Socket.items_of_script hscript⟩
    | receivePendingResponse source =>
      have hresult : (s.readDiagnosticMessage cfg source).1 = .ok r := h
      have hread := s.mirrors_readDiagnosticMessage cfg source
      rw [ReadsAs, hresult] at hread
      obtain ⟨hdiag, hscript⟩ := readDiagnosticMessage_eq_ok.mp hread
      exact ⟨r.frame, ⟨hdiag, rfl⟩, Socket.items_of_script hscript⟩

/-- A record is that of a call on some transport. -/
theorem exists_of_mem_callRecords {t : ChunkedTransport} {calls : List TransportCall}
    {c : TransportCall × CallRecord Received} (hc : c ∈ callRecords cfg t calls) :
    ∃ t' : ChunkedTransport,
      c.2 = ⟨(t'.perform cfg c.1).1, t'.items, (t'.perform cfg c.1).2.items⟩ := by
  induction calls generalizing t with
  | nil => cases hc
  | cons call calls ih =>
    rcases List.mem_cons.mp hc with rfl | hc
    · exact ⟨t, rfl⟩
    · exact ih hc

/-- What a connect comes to depends on the items alone. -/
theorem connectRecord_eq_of_items {s s' : Socket} (h : s.items = s'.items) :
    connectRecord cfg dial sent s = connectRecord cfg dial sent s' := by
  have hscript : s.script = s'.script := Chunked.script_inj.mpr h
  have hconnect := ChunkedTransport.connect_script cfg dial sent s {}
  rw [hscript, ChunkedTransport.connect_script] at hconnect
  have hread := s.mirrors_awaitActivation
  rw [ReadsAs, hscript, s'.mirrors_awaitActivation] at hread
  have hleft := Chunked.script_inj.mp (Prod.mk.inj hread).2
  rw [connectRecord, connectRecord, (Prod.mk.inj hconnect).1, h, hleft]

/-- A connect uses its items up from the front. -/
theorem suffix_of_connectRecord (s : Socket) :
    (connectRecord cfg dial sent s).after <:+ (connectRecord cfg dial sent s).before := by
  simp only [connectRecord]
  split_ifs
  · have hsuffix := awaitActivation_suffix s.script
    rw [s.mirrors_awaitActivation] at hsuffix
    exact Socket.items_suffix hsuffix
  · exact List.suffix_refl _

/-- One that succeeds has used up an activation. -/
theorem frame_of_connectRecord {s : Socket} (h : (connectRecord cfg dial sent s).result = .ok ()) :
    ∃ act, IsActivation act ∧
      (connectRecord cfg dial sent s).before = act ++ (connectRecord cfg dial sent s).after := by
  have hconnect := ChunkedTransport.connect_script cfg dial sent s {}
  rw [show (ChunkedTransport.connect cfg dial sent s {}).1 = .ok () from h] at hconnect
  obtain ⟨hdial, hsent, act, w, hact, hscript, -⟩ := (DoipTransport.connect_eq_ok rfl).mp hconnect
  -- the accepted activation is what the exchange has read
  have hread := awaitActivation_eq_ok.mpr ⟨act, hact, hscript⟩
  have hleft := s.mirrors_awaitActivation
  rw [ReadsAs, hread] at hleft
  rw [(Prod.mk.inj hleft).2] at hscript
  refine ⟨act, hact, ?_⟩
  simp only [connectRecord]
  rw [if_pos ⟨hdial, hsent⟩]
  exact Socket.items_of_script hscript

/-- **Segmentation does not matter**: however the bytes of a peer arrive, `connect` and the
calls after it return the same and consume the same; and a call that succeeds consumes
the frames it reports on. -/
theorem segmentation_irrelevant (cfg : TransportConfig) (dial : Dial) (sent : Bool)
    (calls : List TransportCall) {s s' : Socket} (h : s.items = s'.items) :
    session cfg dial sent s calls = session cfg dial sent s' calls ∧
    (session cfg dial sent s calls).TakesFrames cfg := by
  constructor
  · have hconnect := ChunkedTransport.connect_script cfg dial sent s {}
    rw [Chunked.script_inj.mpr h, ChunkedTransport.connect_script] at hconnect
    rw [session, session, connectRecord_eq_of_items h,
      callRecords_eq_of_script (Prod.mk.inj hconnect).2]
  · refine ⟨suffix_of_connectRecord s, frame_of_connectRecord, ?_, ?_⟩
    · intro c hc
      obtain ⟨t, ht⟩ := exists_of_mem_callRecords hc
      rw [ht]
      exact suffix_of_perform c.1 t
    · intro c hc r hr
      obtain ⟨t, ht⟩ := exists_of_mem_callRecords hc
      rw [ht] at hr ⊢
      exact frames_of_perform hr

end

/-- An activation response and a diagnostic message after it. -/
def answeredBytes : List WireByte :=
  (appendHeader .routingActivationResponse 9 ++ [0x0E, 0x00, 0x0E, 0x80, 0x10, 0, 0, 0, 0] ++
    encodeDiagnosticMessage 0x0E80 0x0E00 [0x62, 0xF1, 0x90, 7]).map fun b => ⟨b, 0⟩

/-- The same answer, byte by byte and in one piece. -/
theorem segmentation_irrelevant_two :
    session {} .established true
        ⟨(answeredBytes.map fun b => [b]), by decide⟩ [.receivePendingResponse 0x0E80] =
      session {} .established true ⟨[answeredBytes], by decide⟩ [.receivePendingResponse 0x0E80] :=
  (segmentation_irrelevant {} .established true _ (by decide)).1

end Sovd
