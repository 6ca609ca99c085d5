import Sovd.Lib.FaultyStream
import Sovd.Uds.DoipProtocol

/-!
# `DoipTransport`: one TCP connection to a gateway (`doip_transport.cpp`)

The transport owns a socket, and only `read_exact` reads from it: the readers and
the calls are written over that (`TransportOn`). Here the socket is what the peer
will deliver on it, a script of labelled bytes (`Wire`), so that every delay, every
partial frame and every way a connection ends is a script. A read consumes what it
read even when it fails: nothing here puts bytes back.

Each reader has one lemma that says when it succeeds, in terms of the frames at
the head of the script (`readDiagnosticMessage_eq_ok`, `receiveAnswer_eq_ok`,
`receiveAnswer_eq_nack`, `connect_eq_ok`). They are equivalences, so the many
failure exits are what remains.

Mirroring notes vs the C++:
- `sock_ >= 0` is `sock = some w`, where `w` is what the connection will still
  deliver. `written` records the frames handed to `::send`.
- A byte carries the number of the call it was sent in answer to. The label is a
  ghost: only `val` is ever read. `Received.frame` is a ghost too (the frame the
  UDS payload was cut from).
- The system calls that decide whether `connect` gets a socket are one outcome
  (`Dial`), and a `::send` of the whole frame is a Boolean.
-/

namespace Sovd

open StreamEvent

/-- `kMaxPayloadLength` -/
def kMaxPayloadLength : Nat := 64 * 1024

/-- What a call of the transport can fail with. -/
inductive TransportError
  | connectFailed
  | routingActivationFailed
  | timeout
  | malformedFrame
  | connectionClosed
  | negativeAck
  deriving DecidableEq, Repr

/-- The errors after which the position in the stream is not known any more. -/
def TransportError.isLoss : TransportError → Bool
  | timeout => true
  | malformedFrame => true
  | connectionClosed => true
  | _ => false

/-- `DoipTransportConfig`, the part that is written on the wire. -/
structure TransportConfig where
  testerLogicalAddress : UInt16 := 0x0E00

/-- A byte the peer sent, and the number of the call it answers. -/
structure WireByte where
  val : UInt8
  answers : Nat
  deriving DecidableEq, Repr

/-- What a connection will still deliver. -/
abbrev Wire := List (StreamEvent WireByte)

/-- The bytes of a frame, without what they answer. -/
def vals (bs : List WireByte) : Bytes := bs.map WireByte.val

/-- The bytes of two frames. -/
@[simp] theorem vals_append (bs cs : List WireByte) : vals (bs ++ cs) = vals bs ++ vals cs :=
  List.map_append

@[simp] theorem vals_length (bs : List WireByte) : (vals bs).length = bs.length :=
  List.length_map ..

/-- A UDS response and the frame it came in. -/
structure Received where
  frame : List WireByte
  uds : Bytes
  deriving DecidableEq, Repr

/-- A transport over a socket of type `S`. -/
structure TransportOn (S : Type) where
  sock : Option S := none
  written : List Bytes := []
  deriving DecidableEq, Repr

/-- The transport whose socket is a script. -/
abbrev DoipTransport := TransportOn Wire

/-- How far `connect` gets before it has a socket to send on. -/
inductive Dial
  | noSocket
  | badAddress
  | refused
  | selectTimeout
  | socketError
  | established
  deriving DecidableEq, Repr

/-- `recv` returned 0 or failed: a timeout is told apart, the rest is a closed connection. -/
def readError : ReadResult → TransportError
  | .timeout => .timeout
  | _ => .connectionClosed

/-! ## The readers and the calls, over any socket -/

section Socket

variable {S : Type} (readExact : ℕ → S → ReadResult × List WireByte × S)

/-- The part of `connect` that waits for the routing activation response. -/
def awaitActivationBy (s : S) : Except TransportError Unit × S :=
  match readExact kHeaderSize s with
  | (.ok, hdr, s) =>
    match decodeHeader (vals hdr) with
    | none => (.error .malformedFrame, s)
    | some header =>
      if header.payloadType ≠ .routingActivationResponse then (.error .malformedFrame, s)
      else if header.payloadLength > kMaxPayloadLength then (.error .malformedFrame, s)
      else
        match readExact header.payloadLength s with
        | (.ok, payload, s) =>
          match decodeRoutingActivationResponse (vals payload) with
          | none => (.error .malformedFrame, s)
          | some resp =>
            if resp.responseCode ≠ 0x10 then (.error .routingActivationFailed, s) else (.ok (), s)
        | (_, _, s) => (.error .timeout, s)
  -- a closed connection is reported as a timeout here, unlike in the other readers
  | (_, _, s) => (.error .timeout, s)

/-- `read_diagnostic_message`: one diagnostic message from `expectedSource`. -/
def readDiagnosticMessageBy (cfg : TransportConfig) (expectedSource : UInt16) (s : S) :
    Except TransportError Received × S :=
  match readExact kHeaderSize s with
  | (.ok, hdr, s) =>
    match decodeHeader (vals hdr) with
    | none => (.error .malformedFrame, s)
    | some header =>
      if header.payloadLength > kMaxPayloadLength then (.error .malformedFrame, s)
      else if header.payloadType ≠ .diagnosticMessage then (.error .malformedFrame, s)
      else
        match readExact header.payloadLength s with
        | (.ok, payload, s) =>
          match decodeDiagnosticMessage (vals payload) with
          | none => (.error .malformedFrame, s)
          | some msg =>
            if msg.sourceAddress ≠ expectedSource ∨
                msg.targetAddress ≠ cfg.testerLogicalAddress then (.error .malformedFrame, s)
            else (.ok ⟨hdr ++ payload, msg.udsPayload⟩, s)
        | (rr, _, s) => (.error (readError rr), s)
  | (rr, _, s) => (.error (readError rr), s)

/-- The part of `send_and_receive` after the request is sent: the ack or nack
of the request, then the UDS response. -/
def receiveAnswerBy (cfg : TransportConfig) (target : UInt16) (s : S) :
    Except TransportError Received × S :=
  match readExact kHeaderSize s with
  | (.ok, hdr, s) =>
    match decodeHeader (vals hdr) with
    | none => (.error .malformedFrame, s)
    | some header =>
      if header.payloadLength > kMaxPayloadLength then (.error .malformedFrame, s)
      else
        match readExact header.payloadLength s with
        | (.ok, _, s) =>
          -- the payload of an ack is read and not looked at
          if header.payloadType = .diagnosticMessageNegativeAck then (.error .negativeAck, s)
          else if header.payloadType ≠ .diagnosticMessagePositiveAck then
            (.error .malformedFrame, s)
          else readDiagnosticMessageBy readExact cfg target s
        | (rr, _, s) => (.error (readError rr), s)
  | (rr, _, s) => (.error (readError rr), s)

namespace TransportOn

/-- `is_connected` -/
def isConnected (t : TransportOn S) : Bool := t.sock.isSome

/-- `disconnect` -/
def disconnect (t : TransportOn S) : TransportOn S := { t with sock := none }

/-- `fresh` is what a new connection delivers. Every failure closes it again. -/
def connect (cfg : TransportConfig) (dial : Dial) (activationSent : Bool) (fresh : S)
    (t : TransportOn S) : Except TransportError Unit × TransportOn S :=
  if t.isConnected then (.ok (), t)
  else if dial ≠ .established then (.error .connectFailed, t)
  else
    let t := { t with
      written := t.written ++ [encodeRoutingActivationRequest cfg.testerLogicalAddress 0x00] }
    if !activationSent then (.error .connectFailed, t.disconnect)
    else
      match awaitActivationBy readExact fresh with
      | (.ok (), s) => (.ok (), { t with sock := some s })
      | (.error e, _) => (.error e, t.disconnect)

/-- Writes the request and waits for its answer. -/
def sendAndReceive (cfg : TransportConfig) (target : UInt16) (requestSent : Bool)
    (udsRequest : Bytes) (t : TransportOn S) : Except TransportError Received × TransportOn S :=
  match t.sock with
  | none => (.error .connectionClosed, t)
  | some s =>
    let t := { t with
      written := t.written ++ [encodeDiagnosticMessage cfg.testerLogicalAddress target udsRequest] }
    if !requestSent then (.error .connectionClosed, t)
    else
      let (r, s) := receiveAnswerBy readExact cfg target s
      (r, { t with sock := some s })

/-- A further message, with no request. -/
def receivePendingResponse (cfg : TransportConfig) (expectedSource : UInt16)
    (t : TransportOn S) : Except TransportError Received × TransportOn S :=
  match t.sock with
  | none => (.error .connectionClosed, t)
  | some s =>
    let (r, s) := readDiagnosticMessageBy readExact cfg expectedSource s
    (r, { t with sock := some s })

end TransportOn

end Socket

/-! ## The same on a script -/

/-- The wait for the activation, over a script. -/
def awaitActivation (w : Wire) : Except TransportError Unit × Wire :=
  awaitActivationBy readExact w

/-- One message, over a script. -/
def readDiagnosticMessage (cfg : TransportConfig) (expectedSource : UInt16) (w : Wire) :
    Except TransportError Received × Wire :=
  readDiagnosticMessageBy readExact cfg expectedSource w

/-- One answer, over a script. -/
def receiveAnswer (cfg : TransportConfig) (target : UInt16) (w : Wire) :
    Except TransportError Received × Wire :=
  receiveAnswerBy readExact cfg target w

/-- `connect`, over a script. -/
def DoipTransport.connect (cfg : TransportConfig) (dial : Dial) (activationSent : Bool)
    (fresh : Wire) (t : DoipTransport) : Except TransportError Unit × DoipTransport :=
  TransportOn.connect readExact cfg dial activationSent fresh t

/-- `send_and_receive`, over a script. -/
def DoipTransport.sendAndReceive (cfg : TransportConfig) (target : UInt16) (requestSent : Bool)
    (udsRequest : Bytes) (t : DoipTransport) : Except TransportError Received × DoipTransport :=
  TransportOn.sendAndReceive readExact cfg target requestSent udsRequest t

/-- `receive_pending_response`, over a script. -/
def DoipTransport.receivePendingResponse (cfg : TransportConfig) (expectedSource : UInt16)
    (t : DoipTransport) : Except TransportError Received × DoipTransport :=
  TransportOn.receivePendingResponse readExact cfg expectedSource t

/-- The readers over a script are the readers. -/
theorem awaitActivationBy_wire (w : Wire) : awaitActivationBy readExact w = awaitActivation w :=
  rfl

/-- Reading a message over a script is reading it. -/
theorem readDiagnosticMessageBy_wire (cfg : TransportConfig) (source : UInt16) (w : Wire) :
    readDiagnosticMessageBy readExact cfg source w = readDiagnosticMessage cfg source w :=
  rfl

/-- Receiving an answer over a script is receiving it. -/
theorem receiveAnswerBy_wire (cfg : TransportConfig) (target : UInt16) (w : Wire) :
    receiveAnswerBy readExact cfg target w = receiveAnswer cfg target w :=
  rfl

/-! ## Frames at the head of a script -/

/-- `f` is a frame of type `t` that the reader takes, with this payload. -/
def IsFrame (t : PayloadType) (payload : Bytes) (f : List WireByte) : Prop :=
  vals f = appendHeader t payload.length ++ payload ∧ payload.length ≤ kMaxPayloadLength

/-- `r` came in a diagnostic message from `source` to this tester. -/
def IsDiagnostic (cfg : TransportConfig) (source : UInt16) (r : Received) : Prop :=
  IsFrame .diagnosticMessage
    (appendU16 source ++ appendU16 cfg.testerLogicalAddress ++ r.uds) r.frame

/-- A frame at the head of a script is read as its header and its payload. -/
theorem IsFrame.reads {t : PayloadType} {payload : Bytes} {f : List WireByte}
    (h : IsFrame t payload f) (w : Wire) :
    ∃ hdr body, f = hdr ++ body ∧ vals body = payload ∧
      readExact kHeaderSize (ofItems f ++ w) = (.ok, hdr, ofItems body ++ w) ∧
      decodeHeader (vals hdr) = some ⟨t, payload.length⟩ ∧
      readExact payload.length (ofItems body ++ w) = (.ok, body, w) := by
  obtain ⟨hv, hle⟩ := h
  have hsplit : f = f.take kHeaderSize ++ f.drop kHeaderSize := (List.take_append_drop ..).symm
  have hlen : f.length = kHeaderSize + payload.length := by
    rw [← vals_length, hv, List.length_append, appendHeader_length]
  have hhdr : (f.take kHeaderSize).length = kHeaderSize := by
    rw [List.length_take, hlen]
    omega
  rw [hsplit, vals_append] at hv
  obtain ⟨hvh, hvb⟩ := List.append_inj hv (by rw [vals_length, hhdr, appendHeader_length])
  refine ⟨_, _, hsplit, hvb, ?_, ?_, ?_⟩
  · refine readExact_eq_ok.mpr ⟨?_, hhdr⟩
    rw [← List.append_assoc, ← ofItems_append, ← hsplit]
  · rw [hvh, ← List.append_nil (appendHeader _ _)]
    exact decodeHeader_append t (by unfold kMaxPayloadLength at hle; omega) []
  · refine readExact_eq_ok.mpr ⟨rfl, ?_⟩
    rw [← vals_length, hvb]

/-- What a header and a payload were read as is a frame. -/
theorem isFrame_of_reads {w w₁ w₂ : Wire} {hdr body : List WireByte} {h : Header}
    (h₁ : readExact kHeaderSize w = (.ok, hdr, w₁)) (hd : decodeHeader (vals hdr) = some h)
    (hle : h.payloadLength ≤ kMaxPayloadLength)
    (h₂ : readExact h.payloadLength w₁ = (.ok, body, w₂)) :
    IsFrame h.payloadType (vals body) (hdr ++ body) ∧ w = ofItems (hdr ++ body) ++ w₂ := by
  obtain ⟨rfl, hl₁⟩ := readExact_eq_ok.mp h₁
  obtain ⟨rfl, hl₂⟩ := readExact_eq_ok.mp h₂
  have hhdr := decodeHeader_sound hd (by rw [vals_length, hl₁])
  refine ⟨⟨?_, ?_⟩, ?_⟩
  · rw [vals_append, hhdr, vals_length, hl₂]
  · rw [vals_length, hl₂]
    exact hle
  · rw [ofItems_append, List.append_assoc]

/-! ## When each reader succeeds -/

/-- A diagnostic message is returned exactly when one from the right source to
this tester is at the head of the script. -/
theorem readDiagnosticMessage_eq_ok {cfg : TransportConfig} {source : UInt16} {w w' : Wire}
    {r : Received} :
    readDiagnosticMessage cfg source w = (.ok r, w') ↔
      IsDiagnostic cfg source r ∧ w = ofItems r.frame ++ w' := by
  constructor
  · intro h
    unfold readDiagnosticMessage readDiagnosticMessageBy at h
    split at h
    next hdr w₁ h₁ =>
      split at h
      next => simp at h
      next header hd =>
        split_ifs at h with hlen htype
        · simp at h
        · simp at h
        · split at h
          next payload w₂ h₂ =>
            split at h
            next => simp at h
            next msg hmsg =>
              split_ifs at h with haddr
              · simp at h
              · obtain ⟨rfl, rfl⟩ : ⟨hdr ++ payload, msg.udsPayload⟩ = r ∧ w₂ = w' := by
                  simpa using h
                obtain ⟨hf, hw⟩ := isFrame_of_reads h₁ hd (by omega) h₂
                -- the type and both addresses were checked, so they are those of the frame
                refine ⟨?_, hw⟩
                rw [not_or, not_not, not_not] at haddr
                rw [decodeDiagnosticMessage_sound hmsg, not_not.mp htype, haddr.1, haddr.2] at hf
                exact hf
          next => simp at h
    next => simp at h
  · intro h
    obtain ⟨hf, rfl⟩ := h
    have hle := hf.2
    obtain ⟨hdr, body, hfr, hbody, h₁, hd, h₂⟩ := hf.reads w'
    unfold readDiagnosticMessage readDiagnosticMessageBy
    simp only [h₁, hd, if_neg (Nat.not_lt.mpr hle), h₂, hbody, decodeDiagnosticMessage_encode]
    simp [hfr.symm]

/-- The answer to a request is an ack and a diagnostic message after it. -/
theorem receiveAnswer_eq_ok {cfg : TransportConfig} {target : UInt16} {w w' : Wire}
    {r : Received} :
    receiveAnswer cfg target w = (.ok r, w') ↔
      ∃ ack payload, IsFrame .diagnosticMessagePositiveAck payload ack ∧
        IsDiagnostic cfg target r ∧ w = ofItems (ack ++ r.frame) ++ w' := by
  constructor
  · intro h
    unfold receiveAnswer receiveAnswerBy at h
    split at h
    next hdr w₁ h₁ =>
      split at h
      next => simp at h
      next header hd =>
        split at h
        next => simp at h
        next hlen =>
          split at h
          next payload w₂ h₂ =>
            -- refused, neither of the two, or acknowledged: then the answer follows
            split_ifs at h with hneg hpos
            · simp at h
            · simp at h
            · obtain ⟨hf, hw⟩ := isFrame_of_reads h₁ hd (by omega) h₂
              obtain ⟨hdiag, rfl⟩ := readDiagnosticMessage_eq_ok.mp h
              rw [not_not.mp hpos] at hf
              exact ⟨_, _, hf, hdiag, by rw [hw, ofItems_append _ r.frame, List.append_assoc]⟩
          next => simp at h
    next => simp at h
  · intro h
    obtain ⟨ack, payload, hf, hdiag, rfl⟩ := h
    have hle := hf.2
    obtain ⟨hdr, body, -, -, h₁, hd, h₂⟩ := hf.reads (ofItems r.frame ++ w')
    unfold receiveAnswer receiveAnswerBy
    rw [ofItems_append, List.append_assoc]
    simp only [h₁, hd, if_neg (Nat.not_lt.mpr hle), h₂]
    exact readDiagnosticMessage_eq_ok.mpr ⟨hdiag, rfl⟩

/-- A read that fails means a connection that is lost. -/
@[simp] theorem readError_isLoss (rr : ReadResult) : (readError rr).isLoss = true := by
  cases rr <;> rfl

/-- A read of a diagnostic message fails by losing the stream, in no other way. -/
theorem readDiagnosticMessage_error {cfg : TransportConfig} {source : UInt16} {w w' : Wire}
    {e : TransportError} (h : readDiagnosticMessage cfg source w = (.error e, w')) :
    e.isLoss = true := by
  have hmal : ∀ w₁ : Wire,
      ((.error .malformedFrame, w₁) : Except TransportError Received × Wire) = (.error e, w') →
        e.isLoss = true := by
    intro w₁ he
    obtain ⟨rfl, -⟩ : TransportError.malformedFrame = e ∧ w₁ = w' := by simpa using he
    rfl
  have hread : ∀ rr (w₁ : Wire),
      ((.error (readError rr), w₁) : Except TransportError Received × Wire) = (.error e, w') →
        e.isLoss = true := by
    intro rr w₁ he
    obtain ⟨rfl, -⟩ : readError rr = e ∧ w₁ = w' := by simpa using he
    exact readError_isLoss rr
  unfold readDiagnosticMessage readDiagnosticMessageBy at h
  split at h
  next =>
    split at h
    next => exact hmal _ h
    next =>
      split_ifs at h
      · exact hmal _ h
      · exact hmal _ h
      · split at h
        next =>
          split at h
          next => exact hmal _ h
          next =>
            split_ifs at h
            · exact hmal _ h
            · simp at h
        next => exact hread _ _ h
  next => exact hread _ _ h

/-- A request is refused exactly when a negative ack is at the head of the script. -/
theorem receiveAnswer_eq_nack {cfg : TransportConfig} {target : UInt16} {w w' : Wire} :
    receiveAnswer cfg target w = (.error .negativeAck, w') ↔
      ∃ nack payload, IsFrame .diagnosticMessageNegativeAck payload nack ∧
        w = ofItems nack ++ w' := by
  -- a read that fails is a timeout or a lost connection
  have hread : ∀ rr, readError rr ≠ .negativeAck := by
    intro rr
    cases rr <;> simp [readError]
  constructor
  · intro h
    unfold receiveAnswer receiveAnswerBy at h
    split at h
    next hdr w₁ h₁ =>
      split at h
      next => simp at h
      next header hd =>
        split at h
        next => simp at h
        next hlen =>
          split at h
          next payload w₂ h₂ =>
            split_ifs at h with hneg hpos
            · obtain rfl : w₂ = w' := by simpa using h
              obtain ⟨hf, hw⟩ := isFrame_of_reads h₁ hd (by omega) h₂
              rw [hneg] at hf
              exact ⟨_, _, hf, hw⟩
            · simp at h
            · -- after an ack, no failure is a refusal
              exact absurd (readDiagnosticMessage_error h) (by simp [TransportError.isLoss])
          next => exact absurd (congrArg Prod.fst h) (by simpa using hread _)
    next => exact absurd (congrArg Prod.fst h) (by simpa using hread _)
  · intro h
    obtain ⟨nack, payload, hf, rfl⟩ := h
    have hle := hf.2
    obtain ⟨hdr, body, -, -, h₁, hd, h₂⟩ := hf.reads w'
    unfold receiveAnswer receiveAnswerBy
    simp only [h₁, hd, if_neg (Nat.not_lt.mpr hle), h₂, if_pos]

/-- A request that is neither answered nor refused has lost the stream. -/
theorem receiveAnswer_error {cfg : TransportConfig} {target : UInt16} {w w' : Wire}
    {e : TransportError} (h : receiveAnswer cfg target w = (.error e, w')) :
    e = .negativeAck ∨ e.isLoss = true := by
  unfold receiveAnswer receiveAnswerBy at h
  split at h
  next =>
    split at h
    next =>
      obtain ⟨rfl, -⟩ : TransportError.malformedFrame = e ∧ _ := by simpa using h
      exact .inr rfl
    next =>
      split at h
      next =>
        obtain ⟨rfl, -⟩ : TransportError.malformedFrame = e ∧ _ := by simpa using h
        exact .inr rfl
      next =>
        split at h
        next =>
          split_ifs at h
          · obtain ⟨rfl, -⟩ : TransportError.negativeAck = e ∧ _ := by simpa using h
            exact .inl rfl
          · obtain ⟨rfl, -⟩ : TransportError.malformedFrame = e ∧ _ := by simpa using h
            exact .inr rfl
          · exact .inr (readDiagnosticMessage_error h)
        next =>
          obtain ⟨rfl, -⟩ : readError _ = e ∧ _ := by simpa using h
          exact .inr (readError_isLoss _)
  next =>
    obtain ⟨rfl, -⟩ : readError _ = e ∧ _ := by simpa using h
    exact .inr (readError_isLoss _)

/-- `act` is a routing activation response that accepts this tester. -/
def IsActivation (act : List WireByte) : Prop :=
  ∃ payload resp, IsFrame .routingActivationResponse payload act ∧
    decodeRoutingActivationResponse payload = some resp ∧ resp.responseCode = 0x10

/-- What is waited for is one activation. -/
theorem awaitActivation_eq_ok {w w' : Wire} :
    awaitActivation w = (.ok (), w') ↔ ∃ act, IsActivation act ∧ w = ofItems act ++ w' := by
  constructor
  · intro h
    unfold awaitActivation awaitActivationBy at h
    split at h
    next hdr w₁ h₁ =>
      split at h
      next => simp at h
      next header hd =>
        split_ifs at h with htype hlen
        · simp at h
        · simp at h
        · split at h
          next payload w₂ h₂ =>
            split at h
            next => simp at h
            next resp hresp =>
              split_ifs at h with hcode
              · simp at h
              · obtain rfl : w₂ = w' := by simpa using h
                obtain ⟨hf, hw⟩ := isFrame_of_reads h₁ hd (by omega) h₂
                rw [not_not.mp htype] at hf
                exact ⟨_, ⟨_, resp, hf, hresp, not_not.mp hcode⟩, hw⟩
          next => simp at h
    next => simp at h
  · intro h
    obtain ⟨act, ⟨payload, resp, hf, hresp, hcode⟩, rfl⟩ := h
    have hle := hf.2
    obtain ⟨hdr, body, -, hbody, h₁, hd, h₂⟩ := hf.reads w'
    unfold awaitActivation awaitActivationBy
    simp only [h₁, hd, if_neg (Nat.not_lt.mpr hle), h₂, hbody, hresp, hcode]
    simp

/-! ## Connecting -/

/-- A connection that stands is not made again. -/
theorem DoipTransport.connect_of_connected (cfg : TransportConfig) (dial : Dial) (sent : Bool)
    (fresh : Wire) {t : DoipTransport} {w : Wire} (ht : t.sock = some w) :
    t.connect cfg dial sent fresh = (.ok (), t) := by
  rw [connect, TransportOn.connect, if_pos (by simp [TransportOn.isConnected, ht])]

/-- A new connection is kept exactly when the gateway accepts the activation. -/
theorem DoipTransport.connect_eq_ok {cfg : TransportConfig} {dial : Dial} {sent : Bool}
    {fresh : Wire} {t t' : DoipTransport} (ht : t.sock = none) :
    t.connect cfg dial sent fresh = (.ok (), t') ↔
      dial = .established ∧ sent = true ∧
      ∃ act w, IsActivation act ∧ fresh = ofItems act ++ w ∧
        t' = ⟨some w,
          t.written ++ [encodeRoutingActivationRequest cfg.testerLogicalAddress 0x00]⟩ := by
  unfold connect TransportOn.connect
  rw [if_neg (by simp [TransportOn.isConnected, ht])]
  by_cases hd : dial = .established
  case neg => simp [hd]
  rw [if_neg (not_not.mpr hd)]
  cases sent with
  | false => simp
  | true =>
    simp only [Bool.not_true, Bool.false_eq_true, if_false, hd, true_and]
    rw [awaitActivationBy_wire]
    cases ha : awaitActivation fresh with
    | mk r w =>
      cases r with
      | error e =>
        -- `awaitActivation` failed, so no activation is at the head of the script
        simp only [Prod.mk.injEq, reduceCtorEq, false_and, false_iff]
        intro h
        obtain ⟨act, w', hact, hfresh, -⟩ := h
        rw [awaitActivation_eq_ok.mpr ⟨act, hact, hfresh⟩] at ha
        simp at ha
      | ok u =>
        simp only [Prod.mk.injEq, true_and]
        constructor
        · intro h
          obtain ⟨act, hact, hfresh⟩ := awaitActivation_eq_ok.mp ha
          exact ⟨act, w, hact, hfresh, h.symm⟩
        · intro h
          obtain ⟨act, w', hact, hfresh, rfl⟩ := h
          rw [awaitActivation_eq_ok.mpr ⟨act, hact, hfresh⟩] at ha
          obtain rfl : w' = w := by simpa using ha
          rfl

/-- Every failure of `connect` leaves the transport disconnected. -/
theorem DoipTransport.connect_error {cfg : TransportConfig} {dial : Dial} {sent : Bool}
    {fresh : Wire} {t t' : DoipTransport} {e : TransportError}
    (h : t.connect cfg dial sent fresh = (.error e, t')) : t'.sock = none := by
  unfold connect TransportOn.connect at h
  split at h
  next => simp at h
  next hconn =>
    have hnone : t.sock = none := by simpa [TransportOn.isConnected] using hconn
    split at h
    next => exact (congrArg TransportOn.sock (Prod.mk.inj h).2).symm.trans hnone
    next =>
      dsimp only at h
      split at h
      next => exact (congrArg TransportOn.sock (Prod.mk.inj h).2).symm
      next =>
        split at h
        next => simp at h
        next => exact (congrArg TransportOn.sock (Prod.mk.inj h).2).symm

/-! ## What a reader leaves is the end of what there was -/

/-- The wait uses the script up from the front. -/
theorem awaitActivation_suffix (w : Wire) : (awaitActivation w).2 <:+ w := by
  unfold awaitActivation awaitActivationBy
  split
  next hdr w₁ h₁ =>
    have hs₁ := suffix_of_readExact h₁
    split
    next => exact hs₁
    next header hd =>
      split_ifs
      · exact hs₁
      · exact hs₁
      · split
        next payload w₂ h₂ =>
          have hs₂ := (suffix_of_readExact h₂).trans hs₁
          split
          next => exact hs₂
          next => split_ifs <;> exact hs₂
        next h₂ => exact (suffix_of_readExact h₂).trans hs₁
  next h₁ => exact suffix_of_readExact h₁

/-- Reading a message uses the script up from the front. -/
theorem readDiagnosticMessage_suffix (cfg : TransportConfig) (source : UInt16) (w : Wire) :
    (readDiagnosticMessage cfg source w).2 <:+ w := by
  unfold readDiagnosticMessage readDiagnosticMessageBy
  split
  next hdr w₁ h₁ =>
    have hs₁ := suffix_of_readExact h₁
    split
    next => exact hs₁
    next header hd =>
      split_ifs
      · exact hs₁
      · exact hs₁
      · split
        next payload w₂ h₂ =>
          have hs₂ := (suffix_of_readExact h₂).trans hs₁
          split
          next => exact hs₂
          next => split_ifs <;> exact hs₂
        next h₂ => exact (suffix_of_readExact h₂).trans hs₁
  next h₁ => exact suffix_of_readExact h₁

/-- Receiving an answer uses the script up from the front. -/
theorem receiveAnswer_suffix (cfg : TransportConfig) (target : UInt16) (w : Wire) :
    (receiveAnswer cfg target w).2 <:+ w := by
  unfold receiveAnswer receiveAnswerBy
  split
  next hdr w₁ h₁ =>
    have hs₁ := suffix_of_readExact h₁
    split
    next => exact hs₁
    next header hd =>
      split
      next => exact hs₁
      next =>
        split
        next payload w₂ h₂ =>
          have hs₂ := (suffix_of_readExact h₂).trans hs₁
          split_ifs
          · exact hs₂
          · exact hs₂
          · exact (readDiagnosticMessage_suffix ..).trans hs₂
        next h₂ => exact (suffix_of_readExact h₂).trans hs₁
  next h₁ => exact suffix_of_readExact h₁

end Sovd
