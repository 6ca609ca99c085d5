import Sovd.Bytes

/-!
# DoIP framing (`adapters/uds_doip/src/doip_protocol.cpp`)

Pure byte encoding and decoding: an 8-byte header (version, inverse version,
type, length) and the payloads a tester sends and reads.

The results are the two halves of a format: what is written is read back
(`decodeHeader_append`, `decodeDiagnosticMessage_encode`), and what is accepted
is what the writer would have written (`decodeHeader_sound`,
`decodeDiagnosticMessage_sound`).

Mirroring notes vs the C++:
- Big-endian fields are written by division and read by multiplication, which
  is what the shifts of unsigned bytes do; `payload_length` is a number, its
  cast to 32 bits is the truncation of the four bytes written.
- A pointer and a length are a list; the header reader looks at the first eight
  bytes of what it is given.
-/

namespace Sovd

/-- `kProtocolVersion` -/
def kProtocolVersion : UInt8 := 0x02

/-- `kHeaderSize` -/
def kHeaderSize : Nat := 8

/-- The payload types the client knows. -/
inductive PayloadType
  | routingActivationRequest
  | routingActivationResponse
  | diagnosticMessage
  | diagnosticMessagePositiveAck
  | diagnosticMessageNegativeAck
  deriving DecidableEq, Repr

/-- The enumerator's value. -/
def PayloadType.code : PayloadType → UInt16
  | routingActivationRequest => 0x0005
  | routingActivationResponse => 0x0006
  | diagnosticMessage => 0x8001
  | diagnosticMessagePositiveAck => 0x8002
  | diagnosticMessageNegativeAck => 0x8003

/-- The `switch` of `decode_header`. -/
def PayloadType.ofCode (c : UInt16) : Option PayloadType :=
  if c = 0x0005 then some .routingActivationRequest
  else if c = 0x0006 then some .routingActivationResponse
  else if c = 0x8001 then some .diagnosticMessage
  else if c = 0x8002 then some .diagnosticMessagePositiveAck
  else if c = 0x8003 then some .diagnosticMessageNegativeAck
  else none

/-- `Header` -/
structure Header where
  payloadType : PayloadType
  payloadLength : Nat
  deriving DecidableEq, Repr

/-- `append_u16`: the high byte first. -/
def appendU16 (v : UInt16) : Bytes := [UInt8.ofNat (v.toNat / 256), UInt8.ofNat v.toNat]

/-- `read_u16` -/
def readU16 (b₀ b₁ : UInt8) : UInt16 := UInt16.ofNat (b₀.toNat * 256 + b₁.toNat)

/-- `append_header`: the version twice, once inverted, the type and the length. -/
def appendHeader (type : PayloadType) (payloadLength : Nat) : Bytes :=
  [kProtocolVersion, ~~~kProtocolVersion] ++ appendU16 type.code ++
    [UInt8.ofNat (payloadLength / 16777216), UInt8.ofNat (payloadLength / 65536),
      UInt8.ofNat (payloadLength / 256), UInt8.ofNat payloadLength]

/-- `decode_header`: a type that is not known is refused. -/
def decodeHeader : Bytes → Option Header
  | v :: iv :: t₁ :: t₀ :: l₃ :: l₂ :: l₁ :: l₀ :: _ =>
    if v ≠ kProtocolVersion then none
    else if iv ≠ ~~~kProtocolVersion then none
    else
      match PayloadType.ofCode (readU16 t₁ t₀) with
      | none => none
      | some type =>
        some ⟨type, l₃.toNat * 16777216 + l₂.toNat * 65536 + l₁.toNat * 256 + l₀.toNat⟩
  | _ => none

/-- `encode_routing_activation_request`, with its four reserved bytes. -/
def encodeRoutingActivationRequest (sourceAddress : UInt16) (activationType : UInt8) : Bytes :=
  let payload := appendU16 sourceAddress ++ [activationType] ++ [0, 0, 0, 0]
  appendHeader .routingActivationRequest payload.length ++ payload

/-- `RoutingActivationResponse` -/
structure RoutingActivationResponse where
  testerLogicalAddress : UInt16
  entityLogicalAddress : UInt16
  responseCode : UInt8
  deriving DecidableEq, Repr

/-- `decode_routing_activation_response`: what follows the code is not looked at. -/
def decodeRoutingActivationResponse : Bytes → Option RoutingActivationResponse
  | a :: b :: c :: d :: code :: _ => some ⟨readU16 a b, readU16 c d, code⟩
  | _ => none

/-- `encode_diagnostic_message` -/
def encodeDiagnosticMessage (sourceAddress targetAddress : UInt16) (udsPayload : Bytes) : Bytes :=
  let payload := appendU16 sourceAddress ++ appendU16 targetAddress ++ udsPayload
  appendHeader .diagnosticMessage payload.length ++ payload

/-- `DiagnosticMessage` -/
structure DiagnosticMessage where
  sourceAddress : UInt16
  targetAddress : UInt16
  udsPayload : Bytes
  deriving DecidableEq, Repr

/-- `decode_diagnostic_message`: all behind the addresses is the payload. -/
def decodeDiagnosticMessage : Bytes → Option DiagnosticMessage
  | a :: b :: c :: d :: uds => some ⟨readU16 a b, readU16 c d, uds⟩
  | _ => none

/-! ## Fields -/

@[simp] theorem appendU16_length (v : UInt16) : (appendU16 v).length = 2 := rfl

@[simp] theorem appendHeader_length (t : PayloadType) (n : Nat) :
    (appendHeader t n).length = kHeaderSize := rfl

/-- A code is known if it is that of a type. -/
theorem PayloadType.ofCode_eq_some {c : UInt16} {t : PayloadType} :
    ofCode c = some t ↔ t.code = c := by
  constructor
  · intro h
    unfold ofCode at h
    split_ifs at h <;> · cases h; exact Eq.symm (by assumption)
  · intro h
    subst h
    cases t <;> rfl

/-- What was written is read back. -/
theorem readU16_append (v : UInt16) :
    readU16 (UInt8.ofNat (v.toNat / 256)) (UInt8.ofNat v.toNat) = v := by
  have hv := v.toNat_lt
  apply UInt16.toNat_inj.mp
  simp only [readU16, UInt8.toNat_ofNat', UInt16.toNat_ofNat']
  omega

/-- What is read is written back. -/
theorem append_readU16 (a b : UInt8) : appendU16 (readU16 a b) = [a, b] := by
  have ha := a.toNat_lt
  have hb := b.toNat_lt
  have hval : (readU16 a b).toNat = a.toNat * 256 + b.toNat := by
    rw [readU16, UInt16.toNat_ofNat']
    omega
  rw [appendU16, hval]
  have h₁ : UInt8.ofNat ((a.toNat * 256 + b.toNat) / 256) = a := by
    apply UInt8.toNat_inj.mp
    rw [UInt8.toNat_ofNat']
    omega
  have h₀ : UInt8.ofNat (a.toNat * 256 + b.toNat) = b := by
    apply UInt8.toNat_inj.mp
    rw [UInt8.toNat_ofNat']
    omega
  rw [h₁, h₀]

/-! ## What is written is read back, what is accepted is well formed -/

/-- A header that was written is read back, if the length fits. -/
theorem decodeHeader_append (t : PayloadType) {n : Nat} (hn : n < 2 ^ 32) (rest : Bytes) :
    decodeHeader (appendHeader t n ++ rest) = some ⟨t, n⟩ := by
  have htype : PayloadType.ofCode (readU16 (UInt8.ofNat (t.code.toNat / 256))
      (UInt8.ofNat t.code.toNat)) = some t := by
    rw [readU16_append]
    exact PayloadType.ofCode_eq_some.mpr rfl
  have hlen : (UInt8.ofNat (n / 16777216)).toNat * 16777216 +
      (UInt8.ofNat (n / 65536)).toNat * 65536 + (UInt8.ofNat (n / 256)).toNat * 256 +
      (UInt8.ofNat n).toNat = n := by
    simp only [UInt8.toNat_ofNat']
    omega
  show (if kProtocolVersion ≠ kProtocolVersion then none
    else if ~~~kProtocolVersion ≠ ~~~kProtocolVersion then none else _) = _
  rw [if_neg (not_not.mpr rfl), if_neg (not_not.mpr rfl), htype]
  exact congrArg (fun k => some (Header.mk t k)) hlen

/-- Everything a header that is accepted can look like. -/
theorem decodeHeader_cases {data : Bytes} {h : Header} (hd : decodeHeader data = some h) :
    ∃ t₁ t₀ l₃ l₂ l₁ l₀ rest,
      data = kProtocolVersion :: ~~~kProtocolVersion :: t₁ :: t₀ :: l₃ :: l₂ :: l₁ :: l₀ :: rest ∧
      h.payloadType.code = readU16 t₁ t₀ ∧
      h.payloadLength =
        l₃.toNat * 16777216 + l₂.toNat * 65536 + l₁.toNat * 256 + l₀.toNat := by
  unfold decodeHeader at hd
  split at hd
  next v iv t₁ t₀ l₃ l₂ l₁ l₀ rest =>
    split_ifs at hd with hv hiv
    rw [not_not] at hv hiv
    cases htype : PayloadType.ofCode (readU16 t₁ t₀) with
    | none =>
      rw [htype] at hd
      cases hd
    | some t =>
      rw [htype] at hd
      obtain rfl := Option.some.inj hd
      rw [hv, hiv]
      exact ⟨t₁, t₀, l₃, l₂, l₁, l₀, rest, rfl, PayloadType.ofCode_eq_some.mp htype, rfl⟩
  next => cases hd

/-- A header that is accepted is the one the writer writes for it. -/
theorem decodeHeader_sound {data : Bytes} {h : Header} (hd : decodeHeader data = some h)
    (hlen : data.length = kHeaderSize) : data = appendHeader h.payloadType h.payloadLength := by
  obtain ⟨t₁, t₀, l₃, l₂, l₁, l₀, rest, rfl, htype, hn⟩ := decodeHeader_cases hd
  have hrest : rest = [] := by simpa [kHeaderSize] using hlen
  have hbyte : ∀ (n : Nat) (b : UInt8), n % 256 = b.toNat → UInt8.ofNat n = b := by
    intro n b hnb
    apply UInt8.toNat_inj.mp
    rw [UInt8.toNat_ofNat', ← hnb]
  have h₃ := l₃.toNat_lt
  have h₂ := l₂.toNat_lt
  have h₁ := l₁.toNat_lt
  have h₀ := l₀.toNat_lt
  rw [appendHeader, htype, append_readU16, hn, hbyte _ l₃ (by omega), hbyte _ l₂ (by omega),
    hbyte _ l₁ (by omega), hbyte _ l₀ (by omega), hrest]
  rfl

/-- A message that was written is read back. -/
theorem decodeDiagnosticMessage_encode (s t : UInt16) (uds : Bytes) :
    decodeDiagnosticMessage (appendU16 s ++ appendU16 t ++ uds) = some ⟨s, t, uds⟩ := by
  show some (DiagnosticMessage.mk (readU16 _ _) (readU16 _ _) uds) = _
  rw [readU16_append, readU16_append]

/-- A payload that is accepted is the one the writer writes for it. -/
theorem decodeDiagnosticMessage_sound {payload : Bytes} {m : DiagnosticMessage}
    (h : decodeDiagnosticMessage payload = some m) :
    payload = appendU16 m.sourceAddress ++ appendU16 m.targetAddress ++ m.udsPayload := by
  unfold decodeDiagnosticMessage at h
  split at h
  next a b c d uds =>
    obtain rfl := Option.some.inj h
    show _ = appendU16 (readU16 a b) ++ appendU16 (readU16 c d) ++ uds
    rw [append_readU16, append_readU16]
    rfl
  next => cases h

/-! ## Whole messages -/

/-- The first bytes of a message are its header. -/
theorem encodeDiagnosticMessage_take (s t : UInt16) (uds : Bytes) :
    (encodeDiagnosticMessage s t uds).take kHeaderSize =
      appendHeader .diagnosticMessage (appendU16 s ++ appendU16 t ++ uds).length :=
  List.take_left' (appendHeader_length ..)

/-- Behind its header stand the addresses and the payload. -/
theorem encodeDiagnosticMessage_drop (s t : UInt16) (uds : Bytes) :
    (encodeDiagnosticMessage s t uds).drop kHeaderSize = appendU16 s ++ appendU16 t ++ uds :=
  List.drop_left' (appendHeader_length ..)

/-- The header is read off the first bytes, whatever follows. -/
theorem decodeHeader_take {data : Bytes} {h : Header} (hd : decodeHeader data = some h) :
    decodeHeader (data.take kHeaderSize) = some h := by
  obtain ⟨t₁, t₀, l₃, l₂, l₁, l₀, rest, rfl, -, -⟩ := decodeHeader_cases hd
  exact hd

/-- **What is encoded is decoded, header and payload, and nothing else is: a header of
type `DiagnosticMessage` in front of a payload that has the announced length and decodes
is the encoding of what it decodes to.** -/
theorem diagnosticMessage_round_trip :
    (∀ (s t : UInt16) (uds : Bytes), uds.length < 2 ^ 32 - 4 →
      decodeHeader ((encodeDiagnosticMessage s t uds).take kHeaderSize) =
          some ⟨.diagnosticMessage, ((encodeDiagnosticMessage s t uds).drop kHeaderSize).length⟩ ∧
        decodeDiagnosticMessage ((encodeDiagnosticMessage s t uds).drop kHeaderSize) =
          some ⟨s, t, uds⟩) ∧
    ∀ (data : Bytes) (h : Header) (m : DiagnosticMessage), kHeaderSize ≤ data.length →
      decodeHeader data = some h → h.payloadType = .diagnosticMessage →
      (data.drop kHeaderSize).length = h.payloadLength →
      decodeDiagnosticMessage (data.drop kHeaderSize) = some m →
      data = encodeDiagnosticMessage m.sourceAddress m.targetAddress m.udsPayload := by
  constructor
  · intro s t uds huds
    have hlen : (appendU16 s ++ appendU16 t ++ uds).length < 2 ^ 32 := by
      simp only [List.length_append, appendU16_length]
      omega
    rw [encodeDiagnosticMessage_take, encodeDiagnosticMessage_drop]
    refine ⟨?_, decodeDiagnosticMessage_encode s t uds⟩
    have hheader := decodeHeader_append .diagnosticMessage hlen []
    rwa [List.append_nil] at hheader
  · intro data h m hsize hd htype hlen hm
    have hhead : data.take kHeaderSize = appendHeader h.payloadType h.payloadLength := by
      refine decodeHeader_sound (decodeHeader_take hd) ?_
      rw [List.length_take, Nat.min_eq_left hsize]
    have hpayload := decodeDiagnosticMessage_sound hm
    calc data = data.take kHeaderSize ++ data.drop kHeaderSize :=
          (List.take_append_drop kHeaderSize data).symm
      _ = appendHeader .diagnosticMessage (data.drop kHeaderSize).length ++
          data.drop kHeaderSize := by rw [hhead, htype, hlen]
      _ = encodeDiagnosticMessage m.sourceAddress m.targetAddress m.udsPayload := by
          rw [hpayload, encodeDiagnosticMessage]

/-- A tester asks for DID `0xF190`: there and back. -/
theorem diagnosticMessage_round_trip_read :
    (decodeHeader ((encodeDiagnosticMessage 0x0E00 0x0E80 [0x22, 0xF1, 0x90]).take kHeaderSize) =
        some ⟨.diagnosticMessage, 7⟩ ∧
      decodeDiagnosticMessage
          ((encodeDiagnosticMessage 0x0E00 0x0E80 [0x22, 0xF1, 0x90]).drop kHeaderSize) =
        some ⟨0x0E00, 0x0E80, [0x22, 0xF1, 0x90]⟩) ∧
    [0x02, 0xFD, 0x80, 0x01, 0, 0, 0, 7, 0x0E, 0x00, 0x0E, 0x80, 0x22, 0xF1, 0x90] =
      encodeDiagnosticMessage 0x0E00 0x0E80 [0x22, 0xF1, 0x90] :=
  ⟨diagnosticMessage_round_trip.1 0x0E00 0x0E80 [0x22, 0xF1, 0x90] (by decide),
    diagnosticMessage_round_trip.2 _ ⟨.diagnosticMessage, 7⟩ ⟨0x0E00, 0x0E80, [0x22, 0xF1, 0x90]⟩
      (by decide) (by decide) rfl rfl (by decide)⟩

end Sovd
