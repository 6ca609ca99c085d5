import Sovd.Bytes
import Sovd.Lib.Base128
import Sovd.Lib.ByteNumber

/-!
# MQTT packets (`server/src/mqtt_publisher.cpp`)

The server writes two kinds of MQTT packets, the one that opens a connection and the one
that carries an event. Both are a body behind its length in base 128, and the strings in
the body stand behind their length in two bytes.

`parsePublish` and `parseConnect` are what a broker reads by the rules of MQTT 3.1.1. A
length has at most four bytes there, and a string at most 65535. The encoders check
neither: `packets_parse_back_iff` says that a packet is read as what it was made of just
when both lengths fit.
-/

namespace Sovd

namespace Mqtt

/-- A do-while loop: the last round is the one that leaves nothing of the length. -/
def appendVarint (out : Bytes) (len : ℕ) : Bytes :=
  let byte := UInt8.ofNat (len % 128)
  if len / 128 > 0 then appendVarint (out ++ [byte ||| 0x80]) (len / 128) else out ++ [byte]
termination_by len
decreasing_by omega

/-- `append_mqtt_string`: the length in two bytes, whatever it is. -/
def appendMqttString (out s : Bytes) : Bytes :=
  out ++ [UInt8.ofNat (s.length / 256)] ++ [UInt8.ofNat s.length] ++ s

/-- `encode_connect`: a clean session, and no credentials. -/
def encodeConnect (clientId : Bytes) (keepAliveSec : UInt16) : Bytes :=
  let varAndPayload := appendMqttString [] (str "MQTT") ++ [0x04] ++ [0x02] ++
    [UInt8.ofNat (keepAliveSec.toNat / 256)] ++ [UInt8.ofNat keepAliveSec.toNat]
  let varAndPayload := appendMqttString varAndPayload clientId
  appendVarint [0x10] varAndPayload.length ++ varAndPayload

/-- `encode_publish`: quality of service 0, so no packet id. -/
def encodePublish (topic payload : Bytes) : Bytes :=
  let varAndPayload := appendMqttString [] topic ++ payload
  appendVarint [0x30] varAndPayload.length ++ varAndPayload

/-! ## What a broker reads -/

/-- The first byte of a packet and its body, and the stream after it. -/
def readPacket : Bytes → Option (UInt8 × Bytes × Bytes)
  | [] => none
  | first :: s =>
    match Base128.decode 4 s with
    | none => none
    | some (len, s) => if len ≤ s.length then some (first, s.take len, s.drop len) else none

/-- A string behind its length, and what comes after it. -/
def readMqttString : Bytes → Option (Bytes × Bytes)
  | hi :: lo :: s =>
    let len := ByteNumber.value true [hi, lo]
    if len ≤ s.length then some (s.take len, s.drop len) else none
  | _ => none

/-- What a PUBLISH says. -/
structure Publish where
  topic : Bytes
  payload : Bytes
  deriving DecidableEq

/-- What a CONNECT says. -/
structure Connect where
  clientId : Bytes
  keepAliveSec : ℕ
  deriving DecidableEq

/-- A PUBLISH at QoS 0, neither repeated nor retained. -/
def parsePublish (s : Bytes) : Option (Publish × Bytes) :=
  match readPacket s with
  | none => none
  | some (first, body, rest) =>
    if first ≠ 0x30 then none
    else
      match readMqttString body with
      | none => none
      | some (topic, payload) => some (⟨topic, payload⟩, rest)

/-- A CONNECT with a clean session, no will and no credentials: after the client id its
body is over. -/
def parseConnect (s : Bytes) : Option (Connect × Bytes) :=
  match readPacket s with
  | none => none
  | some (first, body, rest) =>
    if first ≠ 0x10 then none
    else
      match readMqttString body with
      | some (name, level :: flags :: hi :: lo :: body) =>
        if name ≠ str "MQTT" ∨ level ≠ 0x04 ∨ flags ≠ 0x02 then none
        else
          match readMqttString body with
          | some (clientId, []) => some (⟨clientId, ByteNumber.value true [hi, lo]⟩, rest)
          | _ => none
      | _ => none

/-- The packet is read as this message, from whatever stream it is in. -/
def PublishParsesBack (topic payload : Bytes) : Prop :=
  ∀ rest, parsePublish (encodePublish topic payload ++ rest) = some (⟨topic, payload⟩, rest)

/-- The packet is read back, whatever follows it. -/
def ConnectParsesBack (clientId : Bytes) (keepAliveSec : UInt16) : Prop :=
  ∀ rest, parseConnect (encodeConnect clientId keepAliveSec ++ rest) =
    some (⟨clientId, keepAliveSec.toNat⟩, rest)

/-! ## Lengths -/

theorem appendVarint_eq (out : Bytes) (len : ℕ) :
    appendVarint out len = out ++ Base128.encode len := by
  have hmore : ∀ m < 128, UInt8.ofNat m ||| 0x80 = UInt8.ofNat (m + 128) := by decide
  induction len using Nat.strongRecOn generalizing out with
  | ind len ih =>
    rw [appendVarint, Base128.encode]
    by_cases hsmall : len < 128
    · rw [if_neg (by omega), if_pos hsmall, Nat.mod_eq_of_lt hsmall]
    · rw [if_pos (by omega), if_neg hsmall, ih (len / 128) (by omega),
        hmore _ (Nat.mod_lt len (by decide)), List.append_assoc, List.singleton_append]

/-- Two bytes hold the low sixteen bits of a number. -/
theorem value_pair (n : ℕ) :
    ByteNumber.value true [UInt8.ofNat (n / 256), UInt8.ofNat n] = n % 2 ^ 16 := by
  have hbytes : ByteNumber.bytes true 2 n = [UInt8.ofNat (n / 256), UInt8.ofNat n] := by
    simp [ByteNumber.bytes, ByteNumber.littleBytes_succ]
  have hpow : 256 ^ 2 = 2 ^ 16 := by decide
  rw [← hbytes, ByteNumber.value_bytes_eq_mod, hpow]

/-- What is read back of a string behind its length. -/
theorem readMqttString_append (s rest : Bytes) :
    readMqttString (appendMqttString [] s ++ rest) =
      some (s.take (s.length % 2 ^ 16), s.drop (s.length % 2 ^ 16) ++ rest) := by
  have hle : s.length % 2 ^ 16 ≤ s.length := Nat.mod_le ..
  simp only [appendMqttString, List.nil_append, List.cons_append, readMqttString, value_pair]
  rw [if_pos (by rw [List.length_append]; omega), List.take_append_of_le_length hle,
    List.drop_append_of_le_length hle]

/-- A body behind its length. -/
theorem readPacket_append (first : UInt8) (body rest : Bytes) :
    readPacket (appendVarint [first] body.length ++ body ++ rest) =
      if body.length < 2 ^ 28 then some (first, body, rest) else none := by
  have hbound : 128 ^ (3 + 1) = 2 ^ 28 := by decide
  rw [appendVarint_eq, List.append_assoc, List.append_assoc, List.singleton_append, readPacket,
    Base128.decode_encode, hbound]
  by_cases hfits : body.length < 2 ^ 28
  · have hle : body.length ≤ (body ++ rest).length := by simp
    rw [if_pos hfits, if_pos hfits]
    dsimp only
    rw [if_pos hle, List.take_left, List.drop_left]
  · rw [if_neg hfits, if_neg hfits]

/-! ## Which packets are read as what they were made of -/

theorem take_mod_eq_self {s : Bytes} :
    s.take (s.length % 2 ^ 16) = s ↔ s.length < 2 ^ 16 := by
  rw [List.take_eq_self_iff]
  omega

/-- What a broker makes of an event's packet. A topic that is too long is cut off, and the
rest of it is taken for payload. -/
theorem parsePublish_encodePublish (topic payload rest : Bytes) :
    parsePublish (encodePublish topic payload ++ rest) =
      if 2 + topic.length + payload.length < 2 ^ 28 then
        some (⟨topic.take (topic.length % 2 ^ 16),
          topic.drop (topic.length % 2 ^ 16) ++ payload⟩, rest)
      else none := by
  have hlen :
      (appendMqttString [] topic ++ payload).length = 2 + topic.length + payload.length := by
    simp [appendMqttString]
    omega
  rw [encodePublish, parsePublish, readPacket_append, hlen]
  split_ifs with hfits
  · dsimp only
    rw [if_neg (by decide), readMqttString_append]
  · rfl

/-- And of the packet that opens a connection: one that is too long is malformed. -/
theorem parseConnect_encodeConnect (clientId : Bytes) (keepAliveSec : UInt16) (rest : Bytes) :
    parseConnect (encodeConnect clientId keepAliveSec ++ rest) =
      if clientId.length < 2 ^ 16 then some (⟨clientId, keepAliveSec.toNat⟩, rest) else none := by
  let head : Bytes := [0x04, 0x02, UInt8.ofNat (keepAliveSec.toNat / 256),
    UInt8.ofNat keepAliveSec.toNat] ++ appendMqttString [] clientId
  have hbody : appendMqttString (appendMqttString [] (str "MQTT") ++ [0x04] ++ [0x02] ++
      [UInt8.ofNat (keepAliveSec.toNat / 256)] ++ [UInt8.ofNat keepAliveSec.toNat]) clientId =
        appendMqttString [] (str "MQTT") ++ head := by
    simp [appendMqttString, head]
  have hlen : (appendMqttString [] (str "MQTT") ++ head).length = 12 + clientId.length := by
    simp [appendMqttString, head, str]
    omega
  have hkeepAlive : keepAliveSec.toNat % 2 ^ 16 = keepAliveSec.toNat :=
    Nat.mod_eq_of_lt keepAliveSec.toNat_lt
  have hname : (str "MQTT").length % 2 ^ 16 = 4 := rfl
  rw [encodeConnect, parseConnect, hbody, readPacket_append, hlen]
  by_cases hfits : 12 + clientId.length < 2 ^ 28
  · rw [if_pos hfits]
    dsimp only
    rw [if_neg (by decide), readMqttString_append, hname]
    have hdrop : (str "MQTT").drop 4 ++ head = head := rfl
    have hid := readMqttString_append clientId []
    rw [List.append_nil, List.append_nil] at hid
    rw [hdrop]
    simp only [head, List.cons_append, List.nil_append]
    rw [if_neg (by decide), hid, value_pair, hkeepAlive]
    split_ifs with hlong
    · rw [Nat.mod_eq_of_lt hlong, List.drop_length, List.take_length]
    · -- of a client id that is too long something is left over
      cases hleft : clientId.drop (clientId.length % 2 ^ 16) with
      | nil =>
        have := List.drop_eq_nil_iff.mp hleft
        omega
      | cons b left => rfl
  · rw [if_neg hfits, if_neg (by omega)]

theorem publishParsesBack_iff {topic payload : Bytes} :
    PublishParsesBack topic payload ↔
      topic.length < 2 ^ 16 ∧ 2 + topic.length + payload.length < 2 ^ 28 := by
  constructor
  · intro h
    have hparse := h []
    rw [parsePublish_encodePublish] at hparse
    split_ifs at hparse with hfits
    obtain ⟨hmessage, -⟩ := Prod.mk.inj (Option.some.inj hparse)
    exact ⟨take_mod_eq_self.mp (Publish.mk.inj hmessage).1, hfits⟩
  · intro h rest
    rw [parsePublish_encodePublish, if_pos h.2, Nat.mod_eq_of_lt h.1, List.take_length,
      List.drop_length, List.nil_append]

theorem connectParsesBack_iff {clientId : Bytes} {keepAliveSec : UInt16} :
    ConnectParsesBack clientId keepAliveSec ↔ clientId.length < 2 ^ 16 := by
  constructor
  · intro h
    have hparse := h []
    rw [parseConnect_encodeConnect] at hparse
    by_contra hlong
    rw [if_neg hlong] at hparse
    cases hparse
  · intro h rest
    rw [parseConnect_encodeConnect, if_pos h]

/-- **MQTT packets parse back** just when their lengths fit: a topic or a client id into two
bytes, and what a PUBLISH carries into the four of its remaining length. -/
theorem packets_parse_back_iff (topic payload clientId : Bytes) (keepAliveSec : UInt16) :
    (PublishParsesBack topic payload ↔
      topic.length < 2 ^ 16 ∧ 2 + topic.length + payload.length < 2 ^ 28) ∧
    (ConnectParsesBack clientId keepAliveSec ↔ clientId.length < 2 ^ 16) :=
  ⟨publishParsesBack_iff, connectParsesBack_iff⟩

/-- A topic of 65536 bytes is published as an empty one, with itself as the payload; a client
id of that length makes a packet that no broker takes. -/
theorem long_topic_is_payload :
    ¬ PublishParsesBack (List.replicate 65536 65) [] ∧
    parsePublish (encodePublish (List.replicate 65536 65) []) =
      some (⟨[], List.replicate 65536 65⟩, []) ∧
    parseConnect (encodeConnect (List.replicate 65536 65) 60) = none := by
  have hlen : (List.replicate 65536 (65 : UInt8)).length = 65536 := List.length_replicate
  refine ⟨?_, ?_, ?_⟩
  · rw [publishParsesBack_iff, hlen]
    omega
  · have hparse := parsePublish_encodePublish (List.replicate 65536 65) [] []
    rw [hlen, if_pos (by decide), List.append_nil, List.append_nil] at hparse
    exact hparse
  · have hparse := parseConnect_encodeConnect (List.replicate 65536 65) 60 []
    rw [hlen, if_neg (by decide), List.append_nil] at hparse
    exact hparse

end Mqtt

end Sovd
