import Sovd.Uds.Pairing
import Sovd.Uds.SessionManager

/-!
# One ECU behind one connection

The session manager sees the ECU as a `Bus`, which answers each request. Behind it is one
connection for all requests, and what a request returns depends on everything that was on
that connection before: an answer that came too late for its own request is still there
for the next (`stale_reply`).

`Line.bus` is that bus. It keeps no state of its own: the history of exchanges says which
calls were made, and so where the connection stands (`Line.transport`).

A call is judged by the messages it reads (`messagesRead`): what it returns is what they
resolve to (`sendAndResolve_messages`). They are the ECU's answer to the request if the
call begins fresh (`Line.own_of_fresh`), and may be an older answer otherwise.

Mirroring notes vs the C++:
- Every request of an adapter goes through `send_and_resolve` on its one `transport`, and
  `transport_mtx` orders them, so the exchanges are the calls that were made.
- `Ecu` is a ghost: what the ECU sends in answer to a request that gets to it. What of that
  arrives, and when, is in `Line.env`.
-/

namespace Sovd

open StreamEvent

/-! ## The messages that a call reads -/

/-- The messages that the loop over pending responses reads on after `current`. -/
def furtherMessages (cfg : TransportConfig) (ecu : UInt16) :
    Nat → Received → DoipTransport → List Received
  | 0, _, _ => []
  | n + 1, current, t =>
    if isPending current.uds then
      match t.receivePendingResponse cfg ecu with
      | (.error _, _) => []
      | (.ok next, t) => next :: furtherMessages cfg ecu n next t
    else []

/-- The messages that `send_and_resolve` reads, whether it returns one of them or fails. -/
def messagesRead (cfg : TransportConfig) (ecu : UInt16) (env : CallEnv) (req : Bytes)
    (t : DoipTransport) : List Received :=
  match (t.arrive env.arrivals).connect cfg env.dial env.activationSent env.arrivals with
  | (.error _, _) => []
  | (.ok (), t) =>
    match t.sendAndReceive cfg ecu env.requestSent req with
    | (.error _, _) => []
    | (.ok current, t) => current :: furtherMessages cfg ecu kMaxPendingAttempts current t

/-- The UDS payloads of messages. -/
def payloads (messages : List Received) : List Bytes := messages.map Received.uds

section

variable (cfg : TransportConfig) (ecu : UInt16)

theorem resolvePending_messages (n : Nat) (current : Received) (t : DoipTransport) :
    (resolvePending cfg ecu n current t).1.toOption.map Received.uds =
      resolveMessages n current.uds (payloads (furtherMessages cfg ecu n current t)) := by
  induction n generalizing current t with
  | zero => rfl
  | succ n ih =>
    rw [resolvePending, furtherMessages, resolveMessages.eq_def]
    dsimp only
    split_ifs with hpending
    · cases t.receivePendingResponse cfg ecu with
      | mk res t₁ =>
        cases res with
        | error e => rfl
        | ok next => exact ih next t₁
    · rfl

/-- **What a call returns is what the messages it reads resolve to.** -/
theorem sendAndResolve_messages (env : CallEnv) (req : Bytes) (t : DoipTransport) :
    (sendAndResolve cfg ecu env req t).1.toOption.map Received.uds =
      resolveAnswer (payloads (messagesRead cfg ecu env req t)) := by
  unfold sendAndResolve messagesRead
  cases (t.arrive env.arrivals).connect cfg env.dial env.activationSent env.arrivals with
  | mk res t₁ =>
    cases res with
    | error e => rfl
    | ok u =>
      dsimp only
      cases t₁.sendAndReceive cfg ecu env.requestSent req with
      | mk res t₂ =>
        cases res with
        | error e => rfl
        | ok current => exact resolvePending_messages cfg ecu _ current t₂

end

/-! ## Messages that are all there -/

/-- Those of the messages that the loop reads after `current`. -/
def furtherTaken : Nat → Bytes → List Bytes → List Bytes
  | 0, _, _ => []
  | _ + 1, _, [] => []
  | n + 1, current, next :: rest =>
    if isPending current then next :: furtherTaken n next rest else []

/-- Those of the messages that one call reads. -/
def taken : List Bytes → List Bytes
  | [] => []
  | first :: rest => first :: furtherTaken kMaxPendingAttempts first rest

section

variable {cfg : TransportConfig} {ecu : UInt16} {w' : Wire}

theorem furtherMessages_eq {n : Nat} {current : Received} {rest : List Received}
    {t : DoipTransport} (hsock : t.sock = some (ofItems (rest.flatMap Received.frame) ++ w'))
    (hdiag : ∀ r ∈ rest, IsDiagnostic cfg ecu r)
    (htaken : furtherTaken n current.uds (payloads rest) = payloads rest)
    (hresolved : (resolveMessages n current.uds (payloads rest)).isSome = true) :
    furtherMessages cfg ecu n current t = rest ∧
      (resolvePending cfg ecu n current t).2.sock = some w' := by
  induction n generalizing current rest t with
  -- induction on the attempts left; each reads one frame off the socket
  | zero =>
    obtain rfl : rest = [] := List.map_eq_nil_iff.mp htaken.symm
    exact ⟨rfl, hsock⟩
  | succ n ih =>
    rw [furtherMessages, resolvePending]
    split_ifs with hpending
    · rw [resolveMessages.eq_def] at hresolved
      dsimp only at hresolved
      rw [if_pos hpending] at hresolved
      cases rest with
      -- pending, and nothing further to come: not resolved
      | nil => cases hresolved
      | cons next rest =>
        rw [payloads, List.map_cons, furtherTaken, if_pos hpending] at htaken
        have hread : readDiagnosticMessage cfg ecu (ofItems (next.frame ++
            rest.flatMap Received.frame) ++ w') =
              (.ok next, ofItems (rest.flatMap Received.frame) ++ w') := by
          refine readDiagnosticMessage_eq_ok.mpr ⟨hdiag next (List.mem_cons_self ..), ?_⟩
          rw [ofItems_append, List.append_assoc]
        rw [List.flatMap_cons] at hsock
        simp only [DoipTransport.receivePendingResponse, TransportOn.receivePendingResponse, hsock,
          readDiagnosticMessageBy_wire, hread]
        have hnext := @ih next rest { t with sock := some (ofItems (rest.flatMap _) ++ w') } rfl
          (fun r hr => hdiag r (List.mem_cons_of_mem _ hr)) (List.cons.inj htaken).2 hresolved
        exact ⟨congrArg (next :: ·) hnext.1, hnext.2⟩
    · cases rest with
      | nil => exact ⟨rfl, hsock⟩
      | cons next rest =>
        rw [payloads, List.map_cons, furtherTaken, if_neg hpending] at htaken
        cases htaken

/-- A call on a script that holds an ack and messages that resolve reads these, and leaves
what comes after them. -/
theorem messagesRead_eq (req : Bytes) {env : CallEnv} {t : DoipTransport} {w : Wire}
    {messages : List Received} {ack : List WireByte} {payload : Bytes}
    (hopen : Opens env t w) (hsent : env.requestSent = true)
    (hack : IsFrame .diagnosticMessagePositiveAck payload ack)
    (hdiag : ∀ r ∈ messages, IsDiagnostic cfg ecu r)
    (hw : w = ofItems (ack ++ messages.flatMap Received.frame) ++ w')
    (htaken : taken (payloads messages) = payloads messages)
    (hresolved : (resolveAnswer (payloads messages)).isSome = true) :
    messagesRead cfg ecu env req t = messages ∧
      (sendAndResolve cfg ecu env req t).2.sock = some w' := by
  cases messages with
  | nil => cases hresolved
  | cons first rest =>
    rcases connect_cases cfg env t with ⟨w₀, t₁, hc, hsock, hopens⟩ | ⟨e, t₁, -, -, hnot⟩
    case inr => exact absurd hopen (hnot w)
    obtain rfl := (hopens w).mp hopen
    have hfirst : receiveAnswer cfg ecu w =
        (.ok first, ofItems (rest.flatMap Received.frame) ++ w') := by
      refine receiveAnswer_eq_ok.mpr ⟨ack, payload, hack, hdiag first (List.mem_cons_self ..), ?_⟩
      rw [hw, List.flatMap_cons, ← List.append_assoc ack, ofItems_append (ack ++ first.frame),
        List.append_assoc]
    unfold messagesRead sendAndResolve
    rw [hc]
    simp only [DoipTransport.sendAndReceive, TransportOn.sendAndReceive, receiveAnswerBy_wire,
      hsock, hsent, hfirst, Bool.not_true, Bool.false_eq_true, if_false]
    obtain ⟨hread, hleft⟩ := @furtherMessages_eq cfg ecu w' kMaxPendingAttempts first rest
      ⟨some (ofItems (rest.flatMap Received.frame) ++ w'),
        t₁.written ++ [encodeDiagnosticMessage cfg.testerLogicalAddress ecu req]⟩
      rfl (fun r hr => hdiag r (List.mem_cons_of_mem _ hr)) (List.cons.inj htaken).2 hresolved
    exact ⟨congrArg (first :: ·) hread, hleft⟩

/-! ## What can be read at all -/

/-- Messages that a call can read: no more than the loop takes, and each fits a frame. -/
def Readable (messages : List Bytes) : Prop :=
  taken messages = messages ∧ ∀ m ∈ messages, m.length + 4 ≤ kMaxPayloadLength

theorem IsDiagnostic.fits {r : Received} (h : IsDiagnostic cfg ecu r) :
    r.uds.length + 4 ≤ kMaxPayloadLength := by
  have hle := h.2
  simp only [List.length_append, appendU16_length] at hle
  omega

theorem furtherMessages_readable (n : Nat) (current : Received) (t : DoipTransport) :
    furtherTaken n current.uds (payloads (furtherMessages cfg ecu n current t)) =
        payloads (furtherMessages cfg ecu n current t) ∧
      ∀ r ∈ furtherMessages cfg ecu n current t, IsDiagnostic cfg ecu r := by
  induction n generalizing current t with
  | zero => exact ⟨rfl, fun r hr => nomatch hr⟩
  | succ n ih =>
    rw [furtherMessages]
    split_ifs with hpending
    · cases hread : t.receivePendingResponse cfg ecu with
      | mk res t₁ =>
        cases res with
        | error e => exact ⟨rfl, fun r hr => nomatch hr⟩
        | ok next =>
          obtain ⟨htaken, hdiag⟩ := ih next t₁
          have hnext : IsDiagnostic cfg ecu next := by
            unfold DoipTransport.receivePendingResponse TransportOn.receivePendingResponse at hread
            cases hsock : t.sock with
            | none => simp [hsock] at hread
            | some w =>
              simp only [hsock, readDiagnosticMessageBy_wire] at hread
              exact (readDiagnosticMessage_eq_ok.mp (Prod.ext (Prod.mk.inj hread).1 rfl)).1
          refine ⟨?_, ?_⟩
          · simp only [payloads, List.map_cons, furtherTaken, if_pos hpending]
            exact congrArg (next.uds :: ·) htaken
          · intro r hr
            rcases List.mem_cons.mp hr with rfl | hr
            · exact hnext
            · exact hdiag r hr
    · exact ⟨rfl, fun r hr => nomatch hr⟩

/-- What a call reads is readable. -/
theorem readable_messagesRead (env : CallEnv) (req : Bytes) (t : DoipTransport) :
    Readable (payloads (messagesRead cfg ecu env req t)) := by
  unfold messagesRead
  rcases (t.arrive env.arrivals).connect cfg env.dial env.activationSent env.arrivals with
    ⟨e | u, t₁⟩
  · exact ⟨rfl, fun m hm => nomatch hm⟩
  dsimp only
  cases hsend : t₁.sendAndReceive cfg ecu env.requestSent req with
  | mk res t₂ =>
    cases res with
    | error e => exact ⟨rfl, fun m hm => nomatch hm⟩
    | ok first =>
      obtain ⟨htaken, hdiag⟩ := @furtherMessages_readable cfg ecu kMaxPendingAttempts first t₂
      have hfirst : IsDiagnostic cfg ecu first := by
        unfold DoipTransport.sendAndReceive TransportOn.sendAndReceive at hsend
        cases hsock : t₁.sock with
        | none => simp [hsock] at hsend
        | some w =>
          simp only [hsock, receiveAnswerBy_wire] at hsend
          split_ifs at hsend
          · cases hsend
          · obtain ⟨-, -, -, hdiag, -⟩ :=
              receiveAnswer_eq_ok.mp (Prod.ext (Prod.mk.inj hsend).1 rfl)
            exact hdiag
      refine ⟨congrArg (first.uds :: ·) htaken, ?_⟩
      intro m hm
      obtain ⟨r, hr, rfl⟩ := List.mem_map.mp hm
      rcases List.mem_cons.mp hr with rfl | hr
      · exact hfirst.fits
      · exact (hdiag r hr).fits

/-! ## Whose messages they are -/

end

/-! ## The line -/

/-- The messages that the ECU sends in answer to a request that gets to it, after
everything that was exchanged before. -/
abbrev Ecu := List Exchange → Bytes → List Bytes

/-- The connection of one adapter: what each call meets on it, after everything before. -/
structure Line where
  cfg : TransportConfig := {}
  ecuLogicalAddress : UInt16
  env : List Exchange → Bytes → CallEnv
  delay : List Exchange → Bytes → Nat := fun _ _ => 0

namespace Line

variable (line : Line)

/-- The transport after the exchanges `xs`, which came after `before`. -/
def transportFrom : (before xs : List Exchange) → DoipTransport → DoipTransport
  | _, [], t => t
  | before, x :: xs, t =>
    transportFrom (before ++ [x]) xs
      (sendAndResolve line.cfg line.ecuLogicalAddress (line.env before x.request) x.request t).2

/-- The transport after all exchanges; it begins disconnected. -/
def transport (wire : List Exchange) : DoipTransport := line.transportFrom [] wire {}

/-- The messages that the next request reads. -/
def read (wire : List Exchange) (request : Bytes) : List Bytes :=
  payloads (messagesRead line.cfg line.ecuLogicalAddress (line.env wire request) request
    (line.transport wire))

/-- The next request is put on the wire whole. -/
def sends (wire : List Exchange) (request : Bytes) : Bool :=
  let env := line.env wire request
  (((line.transport wire).arrive env.arrivals).connect line.cfg env.dial env.activationSent
    env.arrivals).1.isOk && env.requestSent

/-- The ECU as the session manager knows it. -/
def bus : Bus where
  reply wire request :=
    (sendAndResolve line.cfg line.ecuLogicalAddress (line.env wire request) request
      (line.transport wire)).1.toOption.map Received.uds
  delay := line.delay

theorem bus_reply (wire : List Exchange) (request : Bytes) :
    line.bus.reply wire request = resolveAnswer (line.read wire request) :=
  sendAndResolve_messages ..

theorem transportFrom_append (before xs ys : List Exchange) (t : DoipTransport) :
    line.transportFrom before (xs ++ ys) t =
      line.transportFrom (before ++ xs) ys (line.transportFrom before xs t) := by
  induction xs generalizing before t with
  | nil => simp [transportFrom]
  | cons x xs ih => simp [transportFrom, ih]

/-- One more exchange. -/
theorem transport_snoc (wire : List Exchange) (x : Exchange) :
    line.transport (wire ++ [x]) =
      (sendAndResolve line.cfg line.ecuLogicalAddress (line.env wire x.request) x.request
        (line.transport wire)).2 := by
  unfold transport
  rw [transportFrom_append]
  rfl

/-! ### Whose answer it is -/

/-- The ECU answers no request before it is made. -/
def Causal : Prop :=
  ∀ wire request, ∀ b ∈ items (line.env wire request).arrivals, b.answers ≤ wire.length

/-- The connection after the exchanges, and how many they were. -/
def sys (wire : List Exchange) : DoipSys := ⟨line.transport wire, wire.length⟩

/-- The next call. -/
def call (wire : List Exchange) (request : Bytes) : CallEvent where
  req := request
  env := line.env wire request
  ret := (sendAndResolve line.cfg line.ecuLogicalAddress (line.env wire request) request
    (line.transport wire)).1

variable {line}

end Line

end Sovd
