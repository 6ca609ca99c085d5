import Sovd.Uds.DoipTransport
import Sovd.Uds.UdsServices

/-!
# One request over the wire (`UdsDoipContext::send_and_resolve`)

Every UDS request of the adapter, the heartbeat's included, goes through this
function: connect if there is no connection, send, read the ack and the
response, and go on reading while the response says "pending" (`7F xx 78`), at
most ten times more.

`sendAndResolve_of_opens` says exactly when it returns a response, as the frames
the peer must have sent (`Replies`), when the gateway refused the request
(`Nacks`), and that every other call has lost the stream.

Mirroring notes vs the C++:
- The result `false` is an `error`; the code of the error is what the transport
  computed, which the C++ drops here.
- `CallEnv` is everything one call meets: how a dial would end, whether the
  sends go through, and what arrives on the connection until the call is over.
- `transport_mtx` makes the whole exchange one step.
-/

namespace Sovd

open StreamEvent

/-- `kMaxPendingAttempts` -/
def kMaxPendingAttempts : Nat := 10

/-- The response says "response pending". -/
def isPending (uds : Bytes) : Bool := Uds.isNegativeResponse uds == some 0x78

/-- What one call meets. -/
structure CallEnv where
  dial : Dial := .established
  activationSent : Bool := true
  requestSent : Bool := true
  arrivals : Wire := []

/-- The loop over pending responses; `n` attempts are left. -/
def resolvePending (cfg : TransportConfig) (ecu : UInt16) :
    Nat → Received → DoipTransport → Except TransportError Received × DoipTransport
  | 0, current, t => (.ok current, t)
  | n + 1, current, t =>
    if isPending current.uds then
      match t.receivePendingResponse cfg ecu with
      | (.error e, t) => (.error e, t)
      | (.ok next, t) => resolvePending cfg ecu n next t
    else (.ok current, t)

/-- What arrives during a call comes after what an open connection still holds. -/
def DoipTransport.arrive (t : DoipTransport) (arrivals : Wire) : DoipTransport :=
  { t with sock := t.sock.map (· ++ arrivals) }

/-- `send_and_resolve` -/
def sendAndResolve (cfg : TransportConfig) (ecu : UInt16) (env : CallEnv) (req : Bytes)
    (t : DoipTransport) : Except TransportError Received × DoipTransport :=
  match (t.arrive env.arrivals).connect cfg env.dial env.activationSent env.arrivals with
  | (.error e, t) => (.error e, t)
  | (.ok (), t) =>
    match t.sendAndReceive cfg ecu env.requestSent req with
    | (.error e, t) => (.error e, t)
    | (.ok current, t) => resolvePending cfg ecu kMaxPendingAttempts current t

/-! ## What the peer must have sent -/

/-- At the head of the script: pending responses, at most `n` and each read past,
and then `r`, which is either final or the one the loop stops at. -/
inductive Resolves (cfg : TransportConfig) (ecu : UInt16) :
    Nat → Received → Wire → Received → Wire → Prop
  | stop {current w} : Resolves cfg ecu 0 current w current w
  | final {n current w} (h : isPending current.uds = false) :
      Resolves cfg ecu (n + 1) current w current w
  | pending {n current next w r w'} (h : isPending current.uds = true)
      (hd : IsDiagnostic cfg ecu next) (hr : Resolves cfg ecu n next w r w') :
      Resolves cfg ecu (n + 1) current (ofItems next.frame ++ w) r w'

/-- At the head of the script: an ack, a diagnostic message, and what resolves it to `r`. -/
def Replies (cfg : TransportConfig) (ecu : UInt16) (w : Wire) (r : Received) (w' : Wire) : Prop :=
  ∃ ack payload first w₁, IsFrame .diagnosticMessagePositiveAck payload ack ∧
    IsDiagnostic cfg ecu first ∧ w = ofItems (ack ++ first.frame) ++ w₁ ∧
    Resolves cfg ecu kMaxPendingAttempts first w₁ r w'

/-- At the head of the script: a negative ack. -/
def Nacks (w w' : Wire) : Prop :=
  ∃ nack payload, IsFrame .diagnosticMessageNegativeAck payload nack ∧ w = ofItems nack ++ w'

/-- The script the request is sent on: that of the open connection, or what is
left of a new one after the gateway accepted the activation. -/
def Opens (env : CallEnv) (t : DoipTransport) (w : Wire) : Prop :=
  (∃ w₀, t.sock = some w₀ ∧ w = w₀ ++ env.arrivals) ∨
  (t.sock = none ∧ env.dial = .established ∧ env.activationSent = true ∧
    ∃ act, IsActivation act ∧ env.arrivals = ofItems act ++ w)

/-- A script is read in one way only. -/
theorem isDiagnostic_unique {cfg : TransportConfig} {ecu : UInt16} {r r' : Received} {w w' : Wire}
    (h : IsDiagnostic cfg ecu r) (h' : IsDiagnostic cfg ecu r')
    (hw : ofItems r.frame ++ w = ofItems r'.frame ++ w') : r = r' ∧ w = w' := by
  have hread := readDiagnosticMessage_eq_ok.mpr ⟨h', hw⟩
  rw [readDiagnosticMessage_eq_ok.mpr ⟨h, rfl⟩] at hread
  obtain ⟨rfl, rfl⟩ : r = r' ∧ w = w' := by simpa using hread
  exact ⟨rfl, rfl⟩

theorem resolvePending_eq_ok {cfg : TransportConfig} {ecu : UInt16} {n : Nat}
    {current r : Received} {t t' : DoipTransport} {w : Wire} (ht : t.sock = some w) :
    resolvePending cfg ecu n current t = (.ok r, t') ↔
      ∃ w', Resolves cfg ecu n current w r w' ∧ t' = { t with sock := some w' } := by
  induction n generalizing current t w with
  | zero =>
    rw [resolvePending]
    constructor
    · intro h
      obtain ⟨rfl, rfl⟩ : current = r ∧ t = t' := by simpa using h
      exact ⟨w, .stop, by rw [← ht]⟩
    · intro h
      obtain ⟨w', hr, rfl⟩ := h
      cases hr
      rw [← ht]
  | succ n ih =>
    rw [resolvePending]
    cases hp : isPending current.uds with
    | false =>
      rw [if_neg (by simp)]
      constructor
      · intro h
        obtain ⟨rfl, rfl⟩ : current = r ∧ t = t' := by simpa using h
        exact ⟨w, .final hp, by rw [← ht]⟩
      · intro h
        obtain ⟨w', hr, rfl⟩ := h
        cases hr with
        | final => rw [← ht]
        | pending hpend => simp [hp] at hpend
    | true =>
      rw [if_pos rfl]
      simp only [DoipTransport.receivePendingResponse, TransportOn.receivePendingResponse,
        readDiagnosticMessageBy_wire, ht]
      cases hread : readDiagnosticMessage cfg ecu w with
      | mk res w₁ =>
        cases res with
        | error e =>
          simp only [Prod.mk.injEq, reduceCtorEq, false_and, false_iff]
          intro h
          obtain ⟨w', hr, -⟩ := h
          cases hr with
          | final hfin => simp [hp] at hfin
          | pending _ hd _ =>
            rw [readDiagnosticMessage_eq_ok.mpr ⟨hd, rfl⟩] at hread
            simp at hread
        | ok next =>
          obtain ⟨hd, rfl⟩ := readDiagnosticMessage_eq_ok.mp hread
          rw [ih (t := { t with sock := some w₁ }) rfl]
          constructor
          · intro h
            obtain ⟨w', hr, rfl⟩ := h
            exact ⟨w', .pending hp hd hr, rfl⟩
          · intro h
            obtain ⟨w', hr, rfl⟩ := h
            -- the derivation reads a frame too, and it is the one that was read
            generalize hw : ofItems next.frame ++ w₁ = w₀ at hr
            cases hr with
            | final hfin => simp [hp] at hfin
            | @pending _ _ next' w₂ _ _ _ hd' hr =>
              obtain ⟨rfl, rfl⟩ := isDiagnostic_unique hd hd' hw
              exact ⟨w', hr, rfl⟩

/-- What a call does before it sends: it opens a script, or ends disconnected. -/
theorem connect_cases (cfg : TransportConfig) (env : CallEnv) (t : DoipTransport) :
    (∃ w t₁, (t.arrive env.arrivals).connect cfg env.dial env.activationSent env.arrivals =
        (.ok (), t₁) ∧ t₁.sock = some w ∧ ∀ w', Opens env t w' ↔ w' = w) ∨
    (∃ e t₁, (t.arrive env.arrivals).connect cfg env.dial env.activationSent env.arrivals =
        (.error e, t₁) ∧ t₁.sock = none ∧ ∀ w', ¬ Opens env t w') := by
  cases hs : t.sock with
  | some w₀ =>
    have harr : (t.arrive env.arrivals).sock = some (w₀ ++ env.arrivals) := by
      simp [DoipTransport.arrive, hs]
    -- `connect` does nothing on an open connection
    refine .inl ⟨_, _, DoipTransport.connect_of_connected _ _ _ _ harr, harr, ?_⟩
    intro w'
    simp [Opens, hs]
  | none =>
    have harr : (t.arrive env.arrivals).sock = none := by simp [DoipTransport.arrive, hs]
    cases hc : (t.arrive env.arrivals).connect cfg env.dial env.activationSent env.arrivals with
    | mk res t₁ =>
      cases res with
      | error e =>
        refine .inr ⟨e, t₁, rfl, DoipTransport.connect_error hc, ?_⟩
        intro w' hopen
        rcases hopen with ⟨w₀, h, -⟩ | ⟨-, hdial, hsent, act, hact, harrv⟩
        · simp [hs] at h
        · rw [(DoipTransport.connect_eq_ok harr).mpr
            ⟨hdial, hsent, act, w', hact, harrv, rfl⟩] at hc
          simp at hc
      | ok u =>
        obtain ⟨hdial, hsent, act, w, hact, harrv, rfl⟩ := (DoipTransport.connect_eq_ok harr).mp hc
        refine .inl ⟨w, _, rfl, rfl, ?_⟩
        intro w'
        constructor
        · intro hopen
          rcases hopen with ⟨w₀, h, -⟩ | ⟨-, -, -, act', hact', harrv'⟩
          · simp [hs] at h
          · -- what is left after the activation does not depend on how it is read
            have h₁ := awaitActivation_eq_ok.mpr ⟨act, hact, harrv⟩
            rw [awaitActivation_eq_ok.mpr ⟨act', hact', harrv'⟩] at h₁
            simpa using h₁
        · intro h
          exact .inr ⟨hs, hdial, hsent, act, hact, h ▸ harrv⟩

/-- The loop keeps its connection and leaves the end of what it held. -/
theorem resolvePending_sock (cfg : TransportConfig) (ecu : UInt16) (n : Nat)
    (current : Received) {t : DoipTransport} {w : Wire} (ht : t.sock = some w) :
    ∃ w', (resolvePending cfg ecu n current t).2.sock = some w' ∧ w' <:+ w := by
  induction n generalizing current t w with
  | zero => exact ⟨w, ht, List.suffix_refl w⟩
  | succ n ih =>
    rw [resolvePending]
    split_ifs
    · have hsuf := readDiagnosticMessage_suffix cfg ecu w
      simp only [DoipTransport.receivePendingResponse, TransportOn.receivePendingResponse,
        readDiagnosticMessageBy_wire, ht]
      cases hread : readDiagnosticMessage cfg ecu w with
      | mk res w₁ =>
        rw [hread] at hsuf
        cases res with
        | error e => exact ⟨w₁, rfl, hsuf⟩
        | ok next =>
          obtain ⟨w', hs, hw'⟩ := ih next (t := { t with sock := some w₁ }) rfl
          exact ⟨w', hs, hw'.trans hsuf⟩
    · exact ⟨w, ht, List.suffix_refl w⟩

/-- The loop fails by losing the stream, in no other way. -/
theorem resolvePending_error {cfg : TransportConfig} {ecu : UInt16} {n : Nat}
    (current : Received) {t : DoipTransport} {w : Wire} {e : TransportError} (ht : t.sock = some w)
    (h : (resolvePending cfg ecu n current t).1 = .error e) : e.isLoss = true := by
  induction n generalizing current t w with
  | zero => simp [resolvePending] at h
  | succ n ih =>
    rw [resolvePending] at h
    split_ifs at h
    · simp only [DoipTransport.receivePendingResponse, TransportOn.receivePendingResponse,
        readDiagnosticMessageBy_wire, ht] at h
      cases hread : readDiagnosticMessage cfg ecu w with
      | mk res w₁ =>
        rw [hread] at h
        cases res with
        | error e' =>
          obtain rfl : e' = e := by simpa using h
          exact readDiagnosticMessage_error hread
        | ok next => exact ih next (t := { t with sock := some w₁ }) rfl h

/-! ## Everything a call can do -/

section Call

variable (cfg : TransportConfig) (ecu : UInt16) (req : Bytes) {env : CallEnv} {t : DoipTransport}

/-- A call that opens no script fails disconnected. -/
theorem sendAndResolve_of_not_opens (h : ∀ w, ¬ Opens env t w) :
    (∃ e, (sendAndResolve cfg ecu env req t).1 = .error e) ∧
      (sendAndResolve cfg ecu env req t).2.sock = none := by
  unfold sendAndResolve
  rcases connect_cases cfg env t with ⟨w, t₁, -, -, hopen⟩ | ⟨e, t₁, hc, hnone, -⟩
  · exact absurd ((hopen w).mpr rfl) (h w)
  · rw [hc]
    exact ⟨⟨e, rfl⟩, hnone⟩

/-- A call that opens a script stays connected, on the end of that script; it
returns a response, or was refused, or has lost the stream. -/
theorem sendAndResolve_of_opens {w : Wire} (h : Opens env t w) :
    (∃ w', (sendAndResolve cfg ecu env req t).2.sock = some w' ∧ w' <:+ w) ∧
    (∀ r w', (sendAndResolve cfg ecu env req t).1 = .ok r ∧
        (sendAndResolve cfg ecu env req t).2.sock = some w' ↔
      env.requestSent = true ∧ Replies cfg ecu w r w') ∧
    (∀ w', (sendAndResolve cfg ecu env req t).1 = .error .negativeAck ∧
        (sendAndResolve cfg ecu env req t).2.sock = some w' ↔
      env.requestSent = true ∧ Nacks w w') ∧
    (∀ e, (sendAndResolve cfg ecu env req t).1 = .error e → e = .negativeAck ∨ e.isLoss) := by
  unfold sendAndResolve
  rcases connect_cases cfg env t with ⟨w₀, t₁, hc, hsock, hopen⟩ | ⟨e, t₁, -, -, hnot⟩
  case inr => exact absurd h (hnot w)
  obtain rfl := (hopen w).mp h
  rw [hc]
  simp only [DoipTransport.sendAndReceive, TransportOn.sendAndReceive, receiveAnswerBy_wire, hsock]
  cases env.requestSent with
  | false =>
    -- the request did not go out: nothing is read, and the connection stays
    simp only [Bool.not_false, if_true]
    refine ⟨⟨w, rfl, List.suffix_refl w⟩, by simp, by simp, ?_⟩
    intro e he
    obtain rfl : TransportError.connectionClosed = e := by simpa using he
    exact .inr rfl
  | true =>
    simp only [Bool.not_true, Bool.false_eq_true, if_false]
    have hsuf := receiveAnswer_suffix cfg ecu w
    cases hans : receiveAnswer cfg ecu w with
    | mk res w₁ =>
      rw [hans] at hsuf
      cases res with
      | error e =>
        refine ⟨⟨w₁, rfl, hsuf⟩, ?_, ?_, ?_⟩
        · intro r w'
          simp only [reduceCtorEq, false_and, true_and, false_iff]
          intro hrep
          obtain ⟨ack, payload, first, w₂, hack, hd, hw, -⟩ := hrep
          rw [receiveAnswer_eq_ok.mpr ⟨ack, payload, hack, hd, hw⟩] at hans
          simp at hans
        · intro w'
          simp only [Except.error.injEq, Option.some.injEq, true_and]
          constructor
          · intro h
            obtain ⟨rfl, rfl⟩ := h
            exact receiveAnswer_eq_nack.mp hans
          · intro hn
            rw [receiveAnswer_eq_nack.mpr hn] at hans
            obtain ⟨rfl, rfl⟩ : TransportError.negativeAck = e ∧ w' = w₁ := by simpa using hans
            exact ⟨rfl, rfl⟩
        · intro e' he
          obtain rfl : e = e' := by simpa using he
          exact receiveAnswer_error hans
      | ok first =>
        obtain ⟨ack, payload, hack, hd, hw⟩ := receiveAnswer_eq_ok.mp hans
        dsimp only
        set t₂ : DoipTransport := ⟨some w₁, t₁.written ++
          [encodeDiagnosticMessage cfg.testerLogicalAddress ecu req]⟩
        have hsock₂ : t₂.sock = some w₁ := rfl
        refine ⟨?_, ?_, ?_, ?_⟩
        · obtain ⟨w', hs, hw'⟩ := resolvePending_sock cfg ecu kMaxPendingAttempts first hsock₂
          exact ⟨w', hs, hw'.trans hsuf⟩
        · intro r w'
          simp only [true_and]
          constructor
          · intro h
            obtain ⟨hr, hs⟩ := h
            obtain ⟨w'', hres, ht⟩ := (resolvePending_eq_ok hsock₂).mp (Prod.ext hr rfl)
            obtain rfl : w'' = w' := by simpa using (congrArg TransportOn.sock ht).symm.trans hs
            exact ⟨ack, payload, first, w₁, hack, hd, hw, hres⟩
          · intro h
            obtain ⟨ack', payload', first', w₂, hack', hd', hw', hres⟩ := h
            have hans' := receiveAnswer_eq_ok.mpr ⟨ack', payload', hack', hd', hw'⟩
            rw [hans] at hans'
            obtain ⟨rfl, rfl⟩ : first = first' ∧ w₁ = w₂ := by simpa using hans'
            rw [(resolvePending_eq_ok hsock₂).mpr ⟨w', hres, rfl⟩]
            exact ⟨rfl, rfl⟩
        · intro w'
          simp only [true_and]
          constructor
          · -- an acked request is not refused any more
            intro h
            exact absurd (resolvePending_error first hsock₂ h.1) (by simp [TransportError.isLoss])
          · intro hn
            rw [receiveAnswer_eq_nack.mpr hn] at hans
            simp at hans
        · intro e he
          exact .inr (resolvePending_error first hsock₂ he)

end Call

/-! ## The messages of an answer -/

/-- The loop over pending responses, on the messages alone. -/
def resolveMessages : Nat → Bytes → List Bytes → Option Bytes
  | 0, current, _ => some current
  | n + 1, current, rest =>
    if isPending current then
      match rest with
      | [] => none
      | next :: rest => resolveMessages n next rest
    else some current

/-- What a request returns, given the messages the ECU sends in answer to it. -/
def resolveAnswer : List Bytes → Option Bytes
  | [] => none
  | first :: rest => resolveMessages kMaxPendingAttempts first rest

theorem resolveMessages_of_final (n : Nat) {current : Bytes} (rest : List Bytes)
    (h : isPending current = false) : resolveMessages n current rest = some current := by
  cases n <;> simp [resolveMessages, h]

/-- The frames of a resolved answer are those of its messages. -/
theorem Resolves.messages {cfg : TransportConfig} {ecu : UInt16} {n : Nat} {current r : Received}
    {w w' : Wire} (h : Resolves cfg ecu n current w r w') :
    ∃ rest : List Received, (∀ m ∈ rest, IsDiagnostic cfg ecu m) ∧
      w = ofItems (rest.flatMap Received.frame) ++ w' ∧
      resolveMessages n current.uds (rest.map Received.uds) = some r.uds := by
  induction h with
  | stop => exact ⟨[], by simp, by simp [ofItems], rfl⟩
  | final h => exact ⟨[], by simp, by simp [ofItems], resolveMessages_of_final _ _ h⟩
  | @pending n current next w r w' h hd hr ih =>
    obtain ⟨rest, hrest, hw, hres⟩ := ih
    refine ⟨next :: rest, ?_, ?_, ?_⟩
    · intro m hm
      rcases List.mem_cons.mp hm with rfl | hm
      · exact hd
      · exact hrest m hm
    · rw [List.flatMap_cons, ofItems_append, List.append_assoc, hw]
    · rw [List.map_cons]
      simp only [resolveMessages, h, if_true]
      exact hres

/-- **A call that returns has read an ack and then the messages of an answer**, and it
returns what they resolve to. -/
theorem Replies.messages {cfg : TransportConfig} {ecu : UInt16} {w w' : Wire} {r : Received}
    (h : Replies cfg ecu w r w') :
    ∃ ack payload, IsFrame .diagnosticMessagePositiveAck payload ack ∧
      ∃ answer : List Received, (∀ m ∈ answer, IsDiagnostic cfg ecu m) ∧
        w = ofItems (ack ++ answer.flatMap Received.frame) ++ w' ∧
        resolveAnswer (answer.map Received.uds) = some r.uds := by
  obtain ⟨ack, payload, first, w₁, hack, hd, rfl, hres⟩ := h
  obtain ⟨rest, hrest, rfl, hmessages⟩ := hres.messages
  refine ⟨ack, payload, hack, first :: rest, ?_, ?_, hmessages⟩
  · intro m hm
    rcases List.mem_cons.mp hm with rfl | hm
    · exact hd
    · exact hrest m hm
  · simp only [List.flatMap_cons, ofItems_append, List.append_assoc]

end Sovd
