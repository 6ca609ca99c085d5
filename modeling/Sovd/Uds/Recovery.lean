import Sovd.Uds.Pairing

/-!
# Losing a connection

The caller reconnects exactly when `is_connected()` is false, so a transport
that lost its stream must give up its socket. `connect` does, on every one of
its failure exits (`DoipTransport.connect_error`). `send_and_receive` and
`receive_pending_response` do not, on any of theirs: after a timeout, a closed
connection or a frame that does not parse, the socket stays, and every later
call writes to it (`dead_connection`).

`recovery_iff` puts this exactly: a run recovers from every loss if and only if
every exchange that gets as far as an open connection is served to its end
(`Served`: acked and answered within the cap, or refused).
-/

namespace Sovd

open StreamEvent

/-- A call that met a loss leaves the transport disconnected, so that the next
one dials and activates again; and so does a `connect` that fails. -/
structure Recovered (cfg : TransportConfig) (ecu : UInt16) (s : DoipSys) (e : CallEvent)
    (s' : DoipSys) : Prop where
  disconnected : ∀ err, e.ret = .error err → err.isLoss = true →
    s'.transport.isConnected = false
  activates_again : ∀ err, e.ret = .error err → err.isLoss = true →
    ∀ env req, env.dial = .established →
      ∃ ws, (sendAndResolve cfg ecu env req s'.transport).2.written =
        s'.transport.written ++
          encodeRoutingActivationRequest cfg.testerLogicalAddress 0x00 :: ws
  connect_failed : ∀ dial sent fresh err t',
    s.transport.connect cfg dial sent fresh = (.error err, t') → t'.isConnected = false

/-- The exchange is served: on the script the call opens, if it opens one, the
request goes out whole and a negative ack comes back, or an ack and a response
that is final or at the cap. -/
def Served (cfg : TransportConfig) (ecu : UInt16) (s : DoipSys) (e : CallEvent) (_ : DoipSys) :
    Prop :=
  ∀ w, Opens e.env s.transport w → e.env.requestSent = true ∧
    ((∃ w', Nacks w w') ∨ ∃ r w', Replies cfg ecu w r w')

/-! ## What is written -/

theorem resolvePending_written (cfg : TransportConfig) (ecu : UInt16) (n : Nat)
    (current : Received) (t : DoipTransport) :
    (resolvePending cfg ecu n current t).2.written = t.written := by
  induction n generalizing current t with
  | zero => rfl
  | succ n ih =>
    rw [resolvePending]
    split_ifs
    · cases hs : t.sock with
      | none =>
        simp only [DoipTransport.receivePendingResponse, TransportOn.receivePendingResponse, hs]
      | some w =>
        simp only [DoipTransport.receivePendingResponse, TransportOn.receivePendingResponse,
          readDiagnosticMessageBy_wire, hs]
        cases readDiagnosticMessage cfg ecu w with
        | mk res w₁ =>
          cases res with
          | error e => rfl
          | ok next => exact ih ..
    · rfl

theorem sendAndReceive_written (cfg : TransportConfig) (ecu : UInt16) (sent : Bool) (req : Bytes)
    (t : DoipTransport) :
    ∃ ws, (t.sendAndReceive cfg ecu sent req).2.written = t.written ++ ws := by
  unfold DoipTransport.sendAndReceive TransportOn.sendAndReceive
  split
  next => exact ⟨[], (List.append_nil _).symm⟩
  next w hw =>
    dsimp only
    split_ifs
    · exact ⟨_, rfl⟩
    · exact ⟨_, rfl⟩

/-- A call on a disconnected transport whose dial succeeds begins with a
routing activation. -/
theorem activates_of_disconnected {cfg : TransportConfig} {ecu : UInt16} {t : DoipTransport}
    (ht : t.sock = none) {env : CallEnv} (hdial : env.dial = .established) (req : Bytes) :
    ∃ ws, (sendAndResolve cfg ecu env req t).2.written =
      t.written ++ encodeRoutingActivationRequest cfg.testerLogicalAddress 0x00 :: ws := by
  have hconn : ((t.arrive env.arrivals).connect cfg env.dial env.activationSent
      env.arrivals).2.written =
        t.written ++ [encodeRoutingActivationRequest cfg.testerLogicalAddress 0x00] := by
    unfold DoipTransport.connect TransportOn.connect
    rw [if_neg (by simp [TransportOn.isConnected, DoipTransport.arrive, ht]),
      if_neg (not_not.mpr hdial)]
    dsimp only
    split
    next => rfl
    next => split <;> rfl
  unfold sendAndResolve
  cases hc : (t.arrive env.arrivals).connect cfg env.dial env.activationSent env.arrivals with
  | mk res t₁ =>
    rw [hc] at hconn
    cases res with
    | error e => exact ⟨[], hconn⟩
    | ok u =>
      obtain ⟨ws, hws⟩ := sendAndReceive_written cfg ecu env.requestSent req t₁
      dsimp only at hconn ⊢
      cases hr : t₁.sendAndReceive cfg ecu env.requestSent req with
      | mk res t₂ =>
        rw [hr] at hws
        refine ⟨ws, ?_⟩
        rw [hconn, List.append_assoc] at hws
        cases res with
        | error e => exact hws
        | ok first => exact (resolvePending_written ..).trans hws

/-! ## The exact condition -/

section Run

variable {cfg : TransportConfig} {ecu : UInt16} {s s' : DoipSys} {e : CallEvent}

/-- A failed `connect` always leaves the transport disconnected. -/
theorem connect_failed_disconnected (t : DoipTransport) :
    ∀ dial sent fresh err t', t.connect cfg dial sent fresh = (.error err, t') →
      t'.isConnected = false := by
  intro dial sent fresh err t' h
  rw [TransportOn.isConnected, DoipTransport.connect_error h]
  rfl

theorem recovered_iff_served (h : (doipLts cfg ecu).step s e s') :
    Recovered cfg ecu s e s' ↔ Served cfg ecu s e s' := by
  have hret : e.ret = (sendAndResolve cfg ecu e.env e.req s.transport).1 := by rw [h.2.1]
  have ht : s'.transport = (sendAndResolve cfg ecu e.env e.req s.transport).2 := by rw [h.2.1]
  by_cases hopen : ∃ w, Opens e.env s.transport w
  case neg =>
    -- the call ends in `connect`, disconnected whatever it met
    have hsock := (sendAndResolve_of_not_opens cfg ecu e.req
      (not_exists.mp hopen)).2
    rw [← ht] at hsock
    refine ⟨fun _ w hw => absurd ⟨w, hw⟩ hopen, fun _ => ⟨?_, ?_, connect_failed_disconnected _⟩⟩
    · intro err _ _
      rw [TransportOn.isConnected, hsock]
      rfl
    · intro err _ _ env req hdial
      exact activates_of_disconnected hsock hdial req
  obtain ⟨w, hw⟩ := hopen
  obtain ⟨⟨w', hs', -⟩, hok, hnack, herr⟩ := sendAndResolve_of_opens cfg ecu e.req hw
  -- the socket is still there, so recovering means not having met a loss
  have hconn : s'.transport.isConnected = true := by
    rw [TransportOn.isConnected, ht, hs']
    rfl
  constructor
  · intro hrec w₁ hw₁
    obtain rfl : w = w₁ := by
      rcases connect_cases cfg e.env s.transport with ⟨w₂, _, -, -, hu⟩ | ⟨_, _, -, -, hu⟩
      · exact ((hu w).mp hw).trans ((hu w₁).mp hw₁).symm
      · exact absurd hw (hu w)
    cases hres : e.ret with
    | ok r =>
      obtain ⟨hsent, hrep⟩ := (hok r w').mp ⟨by rw [← hret, hres], hs'⟩
      exact ⟨hsent, .inr ⟨r, w', hrep⟩⟩
    | error err =>
      rcases herr err (by rw [← hret, hres]) with rfl | hloss
      · obtain ⟨hsent, hn⟩ := (hnack w').mp ⟨by rw [← hret, hres], hs'⟩
        exact ⟨hsent, .inl ⟨w', hn⟩⟩
      · have := hrec.disconnected err hres hloss
        rw [hconn] at this
        cases this
  · intro hserved
    have hno : ∀ err, e.ret = .error err → err.isLoss = true → False := by
      intro err hres hloss
      rw [hret] at hres
      obtain ⟨hsent, ⟨w₁, hn⟩ | ⟨r, w₁, hr⟩⟩ := hserved w hw
      · rw [((hnack w₁).mpr ⟨hsent, hn⟩).1] at hres
        obtain rfl : TransportError.negativeAck = err := by simpa using hres
        cases hloss
      · rw [((hok r w₁).mpr ⟨hsent, hr⟩).1] at hres
        cases hres
    exact ⟨fun err he hl => (hno err he hl).elim, fun err he hl => (hno err he hl).elim,
      connect_failed_disconnected _⟩

end Run

/-- **Recovery, exactly.** A run gives up its connection after every loss if
and only if every exchange on an open connection is served; a failed `connect`
is no obstacle. -/
theorem recovery_iff {cfg : TransportConfig} {ecu : UInt16} {es : List CallEvent} {t : DoipSys} :
    (doipLts cfg ecu).Always (Recovered cfg ecu) es t ↔
      (doipLts cfg ecu).Always (Served cfg ecu) es t :=
  ⟨fun h => h.imp fun _ _ _ _ _ hs hr => (recovered_iff_served hs).mp hr,
    fun h => h.imp fun _ _ _ _ _ hs hv => (recovered_iff_served hs).mpr hv⟩

/-- A call on which the ECU restarts: the connection is activated and then closed. -/
def restartCall : CallEvent where
  req := Uds.encodeReadDataByIdentifier 0xF190
  env := { arrivals := ofItems (answering 0 activationFrame) ++ [.closed] }
  ret := .error .connectionClosed

/-- The call after the restart: the ECU would answer a new connection. -/
def retryCall : CallEvent where
  req := Uds.encodeReadDataByIdentifier 0xF190
  env := { arrivals := ofItems (answering 1 (activationFrame ++ ackFrame ++
    replyFrame [0x62, 0xF1, 0x90, 7])) }
  ret := .error .connectionClosed

/-- After the restart the socket stays, and the next call fails on it too. -/
theorem dead_connection :
    ∃ t, (doipLts {} 0x0E80).Hist [restartCall, retryCall] t ∧
      ¬ (doipLts {} 0x0E80).Always (Recovered {} 0x0E80) [restartCall, retryCall] t := by
  let s₁ : DoipSys := ⟨(sendAndResolve {} 0x0E80 restartCall.env restartCall.req {}).2, 1⟩
  let s₂ : DoipSys := ⟨(sendAndResolve {} 0x0E80 retryCall.env retryCall.req s₁.transport).2, 2⟩
  have h₁ : (doipLts {} 0x0E80).step {} restartCall s₁ := ⟨by decide, by rfl, rfl⟩
  have h₂ : (doipLts {} 0x0E80).step s₁ retryCall s₂ := ⟨by decide, by rfl, rfl⟩
  refine ⟨s₂, ⟨{}, rfl, s₁, h₁, s₂, h₂, rfl⟩, ?_⟩
  intro h
  have hr := h [restartCall] retryCall [] s₁ s₂ rfl ⟨{}, rfl, s₁, h₁, rfl⟩ h₂ rfl
  have hc := hr.disconnected .connectionClosed rfl rfl
  exact absurd hc (by decide)

end Sovd
