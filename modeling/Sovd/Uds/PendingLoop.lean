import Sovd.Lib.FirstStop
import Sovd.Uds.Recovery
import Sovd.Uds.WriteGate

/-!
# The loop over pending responses (`UdsDoipContext::send_and_resolve`)

An ECU that needs time answers `7F xx 78`, as often as it likes, and the adapter reads on.
What a call reads is a sequence (`nthRead`): the answer to its request first, then one
further message at a time. The call goes along it and returns what it stops at
(`sendAndResolve_stops`): the first read that is no pending response, or the eleventh.

So a final response after up to ten pending ones is returned, and eleven pending ones end
the call with the last of them, which `CallsReport` follows into the four calls of the
adapter: no decoder takes it for a positive response, and its NRC is `busy`.
-/

namespace Sovd

open StreamEvent Uds SessionManager

/-! ## The reads of a call -/

/-- What the reads of a call return, were they all made, and what each leaves. -/
def nthRead (cfg : TransportConfig) (ecu : UInt16) (w : Wire) :
    ℕ → Except TransportError Received × Wire
  | 0 => receiveAnswer cfg ecu w
  | n + 1 => readDiagnosticMessage cfg ecu (nthRead cfg ecu w n).2

/-- The read returned a pending response. -/
def ReadPending (read : Except TransportError Received × Wire) : Prop :=
  ∃ r, read.1 = .ok r ∧ isPending r.uds = true

section

variable {cfg : TransportConfig} {ecu : UInt16} {w : Wire}

/-- The loop, from the read at which it stands. -/
theorem resolvePending_stops {n i : ℕ} {current : Received} {t : DoipTransport}
    (hsock : t.sock = some (nthRead cfg ecu w i).2)
    (hread : (nthRead cfg ecu w i).1 = .ok current) :
    ∃ k, StopsAt ReadPending (fun j => nthRead cfg ecu w (i + j)) n k ∧
      resolvePending cfg ecu n current t =
        ((nthRead cfg ecu w (i + k)).1, { t with sock := some (nthRead cfg ecu w (i + k)).2 }) := by
  induction n generalizing i current t with
  -- induction on the attempts left, for any number `i` of reads made
  | zero =>
    refine ⟨0, .zero, ?_⟩
    rw [resolvePending, Nat.add_zero, hread, ← hsock]
  | succ n ih =>
    rw [resolvePending]
    cases hpending : isPending current.uds with
    | false =>
      refine ⟨0, .now ?_, ?_⟩
      · rintro ⟨r, hr, hagain⟩
        obtain rfl := Except.ok.inj (hread.symm.trans hr)
        rw [hpending] at hagain
        cases hagain
      · rw [if_neg Bool.false_ne_true, Nat.add_zero, hread, ← hsock]
    | true =>
      have hagain : ReadPending (nthRead cfg ecu w (i + 0)) := ⟨current, hread, hpending⟩
      -- a read from `i + 1` on is one from `i` on, one later
      have hshift : ∀ k, nthRead cfg ecu w (i + 1 + k) = nthRead cfg ecu w (i + (k + 1)) := by
        intro k
        rw [Nat.add_assoc, Nat.add_comm 1 k]
      rw [if_pos rfl]
      simp only [DoipTransport.receivePendingResponse, TransportOn.receivePendingResponse,
        readDiagnosticMessageBy_wire, hsock]
      cases hnext : readDiagnosticMessage cfg ecu (nthRead cfg ecu w i).2 with
      | mk res w₁ =>
        have hnth : nthRead cfg ecu w (i + 1) = (res, w₁) := hnext
        cases res with
        | error e =>
          refine ⟨1, .step hagain (.now ?_), by rw [hnth]⟩
          rintro ⟨r, hr, -⟩
          rw [Nat.zero_add, hnth] at hr
          cases hr
        | ok next =>
          obtain ⟨k, hk, hresult⟩ :=
            @ih (i + 1) next { t with sock := some w₁ } (by rw [hnth]) (by rw [hnth])
          simp only [hshift] at hk hresult
          exact ⟨k + 1, .step hagain hk, hresult⟩

variable {env : CallEnv} {t : DoipTransport}

/-- What a call writes before its request: nothing on an open connection. -/
def activationWritten (cfg : TransportConfig) (t : DoipTransport) : List Bytes :=
  if t.isConnected then [] else [encodeRoutingActivationRequest cfg.testerLogicalAddress 0x00]

/-- A call that opens a script is connected on it, and has written no request yet. -/
theorem connect_of_opens (hopen : Opens env t w) :
    (t.arrive env.arrivals).connect cfg env.dial env.activationSent env.arrivals =
      (.ok (), ⟨some w, t.written ++ activationWritten cfg t⟩) := by
  rcases hopen with ⟨w₀, hsock, rfl⟩ | ⟨hsock, hdial, hsent, act, hact, harrivals⟩
  · have harrive : (t.arrive env.arrivals).sock = some (w₀ ++ env.arrivals) := by
      simp [DoipTransport.arrive, hsock]
    rw [DoipTransport.connect_of_connected _ _ _ _ harrive]
    simp [DoipTransport.arrive, activationWritten, TransportOn.isConnected, hsock]
  · have harrive : (t.arrive env.arrivals).sock = none := by simp [DoipTransport.arrive, hsock]
    refine (DoipTransport.connect_eq_ok harrive).mpr ⟨hdial, hsent, act, w, hact, harrivals, ?_⟩
    simp [DoipTransport.arrive, activationWritten, TransportOn.isConnected, hsock]

variable (cfg ecu) in
/-- A call whose request goes out returns what its loop stops at, and writes one request. -/
theorem sendAndResolve_stops (req : Bytes) (hopen : Opens env t w)
    (hsent : env.requestSent = true) :
    ∃ k, StopsAt ReadPending (nthRead cfg ecu w) kMaxPendingAttempts k ∧
      sendAndResolve cfg ecu env req t =
        ((nthRead cfg ecu w k).1,
          ⟨some (nthRead cfg ecu w k).2, t.written ++ activationWritten cfg t ++
            [encodeDiagnosticMessage cfg.testerLogicalAddress ecu req]⟩) := by
  unfold sendAndResolve
  rw [connect_of_opens hopen]
  simp only [DoipTransport.sendAndReceive, TransportOn.sendAndReceive, receiveAnswerBy_wire,
    hsent, Bool.not_true, Bool.false_eq_true, if_false]
  cases hanswer : receiveAnswer cfg ecu w with
  | mk res w₁ =>
    have hfirst : nthRead cfg ecu w 0 = (res, w₁) := hanswer
    cases res with
    | error e =>
      refine ⟨0, .now ?_, by rw [hfirst]⟩
      rintro ⟨r, hr, -⟩
      rw [hfirst] at hr
      cases hr
    | ok first =>
      let sent : DoipTransport := ⟨some w₁, t.written ++ activationWritten cfg t ++
        [encodeDiagnosticMessage cfg.testerLogicalAddress ecu req]⟩
      have hsock : sent.sock = some (nthRead cfg ecu w 0).2 := by rw [hfirst]
      have hread : (nthRead cfg ecu w 0).1 = .ok first := by rw [hfirst]
      obtain ⟨k, hk, hresult⟩ := resolvePending_stops (n := kMaxPendingAttempts) hsock hread
      simp only [Nat.zero_add] at hk hresult
      exact ⟨k, hk, hresult⟩

/-! ## The messages the ECU delivers -/

/-- At the head of the script: an ack, and then these messages. -/
def Delivers (cfg : TransportConfig) (ecu : UInt16) (w : Wire) (messages : List Received)
    (w' : Wire) : Prop :=
  ∃ ack payload, IsFrame .diagnosticMessagePositiveAck payload ack ∧
    (∀ r ∈ messages, IsDiagnostic cfg ecu r) ∧
    w = ofItems (ack ++ messages.flatMap Received.frame) ++ w'

/-- The messages are what the reads return, one each. -/
theorem nthRead_of_delivers {messages : List Received} {w' : Wire}
    (h : Delivers cfg ecu w messages w') {i : ℕ} {r : Received} (hr : messages[i]? = some r) :
    nthRead cfg ecu w i =
      (.ok r, ofItems ((messages.drop (i + 1)).flatMap Received.frame) ++ w') := by
  obtain ⟨ack, payload, hack, hdiag, rfl⟩ := h
  have hmem : IsDiagnostic cfg ecu r := hdiag r (List.mem_of_getElem? hr)
  obtain ⟨hi, hget⟩ := List.getElem?_eq_some_iff.mp hr
  have hdrop : messages.drop i = r :: messages.drop (i + 1) := by
    rw [List.drop_eq_getElem_cons hi, hget]
  induction i generalizing r with
  | zero =>
    refine receiveAnswer_eq_ok.mpr ⟨ack, payload, hack, hmem, ?_⟩
    rw [List.drop_zero] at hdrop
    rw [← List.append_assoc, ← ofItems_append, List.append_assoc]
    conv_lhs => rw [hdrop, List.flatMap_cons]
  | succ i ih =>
    have hlt : i < messages.length := Nat.lt_of_succ_lt hi
    have hbefore := ih (r := messages[i]) (List.getElem?_eq_getElem hlt)
      (hdiag _ (List.getElem_mem hlt)) hlt rfl (List.drop_eq_getElem_cons hlt)
    rw [nthRead, hbefore]
    refine readDiagnosticMessage_eq_ok.mpr ⟨hmem, ?_⟩
    rw [hdrop, List.flatMap_cons, ofItems_append, List.append_assoc]

end

/-! ## What the adapter makes of a pending response -/

/-- What the calls report when this is the response to their request. -/
structure CallsReport (resp : Bytes) (result : SovdResult) : Prop where
  readFaults : ∀ (c : UdsContext) (s s' : SessionManager) (path : Bytes),
    send c.bus (encodeReadDtcByStatusMask 0xFF) s = (some resp, s') →
      (c.readFaults s path).1 = result
  clearFaults : ∀ (c : UdsContext) (s s' : SessionManager) (path : Bytes),
    send c.bus encodeClearDiagnosticInformation s = (some resp, s') →
      (c.clearFaults s path).1 = result
  readData : ∀ (c : UdsContext) (s s' : SessionManager) (path did : Bytes) (number : UInt16),
    parseHexU16 did = some number →
    send c.bus (encodeReadDataByIdentifier number) s = (some resp, s') →
      (c.readData s path did).1 = result
  writeData : ∀ (c : UdsContext) (s s₁ s₂ s' : SessionManager) (path did data : Bytes)
      (number : UInt16), parseHexU16 did = some number →
    c.ensureSessionForDid number s = (true, s₁) → c.ensureSecurityForDid number s₁ = (true, s₂) →
    send c.bus (c.writeRequest number data) s₂ = (some resp, s') →
      (c.writeData s path did data).1 = result
  executeOperation : ∀ (c : UdsContext) (s s₁ s' : SessionManager) (path op params : Bytes)
      (operation : Operation), (c.catalogData.bind fun cat => cat.findOperation op) =
        some operation →
    c.ensureSessionNamed operation.requiresSession s = (true, s₁) →
    send c.bus (encodeRoutineControl kRoutineStart operation.routineId []) s₁ = (some resp, s') →
      (c.executeOperation s path op params).1 = result

theorem exists_of_isPending {uds : Bytes} (h : isPending uds = true) :
    ∃ sid rest, uds = 0x7F :: sid :: 0x78 :: rest := by
  have hnrc : isNegativeResponse uds = some 0x78 := eq_of_beq h
  unfold isNegativeResponse at hnrc
  split at hnrc
  next first sid nrc rest =>
    split_ifs at hnrc with hfirst
    obtain rfl := Option.some.inj hnrc
    exact ⟨sid, rest, by rw [hfirst]⟩
  next => cases hnrc

/-- A pending response is no positive one, and its NRC means `busy`. -/
theorem callsReport_busy {uds : Bytes} (h : isPending uds = true) : CallsReport uds .busy := by
  obtain ⟨sid, rest, rfl⟩ := exists_of_isPending h
  have hbusy : negativeOrInternal (0x7F :: sid :: 0x78 :: rest) = .busy := rfl
  -- a negative response echoes no DID
  have hdid : ∀ service number, service + 0x40 ≠ 0x7F →
      echoesDid service number (0x7F :: sid :: 0x78 :: rest) = none :=
    fun service number hservice => if_pos hservice.symm
  -- one call after the other: no decoder takes the response, so the NRC decides
  refine ⟨?_, ?_, ?_, ?_, ?_⟩
  · intro c s s' path hsend
    have hdecode : decodeReadDtcByStatusMask (0x7F :: sid :: 0x78 :: rest) = none := by
      rw [decodeReadDtcByStatusMask]
      exact if_pos (.inl (by decide))
    rw [UdsContext.readFaults, hsend]
    dsimp only
    rw [hdecode]
    exact hbusy
  · intro c s s' path hsend
    rw [UdsContext.clearFaults, UdsContext.exchange, hsend]
    exact hbusy
  · intro c s s' path did number hnumber hsend
    have hdecode : decodeReadDataByIdentifier (0x7F :: sid :: 0x78 :: rest) number = none :=
      hdid _ number (by decide)
    rw [UdsContext.readData, hnumber]
    dsimp only
    rw [hsend]
    dsimp only
    rw [hdecode]
    exact hbusy
  · intro c s s₁ s₂ s' path did data number hnumber hsession hlevel hsend
    unfold UdsContext.writeRequest at hsend
    rw [UdsContext.writeData, hnumber]
    dsimp only
    rw [hsession]
    dsimp only
    rw [hlevel]
    dsimp only
    -- an actuator is written by IO control, any other item by a write
    split_ifs at hsend ⊢
    · have hdecode : decodeIoControl (0x7F :: sid :: 0x78 :: rest) number = false := by
        rw [decodeIoControl, hdid _ number (by decide)]
        rfl
      rw [UdsContext.exchange, hsend]
      dsimp only
      rw [hdecode]
      exact hbusy
    · have hdecode : decodeWriteDataByIdentifier (0x7F :: sid :: 0x78 :: rest) number = false := by
        rw [decodeWriteDataByIdentifier, hdid _ number (by decide)]
        rfl
      rw [UdsContext.exchange, hsend]
      dsimp only
      rw [hdecode]
      exact hbusy
  · intro c s s₁ s' path op params operation hop hsession hsend
    have hdecode :
        decodeRoutineControl (0x7F :: sid :: 0x78 :: rest) operation.routineId = none := by
      unfold decodeRoutineControl
      split
      next s _ _ _ _ heq =>
        obtain ⟨rfl, -⟩ := List.cons.inj heq
        exact if_pos (by decide)
      next => rfl
    rw [UdsContext.executeOperation, hop]
    dsimp only
    rw [hsession]
    dsimp only
    rw [hsend]
    dsimp only
    rw [hdecode]
    exact hbusy

/-! ## The loop as a whole -/

section

variable {cfg : TransportConfig} {ecu : UInt16} {env : CallEnv} {t t' : DoipTransport} {w : Wire}
  {result : Except TransportError Received}

/-- **The loop over pending responses**: up to ten of them are read past, eleven are
returned as `busy`, never more than eleven messages are read, for one request, and the
call fails when one of these reads does. -/
theorem response_pending_loop {req : Bytes} (hopen : Opens env t w) (hsent : env.requestSent = true)
    (hcall : sendAndResolve cfg ecu env req t = (result, t')) :
    (∀ pending f w', Delivers cfg ecu w (pending ++ [f]) w' →
      (∀ p ∈ pending, isPending p.uds = true) → isPending f.uds = false →
      pending.length ≤ kMaxPendingAttempts → result = .ok f ∧ t'.sock = some w') ∧
    (∀ pending w', Delivers cfg ecu w pending w' → (∀ p ∈ pending, isPending p.uds = true) →
      pending.length = kMaxPendingAttempts + 1 →
      ∃ last ∈ pending.getLast?, result = .ok last ∧ t'.sock = some w' ∧
        CallsReport last.uds .busy) ∧
    (∃ k ≤ kMaxPendingAttempts, (∀ i < k, ReadPending (nthRead cfg ecu w i)) ∧
      (result, t'.sock) = ((nthRead cfg ecu w k).1, some (nthRead cfg ecu w k).2) ∧
      ((∃ e, result = .error e) ↔ ∃ i ≤ k, ∃ e, (nthRead cfg ecu w i).1 = .error e)) ∧
    t'.written = t.written ++ activationWritten cfg t ++
      [encodeDiagnosticMessage cfg.testerLogicalAddress ecu req] := by
  -- the loop stops at one read `k`; each part is about where that is
  obtain ⟨k, hk, heq⟩ := sendAndResolve_stops cfg ecu req hopen hsent
  rw [hcall] at heq
  obtain ⟨rfl, rfl⟩ := Prod.mk.inj heq
  refine ⟨?_, ?_, ⟨k, hk.le, hk.before, rfl, ?_⟩, rfl⟩
  · intro pending f w' hdelivers hpending hfinal hle
    have hread : ∀ i (hi : i < pending.length), ReadPending (nthRead cfg ecu w i) := by
      intro i hi
      have hget : (pending ++ [f])[i]? = some pending[i] := by
        rw [List.getElem?_append_left hi, List.getElem?_eq_getElem hi]
      exact ⟨pending[i], by rw [nthRead_of_delivers hdelivers hget],
        hpending _ (List.getElem_mem hi)⟩
    have hlast := nthRead_of_delivers hdelivers (i := pending.length) (r := f) (by simp)
    -- the final response is the first that is not pending
    have hstop : StopsAt ReadPending (nthRead cfg ecu w) kMaxPendingAttempts pending.length := by
      refine ⟨hle, hread, .inr ?_⟩
      rintro ⟨r, hr, hagain⟩
      rw [hlast] at hr
      obtain rfl := Except.ok.inj hr
      rw [hfinal] at hagain
      cases hagain
    rw [hk.unique hstop, hlast]
    simp [ofItems]
  · intro pending w' hdelivers hpending hlen
    have hread : ∀ i (hi : i < pending.length), (nthRead cfg ecu w i).1 = .ok pending[i] := by
      intro i hi
      rw [nthRead_of_delivers hdelivers (List.getElem?_eq_getElem hi)]
    have hstop : StopsAt ReadPending (nthRead cfg ecu w) kMaxPendingAttempts
        kMaxPendingAttempts := by
      refine ⟨Nat.le_refl _, fun i hi => ?_, .inl rfl⟩
      exact ⟨pending[i], hread i (by omega), hpending _ (List.getElem_mem _)⟩
    -- all are pending, so the attempts run out on the last
    have hlt : kMaxPendingAttempts < pending.length := by omega
    have hlast := nthRead_of_delivers hdelivers (List.getElem?_eq_getElem hlt)
    have hdrop : pending.drop (kMaxPendingAttempts + 1) = [] := by
      rw [List.drop_eq_nil_iff, hlen]
    rw [hk.unique hstop, hlast, hdrop]
    refine ⟨pending[kMaxPendingAttempts], ?_, rfl, rfl,
      callsReport_busy (hpending _ (List.getElem_mem hlt))⟩
    rw [List.getLast?_eq_getElem?, hlen]
    exact List.getElem?_eq_getElem hlt
  · constructor
    · rintro ⟨e, he⟩
      exact ⟨k, Nat.le_refl k, e, he⟩
    · rintro ⟨i, hi, e, he⟩
      rcases hi.lt_or_eq with hlt | rfl
      · -- every read before the last gave a response
        obtain ⟨r, hr, -⟩ := hk.before i hlt
        rw [hr] at he
        cases he
      · exact ⟨e, he⟩

end

/-- One pending response, and then the value that was asked for. -/
theorem response_pending_loop_read :
    (sendAndResolve {} 0x0E80
      { arrivals := ofItems (answering 0 (ackFrame ++ replyFrame [0x7F, 0x22, 0x78] ++
          replyFrame [0x62, 0xF1, 0x90, 7])) }
      (encodeReadDataByIdentifier 0xF190) { sock := some [] }).1 =
        .ok ⟨answering 0 (replyFrame [0x62, 0xF1, 0x90, 7]), [0x62, 0xF1, 0x90, 7]⟩ := by
  let env : CallEnv := { arrivals := ofItems (answering 0 (ackFrame ++
    replyFrame [0x7F, 0x22, 0x78] ++ replyFrame [0x62, 0xF1, 0x90, 7])) }
  let pending : Received := ⟨answering 0 (replyFrame [0x7F, 0x22, 0x78]), [0x7F, 0x22, 0x78]⟩
  let answer : Received :=
    ⟨answering 0 (replyFrame [0x62, 0xF1, 0x90, 7]), [0x62, 0xF1, 0x90, 7]⟩
  have hopen : Opens env { sock := some [] } env.arrivals := .inl ⟨[], rfl, rfl⟩
  have hdelivers : Delivers {} 0x0E80 env.arrivals ([pending] ++ [answer]) [] := by
    refine ⟨answering 0 ackFrame, ackFrame.drop kHeaderSize, ⟨by decide, by decide⟩, ?_, rfl⟩
    intro r hr
    simp only [List.cons_append, List.nil_append, List.mem_cons, List.not_mem_nil, or_false] at hr
    rcases hr with rfl | rfl
    · exact ⟨by decide, by decide⟩
    · exact ⟨by decide, by decide⟩
  have hpending : ∀ p ∈ [pending], isPending p.uds = true := by
    intro p hp
    rw [List.mem_singleton.mp hp]
    decide
  exact ((response_pending_loop hopen rfl rfl).1 [pending] answer [] hdelivers hpending
    (by decide) (by decide)).1

end Sovd
