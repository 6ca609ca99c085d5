import Sovd.Lib.Lts
import Sovd.Uds.Exchange

/-!
# Requests and responses over a connection

A run of one `UdsDoipContext` is a sequence of `send_and_resolve` calls; the
peer sends what it likes when it likes, but answers no request before it is
made (`Causal`). Every byte on the wire names the call it answers.

Nothing on the wire does: a response is matched to a request by its place in
the stream alone, and a call that gives up (a timeout after the ack, the cap on
pending responses, a frame it cannot parse) leaves its connection open with the
rest of its answer still to come. The next call then takes that rest for its
own answer (`stale_reply`).

`pairing` is what the code does promise: if whenever a call begins nothing of
an earlier answer is unread or arrives late (`Fresh`), every response returned
is a frame that answers its own call. `pairing_of_prompt` gives a condition on
the peer alone that keeps every call fresh.
-/

namespace Sovd

open StreamEvent

/-- A transport and the number of calls made on it. -/
structure DoipSys where
  transport : DoipTransport := {}
  calls : Nat := 0

/-- A completed call. -/
structure CallEvent where
  req : Bytes
  env : CallEnv
  ret : Except TransportError Received

/-- Calls one after the other; the peer answers only calls that were made. -/
def doipLts (cfg : TransportConfig) (ecu : UInt16) : Lts DoipSys CallEvent where
  init s := s = {}
  step s e s' :=
    (∀ b ∈ items e.env.arrivals, b.answers ≤ s.calls) ∧
    sendAndResolve cfg ecu e.env e.req s.transport = (e.ret, s'.transport) ∧
    s'.calls = s.calls + 1

/-- A response that is returned is a diagnostic message from the ECU to this
tester, and every byte of it answers this call. -/
def Paired (cfg : TransportConfig) (ecu : UInt16) (s : DoipSys) (e : CallEvent) (_ : DoipSys) :
    Prop :=
  ∀ r, e.ret = .ok r → IsDiagnostic cfg ecu r ∧ ∀ b ∈ r.frame, b.answers = s.calls

/-- When the call begins, no byte that is unread on its connection, and none
that arrives before it ends, answers an earlier call. -/
def Fresh (s : DoipSys) (e : CallEvent) (_ : DoipSys) : Prop :=
  (∀ w, s.transport.sock = some w → ∀ b ∈ items w, ¬ b.answers < s.calls) ∧
  ∀ b ∈ items e.env.arrivals, ¬ b.answers < s.calls

/-! ## A response is read off the script -/

theorem Resolves.mem {cfg : TransportConfig} {ecu : UInt16} {n : Nat} {current r : Received}
    {w w' : Wire} (h : Resolves cfg ecu n current w r w') (hc : IsDiagnostic cfg ecu current) :
    IsDiagnostic cfg ecu r ∧ ∀ b ∈ r.frame, b ∈ current.frame ∨ b ∈ items w := by
  induction h with
  | stop => exact ⟨hc, fun b hb => .inl hb⟩
  | final => exact ⟨hc, fun b hb => .inl hb⟩
  | pending _ hd _ ih =>
    obtain ⟨hr, hmem⟩ := ih hd
    refine ⟨hr, fun b hb => .inr ?_⟩
    rw [items_append, items_ofItems]
    exact List.mem_append.mpr (hmem b hb)

theorem Replies.mem {cfg : TransportConfig} {ecu : UInt16} {r : Received} {w w' : Wire}
    (h : Replies cfg ecu w r w') : IsDiagnostic cfg ecu r ∧ ∀ b ∈ r.frame, b ∈ items w := by
  obtain ⟨ack, payload, first, w₁, -, hd, rfl, hres⟩ := h
  obtain ⟨hr, hmem⟩ := hres.mem hd
  refine ⟨hr, fun b hb => ?_⟩
  rw [items_append, items_ofItems, List.append_assoc]
  exact List.mem_append_right _ (List.mem_append.mpr (hmem b hb))

/-- A script holds what was unread and what arrives, nothing else. -/
theorem Opens.mem {env : CallEnv} {t : DoipTransport} {w : Wire} (h : Opens env t w)
    {b : WireByte} (hb : b ∈ items w) :
    (∃ w₀, t.sock = some w₀ ∧ b ∈ items w₀) ∨ b ∈ items env.arrivals := by
  rcases h with ⟨w₀, hs, rfl⟩ | ⟨-, -, -, act, -, harr⟩
  · rw [items_append] at hb
    rcases List.mem_append.mp hb with hb | hb
    · exact .inl ⟨w₀, hs, hb⟩
    · exact .inr hb
  · rw [harr, items_append]
    exact .inr (List.mem_append_right _ hb)

section Run

variable {cfg : TransportConfig} {ecu : UInt16} {s s' : DoipSys} {e : CallEvent}

/-- Nothing unread answers a call that is still to be made. -/
def Causal (s : DoipSys) : Prop :=
  ∀ w, s.transport.sock = some w → ∀ b ∈ items w, b.answers < s.calls

theorem causal_step (hc : Causal s) (h : (doipLts cfg ecu).step s e s') : Causal s' := by
  obtain ⟨harr, hcall, hn⟩ := h
  have ht : s'.transport = (sendAndResolve cfg ecu e.env e.req s.transport).2 := by rw [hcall]
  intro w' hw' b hb
  rw [hn]
  by_cases hopen : ∃ w, Opens e.env s.transport w
  · obtain ⟨w, hw⟩ := hopen
    obtain ⟨⟨w₁, hs₁, hsuf⟩, -⟩ := sendAndResolve_of_opens cfg ecu e.req hw
    obtain rfl : w₁ = w' := by simpa [← ht, hw'] using hs₁.symm
    rcases hw.mem (mem_items_of_suffix hsuf hb) with ⟨w₀, hs₀, hb⟩ | hb
    · exact Nat.lt_succ_of_lt (hc w₀ hs₀ b hb)
    · exact Nat.lt_succ_of_le (harr b hb)
  · have hnone := (sendAndResolve_of_not_opens cfg ecu e.req
      (not_exists.mp hopen)).2
    rw [← ht, hw'] at hnone
    cases hnone

theorem causal_of_hist {es : List CallEvent} (h : (doipLts cfg ecu).Hist es s) : Causal s := by
  refine Lts.hist_induct (P := fun _ s => Causal s) ?_ (fun _ _ _ _ _ hc hs => causal_step hc hs) h
  intro s₀ h₀ w hw
  rw [show s₀ = {} from h₀] at hw
  cases hw

/-- A fresh call returns its own answer, or none. -/
theorem paired_of_fresh (hc : Causal s) (h : (doipLts cfg ecu).step s e s') (hf : Fresh s e s') :
    Paired cfg ecu s e s' := by
  obtain ⟨harr, hcall, -⟩ := h
  intro r hr
  have hret : (sendAndResolve cfg ecu e.env e.req s.transport).1 = .ok r := by rw [hcall, hr]
  by_cases hopen : ∃ w, Opens e.env s.transport w
  case neg =>
    obtain ⟨⟨err, herr⟩, -⟩ := sendAndResolve_of_not_opens cfg ecu e.req (not_exists.mp hopen)
    rw [hret] at herr
    cases herr
  obtain ⟨w, hw⟩ := hopen
  obtain ⟨⟨w', hs', -⟩, hok, -⟩ := sendAndResolve_of_opens cfg ecu e.req hw
  obtain ⟨hd, hmem⟩ := ((hok r w').mp ⟨hret, hs'⟩).2.mem
  refine ⟨hd, fun b hb => ?_⟩
  rcases hw.mem (hmem b hb) with ⟨w₀, hs₀, hb⟩ | hb
  · -- an unread byte answers an earlier call, which a fresh call has none of
    have h₁ := hf.1 w₀ hs₀ b hb
    have h₂ := hc w₀ hs₀ b hb
    omega
  · have h₁ := hf.2 b hb
    have h₂ := harr b hb
    omega

end Run

/-- **Pairing.** In a run whose calls all begin fresh, every response returned
is a frame the ECU sent in answer to that very call. -/
theorem pairing {cfg : TransportConfig} {ecu : UInt16} {es : List CallEvent} {t : DoipSys}
    (h : (doipLts cfg ecu).Always Fresh es t) : (doipLts cfg ecu).Always (Paired cfg ecu) es t :=
  h.imp fun _ _ _ _ hh hs hf => paired_of_fresh (causal_of_hist hh) hs hf

/-! ## Two runs -/

/-- Bytes the peer sends in answer to call `k`. -/
def answering (k : Nat) (bs : Bytes) : List WireByte := bs.map fun b => ⟨b, k⟩

/-- The frames an ECU at `0x0E80` sends a tester at `0x0E00`. -/
def activationFrame : Bytes :=
  appendHeader .routingActivationResponse 9 ++ [0x0E, 0x00, 0x0E, 0x80, 0x10, 0, 0, 0, 0]

def ackFrame : Bytes := appendHeader .diagnosticMessagePositiveAck 5 ++ [0x0E, 0x80, 0x0E, 0x00, 0]

def replyFrame (uds : Bytes) : Bytes := encodeDiagnosticMessage 0x0E80 0x0E00 uds

/-- A read of `F190` that the ECU answers at once. -/
def answeredCall : CallEvent where
  req := Uds.encodeReadDataByIdentifier 0xF190
  env := { arrivals := ofItems (answering 0 (activationFrame ++ ackFrame ++
    replyFrame [0x62, 0xF1, 0x90, 7])) }
  ret := .ok ⟨answering 0 (replyFrame [0x62, 0xF1, 0x90, 7]), [0x62, 0xF1, 0x90, 7]⟩

/-- A second read, answered after one pending response. -/
def pendingCall : CallEvent where
  req := Uds.encodeReadDataByIdentifier 0xF18C
  env := { arrivals := ofItems (answering 1 (ackFrame ++ replyFrame [0x7F, 0x22, 0x78] ++
    replyFrame [0x62, 0xF1, 0x8C, 9])) }
  ret := .ok ⟨answering 1 (replyFrame [0x62, 0xF1, 0x8C, 9]), [0x62, 0xF1, 0x8C, 9]⟩

/-- Two calls that both begin fresh. -/
theorem pairing_answered :
    ∃ t, (doipLts {} 0x0E80).Hist [answeredCall, pendingCall] t ∧
      (doipLts {} 0x0E80).Always (Paired {} 0x0E80) [answeredCall, pendingCall] t := by
  let s₁ : DoipSys := ⟨(sendAndResolve {} 0x0E80 answeredCall.env answeredCall.req {}).2, 1⟩
  let s₂ : DoipSys := ⟨(sendAndResolve {} 0x0E80 pendingCall.env pendingCall.req s₁.transport).2, 2⟩
  have h₁ : (doipLts {} 0x0E80).step {} answeredCall s₁ := ⟨by decide, by rfl, rfl⟩
  have h₂ : (doipLts {} 0x0E80).step s₁ pendingCall s₂ := ⟨by decide, by rfl, rfl⟩
  refine ⟨s₂, ⟨{}, rfl, s₁, h₁, s₂, h₂, rfl⟩, pairing (.of_along fun u₀ hu₀ => ?_)⟩
  rw [show u₀ = {} from hu₀]
  refine fun u hu => ⟨⟨by simp, by decide⟩, fun u' _ => ⟨⟨?_, ?_⟩, trivial⟩⟩
  · -- the first answer was read to its end
    have hsock : u.transport.sock = some [] :=
      (congrArg (fun p => p.2.sock) hu.2.1).symm.trans (by rfl)
    intro w hw b hb
    obtain rfl : w = [] := by simpa [hsock] using hw.symm
    simp [items] at hb
  · rw [hu.2.2]
    decide

/-- A read of `F190` that times out before the ECU has answered it. -/
def timedOutCall : CallEvent where
  req := Uds.encodeReadDataByIdentifier 0xF190
  env := { arrivals := ofItems (answering 0 activationFrame) ++ [.timeout] }
  ret := .error .timeout

/-- The read of `F18C` made next, during which both answers arrive. -/
def nextCall : CallEvent where
  req := Uds.encodeReadDataByIdentifier 0xF18C
  env := { arrivals := ofItems (answering 0 (ackFrame ++ replyFrame [0x62, 0xF1, 0x90, 7]) ++
    answering 1 (ackFrame ++ replyFrame [0x62, 0xF1, 0x8C, 9])) }
  ret := .ok ⟨answering 0 (replyFrame [0x62, 0xF1, 0x90, 7]), [0x62, 0xF1, 0x90, 7]⟩

/-- The second call returns the answer to the first. -/
theorem stale_reply :
    ∃ t, (doipLts {} 0x0E80).Hist [timedOutCall, nextCall] t ∧
      ¬ (doipLts {} 0x0E80).Always (Paired {} 0x0E80) [timedOutCall, nextCall] t := by
  let s₁ : DoipSys := ⟨(sendAndResolve {} 0x0E80 timedOutCall.env timedOutCall.req {}).2, 1⟩
  let s₂ : DoipSys := ⟨(sendAndResolve {} 0x0E80 nextCall.env nextCall.req s₁.transport).2, 2⟩
  have h₁ : (doipLts {} 0x0E80).step {} timedOutCall s₁ := ⟨by decide, by rfl, rfl⟩
  have h₂ : (doipLts {} 0x0E80).step s₁ nextCall s₂ := ⟨by decide, by rfl, rfl⟩
  refine ⟨s₂, ⟨{}, rfl, s₁, h₁, s₂, h₂, rfl⟩, ?_⟩
  intro h
  have hp := h [timedOutCall] nextCall [] s₁ s₂ rfl ⟨{}, rfl, s₁, h₁, rfl⟩ h₂ rfl
  have hb := (hp _ rfl).2 ⟨kProtocolVersion, 0⟩ (by decide)
  exact absurd hb (by decide)

/-! ## A peer that answers in time -/

/-- The peer says nothing during the call, or sends exactly one whole answer to
it (after the activation, on a new connection). -/
def Prompt (cfg : TransportConfig) (ecu : UInt16) (s : DoipSys) (e : CallEvent) (_ : DoipSys) :
    Prop :=
  e.env.arrivals = [] ∨
  ∃ act ans, e.env.arrivals = ofItems act ++ ans ∧ e.env.requestSent = true ∧
    (∀ b ∈ items e.env.arrivals, b.answers = s.calls) ∧
    (s.transport.sock = none →
      e.env.dial = .established ∧ e.env.activationSent = true ∧ IsActivation act) ∧
    (s.transport.sock ≠ none → act = []) ∧
    (Nacks ans [] ∨ ∃ r, Replies cfg ecu ans r [])

/-- Nothing is left unread. -/
def Quiet (s : DoipSys) : Prop := s.transport.sock = none ∨ s.transport.sock = some []

theorem fresh_of_prompt {cfg : TransportConfig} {ecu : UInt16} {s s' : DoipSys} {e : CallEvent}
    (hq : Quiet s) (hp : Prompt cfg ecu s e s') : Fresh s e s' := by
  refine ⟨?_, ?_⟩
  · intro w hw b hb
    rcases hq with h | h
    · simp [h] at hw
    · obtain rfl : w = [] := by simpa [h] using hw.symm
      simp [items] at hb
  · rcases hp with h | ⟨act, ans, -, -, hans, -⟩
    · simp [h, items]
    · intro b hb
      rw [hans b hb]
      exact lt_irrefl _

theorem quiet_step {cfg : TransportConfig} {ecu : UInt16} {s s' : DoipSys} {e : CallEvent}
    (hq : Quiet s) (h : (doipLts cfg ecu).step s e s') (hp : Prompt cfg ecu s e s') :
    Quiet s' := by
  have ht : s'.transport = (sendAndResolve cfg ecu e.env e.req s.transport).2 := by rw [h.2.1]
  rw [Quiet, ht]
  by_cases hopen : ∃ w, Opens e.env s.transport w
  case neg => exact .inl (sendAndResolve_of_not_opens cfg ecu e.req (not_exists.mp hopen)).2
  refine .inr ?_
  rcases hp with harr | ⟨act, ans, harr, hsent, -, hnew, hold, hans⟩
  · -- a silent peer: what is left is the end of nothing
    obtain ⟨w, hw⟩ := hopen
    have hnil : w = [] := by
      rcases hw with ⟨w₀, hs, rfl⟩ | ⟨-, -, -, act, hact, hw⟩
      · rcases hq with h | h
        · simp [h] at hs
        · obtain rfl : w₀ = [] := by simpa [h] using hs.symm
          rw [harr]
          rfl
      · rw [harr] at hw
        exact (List.append_eq_nil_iff.mp hw.symm).2
    obtain ⟨⟨w', hs', hsuf⟩, -⟩ := sendAndResolve_of_opens cfg ecu e.req hw
    rw [hnil, List.suffix_nil] at hsuf
    rw [hs', hsuf]
  · have hw : Opens e.env s.transport ans := by
      rcases hq with h | h
      · obtain ⟨hd, ha, hact⟩ := hnew h
        exact .inr ⟨h, hd, ha, act, hact, harr⟩
      · refine .inl ⟨[], h, ?_⟩
        rw [harr, hold (by simp [h])]
        rfl
    obtain ⟨-, hok, hnack, -⟩ := sendAndResolve_of_opens cfg ecu e.req hw
    rcases hans with hn | ⟨r, hr⟩
    · exact ((hnack []).mpr ⟨hsent, hn⟩).2
    · exact ((hok r []).mpr ⟨hsent, hr⟩).2

/-- With a peer that answers each call in time, or not at all, every response
answers its own call. -/
theorem pairing_of_prompt {cfg : TransportConfig} {ecu : UInt16} {es : List CallEvent}
    {t : DoipSys} (h : (doipLts cfg ecu).Always (Prompt cfg ecu) es t) :
    (doipLts cfg ecu).Always (Paired cfg ecu) es t := by
  intro es₁ e es₂ s₁ s₂ hes h₁ hs hr
  have hq : Quiet s₁ := by
    refine Lts.Always.induct ?_ (fun s e s' hq hs hp => quiet_step hq hs hp) h₁
      (h.before hes hs hr)
    intro s₀ h₀
    rw [show s₀ = {} from h₀]
    exact .inl rfl
  exact paired_of_fresh (causal_of_hist h₁) hs (fresh_of_prompt hq (h es₁ e es₂ s₁ s₂ hes h₁ hs hr))

end Sovd
