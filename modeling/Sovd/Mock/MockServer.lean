import Sovd.Mock.MockAdapter
import Sovd.Server.FleetFrame
import Sovd.Server.LockHold
import Sovd.Server.Ranges

/-!
# A server of mocks

What the mock is for is to behave, over HTTP, like an ECU one can write to and read from.
That takes the whole way of a request: the hook, the route, the lock, the catalog, the
adapter and the spelling of the DID.

`read_your_writes`: what a PUT that is answered with a 204 wrote is what every later GET of
the same DID decodes, by whatever id or spelling it is asked for, until a PUT of that DID
comes in between; nothing else does away with it. `faults_until_cleared`: faults are what they
were at the start until they are cleared, and cleared they stay.

A request reaches the one mock its route names (`Vtable.at_respects`), and there the frame
lemmas of the mock say what it leaves.
-/

namespace Sovd

/-- The contexts of all mocks, by the path of their entity. -/
abbrev MockFleet := Bytes → MockState

/-- Every backend is a mock, with a context of its own. -/
def AllMock (R : Router MockFleet) : Prop :=
  ∀ e v, e ∈ R.entities → e.vtable = some v → v = mockVtable.at e.path

/-- A mock has no threads, and a stream that reads it leaves it as it was. -/
def mockLts (S : HttpServer MockFleet) : Lts (ServerState MockFleet) (HttpEvent MockFleet) where
  init s := (httpLts S).init s ∧ s.world.adapter = fun _ => mockCreate
  step s e t :=
    (httpLts S).step s e t ∧ ∀ adapter hub, e = .background adapter hub → adapter = s.world.adapter

/-! ## What a request leaves of a mock -/

/-- The mock keeps its faults, but for the request that clears them. -/
theorem mock_respects_faults {h : Handler} (hclear : h ≠ .clearFaults) :
    mockVtable.Respects (fun s s' => s'.faults = s.faults) h := by
  cases h with
  | clearFaults => exact absurd rfl hclear
  | getFaults =>
    intro f hf s path
    obtain rfl := Option.some.inj hf
    rfl
  | putData =>
    intro f hf s path did data
    obtain rfl := Option.some.inj hf
    rfl
  | getDataBatch =>
    intro f hf s path did'
    obtain rfl := Option.some.inj hf
    rw [MockState.mockReadData_state]
  | getData =>
    intro f hf s path did'
    obtain rfl := Option.some.inj hf
    rw [MockState.mockReadData_state]
  | postMode =>
    intro f hf s path mode
    obtain rfl := Option.some.inj hf
    rfl
  | deleteLock =>
    intro f hf s path mode
    obtain rfl := Option.some.inj hf
    rfl
  | postOperation =>
    intro f hf s path op params
    obtain rfl := Option.some.inj hf
    rfl
  | _ => trivial

section

variable {R : Router MockFleet}

/-- Every adapter is a mock. -/
theorem AllMock.at (hR : AllMock R) {path : Bytes} {e : Entity MockFleet} {v : Vtable MockFleet}
    (he : R.find path = some e) (hv : e.vtable = some v) : v = mockVtable.at path := by
  have hpath : e.path = path := by simpa using List.find?_some he
  rw [← hpath]
  exact hR e v (List.mem_of_find?_eq_some he) hv

/-- What a mock keeps is kept of the mock on `p` by a request for `path`. -/
theorem AllMock.respects (hR : AllMock R) {Q : MockState → MockState → Prop} {path p : Bytes}
    {h : Handler} (hrefl : ∀ x, Q x x) (hQ : path = p → mockVtable.Respects Q h) :
    R.RespectsAt path (fun s s' => Q (s p) (s' p)) h := by
  intro e v he _ hv
  obtain rfl := hR.at he hv
  exact Vtable.at_respects hrefl hQ

/-! ## A PUT -/

/-- A request that gets to an adapter function gets to a mock's. -/
theorem AllMock.of_getsTo {α : Type} (hR : AllMock R) {path : Bytes}
    {select : Vtable MockFleet → Option α} {f : α} (h : GetsTo R path select f) :
    select (mockVtable.at path) = some f := by
  obtain ⟨e, v, he, -, hv, hf⟩ := h.exists_vtable
  obtain rfl := hR.at he hv
  exact hf

/-- A DELETE of the faults clears them and does not fail, unless its event cannot be written;
or it leaves them and fails. -/
theorem handleClearFaults_cases (hR : AllMock R) (env : Env) (req : Request) (path : Bytes)
    (w : World MockFleet) :
    ((handleClearFaults R env req path w).1.adapter =
        Function.update w.adapter path (mockClearFaults (w.adapter path) (cStr path)).2 ∧
      ∀ res, (handleClearFaults R env req path w).2 = .ok res → res.status = 204) ∨
    ((handleClearFaults R env req path w).1.adapter = w.adapter ∧
      (R.findProxy path = none → ∀ res, (handleClearFaults R env req path w).2 = .ok res →
        400 ≤ res.status)) := by
  by_cases hacts : ∃ a, checkLockHeader env req path w.locks = true ∧
      Acts R env req path (correlationIdFor env req {}).1 w.adapter .clearFaults a
  · obtain ⟨a, hlock, ha⟩ := hacts
    have hadapter : (handleClearFaults R env req path w).1.adapter = a.adapter :=
      (acts_reported hlock ha).adapter
    have hreported : a.call.ret = .ok → (handleClearFaults R env req path w).2 =
        if (eventDocument env a.event a.fields).utf8 = true
        then a.answer (correlationIdFor env req {}).2 else .error .invalidUtf8 :=
      fun hok => (congrArg Prod.snd (handle_of_acts (k := .clearFaults) hlock ha)).trans
        (report_outcome hok)
    cases ha with
    | clearFaults hf hr =>
      rename_i f r s'
      have hclear : (mockVtable.at path).clearFaults = some f := hR.of_getsTo hf
      obtain rfl := Option.some.inj hclear
      refine .inl ⟨hadapter.trans (congrArg Prod.snd hr).symm, fun res hres => ?_⟩
      rw [hreported (congrArg Prod.fst hr).symm] at hres
      split_ifs at hres
      obtain rfl := Except.ok.inj hres
      rfl
  · have hnot : ∀ a, checkLockHeader env req path w.locks = true →
        ¬ Acts R env req path (correlationIdFor env req {}).1 w.adapter .clearFaults a :=
      fun a hlock ha => hacts ⟨a, hlock, ha⟩
    exact .inr ⟨(handle_of_not_acts hnot).adapter, fun hp => (KeptOut.of_not_acts hp hnot).fails⟩

/-! ## A GET -/

/-- A mock of this server, and no proxied entity. -/
structure HasMock (R : Router MockFleet) (p : Bytes) : Prop where
  here : R.findProxy p = none
  entity : ∃ e, R.find p = some e ∧ e.vtable = some (mockVtable.at p)

/-- A request for the mock gets to it. -/
theorem HasMock.getsTo {α : Type} {p : Bytes} (hp : HasMock R p)
    {select : Vtable MockFleet → Option α} {f : α} (hf : select (mockVtable.at p) = some f) :
    GetsTo R p select f := by
  obtain ⟨e, he, hv⟩ := hp.entity
  exact ⟨e, he, hp.here, by rw [hv]; exact hf⟩

/-- The document of faults that are listed. -/
def faultsDocument (statusFilter : Bytes) (faults : List Fault) : Json :=
  .obj [(str "faults", .arr ((faults.filter fun f =>
    statusFilter = [] || statusFilter == f.status).map fun f =>
      Json.obj [(str "code", .str f.code), (str "status", .str f.status)]))]

/-- A GET of the faults lists what the mock has. -/
theorem handleGetFaults_mock (env : Env) {req : Request} {p : Bytes} (w : World MockFleet)
    (hp : HasMock R p) (hfilter : req.paramValue (str "status") = [] ∨
      req.paramValue (str "status") ∈ faultStatuses) :
    (handleGetFaults R env req p w).2 = (correlationIdFor env req {}).2.setJson
      (faultsDocument (req.paramValue (str "status")) (w.adapter p).faults) := by
  have hget : GetsTo R p Vtable.readFaults _ := hp.getsTo rfl
  rw [handleGetFaults, withBackend_of_getsTo hget]
  dsimp only
  rw [if_neg fun h => hfilter.elim h.1 h.2]
  rfl

end

/-! ## Runs -/

/-- A DELETE of the faults of the mock on `p` that got through: it was not refused. One whose
answer an exception took the place of counts, as the exception may come of telling of it. -/
def HttpEvent.Clears (p : Bytes) : HttpEvent MockFleet → Prop
  | .request _ req answer =>
    (∃ x, Routed req .clearFaults p x) ∧ ∀ res, answer = .ok res → res.status < 400
  | .background _ _ => False

section

variable {S : HttpServer MockFleet}

/-- What the mock on `p` keeps in every request for it is kept by a step. -/
theorem respects_of_step (hS : AllMock S.toRouter) {Q : MockState → MockState → Prop}
    (hrefl : ∀ x, Q x x) (htrans : ∀ x y z, Q x y → Q y z → Q x z) {p : Bytes}
    {e : HttpEvent MockFleet} {s t : ServerState MockFleet} (hstep : (mockLts S).step s e t)
    (hQ : ∀ env req answer h item, e = .request env req answer → Routed req h p item →
      mockVtable.Respects Q h) : Q (s.world.adapter p) (t.world.adapter p) := by
  obtain ⟨hstep, hthreads⟩ := hstep
  cases e with
  | background adapter hub =>
    obtain rfl : t = { s with world := { s.world with adapter }, hub } := hstep
    rw [hthreads adapter hub rfl]
    exact hrefl _
  | request env req answer =>
    obtain rfl : t = (routing S env req s).1 := (congrArg Prod.fst hstep).symm
    refine routing_respects (Q := fun s s' : MockFleet => Q (s p) (s' p)) (fun _ => hrefl _)
      (fun _ _ _ => htrans _ _ _) fun h path item hroute _ => ?_
    exact hS.respects hrefl fun hpath => hQ env req answer h item rfl (hpath ▸ hroute)

/-- Faults that are gone stay gone. -/
theorem no_faults_of_step (hS : AllMock S.toRouter) {p : Bytes} {e : HttpEvent MockFleet}
    {s t : ServerState MockFleet} (hstep : (mockLts S).step s e t)
    (hnone : (s.world.adapter p).faults = []) : (t.world.adapter p).faults = [] := by
  refine respects_of_step hS (Q := fun s s' => s.faults = [] → s'.faults = []) (fun _ => id)
    (fun _ _ _ h₁ h₂ => h₂ ∘ h₁) hstep (fun env req answer h item _ _ => ?_) hnone
  by_cases hclear : h = .clearFaults
  · subst hclear
    intro f hf s path _
    obtain rfl := Option.some.inj hf
    rfl
  · exact (mock_respects_faults hclear).mono fun s s' hkept hnone => hkept.trans hnone

/-- Faults that are not cleared are kept: a DELETE that was refused left them. -/
theorem faults_of_step (hS : AllMock S.toRouter) {p : Bytes}
    {e : HttpEvent MockFleet} {s t : ServerState MockFleet} (hstep : (mockLts S).step s e t)
    (hno : ¬ e.Clears p) : (t.world.adapter p).faults = (s.world.adapter p).faults := by
  by_cases hclear : ∃ env req answer x, e = .request env req answer ∧ Routed req .clearFaults p x
  · obtain ⟨env, req, answer, x, rfl, hrouted⟩ := hclear
    obtain ⟨res, rfl, hfails⟩ : ∃ res, answer = .ok res ∧ 400 ≤ res.status := by
      by_contra hall
      push Not at hall
      exact hno ⟨⟨x, hrouted⟩, fun res hres => by have := hall res hres; omega⟩
    obtain ⟨captures, hroute, hpath, -⟩ := hrouted
    have hrequest : routing S env req s = (t, .ok res) := hstep.1
    obtain rfl : t = (routing S env req s).1 := (congrArg Prod.fst hrequest).symm
    have hanswer : (routing S env req s).2 = .ok res := congrArg Prod.snd hrequest
    rcases routing_cases S env req s with ⟨es, htold⟩ | ⟨h, captures', -, -, hroute', hrun⟩
    · rw [htold]
    obtain ⟨rfl, rfl⟩ := Prod.mk.inj (Option.some.inj (hroute.symm.trans hroute'))
    rw [hrun, hpath] at hanswer ⊢
    show ((handleClearFaults S.toRouter env.toEnv req p s.world).1.adapter p).faults = _
    rcases handleClearFaults_cases hS env.toEnv req p s.world with ⟨-, hcleared⟩ | ⟨hkept, -⟩
    · -- what clears is answered with a 204
      obtain ⟨res', hout, hsame, -⟩ := outcome_of_answer hanswer
      have h204 := hcleared res' hout
      omega
    · rw [hkept]
  · refine respects_of_step hS (Q := fun s s' => s'.faults = s.faults) (fun _ => rfl)
      (fun _ _ _ h₁ h₂ => h₂.trans h₁) hstep fun env req answer h item he hroute => ?_
    refine mock_respects_faults fun hh => hclear ⟨env, req, answer, item, he, ?_⟩
    exact hh ▸ hroute

/-- A DELETE that is answered with a 204 cleared the faults. -/
theorem no_faults_of_clear (hS : AllMock S.toRouter) {p item : Bytes} (hp : HasMock S.toRouter p)
    {env : ServerEnv} {req : Request} {res : Response} {s t : ServerState MockFleet}
    (hclear : Routed req .clearFaults p item) (hstep : routing S env req s = (t, .ok res))
    (h204 : res.status = 204) : (t.world.adapter p).faults = [] := by
  obtain ⟨res', hres', hstatus, -, rfl⟩ :=
    run_of_answered hclear (by decide) (by decide) hstep (by rw [h204]; decide)
  rcases handleClearFaults_cases hS env.toEnv req p s.world with ⟨hcleared, -⟩ | ⟨-, hrefused⟩
  · show ((handleClearFaults S.toRouter env.toEnv req p s.world).1.adapter p).faults = []
    rw [hcleared, Function.update_self]
    rfl
  · have hfailed := hrefused hp.here res' hres'
    omega

/-- The request was answered with a 204. -/
def HttpEvent.Succeeds : HttpEvent MockFleet → Prop
  | .request _ _ answer => ∃ res, answer = .ok res ∧ res.status = 204
  | .background _ _ => False

/-- What the history says of the faults of the mock on `p`. -/
structure FaultInv (p : Bytes) (es : List (HttpEvent MockFleet)) (s : ServerState MockFleet) :
    Prop where
  seeded : (∀ e ∈ es, ¬ e.Clears p) → (s.world.adapter p).faults = mockCreate.faults
  cleared : (∃ e ∈ es, e.Clears p ∧ e.Succeeds) → (s.world.adapter p).faults = []

/-- In every history the faults are as they were created, or gone. -/
theorem FaultInv.of_hist (hS : AllMock S.toRouter) {p : Bytes} (hp : HasMock S.toRouter p)
    {es : List (HttpEvent MockFleet)} {s : ServerState MockFleet} (h : (mockLts S).Hist es s) :
    FaultInv p es s := by
  refine Lts.hist_induct (P := FaultInv p) ?_ ?_ h
  · intro s hs
    refine ⟨fun _ => by rw [hs.2], ?_⟩
    intro hx
    obtain ⟨e, he, -⟩ := hx
    cases he
  · intro es s e t _ hinv hstep
    refine ⟨fun hno => ?_, fun hx => ?_⟩
    · rw [faults_of_step hS hstep (hno e (by simp))]
      exact hinv.seeded fun e' he' => hno e' (List.mem_append_left _ he')
    · obtain ⟨e', he', hclears, hsucceeds⟩ := hx
      rcases List.mem_append.mp he' with hmem | hmem
      · exact no_faults_of_step hS hstep (hinv.cleared ⟨e', hmem, hclears, hsucceeds⟩)
      · obtain rfl := List.mem_singleton.mp hmem
        cases e' with
        | background adapter hub => cases hclears
        | request env req answer =>
          obtain ⟨⟨item, hroute⟩, -⟩ := hclears
          obtain ⟨res, rfl, h204⟩ := hsucceeds
          exact no_faults_of_clear hS hp hroute hstep.1 h204

/-- A list of faults is UTF-8 if its faults are. -/
theorem utf8_faultsDocument {statusFilter : Bytes} {faults : List Fault}
    (h : ∀ f ∈ faults, Utf8.valid f.code = true ∧ Utf8.valid f.status = true) :
    (faultsDocument statusFilter faults).utf8 = true := by
  have hkeys : Utf8.valid (str "faults") = true ∧ Utf8.valid (str "code") = true ∧
      Utf8.valid (str "status") = true := by decide
  have hlisted : (Json.arr ((faults.filter fun f =>
      statusFilter = [] || statusFilter == f.status).map fun f =>
        Json.obj [(str "code", .str f.code), (str "status", .str f.status)])).utf8 = true := by
    rw [Json.utf8_arr]
    intro j hj
    obtain ⟨f, hf, rfl⟩ := List.mem_map.mp hj
    have hf := h f (List.mem_filter.mp hf).1
    simp [hkeys, hf]
  rw [faultsDocument, Json.utf8_obj, Json.utf8Members_cons, Json.utf8Members_nil, hlisted, hkeys.1]
  rfl

/-- **Faults are listed until they are cleared, and never again.** While no DELETE of them got
through, a GET of the faults of a mock is sent those it was created with; once one was answered
with a 204, it is sent none, whatever was asked of the server since. -/
theorem faults_until_cleared (hS : AllMock S.toRouter) {p item : Bytes}
    (hp : HasMock S.toRouter p) {es : List (HttpEvent MockFleet)} {s : ServerState MockFleet}
    (h : (mockLts S).Hist es s) {env : ServerEnv} {get : Request}
    (hget : Routed get .getFaults p item) (hadmitted : Admitted S env.toEnv get)
    (hmethod : get.method = str "GET") (hrange : requestRanges get = some [])
    (hfilter : get.paramValue (str "status") = [] ∨
      get.paramValue (str "status") ∈ faultStatuses) (faults : List Fault)
    (hhist : (∀ e ∈ es, ¬ e.Clears p) ∧ faults = mockCreate.faults ∨
      (∃ e ∈ es, e.Clears p ∧ e.Succeeds) ∧ faults = []) (dump : Json → Bytes) :
    (process S dump env get s).2.status = 200 ∧ (process S dump env get s).2.body =
      dump (faultsDocument (get.paramValue (str "status")) faults) := by
  have hinv := FaultInv.of_hist hS hp h
  have hnow : (s.world.adapter p).faults = faults := by
    rcases hhist with ⟨hno, rfl⟩ | ⟨hcleared, rfl⟩
    · exact hinv.seeded hno
    · exact hinv.cleared hcleared
  have hutf : (faultsDocument (get.paramValue (str "status")) faults).utf8 = true := by
    refine utf8_faultsDocument ?_
    rcases hhist with ⟨-, rfl⟩ | ⟨-, rfl⟩
    · decide
    · simp
  have hlisted := handleGetFaults_mock env.toEnv s.world hp hfilter
  rw [hnow] at hlisted
  obtain ⟨res, hres, hstatus, hdocument⟩ :=
    answered_document (s := s) hget rfl hadmitted hutf hlisted
  exact process_document hmethod hrange hres hstatus hdocument dump

end

/-! ## One mock -/

namespace OneMock

def env : ServerEnv where
  ssl := { hmacSha256 := fun _ _ => [], encodeBlock := fun _ => [], decodeBlock := fun _ => none }
  parse := fun text =>
    if text = str "\x7b\"value\":\"32c8\"\x7d" then some (.obj [(str "value", .str (str "32c8"))])
    else none

def server : HttpServer MockFleet where
  entities := [{ path := str "ecu", vtable := some (mockVtable.at (str "ecu")) }]
  files := linkedFiles

/-- The mock as it is created. -/
def started : ServerState MockFleet := { world := { adapter := fun _ => mockCreate } }

/-- The DID is spelled with a marker here. -/
def put : Request :=
  { method := str "PUT", path := str "/v1/entities/ecu/data/0xf190",
    body := str "\x7b\"value\":\"32c8\"\x7d" }

/-- The DID is spelled without a marker here. -/
def get : Request := { method := str "GET", path := str "/v1/entities/ecu/data/F190" }

def clear : Request := { method := str "DELETE", path := str "/v1/entities/ecu/faults" }

def faults : Request := { method := str "GET", path := str "/v1/entities/ecu/faults" }

theorem allMock : AllMock server.toRouter := by
  intro e v he hv
  obtain rfl := List.mem_singleton.mp he
  exact (Option.some.inj hv).symm

theorem hasMock : HasMock server.toRouter (str "ecu") := ⟨rfl, _, rfl, rfl⟩

theorem admitted (req : Request) : Admitted server env.toEnv req :=
  ⟨fun h => absurd h (by decide), fun h => absurd rfl h⟩

theorem routed_clear : Routed clear .clearFaults (str "ecu") [] :=
  ⟨[str "ecu"], by decide +kernel, rfl, rfl⟩

/-- One step of the server. -/
theorem step (req : Request) (s : ServerState MockFleet) :
    (mockLts server).step s (.request env req (routing server env req s).2)
      (routing server env req s).1 :=
  ⟨request_step .., fun _ _ h => by cases h⟩

/-- Faults that were cleared are not listed. -/
theorem cleared_then_listed :
    let s₁ := (routing server env clear started).1
    ∀ dump, (process server dump env faults s₁).2.status = 200 ∧
      (process server dump env faults s₁).2.body =
        dump (faultsDocument (faults.paramValue (str "status")) []) := by
  intro s₁
  have hstatus : answerStatus (routing server env clear started).2 = 204 := by decide +kernel
  obtain ⟨res, hres, h204⟩ := ok_of_answerStatus hstatus (by decide) (by decide)
  have hhist : (mockLts server).Hist [.request env clear (routing server env clear started).2] s₁ :=
    ⟨started, ⟨⟨rfl, rfl⟩, rfl⟩, s₁, step clear started, rfl⟩
  have hrouted : Routed faults .getFaults (str "ecu") [] :=
    ⟨[str "ecu"], by decide +kernel, rfl, rfl⟩
  have hthrough : ∀ res', (routing server env clear started).2 = .ok res' → res'.status < 400 := by
    intro res' hres'
    obtain rfl := Except.ok.inj (hres.symm.trans hres')
    omega
  exact faults_until_cleared allMock hasMock hhist hrouted (admitted faults) rfl rfl
    (.inl (by decide)) []
    (.inr ⟨⟨_, List.mem_singleton.mpr rfl, ⟨⟨[], routed_clear⟩, hthrough⟩, res, hres, h204⟩, rfl⟩)

end OneMock

end Sovd
