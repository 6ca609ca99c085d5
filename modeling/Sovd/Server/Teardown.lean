import Sovd.Server.LockGate
import Sovd.Server.SessionLife

/-!
# The teardown after a release (`handle_delete_lock`)

A DELETE releases its lock and then asks the adapter for the mode `default`, so that
what the backend opened for this lock ends with it. Once the lock is released the
entity is free: another client may lock it and open a session of its own before the
teardown comes, and the teardown then ends that one (`successor_reverted`).

`teardown_spares` says when this cannot happen: when nobody raises a session or a
level under a lock that was made since a release whose teardown is still to come
(`Settled`). The argument is one bound, kept by every step (`TeardownInv`): what is
recorded was raised under a lock no younger than the releases under way.

Mirroring notes vs the C++:
- One call of the lock manager, one check and one adapter call are a step each; any
  number of requests are under way at a time.
- Locks on the entity are counted as they are made, so that the lock with number `n`
  is the `n`-th. The numbers are ghosts, and so is what a session was raised under.
-/

namespace Sovd

open SessionManager

/-! ## The system -/

/-- A gated request past its check, and the lock it was checked under, if there was one. -/
structure Checked where
  request : Gated
  under : Option Nat

/-- The lock manager, the adapter, and the requests under way between them. -/
structure TeardownSys where
  lock : LockSys
  adapter : SessionManager
  /-- How many locks were made on the entity. -/
  made : Nat := 0
  requests : List Checked := []
  /-- One entry a DELETE past its release: how many locks had been made by then. -/
  releases : List Nat := []
  sessionUnder : Option Nat := none
  levelUnder : Option Nat := none

/-- One call of the lock manager or of the adapter, or time that passes. -/
inductive TeardownEvent
  | lock (e : LockEvent)
  | release (lockId : Bytes) (t : Time)
  | teardown (made : Nat) (done : Time)
  | check (r : Gated)
  | leave (r : Checked)
  | effect (r : Checked) (a : Act SessionManager) (opened unlocked : Bool) (done : Time)
  | heartbeat (done : Time)
  | time (done : Time)

/-- The call made a lock on `path`. -/
def LockEvent.makes (path : Bytes) : LockEvent → Nat
  | acquire p _ _ _ (some _) => if p = path then 1 else 0
  | _ => 0

namespace TeardownSys

/-- The number of the lock that is held on `path` at `t`: the last one made. -/
def heldAt (s : TeardownSys) (path : Bytes) (t : Time) : Option Nat :=
  if s.lock.lm.isLocked t path then some s.made else none

/-- The adapter, reading the clock as it is now. -/
def adapterNow (s : TeardownSys) : SessionManager := { s.adapter with now := s.lock.now }

/-- An adapter call is over. -/
def settle (s : TeardownSys) (adapter : SessionManager) (done : Time) : TeardownSys :=
  { s with adapter, lock := { s.lock with now := done } }

end TeardownSys

/-- What each of them does; a request is checked in one step and acts in another. -/
inductive TeardownStep (srv : UdsServer) (s : TeardownSys) : TeardownEvent → TeardownSys → Prop
  | lock {e : LockEvent} {l : LockSys} (hl : lockLts.step s.lock e l)
      (hkept : ∀ t, ¬ e.Released srv.path t) :
      TeardownStep srv s (.lock e) { s with lock := l, made := s.made + e.makes srv.path }
  | release {lockId : Bytes} {t : Time} {l : LockSys}
      (hl : lockLts.step s.lock (.release srv.path lockId t .released) l) :
      TeardownStep srv s (.release lockId t)
        { s with lock := l, releases := s.releases ++ [s.made] }
  | teardown {made : Nat} {adapter : SessionManager} {done : Time} (before after : List Nat)
      (hr : s.releases = before ++ made :: after)
      (ha : (srv.context.setMode s.adapterNow (cStr srv.path) (str "default")).2 = adapter)
      (hdone : s.lock.now ≤ done ∧ adapter.now ≤ done) :
      TeardownStep srv s (.teardown made done)
        { s.settle adapter done with releases := before ++ after }
  | check {r : Gated} {l : LockSys} (hpath : r.path = srv.path)
      (hl : lockLts.step s.lock (.checkLock r.path r.lockId r.env.now true) l) :
      TeardownStep srv s (.check r)
        { s with lock := l, requests := s.requests ++ [⟨r, s.heldAt srv.path r.env.now⟩] }
  | leave {r : Checked} (before after : List Checked) (hr : s.requests = before ++ r :: after) :
      TeardownStep srv s (.leave r) { s with requests := before ++ after }
  | effect {r : Checked} {a : Act SessionManager} {opened unlocked : Bool} {done : Time}
      {exchanged : List Exchange} (before after : List Checked)
      (hr : s.requests = before ++ r :: after)
      (ha : Acts srv.router r.request.env r.request.req r.request.path r.request.corr s.adapterNow
        r.request.handler a)
      (hwire : a.adapter.wire = s.adapter.wire ++ exchanged)
      (hopened : opened = true ↔ Opened a.adapter.currentSessionType exchanged)
      (hunlocked : unlocked = true ↔ Unlocked a.adapter.currentSecurityLevel exchanged)
      (hdone : s.lock.now ≤ done ∧ a.adapter.now ≤ done) :
      TeardownStep srv s (.effect r a opened unlocked done)
        { s.settle a.adapter done with
          requests := before ++ after
          sessionUnder := if opened then r.under else s.sessionUnder
          levelUnder := if unlocked then r.under else s.levelUnder }
  | heartbeat {adapter : SessionManager} {done : Time}
      (hrun : s.adapter.heartbeatRunning = true)
      (ha : heartbeatTick srv.context.config srv.context.bus s.adapterNow = adapter)
      (hdone : s.lock.now ≤ done ∧ adapter.now ≤ done) :
      TeardownStep srv s (.heartbeat done) (s.settle adapter done)
  | time {done : Time} (hdone : s.lock.now ≤ done) :
      TeardownStep srv s (.time done) (s.settle s.adapter done)

/-- DELETEs, gated requests, lock requests, heartbeats and time, in any order. -/
def teardownLts (srv : UdsServer) : Lts TeardownSys TeardownEvent where
  init s := lockLts.init s.lock ∧ s = { lock := s.lock, adapter := { lastTouch := s.lock.now } }
  step := TeardownStep srv

/-- A teardown ends nothing that was raised under a lock made since its release. -/
def SparesSuccessor (s : TeardownSys) (e : TeardownEvent) (s' : TeardownSys) : Prop :=
  match e with
  | .teardown made _ =>
    (s'.adapter.currentSessionType ≠ s.adapter.currentSessionType →
      ∀ n, s.sessionUnder = some n → n ≤ made) ∧
    (s'.adapter.currentSecurityLevel ≠ s.adapter.currentSecurityLevel →
      ∀ n, s.levelUnder = some n → n ≤ made)
  | _ => True

/-- What raises a session or a level was not checked under a lock made since a release
whose teardown is still to come. -/
def Settled (s : TeardownSys) (e : TeardownEvent) (_ : TeardownSys) : Prop :=
  match e with
  | .effect r _ opened unlocked _ =>
    (opened || unlocked) = true → ∀ made ∈ s.releases, ∀ n, r.under = some n → n ≤ made
  | _ => True

/-! ## What is recorded is no younger than the releases under way -/

/-- What was raised under the lock `under`, if under any, is no younger than `made` and
than each of the releases. -/
def NoYounger (made : Nat) (releases : List Nat) (under : Option Nat) : Prop :=
  ∀ n, under = some n → n ≤ made ∧ ∀ m ∈ releases, n ≤ m

namespace NoYounger

variable {made : Nat} {releases : List Nat} {under : Option Nat}

/-- What was raised under no lock is younger than none. -/
theorem none : NoYounger made releases none := by
  intro n hn
  cases hn

/-- Locks that are made later are younger. -/
theorem later (h : NoYounger made releases under) (k : Nat) :
    NoYounger (made + k) releases under :=
  fun n hn => ⟨(h n hn).1.trans (Nat.le_add_right ..), (h n hn).2⟩

/-- A release made now is no older than anything there is. -/
theorem release (h : NoYounger made releases under) :
    NoYounger made (releases ++ [made]) under := by
  intro n hn
  refine ⟨(h n hn).1, fun m hm => ?_⟩
  rcases List.mem_append.mp hm with hm | hm
  · exact (h n hn).2 m hm
  · exact List.mem_singleton.mp hm ▸ (h n hn).1

/-- With fewer releases under way there is less to ask. -/
theorem subset {rest : List Nat} (h : NoYounger made releases under) (hsub : rest ⊆ releases) :
    NoYounger made rest under :=
  fun n hn => ⟨(h n hn).1, fun m hm => (h n hn).2 m (hsub hm)⟩

end NoYounger

/-- What is recorded was raised under a lock that is old enough. -/
structure TeardownInv (s : TeardownSys) : Prop where
  checked : ∀ r ∈ s.requests, ∀ n, r.under = some n → n ≤ s.made
  session : NoYounger s.made s.releases s.sessionUnder
  level : NoYounger s.made s.releases s.levelUnder

/-- What is left of a list that lost one entry. -/
theorem remove_subset {α : Type*} {l before after : List α} {x : α}
    (h : l = before ++ x :: after) : before ++ after ⊆ l := by
  rw [h]
  exact ((List.sublist_cons_self x after).append_left before).subset

section

variable {srv : UdsServer}

/-- Nothing is recorded at the start. -/
theorem TeardownInv.initial {s : TeardownSys} (h : (teardownLts srv).init s) : TeardownInv s := by
  rw [h.2]
  exact ⟨fun r hr => absurd hr List.not_mem_nil, .none, .none⟩

/-- **A settled step keeps it.** -/
theorem TeardownInv.step {s s' : TeardownSys} {e : TeardownEvent} (h : TeardownInv s)
    (hs : (teardownLts srv).step s e s') (hsettled : Settled s e s') : TeardownInv s' := by
  cases hs with
  | lock hl hkept =>
    refine ⟨fun r hr n hn => ?_, h.session.later _, h.level.later _⟩
    exact (h.checked r hr n hn).trans (Nat.le_add_right ..)
  | release hl => exact ⟨h.checked, h.session.release, h.level.release⟩
  | teardown before after hr ha hdone =>
    exact ⟨h.checked, h.session.subset (remove_subset hr), h.level.subset (remove_subset hr)⟩
  | check hpath hl =>
    refine ⟨fun r hr n hn => ?_, h.session, h.level⟩
    rcases List.mem_append.mp hr with hr | hr
    · exact h.checked r hr n hn
    · obtain rfl := List.mem_singleton.mp hr
      unfold TeardownSys.heldAt at hn
      split_ifs at hn
      exact (Option.some.inj hn).symm.le
  | leave before after hr =>
    exact ⟨fun r hmem => h.checked r (remove_subset hr hmem), h.session, h.level⟩
  | effect before after hr ha hwire hopened hunlocked hdone =>
    rename_i r a opened unlocked done exchanged
    have hmem : r ∈ s.requests := by simp [hr]
    -- what the request raises was checked under a lock that is old enough
    have hraised : (opened || unlocked) = true → NoYounger s.made s.releases r.under :=
      fun hany n hn => ⟨h.checked r hmem n hn, fun m hm => hsettled hany m hm n hn⟩
    refine ⟨fun r' hr' => h.checked r' (remove_subset hr hr'), ?_, ?_⟩
    · cases opened with
      | true => exact hraised rfl
      | false => exact h.session
    · cases unlocked with
      | true => exact hraised (Bool.or_true _)
      | false => exact h.level
  | heartbeat hrun ha hdone => exact ⟨h.checked, h.session, h.level⟩
  | time hdone => exact ⟨h.checked, h.session, h.level⟩

/-- **A teardown spares the next holder** in every run in which nothing is raised under
a lock made between a release and its teardown. -/
theorem teardown_spares {es : List TeardownEvent} {s : TeardownSys}
    (h : (teardownLts srv).Always Settled es s) :
    (teardownLts srv).Always SparesSuccessor es s := by
  intro es₁ e es₂ s₁ s₂ hes h₁ hs hr
  have hinv : TeardownInv s₁ := Lts.Always.induct (fun _ h₀ => TeardownInv.initial h₀)
    (fun _ _ _ hI hs hc => hI.step hs hc) h₁ (h.before hes hs hr)
  cases hs with
  | teardown before after hreleases ha hdone =>
    rename_i made adapter done
    have hmem : made ∈ s₁.releases := by simp [hreleases]
    exact ⟨fun _ n hn => (hinv.session n hn).2 made hmem,
      fun _ n hn => (hinv.level n hn).2 made hmem⟩
  | _ => trivial

/-! ## The handlers are this system's requests -/

/-- A DELETE that releases, and has the server to itself, is a release and then the
teardown. -/
theorem handleDeleteLock_runs {env : Env} {req : Request} {lockId : Bytes}
    {w : World SessionManager} (hnow : w.adapter.now = env.now)
    (hret : (w.locks.release env.now srv.path lockId).1 = .released) :
    ∃ s done, (teardownLts srv).Run { lock := ⟨w.locks, env.now⟩, adapter := w.adapter }
        [.release lockId env.now, .teardown 0 done] s ∧
      s.lock.lm = (handleDeleteLock srv.router env req srv.path lockId w).1.locks ∧
      s.adapter = (handleDeleteLock srv.router env req srv.path lockId w).1.adapter := by
  have hhandle : OnlyEvents _ (handleDeleteLock srv.router env req srv.path lockId w).1 :=
    handleDeleteLock_onlyEvents srv.find rfl hret
  have hrelease : lockLts.step ⟨w.locks, env.now⟩ (.release srv.path lockId env.now .released)
      ⟨(w.locks.release env.now srv.path lockId).2, env.now⟩ :=
    ⟨by simp [LockEvent.readings], Prod.ext hret rfl⟩
  refine ⟨_, max env.now _, ⟨_, .release hrelease, _, .teardown [] [] rfl rfl
    ⟨le_max_left _ _, le_max_right _ _⟩, rfl⟩, hhandle.locks.symm, ?_⟩
  have hadapter : ({ w.adapter with now := env.now } : SessionManager) = w.adapter := by
    rw [← hnow]
  rw [hhandle.adapter]
  show (srv.context.setMode { w.adapter with now := env.now } (cStr srv.path) (str "default")).2 = _
  rw [hadapter]
  rfl

/-- A gated handler that calls its adapter, and has the server to itself, is a check and
then the call. -/
theorem gated_runs {env : Env} {req : Request} {k : GatedHandler} {w : World SessionManager}
    (hnow : w.adapter.now = env.now)
    (h : (k.handle srv.router env req srv.path w).1.calls ≠ w.calls) :
    ∃ r a opened unlocked done s, r.request.handler = k ∧
      (teardownLts srv).Run { lock := ⟨w.locks, env.now⟩, adapter := w.adapter }
        [.check r.request, .effect r a opened unlocked done] s ∧
      s.lock.lm = (k.handle srv.router env req srv.path w).1.locks ∧
      s.adapter = (k.handle srv.router env req srv.path w).1.adapter := by
  obtain ⟨hlock, a, ha⟩ := acts_of_calls h
  have hreport := acts_reported hlock ha
  -- whatever the call did, the wire only got longer
  obtain ⟨exchanged, hwire⟩ : ∃ exchanged, a.adapter.wire = w.adapter.wire ++ exchanged := by
    rcases acts_session ha with ⟨-, exchanged, hmoves⟩ | ⟨-, hrevert⟩
    · exact ⟨exchanged, hmoves.wire⟩
    · rw [hrevert]
      rcases (revertToDefault_spec srv.context.bus w.adapter).2 with ⟨-, hmoves⟩ | ⟨-, resp, hresp⟩
      · exact ⟨[], hmoves.wire⟩
      · exact ⟨_, hresp⟩
  -- what was opened and unlocked is read off the wire
  have hdecide : ∀ p : Prop, ∃ b : Bool, b = true ↔ p := fun p => by
    by_cases hp : p
    · exact ⟨true, iff_of_true rfl hp⟩
    · exact ⟨false, iff_of_false Bool.false_ne_true hp⟩
  obtain ⟨opened, hopened⟩ := hdecide (Opened a.adapter.currentSessionType exchanged)
  obtain ⟨unlocked, hunlocked⟩ := hdecide (Unlocked a.adapter.currentSecurityLevel exchanged)
  have hcheck : lockLts.step ⟨w.locks, env.now⟩
      (.checkLock srv.path (headerValue req.headers (str "X-SOVD-Lock-Id")) env.now true)
      ⟨w.locks, env.now⟩ := ⟨by simp [LockEvent.readings], hlock, rfl⟩
  -- the event sets the clock to the time of the request, where it stands already
  have hadapter : ({ w.adapter with now := env.now } : SessionManager) = w.adapter := by
    rw [← hnow]
  let s₀ : TeardownSys := { lock := ⟨w.locks, env.now⟩, adapter := w.adapter }
  refine ⟨⟨{ handler := k, env, req, path := srv.path }, s₀.heldAt srv.path env.now⟩, a, opened,
    unlocked, max env.now a.adapter.now, _, rfl, ⟨_, .check rfl hcheck, _, .effect [] [] rfl ?_
      hwire hopened hunlocked ⟨le_max_left _ _, le_max_right _ _⟩, rfl⟩, hreport.locks.symm,
    hreport.adapter.symm⟩
  show Acts srv.router env req srv.path _ { w.adapter with now := env.now } k a
  rw [hadapter]
  exact ha

end

/-! ## A session opened between a release and its teardown -/

namespace Succession

open Takeover (server)

def acquireA : LockEvent := .acquire (str "ecu") 60 0 0 (some (str "lock-1"))

def acquireB : LockEvent := .acquire (str "ecu") 60 0 0 (some (str "lock-2"))

/-- POST modes under the second lock. -/
def modeB : Gated where
  handler := .postMode
  env := Takeover.env 0
  req := { Takeover.modeA with headers := Takeover.lockHeader (str "lock-2") }
  path := str "ecu"

/-- The same under the first. -/
def modeA : Gated := { modeB with req := Takeover.modeA }

/-- The session each of them opens. -/
def opened : Act SessionManager where
  call := .setMode (str "ecu") (str "extended") .ok
  adapter :=
    { currentSessionType := 0x03, heartbeatRunning := true
      wire := [⟨[0x10, 0x03], some [0x50, 0x03]⟩] }
  failed := str "set_mode failed"
  event := str "mode_changed"
  fields := [(str "entity", .str (str "ecu")), (str "mode", .str (str "extended")),
    (str "correlation_id", .str (str "req-0000000000000000"))]
  answer := noContent

def lockA : LockManager := (LockManager.acquire {} 0 0 (str "ecu") 60).2

def free : LockManager := (lockA.release 0 (str "ecu") (str "lock-1")).2

def lockB : LockManager := (free.acquire 0 0 (str "ecu") 60).2

def s₀ : TeardownSys := { lock := ⟨{}, 0⟩, adapter := {} }

def s₁ : TeardownSys := { s₀ with lock := ⟨lockA, 0⟩, made := 1 }

def s₂ : TeardownSys := { s₁ with lock := ⟨free, 0⟩, releases := [1] }

def s₃ : TeardownSys := { s₂ with lock := ⟨lockB, 0⟩, made := 2 }

def s₄ : TeardownSys := { s₃ with requests := [⟨modeB, some 2⟩] }

def s₅ : TeardownSys :=
  { s₃ with adapter := opened.adapter, sessionUnder := some 2 }

/-- What a teardown leaves of it. -/
def reverted : SessionManager :=
  (server.context.setMode opened.adapter (str "ecu") (str "default")).2

/-- The session is opened again. -/
def reopened : Act SessionManager :=
  { opened with
    adapter := { opened.adapter with
      wire := reverted.wire ++ [⟨[0x10, 0x03], some [0x50, 0x03]⟩] } }

def s₆ : TeardownSys := { s₅ with adapter := reverted, releases := [] }

/-- The mode of the second client, at work. -/
theorem acts : Acts server.router modeB.env modeB.req modeB.path modeB.corr s₄.adapterNow
    modeB.handler opened := by
  have hmode : postedMode modeB.env modeB.req.body = .ok (str "extended") := rfl
  have hset : server.context.setMode s₄.adapterNow (cStr modeB.path) (cStr (str "extended")) =
      (.ok, opened.adapter) := rfl
  exact .postMode ⟨_, rfl, rfl, rfl⟩ hmode hset

/-- Taking a lock releases none. -/
theorem acquire_keeps (p : Bytes) (ttl : Int) (t₁ t₂ : Time) (ret : Option Bytes) (path : Bytes)
    (t : Time) : ¬ (LockEvent.acquire p ttl t₁ t₂ ret).Released path t := by
  intro h
  obtain ⟨lockId, h⟩ := h
  cases h

/-- The exchange that opens the session. -/
theorem opens : Opened 0x03 [⟨[0x10, 0x03], some [0x50, 0x03]⟩] :=
  ⟨[0x50, 0x03], List.mem_singleton.mpr rfl, by decide⟩

theorem unlocks_nothing : ¬ Unlocked 0x00 [⟨[0x10, 0x03], some [0x50, 0x03]⟩] := by
  intro h
  obtain ⟨key, resp, hmem, -⟩ := h
  have hrequest := congrArg Exchange.request (List.mem_singleton.mp hmem)
  exact absurd (List.cons.inj hrequest).1 (by decide)

/-- The first lock is released, and the second client opens a session. -/
theorem hist : (teardownLts server).Hist
    [.lock acquireA, .release (str "lock-1") 0, .lock acquireB, .check modeB,
      .effect ⟨modeB, some 2⟩ opened true false 0] s₅ := by
  have h₀ : (teardownLts server).init s₀ := ⟨rfl, rfl⟩
  have h₁ : (teardownLts server).step s₀ (.lock acquireA) s₁ :=
    .lock ⟨by decide, rfl⟩ (acquire_keeps _ _ _ _ _ _)
  have h₂ : (teardownLts server).step s₁ (.release (str "lock-1") 0) s₂ := .release ⟨by decide, rfl⟩
  have h₃ : (teardownLts server).step s₂ (.lock acquireB) s₃ :=
    .lock ⟨by decide, rfl⟩ (acquire_keeps _ _ _ _ _ _)
  have h₄ : (teardownLts server).step s₃ (.check modeB) s₄ := .check rfl ⟨by decide, rfl, rfl⟩
  have h₅ : (teardownLts server).step s₄ (.effect ⟨modeB, some 2⟩ opened true false 0) s₅ :=
    .effect [] [] rfl acts rfl (iff_of_true rfl opens)
      (iff_of_false Bool.false_ne_true unlocks_nothing)
      ⟨by decide, by decide⟩
  exact ⟨s₀, h₀, s₁, h₁, s₂, h₂, s₃, h₃, s₄, h₄, s₅, h₅, rfl⟩

/-- Then the first release is torn down. -/
theorem teardown : (teardownLts server).step s₅ (.teardown 1 0) s₆ :=
  .teardown [] [] rfl rfl ⟨by decide, by decide⟩

/-- The first client's session is opened as its lock is released, and torn down; then the second
client locks and opens its own. -/
def inTurn : List TeardownEvent :=
  [.lock acquireA, .check modeA, .release (str "lock-1") 0,
    .effect ⟨modeA, some 1⟩ opened true false 0, .teardown 1 0,
    .lock acquireB, .check modeB, .effect ⟨modeB, some 2⟩ reopened true false 0]

def t₂ : TeardownSys := { s₁ with requests := [⟨modeA, some 1⟩] }

def t₃ : TeardownSys := { t₂ with lock := ⟨free, 0⟩, releases := [1] }

def t₄ : TeardownSys :=
  { t₃ with adapter := opened.adapter, sessionUnder := some 1, requests := [] }

def t₅ : TeardownSys := { t₄ with adapter := reverted, releases := [] }

def t₆ : TeardownSys := { t₅ with lock := ⟨lockB, 0⟩, made := 2 }

def t₇ : TeardownSys := { t₆ with requests := [⟨modeB, some 2⟩] }

def t₈ : TeardownSys :=
  { t₇ with adapter := reopened.adapter, sessionUnder := some 2, requests := [] }

/-- The first client opens its session. -/
theorem acts_opened : Acts server.router modeA.env modeA.req modeA.path modeA.corr t₃.adapterNow
    modeA.handler opened := by
  have hmode : postedMode modeA.env modeA.req.body = .ok (str "extended") := rfl
  have hset : server.context.setMode t₃.adapterNow (cStr modeA.path) (cStr (str "extended")) =
      (.ok, opened.adapter) := rfl
  exact .postMode ⟨_, rfl, rfl, rfl⟩ hmode hset

/-- The second client opens its own. -/
theorem acts_reopened : Acts server.router modeB.env modeB.req modeB.path modeB.corr t₇.adapterNow
    modeB.handler reopened := by
  have hmode : postedMode modeB.env modeB.req.body = .ok (str "extended") := rfl
  have hset : server.context.setMode t₇.adapterNow (cStr modeB.path) (cStr (str "extended")) =
      (.ok, reopened.adapter) := rfl
  exact .postMode ⟨_, rfl, rfl, rfl⟩ hmode hset

/-- All of it, step by step. -/
theorem run_inTurn : (teardownLts server).Run s₀ inTurn t₈ := by
  have h₁ : (teardownLts server).step s₀ (.lock acquireA) s₁ :=
    .lock ⟨by decide, rfl⟩ (acquire_keeps _ _ _ _ _ _)
  have h₂ : (teardownLts server).step s₁ (.check modeA) t₂ := .check rfl ⟨by decide, rfl, rfl⟩
  have h₃ : (teardownLts server).step t₂ (.release (str "lock-1") 0) t₃ := .release ⟨by decide, rfl⟩
  have h₄ : (teardownLts server).step t₃ (.effect ⟨modeA, some 1⟩ opened true false 0) t₄ :=
    .effect [] [] rfl acts_opened rfl (iff_of_true rfl opens)
      (iff_of_false Bool.false_ne_true unlocks_nothing) ⟨by decide, by decide⟩
  have h₅ : (teardownLts server).step t₄ (.teardown 1 0) t₅ :=
    .teardown [] [] rfl rfl ⟨by decide, by decide⟩
  have h₆ : (teardownLts server).step t₅ (.lock acquireB) t₆ :=
    .lock ⟨by decide, rfl⟩ (acquire_keeps _ _ _ _ _ _)
  have h₇ : (teardownLts server).step t₆ (.check modeB) t₇ := .check rfl ⟨by decide, rfl, rfl⟩
  have h₈ : (teardownLts server).step t₇ (.effect ⟨modeB, some 2⟩ reopened true false 0) t₈ :=
    .effect [] [] rfl acts_reopened rfl (iff_of_true rfl opens)
      (iff_of_false Bool.false_ne_true unlocks_nothing) ⟨by decide, by decide⟩
  exact ⟨s₁, h₁, t₂, h₂, t₃, h₃, t₄, h₄, t₅, h₅, t₆, h₆, t₇, h₇, t₈, h₈, rfl⟩

/-- The first session is opened under the lock that is being released, the second when nothing
is being released any more. -/
theorem along_inTurn {s : TeardownSys} (h : (teardownLts server).init s) :
    (teardownLts server).Along Settled s inTurn := by
  refine fun s₁ h₁ => ⟨trivial, fun s₂ h₂ => ⟨trivial, fun s₃ h₃ => ⟨trivial, fun s₄ h₄ => ⟨?_,
    fun s₅ h₅ => ⟨trivial, fun s₆ h₆ => ⟨trivial, fun s₇ h₇ => ⟨trivial, fun s₈ h₈ =>
      ⟨?_, trivial⟩⟩⟩⟩⟩⟩⟩⟩
  all_goals
    have hreleases : s₃.releases = [1] := by
      cases h₃
      cases h₂
      cases h₁
      rw [h.2]
      rfl
    intro _ made hmade n hn
    obtain rfl := Option.some.inj hn
  · rw [hreleases] at hmade
    exact (List.mem_singleton.mp hmade).ge
  · have hnone : s₇.releases = [] := by
      cases h₇
      cases h₆
      cases h₅ with
      | teardown before after hr ha hdone =>
        cases h₄
        have hleft : [1] = before ++ 1 :: after := hreleases.symm.trans hr
        have hlength := congrArg List.length hleft
        simp only [List.length_append, List.length_cons, List.length_nil] at hlength
        exact List.eq_nil_of_length_eq_zero (by rw [List.length_append]; omega)
    rw [hnone] at hmade
    cases hmade

end Succession

open Succession in
/-- The teardown of the first lock's release ends the session opened under the second. -/
theorem successor_reverted :
    ∃ es s, (teardownLts Takeover.server).Hist es s ∧
      ¬ (teardownLts Takeover.server).Always SparesSuccessor es s := by
  refine ⟨_, s₆, Lts.hist_concat hist teardown, fun h => ?_⟩
  have hspared := (h _ _ [] _ _ rfl hist teardown rfl).1 (by decide) 2 rfl
  exact absurd hspared (by decide)

open Succession in
/-- Two clients, one after the other, each with a session of its own. -/
theorem sessions_in_turn :
    (teardownLts Takeover.server).Hist inTurn t₈ ∧
      (teardownLts Takeover.server).Always SparesSuccessor inTurn t₈ :=
  ⟨⟨s₀, ⟨rfl, rfl⟩, run_inTurn⟩, teardown_spares (.of_along fun _ h => along_inTurn h)⟩

end Sovd
