import Sovd.Core.LockSafety
import Sovd.Server.Handlers

/-!
# The gap between the lock check and the adapter call

`check_lock_header` and the adapter call of a lock-gated handler are two
critical sections, not one. In between the request parses its body and encodes
its value while other requests run: `gateLts` interleaves any number of them,
with lock operations, the passing of time and whatever else moves an adapter.

The question is whether a call can reach the adapter under somebody else's lock
(`OwnLock` says of one call that it does not). Each pending request keeps, as a
ghost, the ids that were handed out for its entity since its check. The
invariant `Explained` says that the lock on the entity of a pending request is
the request's own or one of those; a lock that was there at the check cannot
have been foreign, and `renew` keeps the holder (`step_view`). So `own_lock_iff`:
every call of a run is made under no foreign lock exactly when no call of the run
finds a lock that was taken in its own gap (`NotOvertaken`). With an acquire in
the gap it does happen (`overtaken`).

`handle_runs` ties the system to the handlers: a handler that has the server to
itself is a check and then the call.

Mirroring notes vs the C++:
- `LockManager` and the adapter are each under a mutex, which makes one
  `LockEvent`, one check and one adapter call a step.
- `other` stands for every use of the adapter that is not lock-gated: reads, the
  teardown after a DELETE, the heartbeat.
-/

namespace Sovd

variable {σ : Type}

/-- A request past its lock check, and the ids acquired on its entity since. -/
structure Gated where
  handler : GatedHandler
  env : Env
  req : Request
  path : Bytes
  overtakers : List Bytes := []

namespace Gated

/-- The lock id the request supplies. -/
def lockId (r : Gated) : Bytes := headerValue r.req.headers (str "X-SOVD-Lock-Id")

/-- The correlation id of the request. -/
def corr (r : Gated) : Bytes := (correlationIdFor r.env r.req {}).1

/-- What a lock operation adds to the record. -/
def overtake (e : LockEvent) (r : Gated) : Gated :=
  match e with
  | .acquire p _ _ _ (some id) =>
    if p = r.path then { r with overtakers := r.overtakers ++ [id] } else r
  | _ => r

/-- What overtakes a request does not change its path. -/
@[simp] theorem overtake_path (e : LockEvent) (r : Gated) : (r.overtake e).path = r.path := by
  unfold overtake
  split
  · split_ifs <;> rfl
  · rfl

@[simp] theorem overtake_lockId (e : LockEvent) (r : Gated) :
    (r.overtake e).lockId = r.lockId := by
  unfold overtake
  split
  · split_ifs <;> rfl
  · rfl

/-- Who has overtaken a request has done so for good. -/
theorem mem_overtake {e : LockEvent} {r : Gated} {id : Bytes} (h : id ∈ r.overtakers) :
    id ∈ (r.overtake e).overtakers := by
  unfold overtake
  split
  · split_ifs
    · exact List.mem_append_left _ h
    · exact h
  · exact h

/-- A lock that is made on the entity overtakes it. -/
theorem acquired_mem_overtake (r : Gated) (ttl : Int) (t₁ t₂ : Time) (id : Bytes) :
    id ∈ (r.overtake (.acquire r.path ttl t₁ t₂ (some id))).overtakers := by
  simp [overtake]

end Gated

/-- The lock manager, the adapter, and the requests between check and effect. -/
structure GateSys (σ : Type) where
  lock : LockSys
  adapter : σ
  pending : List Gated := []

/-- What can happen to them. -/
inductive GateEvent (σ : Type)
  | tick
  | lock (e : LockEvent)
  | check (r : Gated)
  | leave (r : Gated)
  | effect (r : Gated) (a : Act σ)
  | other

/-- A check and an effect are steps of their own; anything may come between. -/
inductive GateStep (R : Router σ) (s : GateSys σ) : GateEvent σ → GateSys σ → Prop
  | tick {t : Time} (ht : s.lock.now ≤ t) :
      GateStep R s .tick { s with lock := { s.lock with now := t } }
  | lock {e : LockEvent} {l : LockSys} (hl : lockLts.step s.lock e l) :
      GateStep R s (.lock e) { s with lock := l, pending := s.pending.map (Gated.overtake e) }
  | check {r : Gated} {l : LockSys} (hnew : r.overtakers = [])
      (hl : lockLts.step s.lock (.checkLock r.path r.lockId r.env.now true) l) :
      GateStep R s (.check r) { s with lock := l, pending := s.pending ++ [r] }
  | leave {r : Gated} (before after : List Gated) (hr : s.pending = before ++ r :: after) :
      GateStep R s (.leave r) { s with pending := before ++ after }
  | effect {r : Gated} {a : Act σ} (before after : List Gated)
      (hr : s.pending = before ++ r :: after)
      (ha : Acts R r.env r.req r.path r.corr s.adapter r.handler a) :
      GateStep R s (.effect r a) { s with adapter := a.adapter, pending := before ++ after }
  | other {adapter : σ} : GateStep R s .other { s with adapter }

/-- Requests, lock operations and time, in any order. -/
def gateLts (R : Router σ) : Lts (GateSys σ) (GateEvent σ) where
  init s := lockLts.init s.lock ∧ s.pending = []
  step s e s' := GateStep R s e s'

/-- The lock on the entity of `r` at this instant, if there is one. -/
def GateSys.lockOn (s : GateSys σ) (r : Gated) : Option (Lease Bytes Time) :=
  s.lock.lm.view s.lock.now r.path

/-- A call made now is made under no lock but the one the request names. -/
def OwnLock (s : GateSys σ) (e : GateEvent σ) (_ : GateSys σ) : Prop :=
  match e with
  | .effect r _ => ∀ l, s.lockOn r = some l → l.holder = r.lockId
  | _ => True

/-- No lock that was taken between the check and the call still stands, but one
with the very id the request named. -/
def NotOvertaken (s : GateSys σ) (e : GateEvent σ) (_ : GateSys σ) : Prop :=
  match e with
  | .effect r _ => ∀ l, s.lockOn r = some l → l.holder ∈ r.overtakers → l.holder = r.lockId
  | _ => True

/-! ## Where a foreign lock comes from -/

/-- The lock on the entity of a pending request is its own, or was taken since. -/
def Explained (s : GateSys σ) : Prop :=
  ∀ r ∈ s.pending, ∀ l, s.lockOn r = some l → l.holder = r.lockId ∨ l.holder ∈ r.overtakers

section

variable {R : Router σ}

/-- No request is under way at the start. -/
theorem explained_init {s : GateSys σ} (h : (gateLts R).init s) : Explained s := by
  intro r hr
  rw [h.2] at hr
  cases hr

/-- A lock that stands later stood before. -/
theorem lockOn_of_le {s : GateSys σ} {l : LockSys} (hle : s.lock.now ≤ l.now)
    (hlm : l.lm = s.lock.lm) {r : Gated} {x : Lease Bytes Time}
    (h : l.lm.view l.now r.path = some x) : s.lockOn r = some x :=
  LockManager.view_of_le hle (by rw [hlm]) h

/-- One step keeps every lock explained. -/
theorem explained_step {s s' : GateSys σ} {e : GateEvent σ} (h : Explained s)
    (hs : (gateLts R).step s e s') : Explained s' := by
  cases hs with
  | tick ht =>
    intro r hr l hl
    exact h r hr l (lockOn_of_le (l := ⟨s.lock.lm, _⟩) ht rfl hl)
  | lock hl =>
    intro r' hr' x hx
    obtain ⟨r, hr, rfl⟩ := List.mem_map.mp hr'
    rw [GateSys.lockOn, Gated.overtake_path] at hx
    rw [Gated.overtake_lockId]
    -- the lock was there before under the same id, or this is its acquire
    rcases step_view hl hx with ⟨x₀, hx₀, hholder, -, -⟩ | ⟨⟨ttl, t₁, t₂, rfl⟩, -⟩
    · rcases h r hr x₀ hx₀ with hown | hover
      · exact .inl (hholder ▸ hown)
      · exact .inr (Gated.mem_overtake (hholder ▸ hover))
    · exact .inr (Gated.acquired_mem_overtake r ttl t₁ t₂ x.holder)
  | check hnew hl =>
    rename_i r l
    intro r' hr' x hx
    obtain ⟨hret, hlm⟩ := hl.2
    rcases List.mem_append.mp hr' with hr' | hr'
    · exact h r' hr' x (lockOn_of_le (step_now_le hl) hlm hx)
    · obtain rfl := List.mem_singleton.mp hr'
      -- whatever is there now was there at the reading the check made
      have hread : r'.env.now ≤ l.now := step_reading_le hl (by simp [LockEvent.readings])
      have hthen := LockManager.view_of_le hread (by rw [hlm]) hx
      rw [LockManager.checkLock_held hthen] at hret
      exact .inl (by simpa using hret)
  | leave before after hr =>
    intro r' hr' x hx
    refine h r' ?_ x hx
    rw [hr]
    exact List.mem_append.mpr ((List.mem_append.mp hr').imp_right (List.mem_cons_of_mem _))
  | effect before after hr ha =>
    intro r' hr' x hx
    refine h r' ?_ x hx
    rw [hr]
    exact List.mem_append.mpr ((List.mem_append.mp hr').imp_right (List.mem_cons_of_mem _))
  | other => exact h

/-- In every history the requests under way are explained. -/
theorem explained_of_hist {es : List (GateEvent σ)} {s : GateSys σ}
    (h : (gateLts R).Hist es s) : Explained s := by
  obtain ⟨s₀, h₀, hr⟩ := h
  exact Lts.run_invariant (fun _ _ _ hi hs => explained_step hi hs) hr (explained_init h₀)

/-- **The gate and its gap.** Along a run, no adapter call is made under a
foreign lock exactly when no call finds one that was taken in its gap. -/
theorem own_lock_iff (es : List (GateEvent σ)) (s : GateSys σ) :
    (gateLts R).Always OwnLock es s ↔ (gateLts R).Always NotOvertaken es s := by
  constructor
  · intro halways
    refine halways.imp fun es s e s' _ _ hown => ?_
    cases e with
    | effect r a => exact fun l hl _ => hown l hl
    | _ => trivial
  · intro halways
    refine halways.imp fun es s e s' hhist hs hnot => ?_
    cases e with
    | effect r a =>
      intro l hl
      cases hs with
      | effect before after hr ha =>
        have hmem : r ∈ s.pending := by simp [hr]
        rcases explained_of_hist hhist r hmem l hl with hown | hover
        · exact hown
        · exact hnot l hl hover
    | _ => trivial

/-! ## The handlers are this system's requests -/

/-- A handler that calls its adapter, and has the server to itself, is a check
and then the call. -/
theorem handle_runs {env : Env} {req : Request} {path : Bytes} {w : World σ} {k : GatedHandler}
    (h : (k.handle R env req path w).1.calls ≠ w.calls) :
    ∃ r a, r.handler = k ∧ r.path = path ∧
      r.lockId = headerValue req.headers (str "X-SOVD-Lock-Id") ∧
      (k.handle R env req path w).1.calls = w.calls ++ [a.call] ∧
      (gateLts R).Run { lock := ⟨w.locks, env.now⟩, adapter := w.adapter } [.check r, .effect r a]
        { lock := ⟨(k.handle R env req path w).1.locks, env.now⟩
          adapter := (k.handle R env req path w).1.adapter } := by
  obtain ⟨hlock, a, ha⟩ := acts_of_calls h
  have hdone := acts_reported hlock ha
  refine ⟨{ handler := k, env, req, path }, a, rfl, rfl, rfl, hdone.calls, ?_⟩
  rw [hdone.locks, hdone.adapter]
  have hcheck : lockLts.step ⟨w.locks, env.now⟩
      (.checkLock path (headerValue req.headers (str "X-SOVD-Lock-Id")) env.now true)
      ⟨w.locks, env.now⟩ := ⟨by simp [LockEvent.readings], hlock, rfl⟩
  exact ⟨_, .check rfl hcheck, _, .effect [] [] rfl ha, rfl⟩

end

/-! ## Faults cleared under a lock taken in the gap -/

namespace Overtaken

/-- A backend that clears faults whenever it is asked. -/
def backend : Vtable Unit := { clearFaults := some fun s _ => (.ok, s) }

def router : Router Unit := { entities := [{ path := str "ecu", vtable := some backend }] }

/-- DELETE faults, with no lock id: nobody holds the entity yet. -/
def clearing : Gated where
  handler := .clearFaults
  env :=
    { ssl :=
        { hmacSha256 := fun _ _ => [], encodeBlock := fun _ => [], decodeBlock := fun _ => none }
      parse := fun _ => none }
  req := { method := str "DELETE", path := str "/v1/entities/ecu/faults" }
  path := str "ecu"

/-- Another client's lock on the same entity. -/
def acquiring : LockEvent := .acquire (str "ecu") 60 0 0 (some (str "lock-1"))

/-- The faults are cleared. -/
def cleared : Act Unit where
  call := .clearFaults (str "ecu") .ok
  adapter := ()
  failed := str "clear_faults failed"
  event := str "faults_cleared"
  fields := [(str "entity", .str (str "ecu")),
    (str "correlation_id", .str (str "req-0000000000000000"))]
  answer := noContent

def start : GateSys Unit := { lock := ⟨{}, 0⟩, adapter := () }

def locked : LockManager := (({} : LockManager).acquire 0 0 (str "ecu") 60).2

end Overtaken

open Overtaken in
/-- A lock is made between the check of a request and its effect. -/
theorem overtaken :
    ∃ s, (gateLts router).Hist
        [.check clearing, .lock acquiring, .effect (clearing.overtake acquiring) cleared] s ∧
      ¬ (gateLts router).Always OwnLock
        [.check clearing, .lock acquiring, .effect (clearing.overtake acquiring) cleared] s := by
  have hstart : (gateLts router).init start := ⟨rfl, rfl⟩
  have hcheck :
      (gateLts router).step start (.check clearing) { start with pending := [clearing] } :=
    .check rfl ⟨by decide, rfl, rfl⟩
  have hacquire : (gateLts router).step { start with pending := [clearing] } (.lock acquiring)
      { start with lock := ⟨locked, 0⟩, pending := [clearing.overtake acquiring] } :=
    .lock ⟨by decide, rfl⟩
  have heffect : (gateLts router).step
      { start with lock := ⟨locked, 0⟩, pending := [clearing.overtake acquiring] }
      (.effect (clearing.overtake acquiring) cleared) { start with lock := ⟨locked, 0⟩ } :=
    .effect [] [] rfl (.clearFaults ⟨_, rfl, rfl, rfl⟩ rfl)
  have hbefore := Lts.hist_concat (Lts.hist_concat (Lts.hist_nil hstart) hcheck) hacquire
  refine ⟨_, Lts.hist_concat hbefore heffect, fun halways => ?_⟩
  -- the lock that stands at the call is the other client's
  have hown := halways _ _ [] _ _ rfl hbefore heffect rfl
  have hlock : GateSys.lockOn
      { start with lock := ⟨locked, 0⟩, pending := [clearing.overtake acquiring] }
      (clearing.overtake acquiring) = some ⟨str "lock-1", seconds 60⟩ := rfl
  exact absurd (hown _ hlock) (by decide)

end Sovd
