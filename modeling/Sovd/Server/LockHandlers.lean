import Sovd.Core.LockSafety
import Sovd.Server.World

/-!
# The lock handlers (`server/src/routes_locks.cpp`)

POST, PUT and DELETE on `…/locks` are `acquire`, `renew` and `release` of the
lock manager behind the usual opening. Only a successful DELETE reaches into an
adapter: it asks for the mode `default`, so that the session a lock was used
for ends with it, and drops the answer.

`LockStep` says in one place what a lock request can do: one call of the lock
manager at most, and nothing else unless that call released a lock. Every lock
handler does one such step (`LockRequest.step`), which is how what is proved of
the lock manager holds of the server.

Mirroring notes vs the C++:
- `get<int>()` keeps the low 32 bits of the parsed integer.
- What `ttlSeconds` refuses is the text of a 400.
-/

namespace Sovd

variable {σ : Type}

/-- The server-wide ceiling on locks held at one time. -/
def kMaxConcurrentLocks : Nat := 64

/-- The time to live the body of a POST or PUT asks for. -/
def ttlSeconds (env : Env) (body : Bytes) : Except Bytes Int :=
  let ttl : Except Bytes Int :=
    if body = [] then .ok 60
    else
      match env.parse body with
      | none => .error (str "invalid JSON body")
      | some parsed =>
        match parsed.get? (str "ttl_seconds") with
        | some (.int i) => .ok (toInt32 i)
        | _ => .ok 60 -- also where it is there and no integer
  match ttl with
  | .error text => .error text
  | .ok ttl => if ttl ≤ 0 then .error (str "ttl_seconds must be positive") else .ok ttl

/-- The document that names a lock and the time to live that was granted. -/
def grantedLock (lockId : Bytes) (ttl : Int) : Json :=
  .obj [(str "lock_id", .str lockId), (str "ttl_seconds", .int (min ttl kMaxLockTtlSeconds))]

/-- `handle_post_lock`: the locks are counted before one is taken. -/
def handlePostLock (R : Router σ) (env : Env) (req : Request) (path : Bytes) (w : World σ) :
    World σ × Outcome :=
  withEntity R env req path w fun _ corr res =>
    match ttlSeconds env req.body with
    | .error text => (w, writeError res 400 (str "BAD_REQUEST") text)
    | .ok ttl =>
      let readings := (List.range w.locks.locks.entries.length).map env.sweep
      -- counted and acquired in two steps
      if kMaxConcurrentLocks ≤ w.locks.heldLockCount readings then
        emitThen env (str "lock_denied")
          [(str "entity", .str path), (str "correlation_id", .str corr),
            (str "reason", .str (str "capacity"))] w fun w =>
          (w, writeError res 503 (str "BUSY") (str "server-wide lock capacity reached"))
      else
        match w.locks.acquire env.now env.later path ttl with
        | (none, locks) =>
          emitThen env (str "lock_denied")
            [(str "entity", .str path), (str "correlation_id", .str corr)] { w with locks } fun w =>
            (w, writeError res 423 (str "LOCKED") (str "entity is already locked"))
        | (some lockId, locks) =>
          emitThen env (str "lock_acquired")
            [(str "entity", .str path), (str "lock_id", .str lockId),
              (str "correlation_id", .str corr)] { w with locks } fun w =>
            (w, { res with status := 201 }.setJson (grantedLock lockId ttl))

/-- `handle_put_lock` -/
def handlePutLock (R : Router σ) (env : Env) (req : Request) (path lockId : Bytes) (w : World σ) :
    World σ × Outcome :=
  withEntity R env req path w fun _ corr res =>
    let fields := [(str "entity", .str path), (str "lock_id", .str lockId),
      (str "correlation_id", .str corr)]
    match ttlSeconds env req.body with
    | .error text => (w, writeError res 400 (str "BAD_REQUEST") text)
    | .ok ttl =>
      match w.locks.renew env.now env.later path lockId ttl with
      | (.renewed, locks) =>
        emitThen env (str "lock_renewed") fields { w with locks } fun w =>
          (w, res.setJson (grantedLock lockId ttl))
      | (.wrongId, locks) =>
        emitThen env (str "lock_renew_mismatch") fields { w with locks } fun w =>
          (w, writeError res 403 (str "FORBIDDEN") (str "lock_id does not match holder"))
      | (.notFound, locks) =>
        ({ w with locks }, writeError res 404 (str "NOT_FOUND") (str "no active lock on entity"))

/-- The teardown a successful DELETE asks of the backend. -/
def revertMode (e : Entity σ) (path : Bytes) (w : World σ) : World σ :=
  match e.vtable.bind Vtable.setMode with
  | none => w
  | some setMode =>
    let (r, adapter) := setMode w.adapter (cStr path) (str "default")
    { w with adapter, calls := w.calls ++ [.setMode (cStr path) (str "default") r] }

/-- `handle_delete_lock`: the mode is reverted once the lock is released. -/
def handleDeleteLock (R : Router σ) (env : Env) (req : Request) (path lockId : Bytes)
    (w : World σ) : World σ × Outcome :=
  withEntity R env req path w fun e corr res =>
    let fields := [(str "entity", .str path), (str "lock_id", .str lockId),
      (str "correlation_id", .str corr)]
    match w.locks.release env.now path lockId with
    | (.released, locks) =>
      emitThen env (str "lock_released") fields (revertMode e path { w with locks }) fun w =>
        (w, .ok { res with status := 204 })
    | (.wrongId, locks) =>
      emitThen env (str "lock_release_mismatch") fields { w with locks } fun w =>
        (w, writeError res 403 (str "FORBIDDEN") (str "lock_id does not match holder"))
    | (.notFound, locks) =>
      ({ w with locks }, writeError res 404 (str "NOT_FOUND") (str "no active lock on entity"))

/-! ## What a lock request does -/

/-- The three requests that are about a lock. -/
inductive LockRequest
  | post
  | put (lockId : Bytes)
  | delete (lockId : Bytes)

/-- The handler of each. -/
def LockRequest.handle (R : Router σ) (env : Env) (req : Request) (path : Bytes) :
    LockRequest → World σ → World σ × Outcome
  | post => handlePostLock R env req path
  | put lockId => handlePutLock R env req path lockId
  | delete lockId => handleDeleteLock R env req path lockId

/-- The call that released the lock on `path`. -/
def LockEvent.Released (path : Bytes) (t : Time) (e : LockEvent) : Prop :=
  ∃ lockId, e = .release path lockId t .released

/-- All that a lock request on `path` can do to locks and adapters. -/
inductive LockStep (R : Router σ) (env : Env) (path : Bytes) (w w' : World σ) : Prop
  | none (hw : OnlyEvents w w')
  | call {e : LockEvent} (hdoes : e.Does w.locks w'.locks) (hkept : ¬ e.Released path env.now)
      (hadapter : w'.adapter = w.adapter) (hcalls : w'.calls = w.calls)
  | released {e : LockEvent} {entity : Entity σ} (he : R.find path = some entity)
      (hdoes : e.Does w.locks w'.locks) (hend : e.Released path env.now)
      (hadapter : w'.adapter = (revertMode entity path w).adapter)
      (hcalls : w'.calls = (revertMode entity path w).calls)

section

variable {R : Router σ} {env : Env} {req : Request} {path : Bytes} {w : World σ}

/-- A server that was left as it is has no new events either. -/
theorem Untouched.onlyEvents {w w' : World σ} (h : Untouched w w') : OnlyEvents w w' :=
  ⟨h.locks, h.adapter, h.calls⟩

/-- Opening first: a request that is not for a local entity changes nothing here. -/
theorem withEntity_lockStep {act : Entity σ → Bytes → Response → World σ × Outcome}
    (h : ∀ e corr res, R.find path = some e → LockStep R env path w (act e corr res).1) :
    LockStep R env path w (withEntity R env req path w act).1 := by
  by_cases hlocal : ∃ e, R.find path = some e ∧ R.findProxy path = none
  · obtain ⟨e, he, hp⟩ := hlocal
    rw [withEntity_of_local he hp]
    exact h e _ _ he
  · exact .none (withEntity_of_not fun e he hp => hlocal ⟨e, he, hp⟩).onlyEvents

/-- A call that released nothing, and then only events. -/
theorem lockStep_of_call {e : LockEvent} {locks : LockManager} {w' : World σ}
    (hdoes : e.Does w.locks locks) (hkept : ¬ e.Released path env.now)
    (h : OnlyEvents { w with locks } w') : LockStep R env path w w' :=
  .call (h.locks ▸ hdoes) hkept h.adapter h.calls

/-- Taking a lock releases none. -/
theorem not_released_of_acquire (ttl : Int) (t₁ t₂ : Time) (ret : Option Bytes) :
    ¬ (LockEvent.acquire path ttl t₁ t₂ ret).Released path t₁ := by
  intro hx
  obtain ⟨lockId, h⟩ := hx
  cases h

/-- Renewing a lock releases none. -/
theorem not_released_of_renew (lockId : Bytes) (ttl : Int) (t₁ t₂ : Time) (ret : LockRenewResult) :
    ¬ (LockEvent.renew path lockId ttl t₁ t₂ ret).Released path t₁ := by
  intro hx
  obtain ⟨lockId, h⟩ := hx
  cases h

/-- A release that fails releases none. -/
theorem not_released_of_ne {lockId : Bytes} {t : Time} {ret : LockReleaseResult}
    (hret : ret ≠ .released) : ¬ (LockEvent.release path lockId t ret).Released path t := by
  intro hx
  obtain ⟨lockId, h⟩ := hx
  exact hret (LockEvent.release.inj h).2.2.2

/-- A POST takes one lock at most. -/
theorem handlePostLock_step : LockStep R env path w (handlePostLock R env req path w).1 := by
  refine withEntity_lockStep fun e corr res he => ?_
  dsimp only
  split
  next => exact .none ⟨rfl, rfl, rfl⟩
  next ttl httl =>
    split
    next => exact .none (emitThen_onlyEvents fun _ => rfl)
    next =>
      split
      next locks hacq =>
        exact lockStep_of_call (e := .acquire path ttl env.now env.later none) hacq
          (not_released_of_acquire _ _ _ _) (emitThen_onlyEvents fun _ => rfl)
      next lockId locks hacq =>
        exact lockStep_of_call (e := .acquire path ttl env.now env.later (some lockId)) hacq
          (not_released_of_acquire _ _ _ _) (emitThen_onlyEvents fun _ => rfl)

/-- A PUT renews one lock at most. -/
theorem handlePutLock_step {lockId : Bytes} :
    LockStep R env path w (handlePutLock R env req path lockId w).1 := by
  refine withEntity_lockStep fun e corr res he => ?_
  dsimp only
  split
  next => exact .none ⟨rfl, rfl, rfl⟩
  next ttl httl =>
    split
    next locks hren =>
      exact lockStep_of_call (e := .renew path lockId ttl env.now env.later .renewed) hren
        (not_released_of_renew _ _ _ _ _) (emitThen_onlyEvents fun _ => rfl)
    next locks hren =>
      exact lockStep_of_call (e := .renew path lockId ttl env.now env.later .wrongId) hren
        (not_released_of_renew _ _ _ _ _) (emitThen_onlyEvents fun _ => rfl)
    next locks hren =>
      exact lockStep_of_call (e := .renew path lockId ttl env.now env.later .notFound) hren
        (not_released_of_renew _ _ _ _ _) ⟨rfl, rfl, rfl⟩

/-- The teardown does not look at the lock table. -/
theorem revertMode_locks (e : Entity σ) (locks : LockManager) :
    revertMode e path { w with locks } = { revertMode e path w with locks } := by
  unfold revertMode
  split <;> rfl

/-- The release of a lock, the teardown, and then only events. -/
theorem lockStep_of_release {lockId : Bytes} {entity : Entity σ} {locks : LockManager}
    {w' : World σ} (he : R.find path = some entity)
    (hrel : w.locks.release env.now path lockId = (.released, locks))
    (h : OnlyEvents { revertMode entity path w with locks } w') : LockStep R env path w w' := by
  have hdoes : (LockEvent.release path lockId env.now .released).Does w.locks w'.locks := by
    rw [h.locks]
    exact hrel
  exact .released he hdoes ⟨lockId, rfl⟩ h.adapter h.calls

/-- A DELETE that releases the lock of a local entity tears its backend's mode down,
and then only events. -/
theorem handleDeleteLock_onlyEvents {lockId : Bytes} {entity : Entity σ}
    (he : R.find path = some entity) (hp : R.findProxy path = none)
    (hret : (w.locks.release env.now path lockId).1 = .released) :
    OnlyEvents
      { revertMode entity path w with locks := (w.locks.release env.now path lockId).2 }
      (handleDeleteLock R env req path lockId w).1 := by
  have hpair : w.locks.release env.now path lockId =
      (.released, (w.locks.release env.now path lockId).2) := Prod.ext hret rfl
  rw [handleDeleteLock, withEntity_of_local he hp, hpair, ← revertMode_locks]
  exact emitThen_onlyEvents fun _ => rfl

/-- A release that succeeds reverts the mode. -/
theorem handleDeleteLock_released {lockId : Bytes} {entity : Entity σ}
    (he : R.find path = some entity) (hp : R.findProxy path = none)
    (hret : (w.locks.release env.now path lockId).1 = .released) :
    (handleDeleteLock R env req path lockId w).1.adapter = (revertMode entity path w).adapter ∧
      (handleDeleteLock R env req path lockId w).1.calls = (revertMode entity path w).calls :=
  ⟨(handleDeleteLock_onlyEvents he hp hret).adapter, (handleDeleteLock_onlyEvents he hp hret).calls⟩

/-- A DELETE releases one lock at most. -/
theorem handleDeleteLock_step {lockId : Bytes} :
    LockStep R env path w (handleDeleteLock R env req path lockId w).1 := by
  refine withEntity_lockStep fun e corr res he => ?_
  dsimp only
  split
  next locks hrel =>
    -- the one operation that reaches into the adapter
    rw [revertMode_locks]
    exact lockStep_of_release he hrel (emitThen_onlyEvents fun _ => rfl)
  next locks hrel =>
    exact lockStep_of_call (e := .release path lockId env.now .wrongId) hrel
      (not_released_of_ne (by simp)) (emitThen_onlyEvents fun _ => rfl)
  next locks hrel =>
    exact lockStep_of_call (e := .release path lockId env.now .notFound) hrel
      (not_released_of_ne (by simp)) ⟨rfl, rfl, rfl⟩

/-- **What a lock request does.** -/
theorem LockRequest.step (r : LockRequest) :
    LockStep R env path w (r.handle R env req path w).1 := by
  cases r with
  | post => exact handlePostLock_step
  | put lockId => exact handlePutLock_step
  | delete lockId => exact handleDeleteLock_step

end

end Sovd
