import Sovd.Json.Parse
import Sovd.Server.LockHandlers

/-!
# The time to live a lock request asks for (`server/src/routes_locks.cpp`)

POST and PUT read `ttl_seconds` from their body, and both `LockManager` and the answer
bring it down to `kMaxLockTtlSeconds`. `HonoursTtl` is what that is meant to come to.

`handlePostLock_honours` and `handlePutLock_honours` are the two handlers from the point
on where the number is read, and there nothing goes wrong. But it is read into an `int`,
so of an integer the parser admits only the low 32 bits arrive. `ttl_clamped_iff` says
for which integers that makes no difference.
-/

namespace Sovd

variable {σ : Type}

/-- The request is not rejected. The lock it is given, if it is to be given one, is
`lockId` and lasts `t` seconds or the ceiling, and an answer that names the lock says
so. -/
structure HonoursTtl (success : Int) (given : Prop) (path lockId : Bytes) (later : Time) (t : Int)
    (r : World σ × Outcome) : Prop where
  accepted : finalStatus r.2 ≠ 400
  granted : given → r.1.locks.table path =
    some ⟨lockId, later + seconds (min t kMaxLockTtlSeconds)⟩
  echoed : ∀ res, r.2 = .ok res → finalStatus r.2 = success →
    res.body = .json (.obj [(str "lock_id", .str lockId),
      (str "ttl_seconds", .int (min t kMaxLockTtlSeconds))])

/-- There is room for a lock, and nobody holds the one on `path`. -/
def CanAcquire (env : Env) (path : Bytes) (locks : LockManager) : Prop :=
  locks.heldLockCount ((List.range locks.locks.entries.length).map env.sweep) <
      kMaxConcurrentLocks ∧
    locks.view env.now path = none

/-- The lock on `path` is held under this id. -/
def HeldAs (env : Env) (path lockId : Bytes) (locks : LockManager) : Prop :=
  ∃ l, locks.view env.now path = some l ∧ l.holder = lockId

/-- What a POST on `path` is to do that asks for `t` seconds. -/
def PostHonours (R : Router σ) (env : Env) (req : Request) (path : Bytes) (t : Int)
    (w : World σ) : Prop :=
  HonoursTtl 201 (CanAcquire env path w.locks) path (LockManager.lockIdOf w.locks.nextId)
    env.later t (handlePostLock R env req path w)

/-- What a PUT on `path` is to do that asks for `t` seconds. -/
def PutHonours (R : Router σ) (env : Env) (req : Request) (path lockId : Bytes) (t : Int)
    (w : World σ) : Prop :=
  HonoursTtl 200 (HeldAs env path lockId w.locks) path lockId env.later t
    (handlePutLock R env req path lockId w)

theorem HonoursTtl.congr {success : Int} {given : Prop} {path lockId : Bytes} {later : Time}
    {t n : Int} {r : World σ × Outcome} (hmin : min t kMaxLockTtlSeconds = min n kMaxLockTtlSeconds)
    (h : HonoursTtl success given path lockId later n r) :
    HonoursTtl success given path lockId later t r :=
  ⟨h.accepted, hmin ▸ h.granted, hmin ▸ h.echoed⟩

/-! ## Answers -/

/-- The event is delivered and the handler goes on, or it ends in an exception. -/
theorem emitThen_cases (env : Env) (type : Bytes) (fields : List (Bytes × Json)) (w : World σ)
    (next : World σ → World σ × Outcome) :
    emitThen env type fields w next = (w, .error .invalidUtf8) ∨
      emitThen env type fields w next =
        next { w with events := w.events ++ [eventDocument env type fields] } := by
  unfold emitThen
  cases hutf : (eventDocument env type fields).utf8 with
  | true =>
    rw [emitEvent_of_utf8 w hutf]
    exact .inr rfl
  | false =>
    rw [emitEvent_of_not_utf8 w hutf]
    exact .inl rfl

section

variable {R : Router σ} {env : Env} {req : Request} {path lockId : Bytes} {e : Entity σ}
  {w : World σ} {n t : Int}

/-- An event and a refusal with another status, where no lock is to be given. -/
theorem HonoursTtl.refused {success status : Int} {given : Prop} {later : Time} {res : Response}
    {type code message : Bytes} {fields : List (Bytes × Json)} (hgiven : ¬ given)
    (hstatus : status ≠ -1) (h400 : status ≠ 400) (h500 : success ≠ 500) (hne : success ≠ status) :
    HonoursTtl success given path lockId later t
      (emitThen env type fields w fun w => (w, writeError res status code message)) := by
  have hfinal : finalStatus (emitThen env type fields w
      fun w => (w, writeError res status code message)).2 = 500 ∨
      finalStatus (emitThen env type fields w
        fun w => (w, writeError res status code message)).2 = status := by
    rcases emitThen_cases env type fields w fun w => (w, writeError res status code message)
      with h | h
    · rw [h]
      exact .inl rfl
    · rw [h]
      exact finalStatus_writeError hstatus code message
  refine ⟨?_, fun h => absurd h hgiven, fun _ _ hsuccess => ?_⟩
  · rcases hfinal with h | h <;> omega
  · rcases hfinal with h | h <;> omega

/-- An event and the answer that names the lock. -/
theorem HonoursTtl.answered {success : Int} {given : Prop} {later : Time} {res : Response}
    {type : Bytes} {fields : List (Bytes × Json)} (h400 : success ≠ 400)
    (hres : finalStatus (.ok res) = success)
    (hlock : w.locks.table path =
      some ⟨lockId, later + seconds (min t kMaxLockTtlSeconds)⟩) :
    HonoursTtl success given path lockId later t
      (emitThen env type fields w fun w => (w, res.setJson (grantedLock lockId t))) := by
  rcases emitThen_cases env type fields w fun w => (w, res.setJson (grantedLock lockId t))
    with h | h
  · rw [h]
    refine ⟨?_, fun _ => hlock, fun _ hok => ?_⟩
    · show (500 : Int) ≠ 400
      decide
    · cases hok
  · rw [h]
    refine ⟨?_, fun _ => hlock, fun _ hok _ => (Response.setJson_eq_ok hok).2.2⟩
    show finalStatus (res.setJson (grantedLock lockId t)) ≠ 400
    rcases finalStatus_setJson res (grantedLock lockId t) with hfinal | hfinal
    · rw [hfinal]
      decide
    · rw [hfinal, hres]
      exact h400

/-! ## From the number on -/

theorem handlePostLock_honours (he : R.find path = some e) (hp : R.findProxy path = none)
    (httl : ttlSeconds env req.body = .ok n) : PostHonours R env req path n w := by
  unfold PostHonours
  rw [handlePostLock, withEntity_of_local he hp, httl]
  dsimp only
  split
  next hfull =>
    -- the cap
    refine .refused (fun h => absurd h.1 (Nat.not_lt.mpr hfull)) ?_ ?_ ?_ ?_ <;> decide
  next hroom =>
    cases hview : w.locks.view env.now path with
    | some l =>
      have hnot : ¬ CanAcquire env path w.locks := by
        rintro ⟨-, hfree⟩
        rw [hview] at hfree
        cases hfree
      rw [LockManager.acquire_held hview]
      refine .refused hnot ?_ ?_ ?_ ?_ <;> decide
    | none =>
      rw [LockManager.acquire_free hview]
      refine .answered (by decide) rfl ?_
      rw [LockManager.table_insert, Lease.grant, Function.update_self]
      rfl

theorem handlePutLock_honours (he : R.find path = some e) (hp : R.findProxy path = none)
    (httl : ttlSeconds env req.body = .ok n) : PutHonours R env req path lockId n w := by
  have hstatus := correlationIdFor_status env req
  unfold PutHonours
  rw [handlePutLock, withEntity_of_local he hp, httl]
  dsimp only
  cases hview : w.locks.view env.now path with
  | none =>
    have hnot : ¬ HeldAs env path lockId w.locks := by
      rintro ⟨l, hl, -⟩
      rw [hview] at hl
      cases hl
    rw [LockManager.renew_free hview]
    refine ⟨?_, fun h => absurd h hnot, fun _ _ hsuccess => ?_⟩
    · rw [finalStatus_refusal (by decide) (by decide) (by decide)]
      decide
    · rw [finalStatus_refusal (by decide) (by decide) (by decide)] at hsuccess
      exact absurd hsuccess (by decide)
  | some l =>
    rw [LockManager.renew_held hview]
    by_cases hid : l.holder = lockId
    · rw [if_pos hid]
      refine .answered (by decide) ?_ ?_
      · rw [finalStatus, if_pos hstatus]
      · rw [LockManager.table_insert, Lease.grant, Function.update_self, hid]
        rfl
    · have hnot : ¬ HeldAs env path lockId w.locks := by
        rintro ⟨l', hl', hid'⟩
        rw [hview] at hl'
        obtain rfl := Option.some.inj hl'
        exact hid hid'
      rw [if_neg hid]
      refine .refused hnot ?_ ?_ ?_ ?_ <;> decide

/-! ## The number -/

theorem ttlSeconds_of_int {parsed : Json} (hbody : req.body ≠ [])
    (hparse : env.parse req.body = some parsed)
    (hget : parsed.get? (str "ttl_seconds") = some (.int t)) :
    ttlSeconds env req.body =
      if toInt32 t ≤ 0 then .error (str "ttl_seconds must be positive") else .ok (toInt32 t) := by
  simp only [ttlSeconds, if_neg hbody, hparse, hget]

/-- A request whose number is not positive as an `int` is rejected. -/
theorem handlePostLock_rejects (he : R.find path = some e) (hp : R.findProxy path = none)
    (httl : ttlSeconds env req.body = .error (str "ttl_seconds must be positive")) :
    finalStatus (handlePostLock R env req path w).2 = 400 := by
  rw [handlePostLock, withEntity_of_local he hp, httl]
  dsimp only
  apply finalStatus_refusal <;> decide

/-- The low 32 bits are worth what the number is worth. -/
theorem toInt32_clamped_iff (h₁ : 1 ≤ t) :
    (0 < toInt32 t ∧ min t kMaxLockTtlSeconds = min (toInt32 t) kMaxLockTtlSeconds) ↔
      t < 2 ^ 31 ∨ kMaxLockTtlSeconds ≤ t % 2 ^ 32 ∧ t % 2 ^ 32 < 2 ^ 31 := by
  unfold toInt32 kMaxLockTtlSeconds
  omega

/-- Whatever the lock table, POST and PUT do what a request for `t` seconds is to come to
exactly when `t` is below `2 ^ 31`, or its low 32 bits are and reach the ceiling. -/
theorem ttl_clamped_iff {parsed : Json} (he : R.find path = some e) (hp : R.findProxy path = none)
    (hbody : req.body ≠ []) (hparse : env.parse req.body = some parsed)
    (hget : parsed.get? (str "ttl_seconds") = some (.int t)) (h₁ : 1 ≤ t) :
    (∀ locks : LockManager, PostHonours R env req path t { w with locks } ∧
        ∀ lockId, PutHonours R env req path lockId t { w with locks }) ↔
      t < 2 ^ 31 ∨ kMaxLockTtlSeconds ≤ t % 2 ^ 32 ∧ t % 2 ^ 32 < 2 ^ 31 := by
  have httl : ttlSeconds env req.body =
      if toInt32 t ≤ 0 then .error (str "ttl_seconds must be positive") else .ok (toInt32 t) :=
    ttlSeconds_of_int hbody hparse hget
  rw [← toInt32_clamped_iff h₁]
  constructor
  · intro h
    -- a POST on an empty lock table
    obtain ⟨hpost, -⟩ := h {}
    by_cases hpos : toInt32 t ≤ 0
    · rw [if_pos hpos] at httl
      exact absurd (handlePostLock_rejects he hp httl) hpost.accepted
    · rw [if_neg hpos] at httl
      have hcan : CanAcquire env path {} := ⟨Nat.zero_lt_succ _, rfl⟩
      have hgot := (handlePostLock_honours (w := { w with locks := {} }) he hp httl).granted hcan
      have hmeant := hpost.granted hcan
      rw [hgot] at hmeant
      have hexpires := congrArg Lease.expires (Option.some.inj hmeant)
      have hsame := Int.add_left_cancel hexpires
      exact ⟨not_le.mp hpos, (mul_right_cancel₀ (by decide) hsame).symm⟩
  · rintro ⟨hpos, hmin⟩ locks
    rw [if_neg (not_le.mpr hpos)] at httl
    exact ⟨(handlePostLock_honours he hp httl).congr hmin,
      fun lockId => (handlePutLock_honours he hp httl).congr hmin⟩

end

/-! ## An integer an `int` does not hold -/

namespace WideTtl

/-- One entity, without a backend. -/
def router : Router Unit := { entities := [{ path := str "ecu" }] }

/-- No token library; the parser is the real one. -/
def env : Env where
  ssl := { hmacSha256 := fun _ _ => [], encodeBlock := fun _ => [], decodeBlock := fun _ => none }
  parse := parseJson

/-- POST with `{"ttl_seconds":…}` -/
def request (digits : Bytes) : Request where
  method := str "POST"
  path := str "/v1/entities/ecu/locks"
  body := str "\x7b\"ttl_seconds\":" ++ digits ++ str "\x7d"

def world : World Unit := { adapter := () }

end WideTtl

open WideTtl in
/-- A request for 90 minutes is brought down to the ceiling. -/
theorem ttl_clamped_ninety_minutes :
    PostHonours router env (request (str "5400")) (str "ecu") 5400 world ∧
      PutHonours router env (request (str "5400")) (str "ecu") (str "lock-1") 5400 world := by
  have hfind : router.find (str "ecu") = some { path := str "ecu" } := rfl
  have hparse : env.parse (request (str "5400")).body =
      some (.obj [(str "ttl_seconds", .int 5400)]) := rfl
  have hclamped := (ttl_clamped_iff (w := world) hfind rfl (by decide) hparse rfl
    (by decide)).mpr (by decide) world.locks
  exact ⟨hclamped.1, hclamped.2 (str "lock-1")⟩

open WideTtl in
/-- 68 years are not positive. -/
theorem ttl_refused_68_years :
    env.parse (request (str "2147483648")).body =
        some (.obj [(str "ttl_seconds", .int 2147483648)]) ∧
      ¬ PostHonours router env (request (str "2147483648")) (str "ecu") 2147483648 world := by
  have hparse : env.parse (request (str "2147483648")).body =
      some (.obj [(str "ttl_seconds", .int 2147483648)]) := rfl
  have hrefused : finalStatus
      (handlePostLock router env (request (str "2147483648")) (str "ecu") world).2 = 400 := rfl
  exact ⟨hparse, fun h => h.accepted hrefused⟩

end Sovd
