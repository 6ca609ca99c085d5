import Mathlib.Data.List.AList
import Sovd.Bytes
import Sovd.Lib.Lease

/-!
# `LockManager`: per-entity TTL locks (`core/src/lock_manager.cpp`)

The map keeps one entry per entity path and expires it lazily: a dead entry
stays until `acquire` overwrites it or `release`/`renew` purges it. The clock
is injected, and `acquire`, `renew` and `held_lock_count` read it more than
once, so every operation takes the readings it makes as arguments.

`LockManager.view` is what the map stands for at an instant: the table of the
leases that still count (`Lease.live`). The `*_cases` lemmas are the whole
interface to the rest of the development: each operation answers from `view`
and does to the table one operation of the lease library.

Mirroring notes vs the C++:
- `std::unordered_map` is an association list without repeated keys
  (`AList`); nothing here depends on its iteration order.
- A `time_point` is an integer number of nanoseconds; `next_id_` is the
  64-bit counter the source declares, wrap-around included.
- The mutex makes each operation atomic; that is why they are functions.
-/

namespace Sovd

/-- A reading of the steady clock, in nanoseconds. -/
abbrev Time := Int

/-- `std::chrono::seconds(n)`. -/
def seconds (n : Int) : Time := n * 1000000000

/-- What `release` comes to. -/
inductive LockReleaseResult
  | released
  | notFound
  | wrongId
  deriving DecidableEq, Repr

/-- What `renew` comes to. -/
inductive LockRenewResult
  | renewed
  | notFound
  | wrongId
  deriving DecidableEq, Repr

/-- The ceiling every requested TTL is clamped to. -/
def kMaxLockTtlSeconds : Int := 3600

/-- A lock, and when it runs out. -/
structure LockEntry where
  lockId : Bytes
  expiresAt : Time
  deriving DecidableEq, Repr

/-- The lease an entry stands for. -/
def LockEntry.lease (e : LockEntry) : Lease Bytes Time := ⟨e.lockId, e.expiresAt⟩

@[simp] theorem LockEntry.lease_holder (e : LockEntry) : e.lease.holder = e.lockId := rfl

@[simp] theorem LockEntry.lease_expires (e : LockEntry) : e.lease.expires = e.expiresAt := rfl

/-- The locks by entity, and the number of the next one. -/
structure LockManager where
  locks : AList (fun _ : Bytes => LockEntry) := ∅
  nextId : UInt64 := 1

namespace LockManager

/-- The id `acquire` hands out when the counter shows `n`. -/
def lockIdOf (n : UInt64) : Bytes := str "lock-" ++ decimal n.toNat

/-- There is a lock, and it has not run out. -/
def lockedUnexpired (m : LockManager) (now : Time) (entityPath : Bytes) : Bool :=
  match m.locks.lookup entityPath with
  | none => false
  | some e => decide (now < e.expiresAt)

/-- `t₁` is the reading of the conflict check, `t₂` the one the expiry counts
from (not made, and not used here, when the entity is locked). -/
def acquire (m : LockManager) (t₁ t₂ : Time) (entityPath : Bytes) (ttlSeconds : Int) :
    Option Bytes × LockManager :=
  if m.lockedUnexpired t₁ entityPath then (none, m)
  else
    -- a dead entry is overwritten; its id is not given out again
    let id := lockIdOf m.nextId
    let entry : LockEntry := ⟨id, t₂ + seconds (min ttlSeconds kMaxLockTtlSeconds)⟩
    (some id, { locks := m.locks.insert entityPath entry, nextId := m.nextId + 1 })

/-- `release`: a lock that has run out is erased and counts as none. -/
def release (m : LockManager) (t : Time) (entityPath lockId : Bytes) :
    LockReleaseResult × LockManager :=
  if m.lockedUnexpired t entityPath then
    match m.locks.lookup entityPath with
    | some e =>
      if e.lockId ≠ lockId then (.wrongId, m)
      else (.released, { m with locks := m.locks.erase entityPath })
    | none => (.notFound, m)
  else (.notFound, { m with locks := m.locks.erase entityPath }) -- purge a stale entry, if any

/-- `renew`: a lock that has run out cannot be renewed. -/
def renew (m : LockManager) (t₁ t₂ : Time) (entityPath lockId : Bytes) (ttlSeconds : Int) :
    LockRenewResult × LockManager :=
  if m.lockedUnexpired t₁ entityPath then
    match m.locks.lookup entityPath with
    | some e =>
      if e.lockId ≠ lockId then (.wrongId, m)
      else
        let entry : LockEntry := ⟨e.lockId, t₂ + seconds (min ttlSeconds kMaxLockTtlSeconds)⟩
        (.renewed, { m with locks := m.locks.insert entityPath entry })
    | none => (.notFound, m)
  else (.notFound, { m with locks := m.locks.erase entityPath }) -- purge a stale entry, if any

/-- True if the entity is unlocked, or locked under the supplied id. -/
def checkLock (m : LockManager) (t : Time) (entityPath suppliedLockId : Bytes) : Bool :=
  if m.lockedUnexpired t entityPath then
    match m.locks.lookup entityPath with
    | some e => e.lockId == suppliedLockId
    | none => true
  else true

/-- `is_locked` -/
def isLocked (m : LockManager) (t : Time) (entityPath : Bytes) : Bool :=
  m.lockedUnexpired t entityPath

/-- The clock is read once per entry, in the order of iteration. -/
def heldLockCount (m : LockManager) (ts : List Time) : Nat :=
  ((m.locks.entries.zip ts).filter fun p => decide (p.2 < p.1.2.expiresAt)).length

/-! ## What the map stands for -/

/-- The map as a lease table, dead entries included. -/
def table (m : LockManager) : Lease.Table Bytes Bytes Time :=
  fun p => (m.locks.lookup p).map LockEntry.lease

/-- The locks held at `now`. -/
def view (m : LockManager) (now : Time) : Lease.Table Bytes Bytes Time :=
  Lease.live now m.table

/-- An entry that is set is a grant. -/
theorem table_insert (m : LockManager) (p : Bytes) (e : LockEntry) (n : UInt64) :
    (LockManager.mk (m.locks.insert p e) n).table = Lease.grant m.table p e.lease := by
  funext q
  by_cases h : q = p
  · subst h
    simp [table]
  · simp [table, h]

/-- An entry that is erased is a revocation. -/
theorem table_erase (m : LockManager) (p : Bytes) (n : UInt64) :
    (LockManager.mk (m.locks.erase p) n).table = Lease.revoke m.table p := by
  funext q
  by_cases h : q = p
  · subst h
    simp [table]
  · simp [table, h]

/-- A lock held later was held before, if its entry is the same. -/
theorem view_of_le {m m' : LockManager} {t u : Time} {p : Bytes} {l : Lease Bytes Time}
    (htu : t ≤ u) (htab : m'.table p = m.table p) (h : m'.view u p = some l) :
    m.view t p = some l :=
  Lease.live_of_le htu ((Lease.live_congr htab).symm.trans h)

/-- A lock that counts is an entry that has not run out. -/
theorem view_eq_some {m : LockManager} {now : Time} {p : Bytes} {l : Lease Bytes Time} :
    m.view now p = some l ↔
      ∃ e, m.locks.lookup p = some e ∧ now < e.expiresAt ∧ e.lease = l := by
  rw [view, Lease.live_eq_some, table, Option.map_eq_some_iff]
  constructor
  · intro h
    obtain ⟨⟨e, he, rfl⟩, hlt⟩ := h
    exact ⟨e, he, hlt, rfl⟩
  · intro h
    obtain ⟨e, he, hlt, rfl⟩ := h
    exact ⟨⟨e, he, rfl⟩, hlt⟩

/-- `locked_unexpired` asks whether the view has a lease. -/
theorem lockedUnexpired_iff {m : LockManager} {now : Time} {p : Bytes} :
    m.lockedUnexpired now p = true ↔ ∃ l, m.view now p = some l := by
  unfold lockedUnexpired
  constructor
  · intro h
    split at h
    next => exact absurd h (by simp)
    next e he => exact ⟨e.lease, view_eq_some.mpr ⟨e, he, of_decide_eq_true h, rfl⟩⟩
  · intro h
    obtain ⟨l, hl⟩ := h
    obtain ⟨e, he, hlt, -⟩ := view_eq_some.mp hl
    simp [he, hlt]

/-- No lock counts where none is found. -/
theorem not_lockedUnexpired_iff {m : LockManager} {now : Time} {p : Bytes} :
    m.lockedUnexpired now p = false ↔ m.view now p = none := by
  rw [← Bool.not_eq_true, lockedUnexpired_iff, Option.eq_none_iff_forall_ne_some, not_exists]

/-! ## One spec lemma per operation and case, through the view -/

/-- A held entity is refused. -/
theorem acquire_held {m : LockManager} {t₁ : Time} {p : Bytes} {l : Lease Bytes Time}
    (h : m.view t₁ p = some l) (t₂ : Time) (ttl : Int) : m.acquire t₁ t₂ p ttl = (none, m) := by
  rw [acquire, if_pos (lockedUnexpired_iff.mpr ⟨l, h⟩)]

/-- A free entity is granted, with the next lock id. -/
theorem acquire_free {m : LockManager} {t₁ : Time} {p : Bytes}
    (h : m.view t₁ p = none) (t₂ : Time) (ttl : Int) :
    m.acquire t₁ t₂ p ttl = (some (lockIdOf m.nextId),
      ⟨m.locks.insert p ⟨lockIdOf m.nextId, t₂ + seconds (min ttl kMaxLockTtlSeconds)⟩,
        m.nextId + 1⟩) := by
  rw [acquire, if_neg (by rw [not_lockedUnexpired_iff.mpr h]; simp)]

/-- There is nothing to release on a free entity. -/
theorem release_free {m : LockManager} {t : Time} {p : Bytes}
    (h : m.view t p = none) (id : Bytes) :
    m.release t p id = (.notFound, ⟨m.locks.erase p, m.nextId⟩) := by
  rw [release, if_neg (by rw [not_lockedUnexpired_iff.mpr h]; simp)]

/-- A held entity is released with the id of its lock only. -/
theorem release_held {m : LockManager} {t : Time} {p : Bytes} {l : Lease Bytes Time}
    (h : m.view t p = some l) (id : Bytes) :
    m.release t p id =
      if l.holder = id then (.released, ⟨m.locks.erase p, m.nextId⟩) else (.wrongId, m) := by
  obtain ⟨e, he, -, rfl⟩ := view_eq_some.mp h
  rw [release, if_pos (lockedUnexpired_iff.mpr ⟨_, h⟩)]
  simp only [he]
  by_cases hid : e.lockId = id
  · rw [if_neg (not_not.mpr hid), if_pos (show e.lease.holder = id from hid)]
  · rw [if_pos hid, if_neg (show ¬ e.lease.holder = id from hid)]

/-- There is nothing to renew on a free entity. -/
theorem renew_free {m : LockManager} {t₁ : Time} {p : Bytes}
    (h : m.view t₁ p = none) (t₂ : Time) (id : Bytes) (ttl : Int) :
    m.renew t₁ t₂ p id ttl = (.notFound, ⟨m.locks.erase p, m.nextId⟩) := by
  rw [renew, if_neg (by rw [not_lockedUnexpired_iff.mpr h]; simp)]

/-- A held entity is renewed with the id of its lock only. -/
theorem renew_held {m : LockManager} {t₁ : Time} {p : Bytes} {l : Lease Bytes Time}
    (h : m.view t₁ p = some l) (t₂ : Time) (id : Bytes) (ttl : Int) :
    m.renew t₁ t₂ p id ttl =
      if l.holder = id then
        (.renewed,
          ⟨m.locks.insert p ⟨l.holder, t₂ + seconds (min ttl kMaxLockTtlSeconds)⟩, m.nextId⟩)
      else (.wrongId, m) := by
  obtain ⟨e, he, -, rfl⟩ := view_eq_some.mp h
  rw [renew, if_pos (lockedUnexpired_iff.mpr ⟨_, h⟩)]
  simp only [he]
  by_cases hid : e.lockId = id
  · rw [if_neg (not_not.mpr hid), if_pos (show e.lease.holder = id from hid),
      LockEntry.lease_holder]
  · rw [if_pos hid, if_neg (show ¬ e.lease.holder = id from hid)]

/-- A held entity is open to its lock id alone. -/
theorem checkLock_held {m : LockManager} {t : Time} {p : Bytes} {l : Lease Bytes Time}
    (h : m.view t p = some l) (id : Bytes) : m.checkLock t p id = (l.holder == id) := by
  obtain ⟨e, he, -, rfl⟩ := view_eq_some.mp h
  rw [checkLock, if_pos (lockedUnexpired_iff.mpr ⟨_, h⟩)]
  simp only [he, LockEntry.lease_holder]

/-! ## Everything an operation can do -/

/-- All that can come of `acquire`. -/
theorem acquire_cases {m m' : LockManager} {t₁ t₂ : Time} {p : Bytes} {ttl : Int}
    {ret : Option Bytes} (h : m.acquire t₁ t₂ p ttl = (ret, m')) :
    (∃ l, m.view t₁ p = some l ∧ ret = none ∧ m' = m) ∨
    (m.view t₁ p = none ∧ ret = some (lockIdOf m.nextId) ∧ m'.nextId = m.nextId + 1 ∧
      m'.table = Lease.grant m.table p
        ⟨lockIdOf m.nextId, t₂ + seconds (min ttl kMaxLockTtlSeconds)⟩) := by
  cases hv : m.view t₁ p with
  | some l =>
    rw [acquire_held hv] at h
    obtain ⟨rfl, rfl⟩ := Prod.mk.inj h
    exact .inl ⟨l, rfl, rfl, rfl⟩
  | none =>
    rw [acquire_free hv] at h
    obtain ⟨rfl, rfl⟩ := Prod.mk.inj h
    exact .inr ⟨rfl, rfl, rfl, table_insert ..⟩

/-- All that can come of `release`. -/
theorem release_cases {m m' : LockManager} {t : Time} {p id : Bytes} {ret : LockReleaseResult}
    (h : m.release t p id = (ret, m')) :
    (m.view t p = none ∧ ret = .notFound ∧ m'.nextId = m.nextId ∧
      m'.table = Lease.revoke m.table p) ∨
    (∃ l, m.view t p = some l ∧ l.holder = id ∧ ret = .released ∧ m'.nextId = m.nextId ∧
      m'.table = Lease.revoke m.table p) ∨
    (∃ l, m.view t p = some l ∧ l.holder ≠ id ∧ ret = .wrongId ∧ m' = m) := by
  cases hv : m.view t p with
  | none =>
    rw [release_free hv] at h
    obtain ⟨rfl, rfl⟩ := Prod.mk.inj h
    exact .inl ⟨rfl, rfl, rfl, table_erase ..⟩
  | some l =>
    rw [release_held hv] at h
    by_cases hid : l.holder = id
    · rw [if_pos hid] at h
      obtain ⟨rfl, rfl⟩ := Prod.mk.inj h
      exact .inr (.inl ⟨l, rfl, hid, rfl, rfl, table_erase ..⟩)
    · rw [if_neg hid] at h
      obtain ⟨rfl, rfl⟩ := Prod.mk.inj h
      exact .inr (.inr ⟨l, rfl, hid, rfl, rfl⟩)

/-- All that can come of `renew`. -/
theorem renew_cases {m m' : LockManager} {t₁ t₂ : Time} {p id : Bytes} {ttl : Int}
    {ret : LockRenewResult} (h : m.renew t₁ t₂ p id ttl = (ret, m')) :
    (m.view t₁ p = none ∧ ret = .notFound ∧ m'.nextId = m.nextId ∧
      m'.table = Lease.revoke m.table p) ∨
    (∃ l, m.view t₁ p = some l ∧ l.holder = id ∧ ret = .renewed ∧ m'.nextId = m.nextId ∧
      m'.table = Lease.grant m.table p
        ⟨l.holder, t₂ + seconds (min ttl kMaxLockTtlSeconds)⟩) ∨
    (∃ l, m.view t₁ p = some l ∧ l.holder ≠ id ∧ ret = .wrongId ∧ m' = m) := by
  cases hv : m.view t₁ p with
  | none =>
    rw [renew_free hv] at h
    obtain ⟨rfl, rfl⟩ := Prod.mk.inj h
    exact .inl ⟨rfl, rfl, rfl, table_erase ..⟩
  | some l =>
    rw [renew_held hv] at h
    by_cases hid : l.holder = id
    · rw [if_pos hid] at h
      obtain ⟨rfl, rfl⟩ := Prod.mk.inj h
      exact .inr (.inl ⟨l, rfl, hid, rfl, rfl, table_insert ..⟩)
    · rw [if_neg hid] at h
      obtain ⟨rfl, rfl⟩ := Prod.mk.inj h
      exact .inr (.inr ⟨l, rfl, hid, rfl, rfl⟩)

end LockManager

end Sovd
