import Sovd.Core.HeldLocks
import Sovd.Server.LockHandlers

/-!
# The server-wide lock cap (`handle_post_lock`)

A POST on `…/locks` counts the locks held, and if there are fewer than
`kMaxConcurrentLocks` it acquires one. These are two calls of the lock manager
(`handlePostLock_counts_first`), and between them other requests run. So the count
may be out of date when the lock is taken, and any number of requests that counted
while there was room take a lock each (`cap_overrun`).

`lock_cap` says what the check does achieve: as long as every request that takes a
lock does so before the locks that others took since its count make that count
reach the cap (`CountStillGood`), no more than `kMaxConcurrentLocks` are ever held.
`CapInv` carries it: what is held is at most what any request under way has counted
and what was taken since.

Mirroring notes vs the C++:
- Requests run in any number of threads; each call of the lock manager is one step.
- `taken` is a ghost: how many locks were taken since the request counted.
-/

namespace Sovd

/-! ## The handler by itself -/

/-- A POST that changes the lock table has counted before it acquired, and found room. -/
theorem handlePostLock_counts_first {σ : Type} {R : Router σ} {env : Env} {req : Request}
    {path : Bytes} {w : World σ} :
    (handlePostLock R env req path w).1.locks = w.locks ∨
      ∃ ttl, w.locks.heldLockCount
          ((List.range w.locks.locks.entries.length).map env.sweep) < kMaxConcurrentLocks ∧
        (handlePostLock R env req path w).1.locks =
          (w.locks.acquire env.now env.later path ttl).2 := by
  by_cases hlocal : ∃ e, R.find path = some e ∧ R.findProxy path = none
  case neg =>
    exact .inl (withEntity_of_not fun e he hp => hlocal ⟨e, he, hp⟩).onlyEvents.locks
  obtain ⟨e, he, hp⟩ := hlocal
  rw [handlePostLock, withEntity_of_local he hp]
  dsimp only
  split
  next => exact .inl rfl
  next ttl httl =>
    split
    next => exact .inl (emitThen_onlyEvents fun _ => rfl).locks
    next hroom =>
      refine .inr ⟨ttl, Nat.lt_of_not_le hroom, ?_⟩
      split
      next locks hacq =>
        rw [hacq]
        exact (emitThen_onlyEvents fun _ => rfl).locks
      next lockId locks hacq =>
        rw [hacq]
        exact (emitThen_onlyEvents fun _ => rfl).locks

/-! ## Requests under way -/

/-- A POST between its count and its acquire. -/
structure PendingPost where
  counted : Nat
  taken : Nat := 0
  deriving DecidableEq

structure CapSys where
  sys : LockSys
  pending : Nat → Option PendingPost

/-- A step of the POST `rid`, or one call of anything else. -/
inductive CapEvent
  | count (rid : Nat) (ts : List Time) (held : Nat)
  | acquire (rid : Nat) (path : Bytes) (ttlSeconds : Int) (t₁ t₂ : Time) (ret : Option Bytes)
  | other (e : LockEvent)

/-- The call of the lock manager. -/
def CapEvent.lockEvent : CapEvent → LockEvent
  | count _ ts held => .heldLockCount ts held
  | acquire _ path ttl t₁ t₂ ret => .acquire path ttl t₁ t₂ ret
  | other e => e

/-- One more lock was taken, as the requests under way see it. -/
def PendingPost.bump (p : PendingPost) (ret : Option Bytes) : PendingPost :=
  { p with taken := p.taken + (if ret ≠ none then 1 else 0) }

/-- Lock requests in any interleaving; only a POST acquires. -/
def capLts : Lts CapSys CapEvent where
  init s := s.sys.lm = {} ∧ s.pending = fun _ => none
  step s e s' :=
    lockLts.step s.sys e.lockEvent s'.sys ∧
      match e with
      | .count rid _ held =>
        s.pending rid = none ∧
          s'.pending = if held < kMaxConcurrentLocks
            then Function.update s.pending rid (some { counted := held }) else s.pending
      | .acquire rid _ _ _ _ ret =>
        s.pending rid ≠ none ∧
          s'.pending = Function.update (fun r => (s.pending r).map fun p => p.bump ret) rid none
      | .other e => ¬ e.isAcquire = true ∧ s'.pending = s.pending

/-- A request that takes a lock does so while its count, with what was taken since,
leaves room. -/
def CountStillGood (s : CapSys) (e : CapEvent) : Prop :=
  match e with
  | .acquire rid _ _ _ _ ret =>
    ret ≠ none → ∀ p, s.pending rid = some p → p.counted + p.taken < kMaxConcurrentLocks
  | _ => True

/-- What is held is within the cap, and within what any request under way knows of. -/
structure CapInv (s : CapSys) : Prop where
  cap : s.sys.lm.heldAt s.sys.now ≤ kMaxConcurrentLocks
  known : ∀ rid p, s.pending rid = some p → s.sys.lm.heldAt s.sys.now ≤ p.counted + p.taken

namespace CapInv

variable {s s' : CapSys} {e : CapEvent}

theorem initial (h : capLts.init s) : CapInv s := by
  have hheld : s.sys.lm.heldAt s.sys.now = 0 := by
    rw [h.1]
    rfl
  refine ⟨hheld ▸ Nat.zero_le _, ?_⟩
  intro rid p hp
  rw [h.2] at hp
  cases hp

/-- A call that takes no lock leaves what is held within the bounds there were. -/
theorem keep (h : CapInv s) (hle : s'.sys.lm.heldAt s'.sys.now ≤ s.sys.lm.heldAt s.sys.now)
    (hpending : ∀ rid p, s'.pending rid = some p → s.pending rid = some p) : CapInv s' :=
  ⟨hle.trans h.cap, fun rid p hp => hle.trans (h.known rid p (hpending rid p hp))⟩

theorem step (h : CapInv s) (hs : capLts.step s e s') (hgood : CountStillGood s e) :
    CapInv s' := by
  have hheld := heldAt_step_le hs.1
  cases e with
  | count rid ts held =>
    obtain ⟨hlock, -, hpending⟩ := hs
    have hle : s'.sys.lm.heldAt s'.sys.now ≤ s.sys.lm.heldAt s.sys.now := by
      simpa [CapEvent.lockEvent, LockEvent.Acquired] using hheld
    split at hpending
    next hlt =>
      -- what is held when the sweep is done was counted
      have hcounted : s'.sys.lm.heldAt s'.sys.now ≤ held := by
        obtain ⟨hlen, hret, hm⟩ := hlock.2
        rw [← hret, hm]
        exact LockManager.heldAt_le_heldLockCount hlen fun t ht => step_reading_le hlock ht
      refine ⟨hle.trans h.cap, ?_⟩
      intro r p hp
      rw [hpending] at hp
      by_cases hr : r = rid
      · rw [hr, Function.update_self] at hp
        obtain rfl := Option.some.inj hp
        exact hcounted
      · rw [Function.update_of_ne hr] at hp
        exact hle.trans (h.known r p hp)
    next => exact h.keep hle fun r p hp => hpending ▸ hp
  | acquire rid path ttl t₁ t₂ ret =>
    obtain ⟨-, hrid, hpending⟩ := hs
    obtain ⟨p₀, hp₀⟩ := Option.ne_none_iff_exists'.mp hrid
    have hbound : s'.sys.lm.heldAt s'.sys.now ≤
        s.sys.lm.heldAt s.sys.now + (if ret ≠ none then 1 else 0) := hheld
    refine ⟨?_, ?_⟩
    · by_cases hret : ret ≠ none
      · have hroom := hgood hret p₀ hp₀
        have hknown := h.known rid p₀ hp₀
        rw [if_pos hret] at hbound
        omega
      · rw [if_neg hret] at hbound
        exact hbound.trans h.cap
    · intro r p hp
      rw [hpending] at hp
      by_cases hr : r = rid
      · rw [hr, Function.update_self] at hp
        cases hp
      · rw [Function.update_of_ne hr, Option.map_eq_some_iff] at hp
        obtain ⟨q, hq, rfl⟩ := hp
        have hknown := h.known r q hq
        show _ ≤ q.counted + (q.taken + _)
        omega
  | other e =>
    obtain ⟨-, hacq, hpending⟩ := hs
    have hnot : ¬ e.Acquired := by
      intro hacquired
      cases e with
      | acquire => exact hacq rfl
      | _ => exact hacquired
    have hle : s'.sys.lm.heldAt s'.sys.now ≤ s.sys.lm.heldAt s.sys.now := by
      simpa [CapEvent.lockEvent, hnot] using hheld
    exact h.keep hle fun r p hp => hpending ▸ hp

end CapInv

/-! ## Requests that all count first -/

namespace Overrun

/-- The lock manager after `n` POSTs, each on an entity of its own. -/
def crowd : Nat → LockManager
  | 0 => {}
  | n + 1 => ((crowd n).acquire 0 0 (decimal n) 10).2

/-- What the POST number `n` gets. -/
def lockOf (n : Nat) : Option Bytes := ((crowd n).acquire 0 0 (decimal n) 10).1

theorem crowd_view {n k : Nat} : (∃ l, (crowd n).view 0 (decimal k) = some l) ↔ k < n := by
  induction n with
  | zero =>
    refine ⟨?_, fun h => absurd h (Nat.not_lt_zero k)⟩
    intro h
    obtain ⟨l, hl⟩ := h
    obtain ⟨e, he, -⟩ := LockManager.view_eq_some.mp hl
    simp [crowd] at he
  | succ n ih =>
    have hstep : (crowd n).acquire 0 0 (decimal n) 10 = (lockOf n, crowd (n + 1)) := rfl
    by_cases hk : k = n
    · subst hk
      refine ⟨fun _ => Nat.lt_succ_self k, fun _ => ?_⟩
      rcases LockManager.acquire_cases hstep with ⟨l, hl, -, hm⟩ | ⟨-, -, -, htab⟩
      · exact ⟨l, hm ▸ hl⟩
      · refine ⟨⟨LockManager.lockIdOf (crowd k).nextId, 0 + seconds 10⟩, ?_⟩
        rw [LockManager.view, htab]
        have hlater : (0 : Time) < 0 + seconds (min 10 kMaxLockTtlSeconds) := by decide
        exact Lease.live_grant_eq_some.mpr (.inl ⟨rfl, rfl, hlater⟩)
    · have hne : decimal k ≠ decimal n := fun h => hk (decimal_injective h)
      have hkeep : (crowd (n + 1)).view 0 (decimal k) = (crowd n).view 0 (decimal k) := by
        rcases LockManager.acquire_cases hstep with ⟨l, -, -, hm⟩ | ⟨-, -, -, htab⟩
        · rw [hm]
        · exact Lease.live_congr (by rw [htab, Lease.grant_of_ne hne])
      rw [hkeep, ih]
      omega

/-- Each of the first `n` entities is locked. -/
theorem le_heldAt_crowd (n : Nat) : n ≤ (crowd n).heldAt 0 := by
  have h : ((List.range n).map decimal).length ≤ (crowd n).heldAt 0 := by
    refine LockManager.length_le_heldAt (List.nodup_range.map decimal_injective) fun p hp => ?_
    obtain ⟨k, hk, rfl⟩ := List.mem_map.mp hp
    exact crowd_view.mpr (List.mem_range.mp hk)
  rwa [List.length_map, List.length_range] at h

def counts (n : Nat) : List CapEvent := (List.range n).map fun i => .count i [] 0

def acquires (n : Nat) : List CapEvent :=
  (List.range n).map fun i => .acquire i (decimal i) 10 0 0 (lockOf i)

/-- As long as nobody acquires, everybody counts none. -/
theorem run_counts (n : Nat) :
    ∃ pending, capLts.Run ⟨⟨{}, 0⟩, fun _ => none⟩ (counts n) ⟨⟨{}, 0⟩, pending⟩ ∧
      ∀ r, pending r ≠ none ↔ r < n := by
  induction n with
  | zero => exact ⟨fun _ => none, rfl, by simp⟩
  | succ n ih =>
    obtain ⟨pending, hr, hpending⟩ := ih
    refine ⟨Function.update pending n (some { counted := 0 }), ?_, ?_⟩
    · rw [counts, List.range_succ, List.map_append]
      refine Lts.run_concat.mpr ⟨_, hr, ⟨⟨by simp [CapEvent.lockEvent, LockEvent.readings],
        rfl, rfl, rfl⟩, ?_, rfl⟩⟩
      exact not_not.mp fun h => Nat.lt_irrefl n ((hpending n).mp h)
    · intro r
      by_cases hrn : r = n
      · simp [hrn]
      · rw [Function.update_of_ne hrn, hpending]
        omega

/-- All of them then acquire. -/
theorem run_acquires {n : Nat} {pending : Nat → Option PendingPost} (k : Nat) (hk : k ≤ n)
    (hpending : ∀ r, pending r ≠ none ↔ r < n) :
    ∃ pending', capLts.Run ⟨⟨{}, 0⟩, pending⟩ (acquires k) ⟨⟨crowd k, 0⟩, pending'⟩ ∧
      ∀ r, k ≤ r → r < n → pending' r ≠ none := by
  induction k with
  | zero => exact ⟨pending, rfl, fun r _ hr => (hpending r).mpr hr⟩
  | succ k ih =>
    obtain ⟨pending', hr, hpending'⟩ := ih (Nat.le_of_succ_le hk)
    refine ⟨Function.update (fun r => (pending' r).map fun p => p.bump (lockOf k)) k none, ?_, ?_⟩
    · rw [acquires, List.range_succ, List.map_append]
      exact Lts.run_concat.mpr
        ⟨_, hr, ⟨⟨by simp [CapEvent.lockEvent, LockEvent.readings], rfl⟩,
          hpending' k (Nat.le_refl k) hk, rfl⟩⟩
    · intro r hkr hrn
      rw [Function.update_of_ne (by omega)]
      have := hpending' r (by omega) hrn
      simpa using this

/-- Any number of locks can be taken this way. -/
theorem reaches (n : Nat) :
    ∃ s, capLts.Hist (counts n ++ acquires n) s ∧ n ≤ s.sys.lm.heldAt s.sys.now := by
  obtain ⟨pending, hcount, hpending⟩ := run_counts n
  obtain ⟨pending', hacquire, -⟩ := run_acquires n (Nat.le_refl n) hpending
  exact ⟨⟨⟨crowd n, 0⟩, pending'⟩, ⟨_, ⟨rfl, rfl⟩, Lts.run_append.mpr ⟨_, hcount, hacquire⟩⟩,
    le_heldAt_crowd n⟩

/-- As long as the counts under way, with what was taken since, are within `bound`, and there is
room for a lock to each of the events that follow, every count is still good. -/
theorem along_still_good {es : List CapEvent} {s : CapSys} (bound : Nat)
    (hcounts : ∀ rid ts held, .count rid ts held ∈ es → held = 0)
    (hpending : ∀ rid p, s.pending rid = some p → p.counted + p.taken ≤ bound)
    (hroom : bound + es.length ≤ kMaxConcurrentLocks) :
    capLts.Along (fun s e _ => CountStillGood s e) s es := by
  induction es generalizing s bound with
  -- induction on the events; `bound` is how much may have been taken behind a count
  | nil => trivial
  | cons e es ih =>
    intro s' hs
    rw [List.length_cons] at hroom
    have hrest : ∀ rid ts held, .count rid ts held ∈ es → held = 0 :=
      fun rid ts held h => hcounts rid ts held (List.mem_cons_of_mem e h)
    cases e with
    | count rid ts held =>
      obtain rfl := hcounts rid ts held List.mem_cons_self
      -- a count sees no lock, and nothing was taken since
      obtain ⟨-, -, hcounted⟩ := hs
      refine ⟨trivial, ih bound hrest (fun r p hp => ?_) (by omega)⟩
      rw [hcounted, if_pos (by decide)] at hp
      by_cases hr : r = rid
      · rw [hr, Function.update_self] at hp
        obtain rfl := Option.some.inj hp
        exact Nat.zero_le bound
      · rw [Function.update_of_ne hr] at hp
        exact hpending r p hp
    | acquire rid path ttl t₁ t₂ ret =>
      obtain ⟨-, -, htaken⟩ := hs
      refine ⟨fun _ p hp => ?_, ih (bound + 1) hrest (fun r p hp => ?_) (by omega)⟩
      · have hbound := hpending rid p hp
        omega
      · -- the others have seen one lock more at most
        rw [htaken] at hp
        by_cases hr : r = rid
        · rw [hr, Function.update_self] at hp
          cases hp
        · rw [Function.update_of_ne hr, Option.map_eq_some_iff] at hp
          obtain ⟨q, hq, rfl⟩ := hp
          have hbound := hpending r q hq
          show q.counted + (q.taken + _) ≤ _
          split <;> omega
    | other e =>
      obtain ⟨-, -, hsame⟩ := hs
      exact ⟨trivial, ih bound hrest (fun r p hp => hpending r p (hsame ▸ hp)) (by omega)⟩

end Overrun

/-! ## The cap -/

/-- **The lock cap holds in every run in which each lock is taken on a count that,
with the locks others took since, is below the cap.** -/
theorem lock_cap {es : List CapEvent} {s : CapSys} (h : capLts.Hist es s)
    (hgood : capLts.Always (fun s e _ => CountStillGood s e) es s) :
    s.sys.lm.heldAt s.sys.now ≤ kMaxConcurrentLocks :=
  (Lts.Always.induct (fun _ h₀ => CapInv.initial h₀)
    (fun _ _ _ hI hs hg => hI.step hs hg) h hgood).cap

open Overrun in
/-- Two POSTs that both count before either acquires. -/
theorem lock_cap_overlapping :
    ∃ s, capLts.Hist (counts 2 ++ acquires 2) s ∧ 2 ≤ s.sys.lm.heldAt s.sys.now ∧
      s.sys.lm.heldAt s.sys.now ≤ kMaxConcurrentLocks := by
  obtain ⟨s, hs, hheld⟩ := reaches 2
  refine ⟨s, hs, hheld, lock_cap hs (.of_along fun s₀ h₀ => ?_)⟩
  refine along_still_good 0 (fun rid ts held h => ?_) (fun rid p hp => ?_) (by decide)
  · rcases List.mem_append.mp h with h | h
    · obtain ⟨i, -, hi⟩ := List.mem_map.mp h
      cases hi
      rfl
    · obtain ⟨i, -, hi⟩ := List.mem_map.mp h
      cases hi
  · rw [h₀.2] at hp
    cases hp

/-- **Sixty-five POSTs that count before any of them acquires take sixty-five locks.** -/
theorem cap_overrun :
    ∃ es s, capLts.Hist es s ∧ kMaxConcurrentLocks < s.sys.lm.heldAt s.sys.now :=
  ⟨_, Overrun.reaches (kMaxConcurrentLocks + 1)⟩

end Sovd
