import Sovd.Core.LockManager
import Sovd.Lib.Lts

/-!
# Lock safety over whole runs

A run of one `LockManager` is a sequence of completed calls with the clock
readings they made; the clock never goes back. The history keeps every id that
`acquire` ever returned, since ids outlive their lock in clients' hands.

`LockInv` ties the four together: the counter counts the ids issued, the ids
are the numerals of `1, 2, …` in order, and a lock that counts now was made by
an `acquire` of the history that nothing has ended since, with an expiry at
most `kMaxLockTtlSeconds` away. `step_view` is the one inversion lemma (what a
single call can do to the locks held); the invariant and every clause of
`lock_safety` follow from it.
-/

namespace Sovd

open Lease (Table)

/-- A completed call: its arguments, its clock readings and its result. -/
inductive LockEvent
  | acquire (entityPath : Bytes) (ttlSeconds : Int) (t₁ t₂ : Time) (ret : Option Bytes)
  | release (entityPath lockId : Bytes) (t : Time) (ret : LockReleaseResult)
  | renew (entityPath lockId : Bytes) (ttlSeconds : Int) (t₁ t₂ : Time) (ret : LockRenewResult)
  | checkLock (entityPath lockId : Bytes) (t : Time) (ret : Bool)
  | isLocked (entityPath : Bytes) (t : Time) (ret : Bool)
  | heldLockCount (ts : List Time) (ret : Nat)

namespace LockEvent

/-- The times at which a call looked at the clock, in order. -/
def readings : LockEvent → List Time
  | acquire _ _ t₁ t₂ _ => [t₁, t₂]
  | release _ _ t _ => [t]
  | renew _ _ _ t₁ t₂ _ => [t₁, t₂]
  | checkLock _ _ t _ => [t]
  | isLocked _ t _ => [t]
  | heldLockCount ts _ => ts

/-- The call, made on `m`, returns what the event says and leaves `m'`. -/
def Does (m m' : LockManager) : LockEvent → Prop
  | acquire p ttl t₁ t₂ ret => m.acquire t₁ t₂ p ttl = (ret, m')
  | release p id t ret => m.release t p id = (ret, m')
  | renew p id ttl t₁ t₂ ret => m.renew t₁ t₂ p id ttl = (ret, m')
  | checkLock p id t ret => m.checkLock t p id = ret ∧ m' = m
  | isLocked p t ret => m.isLocked t p = ret ∧ m' = m
  | heldLockCount ts ret =>
    ts.length = m.locks.entries.length ∧ m.heldLockCount ts = ret ∧ m' = m

/-- The call is about the entity `p`. -/
def Concerns (p : Bytes) : LockEvent → Prop
  | acquire q _ _ _ _ => q = p
  | release q _ _ _ => q = p
  | renew q _ _ _ _ _ => q = p
  | checkLock q _ _ _ => q = p
  | isLocked q _ _ => q = p
  | heldLockCount _ _ => False

/-- The call changed the lock on `p`: an acquire, release or renew that succeeded. -/
def TakesEffect (p : Bytes) : LockEvent → Prop
  | acquire q _ _ _ ret => q = p ∧ ret ≠ none
  | release q _ _ ret => q = p ∧ ret = .released
  | renew q _ _ _ _ ret => q = p ∧ ret = .renewed
  | _ => False

/-- The call ended the lock `p` had, or replaced it. -/
def EndsLock (p : Bytes) : LockEvent → Prop
  | acquire q _ _ _ ret => q = p ∧ ret ≠ none
  | release q _ _ ret => q = p ∧ ret = .released
  | _ => False

/-- The id the call issued, if it was an acquire that succeeded. -/
def issued? : LockEvent → Option Bytes
  | acquire _ _ _ _ ret => ret
  | _ => none

/-- The call takes a lock, or tries to. -/
def isAcquire : LockEvent → Bool
  | acquire .. => true
  | _ => false

end LockEvent

/-- A lock manager and the current instant. -/
structure LockSys where
  lm : LockManager := {}
  now : Time

/-- Calls one after the other; the clock readings never decrease. -/
def lockLts : Lts LockSys LockEvent where
  init s := s.lm = {}
  step s e s' :=
    (s.now :: (e.readings ++ [s'.now])).Pairwise (· ≤ ·) ∧ e.Does s.lm s'.lm

/-- Every id `acquire` returned, oldest first. -/
def issuedIds (es : List LockEvent) : List Bytes := es.filterMap LockEvent.issued?

/-- How many did. -/
def acquireCount (es : List LockEvent) : Nat := es.countP LockEvent.isAcquire

/-- `id` was returned by an acquire of `p` that no later call ended or replaced. -/
def MadeBy (es : List LockEvent) (p id : Bytes) : Prop :=
  ∃ before after ttl t₁ t₂, es = before ++ .acquire p ttl t₁ t₂ (some id) :: after ∧
    ∀ e ∈ after, ¬ e.EndsLock p

/-- A lock is still the one that was made, if it is not ended. -/
theorem MadeBy.concat {es : List LockEvent} {p id : Bytes} {e : LockEvent}
    (h : MadeBy es p id) (he : ¬ e.EndsLock p) : MadeBy (es ++ [e]) p id := by
  obtain ⟨before, after, ttl, t₁, t₂, rfl, hafter⟩ := h
  refine ⟨before, after ++ [e], ttl, t₁, t₂, by simp, ?_⟩
  intro e' he'
  rcases List.mem_append.mp he' with h | h
  · exact hafter e' h
  · rw [List.mem_singleton.mp h]
    exact he

/-- A lock that was just made is the one that was made. -/
theorem madeBy_acquire (es : List LockEvent) (p id : Bytes) (ttl : Int) (t₁ t₂ : Time) :
    MadeBy (es ++ [.acquire p ttl t₁ t₂ (some id)]) p id :=
  ⟨es, [], ttl, t₁, t₂, rfl, by simp⟩

/-! ## Time along a step -/

section Step

variable {s s' : LockSys} {e : LockEvent}

/-- Time does not go back. -/
theorem step_now_le (h : lockLts.step s e s') : s.now ≤ s'.now :=
  (List.pairwise_cons.mp h.1).1 _ (by simp)

/-- A call reads the clock after it began. -/
theorem step_reading_ge (h : lockLts.step s e s') {t : Time} (ht : t ∈ e.readings) : s.now ≤ t :=
  (List.pairwise_cons.mp h.1).1 _ (List.mem_append_left _ ht)

/-- A call reads the clock before it ends. -/
theorem step_reading_le (h : lockLts.step s e s') {t : Time} (ht : t ∈ e.readings) : t ≤ s'.now :=
  (List.pairwise_append.mp (List.pairwise_cons.mp h.1).2).2.2 t ht _ (by simp)

/-! ## What one call can do to the locks held -/

/-- The expiry a fresh or renewed lock gets is within the ceiling. -/
theorem expiry_le {t u : Time} (htu : t ≤ u) (ttl : Int) :
    t + seconds (min ttl kMaxLockTtlSeconds) ≤ u + seconds kMaxLockTtlSeconds := by
  have h : min ttl kMaxLockTtlSeconds ≤ kMaxLockTtlSeconds := min_le_right ..
  unfold Time seconds at *
  omega

/-- **The inversion lemma**: a lock held after a call was held before under
the same id, the call not having ended it, or the call is the acquire that
made it. A new expiry stays within the ceiling. -/
theorem step_view (h : lockLts.step s e s') {p : Bytes} {l : Lease Bytes Time}
    (hl : s'.lm.view s'.now p = some l) :
    (∃ l₀, s.lm.view s.now p = some l₀ ∧ l₀.holder = l.holder ∧ ¬ e.EndsLock p ∧
      (l = l₀ ∨ l.expires ≤ s'.now + seconds kMaxLockTtlSeconds)) ∨
    ((∃ ttl t₁ t₂, e = .acquire p ttl t₁ t₂ (some l.holder)) ∧
      l.expires ≤ s'.now + seconds kMaxLockTtlSeconds) := by
  -- a lock whose entry the call left alone was already held when it began
  have keep : s.lm.view s'.now p = some l → ¬ e.EndsLock p →
      (∃ l₀, s.lm.view s.now p = some l₀ ∧ l₀.holder = l.holder ∧ ¬ e.EndsLock p ∧
        (l = l₀ ∨ l.expires ≤ s'.now + seconds kMaxLockTtlSeconds)) := fun hv hE =>
    ⟨l, LockManager.view_of_le (step_now_le h) rfl hv, rfl, hE, .inl rfl⟩
  cases e with
  | acquire q ttl t₁ t₂ ret =>
    rcases LockManager.acquire_cases h.2 with ⟨l₁, -, rfl, hm⟩ | ⟨-, rfl, -, htab⟩
    · exact .inl (keep (hm ▸ hl) (by simp [LockEvent.EndsLock]))
    · rw [LockManager.view, htab] at hl
      -- the lock of the acquired entity is the new one
      rcases Lease.live_grant_eq_some.mp hl with ⟨rfl, rfl, -⟩ | ⟨hne, hv⟩
      · exact .inr ⟨⟨ttl, t₁, t₂, rfl⟩,
          expiry_le (step_reading_le h (by simp [LockEvent.readings])) ttl⟩
      · exact .inl (keep hv fun hE => hne hE.1.symm)
  | release q id t ret =>
    rcases LockManager.release_cases h.2 with
      ⟨-, rfl, -, htab⟩ | ⟨l₁, -, -, rfl, -, htab⟩ | ⟨l₁, -, -, rfl, hm⟩
    · rw [LockManager.view, htab] at hl
      exact .inl (keep (Lease.live_revoke_eq_some.mp hl).2 (by simp [LockEvent.EndsLock]))
    · rw [LockManager.view, htab] at hl
      obtain ⟨hne, hv⟩ := Lease.live_revoke_eq_some.mp hl
      exact .inl (keep hv fun hE => hne hE.1.symm)
    · exact .inl (keep (hm ▸ hl) (by simp [LockEvent.EndsLock]))
  | renew q id ttl t₁ t₂ ret =>
    have hE : ¬ (LockEvent.renew q id ttl t₁ t₂ ret).EndsLock p := fun hE => hE
    rcases LockManager.renew_cases h.2 with
      ⟨-, -, -, htab⟩ | ⟨l₁, hv₁, -, -, -, htab⟩ | ⟨l₁, -, -, -, hm⟩
    · rw [LockManager.view, htab] at hl
      exact .inl (keep (Lease.live_revoke_eq_some.mp hl).2 hE)
    · rw [LockManager.view, htab] at hl
      rcases Lease.live_grant_eq_some.mp hl with ⟨rfl, rfl, -⟩ | ⟨-, hv⟩
      · -- the same holder, with a later expiry
        have ht₁ := step_reading_ge h (show t₁ ∈ _ by simp [LockEvent.readings])
        exact .inl ⟨l₁, LockManager.view_of_le ht₁ rfl hv₁, rfl, hE, .inr
          (expiry_le (step_reading_le h (by simp [LockEvent.readings])) ttl)⟩
      · exact .inl (keep hv hE)
    · exact .inl (keep (hm ▸ hl) hE)
  | checkLock q id t ret => exact .inl (keep (h.2.2 ▸ hl) fun hE => hE)
  | isLocked q t ret => exact .inl (keep (h.2.2 ▸ hl) fun hE => hE)
  | heldLockCount ts ret => exact .inl (keep (h.2.2.2 ▸ hl) fun hE => hE)

/-- The counter moves exactly when an id is issued, and the id is its numeral. -/
theorem step_issued (h : lockLts.step s e s') :
    (e.issued? = none ∧ s'.lm.nextId = s.lm.nextId) ∨
    (e.issued? = some (LockManager.lockIdOf s.lm.nextId) ∧
      s'.lm.nextId = s.lm.nextId + 1 ∧ e.isAcquire = true) := by
  cases e with
  | acquire q ttl t₁ t₂ ret =>
    rcases LockManager.acquire_cases h.2 with ⟨l₁, -, rfl, hm⟩ | ⟨-, rfl, hn, -⟩
    · exact .inl ⟨rfl, by rw [hm]⟩
    · exact .inr ⟨rfl, hn, rfl⟩
  | release q id t ret =>
    rcases LockManager.release_cases h.2 with
      ⟨-, -, hn, -⟩ | ⟨l₁, -, -, -, hn, -⟩ | ⟨l₁, -, -, -, hm⟩
    · exact .inl ⟨rfl, hn⟩
    · exact .inl ⟨rfl, hn⟩
    · exact .inl ⟨rfl, by rw [hm]⟩
  | renew q id ttl t₁ t₂ ret =>
    rcases LockManager.renew_cases h.2 with
      ⟨-, -, hn, -⟩ | ⟨l₁, -, -, -, hn, -⟩ | ⟨l₁, -, -, -, hm⟩
    · exact .inl ⟨rfl, hn⟩
    · exact .inl ⟨rfl, hn⟩
    · exact .inl ⟨rfl, by rw [hm]⟩
  | checkLock q id t ret => exact .inl ⟨rfl, by rw [h.2.2]⟩
  | isLocked q t ret => exact .inl ⟨rfl, by rw [h.2.2]⟩
  | heldLockCount ts ret => exact .inl ⟨rfl, by rw [h.2.2.2]⟩

/-- A call leaves the entries of the other entities alone. -/
theorem step_frame (h : lockLts.step s e s') {p : Bytes} (hp : ¬ e.Concerns p) :
    s'.lm.table p = s.lm.table p := by
  cases e with
  | acquire q ttl t₁ t₂ ret =>
    have hne : p ≠ q := fun hpq => hp hpq.symm
    rcases LockManager.acquire_cases h.2 with ⟨l₁, -, -, hm⟩ | ⟨-, -, -, htab⟩
    · rw [hm]
    · rw [htab, Lease.grant_of_ne hne]
  | release q id t ret =>
    have hne : p ≠ q := fun hpq => hp hpq.symm
    rcases LockManager.release_cases h.2 with
      ⟨-, -, -, htab⟩ | ⟨l₁, -, -, -, -, htab⟩ | ⟨l₁, -, -, -, hm⟩
    · rw [htab, Lease.revoke_of_ne hne]
    · rw [htab, Lease.revoke_of_ne hne]
    · rw [hm]
  | renew q id ttl t₁ t₂ ret =>
    have hne : p ≠ q := fun hpq => hp hpq.symm
    rcases LockManager.renew_cases h.2 with
      ⟨-, -, -, htab⟩ | ⟨l₁, -, -, -, -, htab⟩ | ⟨l₁, -, -, -, hm⟩
    · rw [htab, Lease.revoke_of_ne hne]
    · rw [htab, Lease.grant_of_ne hne]
    · rw [hm]
  | checkLock q id t ret => rw [h.2.2]
  | isLocked q t ret => rw [h.2.2]
  | heldLockCount ts ret => rw [h.2.2.2]

/-- A call that does not take effect on `p` leaves its holder alone. -/
theorem step_holder (h : lockLts.step s e s') {p : Bytes} (hp : ¬ e.TakesEffect p)
    {t : Time} (ht : t ∈ e.readings) {l : Lease Bytes Time} (hv : s.lm.view t p = some l) :
    s'.lm.table p = s.lm.table p := by
  by_cases hc : e.Concerns p
  case neg => exact step_frame h hc
  cases e with
  | acquire q ttl t₁ t₂ ret =>
    obtain rfl : q = p := hc
    rcases LockManager.acquire_cases h.2 with ⟨l₁, -, -, hm⟩ | ⟨-, rfl, -, -⟩
    · rw [hm]
    · exact absurd ⟨rfl, by simp⟩ hp
  | release q id t₁ ret =>
    -- a purge finds no lock at the one reading there is
    obtain rfl : q = p := hc
    obtain rfl : t = t₁ := by simpa [LockEvent.readings] using ht
    rcases LockManager.release_cases h.2 with
      ⟨hn, -, -, -⟩ | ⟨l₁, -, -, hr, -, -⟩ | ⟨l₁, -, -, -, hm⟩
    · rw [hn] at hv
      exact absurd hv (by simp)
    · exact absurd ⟨rfl, hr⟩ hp
    · rw [hm]
  | renew q id ttl t₁ t₂ ret =>
    obtain rfl : q = p := hc
    rcases LockManager.renew_cases h.2 with
      ⟨hn, -, -, -⟩ | ⟨l₁, -, -, hr, -, -⟩ | ⟨l₁, -, -, -, hm⟩
    · -- the check reads `t₁`, the earliest of the readings
      have hle : t₁ ≤ t := by
        have hpw := (List.pairwise_cons.mp h.1).2
        simp only [LockEvent.readings, List.mem_cons, List.not_mem_nil, or_false] at ht hpw
        rcases ht with rfl | rfl
        · exact le_refl t
        · exact (List.pairwise_cons.mp hpw).1 _ (by simp)
      rw [LockManager.view_of_le hle rfl hv] at hn
      exact absurd hn (by simp)
    · exact absurd ⟨rfl, hr⟩ hp
    · rw [hm]
  | checkLock q id t₁ ret => rw [h.2.2]
  | isLocked q t₁ ret => rw [h.2.2]
  | heldLockCount ts ret => rw [h.2.2.2]

end Step

/-! ## The invariant -/

/-- The id the `i`-th successful acquire returns (from `i = 0`). -/
def idAt (i : Nat) : Bytes := LockManager.lockIdOf (UInt64.ofNat (1 + i))

/-- Before the counter wraps, no two acquires get the same id. -/
theorem idAt_inj {i j : Nat} (hi : i < 2 ^ 64 - 1) (hj : j < 2 ^ 64 - 1) (h : idAt i = idAt j) :
    i = j := by
  have hn := decimal_injective (List.append_cancel_left h)
  simp only [UInt64.toNat_ofNat'] at hn
  omega

/-- The counter, the ids issued, and the locks held, tied together. -/
structure LockInv (es : List LockEvent) (s : LockSys) : Prop where
  counter : s.lm.nextId = UInt64.ofNat (1 + (issuedIds es).length)
  ids : issuedIds es = (List.range (issuedIds es).length).map idAt
  held : ∀ p l, s.lm.view s.now p = some l →
    MadeBy es p l.holder ∧ l.expires ≤ s.now + seconds kMaxLockTtlSeconds

/-- No lock was made at the start. -/
theorem lockInv_init {s : LockSys} (h : lockLts.init s) : LockInv [] s := by
  have hm : s.lm = {} := h
  refine ⟨by rw [hm]; rfl, rfl, ?_⟩
  intro p l hl
  rw [hm] at hl
  obtain ⟨e, he, -⟩ := LockManager.view_eq_some.mp hl
  simp at he

/-- A call issues one id at most. -/
theorem issuedIds_concat (es : List LockEvent) (e : LockEvent) :
    issuedIds (es ++ [e]) = issuedIds es ++ e.issued?.toList := by
  cases h : e.issued? <;> simp [issuedIds, h]

/-- One call preserves the invariant. -/
theorem lockInv_step {es : List LockEvent} {s s' : LockSys} {e : LockEvent}
    (hI : LockInv es s) (h : lockLts.step s e s') : LockInv (es ++ [e]) s' := by
  have hheld : ∀ p l, s'.lm.view s'.now p = some l →
      MadeBy (es ++ [e]) p l.holder ∧ l.expires ≤ s'.now + seconds kMaxLockTtlSeconds := by
    intro p l hl
    rcases step_view h hl with ⟨l₀, hl₀, hid, hE, hexp⟩ | ⟨⟨ttl, t₁, t₂, rfl⟩, hexp⟩
    · obtain ⟨hmade, hle⟩ := hI.held p l₀ hl₀
      refine ⟨hid ▸ hmade.concat hE, ?_⟩
      rcases hexp with rfl | hexp
      · have := step_now_le h
        unfold Time at *
        omega
      · exact hexp
    · exact ⟨madeBy_acquire .., hexp⟩
  rcases step_issued h with ⟨hn, hc⟩ | ⟨hn, hc, -⟩
  · have hids : issuedIds (es ++ [e]) = issuedIds es := by
      rw [issuedIds_concat, hn, Option.toList_none, List.append_nil]
    exact ⟨by rw [hids, hc, hI.counter], by rw [hids, ← hI.ids], hheld⟩
  · have hids : issuedIds (es ++ [e]) = issuedIds es ++ [idAt (issuedIds es).length] := by
      rw [issuedIds_concat, hn, Option.toList_some, idAt, ← hI.counter]
    have hlen : (issuedIds (es ++ [e])).length = (issuedIds es).length + 1 := by
      rw [hids, List.length_append, List.length_singleton]
    refine ⟨?_, ?_, hheld⟩
    · rw [hc, hI.counter, hlen, ← Nat.add_assoc, UInt64.ofNat_add (1 + _) 1]
      rfl
    · rw [hlen, List.range_succ, List.map_append, ← hI.ids, hids]
      rfl

/-- In every history the locks are those that were made and not ended. -/
theorem lockInv_of_hist {es : List LockEvent} {s : LockSys} (h : lockLts.Hist es s) :
    LockInv es s :=
  Lts.hist_induct (fun _ h₀ => lockInv_init h₀) (fun _ _ _ _ _ hI hs => lockInv_step hI hs) h

/-- An id is issued by a call of `acquire`. -/
theorem issuedIds_length_le (es : List LockEvent) :
    (issuedIds es).length ≤ acquireCount es := by
  rw [issuedIds, List.length_filterMap_eq_countP]
  refine List.countP_mono_left fun e _ he => ?_
  cases e with
  | acquire p ttl t₁ t₂ ret => rfl
  | _ => exact absurd he (by simp [LockEvent.issued?])

/-- Fewer than `2^64` acquires never issue an id twice. -/
theorem issuedIds_nodup {es : List LockEvent} {s : LockSys} (h : lockLts.Hist es s)
    (hfew : acquireCount es < 2 ^ 64) : (issuedIds es).Nodup := by
  have hlen := issuedIds_length_le es
  rw [(lockInv_of_hist h).ids]
  refine List.Nodup.map_on ?_ List.nodup_range
  intro i hi j hj hij
  rw [List.mem_range] at hi hj
  exact idAt_inj (by omega) (by omega) hij

/-- Attempts of two stretches add up. -/
theorem acquireCount_append (es₁ es₂ : List LockEvent) :
    acquireCount (es₁ ++ es₂) = acquireCount es₁ + acquireCount es₂ := List.countP_append

/-- An issued id under which nothing is held is never the id of a lock again. -/
theorem dead_id_stays_dead {id : Bytes} :
    ∀ {es₂ es₁ : List LockEvent} {s₁ s : LockSys}, lockLts.Hist es₁ s₁ → lockLts.Run s₁ es₂ s →
      acquireCount (es₁ ++ es₂) < 2 ^ 64 → id ∈ issuedIds es₁ →
      (∀ p l, s₁.lm.view s₁.now p = some l → l.holder ≠ id) →
      ∀ p l, s.lm.view s.now p = some l → l.holder ≠ id := by
  intro es₂
  induction es₂ with
  | nil =>
    intro es₁ s₁ s _ hr _ _ hdead
    exact Lts.run_nil.mp hr ▸ hdead
  | cons e es₂ ih =>
    intro es₁ s₁ s h₁ h hfew hid hdead
    obtain ⟨s₂, hs, hr⟩ := h
    have h₂ : lockLts.Hist (es₁ ++ [e]) s₂ := Lts.hist_concat h₁ hs
    rw [List.append_cons] at hfew
    have hnodup := issuedIds_nodup h₂ (by rw [acquireCount_append] at hfew; omega)
    refine ih h₂ hr hfew ?_ ?_
    · rw [issuedIds_concat]
      exact List.mem_append_left _ hid
    · intro p l hl hlid
      rcases step_view hs hl with ⟨l₀, hl₀, hh, -, -⟩ | ⟨⟨ttl, t₁, t₂, rfl⟩, -⟩
      · exact hdead p l₀ hl₀ (hh.trans hlid)
      · -- a fresh acquire would have issued `id` a second time
        rw [issuedIds_concat] at hnodup
        exact (List.nodup_append.mp hnodup).2.2 id hid id (by simp [LockEvent.issued?, hlid]) rfl

/-! ## The safety statement -/

/-- `id` is the one string `check_lock`, `release` and `renew` accept for `p`. -/
def OnlyKey (m : LockManager) (t : Time) (p id : Bytes) : Prop :=
  ∀ x, (m.checkLock t p x = true ↔ x = id) ∧ ((m.release t p x).1 = .released ↔ x = id) ∧
    ∀ t₂ ttl, (m.renew t t₂ p x ttl).1 = .renewed ↔ x = id

/-- `x` neither passes, releases nor renews the lock on `p`. -/
def Refused (m : LockManager) (t : Time) (p x : Bytes) : Prop :=
  m.checkLock t p x = false ∧ (m.release t p x).1 ≠ .released ∧
    ∀ t₂ ttl, (m.renew t t₂ p x ttl).1 ≠ .renewed

/-- The id of a lock is the one key to it. -/
theorem onlyKey_holder {m : LockManager} {t : Time} {p : Bytes} {l : Lease Bytes Time}
    (h : m.view t p = some l) : OnlyKey m t p l.holder := by
  intro x
  refine ⟨?_, ?_, ?_⟩
  · rw [LockManager.checkLock_held h, beq_iff_eq, eq_comm]
  · rw [LockManager.release_held h, eq_comm (a := x)]
    by_cases hx : l.holder = x <;> simp [hx]
  · intro t₂ ttl
    rw [LockManager.renew_held h, eq_comm (a := x)]
    by_cases hx : l.holder = x <;> simp [hx]

/-- Any id but the key is refused. -/
theorem OnlyKey.refused {m : LockManager} {t : Time} {p id x : Bytes}
    (h : OnlyKey m t p id) (hx : x ≠ id) : Refused m t p x := by
  obtain ⟨hc, hr, hn⟩ := h x
  exact ⟨Bool.not_eq_true _ ▸ fun hh => hx (hc.mp hh), fun hh => hx (hr.mp hh),
    fun t₂ ttl hh => hx ((hn t₂ ttl).mp hh)⟩

/-- What holds after the calls `es`, which led to `s`. -/
structure LockSafe (es : List LockEvent) (s : LockSys) : Prop where
  /-- No id is returned by two acquires. -/
  ids_once : (issuedIds es).Nodup
  /-- A held entity has exactly one key, the id its lock was made with. -/
  one_key : ∀ t, s.now ≤ t → ∀ p, s.lm.isLocked t p = true →
    ∃ id, MadeBy es p id ∧ OnlyKey s.lm t p id
  /-- An id that held nothing at some point of the run is refused ever after. -/
  dead_refused : ∀ es₁ es₂ s₁, es = es₁ ++ es₂ → lockLts.Hist es₁ s₁ → lockLts.Run s₁ es₂ s →
    ∀ id ∈ issuedIds es₁,
      (∀ p, s₁.lm.isLocked s₁.now p = true → s₁.lm.checkLock s₁.now p id = false) →
      ∀ t, s.now ≤ t → ∀ p, s.lm.isLocked t p = true → Refused s.lm t p id
  /-- An acquire succeeds exactly on an entity that is not held at its check. -/
  acquire_iff : ∀ t₁ t₂ p ttl, (s.lm.acquire t₁ t₂ p ttl).1 ≠ none ↔ s.lm.isLocked t₁ p = false
  /-- A call about another entity leaves the entry of `p` as it was. -/
  frame : ∀ e s', lockLts.step s e s' → ∀ p, ¬ e.Concerns p →
    s'.lm.locks.lookup p = s.lm.locks.lookup p
  /-- A call that does not succeed on `p` leaves its holder's id and expiry. -/
  holder_kept : ∀ e s', lockLts.step s e s' → ∀ p, ¬ e.TakesEffect p →
    ∀ t ∈ e.readings, s.lm.isLocked t p = true → s'.lm.locks.lookup p = s.lm.locks.lookup p
  /-- The time a held lock has left never exceeds the ceiling. -/
  bounded : ∀ t, s.now ≤ t → ∀ p entry, s.lm.locks.lookup p = some entry → t < entry.expiresAt →
    entry.expiresAt - t ≤ seconds kMaxLockTtlSeconds

/-- Entries are the same where leases are. -/
theorem LockManager.lookup_congr {m m' : LockManager} {p : Bytes}
    (h : m'.table p = m.table p) : m'.locks.lookup p = m.locks.lookup p := by
  refine Option.map_injective ?_ h
  intro e e' heq
  cases e
  cases e'
  simpa [LockEntry.lease] using heq

/-- **Lock safety**: every run of fewer than `2^64` acquires is safe at every
point, at any instant from then on. -/
theorem lock_safety {es : List LockEvent} {s : LockSys} (h : lockLts.Hist es s)
    (hfew : acquireCount es < 2 ^ 64) : LockSafe es s where
  ids_once := issuedIds_nodup h hfew
  one_key := by
    intro t ht p hp
    obtain ⟨l, hl⟩ := LockManager.lockedUnexpired_iff.mp hp
    -- held later, so held now, which is what the invariant speaks of
    have hnow := LockManager.view_of_le ht rfl hl
    exact ⟨l.holder, ((lockInv_of_hist h).held p l hnow).1, onlyKey_holder hl⟩
  dead_refused := by
    intro es₁ es₂ s₁ heq h₁ hr id hid hfree t ht p hp
    obtain rfl := heq
    obtain ⟨l, hl⟩ := LockManager.lockedUnexpired_iff.mp hp
    refine (onlyKey_holder hl).refused (Ne.symm ?_)
    refine dead_id_stays_dead h₁ hr hfew hid ?_ p l (LockManager.view_of_le ht rfl hl)
    intro q l₁ hl₁ heq
    have := hfree q (LockManager.lockedUnexpired_iff.mpr ⟨l₁, hl₁⟩)
    rw [LockManager.checkLock_held hl₁, heq] at this
    simp at this
  acquire_iff := by
    intro t₁ t₂ p ttl
    rw [LockManager.isLocked, LockManager.not_lockedUnexpired_iff]
    cases hv : s.lm.view t₁ p with
    | none => simp [LockManager.acquire_free hv]
    | some l => simp [LockManager.acquire_held hv]
  frame := fun e s' hs p hp => LockManager.lookup_congr (step_frame hs hp)
  holder_kept := by
    intro e s' hs p hp t ht hlocked
    obtain ⟨l, hl⟩ := LockManager.lockedUnexpired_iff.mp hlocked
    exact LockManager.lookup_congr (step_holder hs hp ht hl)
  bounded := by
    intro t ht p entry he hlt
    have hv : s.lm.view s.now p = some entry.lease :=
      LockManager.view_eq_some.mpr ⟨entry, he, lt_of_le_of_lt ht hlt, rfl⟩
    have hle := ((lockInv_of_hist h).held p _ hv).2
    simp only [LockEntry.lease_expires] at hle
    unfold Time at *
    omega

/-- Two clients, one entity: the first lock runs out, the second is taken. -/
theorem lock_safety_takeover :
    LockSafe
      [.acquire (str "bcm") 10 0 0 (some (str "lock-1")),
       .acquire (str "bcm") 9999 (seconds 11) (seconds 11) (some (str "lock-2")),
       .release (str "bcm") (str "lock-1") (seconds 12) .wrongId]
      ⟨⟨(∅ : AList fun _ : Bytes => LockEntry).insert (str "bcm")
          ⟨str "lock-2", seconds 3611⟩, 3⟩, seconds 12⟩ := by
  refine lock_safety ⟨⟨{}, 0⟩, rfl, ?_⟩ (by decide)
  refine ⟨⟨⟨(∅ : AList fun _ : Bytes => LockEntry).insert (str "bcm")
      ⟨str "lock-1", seconds 10⟩, 2⟩, 0⟩, ⟨by decide, by rfl⟩, ?_⟩
  refine ⟨⟨⟨(∅ : AList fun _ : Bytes => LockEntry).insert (str "bcm")
      ⟨str "lock-2", seconds 3611⟩, 3⟩, seconds 11⟩, ⟨by decide, by rfl⟩, ?_⟩
  exact ⟨_, ⟨by decide, by rfl⟩, rfl⟩

end Sovd
