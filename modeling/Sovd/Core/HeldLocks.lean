import Sovd.Core.LockSafety

/-!
# How many locks are held (`held_lock_count`)

`heldAt` counts the locks that are held at an instant. `held_lock_count` reads the
clock once per entry, so while time passes it returns no less than what is held when
it is done (`heldAt_le_heldLockCount`).

Of one call only an acquire that succeeds can make the count larger, and then by one
(`heldAt_step_le`): everything else ends locks, or renews locks that were held anyway.
-/

namespace Sovd

namespace LockManager

variable (m : LockManager) (now : Time)

/-- The entities that are locked at `now`. -/
def heldPaths : List Bytes :=
  (m.locks.entries.filter fun e => decide (now < e.2.expiresAt)).map Sigma.fst

/-- The number of locks held at `now`. -/
def heldAt : Nat := (m.heldPaths now).length

theorem nodup_heldPaths : (m.heldPaths now).Nodup :=
  List.Nodup.sublist (List.filter_sublist.map Sigma.fst) m.locks.nodupKeys

variable {m now}

theorem mem_heldPaths {p : Bytes} : p ∈ m.heldPaths now ↔ ∃ l, m.view now p = some l := by
  rw [heldPaths, List.mem_map]
  constructor
  · intro h
    obtain ⟨⟨q, e⟩, he, rfl⟩ := h
    obtain ⟨hmem, hlt⟩ := List.mem_filter.mp he
    exact ⟨e.lease, view_eq_some.mpr ⟨e, AList.mem_lookup_iff.mpr hmem, of_decide_eq_true hlt, rfl⟩⟩
  · intro h
    obtain ⟨l, hl⟩ := h
    obtain ⟨e, he, hlt, -⟩ := view_eq_some.mp hl
    exact ⟨⟨p, e⟩, List.mem_filter.mpr ⟨AList.mem_lookup_iff.mp he, decide_eq_true hlt⟩, rfl⟩

/-- Entities that are all locked are no more than the locks held. -/
theorem length_le_heldAt {ps : List Bytes} (hnodup : ps.Nodup)
    (h : ∀ p ∈ ps, ∃ l, m.view now p = some l) : ps.length ≤ m.heldAt now :=
  (hnodup.subperm fun p hp => mem_heldPaths.mpr (h p hp)).length_le

/-- With every clock reading at `now`, `held_lock_count` counts the locks held. -/
theorem heldLockCount_replicate (m : LockManager) (now : Time) :
    m.heldLockCount (List.replicate m.locks.entries.length now) = m.heldAt now := by
  rw [heldLockCount, heldAt, heldPaths, List.length_map]
  induction m.locks.entries with
  | nil => rfl
  | cons e es ih =>
    rw [List.length_cons, List.replicate_succ, List.zip_cons_cons, List.filter_cons,
      List.filter_cons]
    split
    next => rw [List.length_cons, List.length_cons, ih]
    next => exact ih

/-- What is held after the sweep has been counted in it. -/
theorem heldAt_le_heldLockCount {ts : List Time} (hlen : ts.length = m.locks.entries.length)
    (hle : ∀ t ∈ ts, t ≤ now) : m.heldAt now ≤ m.heldLockCount ts := by
  rw [heldLockCount, heldAt, heldPaths, List.length_map]
  generalize m.locks.entries = es at hlen
  induction es generalizing ts with
  | nil => exact Nat.zero_le _
  | cons e es ih =>
    cases ts with
    | nil => cases hlen
    | cons t ts =>
      have ht : t ≤ now := hle t (List.mem_cons_self ..)
      have hrest := ih (fun u hu => hle u (List.mem_cons_of_mem _ hu)) (Nat.succ.inj hlen)
      rw [List.zip_cons_cons, List.filter_cons, List.filter_cons]
      by_cases hnow : now < e.2.expiresAt
      · have hlt : t < e.2.expiresAt := ht.trans_lt hnow
        simp only [hnow, hlt, decide_true, if_true, List.length_cons]
        exact Nat.succ_le_succ hrest
      · by_cases hlt : t < e.2.expiresAt
        · simp only [hnow, hlt, decide_true, decide_false, if_true, Bool.false_eq_true, if_false,
            List.length_cons]
          exact hrest.trans (Nat.le_succ _)
        · simp only [hnow, hlt, decide_false, Bool.false_eq_true, if_false]
          exact hrest

end LockManager

/-- The acquire succeeded. -/
def LockEvent.Acquired : LockEvent → Prop
  | acquire _ _ _ _ ret => ret ≠ none
  | _ => False

instance (e : LockEvent) : Decidable e.Acquired := by
  cases e <;> unfold LockEvent.Acquired <;> infer_instance

/-- **Only an acquire that succeeds makes the number of locks held larger**, by one. -/
theorem heldAt_step_le {s s' : LockSys} {e : LockEvent} (h : lockLts.step s e s') :
    s'.lm.heldAt s'.now ≤ s.lm.heldAt s.now + (if e.Acquired then 1 else 0) := by
  by_cases hacq : e.Acquired
  · rw [if_pos hacq]
    cases e with
    | acquire q ttl t₁ t₂ ret =>
      -- whatever is held but the new lock was held before
      have hsub : (s'.lm.heldPaths s'.now).erase q ⊆ s.lm.heldPaths s.now := by
        intro p hp
        obtain ⟨hne, hmem⟩ := ((s'.lm.nodup_heldPaths s'.now).mem_erase_iff).mp hp
        obtain ⟨l, hl⟩ := LockManager.mem_heldPaths.mp hmem
        rcases step_view h hl with ⟨l₀, hl₀, -, -, -⟩ | ⟨⟨ttl', t₁', t₂', heq⟩, -⟩
        · exact LockManager.mem_heldPaths.mpr ⟨l₀, hl₀⟩
        · exact absurd (LockEvent.acquire.inj heq).1.symm hne
      have hlen := (((s'.lm.nodup_heldPaths s'.now).erase q).subperm hsub).length_le
      have herase : (s'.lm.heldPaths s'.now).length - 1 ≤
          ((s'.lm.heldPaths s'.now).erase q).length := List.le_length_erase
      unfold LockManager.heldAt
      omega
    | _ => exact absurd hacq id
  · rw [if_neg hacq, Nat.add_zero]
    refine LockManager.length_le_heldAt (s'.lm.nodup_heldPaths s'.now) fun p hp => ?_
    obtain ⟨l, hl⟩ := LockManager.mem_heldPaths.mp hp
    rcases step_view h hl with ⟨l₀, hl₀, -, -, -⟩ | ⟨⟨ttl, t₁, t₂, rfl⟩, -⟩
    · exact ⟨l₀, hl₀⟩
    · exact absurd (Option.some_ne_none _) hacq

end Sovd
