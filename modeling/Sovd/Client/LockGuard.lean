import Sovd.Client.SovdClient
import Sovd.Server.LockHandlers

/-!
# The RAII lock (`lock_guard.cpp`)

A `LockGuard` acquires a lock when it is made and has a thread of its own renew it
at half the time to live it asked for. The server grants less than was asked for
where that is more than `kMaxLockTtlSeconds`, and the guard does not look at what
was granted: from 7200 seconds on, half of what was asked for is no less than what
was granted, and the lock lapses before the first renewal.

`never_lapses_iff` says exactly for which times to live the lock stays held from the
end of the constructor on. Where it does, the reason is one inequality, which every
beat renews (`GuardInv`): the lock expires after the next beat.

Mirroring notes vs the C++:
- `ttl_seconds_ * 500` is an `int`; where it overflows, which C++ leaves undefined,
  it wraps around here.
- Requests are answered at once, the two clocks are one, and the destructor ends
  the run. In between, anything may happen to the lock table but a call that names
  the guard's id, which nobody else has.
-/

namespace Sovd

/-- `std::chrono::milliseconds(n)`. -/
def milliseconds (n : Int) : Time := n * 1000000

namespace LockGuard

/-- The pause of the heartbeat thread. -/
def intervalMs (ttlSeconds : Int) : Int := max 100 (toInt32 (ttlSeconds * 500))

/-- The time to live the server grants. -/
def grantedSeconds (ttlSeconds : Int) : Int := min ttlSeconds kMaxLockTtlSeconds

/-- The pause is shorter than the grant unless half of what was asked for, in 32 bits,
is an hour or more. -/
theorem interval_lt_granted_iff {ttl : Int} (h₁ : 1 ≤ ttl) (h₂ : ttl < 2 ^ 31) :
    milliseconds (intervalMs ttl) < seconds (grantedSeconds ttl) ↔
      toInt32 (ttl * 500) < 3600000 := by
  unfold milliseconds intervalMs seconds grantedSeconds kMaxLockTtlSeconds Time
  rcases le_or_gt ttl 3600 with hle | hlt
  · -- nothing overflows, and the pause is half of what is granted
    have hint : toInt32 (ttl * 500) = ttl * 500 := by
      unfold toInt32
      omega
    rw [hint]
    omega
  · generalize toInt32 (ttl * 500) = pause
    omega

end LockGuard

/-! ## The guard's lifetime -/

/-- The server's lock table, the instant, and when the heartbeat thread wakes up. -/
structure GuardSys where
  lm : LockManager
  now : Time
  nextBeat : Time

inductive GuardEvent
  | elapse
  | beat
  | other (e : LockEvent)

/-- The call names the lock id. -/
def LockEvent.Names (lockId : Bytes) : LockEvent → Prop
  | release _ id _ _ => id = lockId
  | renew _ id _ _ _ _ => id = lockId
  | _ => False

/-- The life of a guard for `path` that asked for `ttl` seconds and was given `lockId`. -/
def guardLts (path lockId : Bytes) (ttl : Int) : Lts GuardSys GuardEvent where
  init s := ∃ (lm : LockManager) (t₁ : Time), lm.acquire t₁ s.now path ttl = (some lockId, s.lm) ∧
    s.nextBeat = s.now + milliseconds (LockGuard.intervalMs ttl)
  step s e s' :=
    match e with
    | .elapse => s.now ≤ s'.now ∧ s'.now ≤ s.nextBeat ∧ s'.lm = s.lm ∧ s'.nextBeat = s.nextBeat
    | .beat => s.now = s.nextBeat ∧ s'.now = s.now ∧
        s'.lm = (s.lm.renew s.now s.now path lockId ttl).2 ∧
        s'.nextBeat = s.now + milliseconds (LockGuard.intervalMs ttl)
    | .other e => lockLts.step ⟨s.lm, s.now⟩ e ⟨s'.lm, s'.now⟩ ∧ ¬ e.Names lockId ∧
        s'.now ≤ s.nextBeat ∧ s'.nextBeat = s.nextBeat

/-- The lock table holds the guard's lock now. -/
def GuardSys.Holds (path lockId : Bytes) (s : GuardSys) : Prop :=
  ∃ expires, s.lm.view s.now path = some ⟨lockId, expires⟩

/-- Whatever the guard's lock is, it is held at every instant of the guard's life. -/
def NeverLapses (ttl : Int) : Prop :=
  ∀ path lockId es s, (guardLts path lockId ttl).Hist es s → s.Holds path lockId

/-- The lock is the guard's, and expires after the next beat. -/
structure GuardInv (path lockId : Bytes) (s : GuardSys) : Prop where
  beat : s.now ≤ s.nextBeat
  held : ∃ expires, s.lm.table path = some ⟨lockId, expires⟩ ∧ s.nextBeat < expires

/-- A lock that lasts throughout a call that does not name it is what it was. -/
theorem table_of_step {s s' : LockSys} {e : LockEvent} {path : Bytes} {l : Lease Bytes Time}
    (h : lockLts.step s e s') (hl : s.lm.table path = some l) (hlast : s'.now < l.expires)
    (hnames : ¬ e.Names l.holder) : s'.lm.table path = some l := by
  have hheld : ∀ t ∈ e.readings, s.lm.view t path = some l := fun t ht =>
    Lease.live_eq_some.mpr ⟨hl, (step_reading_le h ht).trans_lt hlast⟩
  by_cases hc : e.Concerns path
  case neg => rw [step_frame h hc, hl]
  have hstep := h.2
  cases e with
  | acquire q ttl t₁ t₂ ret =>
    obtain rfl : q = path := hc
    rw [LockEvent.Does, LockManager.acquire_held (hheld t₁ (by simp [LockEvent.readings]))]
      at hstep
    rw [← (Prod.mk.inj hstep).2, hl]
  | release q id t ret =>
    obtain rfl : q = path := hc
    rw [LockEvent.Does, LockManager.release_held (hheld t (by simp [LockEvent.readings])),
      if_neg fun hid => hnames hid.symm] at hstep
    rw [← (Prod.mk.inj hstep).2, hl]
  | renew q id ttl t₁ t₂ ret =>
    obtain rfl : q = path := hc
    rw [LockEvent.Does, LockManager.renew_held (hheld t₁ (by simp [LockEvent.readings])),
      if_neg fun hid => hnames hid.symm] at hstep
    rw [← (Prod.mk.inj hstep).2, hl]
  | checkLock q id t ret => rw [hstep.2, hl]
  | isLocked q t ret => rw [hstep.2, hl]
  | heldLockCount ts ret => exact absurd hc id

namespace GuardInv

variable {path lockId : Bytes} {ttl : Int} {s s' : GuardSys} {e : GuardEvent}

/-- An acquire or renew that makes the lock's entry makes the invariant. -/
theorem of_grant (hlt : milliseconds (LockGuard.intervalMs ttl) <
      seconds (LockGuard.grantedSeconds ttl))
    (hnext : s.nextBeat = s.now + milliseconds (LockGuard.intervalMs ttl))
    (htable : s.lm.table path =
      some ⟨lockId, s.now + seconds (min ttl kMaxLockTtlSeconds)⟩) : GuardInv path lockId s := by
  have hpos : (0 : Int) ≤ milliseconds (LockGuard.intervalMs ttl) := by
    unfold milliseconds LockGuard.intervalMs
    omega
  refine ⟨?_, _, htable, ?_⟩
  · rw [hnext]
    unfold Time at *
    omega
  · rw [hnext]
    unfold LockGuard.grantedSeconds Time at *
    omega

theorem holds (h : GuardInv path lockId s) : s.Holds path lockId := by
  obtain ⟨expires, htable, hlt⟩ := h.held
  exact ⟨expires, Lease.live_eq_some.mpr ⟨htable, h.beat.trans_lt hlt⟩⟩

theorem step (hlt : milliseconds (LockGuard.intervalMs ttl) <
      seconds (LockGuard.grantedSeconds ttl))
    (h : GuardInv path lockId s) (hs : (guardLts path lockId ttl).step s e s') :
    GuardInv path lockId s' := by
  cases e with
  | elapse =>
    obtain ⟨-, hle, hlm, hnext⟩ := hs
    refine ⟨hnext ▸ hle, ?_⟩
    rw [hlm, hnext]
    exact h.held
  | beat =>
    obtain ⟨-, hnow, hlm, hnext⟩ := hs
    obtain ⟨expires, hview⟩ := h.holds
    have htable : s'.lm.table path =
        some ⟨lockId, s'.now + seconds (min ttl kMaxLockTtlSeconds)⟩ := by
      rw [hlm, LockManager.renew_held hview, if_pos rfl, LockManager.table_insert, hnow]
      exact Lease.grant_self
    exact of_grant hlt (hnow ▸ hnext) htable
  | other e =>
    obtain ⟨hstep, hnames, hle, hnext⟩ := hs
    obtain ⟨expires, htable, hexp⟩ := h.held
    exact ⟨hnext ▸ hle, expires,
      table_of_step hstep htable (hle.trans_lt hexp) hnames, hnext ▸ hexp⟩

theorem of_hist (hlt : milliseconds (LockGuard.intervalMs ttl) <
      seconds (LockGuard.grantedSeconds ttl))
    {es : List GuardEvent} (h : (guardLts path lockId ttl).Hist es s) : GuardInv path lockId s := by
  obtain ⟨s₀, ⟨lm, t₁, hacquire, hnext⟩, hrun⟩ := h
  refine Lts.run_invariant (fun s e t hI hs => hI.step hlt hs) hrun ?_
  rcases LockManager.acquire_cases hacquire with ⟨l, -, hret, -⟩ | ⟨-, hret, -, htable⟩
  · cases hret
  · obtain rfl := Option.some.inj hret
    refine of_grant hlt hnext ?_
    rw [htable]
    exact Lease.grant_self

end GuardInv

/-- A guard whose pause is no shorter than the grant: nothing happens until its first beat. -/
theorem lapses_of_le {ttl : Int}
    (hle : seconds (LockGuard.grantedSeconds ttl) ≤ milliseconds (LockGuard.intervalMs ttl)) :
    ¬ NeverLapses ttl := by
  intro h
  have hpos : (0 : Int) ≤ milliseconds (LockGuard.intervalMs ttl) := by
    unfold milliseconds LockGuard.intervalMs
    omega
  let s : GuardSys :=
    { lm := (({} : LockManager).acquire 0 0 [] ttl).2
      now := 0
      nextBeat := milliseconds (LockGuard.intervalMs ttl) }
  let s' : GuardSys := { s with now := s.nextBeat }
  have hhist : (guardLts [] (str "lock-1") ttl).Hist [.elapse] s' :=
    ⟨s, ⟨{}, 0, Prod.ext (by rfl) rfl, (Int.zero_add _).symm⟩, s', ⟨hpos, le_refl _, rfl, rfl⟩, rfl⟩
  obtain ⟨expires, hview⟩ := h _ _ _ _ hhist
  obtain ⟨htable, hlt⟩ := Lease.live_eq_some.mp hview
  have hgrant : s'.lm.table [] =
      some ⟨str "lock-1", 0 + seconds (min ttl kMaxLockTtlSeconds)⟩ := by rfl
  rw [hgrant] at htable
  have hexp : 0 + seconds (min ttl kMaxLockTtlSeconds) = expires :=
    congrArg Lease.expires (Option.some.inj htable)
  have hlate : milliseconds (LockGuard.intervalMs ttl) < expires := hlt
  unfold LockGuard.grantedSeconds at hle
  unfold Time at *
  omega

/-- **The RAII lock never lapses exactly when half of the time to live, in 32 bits, is
less than the hour the server grants at most.** -/
theorem never_lapses_iff {ttl : Int} (h₁ : 1 ≤ ttl) (h₂ : ttl < 2 ^ 31) :
    NeverLapses ttl ↔ toInt32 (ttl * 500) < 3600000 := by
  rw [← LockGuard.interval_lt_granted_iff h₁ h₂]
  constructor
  · intro h
    by_contra hnot
    exact lapses_of_le (Int.not_lt.mp hnot) h
  · intro hlt path lockId es s hhist
    exact (GuardInv.of_hist hlt hhist).holds

/-- The default of the constructor. -/
theorem default_never_lapses : NeverLapses 60 :=
  (never_lapses_iff (by decide) (by decide)).mpr (by decide)

/-- Two hours are asked for, one is granted, and the first beat comes when it is over. -/
theorem two_hours_lapse : ¬ NeverLapses 7200 := lapses_of_le (by decide)

end Sovd
