import Sovd.Lib.Segments
import Sovd.Lib.Separated
import Sovd.Server.StreamHub

/-!
# Whose values a subscription gets (`server/src/stream_hub.cpp`)

A poller belongs to what its first subscription asked for, and goes on calling that
one's `read_fn`. Whoever finds it under the same key gets its values. The key is the
path, the identifier and the interval joined by a control character, and a path may
contain that character: two that ask for different things can then join to one key, and
the second is handed what was read for the first.

`StreamInv` says where values come from and that nobody has seen a version ahead of
its poller. It is kept as long as every subscription that finds a poller asked for what
that poller was started for. Where no path contains the separator, that is always so
(`keptApart_of_plain`).

Mirroring notes vs the C++:
- `version` is 64 bits and would start over; the condition excludes it.
-/

namespace Sovd

/-- Paths without the separator: the key says what was asked for. -/
theorem StreamId.key_injective {t u : StreamId} (ht : 0x1F ∉ t.path) (hu : 0x1F ∉ u.path)
    (h : t.key = u.key) : t = u := by
  have hcut : (t.path, t.id ++ 0x1F :: intText t.intervalMs) =
      (u.path, u.id ++ 0x1F :: intText u.intervalMs) := by
    rw [← Separated.divide_of_not_mem ht, ← Separated.divide_of_not_mem hu]
    exact congrArg _ h
  obtain ⟨hpath, hrest⟩ := Prod.mk.inj hcut
  obtain ⟨hid, hinterval⟩ := Segments.last_segment (not_mem_intText (by decide) _)
    (not_mem_intText (by decide) _) hrest
  obtain ⟨path, id, intervalMs⟩ := t
  exact StreamId.mk.injEq .. ▸ ⟨hpath, hid, intText_injective hinterval⟩

namespace HubSys

/-- Where the values are from, and how far each subscription has seen. -/
structure StreamInv (s : HubSys) : Prop where
  given : ∀ p < s.started, ((s.heap p).stream, (s.heap p).readFn) ∈ s.given
  publishing : ∀ p < s.started, ∀ value, (s.heap p).pc = .publish value →
    ((s.heap p).readFn, value) ∈ s.produced
  published : ∀ p < s.started, (s.heap p).version ≠ 0 →
    ((s.heap p).readFn, (s.heap p).latestJson) ∈ s.produced
  live : ∀ o sub p, s.objects o = some sub → sub.poller = some p → sub.hub = true
  own : ∀ o sub p, s.objects o = some sub → sub.poller = some p →
    p < s.started ∧ (s.heap p).stream = sub.stream
  seen : ∀ o sub p, s.objects o = some sub → sub.poller = some p →
    sub.lastSeenVersion ≤ (s.heap p).version ∧
      ∀ v ∈ s.observed sub.number, v ≤ sub.lastSeenVersion
  increasing : ∀ i, (s.observed i).Pairwise (· < ·)
  unobserved : ∀ i, s.subscribed ≤ i → s.observed i = []

/-- The thread is about to publish. -/
def Publishes (ps : PollerState) : Bool :=
  match ps.pc with
  | .publish _ => !ps.stop
  | _ => false

/-- A subscription that finds a poller asked for what it was started for; no version starts over. -/
def KeptApart (s : HubSys) : HubEvent → Prop
  | .subscribe t _ => ∀ p ∈ s.pollers t.key, (s.heap p).stream = t
  | .poll p => Publishes (s.heap p) = true → (s.heap p).version + 1 < 2 ^ 64
  | _ => True

instance (s : HubSys) : ∀ e, Decidable (KeptApart s e)
  | .subscribe t _ => inferInstanceAs (Decidable (∀ p ∈ s.pollers t.key, (s.heap p).stream = t))
  | .poll p => inferInstanceAs
      (Decidable (Publishes (s.heap p) = true → (s.heap p).version + 1 < 2 ^ 64))
  | .make => .isTrue trivial
  | .moveConstruct _ => .isTrue trivial
  | .moveAssign _ _ => .isTrue trivial
  | .destroy _ => .isTrue trivial
  | .read _ _ => .isTrue trivial
  | .waitNext _ _ => .isTrue trivial

/-- A value handed out was read for what the subscription asked for. -/
def HandsOwn (s : HubSys) (e : HubEvent) (_ : HubSys) : Prop :=
  ∀ o value, e = .waitNext o (some value) → ∃ sub readFn, s.objects o = some sub ∧
    (sub.stream, readFn) ∈ s.given ∧ (readFn, value) ∈ s.produced

/-! ## Steps that no value passes in -/

/-- The subscriptions may move, and pollers be stopped. -/
structure SameStreams (s s' : HubSys) : Prop where
  heap : ∀ p, { s'.heap p with subscriberCount := 0, stop := false } =
    { s.heap p with subscriberCount := 0, stop := false }
  objects : ∀ o sub p, s'.objects o = some sub → sub.poller = some p → ∃ o', s.objects o' = some sub
  started : s'.started = s.started
  given : s'.given = s.given
  produced : s'.produced = s.produced
  observed : s'.observed = s.observed
  subscribed : s'.subscribed = s.subscribed

section

variable {s s' s'' : HubSys}

/-- Two steps that leave the streams alone are one. -/
theorem SameStreams.trans (h : SameStreams s s') (h' : SameStreams s' s'') :
    SameStreams s s'' where
  heap p := (h'.heap p).trans (h.heap p)
  objects o sub p ho hp := by
    obtain ⟨o', ho'⟩ := h'.objects o sub p ho hp
    exact h.objects o' sub p ho' hp
  started := h'.started.trans h.started
  given := h'.given.trans h.given
  produced := h'.produced.trans h.produced
  observed := h'.observed.trans h.observed
  subscribed := h'.subscribed.trans h.subscribed

/-- What was said of the streams holds where they are the same. -/
theorem StreamInv.of_same (h : StreamInv s) (hs : SameStreams s s') : StreamInv s' := by
  -- a poller may differ in its number of subscribers only
  have hheap : ∀ p, (s'.heap p).stream = (s.heap p).stream ∧
      (s'.heap p).readFn = (s.heap p).readFn ∧ (s'.heap p).pc = (s.heap p).pc ∧
      (s'.heap p).version = (s.heap p).version ∧
      (s'.heap p).latestJson = (s.heap p).latestJson := by
    intro p
    have hp := PollerState.mk.inj (hs.heap p)
    exact ⟨hp.2.2.2.2.2.2, hp.2.2.2.2.1, hp.2.2.2.2.2.1, hp.2.1, hp.1⟩
  refine ⟨?_, ?_, ?_, ?_, ?_, ?_, ?_, ?_⟩
  · intro p hp
    rw [(hheap p).1, (hheap p).2.1, hs.given]
    exact h.given p (hs.started ▸ hp)
  · intro p hp value hpc
    rw [(hheap p).2.2.1] at hpc
    rw [(hheap p).2.1, hs.produced]
    exact h.publishing p (hs.started ▸ hp) value hpc
  · intro p hp hv
    rw [(hheap p).2.2.2.1] at hv
    rw [(hheap p).2.1, (hheap p).2.2.2.2, hs.produced]
    exact h.published p (hs.started ▸ hp) hv
  · intro o sub p ho hp
    obtain ⟨o', ho'⟩ := hs.objects o sub p ho hp
    exact h.live o' sub p ho' hp
  · intro o sub p ho hp
    obtain ⟨o', ho'⟩ := hs.objects o sub p ho hp
    rw [(hheap p).1, hs.started]
    exact h.own o' sub p ho' hp
  · intro o sub p ho hp
    obtain ⟨o', ho'⟩ := hs.objects o sub p ho hp
    rw [(hheap p).2.2.2.1, hs.observed]
    exact h.seen o' sub p ho' hp
  · intro i
    rw [hs.observed]
    exact h.increasing i
  · intro i hi
    rw [hs.subscribed] at hi
    rw [hs.observed]
    exact h.unobserved i hi

/-- A new object leaves the streams alone. -/
theorem sameStreams_construct (s : HubSys) : SameStreams s (s.construct {}) := by
  refine ⟨fun _ => rfl, ?_, rfl, rfl, rfl, rfl, rfl⟩
  intro o sub p ho hp
  by_cases hnew : o = s.created
  · rw [hnew] at ho
    obtain rfl : ({} : Subscription) = sub := by simpa [HubSys.construct] using ho
    cases hp
  · exact ⟨o, by simpa [HubSys.construct, hnew] using ho⟩

/-- A share that is moved leaves the streams alone. -/
theorem sameStreams_transfer {dst src : Nat} {sub : Subscription}
    (hsrc : s.objects src = some sub) : SameStreams s (s.transfer dst src sub) := by
  refine ⟨fun _ => rfl, ?_, rfl, rfl, rfl, rfl, rfl⟩
  intro o sub' p ho hp
  by_cases hosrc : o = src
  · rw [hosrc] at ho
    obtain rfl : sub.moved = sub' := by simpa [HubSys.transfer, setObject] using ho
    cases hp
  · by_cases hodst : o = dst
    · rw [hodst] at ho hosrc
      obtain rfl : sub = sub' := by simpa [HubSys.transfer, setObject, hosrc] using ho
      exact ⟨src, hsrc⟩
    · exact ⟨o, by simpa [HubSys.transfer, setObject, hosrc, hodst] using ho⟩

/-- Counting shares changes nothing else of a poller. -/
theorem setPoller_count (s : HubSys) (p : Nat) (count : Int) (stop : Bool) (q : Nat) :
    { (s.setPoller p { s.heap p with subscriberCount := count, stop := stop }).heap q with
      subscriberCount := 0, stop := false } =
    { s.heap q with subscriberCount := 0, stop := false } := by
  by_cases hq : q = p
  · rw [hq]
    simp [HubSys.setPoller]
  · simp [HubSys.setPoller, hq]

/-- A poller that loses a share reads on. -/
theorem sameStreams_release (s : HubSys) (key : Bytes) : SameStreams s (s.release key) := by
  unfold release
  split
  next => exact ⟨fun _ => rfl, fun o _ _ ho _ => ⟨o, ho⟩, rfl, rfl, rfl, rfl, rfl⟩
  next p _ =>
    dsimp only
    split
    · exact ⟨setPoller_count s p _ true, fun o _ _ ho _ => ⟨o, ho⟩, rfl, rfl, rfl, rfl, rfl⟩
    · exact ⟨setPoller_count s p _ (s.heap p).stop, fun o _ _ ho _ => ⟨o, ho⟩, rfl, rfl, rfl, rfl,
        rfl⟩

/-- Giving a share up leaves the streams alone. -/
theorem sameStreams_drop (s : HubSys) (o : Nat) (sub : Subscription) :
    SameStreams s (s.drop o sub) := by
  have hobjects : ∀ x sub' p, (s.drop o sub).objects x = some sub' → sub'.poller = some p →
      ∃ x', s.objects x' = some sub' :=
    fun x _ _ hx _ => ⟨x, (drop_objects hx).2⟩
  by_cases hlive : sub.hub = true
  · have h := sameStreams_release s sub.key
    unfold drop releaseShare at hobjects ⊢
    rw [if_pos hlive] at hobjects ⊢
    exact ⟨h.heap, hobjects, h.started, h.given, h.produced, h.observed, h.subscribed⟩
  · rw [HubSys.drop_dead hlive] at hobjects ⊢
    exact ⟨fun _ => rfl, hobjects, rfl, rfl, rfl, rfl, rfl⟩

/-! ## Steps that pass values on -/

/-- What is asked for goes on record. -/
def asked (t : StreamId) (readFn : Nat) (s : HubSys) : HubSys :=
  { s with given := s.given ++ [(t, readFn)] }

/-- A poller is started. -/
def start (t : StreamId) (readFn : Nat) (s : HubSys) : HubSys :=
  { s.setPoller s.started { subscriberCount := 1, readFn := readFn, stream := t } with
    pollers := Function.update s.pollers t.key (some s.started)
    started := s.started + 1 }

/-- The share of a poller is in a new object. -/
def join (t : StreamId) (p : Nat) (s : HubSys) : HubSys :=
  { s with subscribed := s.subscribed + 1 }.construct (s.newShare t p)

/-- A stream that is asked for is asked for. -/
theorem StreamInv.asked (h : StreamInv s) (t : StreamId) (readFn : Nat) :
    StreamInv (s.asked t readFn) where
  given p hp := List.mem_append_left _ (h.given p hp)
  publishing := h.publishing
  published := h.published
  live := h.live
  own := h.own
  seen := h.seen
  increasing := h.increasing
  unobserved := h.unobserved

/-- A poller is started with the function it was given. -/
theorem StreamInv.start (h : StreamInv s) {t : StreamId} {readFn : Nat}
    (hgiven : (t, readFn) ∈ s.given) : StreamInv (s.start t readFn) := by
  have hself : (s.start t readFn).heap s.started =
      { subscriberCount := 1, readFn := readFn, stream := t } := Function.update_self ..
  have hrest : ∀ q, q < s.started → (s.start t readFn).heap q = s.heap q :=
    fun q hq => Function.update_of_ne hq.ne _ _
  have hlt : ∀ q, q < (s.start t readFn).started → q = s.started ∨ q < s.started :=
    fun q hq => (Nat.lt_succ_iff_lt_or_eq.mp hq).symm
  refine ⟨?_, ?_, ?_, h.live, ?_, ?_, h.increasing, h.unobserved⟩
  · intro q hq
    rcases hlt q hq with rfl | hq
    · rw [hself]
      exact hgiven
    · rw [hrest q hq]
      exact h.given q hq
  · intro q hq value hpc
    rcases hlt q hq with rfl | hq
    · rw [hself] at hpc
      cases hpc
    · rw [hrest q hq] at hpc ⊢
      exact h.publishing q hq value hpc
  · intro q hq hv
    rcases hlt q hq with rfl | hq
    · rw [hself] at hv
      exact absurd rfl hv
    · rw [hrest q hq] at hv ⊢
      exact h.published q hq hv
  · intro o sub q ho hq
    obtain ⟨hstarted, hstream⟩ := h.own o sub q ho hq
    rw [hrest q hstarted]
    exact ⟨Nat.lt_succ_of_lt hstarted, hstream⟩
  · intro o sub q ho hq
    rw [hrest q (h.own o sub q ho hq).1]
    exact h.seen o sub q ho hq

/-- A share of a poller that was started for what is asked for. -/
theorem StreamInv.join (h : StreamInv s) {t : StreamId} {p : Nat} (hp : p < s.started)
    (hstream : (s.heap p).stream = t) : StreamInv (s.join t p) := by
  have hobjects : ∀ o sub, (s.join t p).objects o = some sub →
      sub = s.newShare t p ∨ s.objects o = some sub := by
    intro o sub ho
    by_cases hnew : o = s.created
    · rw [hnew] at ho
      exact .inl (by simpa [HubSys.join, HubSys.construct] using ho.symm)
    · exact .inr (by simpa [HubSys.join, HubSys.construct, hnew] using ho)
  refine ⟨h.given, h.publishing, h.published, ?_, ?_, ?_, h.increasing,
    fun i hi => h.unobserved i ((Nat.le_succ _).trans hi)⟩
  · intro o sub q ho hq
    rcases hobjects o sub ho with rfl | ho
    · rfl
    · exact h.live o sub q ho hq
  · intro o sub q ho hq
    rcases hobjects o sub ho with rfl | ho
    · obtain rfl : p = q := Option.some.inj hq
      exact ⟨hp, hstream⟩
    · exact h.own o sub q ho hq
  · intro o sub q ho hq
    rcases hobjects o sub ho with rfl | ho
    · refine ⟨Nat.zero_le _, ?_⟩
      -- its number is new, and nothing was handed out under it
      change ∀ v ∈ s.observed s.subscribed, v ≤ 0
      rw [h.unobserved _ le_rfl]
      simp
    · exact h.seen o sub q ho hq

/-- A new subscription joins a new poller, or one that was started for the same. -/
theorem StreamInv.subscribe (h : StreamInv s) (hinv : HubInv s) {t : StreamId} {readFn : Nat}
    (happart : ∀ p, s.pollers t.key = some p → (s.heap p).stream = t) :
    StreamInv (s.subscribe t readFn) := by
  have hasked := h.asked t readFn
  rcases hp : s.pollers t.key with _ | p
  · have hstart := hasked.start (List.mem_append_right _ (List.mem_singleton_self (t, readFn)))
    rw [HubSys.subscribe_first hp]
    refine hstart.join (t := t) (p := s.started) (Nat.lt_succ_self _) ?_
    simp [HubSys.start, HubSys.asked, HubSys.setPoller]
  · have hsame : SameStreams (s.asked t readFn) ((s.asked t readFn).setPoller p
        { s.heap p with subscriberCount := (s.heap p).subscriberCount + 1 }) :=
      ⟨setPoller_count _ p _ (s.heap p).stop, fun o _ _ ho _ => ⟨o, ho⟩, rfl, rfl, rfl, rfl, rfl⟩
    rw [HubSys.subscribe_shared hp]
    refine (hasked.of_same hsame).join (t := t) (p := p) (hinv.started _ p hp) ?_
    simpa [HubSys.asked, HubSys.setPoller] using happart p hp

/-- A section of a poller's thread. -/
theorem StreamInv.setPoller (h : StreamInv s) {p : Nat} {ps : PollerState}
    (hstream : ps.stream = (s.heap p).stream) (hfn : ps.readFn = (s.heap p).readFn)
    (hversion : (s.heap p).version ≤ ps.version)
    (hpublishing : ∀ value, ps.pc = .publish value → (ps.readFn, value) ∈ s.produced)
    (hpublished : p < s.started → ps.version ≠ 0 → (ps.readFn, ps.latestJson) ∈ s.produced) :
    StreamInv (s.setPoller p ps) := by
  -- one poller is replaced: what is said of it is assumed, the others are as they were
  have hself : (s.setPoller p ps).heap p = ps := HubSys.setPoller_heap_self s p ps
  have hrest : ∀ q, q ≠ p → (s.setPoller p ps).heap q = s.heap q :=
    fun q hq => HubSys.setPoller_heap_of_ne s ps hq
  refine ⟨?_, ?_, ?_, h.live, ?_, ?_, h.increasing, h.unobserved⟩
  · intro q hq
    by_cases hqp : q = p
    · rw [hqp, hself, hstream, hfn]
      exact h.given p (hqp ▸ hq)
    · rw [hrest q hqp]
      exact h.given q hq
  · intro q hq value hpc
    by_cases hqp : q = p
    · rw [hqp, hself] at hpc ⊢
      exact hpublishing value hpc
    · rw [hrest q hqp] at hpc ⊢
      exact h.publishing q hq value hpc
  · intro q hq hv
    by_cases hqp : q = p
    · rw [hqp, hself] at hv ⊢
      exact hpublished (hqp ▸ hq) hv
    · rw [hrest q hqp] at hv ⊢
      exact h.published q hq hv
  · intro o sub q ho hq
    by_cases hqp : q = p
    · rw [hqp, hself, hstream]
      exact hqp ▸ h.own o sub q ho hq
    · rw [hrest q hqp]
      exact h.own o sub q ho hq
  · intro o sub q ho hq
    -- versions only grow, so what was seen is not ahead
    obtain ⟨hle, hall⟩ := h.seen o sub q ho hq
    by_cases hqp : q = p
    · rw [hqp, hself]
      exact ⟨(hqp ▸ hle).trans hversion, hall⟩
    · rw [hrest q hqp]
      exact ⟨hle, hall⟩

/-- A poll publishes under a new version, unless the counter wraps. -/
theorem StreamInv.poll (h : StreamInv s) {p : Nat}
    (hwrap : Publishes (s.heap p) = true → (s.heap p).version + 1 < 2 ^ 64)
    (hs : s.poll p = some s') : StreamInv s' := by
  unfold HubSys.poll at hs
  dsimp only at hs
  split at hs
  next =>
    obtain rfl := Option.some.inj hs
    refine h.setPoller rfl rfl le_rfl ?_ (fun hlt hv => h.published p hlt hv)
    intro value hpc
    split at hpc <;> cases hpc
  next value hpc =>
    obtain rfl := Option.some.inj hs
    split
    next => exact h.setPoller rfl rfl le_rfl (by simp) (fun hlt hv => h.published p hlt hv)
    next hstop =>
      have hpublishes : Publishes (s.heap p) = true := by
        rw [Publishes, hpc]
        simpa using hstop
      have hnext : ((s.heap p).version + 1) % 2 ^ 64 = (s.heap p).version + 1 :=
        Nat.mod_eq_of_lt (hwrap hpublishes)
      refine h.setPoller rfl rfl ?_ (by simp) (fun hlt _ => h.publishing p hlt value hpc)
      rw [hnext]
      exact Nat.le_succ _
  next =>
    obtain rfl := Option.some.inj hs
    refine h.setPoller rfl rfl le_rfl ?_ (fun hlt hv => h.published p hlt hv)
    intro value hpc
    split at hpc <;> cases hpc
  next => cases hs
  next => cases hs

/-- What is produced stays produced. -/
theorem StreamInv.produce (h : StreamInv s) (x : Nat × Bytes) :
    StreamInv { s with produced := s.produced ++ [x] } where
  given := h.given
  publishing p hp value hpc := List.mem_append_left _ (h.publishing p hp value hpc)
  published p hp hv := List.mem_append_left _ (h.published p hp hv)
  live := h.live
  own := h.own
  seen := h.seen
  increasing := h.increasing
  unobserved := h.unobserved

/-- What is read is published as it was read. -/
theorem StreamInv.read (h : StreamInv s) {p : Nat} {value : Bytes}
    (hs : s.read p value = some s') : StreamInv s' := by
  unfold HubSys.read at hs
  obtain ⟨-, hs⟩ := Option.ite_none_right_eq_some.mp hs
  obtain rfl := Option.some.inj hs
  refine (h.produce ((s.heap p).readFn, value)).setPoller rfl rfl le_rfl ?_ ?_
  · intro value' hpc
    obtain rfl : value = value' := PollerPc.publish.inj hpc
    exact List.mem_append_right _ (List.mem_singleton_self _)
  · exact fun hlt hv => List.mem_append_left _ (h.published p hlt hv)

/-- A value is handed out only under a version the subscription has not seen. -/
theorem StreamInv.waitNext (h : StreamInv s) (hinv : HubInv s) {o p : Nat} {sub : Subscription}
    (ho : s.objects o = some sub) (hp : sub.poller = some p) :
    StreamInv (s.waitNext o sub p).2 := by
  obtain ⟨hle, hall⟩ := h.seen o sub p ho hp
  have hlive := h.live o sub p ho hp
  unfold HubSys.waitNext
  dsimp only
  split
  -- nothing new: the wait ends without a value
  next => exact h
  next hnew =>
    have hlt : sub.lastSeenVersion < (s.heap p).version := by
      have hne := (not_or.mp hnew).1
      omega
    -- only `o` changes, and only in what it has seen
    have hobjects : ∀ x sub',
        (s.setObject o (some { sub with lastSeenVersion := (s.heap p).version })).objects x =
          some sub' →
        (x = o ∧ sub' = { sub with lastSeenVersion := (s.heap p).version }) ∨
          (x ≠ o ∧ s.objects x = some sub') := by
      intro x sub' hx
      by_cases hxo : x = o
      · rw [hxo] at hx
        exact .inl ⟨hxo, by simpa [setObject] using hx.symm⟩
      · exact .inr ⟨hxo, by simpa [setObject, hxo] using hx⟩
    refine ⟨h.given, h.publishing, h.published, ?_, ?_, ?_, ?_, ?_⟩
    · intro x sub' q hx hq
      rcases hobjects x sub' hx with ⟨-, rfl⟩ | ⟨-, hx⟩
      · exact hlive
      · exact h.live x sub' q hx hq
    · intro x sub' q hx hq
      rcases hobjects x sub' hx with ⟨-, rfl⟩ | ⟨-, hx⟩
      · exact h.own o sub q ho hq
      · exact h.own x sub' q hx hq
    · intro x sub' q hx hq
      rcases hobjects x sub' hx with ⟨-, rfl⟩ | ⟨hxo, hx⟩
      · obtain rfl : p = q := Option.some.inj (hp.symm.trans hq)
        refine ⟨le_rfl, ?_⟩
        dsimp only
        rw [Function.update_self]
        intro v hv
        rcases List.mem_append.mp hv with hv | hv
        · exact (hall v hv).trans hle
        · exact (List.mem_singleton.mp hv).le
      · -- another object has another number, so its observations are as they were
        have hnum : sub'.number ≠ sub.number := fun heq =>
          hxo (hinv.distinct x o sub' sub hx ho (h.live x sub' q hx hq) hlive heq)
        dsimp only
        rw [Function.update_of_ne hnum]
        exact h.seen x sub' q hx hq
    · intro i
      dsimp only
      by_cases hi : i = sub.number
      · rw [hi, Function.update_self]
        -- what is observed now is newer than all that was
        refine List.pairwise_append.mpr ⟨h.increasing _, List.pairwise_singleton .., ?_⟩
        intro v hv w hw
        rw [List.mem_singleton.mp hw]
        exact (hall v hv).trans_lt hlt
      · rw [Function.update_of_ne hi]
        exact h.increasing i
    · intro i hi
      dsimp only at hi ⊢
      have hne : i ≠ sub.number := ((hinv.number o sub ho hlive).1.trans_le hi).ne'
      rw [Function.update_of_ne hne]
      exact h.unobserved i hi

/-- **A step keeps every stream its own**, if streams are kept apart. -/
theorem StreamInv.next (h : StreamInv s) (hinv : HubInv s) {e : HubEvent}
    (hs : s.next e = some s') (hapart : KeptApart s e) : StreamInv s' := by
  cases e with
  | subscribe t readFn =>
    obtain rfl := Option.some.inj hs
    exact h.subscribe hinv hapart
  | make =>
    obtain rfl := Option.some.inj hs
    exact h.of_same (sameStreams_construct s)
  | moveConstruct src =>
    obtain ⟨sub, hsrc, rfl⟩ := Option.map_eq_some_iff.mp hs
    -- the new object is none that exists
    have hne : src ≠ s.created := (hinv.lt_created hsrc).ne
    rw [moveConstruct_eq]
    refine h.of_same ((sameStreams_construct s).trans (sameStreams_transfer ?_))
    simpa [HubSys.construct, hne] using hsrc
  | moveAssign dst src =>
    obtain ⟨old, hdst, hs⟩ := Option.bind_eq_some_iff.mp hs
    obtain ⟨sub, hsrc, rfl⟩ := Option.map_eq_some_iff.mp hs
    by_cases hne : dst = src
    · rw [HubSys.moveAssign, if_pos hne]
      exact h
    · -- the old share is given up, then the other one moved in
      rw [moveAssign_eq s hne]
      exact h.of_same ((sameStreams_drop s dst old).trans
        (sameStreams_transfer (drop_free hinv hdst hsrc hne).2.2))
  | destroy o =>
    obtain ⟨sub, -, rfl⟩ := Option.map_eq_some_iff.mp hs
    exact h.of_same (sameStreams_drop s o sub)
  | poll p =>
    obtain ⟨-, hs⟩ := Option.ite_none_right_eq_some.mp hs
    exact h.poll hapart hs
  | read p value =>
    obtain ⟨-, hs⟩ := Option.ite_none_right_eq_some.mp hs
    exact h.read hs
  | waitNext o ret =>
    obtain ⟨sub, ho, hs⟩ := Option.bind_eq_some_iff.mp hs
    obtain ⟨p, hp, hs⟩ := Option.bind_eq_some_iff.mp hs
    obtain ⟨-, hs⟩ := Option.ite_none_right_eq_some.mp hs
    obtain rfl := Option.some.inj hs
    exact h.waitNext hinv ho hp

/-- There is no stream at the start. -/
theorem streamInv_init : StreamInv {} where
  given _ h := nomatch h
  publishing _ h := nomatch h
  published _ h := nomatch h
  live _ _ _ h := nomatch h
  own _ _ _ h := nomatch h
  seen _ _ _ h := nomatch h
  increasing _ := List.Pairwise.nil
  unobserved _ _ := rfl

/-- So it is in every history that keeps them apart. -/
theorem streamInv_of_hist {es : List HubEvent} (h : runs.Hist es s)
    (hapart : runs.Always (fun s e _ => KeptApart s e) es s) : HubInv s ∧ StreamInv s := by
  refine Lts.Always.induct (I := fun s => HubInv s ∧ StreamInv s) ?_ ?_ h hapart
  · rintro s rfl
    exact ⟨hubInv_init, streamInv_init⟩
  · rintro s e s' ⟨hinv, hstream⟩ hs hP
    exact ⟨hinv.next hs, hstream.next hinv hs hP⟩

/-- What `wait_next` returns comes from the poller of its object. -/
theorem StreamInv.handsOwn (h : StreamInv s) {e : HubEvent} (hs : s.next e = some s') :
    HandsOwn s e s' := by
  rintro o value rfl
  obtain ⟨sub, ho, hs⟩ := Option.bind_eq_some_iff.mp hs
  obtain ⟨p, hp, hs⟩ := Option.bind_eq_some_iff.mp hs
  obtain ⟨hret, -⟩ := Option.ite_none_right_eq_some.mp hs
  obtain ⟨hstarted, hstream⟩ := h.own o sub p ho hp
  unfold HubSys.waitNext at hret
  dsimp only at hret
  split at hret
  next => cases hret
  next hnew =>
    obtain rfl := Option.some.inj hret
    have hversion : (s.heap p).version ≠ 0 := by
      have hle := (h.seen o sub p ho hp).1
      have hne := (not_or.mp hnew).1
      omega
    refine ⟨sub, (s.heap p).readFn, ho, ?_, h.published p hstarted hversion⟩
    rw [← hstream]
    exact h.given p hstarted

/-! ## Paths without the separator -/

/-- Nobody asks for a path with the separator in it; no version starts over. -/
def Plain (s : HubSys) : HubEvent → Prop
  | .subscribe t _ => 0x1F ∉ t.path
  | .poll p => Publishes (s.heap p) = true → (s.heap p).version + 1 < 2 ^ 64
  | _ => True

/-- Only `subscribe` puts anything on record. -/
theorem given_next {e : HubEvent} (hs : s.next e = some s') :
    s'.given = s.given ∨ ∃ t readFn, e = .subscribe t readFn ∧
      s'.given = s.given ++ [(t, readFn)] := by
  cases e with
  | subscribe t readFn =>
    obtain rfl := Option.some.inj hs
    refine .inr ⟨t, readFn, rfl, ?_⟩
    -- a read function is given with every subscription, used or not
    rcases hp : s.pollers t.key with _ | p
    · rw [HubSys.subscribe_first hp]
    · rw [HubSys.subscribe_shared hp]
  | make =>
    obtain rfl := Option.some.inj hs
    exact .inl rfl
  | moveConstruct src =>
    obtain ⟨sub, -, rfl⟩ := Option.map_eq_some_iff.mp hs
    exact .inl rfl
  | moveAssign dst src =>
    obtain ⟨old, -, hs⟩ := Option.bind_eq_some_iff.mp hs
    obtain ⟨sub, -, rfl⟩ := Option.map_eq_some_iff.mp hs
    refine .inl ?_
    by_cases hne : dst = src
    · rw [HubSys.moveAssign, if_pos hne]
    · rw [moveAssign_eq s hne]
      exact (sameStreams_drop s dst old).given
  | destroy o =>
    obtain ⟨sub, -, rfl⟩ := Option.map_eq_some_iff.mp hs
    exact .inl (sameStreams_drop s o sub).given
  | poll p =>
    obtain ⟨-, hs⟩ := Option.ite_none_right_eq_some.mp hs
    unfold HubSys.poll at hs
    dsimp only at hs
    split at hs <;> cases hs <;> exact .inl rfl
  | read p value =>
    obtain ⟨-, hs⟩ := Option.ite_none_right_eq_some.mp hs
    obtain ⟨-, hs⟩ := Option.ite_none_right_eq_some.mp hs
    obtain rfl := Option.some.inj hs
    exact .inl rfl
  | waitNext o ret =>
    obtain ⟨sub, -, hs⟩ := Option.bind_eq_some_iff.mp hs
    obtain ⟨p, -, hs⟩ := Option.bind_eq_some_iff.mp hs
    obtain ⟨-, hs⟩ := Option.ite_none_right_eq_some.mp hs
    obtain rfl := Option.some.inj hs
    refine .inl ?_
    unfold HubSys.waitNext
    dsimp only
    split <;> rfl

/-- Whoever finds a poller asked for a path like its own, and so for the same. -/
theorem Plain.keptApart {e : HubEvent} (hplain : Plain s e) (hinv : HubInv s) (h : StreamInv s)
    (hgiven : ∀ g ∈ s.given, 0x1F ∉ g.1.path) : KeptApart s e := by
  cases e with
  | subscribe t readFn =>
    intro p hp
    have hown := hgiven _ (h.given p (hinv.started _ p hp))
    exact StreamId.key_injective hown hplain (hinv.key _ p hp)
  | poll p => exact hplain
  | make => trivial
  | moveConstruct src => trivial
  | moveAssign dst src => trivial
  | destroy o => trivial
  | read p value => trivial
  | waitNext o ret => trivial

/-- Streams whose keys tell them apart are kept apart. -/
theorem keptApart_of_plain {es : List HubEvent}
    (hplain : runs.Always (fun s e _ => Plain s e) es s) :
    runs.Always (fun s e _ => KeptApart s e) es s := by
  have hinv : ∀ {es s}, runs.Hist es s → runs.Always (fun s e _ => Plain s e) es s →
      (HubInv s ∧ StreamInv s) ∧ ∀ g ∈ s.given, 0x1F ∉ g.1.path := by
    intro es s h hplain
    refine Lts.Always.induct
      (I := fun s => (HubInv s ∧ StreamInv s) ∧ ∀ g ∈ s.given, 0x1F ∉ g.1.path) ?_ ?_ h hplain
    · rintro s rfl
      exact ⟨⟨hubInv_init, streamInv_init⟩, fun _ hg => nomatch hg⟩
    · rintro s e s' ⟨⟨hinv, hstream⟩, hgiven⟩ hs hP
      refine ⟨⟨hinv.next hs, hstream.next hinv hs (hP.keptApart hinv hstream hgiven)⟩, ?_⟩
      intro g hg
      rcases given_next hs with heq | ⟨t, readFn, rfl, heq⟩
      · exact hgiven g (heq ▸ hg)
      · rw [heq] at hg
        rcases List.mem_append.mp hg with hg | hg
        · exact hgiven g hg
        · rw [List.mem_singleton.mp hg]
          exact hP
  intro es₁ e es₂ s₁ s₂ hes h₁ hs hr
  obtain ⟨⟨hinv₁, hstream₁⟩, hgiven₁⟩ := hinv h₁ (hplain.before hes hs hr)
  exact (hplain es₁ e es₂ s₁ s₂ hes h₁ hs hr).keptApart hinv₁ hstream₁ hgiven₁

end

/-- **Each gets its own values, newer and newer**, while joined keys are told apart. -/
theorem isolated_of_keptApart {es : List HubEvent} {s : HubSys} (h : runs.Hist es s)
    (hapart : runs.Always (fun s e _ => KeptApart s e) es s) :
    runs.Always HandsOwn es s ∧ ∀ i, (s.observed i).Pairwise (· < ·) := by
  refine ⟨?_, (streamInv_of_hist h hapart).2.increasing⟩
  intro es₁ e es₂ s₁ s₂ hes h₁ hs hr
  exact (streamInv_of_hist h₁ (hapart.before hes hs hr)).2.handsOwn hs

/-- The same asked for twice, and something else. -/
def apart : List HubEvent :=
  [.subscribe ⟨str "ecu", str "rpm", 1000⟩ 0, .subscribe ⟨str "ecu", str "rpm", 1000⟩ 1,
    .subscribe ⟨str "ecu", str "rpm", 500⟩ 2, .poll 0, .read 0 (str "7"), .poll 0,
    .waitNext 1 (some (str "7")), .waitNext 2 none]

/-- Two streams of one entity. -/
theorem isolated_apart : ∃ s, runs.Hist apart s ∧ s.observed 1 = [1] ∧
    runs.Always HandsOwn apart s ∧ ∀ i, (s.observed i).Pairwise (· < ·) := by
  have hrun : ∃ s, runs.Hist apart s ∧ s.observed 1 = [1] :=
    Lts.exists_hist_of_any rfl (by decide +kernel)
  have hapart : ∀ s, runs.Always (fun s e _ => KeptApart s e) apart s := by
    intro s
    refine Lts.Always.of_along ?_
    rintro _ rfl
    exact Lts.along_of_checkRun (by decide +kernel)
  obtain ⟨s, h, hs⟩ := hrun
  exact ⟨s, h, hs, isolated_of_keptApart h (hapart s)⟩

/-- `b` of `a`'s part and `c`, or `a` and `b`'s `c`: both join to one key. -/
def joinedAlike : List HubEvent :=
  [.subscribe ⟨str "a" ++ 0x1F :: str "b", str "c", 1000⟩ 0,
    .subscribe ⟨str "a", str "b" ++ 0x1F :: str "c", 1000⟩ 1,
    .poll 0, .read 0 (str "7"), .poll 0]

/-- One of two streams under the same key hands out what the other reads. -/
theorem value_of_another : ∃ s, runs.Hist (joinedAlike ++ [.waitNext 1 (some (str "7"))]) s ∧
    ¬ runs.Always HandsOwn (joinedAlike ++ [.waitNext 1 (some (str "7"))]) s := by
  have hrun : ∃ s, runs.Hist joinedAlike s ∧
      ((s.objects 1).map (·.stream) = some ⟨str "a", str "b" ++ 0x1F :: str "c", 1000⟩ ∧
        s.given = [(⟨str "a" ++ 0x1F :: str "b", str "c", 1000⟩, 0),
          (⟨str "a", str "b" ++ 0x1F :: str "c", 1000⟩, 1)] ∧
        s.produced = [(0, str "7")] ∧ (s.next (.waitNext 1 (some (str "7")))).isSome = true) :=
    Lts.exists_hist_of_any rfl (by decide +kernel)
  obtain ⟨s, h, hstream, hgiven, hproduced, hnext⟩ := hrun
  obtain ⟨s', hs'⟩ := Option.isSome_iff_exists.mp hnext
  refine ⟨s', Lts.hist_concat h hs', Lts.not_always_of_last h hs' ?_⟩
  intro hown
  obtain ⟨sub, readFn, hsub, hfrom, hof⟩ := hown 1 _ rfl
  rw [hsub] at hstream
  have hstream : sub.stream = _ := Option.some.inj hstream
  rw [hstream, hgiven] at hfrom
  rw [hproduced] at hof
  obtain ⟨rfl, -⟩ := Prod.mk.inj (List.mem_singleton.mp hof)
  revert hfrom
  decide +kernel

end HubSys

end Sovd
