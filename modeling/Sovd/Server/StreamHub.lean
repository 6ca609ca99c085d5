import Sovd.Bytes
import Sovd.Lib.Lts
import Sovd.Lib.RefCount

/-!
# `StreamHub` (`server/src/stream_hub.cpp`)

Who watches the same data point at the same cadence shares one poller: a thread that
reads the value, publishes it under the next version, and sleeps. A `Subscription` is a
share of a poller. It is an object that can be moved, so the share it stands for can
be in one object now and in another later, and an object that was moved from stands for
none. The hub counts the shares of each key and stops a poller with its last.

`HubInv` is the invariant: the shares of a key are as many as its poller counts, and
each poller that was started is in the table with its key or has been stopped once.
The library's `RefCount.holders` is the number of shares; every operation on objects is
an update of what one of them holds, or two.

Mirroring notes vs the C++:
- A step is what happens under `map_mtx_`, or under a poller's `mtx`, with the assignments
  to an object that go with it, which only its owner touches.
- `release` has done its work once it leaves `map_mtx_`. The thread it joins finds
  `stop` set whenever it next takes its lock, and publishes nothing more.
- A `shared_ptr` to a poller is its number. A moved-from object keeps what the C++ leaves
  in it, and nothing reads that.
- Starting a thread succeeds, and the count does not overflow; a version is 64 bits.
- `stream`, `number`, `stops`, `released`, `given`, `produced` and `observed` are ghosts.
-/

namespace Sovd

/-- What a subscription asks for. -/
structure StreamId where
  path : Bytes
  id : Bytes
  intervalMs : Int
  deriving DecidableEq

/-- The sharing key. -/
def StreamId.key (t : StreamId) : Bytes :=
  t.path ++ 0x1F :: (t.id ++ 0x1F :: intText t.intervalMs)

/-- What a poller's thread does next: look at `stop`, call `read_fn`, publish, sleep. -/
inductive PollerPc
  | top
  | reading
  | publish (value : Bytes)
  | waiting
  | returned
  deriving DecidableEq

/-- `PollerState`, the part of a stream that its subscribers share. -/
structure PollerState where
  latestJson : Bytes := []
  version : Nat := 0
  subscriberCount : Int := 0
  stop : Bool := false
  readFn : Nat := 0
  pc : PollerPc := .top
  /-- What its first subscription asked for. -/
  stream : StreamId
  deriving DecidableEq

/-- `Subscription`: a share of a poller, unless it was moved from. -/
structure Subscription where
  hub : Bool := false
  key : Bytes := []
  poller : Option Nat := none
  lastSeenVersion : Nat := 0
  /-- Which call of `subscribe` it stands for, and what was asked for there. -/
  number : Nat := 0
  stream : StreamId := ⟨[], [], 0⟩
  deriving DecidableEq

/-- What is left of an object that was moved from. -/
def Subscription.moved (sub : Subscription) : Subscription :=
  { sub with hub := false, key := [], poller := none }

/-- The hub, its pollers and the subscriptions there are. -/
structure HubSys where
  pollers : Bytes → Option Nat := fun _ => none
  heap : Nat → PollerState := fun _ => { stream := ⟨[], [], 0⟩ }
  started : Nat := 0
  objects : Nat → Option Subscription := fun _ => none
  created : Nat := 0
  /-- How many times each poller was stopped. -/
  stops : Nat → Nat := fun _ => 0
  subscribed : Nat := 0
  /-- How many times each subscription was released. -/
  released : Nat → Nat := fun _ => 0
  /-- The calls of `subscribe`, with their `read_fn`. -/
  given : List (StreamId × Nat) := []
  /-- What each `read_fn` has returned. -/
  produced : List (Nat × Bytes) := []
  /-- The versions each subscription was handed. -/
  observed : Nat → List Nat := fun _ => []

/-- What the owners of subscriptions, the pollers and the streams do. -/
inductive HubEvent
  | subscribe (stream : StreamId) (readFn : Nat)
  | make
  | moveConstruct (src : Nat)
  | moveAssign (dst src : Nat)
  | destroy (obj : Nat)
  | poll (p : Nat)
  | read (p : Nat) (value : Bytes)
  | waitNext (obj : Nat) (ret : Option Bytes)
  deriving DecidableEq

namespace HubSys

/-- An object is made. -/
def construct (s : HubSys) (sub : Subscription) : HubSys :=
  { s with objects := Function.update s.objects s.created (some sub), created := s.created + 1 }

/-- The object at `o` is set, or is gone. -/
def setObject (s : HubSys) (o : Nat) (sub : Option Subscription) : HubSys :=
  { s with objects := Function.update s.objects o sub }

/-- The poller `p` is set. -/
def setPoller (s : HubSys) (p : Nat) (ps : PollerState) : HubSys :=
  { s with heap := Function.update s.heap p ps }

/-- The poller that is set is the one that was given. -/
theorem setPoller_heap_self (s : HubSys) (p : Nat) (ps : PollerState) :
    (s.setPoller p ps).heap p = ps :=
  Function.update_self ..

/-- The other pollers are as they were. -/
theorem setPoller_heap_of_ne (s : HubSys) {p q : Nat} (ps : PollerState) (hq : q ≠ p) :
    (s.setPoller p ps).heap q = s.heap q :=
  Function.update_of_ne hq _ _

/-- `StreamHub::subscribe`: the first share of a stream starts its poller. -/
def subscribe (t : StreamId) (readFn : Nat) (s : HubSys) : HubSys :=
  let s := { s with given := s.given ++ [(t, readFn)], subscribed := s.subscribed + 1 }
  let share p : Subscription :=
    { hub := true, key := t.key, poller := some p, number := s.subscribed - 1, stream := t }
  match s.pollers t.key with
  | some p =>
    let ps := s.heap p
    (s.setPoller p { ps with subscriberCount := ps.subscriberCount + 1 }).construct (share p)
  | none =>
    let p := s.started
    { s.setPoller p { subscriberCount := 1, readFn := readFn, stream := t } with
      pollers := Function.update s.pollers t.key (some p), started := p + 1 }.construct (share p)

/-- `StreamHub::release`: with the last share the poller is stopped and leaves the table. -/
def release (key : Bytes) (s : HubSys) : HubSys :=
  match s.pollers key with
  | none => s
  | some p =>
    let ps := s.heap p
    let count := ps.subscriberCount - 1
    if count ≤ 0 then
      { s.setPoller p { ps with subscriberCount := count, stop := true } with
        pollers := Function.update s.pollers key none
        stops := Function.update s.stops p (s.stops p + 1) }
    else s.setPoller p { ps with subscriberCount := count }

/-- `if (hub_) hub_->release(key_)` -/
def releaseShare (sub : Subscription) (s : HubSys) : HubSys :=
  if sub.hub then
    { s.release sub.key with
      released := Function.update s.released sub.number (s.released sub.number + 1) }
  else s

/-- The move constructor: the new object takes the share over. -/
def moveConstruct (src : Nat) (sub : Subscription) (s : HubSys) : HubSys :=
  (s.construct sub).setObject src (some sub.moved)

/-- Move assignment gives up the share it had, and does nothing to itself. -/
def moveAssign (dst src : Nat) (old sub : Subscription) (s : HubSys) : HubSys :=
  if dst = src then s
  else ((s.releaseShare old).setObject dst (some sub)).setObject src (some sub.moved)

/-- The destructor gives up the share. -/
def destroy (o : Nat) (sub : Subscription) (s : HubSys) : HubSys :=
  (s.releaseShare sub).setObject o none

/-- One section of the poller's thread. -/
def poll (p : Nat) (s : HubSys) : Option HubSys :=
  let ps := s.heap p
  match ps.pc with
  | .top => some (s.setPoller p { ps with pc := if ps.stop then .returned else .reading })
  | .publish value =>
    some (s.setPoller p
      (if ps.stop then { ps with pc := .returned }
        else { ps with
          latestJson := value, version := (ps.version + 1) % 2 ^ 64, pc := .waiting }))
  | .waiting => some (s.setPoller p { ps with pc := if ps.stop then .returned else .top })
  | .reading => none
  | .returned => none

/-- `read_fn` returns `value`. -/
def read (p : Nat) (value : Bytes) (s : HubSys) : Option HubSys :=
  let ps := s.heap p
  if ps.pc = .reading then
    some { s.setPoller p { ps with pc := .publish value } with
      produced := s.produced ++ [(ps.readFn, value)] }
  else none

/-- `wait_next` returns: with a value if there is a new one, without where the time is up
or the poller was stopped. -/
def waitNext (o : Nat) (sub : Subscription) (p : Nat) (s : HubSys) : Option Bytes × HubSys :=
  let ps := s.heap p
  if ps.version = sub.lastSeenVersion ∨ ps.stop then (none, s)
  else
    (some ps.latestJson,
      { s.setObject o (some { sub with lastSeenVersion := ps.version }) with
        observed := Function.update s.observed sub.number (s.observed sub.number ++ [ps.version]) })

/-- What each event makes of the hub; `none`: it cannot happen. -/
def next (s : HubSys) : HubEvent → Option HubSys
  | .subscribe t readFn => some (s.subscribe t readFn)
  | .make => some (s.construct {})
  | .moveConstruct src => (s.objects src).map fun sub => s.moveConstruct src sub
  | .moveAssign dst src =>
    (s.objects dst).bind fun old => (s.objects src).map fun sub => s.moveAssign dst src old sub
  | .destroy o => (s.objects o).map fun sub => s.destroy o sub
  | .poll p => if p < s.started then s.poll p else none
  | .read p value => if p < s.started then s.read p value else none
  | .waitNext o ret =>
    (s.objects o).bind fun sub => sub.poller.bind fun p =>
      if (s.waitNext o sub p).1 = ret then some (s.waitNext o sub p).2 else none

/-- Every history of the hub. -/
def runs : Lts HubSys HubEvent := Lts.ofFn (· = {}) next

/-! ## Shares -/

/-- The key an object holds a share of. -/
def heldKey (sub : Option Subscription) : Option Bytes :=
  sub.bind fun sub => if sub.hub then some sub.key else none

/-- The stream that an object has a share of. -/
def held (s : HubSys) (o : Nat) : Option Bytes := heldKey (s.objects o)

/-- How many live subscriptions hold `key`. -/
def shares (s : HubSys) (key : Bytes) : Nat := RefCount.holders s.created s.held key

/-- What holds of the hub in every history. -/
structure HubInv (s : HubSys) : Prop where
  unborn : ∀ o, s.created ≤ o → s.objects o = none
  share : ∀ o sub, s.objects o = some sub → sub.hub = true →
    ∃ p, s.pollers sub.key = some p ∧ sub.poller = some p
  started : ∀ key p, s.pollers key = some p → p < s.started
  key : ∀ key p, s.pollers key = some p → (s.heap p).stream.key = key
  running : ∀ key p, s.pollers key = some p → (s.heap p).stop = false ∧ s.stops p = 0
  count : ∀ key p, s.pollers key = some p →
    (s.heap p).subscriberCount = s.shares key ∧ 0 < s.shares key
  stopped : ∀ p, p < s.started → s.pollers (s.heap p).stream.key = some p ∨
    ((s.heap p).stop = true ∧ s.stops p = 1)
  unstarted : ∀ p, s.started ≤ p → s.stops p = 0
  number : ∀ o sub, s.objects o = some sub → sub.hub = true →
    sub.number < s.subscribed ∧ s.released sub.number = 0
  distinct : ∀ o o' sub sub', s.objects o = some sub → s.objects o' = some sub' →
    sub.hub = true → sub'.hub = true → sub.number = sub'.number → o = o'
  released : ∀ i, s.released i ≤ if i < s.subscribed then 1 else 0

/-- An object with a share holds its stream. -/
theorem held_live {s : HubSys} {o : Nat} {sub : Subscription} (h : s.objects o = some sub)
    (hlive : sub.hub = true) : s.held o = some sub.key := by
  rw [held, heldKey, h, Option.bind_some, if_pos hlive]

theorem held_dead {s : HubSys} {o : Nat} {sub : Subscription} (h : s.objects o = some sub)
    (hdead : ¬ sub.hub = true) : s.held o = none := by
  rw [held, heldKey, h, Option.bind_some, if_neg hdead]

/-- Who holds a stream is an object with a share of it. -/
theorem held_eq_some {s : HubSys} {o : Nat} {key : Bytes} (h : s.held o = some key) :
    ∃ sub, s.objects o = some sub ∧ sub.hub = true ∧ sub.key = key := by
  obtain ⟨sub, hsub, hkey⟩ := Option.bind_eq_some_iff.mp h
  obtain ⟨hlive, hkey⟩ := Option.ite_none_right_eq_some.mp hkey
  exact ⟨sub, hsub, hlive, Option.some.inj hkey⟩

/-- Setting an object changes what it holds, and nothing else. -/
theorem held_setObject (s : HubSys) (o : Nat) (v : Option Subscription) :
    (s.setObject o v).held = Function.update s.held o (heldKey v) := by
  funext x
  by_cases hx : x = o
  · rw [hx, Function.update_self]
    simp [held, setObject]
  · rw [Function.update_of_ne hx]
    simp [held, setObject, hx]

/-- Objects have numbers that were given out. -/
theorem HubInv.lt_created {s : HubSys} (h : HubInv s) {o : Nat} {sub : Subscription}
    (ho : s.objects o = some sub) : o < s.created := by
  refine not_le.mp fun hle => ?_
  rw [h.unborn o hle] at ho
  cases ho

/-! ## What an operation on objects keeps -/

/-- Two keys have two pollers. -/
theorem HubInv.poller_ne {s : HubSys} (h : HubInv s) {key key' : Bytes} {p p' : Nat}
    (hp : s.pollers key = some p) (hp' : s.pollers key' = some p') (hne : key ≠ key') :
    p ≠ p' := by
  intro heq
  apply hne
  rw [← h.key key p hp, heq, h.key key' p' hp']

/-- The same pollers, each for its stream and running or stopped as before. -/
structure SamePollers (s s' : HubSys) : Prop where
  pollers : s'.pollers = s.pollers
  stops : s'.stops = s.stops
  started : s'.started = s.started
  stream : ∀ q, (s'.heap q).stream = (s.heap q).stream
  stop : ∀ q, (s'.heap q).stop = (s.heap q).stop

/-- Of what the invariant says about the pollers only the counts are left to check. -/
theorem HubInv.of_samePollers {s s' : HubSys} (h : HubInv s) (hsame : SamePollers s s')
    (unborn : ∀ o, s'.created ≤ o → s'.objects o = none)
    (share : ∀ o sub, s'.objects o = some sub → sub.hub = true →
      ∃ p, s.pollers sub.key = some p ∧ sub.poller = some p)
    (count : ∀ key p, s.pollers key = some p →
      (s'.heap p).subscriberCount = s'.shares key ∧ 0 < s'.shares key)
    (number : ∀ o sub, s'.objects o = some sub → sub.hub = true →
      sub.number < s'.subscribed ∧ s'.released sub.number = 0)
    (distinct : ∀ o o' sub sub', s'.objects o = some sub → s'.objects o' = some sub' →
      sub.hub = true → sub'.hub = true → sub.number = sub'.number → o = o')
    (once : ∀ i, s'.released i ≤ if i < s'.subscribed then 1 else 0) : HubInv s' := by
  refine ⟨unborn, ?_, ?_, ?_, ?_, ?_, ?_, ?_, number, distinct, once⟩
  · rw [hsame.pollers]
    exact share
  · rw [hsame.pollers, hsame.started]
    exact h.started
  · intro key q hq
    rw [hsame.pollers] at hq
    rw [hsame.stream]
    exact h.key key q hq
  · intro key q hq
    rw [hsame.pollers] at hq
    rw [hsame.stop, hsame.stops]
    exact h.running key q hq
  · rw [hsame.pollers]
    exact count
  · intro q hq
    rw [hsame.started] at hq
    rw [hsame.pollers, hsame.stream, hsame.stop, hsame.stops]
    exact h.stopped q hq
  · rw [hsame.started, hsame.stops]
    exact h.unstarted

/-- Whatever a poller is replaced by that is for the same stream and stopped or not as it was. -/
theorem SamePollers.setPoller (s : HubSys) {p : Nat} {ps : PollerState}
    (hstream : ps.stream = (s.heap p).stream) (hstop : ps.stop = (s.heap p).stop) :
    SamePollers s (s.setPoller p ps) := by
  refine ⟨rfl, rfl, rfl, ?_, ?_⟩
  · intro q
    by_cases hq : q = p
    · rw [hq, HubSys.setPoller_heap_self, hstream]
    · rw [HubSys.setPoller_heap_of_ne s ps hq]
  · intro q
    by_cases hq : q = p
    · rw [hq, HubSys.setPoller_heap_self, hstop]
    · rw [HubSys.setPoller_heap_of_ne s ps hq]

/-- The poller's thread touches nothing that the shares are about. -/
theorem HubInv.setPoller {s : HubSys} (h : HubInv s) {p : Nat} {ps : PollerState}
    (hstream : ps.stream = (s.heap p).stream) (hstop : ps.stop = (s.heap p).stop)
    (hcount : ps.subscriberCount = (s.heap p).subscriberCount) : HubInv (s.setPoller p ps) := by
  apply h.of_samePollers (.setPoller s hstream hstop) h.unborn h.share _ h.number h.distinct
    h.released
  intro key q hq
  have hsame : ((s.setPoller p ps).heap q).subscriberCount = (s.heap q).subscriberCount := by
    by_cases hqp : q = p
    · rw [hqp, HubSys.setPoller_heap_self, hcount]
    · rw [HubSys.setPoller_heap_of_ne s ps hqp]
  rw [hsame]
  exact h.count key q hq

/-- An object that holds nothing. -/
theorem HubInv.construct {s : HubSys} (h : HubInv s) : HubInv (s.construct {}) := by
  have hobjects : ∀ o sub, (s.construct {}).objects o = some sub → sub.hub = true →
      s.objects o = some sub := by
    intro o sub ho hlive
    by_cases hnew : o = s.created
    · rw [hnew] at ho
      obtain rfl : ({} : Subscription) = sub := by simpa [HubSys.construct] using ho
      cases hlive
    · simpa [HubSys.construct, hnew] using ho
  have hshares : ∀ key, (s.construct {}).shares key = s.shares key := by
    intro key
    have hnone : s.held s.created = none := by
      rw [held, h.unborn _ le_rfl]
      rfl
    have hheld : (s.construct {}).held = Function.update s.held s.created none :=
      held_setObject s s.created (some {})
    change RefCount.holders (s.created + 1) (s.construct {}).held key = _
    rw [hheld, RefCount.holders_new hnone, if_neg (by simp), Nat.add_zero, shares]
  refine ⟨?_, fun o sub ho hl => h.share o sub (hobjects o sub ho hl) hl, h.started, h.key,
    h.running, ?_, h.stopped, h.unstarted,
    fun o sub ho hl => h.number o sub (hobjects o sub ho hl) hl,
    ?_, h.released⟩
  · intro o ho
    have hne : o ≠ s.created := fun heq => absurd ho (by simp [HubSys.construct, heq])
    have hle : s.created ≤ o := (Nat.le_succ _).trans ho
    simpa [HubSys.construct, hne] using h.unborn o hle
  · intro key p hp
    rw [hshares]
    exact h.count key p hp
  · intro o o' sub sub' ho ho' hl hl' hnum
    exact h.distinct o o' sub sub' (hobjects o sub ho hl) (hobjects o' sub' ho' hl') hl hl' hnum

/-- What `sub`, in the object `src`, stands for is in the object `dst` from now on. -/
def transfer (dst src : Nat) (sub : Subscription) (s : HubSys) : HubSys :=
  (s.setObject dst (some sub)).setObject src (some sub.moved)

/-- A share that is moved is still one share. -/
theorem transfer_shares {s : HubSys} (h : HubInv s) {dst src : Nat} {sub : Subscription}
    (hdst : dst < s.created) (hfree : s.held dst = none) (hsrc : s.objects src = some sub)
    (hne : dst ≠ src) (key : Bytes) : (s.transfer dst src sub).shares key = s.shares key := by
  have hheld : (s.transfer dst src sub).held =
      Function.update (Function.update s.held dst (s.held src)) src none := by
    rw [HubSys.transfer, held_setObject, held_setObject]
    have hkey : s.held src = heldKey (some sub) := by rw [held, hsrc]
    rw [hkey]
    rfl
  change RefCount.holders s.created _ key = _
  rw [hheld]
  exact RefCount.holders_move hdst (h.lt_created hsrc) hne hfree

/-- A share goes from the object `src` to the object `dst`, which held none. -/
theorem HubInv.transfer {s : HubSys} (h : HubInv s) {dst src : Nat} {sub : Subscription}
    (hdst : dst < s.created) (hfree : s.held dst = none) (hsrc : s.objects src = some sub)
    (hne : dst ≠ src) :
    HubInv (s.transfer dst src sub) := by
  -- a live share after the transfer was one before: at `src` if it is now at `dst`
  have hobjects : ∀ o sub', (s.transfer dst src sub).objects o = some sub' → sub'.hub = true →
      ∃ o', s.objects o' = some sub' ∧ ((o = dst ∧ o' = src) ∨ (o ≠ dst ∧ o ≠ src ∧ o' = o)) := by
    intro o sub' ho hlive
    by_cases hosrc : o = src
    · rw [hosrc] at ho
      obtain rfl : sub.moved = sub' := by simpa [HubSys.transfer, setObject] using ho
      cases hlive
    · by_cases hodst : o = dst
      · rw [hodst] at ho
        obtain rfl : sub = sub' := by simpa [HubSys.transfer, setObject, hne] using ho
        exact ⟨src, hsrc, .inl ⟨hodst, rfl⟩⟩
      · exact ⟨o, by simpa [HubSys.transfer, setObject, hosrc, hodst] using ho,
          .inr ⟨hodst, hosrc, rfl⟩⟩
  refine ⟨?_, ?_, h.started, h.key, h.running, ?_, h.stopped, h.unstarted, ?_, ?_, h.released⟩
  · intro o ho
    have hodst : o ≠ dst := fun heq => absurd hdst (not_lt.mpr (heq ▸ ho))
    have hosrc : o ≠ src := fun heq => absurd (h.lt_created hsrc) (not_lt.mpr (heq ▸ ho))
    simpa [HubSys.transfer, setObject, hodst, hosrc] using h.unborn o ho
  · intro o sub' ho hlive
    obtain ⟨o', ho', -⟩ := hobjects o sub' ho hlive
    exact h.share o' sub' ho' hlive
  · intro key p hp
    rw [transfer_shares h hdst hfree hsrc hne]
    exact h.count key p hp
  · intro o sub' ho hlive
    obtain ⟨o', ho', -⟩ := hobjects o sub' ho hlive
    exact h.number o' sub' ho' hlive
  · intro o₁ o₂ sub₁ sub₂ ho₁ ho₂ hl₁ hl₂ hnum
    obtain ⟨o₁', ho₁', hcase₁⟩ := hobjects o₁ sub₁ ho₁ hl₁
    obtain ⟨o₂', ho₂', hcase₂⟩ := hobjects o₂ sub₂ ho₂ hl₂
    have heq := h.distinct o₁' o₂' sub₁ sub₂ ho₁' ho₂' hl₁ hl₂ hnum
    -- two objects with one number are one, before as after
    rcases hcase₁ with ⟨rfl, rfl⟩ | ⟨_, hs₁, rfl⟩ <;> rcases hcase₂ with ⟨rfl, rfl⟩ | ⟨_, hs₂, rfl⟩
    · rfl
    · exact absurd heq.symm hs₂
    · exact absurd heq hs₁
    · exact heq

/-- What releasing a share of a key in the table does. -/
theorem release_eq {s : HubSys} {key : Bytes} {p : Nat} (hp : s.pollers key = some p) :
    s.release key =
      if (s.heap p).subscriberCount - 1 ≤ 0 then
        { s.setPoller p { s.heap p with
            subscriberCount := (s.heap p).subscriberCount - 1, stop := true } with
          pollers := Function.update s.pollers key none
          stops := Function.update s.stops p (s.stops p + 1) }
      else s.setPoller p { s.heap p with subscriberCount := (s.heap p).subscriberCount - 1 } := by
  unfold release
  rw [hp]

/-- An object gives up its share, if it has one. -/
def drop (o : Nat) (sub : Subscription) (s : HubSys) : HubSys :=
  (s.releaseShare sub).setObject o none

/-- An object without a share gives up nothing. -/
theorem drop_dead {s : HubSys} {o : Nat} {sub : Subscription} (hdead : ¬ sub.hub = true) :
    s.drop o sub = s.setObject o none := by
  rw [drop, releaseShare, if_neg hdead]

/-- Its end keeps the invariant. -/
theorem HubInv.drop_dead {s : HubSys} (h : HubInv s) {o : Nat} {sub : Subscription}
    (ho : s.objects o = some sub) (hdead : ¬ sub.hub = true) : HubInv (s.drop o sub) := by
  rw [HubSys.drop_dead hdead]
  have hobjects : ∀ x sub', (s.setObject o none).objects x = some sub' →
      s.objects x = some sub' := by
    intro x sub' hx
    by_cases hxo : x = o
    · rw [hxo] at hx
      simp [setObject] at hx
    · simpa [setObject, hxo] using hx
  have hheld : (s.setObject o none).held = s.held := by
    rw [held_setObject]
    exact Function.update_eq_self_iff.mpr (held_dead ho hdead).symm
  refine ⟨?_, fun x sub' hx => h.share x sub' (hobjects x sub' hx), h.started, h.key, h.running,
    ?_, h.stopped, h.unstarted, fun x sub' hx => h.number x sub' (hobjects x sub' hx), ?_,
    h.released⟩
  · intro x hx
    by_cases hxo : x = o
    · rw [hxo]
      simp [setObject]
    · simpa [setObject, hxo] using h.unborn x hx
  · intro key p hp
    rw [shares, hheld]
    exact h.count key p hp
  · intro x x' sub₁ sub₂ hx hx'
    exact h.distinct x x' sub₁ sub₂ (hobjects x sub₁ hx) (hobjects x' sub₂ hx')

/-- A release leaves the objects and all counts as they are. -/
theorem release_objects (s : HubSys) (key : Bytes) :
    (s.release key).objects = s.objects ∧ (s.release key).created = s.created ∧
      (s.release key).subscribed = s.subscribed ∧ (s.release key).started = s.started ∧
      (s.release key).released = s.released := by
  unfold release
  split
  next => exact ⟨rfl, rfl, rfl, rfl, rfl⟩
  next =>
    dsimp only
    split <;> exact ⟨rfl, rfl, rfl, rfl, rfl⟩

section

variable {s : HubSys} {o : Nat} {sub : Subscription}

/-- The object that ends is gone, and no other. -/
theorem drop_objects_eq (s : HubSys) (o : Nat) (sub : Subscription) :
    (s.drop o sub).objects = Function.update s.objects o none := by
  unfold drop releaseShare
  split
  · exact congrArg (Function.update · o none) (release_objects s sub.key).1
  · rfl

/-- Every object that is left was there before. -/
theorem drop_objects {x : Nat} {sub' : Subscription} (hx : (s.drop o sub).objects x = some sub') :
    x ≠ o ∧ s.objects x = some sub' := by
  rw [drop_objects_eq] at hx
  by_cases hxo : x = o
  · rw [hxo, Function.update_self] at hx
    cases hx
  · exact ⟨hxo, by rwa [Function.update_of_ne hxo] at hx⟩

theorem drop_created (hlive : sub.hub = true) : (s.drop o sub).created = s.created := by
  unfold drop releaseShare
  rw [if_pos hlive]
  exact (release_objects s sub.key).2.1

/-- One share less of the key. -/
theorem drop_shares (h : HubInv s) (ho : s.objects o = some sub) (hlive : sub.hub = true)
    (key : Bytes) :
    (s.drop o sub).shares key + (if sub.key = key then 1 else 0) = s.shares key := by
  have hheld : (s.drop o sub).held = Function.update s.held o none := by
    funext x
    rw [held, drop_objects_eq]
    by_cases hxo : x = o
    · rw [hxo, Function.update_self, Function.update_self]
      rfl
    · rw [Function.update_of_ne hxo, Function.update_of_ne hxo]
      rfl
  have hupdate := RefCount.holders_update (k := key) s.held (h.lt_created ho) none
  rw [held_live ho hlive] at hupdate
  rw [shares, drop_created hlive, hheld, shares]
  simpa using hupdate

/-- The subscription of the share is given up once more. -/
theorem drop_released (hlive : sub.hub = true) :
    (s.drop o sub).released =
      Function.update s.released sub.number (s.released sub.number + 1) := by
  unfold drop releaseShare
  rw [if_pos hlive]
  rfl

theorem drop_subscribed (hlive : sub.hub = true) : (s.drop o sub).subscribed = s.subscribed := by
  unfold drop releaseShare
  rw [if_pos hlive]
  exact (release_objects s sub.key).2.2.1

/-- No object comes into being. -/
theorem HubInv.drop_unborn (h : HubInv s) (ho : s.objects o = some sub) (hlive : sub.hub = true)
    (x : Nat) (hx : (s.drop o sub).created ≤ x) : (s.drop o sub).objects x = none := by
  rw [drop_created hlive] at hx
  have hne : x ≠ o := fun heq => absurd (h.lt_created ho) (not_lt.mpr (heq ▸ hx))
  rw [drop_objects_eq, Function.update_of_ne hne]
  exact h.unborn x hx

/-- The shares that are left have numbers of their own. -/
theorem drop_distinct (h : HubInv s) (x x' : Nat) (sub₁ sub₂ : Subscription)
    (hx : (s.drop o sub).objects x = some sub₁) (hx' : (s.drop o sub).objects x' = some sub₂) :
    sub₁.hub = true → sub₂.hub = true → sub₁.number = sub₂.number → x = x' :=
  h.distinct x x' sub₁ sub₂ (drop_objects hx).2 (drop_objects hx').2

/-- The parts of the invariant that the table is not in. -/
theorem HubInv.drop_number (h : HubInv s) (ho : s.objects o = some sub) (hlive : sub.hub = true)
    {x : Nat} {sub' : Subscription} (hx : (s.drop o sub).objects x = some sub')
    (hl : sub'.hub = true) :
    sub'.number < (s.drop o sub).subscribed ∧ (s.drop o sub).released sub'.number = 0 := by
  obtain ⟨hxo, hx⟩ := drop_objects hx
  obtain ⟨hlt, hzero⟩ := h.number x sub' hx hl
  have hne : sub'.number ≠ sub.number :=
    fun heq => hxo (h.distinct x o sub' sub hx ho hl hlive heq)
  rw [drop_subscribed hlive, drop_released hlive, Function.update_of_ne hne]
  exact ⟨hlt, hzero⟩

/-- The share that is given up was given up never before. -/
theorem HubInv.drop_once (h : HubInv s) (ho : s.objects o = some sub) (hlive : sub.hub = true)
    (i : Nat) :
    (s.drop o sub).released i ≤ if i < (s.drop o sub).subscribed then 1 else 0 := by
  rw [drop_released hlive, drop_subscribed hlive]
  by_cases hi : i = sub.number
  · obtain ⟨hlt, hzero⟩ := h.number o sub ho hlive
    rw [hi, Function.update_self, hzero, if_pos hlt]
  · rw [Function.update_of_ne hi]
    exact h.released i

/-- The last share of a key stops its poller. -/
theorem drop_last (h : HubInv s) (hlive : sub.hub = true) {p : Nat}
    (hp : s.pollers sub.key = some p) (hone : s.shares sub.key = 1) :
    s.drop o sub =
      { s.setPoller p { s.heap p with subscriberCount := 0, stop := true } with
        pollers := Function.update s.pollers sub.key none
        stops := Function.update s.stops p 1
        released := Function.update s.released sub.number (s.released sub.number + 1)
        objects := Function.update s.objects o none } := by
  have hcount : (s.heap p).subscriberCount - 1 = 0 := by
    rw [(h.count sub.key p hp).1, hone]
    rfl
  rw [drop, releaseShare, if_pos hlive, release_eq hp, hcount, if_pos le_rfl,
    (h.running sub.key p hp).2]
  rfl

/-- A share that is not the last one is one less, and the poller goes on. -/
theorem drop_shared (h : HubInv s) (hlive : sub.hub = true) {p : Nat}
    (hp : s.pollers sub.key = some p) (hmore : s.shares sub.key ≠ 1) :
    s.drop o sub =
      { s.setPoller p { s.heap p with subscriberCount := (s.heap p).subscriberCount - 1 } with
        released := Function.update s.released sub.number (s.released sub.number + 1)
        objects := Function.update s.objects o none } := by
  obtain ⟨hcount, hpos⟩ := h.count sub.key p hp
  have hleft : ¬ (s.heap p).subscriberCount - 1 ≤ 0 := by omega
  rw [drop, releaseShare, if_pos hlive, release_eq hp, if_neg hleft]
  rfl

/-- A key with one share is the key of that share only. -/
theorem HubInv.key_ne_of_last (h : HubInv s) (ho : s.objects o = some sub)
    (hlive : sub.hub = true) (hone : s.shares sub.key = 1) {x : Nat} {sub' : Subscription}
    (hx : s.objects x = some sub') (hl : sub'.hub = true) (hxo : x ≠ o) :
    sub'.key ≠ sub.key := by
  intro hk
  have hleft := drop_shares h ho hlive sub.key
  rw [if_pos rfl, hone] at hleft
  have hpos : 0 < (s.drop o sub).shares sub.key := by
    refine RefCount.holders_pos_iff.mpr ⟨x, ?_, ?_⟩
    · rw [drop_created hlive]
      exact h.lt_created hx
    · rw [← hk]
      refine held_live ?_ hl
      rw [drop_objects_eq, Function.update_of_ne hxo]
      exact hx
  omega

/-- Releasing the last share of a key. -/
theorem HubInv.drop_last (h : HubInv s) (ho : s.objects o = some sub) (hlive : sub.hub = true)
    {p : Nat} (hp : s.pollers sub.key = some p) (hone : s.shares sub.key = 1) :
    HubInv (s.drop o sub) := by
  have hshares := drop_shares h ho hlive
  have heq := HubSys.drop_last (o := o) h hlive hp hone
  have hstarted := h.started sub.key p hp
  have hpollers : (s.drop o sub).pollers = Function.update s.pollers sub.key none := by
    rw [heq]
  -- the other keys, and the other pollers, stay as they are
  have htable : ∀ key q, (s.drop o sub).pollers key = some q →
      key ≠ sub.key ∧ q ≠ p ∧ s.pollers key = some q := by
    intro key q hq
    rw [hpollers] at hq
    by_cases hk : key = sub.key
    · rw [hk, Function.update_self] at hq
      cases hq
    · rw [Function.update_of_ne hk] at hq
      exact ⟨hk, h.poller_ne hq hp hk, hq⟩
  have hheap : ∀ q, q ≠ p → (s.drop o sub).heap q = s.heap q := by
    intro q hq
    rw [heq]
    exact Function.update_of_ne hq _ _
  have hstops : ∀ q, q ≠ p → (s.drop o sub).stops q = s.stops q := by
    intro q hq
    rw [heq]
    exact Function.update_of_ne hq _ _
  have hothers : (s.drop o sub).started = s.started := by
    rw [heq]
    rfl
  refine ⟨h.drop_unborn ho hlive, ?_, ?_, ?_, ?_, ?_, ?_, ?_,
    fun x sub' hx hl => h.drop_number ho hlive hx hl, drop_distinct h, h.drop_once ho hlive⟩
  · intro x sub' hx hl
    obtain ⟨hxo, hx⟩ := drop_objects hx
    obtain ⟨q, hq, hpoller⟩ := h.share x sub' hx hl
    have hk := h.key_ne_of_last ho hlive hone hx hl hxo
    refine ⟨q, ?_, hpoller⟩
    rw [hpollers, Function.update_of_ne hk]
    exact hq
  · intro key q hq
    rw [hothers]
    exact h.started key q (htable key q hq).2.2
  · intro key q hq
    obtain ⟨_, hqp, hq⟩ := htable key q hq
    rw [hheap q hqp]
    exact h.key key q hq
  · intro key q hq
    obtain ⟨_, hqp, hq⟩ := htable key q hq
    rw [hheap q hqp, hstops q hqp]
    exact h.running key q hq
  · intro key q hq
    obtain ⟨hk, hqp, hq⟩ := htable key q hq
    have hsame := hshares key
    rw [if_neg hk.symm, Nat.add_zero] at hsame
    rw [hheap q hqp, hsame]
    exact h.count key q hq
  · intro q hq
    by_cases hqp : q = p
    · refine .inr ?_
      rw [heq, hqp]
      simp [HubSys.setPoller]
    · rw [hheap q hqp, hstops q hqp]
      refine (h.stopped q (hothers ▸ hq)).imp_left fun hin => ?_
      have hk : (s.heap q).stream.key ≠ sub.key := by
        intro hk
        rw [hk, hp] at hin
        exact hqp (Option.some.inj hin).symm
      rw [hpollers, Function.update_of_ne hk]
      exact hin
  · intro q hq
    rw [hothers] at hq
    have hqp : q ≠ p := fun hqp => absurd hstarted (not_lt.mpr (hqp ▸ hq))
    rw [hstops q hqp]
    exact h.unstarted q hq

/-- Releasing a share of a key that others hold. -/
theorem HubInv.drop_shared (h : HubInv s) (ho : s.objects o = some sub) (hlive : sub.hub = true)
    {p : Nat} (hp : s.pollers sub.key = some p) (hmore : s.shares sub.key ≠ 1) :
    HubInv (s.drop o sub) := by
  have heq := HubSys.drop_shared (o := o) h hlive hp hmore
  have hself : (s.drop o sub).heap p =
      { s.heap p with subscriberCount := (s.heap p).subscriberCount - 1 } := by
    rw [heq]
    exact Function.update_self ..
  have hrest : ∀ q, q ≠ p → (s.drop o sub).heap q = s.heap q := by
    intro q hq
    rw [heq]
    exact Function.update_of_ne hq _ _
  have hsame : SamePollers s (s.drop o sub) := by
    have hset : SamePollers s (s.setPoller p
        { s.heap p with subscriberCount := (s.heap p).subscriberCount - 1 }) :=
      .setPoller s rfl rfl
    rw [heq]
    exact ⟨rfl, rfl, rfl, hset.stream, hset.stop⟩
  -- another share keeps the poller going
  apply h.of_samePollers hsame (h.drop_unborn ho hlive) _ _
    (fun x sub' hx hl => h.drop_number ho hlive hx hl) (drop_distinct h) (h.drop_once ho hlive)
  · intro x sub' hx hl
    exact h.share x sub' (drop_objects hx).2 hl
  · intro key q hq
    obtain ⟨hcount, hpos⟩ := h.count key q hq
    have hless := drop_shares h ho hlive key
    by_cases hk : key = sub.key
    · obtain rfl : p = q := by
        rw [hk, hp] at hq
        exact Option.some.inj hq
      rw [hself]
      rw [hk] at hcount hpos hless ⊢
      rw [if_pos rfl] at hless
      dsimp only
      omega
    · rw [if_neg (Ne.symm hk), Nat.add_zero] at hless
      rw [hrest q (h.poller_ne hq hp hk), hless]
      exact ⟨hcount, hpos⟩

/-- The end of any object keeps the invariant. -/
theorem HubInv.drop (h : HubInv s) (ho : s.objects o = some sub) : HubInv (s.drop o sub) := by
  by_cases hlive : sub.hub = true
  · obtain ⟨p, hp, -⟩ := h.share o sub ho hlive
    by_cases hone : s.shares sub.key = 1
    · exact h.drop_last ho hlive hp hone
    · exact h.drop_shared ho hlive hp hone
  · exact h.drop_dead ho hlive

end

/-! ## A subscription -/

section

variable {s : HubSys}

/-- The share `subscribe` returns, of the poller `p`. -/
def newShare (s : HubSys) (t : StreamId) (p : Nat) : Subscription :=
  { hub := true, key := t.key, poller := some p, number := s.subscribed, stream := t }

/-- Somebody watches already. -/
theorem subscribe_shared {t : StreamId} {p : Nat} (hp : s.pollers t.key = some p) (readFn : Nat) :
    s.subscribe t readFn =
      { s.setPoller p { s.heap p with subscriberCount := (s.heap p).subscriberCount + 1 } with
        given := s.given ++ [(t, readFn)]
        subscribed := s.subscribed + 1
        objects := Function.update s.objects s.created (some (s.newShare t p))
        created := s.created + 1 } := by
  unfold subscribe
  dsimp only
  rw [hp]
  rfl

/-- The first one starts a poller. -/
theorem subscribe_first {t : StreamId} (hnone : s.pollers t.key = none) (readFn : Nat) :
    s.subscribe t readFn =
      { s.setPoller s.started { subscriberCount := 1, readFn := readFn, stream := t } with
        pollers := Function.update s.pollers t.key (some s.started)
        started := s.started + 1
        given := s.given ++ [(t, readFn)]
        subscribed := s.subscribed + 1
        objects := Function.update s.objects s.created (some (s.newShare t s.started))
        created := s.created + 1 } := by
  unfold subscribe
  dsimp only
  rw [hnone]
  rfl

/-- What `subscribe` does to the objects, whichever poller the share is of. -/
structure Joined (s s' : HubSys) (t : StreamId) (p : Nat) : Prop where
  objects : s'.objects = Function.update s.objects s.created (some (s.newShare t p))
  created : s'.created = s.created + 1
  subscribed : s'.subscribed = s.subscribed + 1
  released : s'.released = s.released

namespace Joined

variable {s' : HubSys} {t : StreamId} {p : Nat}

/-- An object there is then is the new one, or was there before. -/
theorem objects_eq (hj : Joined s s' t p) {x : Nat} {sub : Subscription}
    (hx : s'.objects x = some sub) :
    (x = s.created ∧ sub = s.newShare t p) ∨ (x ≠ s.created ∧ s.objects x = some sub) := by
  rw [hj.objects] at hx
  by_cases hxc : x = s.created
  · rw [hxc, Function.update_self] at hx
    exact .inl ⟨hxc, (Option.some.inj hx).symm⟩
  · rw [Function.update_of_ne hxc] at hx
    exact .inr ⟨hxc, hx⟩

/-- One share more of the key. -/
theorem shares (hj : Joined s s' t p) (h : HubInv s) (key : Bytes) :
    s'.shares key = s.shares key + if t.key = key then 1 else 0 := by
  have hnone : s.held s.created = none := by
    rw [held, h.unborn _ le_rfl]
    rfl
  have hheld : s'.held = Function.update s.held s.created (some t.key) := by
    funext x
    rw [held, hj.objects]
    by_cases hx : x = s.created
    · rw [hx, Function.update_self, Function.update_self]
      rfl
    · rw [Function.update_of_ne hx, Function.update_of_ne hx]
      rfl
  rw [HubSys.shares, hj.created, hheld, RefCount.holders_new hnone, HubSys.shares]
  simp only [Option.some.injEq]

/-- The new object takes the next number. -/
theorem unborn (hj : Joined s s' t p) (h : HubInv s) (x : Nat) (hx : s'.created ≤ x) :
    s'.objects x = none := by
  rw [hj.created] at hx
  have hne : x ≠ s.created := by omega
  rw [hj.objects, Function.update_of_ne hne]
  exact h.unborn x (by omega)

/-- No share is one that was given up. -/
theorem number (hj : Joined s s' t p) (h : HubInv s) (x : Nat) (sub : Subscription)
    (hx : s'.objects x = some sub) (hl : sub.hub = true) :
    sub.number < s'.subscribed ∧ s'.released sub.number = 0 := by
  rw [hj.subscribed, hj.released]
  rcases hj.objects_eq hx with ⟨-, rfl⟩ | ⟨-, hx⟩
  · have hnew := h.released s.subscribed
    rw [if_neg (lt_irrefl _)] at hnew
    exact ⟨Nat.lt_succ_self _, Nat.le_zero.mp hnew⟩
  · obtain ⟨hlt, hzero⟩ := h.number x sub hx hl
    exact ⟨Nat.lt_succ_of_lt hlt, hzero⟩

/-- The new share has a number of its own. -/
theorem distinct (hj : Joined s s' t p) (h : HubInv s) (x x' : Nat) (sub sub' : Subscription)
    (hx : s'.objects x = some sub) (hx' : s'.objects x' = some sub') (hl : sub.hub = true)
    (hl' : sub'.hub = true) (hnum : sub.number = sub'.number) : x = x' := by
  have hold : ∀ y sub₁, s.objects y = some sub₁ → sub₁.hub = true →
      sub₁.number ≠ s.subscribed := fun y sub₁ hy hl₁ => (h.number y sub₁ hy hl₁).1.ne
  rcases hj.objects_eq hx with ⟨rfl, rfl⟩ | ⟨-, hx⟩ <;>
    rcases hj.objects_eq hx' with ⟨rfl, rfl⟩ | ⟨-, hx'⟩
  · rfl
  · exact absurd hnum.symm (hold x' sub' hx' hl')
  · exact absurd hnum (hold x sub hx hl)
  · exact h.distinct x x' sub sub' hx hx' hl hl' hnum

/-- Nothing is given up by it. -/
theorem once (hj : Joined s s' t p) (h : HubInv s) (i : Nat) :
    s'.released i ≤ if i < s'.subscribed then 1 else 0 := by
  rw [hj.released, hj.subscribed]
  have hi := h.released i
  split_ifs at hi ⊢ <;> omega

end Joined

/-- A further subscription keeps the invariant. -/
theorem HubInv.subscribe_shared (h : HubInv s) {t : StreamId} {p : Nat}
    (hp : s.pollers t.key = some p) (readFn : Nat) : HubInv (s.subscribe t readFn) := by
  have heq := HubSys.subscribe_shared hp readFn
  have hj : Joined s (s.subscribe t readFn) t p := by
    rw [heq]
    exact ⟨rfl, rfl, rfl, rfl⟩
  have hself : (s.subscribe t readFn).heap p =
      { s.heap p with subscriberCount := (s.heap p).subscriberCount + 1 } := by
    rw [heq]
    exact Function.update_self ..
  have hrest : ∀ q, q ≠ p → (s.subscribe t readFn).heap q = s.heap q := by
    intro q hq
    rw [heq]
    exact Function.update_of_ne hq _ _
  have hsame : SamePollers s (s.subscribe t readFn) := by
    have hset : SamePollers s (s.setPoller p
        { s.heap p with subscriberCount := (s.heap p).subscriberCount + 1 }) :=
      .setPoller s rfl rfl
    rw [heq]
    exact ⟨rfl, rfl, rfl, hset.stream, hset.stop⟩
  -- no poller starts or stops, so only shares and counts are left to see to
  apply h.of_samePollers hsame (hj.unborn h) _ _ (hj.number h) (hj.distinct h) (hj.once h)
  · intro x sub hx hl
    rcases hj.objects_eq hx with ⟨-, rfl⟩ | ⟨-, hx⟩
    · exact ⟨p, hp, rfl⟩
    · exact h.share x sub hx hl
  · intro key q hq
    obtain ⟨hcount, hpos⟩ := h.count key q hq
    rw [hj.shares h key]
    by_cases hk : t.key = key
    · obtain rfl : p = q := by
        rw [← hk, hp] at hq
        exact Option.some.inj hq
      rw [hself, if_pos hk]
      dsimp only
      omega
    · rw [hrest q (h.poller_ne hq hp (Ne.symm hk)), if_neg hk]
      exact ⟨hcount, hpos⟩

/-- Nobody holds a key that is not in the table. -/
theorem HubInv.shares_none (h : HubInv s) {key : Bytes} (hnone : s.pollers key = none) :
    s.shares key = 0 := by
  refine Nat.eq_zero_of_not_pos fun hpos => ?_
  obtain ⟨x, -, hx⟩ := RefCount.holders_pos_iff.mp hpos
  obtain ⟨sub, hsub, hl, rfl⟩ := held_eq_some hx
  obtain ⟨q, hq, -⟩ := h.share x sub hsub hl
  rw [hnone] at hq
  cases hq

/-- The subscription that starts the poller keeps it as well. -/
theorem HubInv.subscribe_first (h : HubInv s) {t : StreamId} (hnone : s.pollers t.key = none)
    (readFn : Nat) : HubInv (s.subscribe t readFn) := by
  have heq := HubSys.subscribe_first hnone readFn
  have hj : Joined s (s.subscribe t readFn) t s.started := by
    rw [heq]
    exact ⟨rfl, rfl, rfl, rfl⟩
  have hpollers : (s.subscribe t readFn).pollers =
      Function.update s.pollers t.key (some s.started) := by
    rw [heq]
  have hstops : (s.subscribe t readFn).stops = s.stops := by
    rw [heq]
    rfl
  have hstarted : (s.subscribe t readFn).started = s.started + 1 := by
    rw [heq]
  have hself : (s.subscribe t readFn).heap s.started =
      { subscriberCount := 1, readFn := readFn, stream := t } := by
    rw [heq]
    exact Function.update_self ..
  have hrest : ∀ q, q ≠ s.started → (s.subscribe t readFn).heap q = s.heap q := by
    intro q hq
    rw [heq]
    exact Function.update_of_ne hq _ _
  -- a poller in the table is the new one, or is there already
  have htable : ∀ key q, (s.subscribe t readFn).pollers key = some q →
      (key = t.key ∧ q = s.started) ∨
        (key ≠ t.key ∧ q ≠ s.started ∧ s.pollers key = some q) := by
    intro key q hq
    rw [hpollers] at hq
    by_cases hk : key = t.key
    · rw [hk, Function.update_self] at hq
      exact .inl ⟨hk, (Option.some.inj hq).symm⟩
    · rw [Function.update_of_ne hk] at hq
      exact .inr ⟨hk, (h.started key q hq).ne, hq⟩
  refine ⟨hj.unborn h, ?_, ?_, ?_, ?_, ?_, ?_, ?_, hj.number h, hj.distinct h, hj.once h⟩
  · intro x sub hx hl
    rw [hpollers]
    rcases hj.objects_eq hx with ⟨-, rfl⟩ | ⟨-, hx⟩
    · exact ⟨s.started, Function.update_self .., rfl⟩
    · obtain ⟨q, hq, hpoller⟩ := h.share x sub hx hl
      have hk : sub.key ≠ t.key := by
        intro hk
        rw [hk, hnone] at hq
        cases hq
      exact ⟨q, by rwa [Function.update_of_ne hk], hpoller⟩
  · intro key q hq
    rw [hstarted]
    rcases htable key q hq with ⟨-, rfl⟩ | ⟨-, -, hq⟩
    · exact Nat.lt_succ_self _
    · exact Nat.lt_succ_of_lt (h.started key q hq)
  · intro key q hq
    rcases htable key q hq with ⟨rfl, rfl⟩ | ⟨-, hqs, hq⟩
    · rw [hself]
    · rw [hrest q hqs]
      exact h.key key q hq
  · intro key q hq
    rw [hstops]
    rcases htable key q hq with ⟨-, rfl⟩ | ⟨-, hqs, hq⟩
    · rw [hself]
      exact ⟨rfl, h.unstarted _ le_rfl⟩
    · rw [hrest q hqs]
      exact h.running key q hq
  · intro key q hq
    rw [hj.shares h key]
    rcases htable key q hq with ⟨rfl, rfl⟩ | ⟨hk, hqs, hq⟩
    · rw [hself, h.shares_none hnone, if_pos rfl]
      exact ⟨rfl, Nat.one_pos⟩
    · rw [hrest q hqs, if_neg hk.symm]
      exact h.count key q hq
  · intro q hq
    rw [hpollers, hstops]
    by_cases hqs : q = s.started
    · rw [hqs, hself]
      exact .inl (Function.update_self ..)
    · rw [hrest q hqs]
      refine (h.stopped q (by omega)).imp_left fun hin => ?_
      have hk : (s.heap q).stream.key ≠ t.key := by
        intro hk
        rw [hk, hnone] at hin
        cases hin
      rw [Function.update_of_ne hk]
      exact hin
  · intro q hq
    rw [hstops]
    exact h.unstarted q (by omega)

/-- Every subscription keeps the invariant. -/
theorem HubInv.subscribe (h : HubInv s) (t : StreamId) (readFn : Nat) :
    HubInv (s.subscribe t readFn) := by
  rcases hp : s.pollers t.key with _ | p
  · exact h.subscribe_first hp readFn
  · exact h.subscribe_shared hp readFn

end

/-! ## The operations of the source -/

/-- Move construction makes an object, and hands the share to it. -/
theorem moveConstruct_eq (s : HubSys) (src : Nat) (sub : Subscription) :
    s.moveConstruct src sub = (s.construct {}).transfer s.created src sub := by
  unfold moveConstruct HubSys.transfer HubSys.construct setObject
  rw [Function.update_idem]

/-- Move assignment gives up the share the object had, and hands it the other. -/
theorem moveAssign_eq (s : HubSys) {dst src : Nat} (hne : dst ≠ src) (old sub : Subscription) :
    s.moveAssign dst src old sub = (s.drop dst old).transfer dst src sub := by
  unfold moveAssign HubSys.transfer drop setObject
  rw [if_neg hne, Function.update_idem]

section

variable {s s' : HubSys}

/-- A move into a new object keeps it. -/
theorem HubInv.moveConstruct (h : HubInv s) {src : Nat} {sub : Subscription}
    (hsrc : s.objects src = some sub) : HubInv (s.moveConstruct src sub) := by
  have hne : s.created ≠ src := (h.lt_created hsrc).ne'
  rw [moveConstruct_eq]
  refine h.construct.transfer (Nat.lt_succ_self _) ?_ ?_ hne
  · simp [held, heldKey, HubSys.construct]
  · simpa [HubSys.construct, hne.symm] using hsrc

/-- Once an object has given up its share it is free for another, which is still there. -/
theorem drop_free (h : HubInv s) {o x : Nat} {sub sub' : Subscription}
    (ho : s.objects o = some sub) (hx : s.objects x = some sub') (hne : o ≠ x) :
    o < (s.drop o sub).created ∧ (s.drop o sub).held o = none ∧
      (s.drop o sub).objects x = some sub' := by
  refine ⟨?_, ?_, ?_⟩
  · have hcreated : (s.drop o sub).created = s.created := by
      by_cases hlive : sub.hub = true
      · exact drop_created hlive
      · rw [HubSys.drop_dead hlive]
        rfl
    rw [hcreated]
    exact h.lt_created ho
  · rw [held, drop_objects_eq, Function.update_self]
    rfl
  · rw [drop_objects_eq, Function.update_of_ne hne.symm]
    exact hx

/-- A move into an object that had a share keeps it. -/
theorem HubInv.moveAssign (h : HubInv s) {dst src : Nat} {old sub : Subscription}
    (hdst : s.objects dst = some old) (hsrc : s.objects src = some sub) :
    HubInv (s.moveAssign dst src old sub) := by
  by_cases hne : dst = src
  · rw [HubSys.moveAssign, if_pos hne]
    exact h
  · obtain ⟨hlt, hfree, hsrc'⟩ := drop_free h hdst hsrc hne
    rw [moveAssign_eq s hne]
    exact (h.drop hdst).transfer hlt hfree hsrc' hne

/-- A poll keeps the invariant. -/
theorem HubInv.poll (h : HubInv s) {p : Nat} (hs : s.poll p = some s') : HubInv s' := by
  unfold HubSys.poll at hs
  dsimp only at hs
  split at hs
  next =>
    obtain rfl := Option.some.inj hs
    exact h.setPoller rfl rfl rfl
  next value _ =>
    obtain rfl := Option.some.inj hs
    split_ifs
    · exact h.setPoller rfl rfl rfl
    · exact h.setPoller rfl rfl rfl
  next =>
    obtain rfl := Option.some.inj hs
    exact h.setPoller rfl rfl rfl
  next => cases hs
  next => cases hs

/-- What a poll reads keeps the invariant. -/
theorem HubInv.read (h : HubInv s) {p : Nat} {value : Bytes} (hs : s.read p value = some s') :
    HubInv s' := by
  unfold HubSys.read at hs
  obtain ⟨-, hs⟩ := Option.ite_none_right_eq_some.mp hs
  obtain rfl := Option.some.inj hs
  have h' : HubInv (s.setPoller p { s.heap p with pc := .publish value }) :=
    h.setPoller rfl rfl rfl
  exact ⟨h'.unborn, h'.share, h'.started, h'.key, h'.running, h'.count, h'.stopped,
    h'.unstarted, h'.number, h'.distinct, h'.released⟩

/-- The version an object has seen is nothing the shares are about. -/
theorem HubInv.seen (h : HubInv s) {o : Nat} {sub : Subscription} (ho : s.objects o = some sub)
    (version : Nat) : HubInv (s.setObject o (some { sub with lastSeenVersion := version })) := by
  -- the version that was seen is no part of a share
  have hobjects : ∀ x sub',
      (s.setObject o (some { sub with lastSeenVersion := version })).objects x = some sub' →
      ∃ sub₀, s.objects x = some sub₀ ∧ sub'.hub = sub₀.hub ∧ sub'.key = sub₀.key ∧
        sub'.poller = sub₀.poller ∧ sub'.number = sub₀.number := by
    intro x sub' hx
    by_cases hxo : x = o
    · rw [hxo] at hx
      obtain rfl : { sub with lastSeenVersion := version } = sub' := by simpa [setObject] using hx
      exact ⟨sub, hxo ▸ ho, rfl, rfl, rfl, rfl⟩
    · exact ⟨sub', by simpa [setObject, hxo] using hx, rfl, rfl, rfl, rfl⟩
  have hheld : (s.setObject o (some { sub with lastSeenVersion := version })).held = s.held := by
    rw [held_setObject]
    refine Function.update_eq_self_iff.mpr ?_
    rw [held, ho]
    rfl
  refine ⟨?_, ?_, h.started, h.key, h.running, ?_, h.stopped, h.unstarted, ?_, ?_, h.released⟩
  · intro x hx
    have hne : x ≠ o := fun heq => absurd (h.lt_created ho) (not_lt.mpr (heq ▸ hx))
    simpa [setObject, hne] using h.unborn x hx
  · intro x sub' hx hl
    obtain ⟨sub₀, h₀, hhub, hkey, hpoller, -⟩ := hobjects x sub' hx
    rw [hkey, hpoller]
    exact h.share x sub₀ h₀ (hhub ▸ hl)
  · intro key p hp
    rw [shares, hheld]
    exact h.count key p hp
  · intro x sub' hx hl
    obtain ⟨sub₀, h₀, hhub, -, -, hnum⟩ := hobjects x sub' hx
    rw [hnum]
    exact h.number x sub₀ h₀ (hhub ▸ hl)
  · intro x x' sub₁ sub₂ hx hx' hl hl' hnum
    obtain ⟨sub₃, h₃, hhub₃, -, -, hnum₃⟩ := hobjects x sub₁ hx
    obtain ⟨sub₄, h₄, hhub₄, -, -, hnum₄⟩ := hobjects x' sub₂ hx'
    rw [hnum₃, hnum₄] at hnum
    exact h.distinct x x' sub₃ sub₄ h₃ h₄ (hhub₃ ▸ hl) (hhub₄ ▸ hl') hnum

/-- A stream that takes the next value keeps the invariant. -/
theorem HubInv.waitNext (h : HubInv s) {o p : Nat} {sub : Subscription}
    (ho : s.objects o = some sub) : HubInv (s.waitNext o sub p).2 := by
  unfold HubSys.waitNext
  dsimp only
  split
  next => exact h
  next =>
    have h' := h.seen ho (s.heap p).version
    exact ⟨h'.unborn, h'.share, h'.started, h'.key, h'.running, h'.count, h'.stopped,
      h'.unstarted, h'.number, h'.distinct, h'.released⟩

/-- **Every step keeps the invariant.** -/
theorem HubInv.next (h : HubInv s) {e : HubEvent} (hs : s.next e = some s') : HubInv s' := by
  cases e with
  | subscribe t readFn =>
    obtain rfl := Option.some.inj hs
    exact h.subscribe t readFn
  | make =>
    obtain rfl := Option.some.inj hs
    exact h.construct
  | moveConstruct src =>
    obtain ⟨sub, hsrc, rfl⟩ := Option.map_eq_some_iff.mp hs
    exact h.moveConstruct hsrc
  | moveAssign dst src =>
    obtain ⟨old, hdst, hs⟩ := Option.bind_eq_some_iff.mp hs
    obtain ⟨sub, hsrc, rfl⟩ := Option.map_eq_some_iff.mp hs
    exact h.moveAssign hdst hsrc
  | destroy o =>
    obtain ⟨sub, ho, rfl⟩ := Option.map_eq_some_iff.mp hs
    exact h.drop ho
  | poll p =>
    obtain ⟨-, hs⟩ := Option.ite_none_right_eq_some.mp hs
    exact h.poll hs
  | read p value =>
    obtain ⟨-, hs⟩ := Option.ite_none_right_eq_some.mp hs
    exact h.read hs
  | waitNext o ret =>
    obtain ⟨sub, ho, hs⟩ := Option.bind_eq_some_iff.mp hs
    obtain ⟨p, -, hs⟩ := Option.bind_eq_some_iff.mp hs
    obtain ⟨-, hs⟩ := Option.ite_none_right_eq_some.mp hs
    obtain rfl := Option.some.inj hs
    exact h.waitNext ho

/-- The empty hub has the invariant. -/
theorem hubInv_init : HubInv {} where
  unborn _ _ := rfl
  share _ _ h := nomatch h
  started _ _ h := nomatch h
  key _ _ h := nomatch h
  running _ _ h := nomatch h
  count _ _ h := nomatch h
  stopped _ h := nomatch h
  unstarted _ _ := rfl
  number _ _ h := nomatch h
  distinct _ _ _ _ h := nomatch h
  released _ := Nat.zero_le _

/-- Every history keeps the invariant. -/
theorem hubInv_of_hist {es : List HubEvent} (h : runs.Hist es s) : HubInv s := by
  refine Lts.hist_induct (P := fun _ s => HubInv s) ?_ ?_ h
  · rintro s rfl
    exact hubInv_init
  · intro _ s e s' _ hs hstep
    exact hs.next hstep

/-! ## Counting -/

/-- `o` is a subscription that was not released, of the poller `p`. -/
def Live (s : HubSys) (o : Nat) (key : Bytes) (p : Nat) : Prop :=
  ∃ sub, s.objects o = some sub ∧ sub.hub = true ∧ sub.key = key ∧ sub.poller = some p

/-- What the hub counts, and what it has stopped. -/
structure Counted (s : HubSys) : Prop where
  table : ∀ key p, s.pollers key = some p ↔ ∃ o, s.Live o key p
  watched : ∀ key, (∃ p, s.pollers key = some p) ↔ ∃ o, s.held o = some key
  count : ∀ key p, s.pollers key = some p →
    (s.heap p).subscriberCount = s.shares key ∧ (s.heap p).stop = false
  stops : ∀ p < s.started,
    s.stops p = 0 ∧ (∃ o key, s.Live o key p) ∨ s.stops p = 1 ∧ ¬ ∃ o key, s.Live o key p
  once : ∀ i, s.released i ≤ 1

/-- A poller is stopped by the release of the last share of it. -/
def StopsWithLast (s : HubSys) (_ : HubEvent) (s' : HubSys) : Prop :=
  ∀ p, s'.stops p = s.stops p ∨ s.stops p = 0 ∧ s'.stops p = 1 ∧
    ∃ key, s.pollers key = some p ∧ s.shares key = 1 ∧ s'.shares key = 0

/-- What is counted is what is held. -/
theorem HubInv.counted (h : HubInv s) : Counted s := by
  -- a stream is in the table as long as an object has a share of it
  have htable : ∀ key p, s.pollers key = some p ↔ ∃ o, s.Live o key p := by
    intro key p
    constructor
    · intro hp
      obtain ⟨o, -, ho⟩ := RefCount.holders_pos_iff.mp (h.count key p hp).2
      obtain ⟨sub, hsub, hl, rfl⟩ := held_eq_some ho
      obtain ⟨q, hq, hpoller⟩ := h.share o sub hsub hl
      rw [hp] at hq
      exact ⟨o, sub, hsub, hl, rfl, hpoller.trans hq.symm⟩
    · rintro ⟨o, sub, hsub, hl, rfl, hpoller⟩
      obtain ⟨q, hq, hpoller'⟩ := h.share o sub hsub hl
      rw [hq, ← hpoller', hpoller]
  refine ⟨htable, ?_, fun key p hp => ⟨(h.count key p hp).1, (h.running key p hp).1⟩, ?_, ?_⟩
  · intro key
    constructor
    · rintro ⟨p, hp⟩
      obtain ⟨o, -, ho⟩ := RefCount.holders_pos_iff.mp (h.count key p hp).2
      exact ⟨o, ho⟩
    · rintro ⟨o, ho⟩
      obtain ⟨sub, hsub, hl, rfl⟩ := held_eq_some ho
      obtain ⟨p, hp, -⟩ := h.share o sub hsub hl
      exact ⟨p, hp⟩
  · intro p hp
    rcases h.stopped p hp with hin | ⟨hstop, hstops⟩
    · obtain ⟨o, ho⟩ := (htable _ p).mp hin
      exact .inl ⟨(h.running _ p hin).2, o, _, ho⟩
    · refine .inr ⟨hstops, ?_⟩
      rintro ⟨o, key, ho⟩
      have hin := (htable key p).mpr ⟨o, ho⟩
      rw [(h.running key p hin).1] at hstop
      cases hstop
  · intro i
    have hi := h.released i
    split_ifs at hi <;> omega

/-- An object that gives up a share stops a poller only if it was the last. -/
theorem drop_stops (h : HubInv s) {o : Nat} {sub : Subscription} (ho : s.objects o = some sub)
    (p : Nat) : (s.drop o sub).stops p = s.stops p ∨ s.stops p = 0 ∧ (s.drop o sub).stops p = 1 ∧
      ∃ key, s.pollers key = some p ∧ s.shares key = 1 ∧ (s.drop o sub).shares key = 0 := by
  by_cases hlive : sub.hub = true
  · obtain ⟨q, hq, -⟩ := h.share o sub ho hlive
    by_cases hone : s.shares sub.key = 1
    · have hstops : (s.drop o sub).stops = Function.update s.stops q 1 := by
        rw [HubSys.drop_last (o := o) h hlive hq hone]
      by_cases hpq : p = q
      · refine .inr ⟨hpq ▸ (h.running sub.key q hq).2, ?_, sub.key, hpq ▸ hq, hone, ?_⟩
        · rw [hstops, hpq, Function.update_self]
        · have hless := drop_shares h ho hlive sub.key
          rw [if_pos rfl, hone] at hless
          omega
      · refine .inl ?_
        rw [hstops, Function.update_of_ne hpq]
    · refine .inl ?_
      rw [HubSys.drop_shared (o := o) h hlive hq hone]
      rfl
  · refine .inl ?_
    rw [HubSys.drop_dead hlive]
    rfl

/-- Where no poller is stopped there is nothing to show. -/
theorem stopsWithLast_of_eq {e : HubEvent} (h : s'.stops = s.stops) : StopsWithLast s e s' :=
  fun p => .inl (congrFun h p)

/-- A poller is stopped by the step that takes its last share, and by no other. -/
theorem HubInv.stopsWithLast (h : HubInv s) {e : HubEvent} (hs : s.next e = some s') :
    StopsWithLast s e s' := by
  cases e with
  | subscribe t readFn =>
    obtain rfl := Option.some.inj hs
    refine stopsWithLast_of_eq ?_
    -- a subscription counts up, and stops nothing
    rcases hp : s.pollers t.key with _ | p
    · rw [HubSys.subscribe_first hp]
      rfl
    · rw [HubSys.subscribe_shared hp]
      rfl
  | make =>
    obtain rfl := Option.some.inj hs
    exact stopsWithLast_of_eq rfl
  | moveConstruct src =>
    obtain ⟨sub, -, rfl⟩ := Option.map_eq_some_iff.mp hs
    exact stopsWithLast_of_eq rfl
  | moveAssign dst src =>
    obtain ⟨old, hdst, hs⟩ := Option.bind_eq_some_iff.mp hs
    obtain ⟨sub, hsrc, rfl⟩ := Option.map_eq_some_iff.mp hs
    by_cases hne : dst = src
    · rw [HubSys.moveAssign, if_pos hne]
      exact stopsWithLast_of_eq rfl
    · obtain ⟨hlt, hfree, hsrc'⟩ := drop_free h hdst hsrc hne
      rw [moveAssign_eq s hne]
      -- only the share that is given up can stop a poller; the move counts nothing
      intro p
      refine (drop_stops h hdst p).imp_right ?_
      rintro ⟨hzero, hstop, key, hp, hone, hnone⟩
      refine ⟨hzero, hstop, key, hp, hone, ?_⟩
      rw [transfer_shares (h.drop hdst) hlt hfree hsrc' hne]
      exact hnone
  | destroy o =>
    obtain ⟨sub, ho, rfl⟩ := Option.map_eq_some_iff.mp hs
    exact drop_stops h ho
  | poll p =>
    obtain ⟨-, hs⟩ := Option.ite_none_right_eq_some.mp hs
    refine stopsWithLast_of_eq ?_
    unfold HubSys.poll at hs
    dsimp only at hs
    split at hs <;> cases hs <;> rfl
  | read p value =>
    obtain ⟨-, hs⟩ := Option.ite_none_right_eq_some.mp hs
    obtain ⟨-, hs⟩ := Option.ite_none_right_eq_some.mp hs
    obtain rfl := Option.some.inj hs
    exact stopsWithLast_of_eq rfl
  | waitNext o ret =>
    obtain ⟨sub, ho, hs⟩ := Option.bind_eq_some_iff.mp hs
    obtain ⟨p, -, hs⟩ := Option.bind_eq_some_iff.mp hs
    obtain ⟨-, hs⟩ := Option.ite_none_right_eq_some.mp hs
    obtain rfl := Option.some.inj hs
    refine stopsWithLast_of_eq ?_
    unfold HubSys.waitNext
    dsimp only
    split <;> rfl

/-- **Every poller is watched, or stopped once.** -/
theorem counted_of_hist {es : List HubEvent} (h : runs.Hist es s) :
    Counted s ∧ runs.Always StopsWithLast es s := by
  refine ⟨(hubInv_of_hist h).counted, ?_⟩
  intro es₁ e es₂ s₁ s₂ _ h₁ hs _
  exact (hubInv_of_hist h₁).stopsWithLast hs

end

/-- Two watch the same. The second's share is assigned over the first's, and moved again; with
it goes the poller, and whoever comes next starts another. -/
def reassigned : List HubEvent :=
  [.subscribe ⟨str "vehicle", str "rpm", 1000⟩ 0, .subscribe ⟨str "vehicle", str "rpm", 1000⟩ 1,
    .moveAssign 0 1, .moveConstruct 0, .destroy 2,
    .subscribe ⟨str "vehicle", str "rpm", 1000⟩ 2]

/-- Subscriptions that are moved, assigned to themselves and to one another. -/
theorem counted_reassigned :
    ∃ s, runs.Hist reassigned s ∧ (s.stops 0 = 1 ∧ s.stops 1 = 0 ∧ s.released 0 = 1 ∧
      s.released 1 = 1 ∧ s.released 2 = 0) ∧
      Counted s ∧ runs.Always StopsWithLast reassigned s := by
  have hrun : ∃ s, runs.Hist reassigned s ∧ (s.stops 0 = 1 ∧ s.stops 1 = 0 ∧ s.released 0 = 1 ∧
      s.released 1 = 1 ∧ s.released 2 = 0) :=
    Lts.exists_hist_of_any rfl (by decide +kernel)
  obtain ⟨s, h, hs⟩ := hrun
  exact ⟨s, h, hs, counted_of_hist h⟩

end HubSys

end Sovd
