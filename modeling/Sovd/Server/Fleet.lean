import Sovd.Core.HeldLocks
import Sovd.Server.SessionLife

/-!
# Locks and sessions of a whole server

The lock manager's count is meant to bound the number of entities with an escalated
session: a session is escalated by a lock-gated call only, and released with the
lock. Neither half is enough. The gate lets a request through to an entity that
nobody has locked (`escalated_unlocked`), and a lock that runs out leaves the
session to the heartbeat's own timer.

`sessions_bounded` says when the bound does hold: when every session that an ECU
opens is opened under a lock that outlasts the request, and no lock lapses while its
entity's session is escalated (`UnderLock`). Then every such entity is locked
(`EscalatedLocked`), and entities that are locked are no more than the locks held
(`LockManager.length_le_heldAt`).

Mirroring notes vs the C++:
- Each entity has an adapter of its own; the state of all of them is a function of
  the path.
- Requests come one at a time, as in `SessionLife`; `now` is when the last step ended.
-/

namespace Sovd

open Uds SessionManager

/-! ## The system -/

/-- The functions of an adapter, acting on its part of the state of many. -/
def Vtable.at {κ σ : Type} [DecidableEq κ] (v : Vtable σ) (k : κ) : Vtable (κ → σ) where
  readFaults := v.readFaults.map fun f s path =>
    let (r, faults, x) := f (s k) path
    (r, faults, Function.update s k x)
  clearFaults := v.clearFaults.map fun f s path =>
    let (r, x) := f (s k) path
    (r, Function.update s k x)
  readData := v.readData.map fun f s path did =>
    let (r, data, x) := f (s k) path did
    (r, data, Function.update s k x)
  writeData := v.writeData.map fun f s path did data =>
    let (r, x) := f (s k) path did data
    (r, Function.update s k x)
  setMode := v.setMode.map fun f s path mode =>
    let (r, x) := f (s k) path mode
    (r, Function.update s k x)
  executeOperation := v.executeOperation.map fun f s path op paramsJson =>
    let (r, out, x) := f (s k) path op paramsJson
    (r, out, Function.update s k x)
  capabilities := v.capabilities

/-- The session managers of all entities, by path. -/
abbrev Sessions := Bytes → SessionManager

/-- A server with any number of UDS entities. -/
structure Fleet where
  entities : List (Bytes × UdsContext)
  nodup : (entities.map Prod.fst).Nodup
  catalogs : List (Bytes × Catalog) := []
  oauth2Secret : Bytes := []

namespace Fleet

/-- The paths of its entities. -/
def paths (fleet : Fleet) : List Bytes := fleet.entities.map Prod.fst

/-- The router of a server with them. -/
def router (fleet : Fleet) : Router Sessions where
  entities := fleet.entities.map fun e => { path := e.1, vtable := some (e.2.vtable.at e.1) }
  catalogs := fleet.catalogs
  oauth2Secret := fleet.oauth2Secret

end Fleet

/-- The server and the time it is. -/
structure FleetSys where
  world : World Sessions
  now : Time

namespace FleetSys

/-- The lock held on `path`, if there is one. -/
def lockOn (s : FleetSys) (path : Bytes) : Option (Lease Bytes Time) :=
  s.world.locks.view s.now path

/-- `current_session_type()` of the entity's session manager. -/
def sessionOf (s : FleetSys) (path : Bytes) : UInt8 := (s.world.adapter path).currentSessionType

end FleetSys

/-- What happens, and when it is over: a request on `path` with what went over the wire
to its ECU, a round of a heartbeat, time. -/
inductive FleetEvent
  | request (path : Bytes) (r : EntityRequest) (env : Env) (req : Request) (released : Bool)
      (wire : List Exchange) (done : Time)
  | heartbeat (path : Bytes) (done : Time)
  | time (done : Time)

/-- All session managers read the clock at `t`. -/
def FleetSys.at (s : FleetSys) (t : Time) : World Sessions :=
  { s.world with adapter := fun path => { s.world.adapter path with now := t } }

/-- A request with what it exchanged, a round of one heartbeat, or time that passes. -/
inductive FleetStep (fleet : Fleet) (s : FleetSys) : FleetEvent → FleetSys → Prop
  | request {path : Bytes} {r : EntityRequest} {env : Env} {req : Request} {wire : List Exchange}
      {w' : World Sessions} {done : Time} (hnow : s.now ≤ env.now ∧ env.now ≤ env.later)
      (hsweep : ∀ i, s.now ≤ env.sweep i ∧ env.sweep i ≤ env.now)
      (hw : (r.handle fleet.router env req path (s.at env.later)).1 = w')
      (hdone : env.later ≤ done ∧ (w'.adapter path).now ≤ done)
      (hwire : (w'.adapter path).wire = (s.world.adapter path).wire ++ wire) :
      FleetStep fleet s
        (.request path r env req (r.releases env path s.world.locks) wire done) ⟨w', done⟩
  | heartbeat {path : Bytes} {c : UdsContext} {adapter : SessionManager} {done : Time}
      (hc : (path, c) ∈ fleet.entities)
      (hrun : (s.world.adapter path).heartbeatRunning = true)
      (ha : heartbeatTick c.config c.bus { s.world.adapter path with now := s.now } = adapter)
      (hdone : s.now ≤ done ∧ adapter.now ≤ done) :
      FleetStep fleet s (.heartbeat path done)
        ⟨{ s.world with adapter := Function.update s.world.adapter path adapter }, done⟩
  | time {done : Time} (hdone : s.now ≤ done) :
      FleetStep fleet s (.time done) { s with now := done }

/-- Requests on any entities, heartbeats and lapses of time, from the start of the server. -/
def fleetLts (fleet : Fleet) : Lts FleetSys FleetEvent where
  init s := s.world = { adapter := fun _ => { lastTouch := s.now, now := s.now } }
  step := FleetStep fleet

/-! ## What is said of it -/

/-- The entities whose session manager records a session other than the default. -/
def escalated (fleet : Fleet) (s : FleetSys) : List Bytes :=
  fleet.paths.filter fun path => decide (s.sessionOf path ≠ 0x01)

/-- `held_lock_count()`, called now. -/
def FleetSys.heldLockCount (s : FleetSys) : Nat :=
  s.world.locks.heldLockCount (List.replicate s.world.locks.locks.entries.length s.now)

namespace FleetEvent

/-- The request opened a session other than the default on the ECU of `path`. -/
def Opens (e : FleetEvent) (path : Bytes) : Prop :=
  match e with
  | request path' _ _ _ _ wire _ => path' = path ∧ ∃ t, t ≠ 0x01 ∧ Opened t wire
  | _ => False

/-- The request released the lock on `path`. -/
def Releases (e : FleetEvent) (path : Bytes) : Prop :=
  match e with
  | request path' _ _ _ released _ _ => path' = path ∧ released = true
  | _ => False

end FleetEvent

/-- Sessions are opened under locks that outlast the request, and no lock on an
entity with an escalated session ends but by its release. -/
structure UnderLock (s : FleetSys) (e : FleetEvent) (s' : FleetSys) : Prop where
  opens : ∀ path, e.Opens path → ∃ l, s.world.locks.view s'.now path = some l
  lasts : ∀ path, s.sessionOf path ≠ 0x01 → ¬ e.Releases path →
    (∃ l, s.lockOn path = some l) → ∃ l, s'.lockOn path = some l

/-! ## What one event can do to the sessions -/

section

variable {fleet : Fleet}

/-- What is found is an entity of the fleet. -/
theorem Fleet.of_find {path : Bytes} {e : Entity Sessions} (h : fleet.router.find path = some e) :
    ∃ c, (path, c) ∈ fleet.entities ∧ e = { path, vtable := some (c.vtable.at path) } := by
  obtain ⟨⟨q, c⟩, hmem, rfl⟩ := List.mem_map.mp (List.mem_of_find?_eq_some h)
  have hq : (q == path) = true :=
    List.find?_some (p := fun e : Entity Sessions => e.path == path) h
  obtain rfl := eq_of_beq hq
  exact ⟨c, hmem, rfl⟩

/-- A request that gets to an adapter function gets to one of the fleet's. -/
theorem Fleet.of_getsTo {α : Type} {path : Bytes} {select : Vtable Sessions → Option α} {f : α}
    (h : GetsTo fleet.router path select f) :
    ∃ c, (path, c) ∈ fleet.entities ∧ select (c.vtable.at path) = some f := by
  obtain ⟨e, he, -, hf⟩ := h
  obtain ⟨c, hc, rfl⟩ := Fleet.of_find he
  exact ⟨c, hc, hf⟩

/-- What an adapter call leaves of the sessions: the entity's own was moved or reverted,
and the others are as they were. -/
inductive Touches (bus : Bus) (path : Bytes) (s s' : Sessions) : Prop
  | moves {x : SessionManager} {exchanged : List Exchange} (h : Moves (s path) x exchanged)
      (hs : s' = Function.update s path x)
  | reverts (hs : s' = Function.update s path (revertToDefault bus (s path)).2)

/-- A gated request that acts touches the session of its own entity. -/
theorem acts_touches {path corr : Bytes} {env : Env} {req : Request} {s : Sessions}
    {k : GatedHandler} {a : Act Sessions} (h : Acts fleet.router env req path corr s k a) :
    ∃ bus, Touches bus path s a.adapter := by
  cases h with
  | clearFaults hf hr =>
    obtain ⟨c, -, hf⟩ := Fleet.of_getsTo hf
    obtain rfl := Option.some.inj hf
    obtain ⟨exchanged, hmoves⟩ := c.clearFaults_moves (s path) (cStr path)
    exact ⟨c.bus, .moves hmoves (congrArg Prod.snd hr).symm⟩
  | putData hf hitem hw hb hr =>
    rename_i f item idOrDid bytes r s'
    obtain ⟨c, -, hf⟩ := Fleet.of_getsTo hf
    obtain rfl := Option.some.inj hf
    obtain ⟨exchanged, hmoves⟩ :=
      c.writeData_moves (s path) (cStr path) (cStr (didText item idOrDid)) bytes
    exact ⟨c.bus, .moves hmoves (congrArg Prod.snd hr).symm⟩
  | postOperation hf hr =>
    rename_i f op r out s'
    obtain ⟨c, -, hf⟩ := Fleet.of_getsTo hf
    obtain rfl := Option.some.inj hf
    obtain ⟨exchanged, hmoves⟩ := c.executeOperation_moves (s path) (cStr path) (cStr op)
      (cStr (operationParams req.body))
    exact ⟨c.bus, .moves hmoves (congrArg (fun x => x.2.2) hr).symm⟩
  | postMode hf hm hr =>
    rename_i f mode r s'
    obtain ⟨c, -, hf⟩ := Fleet.of_getsTo hf
    obtain rfl := Option.some.inj hf
    have hs := (congrArg Prod.snd hr).symm
    by_cases hmode : cStr mode = str "default"
    · rw [hmode] at hs
      refine ⟨c.bus, .reverts (hs.trans ?_)⟩
      rw [← c.setMode_default (s path) (cStr path)]
    · obtain ⟨exchanged, hmoves⟩ := c.setMode_moves hmode (s path) (cStr path)
      exact ⟨c.bus, .moves hmoves hs⟩

/-- The teardown of a release reverts the session of its own entity. -/
theorem revertMode_touches {path : Bytes} {e : Entity Sessions} {w : World Sessions}
    (he : fleet.router.find path = some e) :
    ∃ bus, (revertMode e path w).adapter =
      Function.update w.adapter path (revertToDefault bus (w.adapter path)).2 := by
  obtain ⟨c, -, rfl⟩ := Fleet.of_find he
  refine ⟨c.bus, ?_⟩
  rw [← c.setMode_default (w.adapter path) (cStr path)]
  rfl

/-- Every entity of the fleet is found. -/
theorem Fleet.find_of_mem {path : Bytes} (h : path ∈ fleet.paths) :
    ∃ e, fleet.router.find path = some e := by
  obtain ⟨⟨q, c⟩, hmem, rfl⟩ := List.mem_map.mp h
  have hsome : (fleet.router.find q).isSome = true :=
    List.find?_isSome.mpr ⟨_, List.mem_map_of_mem hmem, beq_self_eq_true q⟩
  exact Option.isSome_iff_exists.mp hsome

/-- A lock request leaves the sessions alone, or reverts the one of its own entity; a
release does the latter. -/
theorem lock_touches (fleet : Fleet) (r : LockRequest) (env : Env) (req : Request) (path : Bytes)
    (w : World Sessions) :
    ((r.handle fleet.router env req path w).1.adapter = w.adapter ∧
        ¬ ((EntityRequest.lock r).releases env path w.locks = true ∧ path ∈ fleet.paths)) ∨
      ∃ bus, (r.handle fleet.router env req path w).1.adapter =
        Function.update w.adapter path (revertToDefault bus (w.adapter path)).2 := by
  by_cases hrel : (EntityRequest.lock r).releases env path w.locks = true ∧ path ∈ fleet.paths
  · obtain ⟨e, he⟩ := Fleet.find_of_mem hrel.2
    cases r with
    | post => exact absurd hrel.1 Bool.false_ne_true
    | put lockId => exact absurd hrel.1 Bool.false_ne_true
    | delete lockId =>
      have hret : (w.locks.release env.now path lockId).1 = .released := of_decide_eq_true hrel.1
      obtain ⟨bus, hbus⟩ := revertMode_touches he
      exact .inr ⟨bus, (handleDeleteLock_released he rfl hret).1.trans hbus⟩
  · have hstep : LockStep fleet.router env path w (r.handle fleet.router env req path w).1 := r.step
    cases hstep with
    | none hkept => exact .inl ⟨hkept.adapter, hrel⟩
    | call hdoes hkept hadapter hsame => exact .inl ⟨hadapter, hrel⟩
    | released he hdoes hend hadapter hsame =>
      obtain ⟨bus, hbus⟩ := revertMode_touches he
      exact .inr ⟨bus, hadapter.trans hbus⟩

/-- A gated request leaves the locks alone, and touches the session of its own entity at most. -/
theorem gated_touches (fleet : Fleet) (k : GatedHandler) (env : Env) (req : Request) (path : Bytes)
    (w : World Sessions) :
    (k.handle fleet.router env req path w).1.locks = w.locks ∧
      ((k.handle fleet.router env req path w).1.adapter = w.adapter ∨
        ∃ bus, Touches bus path w.adapter (k.handle fleet.router env req path w).1.adapter) := by
  by_cases hacts : ∃ a, checkLockHeader env req path w.locks = true ∧
      Acts fleet.router env req path (correlationIdFor env req {}).1 w.adapter k a
  · obtain ⟨a, hlock, ha⟩ := hacts
    have hreport := acts_reported hlock ha
    refine ⟨hreport.locks, .inr ?_⟩
    rw [hreport.adapter]
    exact acts_touches ha
  · have hkept : Declined w (k.handle fleet.router env req path w).1 :=
      handle_of_not_acts fun a hlock ha => hacts ⟨a, hlock, ha⟩
    exact ⟨hkept.locks, .inl hkept.adapter⟩

/-- A request leaves the sessions alone and releases no entity's lock, or reverts its own
entity's session, or moves that and leaves the locks alone. -/
theorem request_touches (fleet : Fleet) (r : EntityRequest) (env : Env) (req : Request)
    (path : Bytes) {w w' : World Sessions}
    (hw : (r.handle fleet.router env req path w).1 = w') :
    (w'.adapter = w.adapter ∧ ¬ (r.releases env path w.locks = true ∧ path ∈ fleet.paths)) ∨
      (∃ bus, w'.adapter =
        Function.update w.adapter path (revertToDefault bus (w.adapter path)).2) ∨
      ∃ x exchanged, Moves (w.adapter path) x exchanged ∧
        w'.adapter = Function.update w.adapter path x ∧ w'.locks = w.locks ∧
        r.releases env path w.locks = false := by
  subst hw
  cases r with
  | lock r => exact (lock_touches fleet r env req path w).imp_right .inl
  | gated k =>
    obtain ⟨hlocks, hsame | ⟨bus, htouch⟩⟩ := gated_touches fleet k env req path w
    · exact .inl ⟨hsame, fun hr => Bool.false_ne_true hr.1⟩
    · cases htouch with
      | reverts hs => exact .inr (.inl ⟨bus, hs⟩)
      | moves h hs => exact .inr (.inr ⟨_, _, h, hs, hlocks, rfl⟩)

/-- **What leaves a session escalated**: it was, and its lock was not released, or the
ECU opened one in a request that left the locks alone. -/
theorem step_escalated {s s' : FleetSys} {e : FleetEvent} (h : (fleetLts fleet).step s e s')
    {path : Bytes} (hpath : path ∈ fleet.paths) (hs : s'.sessionOf path ≠ 0x01) :
    (s.sessionOf path ≠ 0x01 ∧ ¬ e.Releases path) ∨
      (e.Opens path ∧ s'.world.locks = s.world.locks) := by
  cases h with
  | time hdone => exact .inl ⟨hs, id⟩
  | heartbeat hc hrun ha hdone =>
    rename_i path' c adapter done
    refine .inl ⟨?_, id⟩
    by_cases hown : path = path'
    · subst hown
      have hs : adapter.currentSessionType ≠ 0x01 := by
        simpa [FleetSys.sessionOf] using hs
      rcases heartbeatTick_session c.bus c.config { s.world.adapter path with now := s.now }
        with hsame | hended
      · rw [ha] at hsame
        exact fun heq => hs (hsame.trans heq)
      · exact absurd (ha ▸ hended) hs
    · simpa [FleetSys.sessionOf, Function.update_of_ne hown] using hs
  | request hnow hsweep hw hdone hwire =>
    rename_i path' r env req wire w' done
    -- another entity's session is as it was
    have hother : path ≠ path' → ∀ x, w'.adapter =
        Function.update (s.at env.later).adapter path' x → s.sessionOf path ≠ 0x01 := by
      intro hne x hx
      rw [FleetSys.sessionOf, hx, Function.update_of_ne hne] at hs
      exact hs
    rcases request_touches fleet r env req path' hw with
      ⟨hsame, hrel⟩ | ⟨bus, hrevert⟩ | ⟨x, exchanged, hmoves, hupdate, hlocks, hrel⟩
    · refine .inl ⟨?_, fun hr => hrel ⟨hr.2, hr.1 ▸ hpath⟩⟩
      rw [FleetSys.sessionOf, hsame] at hs
      exact hs
    · by_cases hown : path = path'
      · subst hown
        rw [FleetSys.sessionOf, hrevert, Function.update_self] at hs
        exact absurd (revertToDefault_spec bus _).1 hs
      · exact .inl ⟨hother hown _ hrevert, fun hr => hown hr.1.symm⟩
    · have hreleases : r.releases env path' s.world.locks ≠ true := Bool.eq_false_iff.mp hrel
      by_cases hown : path = path'
      · subst hown
        have hx : w'.adapter path = x := by rw [hupdate, Function.update_self]
        rw [FleetSys.sessionOf, hx] at hs
        rcases hmoves.session with hsame | hopened
        · exact .inl ⟨fun heq => hs (hsame.trans heq), fun hr => hreleases hr.2⟩
        · rw [hx, hmoves.wire] at hwire
          obtain rfl := List.append_cancel_left hwire
          exact .inr ⟨⟨rfl, _, hs, hopened⟩, hlocks⟩
      · exact .inl ⟨hother hown _ hupdate, fun hr => hreleases hr.2⟩

/-! ## Every escalated entity is locked -/

/-- The invariant: an escalated session comes with a lock. -/
def EscalatedLocked (fleet : Fleet) (s : FleetSys) : Prop :=
  ∀ path ∈ fleet.paths, s.sessionOf path ≠ 0x01 → ∃ l, s.lockOn path = some l

/-- Nothing is escalated at the start. -/
theorem EscalatedLocked.initial {s : FleetSys} (h : (fleetLts fleet).init s) :
    EscalatedLocked fleet s := by
  intro path _ hs
  rw [FleetSys.sessionOf, show s.world = _ from h] at hs
  exact absurd rfl hs

/-- **A step keeps every escalated session under a lock**, if what escalates is. -/
theorem EscalatedLocked.step {s s' : FleetSys} {e : FleetEvent} (h : EscalatedLocked fleet s)
    (hstep : (fleetLts fleet).step s e s') (hcond : UnderLock s e s') :
    EscalatedLocked fleet s' := by
  intro path hpath hs
  rcases step_escalated hstep hpath hs with ⟨hwas, hkept⟩ | ⟨hopens, hlocks⟩
  · exact hcond.lasts path hwas hkept (h path hpath hwas)
  · obtain ⟨l, hl⟩ := hcond.opens path hopens
    exact ⟨l, by rw [FleetSys.lockOn, hlocks, hl]⟩

/-- Entities that are all locked are no more than the locks held. -/
theorem EscalatedLocked.bounded {s : FleetSys} (h : EscalatedLocked fleet s) :
    (escalated fleet s).length ≤ s.heldLockCount := by
  rw [FleetSys.heldLockCount, LockManager.heldLockCount_replicate]
  refine LockManager.length_le_heldAt (fleet.nodup.filter _) fun path hpath => ?_
  obtain ⟨hmem, hs⟩ := List.mem_filter.mp hpath
  exact h path hmem (of_decide_eq_true hs)

/-- **Locks bound sessions** in every run in which each session is opened under a lock
that outlasts the request and no lock lapses while its entity's session is escalated. -/
theorem sessions_bounded {es : List FleetEvent} {s : FleetSys} (h : (fleetLts fleet).Hist es s)
    (hcond : (fleetLts fleet).Always UnderLock es s) :
    (escalated fleet s).length ≤ s.heldLockCount :=
  EscalatedLocked.bounded <| Lts.Always.induct (fun _ h₀ => EscalatedLocked.initial h₀)
    (fun _ _ _ hI hs hc => hI.step hs hc) h hcond

end

namespace OneEcu

open Takeover (bus env lockA modeA)

/-- One ECU. -/
def fleet : Fleet where
  entities := [(str "ecu", { bus })]
  nodup := List.nodup_singleton _

def start : FleetSys := ⟨{ adapter := fun _ => { lastTouch := 0, now := 0 } }, 0⟩

def run (r : EntityRequest) (req : Request) (s : FleetSys) : FleetSys :=
  ⟨(r.handle fleet.router (env 0) req (str "ecu") (s.at 0)).1, 0⟩

/-- The exchange that opens the session. -/
def opened : List Exchange := [⟨[0x10, 0x03], some [0x50, 0x03]⟩]

/-- POST locks, POST modes under the lock. -/
def eventLock : FleetEvent := .request (str "ecu") (.lock .post) (env 0) lockA false [] 0

def eventMode : FleetEvent := .request (str "ecu") (.gated .postMode) (env 0) modeA false opened 0

/-- POST modes on an entity that nobody has locked. -/
def modeFree : Request := { modeA with headers := [] }

def eventModeFree : FleetEvent :=
  .request (str "ecu") (.gated .postMode) (env 0) modeFree false opened 0

/-- A request is a step of the fleet. -/
theorem run_step {r : EntityRequest} {req : Request} {s : FleetSys} {wire : List Exchange}
    (hnow : s.now ≤ 0)
    (hdone : ((run r req s).world.adapter (str "ecu")).now ≤ 0)
    (hwire : ((run r req s).world.adapter (str "ecu")).wire =
      (s.world.adapter (str "ecu")).wire ++ wire) :
    (fleetLts fleet).step s (.request (str "ecu") r (env 0) req
      (r.releases (env 0) (str "ecu") s.world.locks) wire 0) (run r req s) :=
  .request ⟨hnow, le_refl _⟩ (fun _ => ⟨hnow, le_refl _⟩) rfl ⟨le_refl _, hdone⟩ hwire

/-- A mode that is set while nobody holds the lock. -/
theorem hist_free : (fleetLts fleet).Hist [eventModeFree] (run (.gated .postMode) modeFree start) :=
  Lts.hist_concat (Lts.hist_nil rfl) (run_step (by decide) (by decide) rfl)

def locked : FleetSys := run (.lock .post) lockA start

def extended : FleetSys := run (.gated .postMode) modeA locked

/-- A mode that is set under the lock. -/
theorem hist_extended : (fleetLts fleet).Hist [eventLock, eventMode] extended :=
  Lts.hist_concat
    (Lts.hist_concat (Lts.hist_nil rfl) (run_step (by decide) (by decide) rfl))
    (run_step (by decide) (by decide) rfl)

/-- The lock is held while the session is opened. -/
theorem along_locked {s : FleetSys} (h : (fleetLts fleet).init s) :
    (fleetLts fleet).Along UnderLock s [eventLock, eventMode] := by
  obtain ⟨world, now⟩ := s
  have hworld : world = { adapter := fun _ => { lastTouch := now, now := now } } := h
  subst hworld
  intro s₁ h₁
  refine ⟨⟨?_, ?_⟩, fun s₂ h₂ => ⟨⟨?_, ?_⟩, trivial⟩⟩
  · intro path hopens
    obtain ⟨-, t, -, resp, hmem, -⟩ := hopens
    cases hmem
  · intro path hs
    exact absurd rfl hs
  · intro path hopens
    obtain rfl : str "ecu" = path := hopens.1
    cases h₁ with
    | request hnow hsweep hw hdone hwire =>
      cases h₂ with
      | request hnow' hsweep' hw' hdone' hwire' =>
        subst hw
        exact ⟨⟨str "lock-1", seconds 1⟩, by rfl⟩
  · intro path hs
    cases h₁ with
    | request hnow hsweep hw hdone hwire =>
      subst hw
      exact absurd rfl hs

end OneEcu

open OneEcu in
/-- A session opened under a lock. -/
theorem escalated_locked :
    (escalated fleet extended).length ≤ extended.heldLockCount :=
  sessions_bounded hist_extended (.of_along fun _ h => along_locked h)

open OneEcu in
/-- POST modes opens the extended session of an entity that nobody has locked. -/
theorem escalated_unlocked :
    ∃ es s, (fleetLts fleet).Hist es s ∧
      ¬ (escalated fleet s).length ≤ s.heldLockCount :=
  ⟨_, _, hist_free, by decide⟩

end Sovd
