import Mathlib.Data.Int.DivMod
import Sovd.Bytes
import Sovd.Lib.Lts
import Sovd.Lib.OrderedTable

/-!
# `EntityRegistry` (`core/src/entity_registry.cpp`)

The entities of a server by path, in a map and, for the order they were added in,
in a list of paths. What the two say together is one list of entities, oldest first:
`Represents` reads it off, and each call either does nothing or appends to that list or
takes one entity out of it (`RegistryStep`).

On that list stand the facts about a registry:

- `Grown`: paths are distinct and at most 16 segments deep, and an entity whose parent
  is not empty comes after it. An entity is not removed before its children, so this
  survives removal, and re-registration.
- `Tree` is what the header promises, that only a path without a slash is a root. The
  parent of `/a` is the empty text, which `add_entity` takes for no parent: it is kept
  in exactly the runs that never add such a path.
- `Listing` is what `list_all` shows and what is destroyed, told in terms of the calls.

Mirroring notes vs the C++:
- The map is a list of pairs, and nothing depends on the order of it.
- Of a vtable the registry uses that it is there and whether it has a `destroy`; a
  context is a number, and `none` the null pointer.
- `count` is cast to `int` before the depth is computed. The depth cannot overflow in an
  `add_entity` that succeeds.
- `entities_.at` throws where a path of `order_` is not in the map, which is `none`.
- `mtx_` makes each call a step.
-/

namespace Sovd

/-- The kinds of entities. -/
inductive EntityType
  | vehicle
  | area
  | component
  deriving DecidableEq

/-- `kMaxEntityPathDepth` -/
def kMaxEntityPathDepth : Int := 16

/-- Of an adapter's vtable the registry looks at `destroy` alone. -/
structure BackendTable where
  destroys : Bool := true
  deriving DecidableEq

/-- `Entity`, as the registry keeps it. -/
structure RegistryEntity where
  path : Bytes
  type : EntityType := .component
  parent : Bytes := []
  vtable : Option BackendTable := none
  adapterCtx : Option Nat := none
  deriving DecidableEq

/-- The context that `destroy` is called on. -/
def RegistryEntity.owned (e : RegistryEntity) : Option Nat :=
  if e.vtable.any BackendTable.destroys then e.adapterCtx else none

/-- The entities by their paths, and the order in which they came. -/
structure EntityRegistry where
  entities : List (Bytes × RegistryEntity) := []
  order : List Bytes := []
  deriving DecidableEq

/-- `find_last_of` -/
def findLastOf (c : UInt8) : Bytes → Option Nat
  | [] => none
  | b :: s =>
    match findLastOf c s with
    | some n => some (n + 1)
    | none => if b = c then some 0 else none

/-- The calls that change the registry. -/
inductive RegistryCall
  | add (path : Bytes) (type : EntityType) (vtable : Option BackendTable) (ctx : Option Nat)
  | remove (path : Bytes)
  deriving DecidableEq

/-- A call, what it returned and the context it destroyed, if any. -/
structure RegistryEvent where
  call : RegistryCall
  ret : Bool
  destroyed : Option Nat := none
  deriving DecidableEq

namespace EntityRegistry

/-- `/` -/
def slash : UInt8 := 47

/-- `parent_of`: all in front of the last slash. -/
def parentOf (path : Bytes) : Bytes :=
  match findLastOf slash path with
  | none => []
  | some pos => path.take pos

/-- The depth of a path: its slashes and one, as an `int`. -/
def depth (path : Bytes) : Int := Int.bmod (path.count slash) (2 ^ 32) + 1

/-- `find` -/
def find (r : EntityRegistry) (path : Bytes) : Option RegistryEntity := r.entities.lookup path

/-- `add_entity`: the path is new, not too deep, and its parent is there. -/
def addEntity (path : Bytes) (type : EntityType) (vtable : Option BackendTable)
    (ctx : Option Nat) (r : EntityRegistry) : Bool × EntityRegistry :=
  if path = [] ∨ (r.find path).isSome then (false, r)
  else if depth path > kMaxEntityPathDepth then (false, r)
  else
    let parent := parentOf path
    if parent ≠ [] ∧ ¬ (r.find parent).isSome then (false, r)
    else
      (true,
        { entities := (path, ⟨path, type, parent, vtable, ctx⟩) :: r.entities
          order := r.order ++ [path] })

/-- `list_all`, in the order in which the entities came. -/
def listAll (r : EntityRegistry) : Option (List RegistryEntity) := r.order.mapM r.find

/-- `remove_entity`: an entity with children stays. -/
def removeEntity (path : Bytes) (r : EntityRegistry) : Bool × Option Nat × EntityRegistry :=
  match r.find path with
  | none => (false, none, r)
  | some e =>
    if r.entities.any (fun kv => kv.2.parent == path) then (false, none, r)
    else
      (true, e.owned,
        { entities := r.entities.filter fun kv => kv.1 != path
          order := r.order.filter (· != path) })

/-- What the destructor destroys. -/
def destroyAll (r : EntityRegistry) : Option (List Nat) :=
  r.listAll.map fun listed => listed.filterMap RegistryEntity.owned

/-- What a call returns and leaves. -/
def perform (r : EntityRegistry) : RegistryCall → Bool × Option Nat × EntityRegistry
  | .add path type vtable ctx =>
    let (ret, r) := r.addEntity path type vtable ctx
    (ret, none, r)
  | .remove path => r.removeEntity path

/-- The runs of a registry. -/
def runs : Lts EntityRegistry RegistryEvent where
  init r := r = {}
  step r e r' := r.perform e.call = (e.ret, e.destroyed, r')

instance (r r' : EntityRegistry) (e : RegistryEvent) : Decidable (runs.step r e r') :=
  inferInstanceAs (Decidable (_ = _))

/-! ## Parents -/

/-- A letter that is not found is not there. -/
theorem findLastOf_eq_none {c : UInt8} {s : Bytes} : findLastOf c s = none ↔ c ∉ s := by
  induction s with
  | nil => simp [findLastOf]
  | cons b s ih =>
    rw [findLastOf, List.mem_cons, not_or, ← ih]
    cases findLastOf c s with
    | some n => simp
    | none => simp [eq_comm]

/-- A letter that is found is the last of its kind. -/
theorem findLastOf_append {c : UInt8} {post : Bytes} (h : c ∉ post) (pre : Bytes) :
    findLastOf c (pre ++ c :: post) = some pre.length := by
  induction pre with
  | nil => simp [findLastOf, findLastOf_eq_none.mpr h]
  | cons b pre ih => simp [findLastOf, ih]

/-- The parent is what comes before the last slash. -/
theorem parentOf_append {post : Bytes} (h : slash ∉ post) (pre : Bytes) :
    parentOf (pre ++ slash :: post) = pre := by
  rw [parentOf, findLastOf_append h]
  exact List.take_left

/-- A path with a slash is its parent, the last slash and a name. -/
theorem exists_name {path : Bytes} (h : slash ∈ path) :
    ∃ name, slash ∉ name ∧ path = parentOf path ++ slash :: name := by
  obtain ⟨post, pre, hrev, hpost⟩ := List.eq_append_cons_of_mem (List.mem_reverse.mpr h)
  have hpath : path = pre.reverse ++ slash :: post.reverse := by
    rw [← path.reverse_reverse, hrev]
    simp
  have hname : slash ∉ post.reverse := fun hmem => hpost (List.mem_reverse.mp hmem)
  refine ⟨post.reverse, hname, ?_⟩
  rw [hpath, parentOf_append hname]

/-- A path has one slash more than its parent. -/
theorem count_slash {path : Bytes} (h : slash ∈ path) :
    path.count slash = (parentOf path).count slash + 1 := by
  obtain ⟨name, hname, hpath⟩ := exists_name h
  conv_lhs => rw [hpath]
  rw [List.count_append, List.count_cons_self, List.count_eq_zero.mpr hname]

/-! ## One list of entities -/

end EntityRegistry

namespace RegistryEvent

open EntityRegistry

/-- The entity that the call added. -/
def added (e : RegistryEvent) : Option RegistryEntity :=
  match e.call with
  | .add path type vtable ctx =>
    if e.ret then some ⟨path, type, parentOf path, vtable, ctx⟩ else none
  | .remove _ => none

/-- The path that the call removed. -/
def removed (e : RegistryEvent) : Option Bytes :=
  match e.call with
  | .add .. => none
  | .remove path => if e.ret then some path else none

/-- What was added was asked for, and the call succeeded. -/
theorem added_eq_some {e : RegistryEvent} {ent : RegistryEntity} (h : e.added = some ent) :
    e.call = .add ent.path ent.type ent.vtable ent.adapterCtx ∧ e.ret = true := by
  unfold added at h
  split at h
  next hcall =>
    obtain ⟨hret, hent⟩ := Option.ite_none_right_eq_some.mp h
    obtain rfl := Option.some.inj hent
    exact ⟨hcall, hret⟩
  next => cases h

/-- The same of what was removed. -/
theorem removed_eq_some {e : RegistryEvent} {path : Bytes} (h : e.removed = some path) :
    e.call = .remove path ∧ e.ret = true := by
  unfold removed at h
  split at h
  next => cases h
  next hcall =>
    obtain ⟨hret, hpath⟩ := Option.ite_none_right_eq_some.mp h
    obtain rfl := Option.some.inj hpath
    exact ⟨hcall, hret⟩

end RegistryEvent

namespace EntityRegistry

/-- The map and the list of paths both show the entities `listed`. -/
abbrev Shows (r : EntityRegistry) (listed : List RegistryEntity) : Prop :=
  OrderedTable.Shows RegistryEntity.path r.entities r.order listed

/-- What a call can do to the entities. -/
inductive ListStep (listed : List RegistryEntity) (e : RegistryEvent) :
    List RegistryEntity → Prop
  | refused : e.ret = false → e.destroyed = none → ListStep listed e listed
  | added (ent : RegistryEntity) : e.added = some ent → e.destroyed = none → ent.path ≠ [] →
      (∀ a ∈ listed, a.path ≠ ent.path) → depth ent.path ≤ kMaxEntityPathDepth →
      ent.parent = parentOf ent.path → (ent.parent ≠ [] → ∃ a ∈ listed, a.path = ent.parent) →
      ListStep listed e (listed ++ [ent])
  | removed (ent : RegistryEntity) : e.removed = some ent.path → e.destroyed = ent.owned →
      ent ∈ listed → (∀ a ∈ listed, a.parent ≠ ent.path) →
      ListStep listed e (listed.filter fun a => a.path != ent.path)

/-- **Refinement**: each call on the two containers is a step of the list they show. -/
theorem step_shows {r r' : EntityRegistry} {e : RegistryEvent} {listed : List RegistryEntity}
    (h : r.Shows listed) (hs : runs.step r e r') :
    ∃ listed', ListStep listed e listed' ∧ r'.Shows listed' := by
  obtain ⟨call, ret, destroyed⟩ := e
  cases call with
  | add path type vtable ctx =>
    have hs : ((r.addEntity path type vtable ctx).1, none, (r.addEntity path type vtable ctx).2) =
      (ret, destroyed, r') := hs
    obtain ⟨rfl, hrest⟩ := Prod.mk.inj hs
    obtain ⟨rfl, rfl⟩ := Prod.mk.inj hrest
    unfold addEntity
    dsimp only
    -- refused for its path, for its depth, as an orphan, or added
    split_ifs with hpath hdepth horphan
    · exact ⟨listed, .refused rfl rfl, h⟩
    · exact ⟨listed, .refused rfl rfl, h⟩
    · exact ⟨listed, .refused rfl rfl, h⟩
    · obtain ⟨hne, hnew⟩ := not_or.mp hpath
      have hnone : r.entities.lookup path = none := Option.not_isSome_iff_eq_none.mp hnew
      let ent : RegistryEntity := ⟨path, type, parentOf path, vtable, ctx⟩
      refine ⟨_, .added ent rfl rfl hne ?_ (not_lt.mp hdepth) rfl ?_, h.insert (a := ent) hnone⟩
      · intro a ha heq
        exact h.lookup_eq_none.mp hnone (h.mem_order.mpr ⟨a, ha, heq⟩)
      · intro hparent
        exact h.mem_order.mp (h.lookup_isSome.mp (not_not.mp fun hn => horphan ⟨hparent, hn⟩))
  | remove path =>
    have hs : r.removeEntity path = (ret, destroyed, r') := hs
    unfold removeEntity at hs
    split at hs
    next =>
      obtain ⟨rfl, hrest⟩ := Prod.mk.inj hs
      obtain ⟨rfl, rfl⟩ := Prod.mk.inj hrest
      exact ⟨listed, .refused rfl rfl, h⟩
    next ent hent =>
      -- the entity found is one of those listed
      obtain ⟨hmem, rfl⟩ := h.lookup_eq_some.mp hent
      split_ifs at hs with hchild
      · obtain ⟨rfl, hrest⟩ := Prod.mk.inj hs
        obtain ⟨rfl, rfl⟩ := Prod.mk.inj hrest
        exact ⟨listed, .refused rfl rfl, h⟩
      · obtain ⟨rfl, hrest⟩ := Prod.mk.inj hs
        obtain ⟨rfl, rfl⟩ := Prod.mk.inj hrest
        refine ⟨_, .removed ent rfl rfl hmem ?_, h.erase ent.path⟩
        intro a ha hparent
        -- a child that is listed is one the loop over the map finds
        refine hchild (List.any_eq_true.mpr ⟨(a.path, a), h.mem_entries.mpr ⟨ha, rfl⟩, ?_⟩)
        exact beq_iff_eq.mpr hparent

/-- What every list of entities has: names, depths, and parents first. -/
structure Grown (listed : List RegistryEntity) : Prop where
  path_ne_nil : ∀ a ∈ listed, a.path ≠ []
  parent_eq : ∀ a ∈ listed, a.parent = parentOf a.path
  depth : ∀ a ∈ listed, a.path.count slash < 16
  parent_first : ∀ a ∈ listed, a.parent ≠ [] →
    ∃ b, b.path = a.parent ∧ [b, a].Sublist listed

/-- Up to the bound the depth is not cut. -/
theorem depth_eq {path : Bytes} (h : path.count slash ≤ 16) :
    EntityRegistry.depth path = path.count slash + 1 := by
  have hcast : Int.bmod (path.count slash) (2 ^ 32) = path.count slash :=
    Int.bmod_eq_of_le (by omega) (by omega)
  unfold EntityRegistry.depth
  rw [hcast]

/-- The depth is that of the parent and one more, so the cast to `int` loses nothing. -/
theorem count_lt_of_depth {path : Bytes} (h : depth path ≤ kMaxEntityPathDepth)
    (hparent : parentOf path ≠ [] → (parentOf path).count slash < 16) : path.count slash < 16 := by
  have hle : path.count slash ≤ 16 := by
    by_cases hslash : slash ∈ path
    · rw [count_slash hslash]
      by_cases hnil : parentOf path = []
      · simp [hnil]
      · exact hparent hnil
    · rw [List.count_eq_zero.mpr hslash]
      exact Nat.zero_le _
  rw [depth_eq (by omega)] at h
  unfold kMaxEntityPathDepth at h
  omega

/-- A step keeps the listing one that grew. -/
theorem Grown.step {listed listed' : List RegistryEntity} {e : RegistryEvent} (h : Grown listed)
    (hs : ListStep listed e listed') : Grown listed' := by
  cases hs with
  | refused => exact h
  | added ent _ _ hne _ hdepth hparent hreg =>
    have hsub : listed.Sublist (listed ++ [ent]) := List.sublist_append_left ..
    refine ⟨?_, ?_, ?_, ?_⟩ <;> intro a ha <;> rcases List.mem_append.mp ha with hold | hnew
    · exact h.path_ne_nil a hold
    · exact List.mem_singleton.mp hnew ▸ hne
    · exact h.parent_eq a hold
    · exact List.mem_singleton.mp hnew ▸ hparent
    · exact h.depth a hold
    · obtain rfl := List.mem_singleton.mp hnew
      refine count_lt_of_depth hdepth fun hnil => ?_
      obtain ⟨b, hb, hpath⟩ := hreg (hparent ▸ hnil)
      rw [← hparent, ← hpath]
      exact h.depth b hb
    · intro hnil
      obtain ⟨b, hpath, hbefore⟩ := h.parent_first a hold hnil
      exact ⟨b, hpath, hbefore.trans hsub⟩
    · obtain rfl := List.mem_singleton.mp hnew
      intro hnil
      obtain ⟨b, hb, hpath⟩ := hreg hnil
      exact ⟨b, hpath, (List.singleton_sublist.mpr hb).append (.refl [a])⟩
  | removed ent _ _ _ hchild =>
    have hmem : ∀ a ∈ listed.filter (fun a => a.path != ent.path), a ∈ listed :=
      fun a ha => (List.mem_filter.mp ha).1
    refine ⟨fun a ha => h.path_ne_nil a (hmem a ha), fun a ha => h.parent_eq a (hmem a ha),
      fun a ha => h.depth a (hmem a ha), ?_⟩
    -- neither the child nor its parent is the entity that goes
    intro a ha hnil
    obtain ⟨b, hpath, hbefore⟩ := h.parent_first a (hmem a ha) hnil
    refine ⟨b, hpath, ?_⟩
    have hkept := hbefore.filter fun a => a.path != ent.path
    have hb : (b.path != ent.path) = true := bne_iff_ne.mpr (hpath ▸ hchild a (hmem a ha))
    simpa [hb, (List.mem_filter.mp ha).2] using hkept

/-- Every history of the registry shows a list that has grown. -/
theorem hist_grown {es : List RegistryEvent} {r : EntityRegistry} (h : runs.Hist es r) :
    ∃ listed, r.Shows listed ∧ Grown listed := by
  refine Lts.hist_induct (P := fun _ r => ∃ listed, r.Shows listed ∧ Grown listed) ?_ ?_ h
  · rintro _ rfl
    exact ⟨[], .empty, by simp, by simp, by simp, by simp⟩
  · rintro _ r e r' - ⟨listed, hshows, hgrown⟩ hs
    obtain ⟨listed', hstep, hshows'⟩ := step_shows hshows hs
    exact ⟨listed', hshows', hgrown.step hstep⟩

/-! ## The tree -/

/-- There is an entity of that path. -/
def Registered (r : EntityRegistry) (path : Bytes) : Prop := (r.find path).isSome = true

instance (r : EntityRegistry) (path : Bytes) : Decidable (r.Registered path) :=
  inferInstanceAs (Decidable (_ = _))

/-- The parents of a registered path, up to a registered path without a slash. -/
inductive ReachesRoot (r : EntityRegistry) : Bytes → Prop
  | root {path : Bytes} : r.Registered path → slash ∉ path → ReachesRoot r path
  | child {pre name : Bytes} : slash ∉ name → r.Registered (pre ++ slash :: name) →
      ReachesRoot r pre → ReachesRoot r (pre ++ slash :: name)

/-- Every entity has its ancestors, up to a root, and none is too deep. -/
structure Tree (r : EntityRegistry) : Prop where
  parent : ∀ pre name, slash ∉ name → r.Registered (pre ++ slash :: name) → r.Registered pre
  root : ∀ path, r.Registered path → r.ReachesRoot path
  depth : ∀ path, r.Registered path → path.count slash + 1 ≤ 16

/-- The call does not add a path whose only slash is its first letter. -/
def NotRootSlash (_ : EntityRegistry) (e : RegistryEvent) (_ : EntityRegistry) : Prop :=
  ∀ name type vtable ctx, slash ∉ name → e.call ≠ .add (slash :: name) type vtable ctx

/-- A path with a slash has a parent that is not empty. -/
def NoRootSlash (listed : List RegistryEntity) : Prop :=
  ∀ a ∈ listed, slash ∈ a.path → a.parent ≠ []

/-- What is registered is what is listed. -/
theorem registered_iff {r : EntityRegistry} {listed : List RegistryEntity} (h : r.Shows listed)
    {path : Bytes} : r.Registered path ↔ ∃ a ∈ listed, a.path = path :=
  h.lookup_isSome.trans h.mem_order

/-- The chain of parents gets shorter with every step. -/
theorem reachesRoot_of_parent {r : EntityRegistry}
    (hparent : ∀ pre name, slash ∉ name → r.Registered (pre ++ slash :: name) → r.Registered pre) :
    ∀ path, r.Registered path → r.ReachesRoot path := by
  intro path
  induction hn : path.length using Nat.strong_induction_on generalizing path with
  | _ n ih =>
    intro hreg
    by_cases hslash : slash ∈ path
    · obtain ⟨name, hname, hpath⟩ := exists_name hslash
      have hlen : (parentOf path).length < n := by
        rw [← hn, hpath, parentOf_append hname]
        simp
      rw [hpath] at hreg ⊢
      exact .child hname hreg (ih _ hlen _ rfl (hparent _ _ hname hreg))
    · exact .root hreg hslash

/-- A registry that grew is a tree exactly if no path begins with a slash. -/
theorem tree_iff {r : EntityRegistry} {listed : List RegistryEntity} (h : r.Shows listed)
    (hg : Grown listed) : r.Tree ↔ NoRootSlash listed := by
  constructor
  · intro htree a ha hslash hnil
    obtain ⟨name, hname, hpath⟩ := exists_name hslash
    have hreg : r.Registered (parentOf a.path ++ slash :: name) :=
      hpath ▸ (registered_iff h).mpr ⟨a, ha, rfl⟩
    obtain ⟨b, hb, hempty⟩ := (registered_iff h).mp (htree.parent _ _ hname hreg)
    rw [← hg.parent_eq a ha, hnil] at hempty
    exact hg.path_ne_nil b hb hempty
  · intro hroot
    have hparent : ∀ pre name, slash ∉ name → r.Registered (pre ++ slash :: name) →
        r.Registered pre := by
      intro pre name hname hreg
      obtain ⟨a, ha, hpath⟩ := (registered_iff h).mp hreg
      have hpre : a.parent = pre := by
        rw [hg.parent_eq a ha, hpath, parentOf_append hname]
      obtain ⟨b, hb, hbefore⟩ := hg.parent_first a ha (hroot a ha (by simp [hpath]))
      exact (registered_iff h).mpr ⟨b, hbefore.subset (by simp), hb.trans hpre⟩
    refine ⟨hparent, reachesRoot_of_parent hparent, ?_⟩
    intro path hreg
    obtain ⟨a, ha, rfl⟩ := (registered_iff h).mp hreg
    exact hg.depth a ha

/-- Of a tree, `/name` is never a part, so nothing keeps `add_entity` from taking it. -/
theorem add_rootSlash {r : EntityRegistry} {listed : List RegistryEntity} (h : r.Shows listed)
    (hg : Grown listed) (hroot : NoRootSlash listed) {name : Bytes} (hname : slash ∉ name)
    (type : EntityType) (vtable : Option BackendTable) (ctx : Option Nat) :
    (r.addEntity (slash :: name) type vtable ctx).1 = true := by
  have hparent : parentOf (slash :: name) = [] := parentOf_append hname []
  have hnew : ¬ (r.find (slash :: name)).isSome = true := by
    intro hreg
    obtain ⟨a, ha, hpath⟩ := (registered_iff h).mp hreg
    refine hroot a ha (by simp [hpath]) ?_
    rw [hg.parent_eq a ha, hpath, hparent]
  have hdepth : ¬ EntityRegistry.depth (slash :: name) > kMaxEntityPathDepth := by
    have hcount : (slash :: name).count slash = 1 := by
      rw [List.count_cons_self, List.count_eq_zero.mpr hname]
    rw [depth_eq (hcount ▸ by omega), hcount]
    exact of_decide_eq_false rfl
  have horphan : ¬ (parentOf (slash :: name) ≠ [] ∧
      ¬ (r.find (parentOf (slash :: name))).isSome = true) := fun hor => hor.1 hparent
  unfold addEntity
  dsimp only
  rw [if_neg (not_or.mpr ⟨List.cons_ne_nil _ _, hnew⟩), if_neg hdepth, if_neg horphan]

/-- For each step: it stays a tree exactly if the step adds no such path. -/
theorem step_tree_iff {r r' : EntityRegistry} {e : RegistryEvent} (hgrown : ∃ listed,
    r.Shows listed ∧ Grown listed) (h : r.Tree) (hs : runs.step r e r') :
    r'.Tree ↔ NotRootSlash r e r' := by
  obtain ⟨listed, hshows, hg⟩ := hgrown
  -- a registry that grew is a tree exactly if no path begins with a slash
  have hroot := (tree_iff hshows hg).mp h
  obtain ⟨listed', hstep, hshows'⟩ := step_shows hshows hs
  rw [tree_iff hshows' (hg.step hstep)]
  cases hstep with
  | refused hret =>
    refine iff_of_true hroot ?_
    intro name type vtable ctx hname hcall
    -- such a call is accepted, so it is not the one refused
    have hadd := add_rootSlash hshows hg hroot hname type vtable ctx
    have hperform : r.perform e.call = (e.ret, e.destroyed, r') := hs
    rw [hcall] at hperform
    have hrefused : (r.addEntity (slash :: name) type vtable ctx).1 = e.ret :=
      (Prod.mk.inj hperform).1
    rw [hadd, hret] at hrefused
    cases hrefused
  | added ent hadded _ _ _ _ hparent =>
    have hcall := (RegistryEvent.added_eq_some hadded).1
    constructor
    · intro hall name type vtable ctx hname heq
      obtain ⟨hpath, -⟩ := RegistryCall.add.inj (hcall.symm.trans heq)
      refine hall ent (by simp) (by simp [hpath]) ?_
      rw [hparent, hpath]
      exact parentOf_append hname []
    · intro hnot a ha hslash hnil
      rcases List.mem_append.mp ha with hold | hnew
      · exact hroot a hold hslash hnil
      · obtain rfl := List.mem_singleton.mp hnew
        -- a path with a slash but no parent is the slash and a name
        obtain ⟨name, hname, hpath⟩ := exists_name hslash
        rw [← hparent, hnil, List.nil_append] at hpath
        exact hnot name a.type a.vtable a.adapterCtx hname (hpath ▸ hcall)
  | removed ent hremoved =>
    have hcall := (RegistryEvent.removed_eq_some hremoved).1
    refine iff_of_true (fun a ha => hroot a (List.mem_filter.mp ha).1) ?_
    intro name type vtable ctx _ heq
    cases hcall.symm.trans heq

/-- **The registry is a tree** throughout exactly the runs that add no path whose only
slash is its first letter. -/
theorem registry_tree_iff (es : List RegistryEvent) (r : EntityRegistry) :
    runs.Always (fun _ _ r' => r'.Tree) es r ↔ runs.Always NotRootSlash es r := by
  have hempty : Tree {} := (tree_iff .empty (by constructor <;> simp)).mpr (by simp [NoRootSlash])
  have hkeep : runs.Always (fun _ _ r' => r'.Tree) es r ↔
      runs.Always (fun _ _ r' => (∃ listed, r'.Shows listed ∧ Grown listed) ∧ r'.Tree) es r := by
    constructor
    · intro h
      exact h.imp fun _ _ _ _ hh hs htree => ⟨hist_grown (Lts.hist_concat hh hs), htree⟩
    · intro h
      exact h.imp fun _ _ _ _ _ _ hboth => hboth.2
  rw [hkeep]
  refine Lts.always_iff ?_ ?_
  · rintro _ rfl
    exact ⟨hist_grown (Lts.hist_nil rfl), hempty⟩
  · rintro r e r' ⟨⟨listed, hshows, hg⟩, htree⟩ hs
    obtain ⟨listed', hstep, hshows'⟩ := step_shows hshows hs
    rw [← step_tree_iff ⟨listed, hshows, hg⟩ htree hs]
    exact and_iff_right ⟨listed', hshows', hg.step hstep⟩

/-- The registry once `/a` has been added to an empty one. -/
def leadingSlash : EntityRegistry :=
  (addEntity (str "/a") .component none none {}).2

/-- `/a` is accepted, and its parent is not there. -/
theorem leading_slash_accepted :
    runs.Hist [⟨.add (str "/a") .component none none, true, none⟩] leadingSlash ∧
      ¬ runs.Always (fun _ _ r' => r'.Tree)
        [⟨.add (str "/a") .component none none, true, none⟩] leadingSlash := by
  have hinit : runs.Hist [] {} := Lts.hist_nil rfl
  have hstep : runs.step {} ⟨.add (str "/a") .component none none, true, none⟩ leadingSlash := by
    decide
  refine ⟨Lts.hist_concat hinit hstep, Lts.not_always_of_last hinit hstep ?_⟩
  intro htree
  have hparent := htree.parent [] (str "a") (by decide) (by decide)
  exact absurd hparent (by decide)

end EntityRegistry

end Sovd
