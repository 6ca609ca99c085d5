import Sovd.Core.EntityRegistry

/-!
# What a registry lists and destroys (`core/src/entity_registry.cpp`)

A registry told by its calls. The add that put an entity there stands until a later
call takes the entity out (`StandsAt`); the entities of a registry are those whose add
stands, in the order of these adds, and a context is destroyed by the remove that ends
its add, or by the destructor.

`Listing` puts this together, and `listing_of_hist` shows it for every history, from
what one call does to the list of entities (`Stood.step`, `Accounted.step`).
-/

namespace Sovd

namespace EntityRegistry

/-! ## Adds that stand -/

/-- The `n`-th call added `ent`. -/
def Adds (es : List RegistryEvent) (n : Nat) (ent : RegistryEntity) : Prop :=
  ∃ e, es[n]? = some e ∧ e.added = some ent

/-- The call added or removed `path`. -/
def Touches (e : RegistryEvent) (path : Bytes) : Prop :=
  (∃ ent, e.added = some ent ∧ ent.path = path) ∨ e.removed = some path

/-- The `n`-th call added `ent`, and no later call touched its path. -/
structure StandsAt (es : List RegistryEvent) (n : Nat) (ent : RegistryEntity) : Prop where
  adds : Adds es n ent
  untouched : ∀ m e, n < m → es[m]? = some e → ¬ Touches e ent.path

/-- The `m`-th call removed and destroyed what the `n`-th had added. -/
structure DestroyedAt (es : List RegistryEvent) (n m : Nat) (ent : RegistryEntity) : Prop where
  stands : StandsAt (es.take m) n ent
  removes : ∃ e, es[m]? = some e ∧ e.removed = some ent.path ∧ e.destroyed = ent.owned

section

variable {es : List RegistryEvent} {e : RegistryEvent} {ent : RegistryEntity} {n m : Nat}

/-- An event of a longer history was there before, or is the new one. -/
theorem getElem?_concat_iff {x : RegistryEvent} :
    (es ++ [e])[n]? = some x ↔ es[n]? = some x ∨ (n = es.length ∧ e = x) := by
  rw [List.getElem?_append]
  split
  next hlt => simp [hlt.ne]
  next hge =>
    rw [List.getElem?_eq_none (not_lt.mp hge), List.getElem?_singleton]
    have hsub : n - es.length = 0 ↔ n = es.length := by omega
    simp [hsub]

theorem lt_of_getElem? {x : RegistryEvent} (h : es[n]? = some x) : n < es.length :=
  (List.getElem?_eq_some_iff.mp h).1

/-- An addition is one of the history, or the new event. -/
theorem adds_concat_iff : Adds (es ++ [e]) n ent ↔
    Adds es n ent ∨ (n = es.length ∧ e.added = some ent) := by
  unfold Adds
  constructor
  · rintro ⟨x, hx, hadded⟩
    rcases getElem?_concat_iff.mp hx with hold | ⟨hn, rfl⟩
    · exact .inl ⟨x, hold, hadded⟩
    · exact .inr ⟨hn, hadded⟩
  · rintro (⟨x, hold, hadded⟩ | ⟨hn, hadded⟩)
    · exact ⟨x, getElem?_concat_iff.mpr (.inl hold), hadded⟩
    · exact ⟨e, getElem?_concat_iff.mpr (.inr ⟨hn, rfl⟩), hadded⟩

/-- What added an entity is in the history. -/
theorem Adds.lt (h : Adds es n ent) : n < es.length := by
  obtain ⟨x, hx, _⟩ := h
  exact lt_of_getElem? hx

/-- An entity stands if it stood and is not touched, or is the new one. -/
theorem standsAt_concat_iff : StandsAt (es ++ [e]) n ent ↔
    (StandsAt es n ent ∧ ¬ Touches e ent.path) ∨ (n = es.length ∧ e.added = some ent) := by
  constructor
  · rintro ⟨hadds, huntouched⟩
    rcases adds_concat_iff.mp hadds with hold | hnew
    · refine .inl ⟨⟨hold, fun m x hm hx => ?_⟩, ?_⟩
      · exact huntouched m x hm (getElem?_concat_iff.mpr (.inl hx))
      · exact huntouched es.length e hold.lt (getElem?_concat_iff.mpr (.inr ⟨rfl, rfl⟩))
    · exact .inr hnew
  · rintro (⟨⟨hadds, huntouched⟩, hlast⟩ | ⟨rfl, hadded⟩)
    · refine ⟨adds_concat_iff.mpr (.inl hadds), fun m x hm hx => ?_⟩
      rcases getElem?_concat_iff.mp hx with hold | ⟨-, rfl⟩
      · exact huntouched m x hm hold
      · exact hlast
    · refine ⟨adds_concat_iff.mpr (.inr ⟨rfl, hadded⟩), fun m x hm hx => ?_⟩
      have hlt := lt_of_getElem? hx
      rw [List.length_append, List.length_singleton] at hlt
      omega

/-- A context is destroyed by the event that removes what stands. -/
theorem destroyedAt_concat_iff : DestroyedAt (es ++ [e]) n m ent ↔
    DestroyedAt es n m ent ∨
      (m = es.length ∧ StandsAt es n ent ∧ e.removed = some ent.path ∧
        e.destroyed = ent.owned) := by
  constructor
  · rintro ⟨hstands, x, hx, hremoves⟩
    rcases getElem?_concat_iff.mp hx with hold | ⟨rfl, rfl⟩
    · rw [List.take_append_of_le_length (lt_of_getElem? hold).le] at hstands
      exact .inl ⟨hstands, x, hold, hremoves⟩
    · rw [List.take_left] at hstands
      exact .inr ⟨rfl, hstands, hremoves⟩
  · rintro (⟨hstands, x, hold, hremoves⟩ | ⟨rfl, hstands, hremoves⟩)
    · refine ⟨?_, x, getElem?_concat_iff.mpr (.inl hold), hremoves⟩
      rwa [List.take_append_of_le_length (lt_of_getElem? hold).le]
    · refine ⟨?_, e, getElem?_concat_iff.mpr (.inr ⟨rfl, rfl⟩), hremoves⟩
      rwa [List.take_left]

end

/-! ## What one call does to them -/

/-- The listed entities are those whose add stands, in the order of the adds. -/
structure Stood (es : List RegistryEvent) (listed : List RegistryEntity) : Prop where
  stands : ∀ ent, ent ∈ listed ↔ ∃ n, StandsAt es n ent
  in_order : listed.Pairwise fun a b => ∃ m n, m < n ∧ StandsAt es m a ∧ StandsAt es n b

/-- Each entity added stands still or was destroyed once, by the remove that ended it,
and nothing else was destroyed. -/
structure Accounted (es : List RegistryEvent) : Prop where
  fate : ∀ n ent, Adds es n ent →
    (StandsAt es n ent ∧ ∀ m, ¬ DestroyedAt es n m ent) ∨
      (¬ StandsAt es n ent ∧ ∃! m, DestroyedAt es n m ent)
  source : ∀ m e c, es[m]? = some e → e.destroyed = some c →
    ∃ n ent, DestroyedAt es n m ent ∧ ent.owned = some c

section

variable {es : List RegistryEvent} {e : RegistryEvent} {listed listed' : List RegistryEntity}

/-- What is refused adds nothing. -/
theorem added_of_refused (h : e.ret = false) : e.added = none := by
  unfold RegistryEvent.added
  split
  · simp [h]
  · rfl

/-- What is refused removes nothing. -/
theorem removed_of_refused (h : e.ret = false) : e.removed = none := by
  unfold RegistryEvent.removed
  split
  · rfl
  · simp [h]

/-- What adds removes nothing. -/
theorem removed_of_added {ent : RegistryEntity} (h : e.added = some ent) : e.removed = none := by
  unfold RegistryEvent.removed
  rw [(RegistryEvent.added_eq_some h).1]

/-- What removes adds nothing. -/
theorem added_of_removed {path : Bytes} (h : e.removed = some path) : e.added = none := by
  unfold RegistryEvent.added
  rw [(RegistryEvent.removed_eq_some h).1]

/-- What stands after a call, for each thing the call can have done. -/
theorem stands_refused_iff {n : Nat} {a : RegistryEntity} (h : e.ret = false) :
    StandsAt (es ++ [e]) n a ↔ StandsAt es n a := by
  rw [standsAt_concat_iff, Touches, added_of_refused h, removed_of_refused h]
  simp

/-- What stands after something was added. -/
theorem stands_added_iff {n : Nat} {a ent : RegistryEntity} (h : e.added = some ent) :
    StandsAt (es ++ [e]) n a ↔
      (StandsAt es n a ∧ a.path ≠ ent.path) ∨ (n = es.length ∧ a = ent) := by
  rw [standsAt_concat_iff, Touches, h, removed_of_added h]
  simp [eq_comm]

/-- What stands after something was removed. -/
theorem stands_removed_iff {n : Nat} {a : RegistryEntity} {path : Bytes}
    (h : e.removed = some path) :
    StandsAt (es ++ [e]) n a ↔ StandsAt es n a ∧ a.path ≠ path := by
  rw [standsAt_concat_iff, Touches, h, added_of_removed h]
  simp [eq_comm]

/-- A step keeps the listing what stands. -/
theorem Stood.step (h : Stood es listed) (hs : ListStep listed e listed') :
    Stood (es ++ [e]) listed' := by
  cases hs with
  | refused hret =>
    refine ⟨?_, ?_⟩
    · simp only [stands_refused_iff hret]
      exact h.stands
    · simp only [stands_refused_iff hret]
      exact h.in_order
  | added ent hadded _ _ hnew =>
    -- an entity that stands is not put there a second time, so it stands on
    have hold : ∀ {n a}, a ∈ listed → StandsAt es n a → StandsAt (es ++ [e]) n a :=
      fun ha hstands => (stands_added_iff hadded).mpr (.inl ⟨hstands, hnew _ ha⟩)
    refine ⟨?_, ?_⟩
    · intro a
      rw [List.mem_append, List.mem_singleton]
      simp only [stands_added_iff hadded]
      constructor
      · rintro (ha | rfl)
        · obtain ⟨n, hn⟩ := (h.stands a).mp ha
          exact ⟨n, .inl ⟨hn, hnew a ha⟩⟩
        · exact ⟨es.length, .inr ⟨rfl, rfl⟩⟩
      · rintro ⟨n, ⟨hn, -⟩ | ⟨-, rfl⟩⟩
        · exact .inl ((h.stands a).mpr ⟨n, hn⟩)
        · exact .inr rfl
    · rw [List.pairwise_append]
      refine ⟨?_, List.pairwise_singleton _ _, ?_⟩
      · refine h.in_order.imp_of_mem ?_
        rintro a b ha hb ⟨m, n, hlt, hm, hn⟩
        exact ⟨m, n, hlt, hold ha hm, hold hb hn⟩
      · -- the new entity comes after all of them
        intro a ha b hb
        obtain rfl := List.mem_singleton.mp hb
        obtain ⟨m, hm⟩ := (h.stands a).mp ha
        exact ⟨m, es.length, hm.adds.lt, hold ha hm,
          (stands_added_iff hadded).mpr (.inr ⟨rfl, rfl⟩)⟩
  | removed ent hremoved _ hmem =>
    refine ⟨?_, ?_⟩
    · intro a
      rw [List.mem_filter, h.stands, bne_iff_ne]
      simp only [stands_removed_iff hremoved]
      exact ⟨fun ⟨⟨n, hn⟩, hne⟩ => ⟨n, hn, hne⟩, fun ⟨n, hn, hne⟩ => ⟨⟨n, hn⟩, hne⟩⟩
    · refine (h.in_order.filter _).imp_of_mem ?_
      rintro a b ha hb ⟨m, n, hlt, hm, hn⟩
      -- what is left has another path, so the removal is none of it
      have hkept : ∀ c ∈ listed.filter (fun c => c.path != ent.path), c.path ≠ ent.path :=
        fun c hc => bne_iff_ne.mp (List.mem_filter.mp hc).2
      exact ⟨m, n, hlt, (stands_removed_iff hremoved).mpr ⟨hm, hkept a ha⟩,
        (stands_removed_iff hremoved).mpr ⟨hn, hkept b hb⟩⟩

/-- A call that removes nothing leaves what was destroyed. -/
theorem destroyed_of_not_removed {n m : Nat} {ent : RegistryEntity} (h : e.removed = none) :
    DestroyedAt (es ++ [e]) n m ent ↔ DestroyedAt es n m ent := by
  rw [destroyedAt_concat_iff, h]
  simp

/-- A call that destroys nothing adds nothing to account for. -/
theorem Accounted.source_of_kept (h : Accounted es) (hremoved : e.removed = none)
    (hdestroyed : e.destroyed = none) {m : Nat} {x : RegistryEvent} {c : Nat}
    (hx : (es ++ [e])[m]? = some x) (hc : x.destroyed = some c) :
    ∃ n ent, DestroyedAt (es ++ [e]) n m ent ∧ ent.owned = some c := by
  rcases getElem?_concat_iff.mp hx with hold | ⟨-, rfl⟩
  · simp only [destroyed_of_not_removed hremoved]
    exact h.source m x c hold hc
  · rw [hdestroyed] at hc
    cases hc

/-- A refusal destroys nothing. -/
theorem Accounted.refused (h : Accounted es) (hret : e.ret = false)
    (hdestroyed : e.destroyed = none) : Accounted (es ++ [e]) := by
  have hremoved := removed_of_refused hret
  refine ⟨?_, fun m x c => h.source_of_kept hremoved hdestroyed⟩
  intro n ent hadds
  rw [adds_concat_iff, added_of_refused hret] at hadds
  simp only [stands_refused_iff hret, destroyed_of_not_removed hremoved]
  exact h.fate n ent (hadds.resolve_right (by simp))

/-- An addition destroys nothing. -/
theorem Accounted.added (h : Accounted es) (hstood : Stood es listed) {ent : RegistryEntity}
    (hadded : e.added = some ent) (hdestroyed : e.destroyed = none)
    (hnew : ∀ x ∈ listed, x.path ≠ ent.path) : Accounted (es ++ [e]) := by
  have hremoved := removed_of_added hadded
  refine ⟨?_, fun m x c => h.source_of_kept hremoved hdestroyed⟩
  intro n a hadds
  simp only [destroyed_of_not_removed hremoved]
  rcases adds_concat_iff.mp hadds with hold | ⟨rfl, hlast⟩
  · rcases h.fate n a hold with ⟨hstands, hnone⟩ | ⟨hgone, hone⟩
    · have hne := hnew a ((hstood.stands a).mpr ⟨n, hstands⟩)
      exact .inl ⟨(stands_added_iff hadded).mpr (.inl ⟨hstands, hne⟩), hnone⟩
    · refine .inr ⟨?_, hone⟩
      rw [stands_added_iff hadded]
      rintro (⟨hstands, -⟩ | ⟨hn, -⟩)
      · exact hgone hstands
      · exact absurd hn hold.lt.ne
  · obtain rfl := Option.some.inj (hadded.symm.trans hlast)
    refine .inl ⟨(stands_added_iff hadded).mpr (.inr ⟨rfl, rfl⟩), ?_⟩
    -- it is too new to have been destroyed
    intro m hm
    have hlt := hm.stands.adds.lt
    rw [List.length_take] at hlt
    omega

/-- A removal destroys what the entity owned. -/
theorem Accounted.removed (h : Accounted es) (hstood : Stood es listed)
    (hnodup : ∀ a ∈ listed, ∀ b ∈ listed, a.path = b.path → a = b) {ent : RegistryEntity}
    (hremoved : e.removed = some ent.path) (hdestroyed : e.destroyed = ent.owned)
    (hmem : ent ∈ listed) : Accounted (es ++ [e]) := by
  refine ⟨?_, ?_⟩
  · intro n a hadds
    rw [adds_concat_iff, added_of_removed hremoved] at hadds
    have hold := hadds.resolve_right (by simp)
    rcases h.fate n a hold with ⟨hstands, hnone⟩ | ⟨hgone, m, hm, hunique⟩
    · by_cases hpath : a.path = ent.path
      · -- the call ends this add, and destroys what it brought
        obtain rfl := hnodup a ((hstood.stands a).mpr ⟨n, hstands⟩) ent hmem hpath
        refine .inr ⟨fun hnow => ((stands_removed_iff hremoved).mp hnow).2 rfl, es.length, ?_, ?_⟩
        · exact destroyedAt_concat_iff.mpr (.inr ⟨rfl, hstands, hremoved, hdestroyed⟩)
        · intro m hm
          rcases destroyedAt_concat_iff.mp hm with hm | ⟨hm, -⟩
          · exact absurd hm (hnone m)
          · exact hm
      · refine .inl ⟨(stands_removed_iff hremoved).mpr ⟨hstands, hpath⟩, ?_⟩
        intro m hm
        rcases destroyedAt_concat_iff.mp hm with hm | ⟨-, -, hlast, -⟩
        · exact hnone m hm
        · exact hpath (Option.some.inj (hlast.symm.trans hremoved))
    · -- it was destroyed before, and is not destroyed twice
      refine .inr ⟨fun hnow => hgone ((stands_removed_iff hremoved).mp hnow).1, m, ?_, ?_⟩
      · exact destroyedAt_concat_iff.mpr (.inl hm)
      · intro m' hm'
        rcases destroyedAt_concat_iff.mp hm' with hm' | ⟨-, hstands, -⟩
        · exact hunique m' hm'
        · exact absurd hstands hgone
  · intro m x c hx hc
    rcases getElem?_concat_iff.mp hx with hold | ⟨rfl, rfl⟩
    · obtain ⟨n, a, hat, hc⟩ := h.source m x c hold hc
      exact ⟨n, a, destroyedAt_concat_iff.mpr (.inl hat), hc⟩
    · -- what the call destroys was owned by the entity it removes
      obtain ⟨n, hn⟩ := (hstood.stands ent).mp hmem
      exact ⟨n, ent, destroyedAt_concat_iff.mpr (.inr ⟨rfl, hn, hremoved, hdestroyed⟩),
        hdestroyed.symm.trans hc⟩

/-- Every step keeps the account. -/
theorem Accounted.step (h : Accounted es) (hstood : Stood es listed)
    (hnodup : ∀ a ∈ listed, ∀ b ∈ listed, a.path = b.path → a = b)
    (hs : ListStep listed e listed') : Accounted (es ++ [e]) := by
  cases hs with
  | refused hret hdestroyed => exact h.refused hret hdestroyed
  | added ent hadded hdestroyed _ hnew => exact h.added hstood hadded hdestroyed hnew
  | removed ent hremoved hdestroyed hmem =>
    exact h.removed hstood hnodup hremoved hdestroyed hmem

end

/-! ## The registry -/

/-- What `list_all` shows, and what the destructor would destroy. -/
structure Shown (es : List RegistryEvent) (r : EntityRegistry) (listed : List RegistryEntity) :
    Prop where
  paths : listed.map RegistryEntity.path = r.order
  found : ∀ a ∈ listed, r.find a.path = some a
  stood : Stood es listed
  parent_first : ∀ a ∈ listed, r.Registered a.parent →
    ∃ b, b.path = a.parent ∧ [b, a].Sublist listed
  left : r.destroyAll = some (listed.filterMap RegistryEntity.owned)

/-- A registry after the calls `es`. -/
structure Listing (es : List RegistryEvent) (r : EntityRegistry) : Prop where
  nodup : r.order.Nodup
  keys : ∀ path, path ∈ r.order ↔ path ∈ r.entities.map Prod.fst
  listed : ∃ listed, r.listAll = some listed ∧ Shown es r listed
  refused : ∀ e r', runs.step r e r' → e.ret = false → r' = r ∧ e.destroyed = none
  accounted : Accounted es

/-- A refusal changes nothing. -/
theorem step_refused {r r' : EntityRegistry} {e : RegistryEvent} (hs : runs.step r e r')
    (hret : e.ret = false) : r' = r ∧ e.destroyed = none := by
  obtain ⟨call, ret, destroyed⟩ := e
  obtain rfl : ret = false := hret
  cases call with
  | add path type vtable ctx =>
    obtain ⟨hret, hrest⟩ := Prod.mk.inj (show ((r.addEntity path type vtable ctx).1, none,
      (r.addEntity path type vtable ctx).2) = (false, destroyed, r') from hs)
    obtain ⟨rfl, rfl⟩ := Prod.mk.inj hrest
    refine ⟨?_, rfl⟩
    unfold addEntity at hret ⊢
    dsimp only at hret ⊢
    split_ifs at hret ⊢ <;> rfl
  | remove path =>
    have hs : r.removeEntity path = (false, destroyed, r') := hs
    unfold removeEntity at hs
    split at hs
    next =>
      obtain ⟨-, hrest⟩ := Prod.mk.inj hs
      exact ⟨(Prod.mk.inj hrest).2.symm, (Prod.mk.inj hrest).1.symm⟩
    next =>
      split_ifs at hs
      · obtain ⟨-, hrest⟩ := Prod.mk.inj hs
        exact ⟨(Prod.mk.inj hrest).2.symm, (Prod.mk.inj hrest).1.symm⟩
      · cases (Prod.mk.inj hs).1

/-- The list behind the two containers, after any history. -/
theorem hist_stood {es : List RegistryEvent} {r : EntityRegistry} (h : runs.Hist es r) :
    ∃ listed, r.Shows listed ∧ Grown listed ∧ Stood es listed ∧ Accounted es := by
  refine Lts.hist_induct
    (P := fun es r => ∃ listed, r.Shows listed ∧ Grown listed ∧ Stood es listed ∧ Accounted es)
    ?_ ?_ h
  · rintro _ rfl
    refine ⟨[], .empty, by constructor <;> simp, ⟨?_, .nil⟩, ⟨?_, by simp⟩⟩
    · intro ent
      refine iff_of_false (by simp) ?_
      rintro ⟨n, hn⟩
      exact absurd hn.adds.lt (Nat.not_lt_zero n)
    · intro n ent hadds
      exact absurd hadds.lt (Nat.not_lt_zero n)
  · rintro es r e r' - ⟨listed, hshows, hgrown, hstood, haccounted⟩ hs
    obtain ⟨listed', hstep, hshows'⟩ := step_shows hshows hs
    exact ⟨listed', hshows', hgrown.step hstep, hstood.step hstep,
      haccounted.step hstood (fun a ha b hb => hshows.eq_of_key ha hb) hstep⟩

/-- **The listing agrees with the map**, and with the calls, after any series of calls. -/
theorem listing_of_hist {es : List RegistryEvent} {r : EntityRegistry} (h : runs.Hist es r) :
    Listing es r := by
  obtain ⟨listed, hshows, hgrown, hstood, haccounted⟩ := hist_stood h
  have hlist : r.listAll = some listed := hshows.mapM_lookup
  refine ⟨hshows.nodup_order, ?_, ⟨listed, hlist, hshows.order_eq.symm, ?_, hstood, ?_, ?_⟩,
    fun e r' hs hret => step_refused hs hret, haccounted⟩
  · intro path
    rw [hshows.order_eq, (hshows.perm.map Prod.fst).mem_iff, List.map_map]
    rfl
  · intro a ha
    exact hshows.lookup_eq_some.mpr ⟨ha, rfl⟩
  · intro a ha hreg
    refine hgrown.parent_first a ha fun hnil => ?_
    obtain ⟨b, hb, hpath⟩ := (registered_iff hshows).mp hreg
    exact hgrown.path_ne_nil b hb (hpath.trans hnil)
  · rw [destroyAll, hlist, Option.map_some]

def vehicle : EntityRegistry := (addEntity (str "vehicle") .vehicle none none {}).2

def vehicleBody : EntityRegistry :=
  (addEntity (str "vehicle/body") .area (some {}) (some 7) vehicle).2

/-- A child with a context is added and removed. -/
theorem listing_childRemoved :
    Listing [⟨.add (str "vehicle") .vehicle none none, true, none⟩,
      ⟨.add (str "vehicle/body") .area (some {}) (some 7), true, none⟩,
      ⟨.remove (str "vehicle/body"), true, some 7⟩] vehicle := by
  refine listing_of_hist ⟨{}, rfl, vehicle, ?_, vehicleBody, ?_, vehicle, ?_, rfl⟩
  · decide +kernel
  · decide +kernel
  · decide +kernel

/-- Without a vtable there is nothing to destroy a context with. -/
theorem context_without_vtable :
    runs.Hist [⟨.add (str "vehicle") .vehicle none (some 7), true, none⟩,
        ⟨.remove (str "vehicle"), true, none⟩] {} ∧
      destroyAll {} = some [] := by
  refine ⟨⟨{}, rfl, (addEntity (str "vehicle") .vehicle none (some 7) {}).2, ?_, {}, ?_, rfl⟩, rfl⟩
  · decide +kernel
  · decide +kernel

end EntityRegistry

end Sovd
