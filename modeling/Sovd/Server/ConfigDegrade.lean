import Sovd.Server.ConfigThrows

/-!
# Entities that cannot be had as asked

A topology that is not as it must be is meant to end in a `ConfigError`, and an entity
whose adapter cannot be had in a grouping node. `Degrades` is the two together.

`DocumentForeign` says for which documents an exception of another type is reached, in the
order in which the loader looks at what is in them; `degrades_iff` that there is nothing
else, but for the limits the registry sets to a path.
-/

namespace Sovd

open Fallible EntityRegistry

/-! ## The registry -/

/-- What the registry asks of a path, with the paths there are. -/
def RegistryAccepts (paths : List Bytes) (path : Bytes) : Prop :=
  path ≠ [] ∧ depth path ≤ kMaxEntityPathDepth ∧ path ∉ paths ∧
    (parentOf path = [] ∨ parentOf path ∈ paths)

namespace Topology

/-- What is registered for an entity with this adapter, or for a grouping node. -/
def entry (t : Topology) (path : Bytes) (type : EntityType) (context : Option AdapterContext) :
    RegistryEntity where
  path := path
  type := type
  parent := parentOf path
  vtable := context.map fun _ => {}
  adapterCtx := context.map fun _ => t.contexts.length

/-- One entity more, with its adapter, if it has one. -/
structure Added (t : Topology) (listed : List RegistryEntity) (path : Bytes) (type : EntityType)
    (context : Option AdapterContext) (t' : Topology) : Prop where
  shows : t'.registry.Shows (listed ++ [t.entry path type context])
  contexts : t'.contexts = t.contexts ++ context.toList

theorem Added.of_same {t t₁ t₂ : Topology} {listed : List RegistryEntity} {path : Bytes}
    {type : EntityType} {context : Option AdapterContext} (h : t.Added listed path type context t₁)
    (hsame : t₂.registry = t₁.registry ∧ t₂.contexts = t₁.contexts) :
    t.Added listed path type context t₂ :=
  ⟨hsame.1 ▸ h.shows, hsame.2.trans h.contexts⟩

end Topology

section

variable {t : Topology} {listed : List RegistryEntity}

theorem behaves_addEntityOrThrow (h : t.registry.Shows listed) (path : Bytes) (type : EntityType)
    (context : Option AdapterContext) :
    Behaves ConfigFailure.Foreign (addEntityOrThrow path type context t) False
      (RegistryAccepts (listed.map RegistryEntity.path) path)
      (t.Added listed path type context) := by
  have hfind : ∀ p, (t.registry.find p).isSome = true ↔ p ∈ listed.map RegistryEntity.path := by
    intro p
    rw [find, h.lookup_isSome, h.order_eq]
  unfold addEntityOrThrow addEntity
  simp only [hfind]
  split_ifs with hpath hdepth horphan
  · refine (Behaves.error_of_not (not_foreign_config _)).congr Iff.rfl ?_ fun _ h => h
    exact iff_of_false id fun hacc => hpath.elim hacc.1 hacc.2.2.1
  · refine (Behaves.error_of_not (not_foreign_config _)).congr Iff.rfl ?_ fun _ h => h
    exact iff_of_false id fun hacc => absurd hacc.2.1 (not_le.mpr hdepth)
  · refine (Behaves.error_of_not (not_foreign_config _)).congr Iff.rfl ?_ fun _ h => h
    exact iff_of_false id fun hacc => hacc.2.2.2.elim horphan.1 horphan.2
  · have hnone : t.registry.entities.lookup path = none := by
      rw [h.lookup_eq_none, h.order_eq]
      exact (not_or.mp hpath).2
    have haccepts : RegistryAccepts (listed.map RegistryEntity.path) path := by
      refine ⟨(not_or.mp hpath).1, not_lt.mp hdepth, (not_or.mp hpath).2, ?_⟩
      by_contra hno
      exact horphan (not_or.mp hno)
    refine ⟨iff_of_false (not_throws_ok _) id, iff_of_true (returns_ok _) haccepts, ?_⟩
    intro t' ht'
    obtain rfl := Except.ok.inj ht'
    exact ⟨h.insert (a := t.entry path type context) hnone, rfl⟩

end

/-! ## One entity -/

/-- The kind of adapter an entity asks for; empty where it does not say. -/
def kindOf (lib : YamlLib) (adapter : Yaml) : Bytes := (adapter.textAt lib (str "kind")).getD []

/-- The adapter the block asks for, if it can be built. -/
def adapterContext (env : ConfigEnv) (adapter : Yaml) : Option AdapterContext :=
  if kindOf env.yaml adapter = str "mock" then if env.haveMock then some .mock else none
  else if kindOf env.yaml adapter = str "uds_doip" then
    if env.haveUdsDoip then
      (udsDoipCreate env (fieldsDocument env.yaml adapter)).map .udsDoip
    else none
  else none

/-- The adapter of an entity. One without is a grouping node. -/
def entityContext (env : ConfigEnv) (node : Yaml) : Option AdapterContext :=
  match node.get (str "adapter") with
  | .ok (some adapter) => adapterContext env adapter
  | _ => none

/-- An exception that is no `ConfigError` is reached at the adapter block. What is read
after the entity is registered is only read if the registry accepts it. -/
def AdapterForeign (env : ConfigEnv) (accepted : Prop) (adapter : Yaml) : Prop :=
  adapter.isScalar = true ∨ adapter.NoText env.yaml (str "kind") ∨
    (kindOf env.yaml adapter = str "mock" ∧ env.haveMock = true ∧ accepted ∧
      CatalogForeign env adapter) ∨
    (kindOf env.yaml adapter = str "uds_doip" ∧ env.haveUdsDoip = true ∧
      UdsForeign env.yaml adapter) ∨
    kindOf env.yaml adapter = str "sovd_proxy" ∧ accepted ∧ ProxyForeign env.yaml adapter

/-- If it is a proxy it has an address. -/
def AdapterComplete (env : ConfigEnv) (adapter : Yaml) : Prop :=
  kindOf env.yaml adapter = str "sovd_proxy" → baseUrlOf env.yaml adapter ≠ []

section

variable {env : ConfigEnv} {t : Topology} {listed : List RegistryEntity} {path : Bytes}
  {type : EntityType} {adapter : Yaml}

theorem behaves_attachMock (h : t.registry.Shows listed) (hadapter : adapter.isScalar = false) :
    Behaves ConfigFailure.Foreign (attachMock env path type adapter t)
      (env.haveMock = true ∧ RegistryAccepts (listed.map RegistryEntity.path) path ∧
        CatalogForeign env adapter)
      (RegistryAccepts (listed.map RegistryEntity.path) path ∧
        ¬ (env.haveMock = true ∧ CatalogForeign env adapter))
      (t.Added listed path type (if env.haveMock then some .mock else none)) := by
  rw [attachMock]
  split_ifs with hmock
  · have hadd := behaves_addEntityOrThrow h path type (some .mock)
    refine (hadd.bind fun t₁ ht₁ => (behaves_attachRouterCatalog path t₁ hadapter).congr Iff.rfl
      Iff.rfl fun _ hsame => ht₁.of_same hsame).congr ?_ ?_ fun _ h => h
    · simp [hmock]
    · simp [hmock]
  · refine (behaves_addEntityOrThrow h path type none).congr ?_ ?_ fun _ h => h
    · simp [hmock]
    · simp [hmock]

theorem behaves_attachUdsDoip (h : t.registry.Shows listed) (hadapter : adapter.isScalar = false) :
    Behaves ConfigFailure.Foreign (attachUdsDoip env path type adapter t)
      (env.haveUdsDoip = true ∧ UdsForeign env.yaml adapter)
      (RegistryAccepts (listed.map RegistryEntity.path) path ∧
        ¬ (env.haveUdsDoip = true ∧ UdsForeign env.yaml adapter))
      (t.Added listed path type (if env.haveUdsDoip then
        (udsDoipCreate env (fieldsDocument env.yaml adapter)).map .udsDoip else none)) := by
  rw [attachUdsDoip]
  split_ifs with huds
  · refine ((behaves_udsDoipConfigJson hadapter).and_good.bind fun j hj =>
      (?_ : Behaves _ _ False (RegistryAccepts (listed.map RegistryEntity.path) path) _)).congr
      ?_ ?_ fun _ h => h
    · obtain ⟨hgood, rfl⟩ := hj
      cases hcreate : udsDoipCreate env (fieldsDocument env.yaml adapter) with
      | none => exact behaves_addEntityOrThrow h path type none
      | some config =>
        have hcatalog := not_catalogForeign_of_create hcreate hgood
        have hadd := behaves_addEntityOrThrow h path type (some (.udsDoip config))
        refine (hadd.bind fun t₁ ht₁ => (behaves_attachRouterCatalog path t₁ hadapter).congr
          Iff.rfl Iff.rfl fun _ hsame => ht₁.of_same hsame).congr ?_ ?_ fun _ h => h
        · simp [hcatalog]
        · simp [hcatalog]
    · simp [huds]
    · rw [and_iff_right huds, and_comm]
  · refine (behaves_addEntityOrThrow h path type none).congr ?_ ?_ fun _ h => h
    · simp [huds]
    · simp [huds]

theorem behaves_attachSovdProxy (h : t.registry.Shows listed)
    (hadapter : adapter.isScalar = false) :
    Behaves ConfigFailure.Foreign (attachSovdProxy env path type adapter t)
      (RegistryAccepts (listed.map RegistryEntity.path) path ∧ ProxyForeign env.yaml adapter)
      (RegistryAccepts (listed.map RegistryEntity.path) path ∧
        ¬ ProxyForeign env.yaml adapter ∧ baseUrlOf env.yaml adapter ≠ [])
      (t.Added listed path type none) := by
  rw [attachSovdProxy]
  have hadd := behaves_addEntityOrThrow h path type none
  refine (hadd.bind fun t₁ ht₁ => (behaves_proxy path t₁ hadapter).congr Iff.rfl
    Iff.rfl fun _ hsame => ht₁.of_same hsame).congr ?_ ?_ fun _ h => h
  · simp
  · simp

/-- The adapter block, whatever is in it. -/
theorem behaves_attachAdapter (h : t.registry.Shows listed) {node : Yaml}
    (hnode : node.get (str "adapter") = .ok (some adapter)) :
    Behaves ConfigFailure.Foreign (attachEntity env path type node t)
      (AdapterForeign env (RegistryAccepts (listed.map RegistryEntity.path) path) adapter)
      (RegistryAccepts (listed.map RegistryEntity.path) path ∧
        ¬ AdapterForeign env (RegistryAccepts (listed.map RegistryEntity.path) path) adapter ∧
        AdapterComplete env adapter)
      (t.Added listed path type (adapterContext env adapter)) := by
  rw [attachEntity, field_eq_ok.mpr hnode, AdapterForeign, AdapterComplete, adapterContext]
  change Behaves _ (adapter.textOr env.yaml (str "kind") [] >>= _) _ _ _
  cases hadapter : adapter.isScalar with
  | true =>
    -- `kind` cannot be looked up in a scalar
    have hthrown : adapter.textOr env.yaml (str "kind") [] = .error .yaml := by
      cases adapter with
      | scalar text => rfl
      | _ => cases hadapter
    rw [hthrown]
    exact (Behaves.error foreign_yaml).congr (by simp) (by simp) fun _ h => h
  | false =>
    by_cases hkind : adapter.NoText env.yaml (str "kind")
    · rw [textOr_of_noText _ hkind]
      exact (Behaves.error foreign_yaml).congr (by simp [hkind]) (by simp [hkind]) fun _ h => h
    rw [textOr_eq _ hadapter hkind, pure_bind, ← kindOf]
    -- the kinds in the order in which the loader compares them
    have hmock : str "mock" ≠ str "uds_doip" ∧ str "mock" ≠ str "sovd_proxy" := by decide
    have huds : str "uds_doip" ≠ str "sovd_proxy" := by decide
    by_cases hm : kindOf env.yaml adapter = str "mock"
    · rw [if_pos hm, if_pos hm]
      refine (behaves_attachMock h hadapter).congr ?_ (and_congr_right fun hacc => ?_) fun _ h => h
      · simp [hm, hkind, hmock]
      · simp [hm, hkind, hmock, hacc]
    rw [if_neg hm, if_neg hm]
    by_cases hu : kindOf env.yaml adapter = str "uds_doip"
    · rw [if_pos hu, if_pos hu]
      refine (behaves_attachUdsDoip h hadapter).congr ?_ (and_congr_right fun hacc => ?_)
        fun _ h => h
      · simp [hu, hkind, hmock.1.symm, huds]
      · simp [hu, hkind, hmock.1.symm, huds]
    rw [if_neg hu, if_neg hu]
    split_ifs with hp
    · refine (behaves_attachSovdProxy h hadapter).congr ?_ (and_congr_right fun hacc => ?_)
        fun _ h => h
      · simp [hp, hkind, hmock.2.symm, huds.symm]
      · simp [hp, hkind, hmock.2.symm, huds.symm, hacc]
    · -- any other kind is an entity without adapter
      refine (behaves_addEntityOrThrow h path type none).congr ?_ ?_ fun _ h => h
      · simp [hm, hu, hp, hkind]
      · simp [hm, hu, hp, hkind]

/-- An exception that is no `ConfigError` is reached at the adapter of an entity, if it
has one. -/
def EntityAdapterForeign (env : ConfigEnv) (paths : List Bytes) (node : Yaml) (path : Bytes) :
    Prop :=
  ∃ adapter, node.get (str "adapter") = .ok (some adapter) ∧
    AdapterForeign env (RegistryAccepts paths path) adapter

/-- The adapter of an entity, if it has one, is complete. -/
def EntityAdapterComplete (env : ConfigEnv) (node : Yaml) : Prop :=
  ∀ adapter, node.get (str "adapter") = .ok (some adapter) → AdapterComplete env adapter

theorem behaves_attachEntity (h : t.registry.Shows listed) {node : Yaml}
    (hnode : node.isScalar = false) :
    Behaves ConfigFailure.Foreign (attachEntity env path type node t)
      (EntityAdapterForeign env (listed.map RegistryEntity.path) node path)
      (RegistryAccepts (listed.map RegistryEntity.path) path ∧
        ¬ EntityAdapterForeign env (listed.map RegistryEntity.path) node path ∧
        EntityAdapterComplete env node)
      (t.Added listed path type (entityContext env node)) := by
  obtain ⟨found, hget⟩ := Yaml.get_of_not_scalar hnode (str "adapter")
  rw [EntityAdapterForeign, EntityAdapterComplete, entityContext, hget]
  cases found with
  | none =>
    rw [attachEntity, field_eq_ok.mpr hget]
    exact (behaves_addEntityOrThrow h path type none).congr (by simp) (by simp) fun _ h => h
  | some adapter => exact (behaves_attachAdapter h hget).congr (by simp) (by simp) fun _ h => h

end

/-! ## Entities -/

/-- The types an entity can have. -/
def entityTypeNames : List (Bytes × EntityType) :=
  [(str "vehicle", .vehicle), (str "area", .area), (str "component", .component)]

/-- The entity has a path, and a type that is known. -/
def EntityNamed (env : ConfigEnv) (node : Yaml) (path : Bytes) (type : EntityType) : Prop :=
  node.textAt env.yaml (str "path") = some path ∧
    ∃ name, node.textAt env.yaml (str "type") = some name ∧ (name, type) ∈ entityTypeNames

/-- An exception that is no `ConfigError` is reached at an entity, with the paths that were
registered before it. -/
def EntityForeign (env : ConfigEnv) (paths : List Bytes) (node : Yaml) : Prop :=
  node.isScalar = true ∨
    (∃ p y, node.get (str "path") = .ok (some p) ∧ node.get (str "type") = .ok (some y) ∧
      (p.scalarText env.yaml = none ∨ y.scalarText env.yaml = none)) ∨
    ∃ path type, EntityNamed env node path type ∧ EntityAdapterForeign env paths node path

/-- The entity can be registered. -/
def EntityLoads (env : ConfigEnv) (paths : List Bytes) (node : Yaml) : Prop :=
  ∃ path type, EntityNamed env node path type ∧ RegistryAccepts paths path ∧
    ¬ EntityAdapterForeign env paths node path ∧ EntityAdapterComplete env node

theorem mem_entityTypeNames {name : Bytes} {type : EntityType} :
    (name, type) ∈ entityTypeNames ↔ parseEntityType name = .ok type := by
  unfold parseEntityType
  split_ifs with hvehicle harea hcomponent
  · subst hvehicle
    cases type <;> decide
  · subst harea
    cases type <;> decide
  · subst hcomponent
    cases type <;> decide
  · refine iff_of_false (fun h => ?_) fun h => by cases h
    simp only [entityTypeNames, List.mem_cons, Prod.mk.injEq, List.not_mem_nil, or_false] at h
    tauto

theorem behaves_parseEntityType (name : Bytes) :
    Behaves ConfigFailure.Foreign (parseEntityType name) False
      (∃ type, (name, type) ∈ entityTypeNames) fun type => (name, type) ∈ entityTypeNames := by
  simp only [mem_entityTypeNames]
  refine ⟨iff_of_false ?_ id, Iff.rfl, fun _ h => h⟩
  unfold parseEntityType
  split_ifs
  · exact not_throws_pure _
  · exact not_throws_pure _
  · exact not_throws_pure _
  · exact fun h => not_foreign_config _ (throws_error.mp h)

section

variable {env : ConfigEnv} {t : Topology} {listed : List RegistryEntity} {node : Yaml}

/-- What is read of an entity before its adapter is looked at. -/
theorem behaves_entityTexts {p y : Yaml} (hp : node.get (str "path") = .ok (some p))
    (hy : node.get (str "type") = .ok (some y)) (h : t.registry.Shows listed) :
    Behaves ConfigFailure.Foreign
      (do
        let path ← p.toText env.yaml
        let type ← parseEntityType (← y.toText env.yaml)
        attachEntity env path type node t)
      (EntityForeign env (listed.map RegistryEntity.path) node)
      (EntityLoads env (listed.map RegistryEntity.path) node)
      fun t' => ∃ path type, EntityNamed env node path type ∧
        t.Added listed path type (entityContext env node) t' := by
  have hnode : node.isScalar = false := Bool.not_eq_true _ ▸ not_isScalar_of_get hp
  -- a field that is no text throws the exception of the YAML library
  have hthrown : ∀ v : Yaml, v.scalarText env.yaml = none → v.toText env.yaml = .error .yaml := by
    intro v hv
    rw [Yaml.toText, Yaml.asString, hv]
    rfl
  have hpathAt : node.textAt env.yaml (str "path") = p.scalarText env.yaml := textAt_of_get hp
  have hnameAt : node.textAt env.yaml (str "type") = y.scalarText env.yaml := textAt_of_get hy
  cases hpath : p.scalarText env.yaml with
  | none =>
    rw [hthrown p hpath]
    refine (Behaves.error foreign_yaml).congr ?_ ?_ fun _ h => h
    · simp [EntityForeign, hp, hy, hpath]
    · simp [EntityLoads, EntityNamed, hpathAt, hpath]
  | some path =>
    rw [toText_eq_ok.mpr hpath]
    cases hname : y.scalarText env.yaml with
    | none =>
      rw [hthrown y hname]
      refine (Behaves.error foreign_yaml).congr ?_ ?_ fun _ h => h
      · simp [EntityForeign, hp, hy, hname]
      · simp [EntityLoads, EntityNamed, hnameAt, hname]
    | some name =>
      rw [toText_eq_ok.mpr hname]
      -- both texts are there, so the rest is decided by the type and the adapter
      have hattach : ∀ type, (name, type) ∈ entityTypeNames →
          Behaves ConfigFailure.Foreign (attachEntity env path type node t)
            (EntityAdapterForeign env (listed.map RegistryEntity.path) node path)
            (RegistryAccepts (listed.map RegistryEntity.path) path ∧
              ¬ EntityAdapterForeign env (listed.map RegistryEntity.path) node path ∧
              EntityAdapterComplete env node)
            fun t' => ∃ path type, EntityNamed env node path type ∧
              t.Added listed path type (entityContext env node) t' := by
        intro type htype
        refine (behaves_attachEntity h hnode).congr Iff.rfl Iff.rfl fun t' ht' => ?_
        exact ⟨path, type, ⟨hpathAt.trans hpath, name, hnameAt.trans hname, htype⟩, ht'⟩
      refine ((behaves_parseEntityType name).bind hattach).congr ?_ ?_ fun _ h => h
      · simp [EntityForeign, EntityNamed, hnode, hp, hy, hpathAt, hnameAt, hpath, hname]
      · simp [EntityLoads, EntityNamed, hpathAt, hnameAt, hpath, hname]

/-- One round of the loop. -/
theorem behaves_loadEntity (h : t.registry.Shows listed) :
    Behaves ConfigFailure.Foreign (loadEntity env t node)
      (EntityForeign env (listed.map RegistryEntity.path) node)
      (EntityLoads env (listed.map RegistryEntity.path) node)
      fun t' => ∃ path type, EntityNamed env node path type ∧
        t.Added listed path type (entityContext env node) t' := by
  rw [loadEntity]
  cases hnode : node.isScalar with
  | true =>
    cases node with
    -- a field cannot be looked up in a scalar
    | scalar text =>
      refine (Behaves.error foreign_yaml).congr (iff_of_true trivial (.inl rfl)) ?_ fun _ h => h
      refine iff_of_false id ?_
      rintro ⟨path, type, ⟨hpath, -⟩, -⟩
      cases hpath
    | _ => cases hnode
  | false =>
    obtain ⟨p, hp⟩ := Yaml.get_of_not_scalar hnode (str "path")
    obtain ⟨y, hy⟩ := Yaml.get_of_not_scalar hnode (str "type")
    rw [requireField_of_get hp, requireField_of_get hy]
    have hpathAt : node.textAt env.yaml (str "path") = p.bind (Yaml.scalarText env.yaml) :=
      textAt_of_get hp
    have hnameAt : node.textAt env.yaml (str "type") = y.bind (Yaml.scalarText env.yaml) :=
      textAt_of_get hy
    cases p with
    -- `path` is missing
    | none =>
      refine (Behaves.error_of_not (not_foreign_config _)).congr ?_ ?_ fun _ h => h
      · simp [EntityForeign, EntityNamed, hnode, hp, hpathAt]
      · simp [EntityLoads, EntityNamed, hpathAt]
    | some p =>
      cases y with
      | none =>
        refine (Behaves.error_of_not (not_foreign_config _)).congr ?_ ?_ fun _ h => h
        · simp [EntityForeign, EntityNamed, hnode, hy, hnameAt]
        · simp [EntityLoads, EntityNamed, hnameAt]
      | some y => exact behaves_entityTexts hp hy h

end

/-! ## All entities -/

/-- What is registered holds the adapter, or nothing. -/
def HoldsContext (contexts : List AdapterContext) (e : RegistryEntity) :
    Option AdapterContext → Prop
  | none => e.vtable = none ∧ e.adapterCtx = none
  | some context => e.vtable.isSome = true ∧
      ∃ n, e.adapterCtx = some n ∧ contexts[n]? = some context

/-- What is registered is what the entity asks for, as far as it can be had. -/
structure MadeFrom (env : ConfigEnv) (contexts : List AdapterContext) (node : Yaml)
    (e : RegistryEntity) : Prop where
  named : EntityNamed env node e.path e.type
  parent : e.parent = parentOf e.path
  holds : HoldsContext contexts e (entityContext env node)

/-- The registry shows what was made from the entities. -/
structure Topology.Shows (t : Topology) (env : ConfigEnv) (nodes : List Yaml)
    (listed : List RegistryEntity) : Prop where
  shows : t.registry.Shows listed
  made : List.Forall₂ (MadeFrom env t.contexts) nodes listed

/-- An exception that is no `ConfigError` is reached at one of the entities, and all before
it can be registered. -/
def EntitiesForeign (env : ConfigEnv) : List Bytes → List Yaml → Prop
  | _, [] => False
  | paths, node :: nodes => EntityForeign env paths node ∨ EntityLoads env paths node ∧
      ∃ path, node.textAt env.yaml (str "path") = some path ∧
        EntitiesForeign env (paths ++ [path]) nodes

/-- Each entity can be registered after those before it. -/
def EntitiesLoad (env : ConfigEnv) : List Bytes → List Yaml → Prop
  | _, [] => True
  | paths, node :: nodes => EntityLoads env paths node ∧
      ∃ path, node.textAt env.yaml (str "path") = some path ∧
        EntitiesLoad env (paths ++ [path]) nodes

section

variable {env : ConfigEnv} {t : Topology}

/-- What is put after the contexts there are does not touch them. -/
theorem HoldsContext.append {contexts : List AdapterContext} {e : RegistryEntity}
    {context : Option AdapterContext} (h : HoldsContext contexts e context)
    (more : List AdapterContext) : HoldsContext (contexts ++ more) e context := by
  cases context with
  | none => exact h
  | some context =>
    obtain ⟨hvtable, n, hn, hget⟩ := h
    obtain ⟨hlt, -⟩ := List.getElem?_eq_some_iff.mp hget
    exact ⟨hvtable, n, hn, by rw [List.getElem?_append_left hlt, hget]⟩

theorem entry_holdsContext (path : Bytes) (type : EntityType) (context : Option AdapterContext) :
    HoldsContext (t.contexts ++ context.toList) (t.entry path type context) context := by
  cases context with
  | none => exact ⟨rfl, rfl⟩
  | some context => exact ⟨rfl, t.contexts.length, rfl, List.getElem?_concat_length⟩

theorem Topology.Shows.add {nodes : List Yaml} {listed : List RegistryEntity} {node : Yaml}
    {path : Bytes} {type : EntityType} {t' : Topology} (h : t.Shows env nodes listed)
    (hnamed : EntityNamed env node path type)
    (hadded : t.Added listed path type (entityContext env node) t') :
    t'.Shows env (nodes ++ [node]) (listed ++ [t.entry path type (entityContext env node)]) where
  shows := hadded.shows
  made := by
    rw [hadded.contexts]
    refine List.rel_append (h.made.imp fun _ e he => ?_) (.cons ?_ .nil)
    · exact ⟨he.named, he.parent, he.holds.append _⟩
    · exact ⟨hnamed, rfl, entry_holdsContext path type _⟩

/-- The loop: each entity is read with the paths of those before it. -/
theorem behaves_entities (nodes : List Yaml) :
    ∀ {done : List Yaml} {t : Topology} {listed : List RegistryEntity},
      t.Shows env done listed →
      Behaves ConfigFailure.Foreign (nodes.foldlM (loadEntity env) t)
        (EntitiesForeign env (listed.map RegistryEntity.path) nodes)
        (EntitiesLoad env (listed.map RegistryEntity.path) nodes)
        fun t' => ∃ listed', t'.Shows env (done ++ nodes) listed' := by
  induction nodes with
  | nil =>
    intro done t listed h
    refine (Behaves.pure ?_).congr Iff.rfl Iff.rfl fun _ h => h
    exact ⟨listed, by rwa [List.append_nil]⟩
  | cons node nodes ih =>
    intro done t listed h
    rw [List.foldlM_cons, EntitiesForeign, EntitiesLoad]
    refine (behaves_loadEntity h.shows).bind fun t' => ?_
    rintro ⟨path, type, hnamed, hadded⟩
    have hrest := ih (h.add hnamed hadded)
    rw [List.map_append, List.append_assoc] at hrest
    refine hrest.congr ?_ ?_ fun _ h => h
    · rw [hnamed.1]
      simp [Topology.entry]
    · rw [hnamed.1]
      simp [Topology.entry]

end

/-! ## Documents -/

section

variable (env : ConfigEnv) (root : Yaml)

/-- An exception that is no `ConfigError` is reached in the server block, or the block is
complete and one is reached at one of the entities. -/
def DocumentForeign : Prop :=
  ServerForeign env.yaml root ∨ ServerComplete env.yaml root ∧
    ∃ nodes, root.get (str "entities") = .ok (some (.seq nodes)) ∧ EntitiesForeign env [] nodes

/-- Each entity has a path and a known type, and an address if it is a proxy; its parent
comes before it, and its path does not. -/
def EntitiesListed (env : ConfigEnv) : List Bytes → List Yaml → Prop
  | _, [] => True
  | paths, node :: nodes => ∃ path type, EntityNamed env node path type ∧ path ∉ paths ∧
      (parentOf path = [] ∨ parentOf path ∈ paths) ∧ EntityAdapterComplete env node ∧
        EntitiesListed env (paths ++ [path]) nodes

/-- A configuration that is read to its end. -/
structure WellFormed : Prop where
  server : ServerComplete env.yaml root
  entities : ∃ nodes, root.get (str "entities") = .ok (some (.seq nodes)) ∧
    EntitiesListed env [] nodes

/-- No path of an entity is empty, or deeper than the registry goes. -/
def PathsOk : Prop :=
  ∀ nodes, root.get (str "entities") = .ok (some (.seq nodes)) → ∀ node ∈ nodes, ∀ path,
    node.textAt env.yaml (str "path") = some path → path ≠ [] ∧ depth path ≤ kMaxEntityPathDepth

/-- All the entities are in the registry, in the order of the document. -/
def RegisteredInOrder (t : Topology) : Prop :=
  ∃ nodes listed, root.get (str "entities") = .ok (some (.seq nodes)) ∧
    t.registry.listAll = some listed ∧ List.Forall₂ (MadeFrom env t.contexts) nodes listed

end

/-- A topology that is as it must be is returned, with all its entities; any other is, or
ends in a `ConfigError`. -/
structure Degrades (env : ConfigEnv) (yamlText : Bytes) : Prop where
  returned : ∀ root, env.yaml.load yamlText = .ok root → WellFormed env root →
    ∃ cfg t, loadTopologyFromString env yamlText = .ok (cfg, t) ∧ RegisteredInOrder env root t
  thrown : ∀ e, loadTopologyFromString env yamlText = .error e → ∃ what, e = .config what

section

variable {env : ConfigEnv} {root : Yaml}

/-- The server block is complete, and each entity can be registered after those before. -/
def DocumentLoads (env : ConfigEnv) (root : Yaml) : Prop :=
  ServerComplete env.yaml root ∧
    ∃ nodes, root.get (str "entities") = .ok (some (.seq nodes)) ∧ EntitiesLoad env [] nodes

theorem behaves_loadServer : Behaves ConfigFailure.Foreign (loadServer env.yaml root)
    (ServerForeign env.yaml root) (ServerComplete env.yaml root) fun _ => True :=
  ⟨throws_loadServer, returns_loadServer, fun _ _ => trivial⟩

theorem ServerComplete.not_isScalar (h : ServerComplete env.yaml root) : root.isScalar = false := by
  obtain ⟨server, -, -, -, ⟨hserver, -⟩, -⟩ := h
  exact Bool.not_eq_true _ ▸ not_isScalar_of_get hserver

theorem behaves_loadTopologyFromString {yamlText : Bytes}
    (hload : env.yaml.load yamlText = .ok root) :
    Behaves ConfigFailure.Foreign (loadTopologyFromString env yamlText)
      (DocumentForeign env root) (DocumentLoads env root)
      fun loaded => RegisteredInOrder env root loaded.2 := by
  rw [loadTopologyFromString, hload]
  refine (behaves_loadServer.and_good.bind fun loaded h => ?_).congr Iff.rfl Iff.rfl fun _ h => h
  obtain ⟨found, hget⟩ := Yaml.get_of_not_scalar h.1.not_isScalar (str "entities")
  rw [field_eq_ok.mpr hget, hget]
  match found with
  | some (.seq nodes) =>
    have hstart : ({ corsAllowedOrigins := loaded.2 } : Topology).Shows env [] [] :=
      ⟨OrderedTable.Shows.empty, .nil⟩
    refine ((behaves_entities nodes hstart).bind fun t ht => .pure ?_).congr ?_ ?_ fun _ h => h
    · obtain ⟨listed, hshows⟩ := ht
      exact ⟨nodes, listed, hget, hshows.shows.mapM_lookup, hshows.made⟩
    · simp
    · simp
  | none | some .null | some (.scalar _) | some (.map _) =>
    exact (Behaves.error_of_not (not_foreign_config _)).congr (by simp) (by simp) fun _ h => h

/-! ### Documents that are as they must be -/

theorem entitiesLoad_of_listed (nodes : List Yaml) : ∀ {paths : List Bytes},
    EntitiesListed env paths nodes →
    (∀ node ∈ nodes, ∀ path, node.textAt env.yaml (str "path") = some path →
      path ≠ [] ∧ depth path ≤ kMaxEntityPathDepth) →
    ¬ EntitiesForeign env paths nodes → EntitiesLoad env paths nodes := by
  induction nodes with
  | nil => exact fun _ _ _ => trivial
  | cons node nodes ih =>
    rintro paths ⟨path, type, hnamed, hnew, hparent, hcomplete, hlisted⟩ hok hno
    obtain ⟨hfirst, hrest⟩ := not_or.mp hno
    obtain ⟨hne, hdepth⟩ := hok node (List.mem_cons_self ..) path hnamed.1
    have hloads : EntityLoads env paths node := by
      refine ⟨path, type, hnamed, ⟨hne, hdepth, hnew, hparent⟩, fun hadapter => ?_, hcomplete⟩
      exact hfirst (.inr (.inr ⟨path, type, hnamed, hadapter⟩))
    refine ⟨hloads, path, hnamed.1, ih hlisted (fun n hn => hok n (List.mem_cons_of_mem _ hn)) ?_⟩
    exact fun hforeign => hrest ⟨hloads, path, hnamed.1, hforeign⟩

/-- The registry has seen each path. -/
theorem path_of_entitiesLoad (nodes : List Yaml) : ∀ {paths : List Bytes},
    EntitiesLoad env paths nodes → ∀ node ∈ nodes, ∀ path,
      node.textAt env.yaml (str "path") = some path →
        path ≠ [] ∧ depth path ≤ kMaxEntityPathDepth := by
  induction nodes with
  | nil => exact fun _ node hmem => absurd hmem List.not_mem_nil
  | cons node nodes ih =>
    rintro paths ⟨⟨path, type, hnamed, haccepts, -⟩, _, -, hrest⟩ n hn p hp
    rcases List.mem_cons.mp hn with rfl | hmem
    · obtain rfl : path = p := Option.some.inj (hnamed.1.symm.trans hp)
      exact ⟨haccepts.1, haccepts.2.1⟩
    · exact ih hrest n hmem p hp

theorem documentLoads_of_wellFormed (h : WellFormed env root) (hok : PathsOk env root)
    (hno : ¬ DocumentForeign env root) : DocumentLoads env root := by
  obtain ⟨nodes, hnodes, hlisted⟩ := h.entities
  refine ⟨h.server, nodes, hnodes, entitiesLoad_of_listed nodes hlisted (hok nodes hnodes) ?_⟩
  exact fun hforeign => hno (.inr ⟨h.server, nodes, hnodes, hforeign⟩)

theorem pathsOk_of_documentLoads (h : DocumentLoads env root) : PathsOk env root := by
  obtain ⟨-, nodes, hnodes, hloads⟩ := h
  intro nodes' hnodes'
  obtain rfl : nodes = nodes' := by
    rw [hnodes] at hnodes'
    simpa using hnodes'
  exact path_of_entitiesLoad nodes hloads

theorem not_throws_foreign {α : Type} {x : Except ConfigFailure α} :
    ¬ Throws ConfigFailure.Foreign x ↔ ∀ e, x = .error e → ∃ what, e = .config what := by
  constructor
  · intro h e he
    by_contra hno
    exact h ⟨e, he, not_exists.mp hno⟩
  · rintro h ⟨e, he, hforeign⟩
    obtain ⟨what, hwhat⟩ := h e he
    exact hforeign what hwhat

/-- **When a topology degrades.** A text that is no YAML always ends in a `ConfigError`. A
document does what it is meant to exactly when nothing in it is converted to what it is
not, looked into where it is a scalar, or handed on to what rejects it (`DocumentForeign`)
and, if it is otherwise as it must be, its paths are ones the registry takes. -/
theorem degrades_iff {yamlText : Bytes} :
    Degrades env yamlText ↔ ∀ root, env.yaml.load yamlText = .ok root →
      ¬ DocumentForeign env root ∧ (WellFormed env root → PathsOk env root) := by
  constructor
  · intro h root hload
    have hbehaves := behaves_loadTopologyFromString hload
    refine ⟨fun hforeign => ?_, fun hwell => ?_⟩
    · exact not_throws_foreign.mpr h.thrown (hbehaves.throws.mpr hforeign)
    · obtain ⟨cfg, t, hreturned, -⟩ := h.returned root hload hwell
      exact pathsOk_of_documentLoads (hbehaves.returns.mp ⟨_, hreturned⟩)
  · intro h
    refine ⟨fun root hload hwell => ?_, not_throws_foreign.mp fun hthrows => ?_⟩
    · have hbehaves := behaves_loadTopologyFromString hload
      obtain ⟨hno, hok⟩ := h root hload
      obtain ⟨⟨cfg, t⟩, hreturned⟩ :=
        hbehaves.returns.mpr (documentLoads_of_wellFormed hwell (hok hwell) hno)
      exact ⟨cfg, t, hreturned, hbehaves.ensures _ hreturned⟩
    · cases hload : env.yaml.load yamlText with
      | error what =>
        rw [loadTopologyFromString, hload] at hthrows
        exact not_foreign_config _ (throws_error.mp hthrows)
      | ok root =>
        have hbehaves := behaves_loadTopologyFromString hload
        exact (h root hload).1 (hbehaves.throws.mp hthrows)

end

/-! ## A port that is no number -/

namespace BadPort

/-- An adapter whose port is no number. -/
def yamlText : Bytes :=
  str ("server:\n  id: bench\n  port: 20002\n  role: domain\nentities:\n  - path: ecu\n" ++
    "    type: component\n    adapter:\n      kind: uds_doip\n      port: auto\n")

def server : Yaml :=
  .map [(.scalar (str "id"), .scalar (str "bench")), (.scalar (str "port"), .scalar (str "20002")),
    (.scalar (str "role"), .scalar (str "domain"))]

def entity : Yaml :=
  .map [(.scalar (str "path"), .scalar (str "ecu")),
    (.scalar (str "type"), .scalar (str "component")),
    (.scalar (str "adapter"), .map [(.scalar (str "kind"), .scalar (str "uds_doip")),
      (.scalar (str "port"), .scalar (str "auto"))])]

def root : Yaml :=
  .map [(.scalar (str "server"), server), (.scalar (str "entities"), .seq [entity])]

def env : ConfigEnv where
  yaml :=
    { load := fun text => if text = yamlText then .ok root else .error (str "bad file")
      asBool := fun _ => none
      asInt := Catalog.stoi
      asDouble := fun _ => none }
  files _ := none
  files_nil := rfl

/-- Nothing is missing, and nothing is registered twice. -/
theorem wellFormed : WellFormed env root where
  server := by
    refine ⟨server, _, _, _, ⟨rfl, rfl, rfl, rfl⟩, by decide, by decide, by decide, ?_, ?_⟩
    · rintro ⟨origins, h, -⟩
      change (Except.ok none : Except LoadError (Option Yaml)) = _ at h
      cases h
    · intro tls h
      change (Except.ok none : Except LoadError (Option Yaml)) = _ at h
      cases h
  entities := by
    refine ⟨[entity], rfl, str "ecu", .component, ⟨rfl, str "component", rfl, by decide⟩,
      List.not_mem_nil, .inl rfl, fun adapter h hkind => ?_, trivial⟩
    obtain rfl := Option.some.inj (Except.ok.inj h)
    exact absurd hkind (by decide)

end BadPort

/-- One adapter block with a word for a port, and no topology is loaded. -/
theorem bad_port_aborts :
    WellFormed BadPort.env BadPort.root ∧
      loadTopologyFromString BadPort.env BadPort.yamlText = .error .yaml ∧
      ¬ Degrades BadPort.env BadPort.yamlText := by
  have hthrown : loadTopologyFromString BadPort.env BadPort.yamlText = .error .yaml := by
    have hload : BadPort.env.yaml.load BadPort.yamlText = .ok BadPort.root := by
      simp only [BadPort.env, ↓reduceIte]
    rw [loadTopologyFromString, hload]
    rfl
  refine ⟨BadPort.wellFormed, hthrown, fun h => ?_⟩
  obtain ⟨what, hwhat⟩ := h.thrown .yaml hthrown
  cases hwhat

end Sovd
