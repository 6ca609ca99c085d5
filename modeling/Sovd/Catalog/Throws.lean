import Sovd.Catalog.Loader

/-!
# What the loader throws

Whoever loads a catalog expects a `CatalogError`, and nothing else. The loader checks
what it finds: a section that is no sequence, a field that is missing, a number out of
range. It does not check what it looks for a field in, and `node[key]` on a scalar throws
an exception of the library; so does the conversion to text of a key or a label that has
none.

`load_total_iff` says for which documents one of these gets out (`DocumentThrows`). They
are described by what is in them, entry by entry: what comes after an entry that is
refused is never looked at. The part on what is returned has no exceptions: an encoding
was checked.
-/

namespace Sovd

open Fallible

/-- An exception of the YAML library. -/
def LoadError.IsYaml (e : LoadError) : Prop := e = .yaml

/-- A `CatalogError` is none of the YAML library. -/
theorem not_isYaml_catalog (e : CatalogError) : ¬ LoadError.IsYaml (.catalog e) :=
  fun h => by cases h

/-! ## Documents -/

section

variable (lib : YamlLib)

/-- Key and label of an enumeration's entry, of which the loader makes a value. -/
def EnumRead (entry : Yaml × Yaml) : Prop :=
  ∃ key raw label, entry.1.scalarText lib = some key ∧ Catalog.stoi key = some raw ∧
    entry.2.scalarText lib = some label

/-- The key has no text, or it is a number and the label has none. -/
def EnumThrows (entry : Yaml × Yaml) : Prop :=
  entry.1.scalarText lib = none ∨ ∃ key raw, entry.1.scalarText lib = some key ∧
    Catalog.stoi key = some raw ∧ entry.2.scalarText lib = none

/-- The `values` map is there, and every entry can be read. -/
def ValuesRead (item : Yaml) : Prop :=
  ∃ entries, item.get (str "values") = .ok (some (.map entries)) ∧ ∀ e ∈ entries, EnumRead lib e

/-- The first entry that cannot be read is no scalar. -/
def ValuesThrow (item : Yaml) : Prop :=
  ∃ entries, item.get (str "values") = .ok (some (.map entries)) ∧
    FirstIs (EnumRead lib) (EnumThrows lib) entries

/-- The encoding of a number has one to eight bytes in one of two orders. -/
def EncodingRead (item : Yaml) : Prop :=
  ∃ entries, item.get (str "encoding") = .ok (some (.map entries)) ∧
    let bytes := (((Yaml.map entries).text? (str "bytes")).bind lib.asInt).getD 0
    let endian := ((Yaml.map entries).text? (str "endian")).getD (str "big")
    (1 ≤ bytes ∧ bytes ≤ 8) ∧ (endian = str "big" ∨ endian = str "little")

/-- An entry of `data` of which the loader makes an item. -/
def ItemRead (item : Yaml) : Prop :=
  Catalog.HasHeader item ∧
    ((item.text? (str "type")).map Catalog.parseDataType = some .float → EncodingRead lib item) ∧
    ((item.text? (str "type")).map Catalog.parseDataType = some .enum → ValuesRead lib item)

/-- A scalar, or an enumeration at one of whose entries the text is missing. -/
def ItemThrows (item : Yaml) : Prop :=
  item.isScalar = true ∨ Catalog.HasHeader item ∧
    (item.text? (str "type")).map Catalog.parseDataType = some .enum ∧ ValuesThrow lib item

/-- An entry of `operations` of which the loader makes an operation. -/
def OperationRead (item : Yaml) : Prop :=
  (∃ t, item.text? (str "id") = some t) ∧
    ∃ v, (item.text? (str "routine_id")).bind parseHexU16 = some v

/-- The section is not there, or its entries are all good. -/
def SectionRead (root : Yaml) (key : Bytes) (good : Yaml → Prop) : Prop :=
  root.get key = .ok none ∨ ∃ items, root.get key = .ok (some (.seq items)) ∧ ∀ i ∈ items, good i

/-- The first bad entry of a section is one that throws. -/
def SectionThrows (root : Yaml) (key : Bytes) (good bad : Yaml → Prop) : Prop :=
  ∃ items, root.get key = .ok (some (.seq items)) ∧ FirstIs good bad items

/-- The documents the loader comes to grief over. -/
def DocumentThrows (root : Yaml) : Prop :=
  root.isScalar = true ∨ SectionThrows root (str "data") (ItemRead lib) (ItemThrows lib) ∨
    SectionRead root (str "data") (ItemRead lib) ∧
      SectionThrows root (str "operations") OperationRead fun op => op.isScalar = true

end

namespace Catalog

section

variable {lib : YamlLib}

/-! ## Entries of an enumeration -/

/-- `as<std::string>()` gives the text of a scalar. -/
theorem asString_eq_ok {node : Yaml} {text : Bytes} :
    node.asString lib = .ok text ↔ node.scalarText lib = some text := by
  unfold Yaml.asString
  cases node.scalarText lib with
  | none => simp
  | some text => simp

/-- `as<std::string>()` throws where there is no scalar. -/
theorem throws_asString {node : Yaml} :
    Throws LoadError.IsYaml (node.asString lib) ↔ node.scalarText lib = none := by
  unfold Yaml.asString
  cases node.scalarText lib with
  | none => simp [LoadError.IsYaml]
  | some text => simp

/-- An entry of `values` is read exactly as `EnumRead` says. -/
theorem returns_parseEnumValue {context : Bytes} {entry : Yaml × Yaml} :
    Returns (parseEnumValue lib context entry) ↔ EnumRead lib entry := by
  rw [parseEnumValue, returns_bind]
  constructor
  · rintro ⟨key, hkey, h⟩
    split at h
    next raw hraw =>
      obtain ⟨label, hlabel, -⟩ := returns_bind.mp h
      exact ⟨key, raw, label, asString_eq_ok.mp hkey, hraw, asString_eq_ok.mp hlabel⟩
    next => exact absurd h (not_returns_error _)
  · rintro ⟨key, raw, label, hkey, hraw, hlabel⟩
    refine ⟨key, asString_eq_ok.mpr hkey, ?_⟩
    rw [hraw]
    exact returns_bind.mpr ⟨label, asString_eq_ok.mpr hlabel, returns_pure _⟩

/-- An entry of `values` throws exactly as `EnumThrows` says. -/
theorem throws_parseEnumValue {context : Bytes} {entry : Yaml × Yaml} :
    Throws LoadError.IsYaml (parseEnumValue lib context entry) ↔ EnumThrows lib entry := by
  rw [parseEnumValue, throws_bind, throws_asString]
  refine or_congr_right ?_
  constructor
  · rintro ⟨key, hkey, h⟩
    split at h
    next raw hraw =>
      rcases throws_bind.mp h with h | ⟨label, -, h⟩
      · exact ⟨key, raw, asString_eq_ok.mp hkey, hraw, throws_asString.mp h⟩
      · exact absurd h (not_throws_pure _)
    next => exact absurd (throws_error.mp h) (not_isYaml_catalog _)
  · rintro ⟨key, raw, hkey, hraw, hlabel⟩
    refine ⟨key, asString_eq_ok.mpr hkey, ?_⟩
    rw [hraw]
    exact throws_bind.mpr (.inl (throws_asString.mpr hlabel))

/-! ## Items -/

/-- Asking a scalar for a field throws. -/
theorem throws_get {node : Yaml} {key : Bytes} :
    Throws LoadError.IsYaml (node.get key) ↔ node.isScalar = true := by
  cases node with
  | scalar text => simp [Yaml.get, Yaml.isScalar, LoadError.IsYaml]
  | null => simp [Yaml.get, Yaml.isScalar]
  | seq items => simp [Yaml.get, Yaml.isScalar]
  | map entries => simp [Yaml.get, Yaml.isScalar]

/-- The map is read exactly if all of it is. -/
theorem returns_parseEnumValues {item : Yaml} {context : Bytes} :
    Returns (parseEnumValues lib item context) ↔ ValuesRead lib item := by
  rw [parseEnumValues, returns_bind]
  constructor
  · rintro ⟨found, hget, h⟩
    split at h
    next entries =>
      exact ⟨entries, hget, fun e he => returns_parseEnumValue.mp (returns_mapM.mp h e he)⟩
    next => exact absurd h (not_returns_error _)
  · rintro ⟨entries, hget, h⟩
    exact ⟨_, hget, returns_mapM.mpr fun e he => returns_parseEnumValue.mpr (h e he)⟩

/-- The map throws exactly if its first bad entry does. -/
theorem throws_parseEnumValues {item : Yaml} {context : Bytes} (hitem : item.isScalar = false) :
    Throws LoadError.IsYaml (parseEnumValues lib item context) ↔ ValuesThrow lib item := by
  have hentries : ∀ entries : List (Yaml × Yaml),
      Throws LoadError.IsYaml (entries.mapM (parseEnumValue lib context)) ↔
        FirstIs (EnumRead lib) (EnumThrows lib) entries := by
    intro entries
    rw [throws_mapM]
    simp only [returns_parseEnumValue, throws_parseEnumValue]
  rw [parseEnumValues, throws_bind, throws_get, hitem]
  constructor
  · rintro (hscalar | ⟨found, hget, h⟩)
    · cases hscalar
    · split at h
      next entries => exact ⟨entries, hget, (hentries entries).mp h⟩
      next => exact absurd (throws_error.mp h) (not_isYaml_catalog _)
  · rintro ⟨entries, hget, h⟩
    exact .inr ⟨_, hget, (hentries entries).mpr h⟩

/-- An encoding is read exactly as `EncodingRead` says. -/
theorem returns_parseEncoding {item : Yaml} {context : Bytes} :
    Returns (parseEncoding lib item context) ↔ EncodingRead lib item := by
  rw [parseEncoding, returns_bind]
  constructor
  · rintro ⟨found, hget, h⟩
    split at h
    next entries =>
      have henc : (Yaml.map entries).isScalar = false := rfl
      dsimp only at h
      rw [optionalScalar_eq henc, pure_bind, optionalString_eq henc, pure_bind,
        optionalScalar_eq henc, pure_bind, optionalString_eq henc, pure_bind] at h
      refine ⟨entries, hget, ?_⟩
      dsimp only
      split_ifs at h with hbytes hendian
      · exact absurd h (not_returns_error _)
      · exact absurd h (not_returns_error _)
      · exact ⟨by omega, by tauto⟩
    next => exact absurd h (not_returns_error _)
  · rintro ⟨entries, hget, hbytes, hendian⟩
    have henc : (Yaml.map entries).isScalar = false := rfl
    refine ⟨_, hget, ?_⟩
    dsimp only at hbytes hendian ⊢
    rw [optionalScalar_eq henc, pure_bind, optionalString_eq henc, pure_bind,
      optionalScalar_eq henc, pure_bind, optionalString_eq henc, pure_bind,
      if_neg (by omega), if_neg (by tauto)]
    exact returns_pure _

/-- The encoding of an item that is no scalar never throws. -/
theorem not_throws_parseEncoding {item : Yaml} {context : Bytes} (hitem : item.isScalar = false) :
    ¬ Throws LoadError.IsYaml (parseEncoding lib item context) := by
  rw [parseEncoding, throws_bind, throws_get, hitem]
  rintro (hscalar | ⟨found, hget, h⟩)
  · cases hscalar
  · split at h
    next entries =>
      have henc : (Yaml.map entries).isScalar = false := rfl
      dsimp only at h
      rw [optionalScalar_eq henc, pure_bind, optionalString_eq henc, pure_bind,
        optionalScalar_eq henc, pure_bind, optionalString_eq henc, pure_bind] at h
      split_ifs at h
      · exact absurd (throws_error.mp h) (not_isYaml_catalog _)
      · exact absurd (throws_error.mp h) (not_isYaml_catalog _)
      · exact absurd h (not_throws_pure _)
    next => exact absurd (throws_error.mp h) (not_isYaml_catalog _)

/-- What depends on the type, by type. -/
theorem returns_parseTypeFields {item : Yaml} {context : Bytes} {d : DataItem}
    (hitem : item.isScalar = false) :
    Returns (parseTypeFields lib item context d) ↔
      (d.type = .float → EncodingRead lib item) ∧ (d.type = .enum → ValuesRead lib item) := by
  unfold parseTypeFields
  cases d.type with
  | string =>
    dsimp only
    rw [optionalScalar_eq hitem, pure_bind]
    simp
  | float =>
    dsimp only
    rw [returns_bind_pure, returns_parseEncoding]
    simp
  | enum =>
    dsimp only
    rw [returns_bind_pure, returns_parseEnumValues]
    simp
  | raw => simp

/-- Of the fields of a type only the `values` can throw. -/
theorem throws_parseTypeFields {item : Yaml} {context : Bytes} {d : DataItem}
    (hitem : item.isScalar = false) :
    Throws LoadError.IsYaml (parseTypeFields lib item context d) ↔
      d.type = .enum ∧ ValuesThrow lib item := by
  unfold parseTypeFields
  cases d.type with
  | string =>
    dsimp only
    rw [optionalScalar_eq hitem, pure_bind]
    exact ⟨fun h => absurd h (not_throws_pure _), fun h => absurd h.1 (by decide)⟩
  | float =>
    dsimp only
    rw [throws_bind_pure]
    exact ⟨fun h => absurd h (not_throws_parseEncoding hitem), fun h => absurd h.1 (by decide)⟩
  | enum =>
    dsimp only
    rw [throws_bind_pure, throws_parseEnumValues hitem]
    exact ⟨fun h => ⟨rfl, h⟩, fun h => h.2⟩
  | raw => exact ⟨fun h => absurd h (not_throws_pure _), fun h => absurd h.1 (by decide)⟩

/-- **A data item is read exactly as `ItemRead` says.** -/
theorem returns_parseDataItem {item : Yaml} :
    Returns (parseDataItem lib item) ↔ ItemRead lib item := by
  cases hitem : item.isScalar with
  | true =>
    cases item with
    | scalar text =>
      refine ⟨fun h => absurd h (not_returns_error _), fun h => ?_⟩
      obtain ⟨t, ht⟩ := h.1.id
      cases ht
    | _ => cases hitem
  | false =>
    rcases parseDataItem_cases lib hitem with ⟨hno, e, he⟩ | ⟨hheader, context, d, hd, heq⟩
    · rw [he]
      exact ⟨fun h => absurd h (not_returns_error _), fun h => absurd h.1 hno⟩
    · rw [heq, returns_parseTypeFields hitem, ItemRead, hd.type, Option.some.injEq,
        Option.some.injEq]
      exact ⟨fun h => ⟨hheader, h⟩, fun h => h.2⟩

/-- **and throws exactly as `ItemThrows` does.** -/
theorem throws_parseDataItem {item : Yaml} :
    Throws LoadError.IsYaml (parseDataItem lib item) ↔ ItemThrows lib item := by
  cases hitem : item.isScalar with
  | true =>
    cases item with
    | scalar text => exact ⟨fun _ => .inl rfl, fun _ => ⟨.yaml, rfl, rfl⟩⟩
    | _ => cases hitem
  | false =>
    have hno : ¬ item.isScalar = true := by
      rw [hitem]
      exact Bool.false_ne_true
    rcases parseDataItem_cases lib hitem with ⟨hheader, e, he⟩ | ⟨hheader, context, d, hd, heq⟩
    · rw [he, throws_error]
      refine ⟨fun h => absurd h (not_isYaml_catalog _), ?_⟩
      rintro (h | ⟨h, -⟩)
      · exact absurd h hno
      · exact absurd h hheader
    · rw [heq, throws_parseTypeFields hitem, ItemThrows, hd.type]
      constructor
      · rintro ⟨htype, hvalues⟩
        exact .inr ⟨hheader, by rw [htype], hvalues⟩
      · rintro (h | ⟨-, htype, hvalues⟩)
        · exact absurd h hno
        · exact ⟨Option.some.inj htype, hvalues⟩

/-! ## Operations -/

/-- An operation that is a map is read or is a `CatalogError`. -/
theorem parseOperation_cases {item : Yaml} (hitem : item.isScalar = false) :
    (¬ OperationRead item ∧ ∃ e, parseOperation lib item = .error (.catalog e)) ∨
      OperationRead item ∧ Returns (parseOperation lib item) := by
  unfold parseOperation
  cases hid : item.text? (str "id") with
  | none =>
    refine .inl ⟨fun h => ?_, _, by rw [requireString_of_none _ hitem hid]; rfl⟩
    obtain ⟨t, ht⟩ := h.1
    rw [hid] at ht
    cases ht
  | some id =>
    rw [requireString_of_some _ hid, pure_bind]
    dsimp only
    cases hroutine : item.text? (str "routine_id") with
    | none =>
      refine .inl ⟨fun h => ?_, _, by rw [requireString_of_none _ hitem hroutine]; rfl⟩
      obtain ⟨v, hv⟩ := h.2
      rw [hroutine] at hv
      cases hv
    | some routineText =>
      rw [requireString_of_some _ hroutine, pure_bind]
      cases hparsed : Sovd.parseHexU16 routineText with
      | none =>
        obtain ⟨e, he⟩ := parseHexU16_of_none (str "operation '" ++ id ++ str "'") hparsed
        refine .inl ⟨fun h => ?_, e, by rw [he]; rfl⟩
        obtain ⟨v, hv⟩ := h.2
        rw [hroutine, Option.bind_some, hparsed] at hv
        cases hv
      | some routineId =>
        rw [parseHexU16_of_some _ hparsed, pure_bind, optionalString_eq hitem, pure_bind,
          optionalScalar_eq hitem, pure_bind]
        refine .inr ⟨⟨⟨id, hid⟩, routineId, ?_⟩, returns_pure _⟩
        rw [hroutine, Option.bind_some, hparsed]

/-- It is read exactly as `OperationRead` says. -/
theorem returns_parseOperation {item : Yaml} :
    Returns (parseOperation lib item) ↔ OperationRead item := by
  cases hitem : item.isScalar with
  | true =>
    cases item with
    | scalar text =>
      refine ⟨fun h => absurd h (not_returns_error _), fun h => ?_⟩
      obtain ⟨t, ht⟩ := h.1
      cases ht
    | _ => cases hitem
  | false =>
    rcases @parseOperation_cases lib item hitem with ⟨hno, e, he⟩ | ⟨hread, hreturns⟩
    · rw [he]
      exact ⟨fun h => absurd h (not_returns_error _), fun h => absurd h hno⟩
    · exact ⟨fun _ => hread, fun _ => hreturns⟩

/-- An operation throws only if it is no map at all. -/
theorem throws_parseOperation {item : Yaml} :
    Throws LoadError.IsYaml (parseOperation lib item) ↔ item.isScalar = true := by
  cases hitem : item.isScalar with
  | true =>
    cases item with
    | scalar text => exact ⟨fun _ => rfl, fun _ => ⟨.yaml, rfl, rfl⟩⟩
    | _ => cases hitem
  | false =>
    refine ⟨fun h => ?_, fun h => by cases h⟩
    rcases @parseOperation_cases lib item hitem with ⟨-, e, he⟩ | ⟨-, hreturns⟩
    · rw [he] at h
      exact absurd (throws_error.mp h) (not_isYaml_catalog _)
    · exact absurd hreturns h.not_returns

/-! ## Sections -/

/-- A section is read entry by entry, if it is there. -/
theorem returns_section {α : Type} {root : Yaml} {key what : Bytes}
    {f : Yaml → Except LoadError α} {good : Yaml → Prop} (hf : ∀ i, Returns (f i) ↔ good i) :
    Returns (do match ← root.get key with
      | none => pure []
      | some (.seq items) => items.mapM f
      | some _ => catalogError what) ↔ SectionRead root key good := by
  rw [returns_bind]
  constructor
  · rintro ⟨found, hget, h⟩
    split at h
    next => exact .inl hget
    next items => exact .inr ⟨items, hget, fun i hi => (hf i).mp (returns_mapM.mp h i hi)⟩
    next => exact absurd h (not_returns_error _)
  · rintro (hget | ⟨items, hget, h⟩)
    · exact ⟨_, hget, returns_pure _⟩
    · exact ⟨_, hget, returns_mapM.mpr fun i hi => (hf i).mpr (h i hi)⟩

/-- A section throws exactly if its first bad entry does. -/
theorem throws_section {α : Type} {root : Yaml} {key what : Bytes}
    {f : Yaml → Except LoadError α} {good bad : Yaml → Prop} (hroot : root.isScalar = false)
    (hf : ∀ i, Returns (f i) ↔ good i) (hf' : ∀ i, Throws LoadError.IsYaml (f i) ↔ bad i) :
    Throws LoadError.IsYaml (do match ← root.get key with
      | none => pure []
      | some (.seq items) => items.mapM f
      | some _ => catalogError what) ↔ SectionThrows root key good bad := by
  have hitems : ∀ items : List Yaml, Throws LoadError.IsYaml (items.mapM f) ↔
      FirstIs good bad items := by
    intro items
    rw [throws_mapM]
    simp only [hf, hf']
  rw [throws_bind, throws_get, hroot]
  constructor
  · rintro (hscalar | ⟨found, hget, h⟩)
    · cases hscalar
    · split at h
      next => exact absurd h (not_throws_pure _)
      next items => exact ⟨items, hget, (hitems items).mp h⟩
      next => exact absurd (throws_error.mp h) (not_isYaml_catalog _)
  · rintro ⟨items, hget, h⟩
    exact .inr ⟨_, hget, (hitems items).mpr h⟩

/-- The two sections of a document, one after the other. -/
def loadSections (lib : YamlLib) (root : Yaml) : Except LoadError Catalog := do
  let data ← parseDataSection lib root
  let operations ← parseOperationsSection lib root
  pure { data, operations }

/-- **The sections throw exactly as `DocumentThrows` says.** -/
theorem throws_loadSections {root : Yaml} :
    Throws LoadError.IsYaml (loadSections lib root) ↔ DocumentThrows lib root := by
  cases hroot : root.isScalar with
  | true =>
    cases root with
    | scalar text => exact ⟨fun _ => .inl rfl, fun _ => ⟨.yaml, rfl, rfl⟩⟩
    | _ => cases hroot
  | false =>
    have hno : ¬ root.isScalar = true := by
      rw [hroot]
      exact Bool.false_ne_true
    have hdata : Returns (parseDataSection lib root) ↔
        SectionRead root (str "data") (ItemRead lib) :=
      returns_section fun _ => returns_parseDataItem
    have hdata' : Throws LoadError.IsYaml (parseDataSection lib root) ↔
        SectionThrows root (str "data") (ItemRead lib) (ItemThrows lib) :=
      throws_section hroot (fun _ => returns_parseDataItem) fun _ => throws_parseDataItem
    have hoperations : Throws LoadError.IsYaml (parseOperationsSection lib root) ↔
        SectionThrows root (str "operations") OperationRead fun i => i.isScalar = true :=
      throws_section hroot (fun _ => returns_parseOperation) fun _ => throws_parseOperation
    rw [loadSections, throws_bind, DocumentThrows]
    constructor
    · rintro (h | ⟨data, hread, h⟩)
      · exact .inr (.inl (hdata'.mp h))
      · exact .inr (.inr ⟨hdata.mp ⟨data, hread⟩, hoperations.mp (throws_bind_pure.mp h)⟩)
    · rintro (h | h | ⟨hread, h⟩)
      · exact absurd h hno
      · exact .inl (hdata'.mpr h)
      · obtain ⟨data, hread⟩ := hdata.mpr hread
        exact .inr ⟨data, hread, throws_bind_pure.mpr (hoperations.mpr h)⟩

/-! ## The two entry points -/

/-- An empty document has no sections. -/
theorem loadFromString_of_ok {text : Bytes} {root : Yaml} (h : lib.load text = .ok root) :
    loadFromString lib text = loadSections lib root := by
  rw [loadFromString, h]
  cases root with
  | null => rfl
  | scalar text => rfl
  | seq items => rfl
  | map entries => rfl

/-- A file is loaded as its text is. -/
theorem loadFromFile_of_ok {path text : Bytes} {root : Yaml} (h : lib.load text = .ok root) :
    loadFromFile lib path text = loadFromString lib text := by
  rw [loadFromString_of_ok h, loadFromFile, h]
  cases root with
  | null => rfl
  | scalar text => rfl
  | seq items => rfl
  | map entries => rfl

/-- What is thrown is a `CatalogError`, and what is returned has been checked. -/
structure LoadPromise (x : Except LoadError Catalog) : Prop where
  thrown : ∀ e, x = .error e → ∃ ce, e = .catalog ce
  returned : ∀ c, x = .ok c → ∀ d ∈ c.data, d.type = .float → d.encoding.WellFormed

/-- What throws nothing of the YAML library throws a `CatalogError`, if anything. -/
theorem not_throws_isYaml {α : Type} {x : Except LoadError α} :
    ¬ Throws LoadError.IsYaml x ↔ ∀ e, x = .error e → ∃ ce, e = .catalog ce := by
  constructor
  · intro h e he
    cases e with
    | catalog ce => exact ⟨ce, rfl⟩
    | yaml => exact absurd ⟨.yaml, he, rfl⟩ h
  · rintro h ⟨e, he, hyaml⟩
    obtain ⟨ce, rfl⟩ := h e he
    exact not_isYaml_catalog ce hyaml

/-- The promise is kept exactly where nothing of the YAML library gets out. -/
theorem loadPromise_iff {text : Bytes} :
    LoadPromise (loadFromString lib text) ↔
      ¬ Throws LoadError.IsYaml (loadFromString lib text) :=
  ⟨fun h => not_throws_isYaml.mpr h.thrown,
    fun h => ⟨not_throws_isYaml.mp h, fun _ hc _ hd => (wellTyped hc hd).encoding⟩⟩

/-- **What gets out.** Text or file, the loader keeps its promise exactly when the text is
no YAML at all or the document is not one of `DocumentThrows`. -/
theorem load_total_iff {text path : Bytes} :
    (LoadPromise (loadFromString lib text) ↔
      ∀ root, lib.load text = .ok root → ¬ DocumentThrows lib root) ∧
    (LoadPromise (loadFromFile lib path text) ↔
      ∀ root, lib.load text = .ok root → ¬ DocumentThrows lib root) := by
  cases hload : lib.load text with
  | error what =>
    have hno : ∀ root, Except.error what = Except.ok root → ¬ DocumentThrows lib root :=
      fun root h => by cases h
    have hstring : loadFromString lib text = catalogError (str "YAML parse error: " ++ what) := by
      rw [loadFromString, hload]
    have hfile : loadFromFile lib path text =
        catalogError (str "YAML parse error in " ++ path ++ str ": " ++ what) := by
      rw [loadFromFile, hload]
    rw [hstring, hfile]
    refine ⟨iff_of_true ⟨fun e he => ?_, fun c hc => by cases hc⟩ hno,
      iff_of_true ⟨fun e he => ?_, fun c hc => by cases hc⟩ hno⟩
    · exact ⟨_, (Except.error.inj he).symm⟩
    · exact ⟨_, (Except.error.inj he).symm⟩
  | ok root =>
    have hroot : (∀ root', Except.ok (ε := Bytes) root = .ok root' → ¬ DocumentThrows lib root') ↔
        ¬ DocumentThrows lib root :=
      ⟨fun h => h root rfl, fun h root' heq => Except.ok.inj heq ▸ h⟩
    rw [loadFromFile_of_ok hload, loadPromise_iff, loadFromString_of_ok hload,
      throws_loadSections, hroot]
    exact ⟨Iff.rfl, Iff.rfl⟩

end

/-! ## A line of text -/

namespace PlainText

/-- The library on one text, which is a scalar. -/
def lib : YamlLib where
  load text := if text = str "catalog" then .ok (.scalar (str "catalog"))
    else .error (str "end of map not found")
  asBool _ := none
  asInt := stoi
  asDouble _ := none

end PlainText

/-- A file with a word in it ends in an exception nobody expects. -/
theorem plain_text_throws :
    loadFromString PlainText.lib (str "catalog") = .error .yaml ∧
      ¬ LoadPromise (loadFromString PlainText.lib (str "catalog")) := by
  have hthrown : loadFromString PlainText.lib (str "catalog") = .error .yaml := by
    have hload : PlainText.lib.load (str "catalog") = .ok (.scalar (str "catalog")) := by
      simp only [PlainText.lib, ↓reduceIte]
    rw [loadFromString_of_ok hload]
    rfl
  refine ⟨hthrown, fun h => ?_⟩
  obtain ⟨ce, hce⟩ := h.thrown .yaml hthrown
  cases hce

end Catalog

end Sovd
