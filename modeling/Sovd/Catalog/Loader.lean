import Sovd.Catalog.DidCatalog
import Sovd.Lib.Fallible

/-!
# Reading a catalog (`Catalog::load_from_string`)

A catalog is a YAML document with a sequence of data items and one of operations.
The loader checks each entry by itself and none against another. So two entries may
share a DID, and the two lookups, by id in the server and by DID in the adapter, may
end at different entries: the server then checks the access, the scope and the type
of one item while the adapter takes session, security level and service from another.

`same_entry_iff` says for which documents the lookups agree: an entry whose DID an
earlier entry has must have an earlier entry's id as well, so that it is never found
by id. `find_agree_iff` is the argument, about any list that is searched by two keys.

Mirroring notes vs the C++:
- A node of `yaml-cpp` is `Yaml`, aliases written out; parsing a document, and a scalar's
  conversion to `bool`, `int` and `double`, are parameters (`YamlLib`). `node[key]` on a
  scalar throws, on anything but a map it finds nothing.
- What is thrown is a `CatalogError`, with its text, or an exception of the library.
-/

namespace Sovd

/-! ## Documents -/

/-- What the YAML library makes of a text. -/
inductive Yaml
  | null
  | scalar (text : Bytes)
  | seq (items : List Yaml)
  | map (entries : List (Yaml × Yaml))

/-- What the loader uses of the YAML library. -/
structure YamlLib where
  load : Bytes → Except Bytes Yaml
  /-- The text of a null, where the library has one for it. -/
  nullText : Option Bytes := some (str "null")
  asBool : Bytes → Option Bool
  asInt : Bytes → Option Int
  asDouble : Bytes → Option Double

/-- What loading throws: a `CatalogError`, or an exception of the YAML library. -/
inductive LoadError
  | catalog (e : CatalogError)
  | yaml

namespace Yaml

/-- `node[key]`. -/
def get (node : Yaml) (key : Bytes) : Except LoadError (Option Yaml) :=
  match node with
  | null => .ok none
  | scalar _ => .error .yaml
  | seq _ => .ok none
  | map entries =>
    .ok ((entries.find? fun e => match e.1 with
      | scalar text => text == key
      | _ => false).map Prod.snd)

/-- The text `as<std::string>()` finds. -/
def scalarText (lib : YamlLib) : Yaml → Option Bytes
  | scalar text => some text
  | null => lib.nullText
  | _ => none

/-- `as<std::string>()`. -/
def asString (lib : YamlLib) (node : Yaml) : Except LoadError Bytes :=
  match node.scalarText lib with
  | some text => .ok text
  | none => .error .yaml

end Yaml

namespace Catalog

/-- A `CatalogError` with that text. -/
def catalogError {α : Type} (text : Bytes) : Except LoadError α := .error (.catalog ⟨text⟩)

/-- `require_string`: a field that is no scalar counts as missing. -/
def requireString (node : Yaml) (key context : Bytes) : Except LoadError Bytes := do
  match ← node.get key with
  | some (.scalar text) => pure text
  | _ => catalogError (context ++ str " is missing required field '" ++ key ++ str "'")

/-- `optional_string`: a field that is no scalar counts as left out. -/
def optionalString (node : Yaml) (key default : Bytes) : Except LoadError Bytes := do
  match ← node.get key with
  | some (.scalar text) => pure text
  | _ => pure default

/-- `as<T>(default)` of a scalar: what cannot be converted is the default. -/
def optionalScalar {α : Type} (convert : Bytes → Option α) (node : Yaml) (key : Bytes)
    (default : α) : Except LoadError α := do
  match ← node.get key with
  | some (.scalar text) => pure ((convert text).getD default)
  | _ => pure default

/-- The loader's `parse_hex_u16`. -/
def parseHexU16 (text context : Bytes) : Except LoadError UInt16 :=
  let s := stripHexMarker text
  if s = [] then catalogError (context ++ str " has an empty hex identifier")
  else
    match stoul16 s with
    | none =>
      catalogError (context ++ str " has an invalid hex identifier '" ++ text ++ str "'")
    | some (value, consumed) =>
      if consumed ≠ s.length ∨ 0xFFFF < value then
        catalogError (context ++ str " has an invalid hex identifier '" ++ text ++ str "'")
      else pure (UInt16.ofNat value)

/-- An unrecognized type is opaque bytes. -/
def parseDataType (s : Bytes) : DataType :=
  if s = str "string" then .string
  else if s = str "float" then .float
  else if s = str "enum" then .enum
  else .raw

/-- `parse_access` -/
def parseAccess (s context : Bytes) : Except LoadError Access :=
  if s = str "read" then pure .read
  else if s = str "write" then pure .write
  else if s = str "read_write" then pure .readWrite
  else catalogError (context ++ str " has invalid access '" ++ s ++
    str "' (expected read|write|read_write)")

/-- `std::stoi(key, &consumed)`, where all of the key is consumed. -/
def stoi (key : Bytes) : Option Int :=
  let s := key.dropWhile isSpace
  let (negative, digits) := match s with
    | 45 :: rest => (true, rest)
    | 43 :: rest => (false, rest)
    | _ => (false, s)
  if digits = [] ∨ digits.any (fun c => !(48 ≤ c && c ≤ 57)) then none
  else
    let magnitude : Int := digits.foldl (fun v c => v * 10 + (c.toNat - 48)) 0
    let value := if negative then -magnitude else magnitude
    if value < -(2 ^ 31) ∨ 2 ^ 31 ≤ value then none else some value

/-! ## Entries -/

/-- `parse_encoding`: without the section everything is the default. -/
def parseEncoding (lib : YamlLib) (item : Yaml) (context : Bytes) :
    Except LoadError Encoding := do
  match ← item.get (str "encoding") with
  | some (.map entries) =>
    let enc := Yaml.map entries
    let bytes ← optionalScalar lib.asInt enc (str "bytes") 0
    let endian ← optionalString enc (str "endian") (str "big")
    let scale ← optionalScalar lib.asDouble enc (str "scale") (.fin 1)
    let unit ← optionalString enc (str "unit") []
    if bytes ≤ 0 ∨ 8 < bytes then
      catalogError (context ++ str " has an invalid encoding.bytes (must be 1-8)")
    else if endian ≠ str "big" ∧ endian ≠ str "little" then
      catalogError (context ++ str " has an invalid encoding.endian (must be big|little)")
    else pure { bytes, endian, scale, unit }
  | _ => catalogError (context ++ str " has type float but no 'encoding' block")

/-- One entry of a `values` map; the key is read as far as it is a number. -/
def parseEnumValue (lib : YamlLib) (context : Bytes) (entry : Yaml × Yaml) :
    Except LoadError EnumValue := do
  let key ← entry.1.asString lib
  match stoi key with
  | some raw => pure { raw, label := ← entry.2.asString lib }
  | none => catalogError (context ++ str " has a non-integer enum key '" ++ key ++ str "'")

/-- The `values` map of an enum, in the order of the file. -/
def parseEnumValues (lib : YamlLib) (item : Yaml) (context : Bytes) :
    Except LoadError (List EnumValue) := do
  match ← item.get (str "values") with
  | some (.map entries) => entries.mapM (parseEnumValue lib context)
  | _ => catalogError (context ++ str " has type enum but no 'values' map")

/-- The fields that depend on the type. -/
def parseTypeFields (lib : YamlLib) (item : Yaml) (context : Bytes) (d : DataItem) :
    Except LoadError DataItem :=
  match d.type with
  | .string => do pure { d with length := ← optionalScalar lib.asInt item (str "length") 0 }
  | .float => do pure { d with encoding := ← parseEncoding lib item context }
  | .enum => do pure { d with values := ← parseEnumValues lib item context }
  | .raw => pure d

/-- `parse_data_item`: the fields in the order in which the loader checks them. -/
def parseDataItem (lib : YamlLib) (item : Yaml) : Except LoadError DataItem := do
  let id ← requireString item (str "id") (str "a data item")
  let context := str "data item '" ++ id ++ str "'"
  let did ← parseHexU16 (← requireString item (str "did") context) context
  let type := parseDataType (← requireString item (str "type") context)
  let access ← parseAccess (← requireString item (str "access") context) context
  let ioControl ← optionalScalar lib.asBool item (str "io_control") false
  let session ← optionalString item (str "requires_session") []
  let securityLevel ← optionalScalar lib.asInt item (str "requires_security_level") 0
  parseTypeFields lib item context
    { id, did, type, access, ioControl
      requiresSession := if session = [] then none else some session
      requiresSecurityLevel := if 0 < securityLevel then some securityLevel else none }

/-- `parse_operation` -/
def parseOperation (lib : YamlLib) (item : Yaml) : Except LoadError Operation := do
  let id ← requireString item (str "id") (str "an operation")
  let context := str "operation '" ++ id ++ str "'"
  let routineId ← parseHexU16 (← requireString item (str "routine_id") context) context
  let session ← optionalString item (str "requires_session") []
  let async ← optionalScalar lib.asBool item (str "async") false
  pure { id, routineId, requiresSession := if session = [] then none else some session, async }

/-! ## Documents -/

/-- The `data` section; without one there are no items. -/
def parseDataSection (lib : YamlLib) (root : Yaml) : Except LoadError (List DataItem) := do
  match ← root.get (str "data") with
  | none => pure []
  | some (.seq items) => items.mapM (parseDataItem lib)
  | some _ => catalogError (str "'data' must be a YAML sequence")

/-- The `operations` section; without one there are no operations. -/
def parseOperationsSection (lib : YamlLib) (root : Yaml) :
    Except LoadError (List Operation) := do
  match ← root.get (str "operations") with
  | none => pure []
  | some (.seq items) => items.mapM (parseOperation lib)
  | some _ => catalogError (str "'operations' must be a YAML sequence")

/-- `load_from_string`: an empty document is an empty catalog. -/
def loadFromString (lib : YamlLib) (yamlText : Bytes) : Except LoadError Catalog :=
  match lib.load yamlText with
  | .error what => catalogError (str "YAML parse error: " ++ what)
  | .ok .null => pure {}
  | .ok root => do
    let data ← parseDataSection lib root
    let operations ← parseOperationsSection lib root
    pure { data, operations }

/-- The same of a file; `contents` is what there is in it. -/
def loadFromFile (lib : YamlLib) (path contents : Bytes) : Except LoadError Catalog :=
  match lib.load contents with
  | .error what => catalogError (str "YAML parse error in " ++ path ++ str ": " ++ what)
  | .ok .null => pure {}
  | .ok root => do
    let data ← parseDataSection lib root
    let operations ← parseOperationsSection lib root
    pure { data, operations }

end Catalog

/-! ## What an entry becomes -/

/-- `IsScalar()`. -/
def Yaml.isScalar : Yaml → Bool
  | scalar _ => true
  | _ => false

/-- The text of a field, if it has one. -/
def Yaml.text? (node : Yaml) (key : Bytes) : Option Bytes :=
  match node.get key with
  | .ok (some (.scalar text)) => some text
  | _ => none

/-- The DID an entry of the document names. -/
def Yaml.did? (entry : Yaml) : Option UInt16 := (entry.text? (str "did")).bind parseHexU16

/-- Looking for a key throws on a scalar, and on nothing else. -/
theorem Yaml.get_of_not_scalar {node : Yaml} (h : node.isScalar = false) (key : Bytes) :
    ∃ found, node.get key = .ok found := by
  cases node with
  | scalar text => cases h
  | null => exact ⟨_, rfl⟩
  | seq items => exact ⟨_, rfl⟩
  | map entries => exact ⟨_, rfl⟩

namespace Catalog

open Fallible

/-- A field that is a text is read. -/
theorem requireString_of_some {node : Yaml} {key text : Bytes} (context : Bytes)
    (h : node.text? key = some text) : requireString node key context = pure text := by
  unfold Yaml.text? at h
  split at h
  next found hget =>
    obtain rfl := Option.some.inj h
    rw [requireString, hget]
    rfl
  next => cases h

/-- A field that is no text is an error. -/
theorem requireString_of_none {node : Yaml} {key : Bytes} (context : Bytes)
    (hnode : node.isScalar = false) (h : node.text? key = none) :
    requireString node key context =
      catalogError (context ++ str " is missing required field '" ++ key ++ str "'") := by
  obtain ⟨found, hget⟩ := Yaml.get_of_not_scalar hnode key
  rw [requireString, hget]
  unfold Yaml.text? at h
  rw [hget] at h
  match found, h with
  | none, _ => rfl
  | some .null, _ => rfl
  | some (.seq _), _ => rfl
  | some (.map _), _ => rfl

/-- A map never fails here: its field or the default is read. -/
theorem optionalString_eq {node : Yaml} (hnode : node.isScalar = false) (key default : Bytes) :
    optionalString node key default = pure ((node.text? key).getD default) := by
  obtain ⟨found, hget⟩ := Yaml.get_of_not_scalar hnode key
  rw [optionalString, Yaml.text?, hget]
  match found with
  | none => rfl
  | some .null => rfl
  | some (.scalar _) => rfl
  | some (.seq _) => rfl
  | some (.map _) => rfl

/-- The same of a field that is converted. -/
theorem optionalScalar_eq {α : Type} {node : Yaml} (hnode : node.isScalar = false)
    (convert : Bytes → Option α) (key : Bytes) (default : α) :
    optionalScalar convert node key default =
      pure (((node.text? key).bind convert).getD default) := by
  obtain ⟨found, hget⟩ := Yaml.get_of_not_scalar hnode key
  rw [optionalScalar, Yaml.text?, hget]
  match found with
  | none => rfl
  | some .null => rfl
  | some (.scalar _) => rfl
  | some (.seq _) => rfl
  | some (.map _) => rfl

/-- It takes what the adapter's takes, and throws for the rest. -/
theorem parseHexU16_cases (text context : Bytes) :
    (∃ value, Sovd.parseHexU16 text = some value ∧ parseHexU16 text context = pure value) ∨
      Sovd.parseHexU16 text = none ∧ ∃ e, parseHexU16 text context = .error (.catalog e) := by
  unfold Sovd.parseHexU16 parseHexU16
  by_cases hnil : stripHexMarker text = []
  · simp only [if_pos hnil]
    exact .inr ⟨trivial, _, rfl⟩
  simp only [if_neg hnil]
  cases stoul16 (stripHexMarker text) with
  | none => exact .inr ⟨rfl, _, rfl⟩
  | some read =>
    by_cases hout : read.2 ≠ (stripHexMarker text).length ∨ 0xFFFF < read.1
    · simp only [if_pos hout]
      exact .inr ⟨trivial, _, rfl⟩
    · simp only [if_neg hout]
      exact .inl ⟨_, rfl, rfl⟩

/-- A hex number is read. -/
theorem parseHexU16_of_some {text : Bytes} {value : UInt16} (context : Bytes)
    (h : Sovd.parseHexU16 text = some value) : parseHexU16 text context = pure value := by
  rcases parseHexU16_cases text context with ⟨value', hsome, hpure⟩ | ⟨hnone, -⟩
  · obtain rfl := Option.some.inj (h.symm.trans hsome)
    exact hpure
  · rw [h] at hnone
    cases hnone

/-- A text that is no hex number is an error. -/
theorem parseHexU16_of_none {text : Bytes} (context : Bytes) (h : Sovd.parseHexU16 text = none) :
    ∃ e, parseHexU16 text context = .error (.catalog e) := by
  rcases parseHexU16_cases text context with ⟨value, hsome, -⟩ | ⟨-, herror⟩
  · rw [h] at hsome
    cases hsome
  · exact herror

/-- The three texts of an access. -/
def accessTexts : List Bytes := [str "read", str "write", str "read_write"]

/-- The three texts of an access are read. -/
theorem parseAccess_of_mem {s : Bytes} (context : Bytes) (h : s ∈ accessTexts) :
    ∃ access, parseAccess s context = pure access := by
  simp only [accessTexts, List.mem_cons, List.not_mem_nil, or_false] at h
  rcases h with rfl | rfl | rfl
  · exact ⟨.read, rfl⟩
  · exact ⟨.write, rfl⟩
  · exact ⟨.readWrite, rfl⟩

/-- Any text but the three is an error. -/
theorem parseAccess_of_not_mem {s : Bytes} (context : Bytes) (h : s ∉ accessTexts) :
    ∃ e, parseAccess s context = .error (.catalog e) := by
  simp only [accessTexts, List.mem_cons, List.not_mem_nil, or_false, not_or] at h
  rw [parseAccess, if_neg h.1, if_neg h.2.1, if_neg h.2.2]
  exact ⟨_, rfl⟩

/-- What depends on the type is the length, the encoding and the values. -/
theorem parseTypeFields_eq {lib : YamlLib} {item : Yaml} {context : Bytes} {d d' : DataItem}
    (h : parseTypeFields lib item context d = .ok d') :
    ∃ length encoding values, d' = { d with length, encoding, values } := by
  unfold parseTypeFields at h
  split at h
  next =>
    obtain ⟨length, -, h⟩ := bind_eq_ok.mp h
    exact ⟨length, d.encoding, d.values, (Except.ok.inj h).symm⟩
  next =>
    obtain ⟨encoding, -, h⟩ := bind_eq_ok.mp h
    exact ⟨d.length, encoding, d.values, (Except.ok.inj h).symm⟩
  next =>
    obtain ⟨values, -, h⟩ := bind_eq_ok.mp h
    exact ⟨d.length, d.encoding, values, (Except.ok.inj h).symm⟩
  next => exact ⟨d.length, d.encoding, d.values, (Except.ok.inj h).symm⟩

/-- The entry has the fields every item must have. -/
structure HasHeader (item : Yaml) : Prop where
  id : ∃ t, item.text? (str "id") = some t
  did : ∃ v, item.did? = some v
  type : ∃ t, item.text? (str "type") = some t
  access : ∃ t, item.text? (str "access") = some t ∧ t ∈ accessTexts

/-- What they and the optional fields of any item become. -/
structure Header (item : Yaml) (d : DataItem) : Prop where
  id : item.text? (str "id") = some d.id
  did : item.did? = some d.did
  type : (item.text? (str "type")).map parseDataType = some d.type
  level : ∀ n, d.requiresSecurityLevel = some n → 0 < n
  values : d.values = []

/-- The loader throws a `CatalogError` for the first field that is not as it must be, or
goes on to what depends on the type. -/
theorem parseDataItem_cases (lib : YamlLib) {item : Yaml} (hitem : item.isScalar = false) :
    (¬ HasHeader item ∧ ∃ e, parseDataItem lib item = .error (.catalog e)) ∨
      HasHeader item ∧ ∃ context d, Header item d ∧
        parseDataItem lib item = parseTypeFields lib item context d := by
  unfold parseDataItem
  cases hid : item.text? (str "id") with
  | none =>
    -- the required fields in the order they are read; the first that is missing is the error
    refine .inl ⟨fun h => ?_, _, by rw [requireString_of_none _ hitem hid]; rfl⟩
    obtain ⟨t, ht⟩ := h.id
    rw [hid] at ht
    cases ht
  | some id =>
    rw [requireString_of_some _ hid, pure_bind]
    dsimp only
    cases hdidText : item.text? (str "did") with
    | none =>
      refine .inl ⟨fun h => ?_, _, by rw [requireString_of_none _ hitem hdidText]; rfl⟩
      obtain ⟨v, hv⟩ := h.did
      rw [Yaml.did?, hdidText] at hv
      cases hv
    | some didText =>
      rw [requireString_of_some _ hdidText, pure_bind]
      cases hdid : Sovd.parseHexU16 didText with
      | none =>
        obtain ⟨e, he⟩ := parseHexU16_of_none (str "data item '" ++ id ++ str "'") hdid
        refine .inl ⟨fun h => ?_, e, by rw [he]; rfl⟩
        obtain ⟨v, hv⟩ := h.did
        rw [Yaml.did?, hdidText, Option.bind_some, hdid] at hv
        cases hv
      | some did =>
        rw [parseHexU16_of_some _ hdid, pure_bind]
        cases htype : item.text? (str "type") with
        | none =>
          refine .inl ⟨fun h => ?_, _, by rw [requireString_of_none _ hitem htype]; rfl⟩
          obtain ⟨t, ht⟩ := h.type
          rw [htype] at ht
          cases ht
        | some type =>
          rw [requireString_of_some _ htype, pure_bind]
          cases haccess : item.text? (str "access") with
          | none =>
            refine .inl ⟨fun h => ?_, _, by rw [requireString_of_none _ hitem haccess]; rfl⟩
            obtain ⟨t, ht, -⟩ := h.access
            rw [haccess] at ht
            cases ht
          | some accessText =>
            rw [requireString_of_some _ haccess, pure_bind]
            by_cases hmem : accessText ∈ accessTexts
            · obtain ⟨access, hparsed⟩ :=
                parseAccess_of_mem (str "data item '" ++ id ++ str "'") hmem
              rw [hparsed, pure_bind, optionalScalar_eq hitem, pure_bind, optionalString_eq hitem,
                pure_bind, optionalScalar_eq hitem, pure_bind]
              have hdid? : item.did? = some did := by
                rw [Yaml.did?, hdidText, Option.bind_some, hdid]
              refine .inr ⟨⟨⟨id, hid⟩, ⟨did, hdid?⟩, ⟨type, htype⟩, accessText, haccess, hmem⟩,
                _, _, ⟨hid, hdid?, by rw [htype]; rfl, fun n hn => ?_, rfl⟩, rfl⟩
              obtain ⟨hpos, hlevel⟩ := Option.ite_none_right_eq_some.mp hn
              exact Option.some.inj hlevel ▸ hpos
            · obtain ⟨e, he⟩ := parseAccess_of_not_mem (str "data item '" ++ id ++ str "'") hmem
              refine .inl ⟨fun h => ?_, e, by rw [he]; rfl⟩
              obtain ⟨t, ht, hin⟩ := h.access
              obtain rfl : accessText = t := Option.some.inj (haccess.symm.trans ht)
              exact hmem hin

/-- An item comes of its header and the fields that depend on the type. -/
theorem parseDataItem_eq_ok {lib : YamlLib} {item : Yaml} {d : DataItem}
    (h : parseDataItem lib item = .ok d) :
    ∃ context head, Header item head ∧ parseTypeFields lib item context head = .ok d := by
  cases hitem : item.isScalar with
  | true =>
    cases item with
    | scalar text => cases h
    | _ => cases hitem
  | false =>
    rcases parseDataItem_cases lib hitem with ⟨-, e, he⟩ | ⟨-, context, head, hhead, heq⟩
    · rw [he] at h
      cases h
    · exact ⟨context, head, hhead, heq.symm.trans h⟩

/-- An item has the id and the DID its entry names. -/
theorem parseDataItem_keys {lib : YamlLib} {item : Yaml} {d : DataItem}
    (h : parseDataItem lib item = .ok d) :
    item.text? (str "id") = some d.id ∧ item.did? = some d.did := by
  obtain ⟨context, head, hhead, h⟩ := parseDataItem_eq_ok h
  obtain ⟨_, _, _, rfl⟩ := parseTypeFields_eq h
  exact ⟨hhead.id, hhead.did⟩

/-- A level an item asks for is positive. -/
theorem parseDataItem_level {lib : YamlLib} {item : Yaml} {d : DataItem} {n : Int}
    (h : parseDataItem lib item = .ok d) (hn : d.requiresSecurityLevel = some n) : 0 < n := by
  obtain ⟨context, head, hhead, h⟩ := parseDataItem_eq_ok h
  obtain ⟨_, _, _, rfl⟩ := parseTypeFields_eq h
  exact hhead.level n hn

end Catalog

/-- What the loader checks of the encoding of a number. -/
structure Encoding.WellFormed (e : Encoding) : Prop where
  pos : 1 ≤ e.bytes
  le : e.bytes ≤ 8
  endian : e.endian = str "big" ∨ e.endian = str "little"

/-- What the loader checks of the fields that depend on the type. -/
structure DataItem.WellTyped (d : DataItem) : Prop where
  encoding : d.type = .float → d.encoding.WellFormed
  values : ∀ ev ∈ d.values, -(2 ^ 31) ≤ ev.raw ∧ ev.raw < 2 ^ 31

namespace Catalog

open Fallible

/-- An encoding that is read is well formed. -/
theorem parseEncoding_wellFormed {lib : YamlLib} {item : Yaml} {context : Bytes} {e : Encoding}
    (h : parseEncoding lib item context = .ok e) : e.WellFormed := by
  obtain ⟨found, -, h⟩ := bind_eq_ok.mp h
  split at h
  next entries =>
    obtain ⟨bytes, -, h⟩ := bind_eq_ok.mp h
    obtain ⟨endian, -, h⟩ := bind_eq_ok.mp h
    obtain ⟨scale, -, h⟩ := bind_eq_ok.mp h
    obtain ⟨unit, -, h⟩ := bind_eq_ok.mp h
    split_ifs at h with hbytes hendian
    · cases h
    · cases h
    · obtain rfl := Except.ok.inj h
      obtain ⟨hpos, hle⟩ := not_or.mp hbytes
      refine ⟨not_le.mp hpos, not_lt.mp hle, ?_⟩
      exact or_iff_not_imp_left.mpr fun hbig => not_not.mp fun hlittle => hendian ⟨hbig, hlittle⟩
  next => cases h

/-- What `std::stoi` reads is an `int`. -/
theorem stoi_range {key : Bytes} {i : Int} (h : stoi key = some i) :
    -(2 ^ 31) ≤ i ∧ i < 2 ^ 31 := by
  unfold stoi at h
  dsimp only at h
  split_ifs at h with hdigits hnegative hrange hrange
  · obtain rfl := Option.some.inj h
    obtain ⟨hlow, hhigh⟩ := not_or.mp hrange
    exact ⟨not_lt.mp hlow, not_le.mp hhigh⟩
  · obtain rfl := Option.some.inj h
    obtain ⟨hlow, hhigh⟩ := not_or.mp hrange
    exact ⟨not_lt.mp hlow, not_le.mp hhigh⟩

/-- A raw value that is read is an `int`. -/
theorem parseEnumValue_range {lib : YamlLib} {context : Bytes} {entry : Yaml × Yaml}
    {ev : EnumValue} (h : parseEnumValue lib context entry = .ok ev) :
    -(2 ^ 31) ≤ ev.raw ∧ ev.raw < 2 ^ 31 := by
  obtain ⟨key, -, h⟩ := bind_eq_ok.mp h
  split at h
  next raw hraw =>
    obtain ⟨label, -, h⟩ := bind_eq_ok.mp h
    obtain rfl := Except.ok.inj h
    exact stoi_range hraw
  next => cases h

/-- All raw values that are read are `int`s. -/
theorem parseEnumValues_range {lib : YamlLib} {item : Yaml} {context : Bytes}
    {values : List EnumValue} (h : parseEnumValues lib item context = .ok values) :
    ∀ ev ∈ values, -(2 ^ 31) ≤ ev.raw ∧ ev.raw < 2 ^ 31 := by
  obtain ⟨found, -, h⟩ := bind_eq_ok.mp h
  split at h
  next entries =>
    intro ev hev
    obtain ⟨entry, -, hentry⟩ := exists_of_forall₂ (mapM_eq_ok h) hev
    exact parseEnumValue_range hentry
  next => cases h

/-- Reading the fields of the type leaves an item with those of its type only. -/
theorem parseTypeFields_wellTyped {lib : YamlLib} {item : Yaml} {context : Bytes}
    {d d' : DataItem} (hd : d.values = []) (h : parseTypeFields lib item context d = .ok d') :
    d'.WellTyped := by
  have hnone : ∀ ev ∈ d.values, -(2 ^ 31) ≤ ev.raw ∧ ev.raw < 2 ^ 31 := by
    rw [hd]
    exact fun ev hev => absurd hev List.not_mem_nil
  unfold parseTypeFields at h
  split at h
  next htype =>
    obtain ⟨length, -, h⟩ := bind_eq_ok.mp h
    obtain rfl := Except.ok.inj h
    exact ⟨fun hfloat => absurd (htype.symm.trans hfloat) (by decide), hnone⟩
  next =>
    obtain ⟨encoding, hencoding, h⟩ := bind_eq_ok.mp h
    obtain rfl := Except.ok.inj h
    exact ⟨fun _ => parseEncoding_wellFormed hencoding, hnone⟩
  next htype =>
    obtain ⟨values, hvalues, h⟩ := bind_eq_ok.mp h
    obtain rfl := Except.ok.inj h
    exact ⟨fun hfloat => absurd (htype.symm.trans hfloat) (by decide),
      parseEnumValues_range hvalues⟩
  next htype =>
    obtain rfl := Except.ok.inj h
    exact ⟨fun hfloat => absurd (htype.symm.trans hfloat) (by decide), hnone⟩

/-- A data item that is read has the fields of its type only. -/
theorem parseDataItem_wellTyped {lib : YamlLib} {item : Yaml} {d : DataItem}
    (h : parseDataItem lib item = .ok d) : d.WellTyped := by
  obtain ⟨context, head, hhead, h⟩ := parseDataItem_eq_ok h
  exact parseTypeFields_wellTyped hhead.values h

end Catalog

/-! ## Two keys -/

section

variable {α κ₁ κ₂ : Type*}

/-- An element that repeats the second key of an earlier one repeats the first key of
an earlier one as well. -/
def RepeatsTogether (k₁ : α → κ₁) (k₂ : α → κ₂) (l : List α) : Prop :=
  ∀ before x after, l = before ++ x :: after →
    (∃ y ∈ before, k₂ y = k₂ x) → ∃ y ∈ before, k₁ y = k₁ x

/-- Two keys repeat together whatever the list is an image of. -/
theorem repeatsTogether_map {β : Type*} (g : β → α) (k₁ : α → κ₁) (k₂ : α → κ₂) (l : List β) :
    RepeatsTogether k₁ k₂ (l.map g) ↔ RepeatsTogether (k₁ ∘ g) (k₂ ∘ g) l := by
  constructor
  · intro h before x after heq hrep
    have hmap : l.map g = before.map g ++ g x :: after.map g := by rw [heq, List.map_append,
      List.map_cons]
    obtain ⟨y, hy, hky⟩ := hrep
    obtain ⟨z, hz, hkz⟩ := h _ _ _ hmap ⟨g y, List.mem_map_of_mem hy, hky⟩
    obtain ⟨w, hw, rfl⟩ := List.mem_map.mp hz
    exact ⟨w, hw, hkz⟩
  · intro h before x after heq hrep
    obtain ⟨before', rest, rfl, rfl, hrest⟩ := List.map_eq_append_iff.mp heq
    obtain ⟨x', after', rfl, rfl, rfl⟩ := List.map_eq_cons_iff.mp hrest
    obtain ⟨y, hy, hky⟩ := hrep
    obtain ⟨y', hy', rfl⟩ := List.mem_map.mp hy
    obtain ⟨z, hz, hkz⟩ := h _ _ _ rfl ⟨y', hy', hky⟩
    exact ⟨g z, List.mem_map_of_mem hz, hkz⟩

/-- What is found first by one key is found first by the other, if whatever repeats
the second key also repeats the first; and only then. -/
theorem find_agree_iff [BEq κ₁] [LawfulBEq κ₁] [BEq κ₂] [LawfulBEq κ₂] (k₁ : α → κ₁)
    (k₂ : α → κ₂) (l : List α) :
    (∀ a x, l.find? (fun y => k₁ y == a) = some x → l.find? (fun y => k₂ y == k₂ x) = some x) ↔
      RepeatsTogether k₁ k₂ l := by
  constructor
  · intro h before x after heq hrep
    by_contra hnone
    have hfirst : l.find? (fun y => k₁ y == k₁ x) = some x := by
      rw [List.find?_eq_some_iff_append]
      refine ⟨beq_self_eq_true _, before, after, heq, fun y hy => ?_⟩
      rw [Bool.not_eq_true', beq_eq_false_iff_ne]
      exact fun hk => hnone ⟨y, hy, hk⟩
    -- by the second key, something in front of `x` is found
    have hsecond := h _ _ hfirst
    obtain ⟨y, hy, hky⟩ := hrep
    have hsome : (before.find? fun w => k₂ w == k₂ x).isSome = true :=
      List.find?_isSome.mpr ⟨y, hy, beq_iff_eq.mpr hky⟩
    obtain ⟨z, hz⟩ := Option.isSome_iff_exists.mp hsome
    rw [heq, List.find?_append, hz, Option.some_or] at hsecond
    obtain rfl := Option.some.inj hsecond
    exact hnone ⟨z, List.mem_of_find?_eq_some hz, rfl⟩
  · intro h a x hfind
    obtain ⟨ha, before, after, heq, hbefore⟩ := List.find?_eq_some_iff_append.mp hfind
    rw [List.find?_eq_some_iff_append]
    refine ⟨beq_self_eq_true _, before, after, heq, fun y hy => ?_⟩
    rw [Bool.not_eq_true', beq_eq_false_iff_ne]
    intro hk
    obtain ⟨z, hz, hkz⟩ := h before x after heq ⟨y, hy, hk⟩
    have hne := hbefore z hz
    rw [hkz, ha] at hne
    cases hne

end

/-! ## One entry for both lookups -/

/-- What the server finds by id, the adapter finds by DID. -/
def Catalog.SameEntry (c : Catalog) : Prop :=
  ∀ id item, c.findById id = some item → c.findByDid item.did = some item

/-- The entries of the document's `data`. -/
def dataEntries (lib : YamlLib) (yamlText : Bytes) : List Yaml :=
  match lib.load yamlText with
  | .error _ => []
  | .ok root =>
    match root.get (str "data") with
    | .ok (some (.seq items)) => items
    | _ => []

/-- The items of a catalog are those of the `data` section, one by one. -/
theorem dataEntries_forall₂ {lib : YamlLib} {yamlText : Bytes} {c : Catalog}
    (h : Catalog.loadFromString lib yamlText = .ok c) :
    List.Forall₂ (fun entry d => Catalog.parseDataItem lib entry = .ok d)
      (dataEntries lib yamlText) c.data := by
  unfold Catalog.loadFromString at h
  unfold dataEntries
  split at h
  next => cases h
  next hload =>
    obtain rfl := Except.ok.inj h
    rw [hload]
    exact .nil
  next root _ hload =>
    obtain ⟨data, hdata, h⟩ := Fallible.bind_eq_ok.mp h
    obtain ⟨operations, -, h⟩ := Fallible.bind_eq_ok.mp h
    obtain rfl := Except.ok.inj h
    obtain ⟨found, hget, hdata⟩ := Fallible.bind_eq_ok.mp hdata
    rw [hload]
    simp only [hget]
    split at hdata
    next =>
      obtain rfl := Except.ok.inj hdata
      exact .nil
    next items => exact Fallible.mapM_eq_ok hdata
    next => cases hdata

/-- An item of a catalog that was loaded is what the loader makes of an entry. -/
theorem Catalog.exists_entry {lib : YamlLib} {yamlText : Bytes} {c : Catalog}
    (h : Catalog.loadFromString lib yamlText = .ok c) {d : DataItem} (hd : d ∈ c.data) :
    ∃ entry, Catalog.parseDataItem lib entry = .ok d := by
  obtain ⟨entry, -, hentry⟩ := Fallible.exists_of_forall₂ (dataEntries_forall₂ h) hd
  exact ⟨entry, hentry⟩

/-- A catalog that was loaded asks for positive levels only. -/
theorem Catalog.level_pos {lib : YamlLib} {yamlText : Bytes} {c : Catalog}
    (h : Catalog.loadFromString lib yamlText = .ok c) {d : DataItem} (hd : d ∈ c.data) {n : Int}
    (hn : d.requiresSecurityLevel = some n) : 0 < n := by
  obtain ⟨entry, hentry⟩ := Catalog.exists_entry h hd
  exact Catalog.parseDataItem_level hentry hn

/-- **Every item of a loaded catalog has the fields of its type only.** -/
theorem Catalog.wellTyped {lib : YamlLib} {yamlText : Bytes} {c : Catalog}
    (h : Catalog.loadFromString lib yamlText = .ok c) {d : DataItem} (hd : d ∈ c.data) :
    d.WellTyped := by
  obtain ⟨entry, hentry⟩ := Catalog.exists_entry h hd
  exact Catalog.parseDataItem_wellTyped hentry

/-- The keys of the items are those the entries name. -/
theorem keys_dataEntries {lib : YamlLib} {yamlText : Bytes} {c : Catalog}
    (h : Catalog.loadFromString lib yamlText = .ok c) :
    (dataEntries lib yamlText).map (fun n => (n.text? (str "id"), n.did?)) =
      c.data.map fun d => (some d.id, some d.did) := by
  refine List.forall₂_eq_eq_eq ▸ ?_
  rw [List.forall₂_map_left_iff, List.forall₂_map_right_iff]
  refine (dataEntries_forall₂ h).imp ?_
  intro entry d hd
  obtain ⟨hid, hdid⟩ := Catalog.parseDataItem_keys hd
  rw [hid, hdid]

/-- **Server and adapter apply the same entry exactly when every entry of the document
whose DID an earlier one has also has an earlier one's id.** -/
theorem same_entry_iff {lib : YamlLib} {yamlText : Bytes} {c : Catalog}
    (h : Catalog.loadFromString lib yamlText = .ok c) :
    c.SameEntry ↔
      RepeatsTogether (fun n : Yaml => n.text? (str "id")) Yaml.did?
        (dataEntries lib yamlText) := by
  have hitems : RepeatsTogether DataItem.id DataItem.did c.data ↔
      RepeatsTogether Prod.fst Prod.snd (c.data.map fun d => (some d.id, some d.did)) := by
    rw [repeatsTogether_map]
    simp only [RepeatsTogether, Function.comp_apply, Option.some.injEq]
  have hentries : RepeatsTogether (fun n : Yaml => n.text? (str "id")) Yaml.did?
      (dataEntries lib yamlText) ↔ RepeatsTogether Prod.fst Prod.snd
        ((dataEntries lib yamlText).map fun n => (n.text? (str "id"), n.did?)) := by
    rw [repeatsTogether_map]
    rfl
  rw [hentries, keys_dataEntries h, ← hitems]
  exact find_agree_iff DataItem.id DataItem.did c.data

/-- The adapter reads the DID it is handed back into the entry the server looked up. -/
theorem Catalog.SameEntry.adapter {c : Catalog} (h : c.SameEntry) {id : Bytes} {item : DataItem}
    (hid : c.findById id = some item) :
    (Sovd.parseHexU16 (cStr (toHexU16 item.did))).bind c.findByDid = some item := by
  rw [cStr_toHexU16, parseHexU16_toHexU16, Option.bind_some]
  exact h id item hid

/-! ## Two entries, one DID -/

namespace SharedDid

/-- A counter anyone may reset, and behind it a key that takes SecurityAccess to write. -/
def yamlText : Bytes := str ("data:\n" ++
  "- id: trip\n  did: 0x0100\n  type: raw\n  access: read_write\n" ++
  "- id: key\n  did: 0x0100\n  type: raw\n  access: read_write\n" ++
  "  requires_security_level: 1\n")

def entry (fields : List (String × String)) : Yaml :=
  .map (fields.map fun f => (.scalar (str f.1), .scalar (str f.2)))

def entries : List Yaml :=
  [entry [("id", "trip"), ("did", "0x0100"), ("type", "raw"), ("access", "read_write")],
    entry [("id", "key"), ("did", "0x0100"), ("type", "raw"), ("access", "read_write"),
      ("requires_security_level", "1")]]

def lib : YamlLib where
  load text := if text = yamlText then .ok (.map [(.scalar (str "data"), .seq entries)])
    else .error (str "end of map not found")
  asBool text := if text = str "true" then some true
    else if text = str "false" then some false else none
  asInt := Catalog.stoi
  asDouble _ := none

/-- Can be written by anybody. -/
def trip : DataItem := { id := str "trip", did := 0x0100, access := .readWrite }

/-- The same DID, with a level to reach. -/
def key : DataItem :=
  { id := str "key", did := 0x0100, access := .readWrite, requiresSecurityLevel := some 1 }

theorem load_eq : Catalog.loadFromString lib yamlText = .ok { data := [trip, key] } := by
  have hload : lib.load yamlText = .ok (.map [(.scalar (str "data"), .seq entries)]) := by
    simp only [lib, ↓reduceIte]
  rw [Catalog.loadFromString, hload]
  rfl

/-- The two entries of one DID ask for different things. -/
theorem not_sameEntry : ¬ Catalog.SameEntry { data := [trip, key] } := by
  intro h
  exact absurd (h (str "key") key (by decide)) (by decide)

/-- The document is one of those the condition leaves out. -/
theorem not_repeatsTogether : ¬ RepeatsTogether (fun n : Yaml => n.text? (str "id")) Yaml.did?
    (dataEntries lib yamlText) :=
  fun h => not_sameEntry ((same_entry_iff load_eq).mpr h)

/-- The server checks the key, the adapter looks at the counter. -/
theorem two_entries_one_did :
    ∃ c, Catalog.loadFromString lib yamlText = .ok c ∧ c.findById (str "key") = some key ∧
      c.findByDid key.did = some trip ∧ ¬ c.SameEntry :=
  ⟨_, load_eq, by decide, by decide, not_sameEntry⟩

end SharedDid

end Sovd
