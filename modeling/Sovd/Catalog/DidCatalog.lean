import Sovd.Double
import Sovd.HexText

/-!
# The DID catalog (`catalog/src/did_catalog.cpp`)

What an ECU's data items are called, how their bytes are typed, and what it takes
to read or write them. Lookups answer with the first item that fits, by name or by
number; nothing keeps two items from sharing a number.

`decode` turns a backend's bytes into a value for people, `encode` is the way
back. Both throw `CatalogError`, whose text is part of the model.

Mirroring notes vs the C++:
- `std::variant<std::string, double>` is `TypedValue`.
- What a 64-bit integer becomes as a `double` is a parameter (`castU64`,
  `Double.roundTo53` on the machine).
- The catalog is the parsed one; `Loader` says how it is read.
- A length is cast to `int` before it is compared (`toInt32`).
-/

namespace Sovd

/-! ## The data model -/

/-- What a data item may be used for. -/
inductive Access
  | read
  | write
  | readWrite
  deriving DecidableEq, Repr

/-- How the bytes of a data item are read; `raw` is hex text. -/
inductive DataType
  | string
  | float
  | enum
  | raw
  deriving DecidableEq, Repr

/-- The encoding of a number: its width, byte order and scale. -/
structure Encoding where
  bytes : Int := 0
  endian : Bytes := str "big"
  scale : Double := .fin 1
  unit : Bytes := []
  deriving DecidableEq

/-- One label of an enum. -/
structure EnumValue where
  raw : Int := 0
  label : Bytes
  deriving DecidableEq

/-- A data item of the catalog; the first one with an id or a DID is the one that is meant. -/
structure DataItem where
  id : Bytes
  did : UInt16 := 0
  type : DataType := .raw
  access : Access := .read
  ioControl : Bool := false
  requiresSession : Option Bytes := none
  requiresSecurityLevel : Option Int := none
  length : Int := 0
  encoding : Encoding := {}
  values : List EnumValue := []
  deriving DecidableEq

/-- An operation, and the UDS routine it starts. -/
structure Operation where
  id : Bytes
  routineId : UInt16 := 0
  requiresSession : Option Bytes := none
  async : Bool := false
  deriving DecidableEq

/-- What a YAML catalog holds of one ECU. -/
structure Catalog where
  data : List DataItem := []
  operations : List Operation := []
  deriving DecidableEq

/-- A decoded value; a JSON body has no other kinds. -/
inductive TypedValue
  | text (s : Bytes)
  | number (x : Double)
  deriving DecidableEq

/-- `CatalogError`, with its text. -/
structure CatalogError where
  what : Bytes
  deriving DecidableEq

namespace Catalog

/-- `find_by_id` -/
def findById (c : Catalog) (id : Bytes) : Option DataItem := c.data.find? fun d => d.id == id

/-- `find_by_did`: the first item with that DID. -/
def findByDid (c : Catalog) (did : UInt16) : Option DataItem := c.data.find? fun d => d.did == did

/-- `find_operation` -/
def findOperation (c : Catalog) (id : Bytes) : Option Operation :=
  c.operations.find? fun o => o.id == id

/-! ## Bytes and integers -/

/-- 64-bit accumulation, most significant byte first. -/
def bytesToUint (bytes : Bytes) (bigEndian : Bool) : Nat :=
  (if bigEndian then bytes else bytes.reverse).foldl (fun v b => (v * 256 + b.toNat) % 2 ^ 64) 0

/-- The bytes of a number, the highest or the lowest first; higher ones are cut off. -/
def uintToBytes (value nbytes : Nat) (bigEndian : Bool) : Bytes :=
  (List.range nbytes).map fun i =>
    let shift := if bigEndian then (nbytes - 1 - i) * 8 else i * 8
    UInt8.ofNat (value / 2 ^ shift)

/-- `static_cast<uint64_t>` of an `int`. -/
def intToU64 (i : Int) : Nat := (i % 2 ^ 64).toNat

/-- `CatalogError` names the item it is about. -/
def itemError (item : DataItem) (text : Bytes) : CatalogError :=
  ⟨str "data item '" ++ item.id ++ str "': " ++ text⟩

/-! ## Decode and encode -/

/-- `decode`: the value that the bytes of an item stand for. -/
def decode (castU64 : Nat → Rat) (item : DataItem) (bytes : Bytes) :
    Except CatalogError TypedValue :=
  match item.type with
  | .string => .ok (.text bytes)
  | .float =>
    if toInt32 bytes.length ≠ item.encoding.bytes then
      .error (itemError item (str "expected " ++ intText item.encoding.bytes ++
        str " bytes, got " ++ decimal bytes.length))
    else
      let raw := bytesToUint bytes (item.encoding.endian == str "big")
      .ok (.number ((Double.fin (castU64 raw)).mul item.encoding.scale))
  | .enum =>
    let raw := bytesToUint bytes true
    match item.values.find? fun ev => intToU64 ev.raw == raw with
    | some ev => .ok (.text ev.label)
    | none => .ok (.text (decimal raw)) -- an undocumented value
  | .raw => .ok (.text (toHex bytes))

/-- `encode`: the bytes that stand for a value, or what is wrong with it. -/
def encode (castU64 : Nat → Rat) (item : DataItem) (value : TypedValue) :
    Except CatalogError Bytes :=
  match item.type with
  | .string =>
    match value with
    | .number _ => .error (itemError item (str "expected a string value"))
    | .text s =>
      -- `static_cast<int>(s.size())`
      if 0 < item.length ∧ item.length < toInt32 s.length then
        .error (itemError item (str "value exceeds max length " ++ intText item.length))
      else .ok s
  | .float =>
    match value with
    | .text _ => .error (itemError item (str "expected a numeric value"))
    | .number x =>
      let raw := if item.encoding.scale.isZero then x else x.div item.encoding.scale
      let rounded := raw.round
      -- `1ULL << 64` would be undefined, so eight bytes are a case of their own
      let maxRaw := if 8 ≤ item.encoding.bytes then 2 ^ 64 - 1
        else 2 ^ (item.encoding.bytes.toNat * 8) - 1
      let max := Double.fin (castU64 maxRaw)
      if rounded.lt (.fin 0) || max.lt rounded then
        .error (itemError item (str "value out of range (0.." ++
          (max.mul item.encoding.scale).toText ++ str ")"))
      else
        .ok (uintToBytes rounded.toU64 item.encoding.bytes.toNat
          (item.encoding.endian == str "big"))
  | .enum =>
    match value with
    | .number _ => .error (itemError item (str "expected a string label"))
    | .text label =>
      match item.values.find? fun ev => ev.label == label with
      -- `static_cast<uint8_t>` of the raw value
      | some ev => .ok [UInt8.ofNat (intToU64 ev.raw)]
      | none =>
        .error (itemError item (str "'" ++ label ++ str "' is not a valid value (see /docs)"))
  | .raw =>
    match value with
    | .number _ => .error (itemError item (str "expected a hex string value"))
    | .text s =>
      match fromHex s with
      | some bytes => .ok bytes
      | none => .error (itemError item (str "value must be hex-encoded bytes"))

/-! ## Lookups -/

/-- An item that is found is in the catalog under that id. -/
theorem findById_mem {c : Catalog} {id : Bytes} {item : DataItem}
    (h : c.findById id = some item) : item ∈ c.data ∧ item.id = id := by
  refine ⟨List.mem_of_find?_eq_some h, ?_⟩
  simpa using List.find?_some h

end Catalog

end Sovd
