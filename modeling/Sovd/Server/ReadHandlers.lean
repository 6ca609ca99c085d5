import Sovd.Server.Handlers

/-!
# The handlers that only read (`routes.cpp`, `routes_faults.cpp`, `routes_data.cpp`)

The self-description of the server, the list of its entities, and what can be asked of
one entity without a lock: its faults, several data items at once, its documentation.
The last three open as every handler of an entity does, and so forward what is
proxied before they look at anything else.

Mirroring notes vs the C++:
- `body["data"]` and `body["operations"]` are there from the start, and stay empty
  where the entity has no catalog.
- The members of an object are in the order the source names them.
- `getline` drops what is empty here anyway.
-/

namespace Sovd

variable {σ : Type}

/-- `entity_type_to_string` -/
def entityTypeToString : EntityType → Bytes
  | .vehicle => str "vehicle"
  | .area => str "area"
  | .component => str "component"

/-- The texts `/docs` has for an access. -/
def accessToString : Access → Bytes
  | .read => str "read"
  | .write => str "write"
  | .readWrite => str "read_write"

/-- The texts `/docs` has for a type. -/
def dataTypeToString : DataType → Bytes
  | .string => str "string"
  | .float => str "float"
  | .enum => str "enum"
  | .raw => str "raw"

/-- An adapter of its own; a proxy target is not looked at. -/
def Entity.hasBackend (e : Entity σ) : Bool := e.vtable.isSome

/-- `GET /`: the server tells of itself. -/
def handleRoot (R : Router σ) (env : Env) (req : Request) (w : World σ) : World σ × Outcome :=
  let (_, res) := correlationIdFor env req {}
  (w, res.setJson (.obj [(str "server_id", .str R.serverId), (str "role", .str R.role),
    (str "sovd_version", .str (str "phase0-demo")),
    (str "api_versions", .arr [.str (str "v1")]),
    (str "limits", .obj [(str "lock_ttl_ceiling_seconds", .int kMaxLockTtlSeconds)])]))

/-- `GET /v1/entities`: an entity has a backend if it has an adapter or a proxy target. -/
def handleListEntities (R : Router σ) (env : Env) (req : Request) (w : World σ) :
    World σ × Outcome :=
  let (_, res) := correlationIdFor env req {}
  let items := R.entities.map fun e =>
    Json.obj [(str "path", .str e.path), (str "type", .str (entityTypeToString e.type)),
      (str "has_backend", .bool (e.hasBackend || (R.findProxy e.path).isSome))]
  (w, res.setJson (.obj [(str "items", .arr items)]))

/-! ## Faults -/

/-- The filters that a GET of faults may name. -/
def faultStatuses : List Bytes := [str "confirmed", str "pending", str "testFailed"]

/-- `handle_get_faults`: the filter is checked before the adapter is asked, and applied to what it
gave. -/
def handleGetFaults (R : Router σ) (env : Env) (req : Request) (path : Bytes) (w : World σ) :
    World σ × Outcome :=
  withBackend R env req path Vtable.readFaults w fun readFaults _ res =>
    let statusFilter := req.paramValue (str "status")
    if statusFilter ≠ [] ∧ statusFilter ∉ faultStatuses then
      (w, writeError res 400 (str "BAD_REQUEST")
        (str "status must be confirmed|pending|testFailed"))
    else
      let (r, faults, adapter) := readFaults w.adapter (cStr path)
      let w := { w with adapter }
      if r ≠ .ok then
        (w, writeError res (httpStatusFor r) (str "ADAPTER_ERROR") (str "read_faults failed"))
      else
        let items := (faults.filter fun f => statusFilter = [] || statusFilter == f.status).map
          fun f => Json.obj [(str "code", .str f.code), (str "status", .str f.status)]
        (w, res.setJson (.obj [(str "faults", .arr items)]))

/-! ## Several data items -/

/-- The identifiers `?ids=a,b,c` names. -/
def batchIds (req : Request) : List Bytes :=
  ((req.paramValue (str "ids")).splitOn 44).filter fun id => !id.isEmpty

/-- Each item is read on its own; one that fails is an error among the others. -/
def readBatch (env : Env) (readData : σ → Bytes → Bytes → SovdResult × Bytes × σ) (path : Bytes)
    (cat : Option Catalog) : List Bytes → World σ → List Json × World σ
  | [], w => ([], w)
  | id :: ids, w =>
    let (outcome, w) := readOneDataItem env readData path id cat w
    let item := match outcome with
      | .ok body => body
      | .failed _ errorCode message =>
        .obj [(str "id", .str id), (str "error", .str errorCode), (str "message", .str message)]
    let (items, w) := readBatch env readData path cat ids w
    (item :: items, w)

/-- `handle_get_data_batch`: one answer for all ids, an error of one of them being an item of its
own. -/
def handleGetDataBatch (R : Router σ) (env : Env) (req : Request) (path : Bytes) (w : World σ) :
    World σ × Outcome :=
  withBackend R env req path Vtable.readData w fun readData _ res =>
    let ids := batchIds req
    if ids = [] then
      (w, writeError res 400 (str "BAD_REQUEST") (str "expected non-empty ?ids=a,b,c"))
    else
      let (items, w) := readBatch env readData path (R.findCatalog path) ids w
      (w, res.setJson (.obj [(str "items", .arr items)]))

/-! ## Documentation -/

/-- What `/docs` tells of a data item; of its encoding it tells what its type uses. -/
def itemDocs (item : DataItem) : Json :=
  .obj ([(str "id", .str item.id), (str "did", .str (toHexU16 item.did)),
      (str "type", .str (dataTypeToString item.type)),
      (str "access", .str (accessToString item.access))] ++
    (if item.ioControl then [(str "io_control", .bool true)] else []) ++
    (match item.requiresSession with
      | some session => [(str "requires_session", .str session)]
      | none => []) ++
    match item.type with
    | .string => if 0 < item.length then [(str "length", .int item.length)] else []
    | .float =>
      [(str "unit", .str item.encoding.unit), (str "scale", .float item.encoding.scale)]
    | .enum =>
      [(str "values", .obj (item.values.foldl
        (fun members ev => Json.set members (intText ev.raw) (.str ev.label)) []))]
    | .raw => [])

/-- What `/docs` tells of an operation. -/
def operationDocs (op : Operation) : Json :=
  .obj ([(str "id", .str op.id), (str "routine_id", .str (toHexU16 op.routineId)),
      (str "async", .bool op.async)] ++
    match op.requiresSession with
    | some session => [(str "requires_session", .str session)]
    | none => [])

/-- What `/docs` tells of an adapter. -/
def capabilityDocs (c : Capabilities) : Json :=
  .obj [(str "supports_batch_read", .bool c.supportsBatchRead),
    (str "supports_async_operations", .bool c.supportsAsyncOperations),
    (str "supports_io_control", .bool c.supportsIoControl)]

/-- `handle_get_docs`: answered from the catalog, the adapter is not asked. -/
def handleGetDocs (R : Router σ) (env : Env) (req : Request) (path : Bytes) (w : World σ) :
    World σ × Outcome :=
  withEntity R env req path w fun e _ res =>
    let cat := R.findCatalog path
    (w, res.setJson (.obj ([(str "path", .str path),
        (str "type", .str (entityTypeToString e.type)), (str "has_backend", .bool e.hasBackend),
        (str "data", .arr ((cat.elim [] Catalog.data).map itemDocs)),
        (str "operations", .arr ((cat.elim [] Catalog.operations).map operationDocs))] ++
      match e.vtable with
      | some vtable => [(str "capabilities", capabilityDocs vtable.capabilities)]
      | none => [])))

end Sovd
