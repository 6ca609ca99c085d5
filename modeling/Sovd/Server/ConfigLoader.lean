import Sovd.Catalog.Loader
import Sovd.Server.World

/-!
# Reading the topology (`server/src/config_loader.cpp`)

One YAML document says what the server is and which entities it has. The loader reads the
`server` block, then registers the entities one after the other (`attachEntity`), each
with the adapter it asks for: the mock, the one for UDS over DoIP, or the address of
another server it is forwarded to. An entity whose adapter cannot be had is registered
without one, as a grouping node.

What it throws for a document it does not accept is a `ConfigError`. The YAML library,
the JSON library and the HTTP client throw exceptions of their own (`ConfigFailure`).

Mirroring notes vs the C++:
- What was compiled in, the file system and the YAML library are `ConfigEnv`.
- The registry keeps the number of a context, which is its place in `contexts`.
- The configuration of a UDS adapter is handed over as a document. In the source it is
  its text, which is parsed again (`parseJson_text`).
- `newClient` says what the constructor of the HTTP client throws. Its regular expression
  is read from left to right; where both alternatives of the host match, they do so with
  the same port.
- Warnings go to `stderr` and are left out.
-/

namespace Sovd

/-- What leaves the loader in place of a topology. -/
inductive ConfigFailure
  /-- `ConfigError` -/
  | config (what : Bytes)
  /-- an exception of the YAML library -/
  | yaml
  /-- `json::type_error` -/
  | jsonType
  | invalidArgument
  | outOfRange
  deriving DecidableEq

/-- What loading a configuration meets: the YAML library, the files, the adapters that were built
in. -/
structure ConfigEnv where
  yaml : YamlLib
  /-- What there is in a file; `none` is one that cannot be opened. -/
  files : Bytes → Option Bytes
  /-- No file has no name. -/
  files_nil : files [] = none
  haveMock : Bool := true
  haveUdsDoip : Bool := true

/-- `ServerConfig` -/
structure ServerConfig where
  id : Bytes
  port : Int := 20002
  role : Bytes := str "domain"
  tlsCert : Bytes := []
  tlsKey : Bytes := []
  tlsClientCa : Bytes := []

/-- What `create` of the UDS adapter makes of its configuration. -/
structure UdsDoipConfig where
  host : Bytes
  port : UInt16
  ecuLogicalAddress : UInt16
  testerLogicalAddress : UInt16
  connectTimeoutMs : Int
  readTimeoutMs : Int
  heartbeatIntervalMs : Int
  idleTimeoutMs : Int
  catalogData : Option Catalog

/-- What an adapter's `create` gave. -/
inductive AdapterContext
  | mock
  | udsDoip (config : UdsDoipConfig)

/-- The registry and the router, as far as the loader fills them. -/
structure Topology where
  registry : EntityRegistry := {}
  contexts : List AdapterContext := []
  catalogs : List (Bytes × Catalog) := []
  proxies : List (Bytes × ProxyTarget) := []
  corsAllowedOrigins : List Bytes := []

/-! ## Nodes -/

namespace Yaml

/-- `node[key]`. -/
def field (node : Yaml) (key : Bytes) : Except ConfigFailure (Option Yaml) :=
  (node.get key).mapError fun _ => .yaml

/-- `as<std::string>()`. -/
def toText (lib : YamlLib) (node : Yaml) : Except ConfigFailure Bytes :=
  (node.asString lib).mapError fun _ => .yaml

/-- The number `as<int>()` finds. -/
def scalarInt (lib : YamlLib) : Yaml → Option Int
  | scalar text => lib.asInt text
  | _ => none

/-- `as<int>()`. -/
def toInt (lib : YamlLib) (node : Yaml) : Except ConfigFailure Int :=
  match node.scalarInt lib with
  | some i => .ok i
  | none => .error .yaml

/-- The text of a field that need not be there. -/
def textOr (lib : YamlLib) (node : Yaml) (key default : Bytes) : Except ConfigFailure Bytes := do
  match ← node.field key with
  | some v => v.toText lib
  | none => pure default

end Yaml

/-- A `ConfigError` with that text. -/
def configError {α : Type} (what : Bytes) : Except ConfigFailure α := .error (.config what)

/-! ## The HTTP client -/

/-- The port at the end of an address; `none` is no port and no end. -/
def portTail (s : Bytes) : Option Bytes :=
  match s with
  | [] => some []
  | c :: digits => if c = 58 ∧ digits ≠ [] ∧ digits.all isDigit then some digits else none

/-- The port behind a host in brackets. -/
def bracketedPort (s : Bytes) : Option Bytes :=
  match s with
  | 91 :: rest =>
    let host := rest.takeWhile fun c => isHexDigit c || c == 58
    match rest.drop host.length with
    | 93 :: after => if host = [] then none else portTail after
    | _ => none
  | _ => none

/-- The port behind any other host. -/
def plainPort (s : Bytes) : Option Bytes :=
  let host := s.takeWhile fun c => !(c == 58 || c == 47 || c == 63 || c == 35)
  if host = [] then none else portTail (s.drop host.length)

/-- The scheme, if there is one, and what comes after it. -/
def schemeOf (s : Bytes) : Bytes × Bytes :=
  let scheme := s.takeWhile fun c => 97 ≤ c && c ≤ 122
  let rest := s.drop scheme.length
  if scheme ≠ [] ∧ rest.take 3 = str "://" then (scheme, rest.drop 3) else ([], s)

/-- `httplib::Client(base_url, …)`. An address it cannot take apart is the name of a host. -/
def newClient (baseUrl : Bytes) : Except ConfigFailure Unit :=
  let (scheme, rest) := schemeOf baseUrl
  match (bracketedPort rest).orElse fun _ => plainPort rest with
  | none => pure ()
  | some port =>
    if scheme ≠ [] ∧ scheme ≠ str "http" ∧ scheme ≠ str "https" then .error .invalidArgument
    else if port ≠ [] ∧ (Catalog.stoi port).isNone then .error .outOfRange
    else pure ()

/-! ## Adapters -/

/-- `Catalog::load_from_file`, with the file it reads. -/
def ConfigEnv.loadCatalog (env : ConfigEnv) (path : Bytes) : Except LoadError Catalog :=
  match env.files path with
  | some contents => Catalog.loadFromFile env.yaml path contents
  | none =>
    Catalog.catalogError (str "YAML parse error in " ++ path ++ str ": bad file: " ++ path)

/-- A text of the configuration, or its default. -/
def jsonText (j : Json) (key default : Bytes) : Option Bytes :=
  match j.get? key with
  | some v => v.getString?
  | none => some default

/-- A number of the configuration, or its default. -/
def jsonInt (j : Json) (key : Bytes) (default : Int) : Option Int :=
  match j.get? key with
  | some (.int i) => some (toInt32 i)
  | some _ => none
  | none => some default

/-- `create` of the UDS adapter; `none` is the null pointer. -/
def udsDoipCreate (env : ConfigEnv) (j : Json) : Option UdsDoipConfig := do
  let host ← (← j.get? (str "gateway_ip")).getString?
  let ecuText ← (← j.get? (str "logical_address")).getString?
  let ecuLogicalAddress ← parseHexU16 (cStr ecuText)
  let port ← jsonInt j (str "port") 13400
  let connectTimeoutMs ← jsonInt j (str "connect_timeout_ms") 2000
  let readTimeoutMs ← jsonInt j (str "read_timeout_ms") 2000
  let testerText ← jsonText j (str "tester_logical_address") (str "0x0E00")
  let heartbeatIntervalMs ← jsonInt j (str "heartbeat_interval_ms") 2000
  let idleTimeoutMs ← jsonInt j (str "session_idle_timeout_ms") 6000
  let catalogPath ← jsonText j (str "did_catalog") []
  let catalogData ←
    if catalogPath = [] then some none
    else
      match env.loadCatalog catalogPath with
      | .ok c => some (some c)
      | .error (.catalog _) => some none
      | .error .yaml => none -- `catch (...)`
  some
    { host, ecuLogicalAddress, connectTimeoutMs, readTimeoutMs, heartbeatIntervalMs
      idleTimeoutMs, catalogData
      port := UInt16.ofInt port
      testerLogicalAddress := (parseHexU16 (cStr testerText)).getD 0x0E00 }

/-- The fields of the adapter block that are passed on, and which of them are numbers. -/
def udsDoipFields : List (Bytes × Bool) :=
  [(str "logical_address", false), (str "gateway_ip", false), (str "port", true),
    (str "tester_logical_address", false), (str "did_catalog", false),
    (str "connect_timeout_ms", true), (str "read_timeout_ms", true),
    (str "heartbeat_interval_ms", true), (str "session_idle_timeout_ms", true)]

/-- `if (adapter[key]) j[key] = adapter[key].as<T>();` -/
def configField (lib : YamlLib) (adapter : Yaml) (f : Bytes × Bool) :
    Except ConfigFailure (Option (Bytes × Json)) := do
  match ← adapter.field f.1 with
  | none => pure none
  | some v =>
    if f.2 then pure (some (f.1, .int (← v.toInt lib)))
    else pure (some (f.1, .str (← v.toText lib)))

/-- The configuration that is handed to the UDS adapter. -/
def udsDoipConfigJson (lib : YamlLib) (adapter : Yaml) : Except ConfigFailure Json := do
  let fields ← udsDoipFields.mapM (configField lib adapter)
  let members := fields.filterMap id
  let j := if members = [] then Json.null else .obj members
  j.dump.mapError fun _ => .jsonType

/-- `router.attach_catalog`, in a `try` for a catalog that cannot be read. -/
def attachCatalog (path : Bytes) (t : Topology) :
    Except LoadError Catalog → Except ConfigFailure Topology
  | .ok c => pure { t with catalogs := t.catalogs.filter (·.1 != path) ++ [(path, c)] }
  | .error (.catalog _) => pure t
  | .error .yaml => .error .yaml

/-- `attach_router_catalog_if_present` -/
def attachRouterCatalogIfPresent (env : ConfigEnv) (path : Bytes) (adapter : Yaml)
    (t : Topology) : Except ConfigFailure Topology := do
  match ← adapter.field (str "did_catalog") with
  | none => pure t
  | some v => attachCatalog path t (env.loadCatalog (← v.toText env.yaml))

/-! ## Entities -/

/-- `parse_entity_type` -/
def parseEntityType (s : Bytes) : Except ConfigFailure EntityType :=
  if s = str "vehicle" then pure .vehicle
  else if s = str "area" then pure .area
  else if s = str "component" then pure .component
  else configError (str "unknown entity type: " ++ s)

/-- `add_entity_or_throw`; `context` is the adapter, if there is one. -/
def addEntityOrThrow (path : Bytes) (type : EntityType) (context : Option AdapterContext)
    (t : Topology) : Except ConfigFailure Topology :=
  match t.registry.addEntity path type (context.map fun _ => {})
      (context.map fun _ => t.contexts.length) with
  | (true, registry) => .ok { t with registry, contexts := t.contexts ++ context.toList }
  | (false, _) =>
    configError (str "failed to register entity '" ++ path ++
      str ("' -- duplicate path, or its parent isn't registered yet " ++
        "(entities must be listed parent-before-child)"))

/-- The client's certificate and key, and who signs for the server. -/
def clientTlsFiles (lib : YamlLib) (tls : Yaml) :
    Except ConfigFailure (Bytes × Bytes × Bytes) := do
  let cert ← tls.textOr lib (str "client_cert") []
  let key ← tls.textOr lib (str "client_key") []
  let ca ← tls.textOr lib (str "ca_cert") []
  pure (cert, key, ca)

/-- The files of a proxy's `tls` block, if there is one. -/
def proxyTls (lib : YamlLib) (adapter : Yaml) : Except ConfigFailure (Bytes × Bytes × Bytes) := do
  match ← adapter.field (str "tls") with
  | none => pure ([], [], [])
  | some tls => clientTlsFiles lib tls

/-- The proxy target is kept, once a client can be made for it. -/
def attachProxy (path : Bytes) (target : ProxyTarget) (t : Topology) :
    Except ConfigFailure Topology := do
  newClient target.baseUrl
  pure { t with proxies := t.proxies.filter (·.1 != path) ++ [(path, target)] }

/-- An entity with the mock, if it was built in. -/
def attachMock (env : ConfigEnv) (path : Bytes) (type : EntityType) (adapter : Yaml)
    (t : Topology) : Except ConfigFailure Topology := do
  if env.haveMock then
    let t ← addEntityOrThrow path type (some .mock) t
    attachRouterCatalogIfPresent env path adapter t
  else addEntityOrThrow path type none t

/-- An entity with the UDS adapter; without one it is there as well, and has no backend. -/
def attachUdsDoip (env : ConfigEnv) (path : Bytes) (type : EntityType) (adapter : Yaml)
    (t : Topology) : Except ConfigFailure Topology := do
  if env.haveUdsDoip then
    let configJson ← udsDoipConfigJson env.yaml adapter
    match udsDoipCreate env configJson with
    | none => addEntityOrThrow path type none t
    | some config =>
      let t ← addEntityOrThrow path type (some (.udsDoip config)) t
      attachRouterCatalogIfPresent env path adapter t
  else addEntityOrThrow path type none t

/-- An entity on another server. -/
def attachSovdProxy (env : ConfigEnv) (path : Bytes) (type : EntityType) (adapter : Yaml)
    (t : Topology) : Except ConfigFailure Topology := do
  let t ← addEntityOrThrow path type none t
  let baseUrl ← adapter.textOr env.yaml (str "base_url") []
  let remotePath ← adapter.textOr env.yaml (str "remote_path") path
  if baseUrl = [] then
    configError (str "sovd_proxy adapter for " ++ path ++
      str " is missing required field: base_url")
  else
    let (tlsClientCert, tlsClientKey, tlsCaCert) ← proxyTls env.yaml adapter
    attachProxy path { baseUrl, remotePath, tlsClientCert, tlsClientKey, tlsCaCert } t

/-- The entity with the adapter its node asks for. -/
def attachEntity (env : ConfigEnv) (path : Bytes) (type : EntityType) (node : Yaml)
    (t : Topology) : Except ConfigFailure Topology := do
  match ← node.field (str "adapter") with
  | none => addEntityOrThrow path type none t
  | some adapter =>
    let kind ← adapter.textOr env.yaml (str "kind") []
    if kind = str "mock" then attachMock env path type adapter t
    else if kind = str "uds_doip" then attachUdsDoip env path type adapter t
    else if kind = str "sovd_proxy" then attachSovdProxy env path type adapter t
    else addEntityOrThrow path type none t

/-! ## Documents -/

/-- The origins that are listed, if they are listed. -/
def corsOrigins (lib : YamlLib) (server : Yaml) : Except ConfigFailure (List Bytes) := do
  match ← server.field (str "cors_allowed_origins") with
  | some (.seq origins) => origins.mapM (Yaml.toText lib)
  | _ => pure []

/-- A field that has to be there. -/
def requireField (node : Yaml) (key what : Bytes) : Except ConfigFailure Yaml := do
  match ← node.field key with
  | some v => pure v
  | none => configError what

/-- Certificate, key, and who signs for clients. -/
def tlsFiles (lib : YamlLib) (tls : Yaml) : Except ConfigFailure (Bytes × Bytes × Bytes) := do
  let cert ← requireField tls (str "cert") (str "server.tls requires both cert and key")
  let key ← requireField tls (str "key") (str "server.tls requires both cert and key")
  let cert ← cert.toText lib
  let key ← key.toText lib
  let ca ← tls.textOr lib (str "client_ca") []
  pure (cert, key, ca)

/-- The files of the server's `tls` block, if there is one. -/
def serverTls (lib : YamlLib) (server : Yaml) : Except ConfigFailure (Bytes × Bytes × Bytes) := do
  match ← server.field (str "tls") with
  | none => pure ([], [], [])
  | some tls => tlsFiles lib tls

/-- The `server` section. -/
def loadServer (lib : YamlLib) (root : Yaml) :
    Except ConfigFailure (ServerConfig × List Bytes) := do
  let server ← requireField root (str "server") (str "missing required top-level key: server")
  let id ← requireField server (str "id") (str "server.id is required")
  let port ← requireField server (str "port") (str "server.port is required")
  let role ← requireField server (str "role") (str "server.role is required")
  let id ← id.toText lib
  let port ← port.toInt lib
  let role ← role.toText lib
  let origins ← corsOrigins lib server
  let (tlsCert, tlsKey, tlsClientCa) ← serverTls lib server
  pure ({ id, port, role, tlsCert, tlsKey, tlsClientCa }, origins)

/-- One round of the loop over the entities. -/
def loadEntity (env : ConfigEnv) (t : Topology) (node : Yaml) : Except ConfigFailure Topology := do
  let path ← requireField node (str "path") (str "an entity is missing required field: path")
  let type ← requireField node (str "type") (str "an entity is missing required field: type")
  let path ← path.toText env.yaml
  let type ← parseEntityType (← type.toText env.yaml)
  attachEntity env path type node t

/-- `load_topology_from_string` -/
def loadTopologyFromString (env : ConfigEnv) (yamlText : Bytes) :
    Except ConfigFailure (ServerConfig × Topology) := do
  match env.yaml.load yamlText with
  | .error what => configError (str "YAML parse error: " ++ what)
  | .ok root =>
    let (cfg, corsAllowedOrigins) ← loadServer env.yaml root
    match ← root.field (str "entities") with
    | some (.seq nodes) =>
      let t ← nodes.foldlM (loadEntity env) { corsAllowedOrigins }
      pure (cfg, t)
    | _ => configError (str "missing required top-level key: entities (must be a sequence)")

end Sovd
