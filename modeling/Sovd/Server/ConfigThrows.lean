import Sovd.Catalog.Throws
import Sovd.Server.ConfigLoader

/-!
# What the topology loader throws

The loader asks whether a field is there, but not what it is in, and it converts what it
finds without a handler: `node[key]` on a scalar and `as<T>()` on what is no `T` are
exceptions of the YAML library, and go through to `main`. So do what a catalog throws that
is no `CatalogError`, a text for the UDS adapter that is not UTF-8, and an address the
HTTP client rejects.

For each part of a document that the loader reads, this module says for which contents one
of them is reached (`ServerForeign`, `UdsForeign`, `CatalogForeign`, `ProxyForeign`), and
what is returned for all the others.
-/

namespace Sovd

open Fallible

/-- Anything but a `ConfigError`. -/
def ConfigFailure.Foreign (e : ConfigFailure) : Prop := ∀ what, e ≠ .config what

/-- A `ConfigError` is not foreign. -/
theorem not_foreign_config (what : Bytes) : ¬ ConfigFailure.Foreign (.config what) :=
  fun h => h what rfl

/-- No `ConfigError` comes out of it. -/
abbrev OnlyForeign {α : Type} (x : Except ConfigFailure α) : Prop := Only ConfigFailure.Foreign x

/-- An exception of the YAML library is foreign. -/
theorem foreign_yaml : ConfigFailure.Foreign .yaml := fun _ h => by cases h

/-! ## Nodes -/

section

variable (lib : YamlLib)

/-- The field is there, and no text. -/
def Yaml.NoText (node : Yaml) (key : Bytes) : Prop :=
  ∃ v, node.get key = .ok (some v) ∧ v.scalarText lib = none

/-- The field is there, and no number. -/
def Yaml.NoInt (node : Yaml) (key : Bytes) : Prop :=
  ∃ v, node.get key = .ok (some v) ∧ v.scalarInt lib = none

end

section

variable {lib : YamlLib} {node : Yaml} {key : Bytes}

/-- What `node[key]` finds is what `get` finds. -/
theorem field_eq_ok {found : Option Yaml} :
    node.field key = .ok found ↔ node.get key = .ok found := by
  unfold Yaml.field
  cases node.get key with
  | error e => simp [Except.mapError]
  | ok v => simp [Except.mapError]

/-- A field throws no `ConfigError`. -/
theorem onlyForeign_field : OnlyForeign (node.field key) := by
  unfold Yaml.field
  cases node.get key with
  | error e => exact .error foreign_yaml
  | ok v => exact .ok v

/-- A field throws on a scalar alone. -/
theorem throws_field : Throws ConfigFailure.Foreign (node.field key) ↔ node.isScalar = true := by
  cases node with
  | scalar text => exact iff_of_true (throws_error.mpr foreign_yaml) rfl
  | null => exact iff_of_false (not_throws_ok _) Bool.false_ne_true
  | seq items => exact iff_of_false (not_throws_ok _) Bool.false_ne_true
  | map entries => exact iff_of_false (not_throws_ok _) Bool.false_ne_true

/-- `as<std::string>()` gives the text of a scalar. -/
theorem toText_eq_ok {text : Bytes} :
    node.toText lib = .ok text ↔ node.scalarText lib = some text := by
  unfold Yaml.toText Yaml.asString
  cases node.scalarText lib with
  | none => simp [Except.mapError]
  | some t => simp [Except.mapError]

/-- A text throws no `ConfigError`. -/
theorem onlyForeign_toText : OnlyForeign (node.toText lib) := by
  unfold Yaml.toText Yaml.asString
  cases node.scalarText lib with
  | none => exact .error foreign_yaml
  | some t => exact .ok t

/-- A text throws where there is none. -/
theorem throws_toText :
    Throws ConfigFailure.Foreign (node.toText lib) ↔ node.scalarText lib = none := by
  unfold Yaml.toText Yaml.asString
  cases node.scalarText lib with
  | none => exact iff_of_true (throws_error.mpr foreign_yaml) rfl
  | some t => exact iff_of_false (not_throws_ok t) (by simp)

/-- `as<int>()` gives the number of a scalar. -/
theorem toInt_eq_ok {i : Int} : node.toInt lib = .ok i ↔ node.scalarInt lib = some i := by
  unfold Yaml.toInt
  cases node.scalarInt lib with
  | none => simp
  | some j => simp

/-- A number throws no `ConfigError`. -/
theorem onlyForeign_toInt : OnlyForeign (node.toInt lib) := by
  unfold Yaml.toInt
  cases node.scalarInt lib with
  | none => exact .error foreign_yaml
  | some i => exact .ok i

/-- A number throws where there is none. -/
theorem throws_toInt :
    Throws ConfigFailure.Foreign (node.toInt lib) ↔ node.scalarInt lib = none := by
  unfold Yaml.toInt
  cases node.scalarInt lib with
  | none => exact iff_of_true (throws_error.mpr foreign_yaml) rfl
  | some i => exact iff_of_false (not_throws_ok i) (by simp)

/-- A field that is looked for, and what is done with it. -/
theorem throws_field_bind {α : Type} {f : Option Yaml → Except ConfigFailure α} :
    Throws ConfigFailure.Foreign (node.field key >>= f) ↔
      node.isScalar = true ∨ ∃ found, node.get key = .ok found ∧
        Throws ConfigFailure.Foreign (f found) := by
  rw [throws_bind, throws_field]
  simp only [field_eq_ok]

/-- The same where nothing is done if it is not there. -/
theorem throws_field_some {α : Type} {f : Option Yaml → Except ConfigFailure α}
    (hnone : ¬ Throws ConfigFailure.Foreign (f none)) :
    Throws ConfigFailure.Foreign (node.field key >>= f) ↔
      node.isScalar = true ∨ ∃ v, node.get key = .ok (some v) ∧
        Throws ConfigFailure.Foreign (f (some v)) := by
  rw [throws_field_bind]
  refine or_congr_right ⟨?_, fun ⟨v, hv, h⟩ => ⟨some v, hv, h⟩⟩
  rintro ⟨found, hfound, h⟩
  cases found with
  | none => exact absurd h hnone
  | some v => exact ⟨v, hfound, h⟩

/-- A text with a default throws no `ConfigError`. -/
theorem onlyForeign_textOr {default : Bytes} : OnlyForeign (node.textOr lib key default) := by
  refine onlyForeign_field.bind fun found => ?_
  cases found with
  | none => exact .pure default
  | some v => exact onlyForeign_toText

/-- A text with a default throws on a scalar, or on a field that is no text. -/
theorem throws_textOr {default : Bytes} :
    Throws ConfigFailure.Foreign (node.textOr lib key default) ↔
      node.isScalar = true ∨ node.NoText lib key := by
  rw [Yaml.textOr, throws_field_some (not_throws_pure default)]
  simp only [throws_toText]
  rfl

/-- A required field is the one that is there. -/
theorem requireField_eq_ok {what : Bytes} {v : Yaml} :
    requireField node key what = .ok v ↔ node.get key = .ok (some v) := by
  rw [requireField, bind_eq_ok]
  simp only [field_eq_ok]
  constructor
  · rintro ⟨found, hfound, h⟩
    cases found with
    | none => cases h
    | some u =>
      obtain rfl : u = v := Except.ok.inj h
      exact hfound
  · intro h
    exact ⟨some v, h, rfl⟩

/-- What is not there is a `ConfigError`. -/
theorem requireField_of_get {what : Bytes} {found : Option Yaml} (h : node.get key = .ok found) :
    requireField node key what = match found with
      | some v => pure v
      | none => configError what := by
  rw [requireField, field_eq_ok.mpr h]
  cases found with
  | none => rfl
  | some v => rfl

/-- It throws something else on a scalar alone. -/
theorem throws_requireField {what : Bytes} :
    Throws ConfigFailure.Foreign (requireField node key what) ↔ node.isScalar = true := by
  rw [requireField, throws_field_some fun h => not_foreign_config what (throws_error.mp h)]
  simp

/-- A field that has to be there, and what is done with it. -/
theorem throws_requireField_bind {α : Type} {what : Bytes} {f : Yaml → Except ConfigFailure α} :
    Throws ConfigFailure.Foreign (requireField node key what >>= f) ↔
      node.isScalar = true ∨ ∃ v, node.get key = .ok (some v) ∧
        Throws ConfigFailure.Foreign (f v) := by
  rw [throws_bind, throws_requireField]
  simp only [requireField_eq_ok]

/-- What goes on behind a required field returns if the field is there and it does. -/
theorem returns_requireField_bind {α : Type} {what : Bytes} {f : Yaml → Except ConfigFailure α} :
    Returns (requireField node key what >>= f) ↔
      ∃ v, node.get key = .ok (some v) ∧ Returns (f v) := by
  rw [returns_bind]
  simp only [requireField_eq_ok]

/-- Whatever has fields is no scalar. -/
theorem not_isScalar_of_get {v : Option Yaml} (h : node.get key = .ok v) :
    ¬ node.isScalar = true := by
  cases node with
  | scalar text => cases h
  | _ => exact Bool.false_ne_true

end

/-! ## The server block -/

section

variable (lib : YamlLib)

/-- One of the origins is no text. -/
def CorsForeign (server : Yaml) : Prop :=
  ∃ origins, server.get (str "cors_allowed_origins") = .ok (some (.seq origins)) ∧
    ∃ o ∈ origins, o.scalarText lib = none

/-- Certificate and key are there, and something is no text. -/
def TlsForeign (server : Yaml) : Prop :=
  ∃ tls, server.get (str "tls") = .ok (some tls) ∧ (tls.isScalar = true ∨
    ∃ cert key, tls.get (str "cert") = .ok (some cert) ∧ tls.get (str "key") = .ok (some key) ∧
      (cert.scalarText lib = none ∨ key.scalarText lib = none ∨ tls.NoText lib (str "client_ca")))

/-- If there is a `tls` block, certificate and key are there, and everything is a text. -/
def TlsComplete (server : Yaml) : Prop :=
  ∀ tls, server.get (str "tls") = .ok (some tls) →
    ∃ cert key, tls.get (str "cert") = .ok (some cert) ∧ tls.get (str "key") = .ok (some key) ∧
      cert.scalarText lib ≠ none ∧ key.scalarText lib ≠ none ∧ ¬ tls.NoText lib (str "client_ca")

/-- The three fields of the server block. -/
def ServerHas (root server id port role : Yaml) : Prop :=
  root.get (str "server") = .ok (some server) ∧ server.get (str "id") = .ok (some id) ∧
    server.get (str "port") = .ok (some port) ∧ server.get (str "role") = .ok (some role)

/-- The server block is complete and well typed. -/
def ServerComplete (root : Yaml) : Prop :=
  ∃ server id port role, ServerHas root server id port role ∧ id.scalarText lib ≠ none ∧
    port.scalarInt lib ≠ none ∧ role.scalarText lib ≠ none ∧ ¬ CorsForeign lib server ∧
    TlsComplete lib server

/-- The root or the server block is a scalar, or the block has its three fields and
something in it is not of the type it is converted to. -/
def ServerForeign (root : Yaml) : Prop :=
  root.isScalar = true ∨
    (∃ server, root.get (str "server") = .ok (some server) ∧ server.isScalar = true) ∨
    ∃ server id port role, ServerHas root server id port role ∧ (id.scalarText lib = none ∨
      port.scalarInt lib = none ∨ role.scalarText lib = none ∨ CorsForeign lib server ∨
      TlsForeign lib server)

end

section

variable {lib : YamlLib} {server root : Yaml}

/-- The CORS origins throw no `ConfigError`. -/
theorem onlyForeign_corsOrigins : OnlyForeign (corsOrigins lib server) := by
  refine onlyForeign_field.bind fun found => ?_
  split
  · exact .mapM (fun _ => onlyForeign_toText) _
  · exact .pure _

/-- The CORS origins throw exactly as `CorsForeign` says. -/
theorem throws_corsOrigins (hserver : server.isScalar = false) :
    Throws ConfigFailure.Foreign (corsOrigins lib server) ↔ CorsForeign lib server := by
  have horigins : ∀ origins : List Yaml,
      Throws ConfigFailure.Foreign (origins.mapM (Yaml.toText lib)) ↔
        ∃ o ∈ origins, o.scalarText lib = none := by
    intro origins
    rw [Only.throws_mapM fun _ => onlyForeign_toText]
    simp only [throws_toText]
  rw [corsOrigins, throws_field_bind, hserver]
  constructor
  · rintro (h | ⟨found, hget, h⟩)
    · cases h
    · split at h
      next origins => exact ⟨origins, hget, (horigins origins).mp h⟩
      next => exact absurd h (not_throws_pure _)
  · rintro ⟨origins, hget, h⟩
    exact .inr ⟨_, hget, (horigins origins).mpr h⟩

/-- The conversions of the `tls` block, one after the other. -/
theorem throws_tlsTexts {tls cert key : Yaml} :
    Throws ConfigFailure.Foreign (do
      let cert ← cert.toText lib
      let key ← key.toText lib
      let ca ← tls.textOr lib (str "client_ca") []
      pure (cert, key, ca)) ↔
      cert.scalarText lib = none ∨ key.scalarText lib = none ∨
        (tls.isScalar = true ∨ tls.NoText lib (str "client_ca")) := by
  rw [Only.throws_bind onlyForeign_toText fun _ _ => Only.throws_bind onlyForeign_toText fun _ _ =>
    throws_bind_pure, throws_toText, throws_toText, throws_textOr]

/-- Neither do the texts of the TLS files. -/
theorem onlyForeign_tlsTexts {tls cert key : Yaml} : OnlyForeign (do
    let cert ← cert.toText lib
    let key ← key.toText lib
    let ca ← tls.textOr lib (str "client_ca") []
    pure (cert, key, ca)) :=
  onlyForeign_toText.bind fun _ => onlyForeign_toText.bind fun _ =>
    onlyForeign_textOr.bind fun _ => .pure _

/-- The TLS files throw where one of them is no text, once both are there. -/
theorem throws_tlsFiles {tls : Yaml} :
    Throws ConfigFailure.Foreign (tlsFiles lib tls) ↔ tls.isScalar = true ∨
      ∃ cert key, tls.get (str "cert") = .ok (some cert) ∧ tls.get (str "key") = .ok (some key) ∧
        (cert.scalarText lib = none ∨ key.scalarText lib = none ∨
          tls.NoText lib (str "client_ca")) := by
  rw [tlsFiles, throws_requireField_bind]
  refine or_congr_right ⟨?_, ?_⟩
  · rintro ⟨cert, hcert, h⟩
    have hno := not_isScalar_of_get hcert
    obtain ⟨key, hkey, h⟩ := (throws_requireField_bind.mp h).resolve_left hno
    exact ⟨cert, key, hcert, hkey,
      (throws_tlsTexts.mp h).imp_right (.imp_right (Or.resolve_left · hno))⟩
  · rintro ⟨cert, key, hcert, hkey, h⟩
    refine ⟨cert, hcert, throws_requireField_bind.mpr (.inr ⟨key, hkey, throws_tlsTexts.mpr ?_⟩)⟩
    exact h.imp_right (.imp_right .inr)

/-- They are read where both are there and all are texts. -/
theorem returns_tlsFiles {tls : Yaml} :
    Returns (tlsFiles lib tls) ↔
      ∃ cert key, tls.get (str "cert") = .ok (some cert) ∧ tls.get (str "key") = .ok (some key) ∧
        cert.scalarText lib ≠ none ∧ key.scalarText lib ≠ none ∧
          ¬ tls.NoText lib (str "client_ca") := by
  rw [tlsFiles, returns_requireField_bind]
  simp only [returns_requireField_bind, onlyForeign_tlsTexts.returns_iff, throws_tlsTexts, not_or]
  constructor
  · rintro ⟨cert, hcert, key, hkey, hno, hno', -, hca⟩
    exact ⟨cert, key, hcert, hkey, hno, hno', hca⟩
  · rintro ⟨cert, key, hcert, hkey, hno, hno', hca⟩
    exact ⟨cert, hcert, key, hkey, hno, hno', not_isScalar_of_get hcert, hca⟩

/-- The TLS section throws exactly as `TlsForeign` says. -/
theorem throws_serverTls (hserver : server.isScalar = false) :
    Throws ConfigFailure.Foreign (serverTls lib server) ↔ TlsForeign lib server := by
  rw [serverTls, throws_field_some (not_throws_pure ([], [], [])), hserver]
  simp only [throws_tlsFiles, TlsForeign, Bool.false_eq_true, false_or]

/-- The TLS section is read exactly if it is complete. -/
theorem returns_serverTls (hserver : server.isScalar = false) :
    Returns (serverTls lib server) ↔ TlsComplete lib server := by
  rw [serverTls, returns_bind, TlsComplete]
  simp only [field_eq_ok]
  obtain ⟨found, hget⟩ := Yaml.get_of_not_scalar hserver (str "tls")
  constructor
  · rintro ⟨found', hget', h⟩ tls htls
    obtain rfl : found' = some tls := Except.ok.inj (hget'.symm.trans htls)
    exact returns_tlsFiles.mp h
  · intro h
    refine ⟨found, hget, ?_⟩
    cases found with
    | none => exact returns_pure _
    | some tls => exact returns_tlsFiles.mpr (h tls hget)

/-- What is converted once the fields are there. -/
theorem throws_serverTexts {id port role : Yaml} (hserver : server.isScalar = false) :
    Throws ConfigFailure.Foreign (do
      let id ← id.toText lib
      let port ← port.toInt lib
      let role ← role.toText lib
      let origins ← corsOrigins lib server
      let (tlsCert, tlsKey, tlsClientCa) ← serverTls lib server
      pure (({ id, port, role, tlsCert, tlsKey, tlsClientCa } : ServerConfig), origins)) ↔
      id.scalarText lib = none ∨ port.scalarInt lib = none ∨ role.scalarText lib = none ∨
        CorsForeign lib server ∨ TlsForeign lib server := by
  rw [Only.throws_bind onlyForeign_toText fun _ _ => Only.throws_bind onlyForeign_toInt fun _ _ =>
    Only.throws_bind onlyForeign_toText fun _ _ =>
    Only.throws_bind onlyForeign_corsOrigins fun _ _ => throws_bind_pure,
    throws_toText, throws_toInt, throws_toText, throws_corsOrigins hserver,
    throws_serverTls hserver]

/-- **The server section throws what is no `ConfigError` exactly as `ServerForeign` says.** -/
theorem throws_loadServer :
    Throws ConfigFailure.Foreign (loadServer lib root) ↔ ServerForeign lib root := by
  rw [loadServer, throws_requireField_bind, ServerForeign]
  refine or_congr_right ⟨?_, ?_⟩
  · rintro ⟨server, hserver, h⟩
    rcases throws_requireField_bind.mp h with hscalar | ⟨id, hid, h⟩
    · exact .inl ⟨server, hserver, hscalar⟩
    · have hno := not_isScalar_of_get hid
      obtain ⟨port, hport, h⟩ := (throws_requireField_bind.mp h).resolve_left hno
      obtain ⟨role, hrole, h⟩ := (throws_requireField_bind.mp h).resolve_left hno
      exact .inr ⟨server, id, port, role, ⟨hserver, hid, hport, hrole⟩,
        (throws_serverTexts (Bool.not_eq_true _ ▸ hno)).mp h⟩
  · rintro (⟨server, hserver, hscalar⟩ | ⟨server, id, port, role, ⟨hserver, hid, hport, hrole⟩, h⟩)
    · exact ⟨server, hserver, throws_requireField_bind.mpr (.inl hscalar)⟩
    · have hno := Bool.not_eq_true _ ▸ not_isScalar_of_get hid
      refine ⟨server, hserver, throws_requireField_bind.mpr (.inr ⟨id, hid,
        throws_requireField_bind.mpr (.inr ⟨port, hport, throws_requireField_bind.mpr
          (.inr ⟨role, hrole, (throws_serverTexts hno).mpr h⟩)⟩)⟩)⟩

/-- What is read behind the required fields is read exactly if all of it is there. -/
theorem returns_serverTexts {id port role : Yaml} (hserver : server.isScalar = false) :
    Returns (do
      let id ← id.toText lib
      let port ← port.toInt lib
      let role ← role.toText lib
      let origins ← corsOrigins lib server
      let (tlsCert, tlsKey, tlsClientCa) ← serverTls lib server
      pure (({ id, port, role, tlsCert, tlsKey, tlsClientCa } : ServerConfig), origins)) ↔
      id.scalarText lib ≠ none ∧ port.scalarInt lib ≠ none ∧ role.scalarText lib ≠ none ∧
        ¬ CorsForeign lib server ∧ TlsComplete lib server := by
  have htext : ∀ v : Yaml, Returns (v.toText lib) ↔ v.scalarText lib ≠ none := by
    intro v
    rw [onlyForeign_toText.returns_iff, throws_toText]
  have hport : Returns (port.toInt lib) ↔ port.scalarInt lib ≠ none := by
    rw [onlyForeign_toInt.returns_iff, throws_toInt]
  have hcors : Returns (corsOrigins lib server) ↔ ¬ CorsForeign lib server := by
    rw [onlyForeign_corsOrigins.returns_iff, throws_corsOrigins hserver]
  exact returns_bind_iff (htext id) fun _ => returns_bind_iff hport fun _ =>
    returns_bind_iff (htext role) fun _ => returns_bind_iff hcors fun _ =>
    returns_bind_pure.trans (returns_serverTls hserver)

/-- **and is read exactly if it is complete.** -/
theorem returns_loadServer : Returns (loadServer lib root) ↔ ServerComplete lib root := by
  rw [loadServer, returns_requireField_bind]
  simp only [returns_requireField_bind]
  constructor
  · rintro ⟨server, hserver, id, hid, port, hport, role, hrole, h⟩
    exact ⟨server, id, port, role, ⟨hserver, hid, hport, hrole⟩,
      (returns_serverTexts (Bool.not_eq_true _ ▸ not_isScalar_of_get hid)).mp h⟩
  · rintro ⟨server, id, port, role, ⟨hserver, hid, hport, hrole⟩, h⟩
    exact ⟨server, hserver, id, hid, port, hport, role, hrole,
      (returns_serverTexts (Bool.not_eq_true _ ▸ not_isScalar_of_get hid)).mpr h⟩

end

/-! ## Adapter blocks -/

/-- The text of a field, where it is there and has one. -/
def Yaml.textAt (lib : YamlLib) (node : Yaml) (key : Bytes) : Option Bytes :=
  match node.get key with
  | .ok (some v) => v.scalarText lib
  | _ => none

section

variable (lib : YamlLib)

/-- A field that is passed on is not of its type. -/
def FieldForeign (adapter : Yaml) (f : Bytes × Bool) : Prop :=
  if f.2 then adapter.NoInt lib f.1 else adapter.NoText lib f.1

/-- Something that is passed on is not of its type, or is a text that is not UTF-8. -/
def UdsForeign (adapter : Yaml) : Prop :=
  (∃ f ∈ udsDoipFields, FieldForeign lib adapter f) ∨
    ∃ f ∈ udsDoipFields, f.2 = false ∧
      ∃ text, adapter.textAt lib f.1 = some text ∧ Utf8.valid text = false

/-- The catalog is named by no text, or the file is one of those `DocumentThrows` is about. -/
def CatalogForeign (env : ConfigEnv) (adapter : Yaml) : Prop :=
  adapter.NoText env.yaml (str "did_catalog") ∨ ∃ path contents root,
    adapter.textAt env.yaml (str "did_catalog") = some path ∧ env.files path = some contents ∧
      env.yaml.load contents = .ok root ∧ DocumentThrows env.yaml root

/-- The HTTP client takes the address apart, and does not like its scheme or its port. -/
def ClientRejects (baseUrl : Bytes) : Prop :=
  ∃ port, ((bracketedPort (schemeOf baseUrl).2).orElse fun _ =>
      plainPort (schemeOf baseUrl).2) = some port ∧
    ((schemeOf baseUrl).1 ≠ [] ∧ (schemeOf baseUrl).1 ≠ str "http" ∧
        (schemeOf baseUrl).1 ≠ str "https" ∨ port ≠ [] ∧ Catalog.stoi port = none)

/-- The `tls` block of a proxy is a scalar, or something in it is no text. -/
def ProxyTlsForeign (adapter : Yaml) : Prop :=
  ∃ tls, adapter.get (str "tls") = .ok (some tls) ∧ (tls.isScalar = true ∨
    tls.NoText lib (str "client_cert") ∨ tls.NoText lib (str "client_key") ∨
      tls.NoText lib (str "ca_cert"))

/-- The address of a proxy; empty where there is none. -/
def baseUrlOf (adapter : Yaml) : Bytes := (adapter.textAt lib (str "base_url")).getD []

/-- What is read of a proxy is no text, or there is an address and the client rejects it. -/
def ProxyForeign (adapter : Yaml) : Prop :=
  adapter.NoText lib (str "base_url") ∨ adapter.NoText lib (str "remote_path") ∨
    baseUrlOf lib adapter ≠ [] ∧ (ProxyTlsForeign lib adapter ∨
      ClientRejects (baseUrlOf lib adapter))

end

section

variable {lib : YamlLib} {adapter : Yaml}

/-- A text that is there, or the default. -/
theorem textOr_eq {node : Yaml} {key : Bytes} (default : Bytes) (hnode : node.isScalar = false)
    (htext : ¬ node.NoText lib key) :
    node.textOr lib key default = pure ((node.textAt lib key).getD default) := by
  obtain ⟨found, hget⟩ := Yaml.get_of_not_scalar hnode key
  have hfield : node.field key = .ok found := field_eq_ok.mpr hget
  rw [Yaml.textOr, hfield, Yaml.textAt, hget]
  cases found with
  | none => rfl
  | some v =>
    cases hv : v.scalarText lib with
    | none => exact absurd ⟨v, hget, hv⟩ htext
    | some text =>
      dsimp only
      rw [hv]
      exact toText_eq_ok.mpr hv

/-! ### The configuration of a UDS adapter -/

/-- The member a field becomes. -/
def fieldValue (lib : YamlLib) (adapter : Yaml) (f : Bytes × Bool) : Option (Bytes × Json) :=
  match adapter.get f.1 with
  | .ok (some v) =>
    if f.2 then (v.scalarInt lib).map fun i => (f.1, .int i)
    else (v.scalarText lib).map fun text => (f.1, .str text)
  | _ => none

/-- A field of an adapter throws no `ConfigError`. -/
theorem onlyForeign_configField (f : Bytes × Bool) : OnlyForeign (configField lib adapter f) := by
  refine onlyForeign_field.bind fun found => ?_
  split
  · exact .pure _
  · split_ifs
    · exact onlyForeign_toInt.bind fun _ => .pure _
    · exact onlyForeign_toText.bind fun _ => .pure _

/-- A field of an adapter throws exactly as `FieldForeign` says. -/
theorem throws_configField (hadapter : adapter.isScalar = false) (f : Bytes × Bool) :
    Throws ConfigFailure.Foreign (configField lib adapter f) ↔ FieldForeign lib adapter f := by
  rw [configField, throws_field_some, hadapter, FieldForeign]
  · split_ifs
    · simp only [throws_bind_pure, throws_toInt, false_or]
      rfl
    · simp only [throws_bind_pure, throws_toText, false_or]
      rfl
  · exact not_throws_pure none

/-- A field that is read is the value it has. -/
theorem configField_eq_ok {f : Bytes × Bool} {o : Option (Bytes × Json)}
    (h : configField lib adapter f = .ok o) : o = fieldValue lib adapter f := by
  obtain ⟨found, hfield, h⟩ := bind_eq_ok.mp h
  rw [fieldValue, field_eq_ok.mp hfield]
  cases found with
  | none => exact (Except.ok.inj h).symm
  | some v =>
    dsimp only at h ⊢
    split_ifs at h ⊢
    · obtain ⟨i, hi, h⟩ := bind_eq_ok.mp h
      rw [toInt_eq_ok.mp hi]
      exact (Except.ok.inj h).symm
    · obtain ⟨text, htext, h⟩ := bind_eq_ok.mp h
      rw [toText_eq_ok.mp htext]
      exact (Except.ok.inj h).symm

/-- A field that is there stands under its own key. -/
theorem fieldValue_key {f : Bytes × Bool} {m : Bytes × Json}
    (h : fieldValue lib adapter f = some m) : m.1 = f.1 := by
  unfold fieldValue at h
  split at h
  · split_ifs at h
    · obtain ⟨i, -, rfl⟩ := Option.map_eq_some_iff.mp h
      rfl
    · obtain ⟨text, -, rfl⟩ := Option.map_eq_some_iff.mp h
      rfl
  · cases h

/-- A field is found under its own name. -/
theorem find?_fieldValue {fs : List (Bytes × Bool)} (hnodup : (fs.map Prod.fst).Nodup)
    {f : Bytes × Bool} (hf : f ∈ fs) :
    (fs.filterMap (fieldValue lib adapter)).find? (fun m => m.1 == f.1) =
      fieldValue lib adapter f := by
  induction fs with
  | nil => exact absurd hf List.not_mem_nil
  | cons g fs ih =>
    obtain ⟨hnew, hnodup⟩ := List.nodup_cons.mp hnodup
    rw [List.filterMap_cons]
    rcases List.mem_cons.mp hf with rfl | hmem
    · cases hvalue : fieldValue lib adapter f with
      | none =>
        refine List.find?_eq_none.mpr fun m hm => ?_
        obtain ⟨f', hf', hm⟩ := List.mem_filterMap.mp hm
        rw [fieldValue_key hm, beq_iff_eq]
        exact fun heq => hnew (heq ▸ List.mem_map_of_mem hf')
      | some m => exact List.find?_cons_of_pos (beq_iff_eq.mpr (fieldValue_key hvalue))
    · have hne : g.1 ≠ f.1 := fun heq => hnew (heq ▸ List.mem_map_of_mem hmem)
      cases hvalue : fieldValue lib adapter g with
      | none => exact ih hnodup hmem
      | some m =>
        refine Eq.trans (List.find?_cons_of_neg ?_) (ih hnodup hmem)
        rw [fieldValue_key hvalue, beq_iff_eq]
        exact hne

/-- The document is made of the fields that are there. -/
def fieldsDocument (lib : YamlLib) (adapter : Yaml) : Json :=
  let members := udsDoipFields.filterMap (fieldValue lib adapter)
  if members = [] then .null else .obj members

/-- The document has each field under its key. -/
theorem fieldsDocument_get? {f : Bytes × Bool} (hf : f ∈ udsDoipFields) :
    (fieldsDocument lib adapter).get? f.1 = (fieldValue lib adapter f).map Prod.snd := by
  rw [← find?_fieldValue (by decide) hf, fieldsDocument]
  split_ifs with hnone
  · rw [hnone]
    rfl
  · rfl

/-- A field that is a text is copied as it is. -/
theorem fieldValue_text {key : Bytes} :
    fieldValue lib adapter (key, false) =
      (adapter.textAt lib key).map fun text => (key, .str text) := by
  rw [fieldValue, Yaml.textAt]
  dsimp only
  rcases adapter.get key with _ | _ | v
  · rfl
  · rfl
  · exact if_neg Bool.false_ne_true

/-- The keys are plain text, so the document is UTF-8 if the texts in it are. -/
theorem fieldsDocument_utf8 :
    (fieldsDocument lib adapter).utf8 = true ↔ ∀ f ∈ udsDoipFields, f.2 = false →
      ∀ text, adapter.textAt lib f.1 = some text → Utf8.valid text = true := by
  have hkeys : ∀ f ∈ udsDoipFields, Utf8.valid f.1 = true := by decide
  have hmembers : (fieldsDocument lib adapter).utf8 = true ↔
      ∀ f ∈ udsDoipFields, ∀ m, fieldValue lib adapter f = some m → m.2.utf8 = true := by
    have hall : (fieldsDocument lib adapter).utf8 = true ↔
        Json.utf8Members (udsDoipFields.filterMap (fieldValue lib adapter)) = true := by
      rw [fieldsDocument]
      split_ifs with hnone
      · rw [hnone]
        exact iff_of_true (by simp [Json.utf8]) Json.utf8Members_nil
      · rw [Json.utf8_obj]
    rw [hall, Json.utf8Members_iff]
    constructor
    · intro h f hf m hm
      exact (h m (List.mem_filterMap.mpr ⟨f, hf, hm⟩)).2
    · intro h m hm
      obtain ⟨f, hf, hfm⟩ := List.mem_filterMap.mp hm
      exact ⟨fieldValue_key hfm ▸ hkeys f hf, h f hf m hfm⟩
  rw [hmembers]
  refine forall₂_congr fun ⟨key, number⟩ hf => ?_
  cases number with
  | false =>
    simp only [fieldValue_text, Option.map_eq_some_iff, forall_exists_index, and_imp,
      forall_apply_eq_imp_iff₂, Json.utf8_str, forall_const]
  | true =>
    refine iff_of_true (fun m hm => ?_) fun h => by cases h
    unfold fieldValue at hm
    split at hm
    · obtain ⟨i, -, rfl⟩ := Option.map_eq_some_iff.mp hm
      exact Json.utf8_int i
    · cases hm

/-- The adapter's document is read field by field, and then written. -/
theorem udsDoipConfigJson_eq :
    udsDoipConfigJson lib adapter = (do
      let _ ← udsDoipFields.mapM (configField lib adapter)
      (fieldsDocument lib adapter).dump.mapError fun _ => .jsonType) := by
  rw [udsDoipConfigJson]
  cases hfields : udsDoipFields.mapM (configField lib adapter) with
  | error e => rfl
  | ok fields =>
    obtain rfl := eq_map_of_mapM (fun _ _ h => configField_eq_ok h) hfields
    have hmembers : (udsDoipFields.map (fieldValue lib adapter)).filterMap id =
        udsDoipFields.filterMap (fieldValue lib adapter) := by
      rw [List.filterMap_map]
      rfl
    exact congrArg (fun members => (if members = [] then Json.null else .obj members).dump.mapError
      fun _ => ConfigFailure.jsonType) hmembers

/-- `dump` throws exactly on text that is not UTF-8. -/
theorem behaves_dump (j : Json) :
    Behaves ConfigFailure.Foreign (j.dump.mapError fun _ => ConfigFailure.jsonType)
      (¬ j.utf8 = true) (j.utf8 = true) (· = j) := by
  cases hutf8 : j.utf8 with
  | true =>
    rw [Json.dump_of_utf8 hutf8]
    exact ⟨by simp [Except.mapError], by simp [Except.mapError], fun _ h => (Except.ok.inj h).symm⟩
  | false =>
    rw [Json.dump_of_not_utf8 hutf8]
    exact (Behaves.error fun _ h => by cases h).congr (by simp) (by simp) fun _ => id

/-- What is passed on, and for which blocks nothing is. -/
theorem behaves_udsDoipConfigJson (hadapter : adapter.isScalar = false) :
    Behaves ConfigFailure.Foreign (udsDoipConfigJson lib adapter) (UdsForeign lib adapter)
      (¬ UdsForeign lib adapter) (· = fieldsDocument lib adapter) := by
  have hfields : Behaves ConfigFailure.Foreign (udsDoipFields.mapM (configField lib adapter))
      (∃ f ∈ udsDoipFields, FieldForeign lib adapter f)
      (¬ ∃ f ∈ udsDoipFields, FieldForeign lib adapter f) fun _ => True := by
    refine .of_only (.mapM onlyForeign_configField _) ?_ fun _ _ => trivial
    rw [Only.throws_mapM onlyForeign_configField]
    exact exists_congr fun f => and_congr_right fun _ => throws_configField hadapter f
  have hvalid : (¬ (fieldsDocument lib adapter).utf8 = true) ↔ ∃ f ∈ udsDoipFields,
      f.2 = false ∧ ∃ text, adapter.textAt lib f.1 = some text ∧ Utf8.valid text = false := by
    rw [fieldsDocument_utf8]
    push Not
    simp only [Bool.not_eq_true]
  rw [udsDoipConfigJson_eq]
  refine (hfields.bind fun _ _ => behaves_dump _).congr ?_ ?_ fun _ => id
  · rw [UdsForeign, ← hvalid]
    exact or_congr_right' fun hread => and_iff_right hread
  · rw [UdsForeign, ← hvalid, not_or, not_not]

/-! ### Catalogs -/

/-- The file `CatalogForeign` is about. -/
theorem loadCatalog_eq_yaml {env : ConfigEnv} {path : Bytes} :
    env.loadCatalog path = .error .yaml ↔ ∃ contents root, env.files path = some contents ∧
      env.yaml.load contents = .ok root ∧ DocumentThrows env.yaml root := by
  have hcatalog : ∀ (what : Bytes) (p : Prop),
      (Catalog.catalogError what : Except LoadError Catalog) = .error .yaml → p :=
    fun what p h => by cases h
  unfold ConfigEnv.loadCatalog
  cases hfile : env.files path with
  | none => exact ⟨hcatalog _ _, fun ⟨contents, root, h, _⟩ => by cases h⟩
  | some contents =>
    dsimp only
    cases hload : env.yaml.load contents with
    | error what =>
      rw [Catalog.loadFromFile, hload]
      refine ⟨hcatalog _ _, ?_⟩
      rintro ⟨contents', root, hsame, hroot, -⟩
      obtain rfl := Option.some.inj hsame
      rw [hload] at hroot
      cases hroot
    | ok root =>
      rw [Catalog.loadFromFile_of_ok hload, Catalog.loadFromString_of_ok hload]
      constructor
      · intro h
        exact ⟨contents, root, rfl, hload, Catalog.throws_loadSections.mp ⟨.yaml, h, rfl⟩⟩
      · rintro ⟨contents', root', hsame, hroot, h⟩
        obtain rfl := Option.some.inj hsame
        rw [hload] at hroot
        obtain rfl := Except.ok.inj hroot
        obtain ⟨e, he, rfl⟩ := Catalog.throws_loadSections.mpr h
        exact he

/-- A catalog that cannot be loaded is logged and left out, unless what it threw is none of its
own errors. -/
theorem behaves_attachCatalog (path : Bytes) (t : Topology) (x : Except LoadError Catalog) :
    Behaves ConfigFailure.Foreign (attachCatalog path t x) (x = .error .yaml) (¬ x = .error .yaml)
      fun t' => t'.registry = t.registry ∧ t'.contexts = t.contexts := by
  match x with
  | .ok c => exact (Behaves.pure ⟨rfl, rfl⟩).congr (by simp) (by simp) fun _ h => h
  | .error (.catalog e) => exact (Behaves.pure ⟨rfl, rfl⟩).congr (by simp) (by simp) fun _ h => h
  | .error .yaml => exact (Behaves.error foreign_yaml).congr (by simp) (by simp) fun _ h => h

/-- A text is there if the field is a scalar. -/
theorem textAt_eq_some {node : Yaml} {key text : Bytes} :
    node.textAt lib key = some text ↔
      ∃ v, node.get key = .ok (some v) ∧ v.scalarText lib = some text := by
  rw [Yaml.textAt]
  rcases node.get key with _ | _ | v
  · simp
  · simp
  · simp

/-- The text of a field, once it is known what the field is. -/
theorem textAt_of_get {node : Yaml} {key : Bytes} {found : Option Yaml}
    (h : node.get key = .ok found) : node.textAt lib key = found.bind (Yaml.scalarText lib) := by
  rw [Yaml.textAt, h]
  cases found with
  | none => rfl
  | some v => rfl

/-- What a catalog can throw: its path is no text, or the loading throws what is no
`CatalogError`. -/
theorem catalogForeign_iff {env : ConfigEnv} :
    CatalogForeign env adapter ↔ ∃ v, adapter.get (str "did_catalog") = .ok (some v) ∧
      (v.scalarText env.yaml = none ∨
        ∃ file, v.scalarText env.yaml = some file ∧ env.loadCatalog file = .error .yaml) := by
  rw [CatalogForeign]
  constructor
  · rintro (⟨v, hv, hno⟩ | ⟨file, contents, root, htext, h⟩)
    · exact ⟨v, hv, .inl hno⟩
    · obtain ⟨v, hv, hfile⟩ := textAt_eq_some.mp htext
      exact ⟨v, hv, .inr ⟨file, hfile, loadCatalog_eq_yaml.mpr ⟨contents, root, h⟩⟩⟩
  · rintro ⟨v, hv, hno | ⟨file, hfile, h⟩⟩
    · exact .inl ⟨v, hv, hno⟩
    · obtain ⟨contents, root, h⟩ := loadCatalog_eq_yaml.mp h
      exact .inr ⟨file, contents, root, textAt_eq_some.mpr ⟨v, hv, hfile⟩, h⟩

/-- The catalog is for the router: what was registered stays as it is. -/
theorem behaves_attachRouterCatalog {env : ConfigEnv} (path : Bytes) (t : Topology)
    (hadapter : adapter.isScalar = false) :
    Behaves ConfigFailure.Foreign (attachRouterCatalogIfPresent env path adapter t)
      (CatalogForeign env adapter) (¬ CatalogForeign env adapter)
      fun t' => t'.registry = t.registry ∧ t'.contexts = t.contexts := by
  obtain ⟨found, hget⟩ := Yaml.get_of_not_scalar hadapter (str "did_catalog")
  have hfield : adapter.field (str "did_catalog") = .ok found := field_eq_ok.mpr hget
  rw [attachRouterCatalogIfPresent, hfield]
  simp only [catalogForeign_iff, hget, Except.ok.injEq]
  cases found with
  | none => exact (Behaves.pure ⟨rfl, rfl⟩).congr (by simp) (by simp) fun _ h => h
  | some v =>
    cases hv : v.scalarText env.yaml with
    | none =>
      have hthrown : v.toText env.yaml = .error .yaml := by
        rw [Yaml.toText, Yaml.asString, hv]
        rfl
      show Behaves _ (v.toText env.yaml >>= _) _ _ _
      rw [hthrown]
      exact (Behaves.error foreign_yaml).congr (by simp [hv]) (by simp [hv]) fun _ h => h
    | some file =>
      have hread : v.toText env.yaml = .ok file := toText_eq_ok.mpr hv
      show Behaves _ (v.toText env.yaml >>= _) _ _ _
      rw [hread]
      exact (behaves_attachCatalog path t _).congr (by simp [hv]) (by simp [hv]) fun _ h => h

/-- An adapter that could be built has read its catalog. -/
theorem not_catalogForeign_of_create {env : ConfigEnv} {config : UdsDoipConfig}
    (h : udsDoipCreate env (fieldsDocument env.yaml adapter) = some config)
    (hforeign : ¬ UdsForeign env.yaml adapter) : ¬ CatalogForeign env adapter := by
  have hfield : (str "did_catalog", false) ∈ udsDoipFields := by decide
  rw [catalogForeign_iff]
  rintro ⟨v, hv, hno | ⟨file, hfile, hthrown⟩⟩
  · exact hforeign (.inl ⟨_, hfield, v, hv, hno⟩)
  · have htext : adapter.textAt env.yaml (str "did_catalog") = some file :=
      textAt_eq_some.mpr ⟨v, hv, hfile⟩
    have hmember : (fieldsDocument env.yaml adapter).get? (str "did_catalog") =
        some (.str file) := by
      rw [fieldsDocument_get? hfield, fieldValue_text, htext]
      rfl
    have hpath : jsonText (fieldsDocument env.yaml adapter) (str "did_catalog") [] = some file := by
      rw [jsonText, hmember]
      rfl
    have hnamed : file ≠ [] := by
      rintro rfl
      rw [ConfigEnv.loadCatalog, env.files_nil] at hthrown
      cases hthrown
    simp only [udsDoipCreate, hpath, hnamed, hthrown, ↓reduceIte, Option.bind_eq_bind,
      Option.bind_some, Option.bind_none, Option.bind_fun_none, reduceCtorEq] at h

/-! ### Proxies -/

/-- A client cannot be made for some URLs. -/
theorem behaves_newClient (baseUrl : Bytes) :
    Behaves ConfigFailure.Foreign (newClient baseUrl) (ClientRejects baseUrl)
      (¬ ClientRejects baseUrl) fun _ => True := by
  have hargument : ConfigFailure.Foreign .invalidArgument := fun _ h => by cases h
  have hrange : ConfigFailure.Foreign .outOfRange := fun _ h => by cases h
  rw [newClient, ClientRejects]
  dsimp only
  cases ((bracketedPort (schemeOf baseUrl).2).orElse fun _ => plainPort (schemeOf baseUrl).2) with
  | none => exact (Behaves.pure trivial).congr (by simp) (by simp) fun _ h => h
  | some port =>
    simp only [Option.some.injEq, exists_eq_left', Option.isNone_iff_eq_none]
    split_ifs with hscheme hport
    · exact (Behaves.error hargument).congr (by simp [hscheme]) (by simp [hscheme]) fun _ h => h
    · exact (Behaves.error hrange).congr (by simp [hport]) (by simp [hport]) fun _ h => h
    · exact (Behaves.pure trivial).congr (by tauto) (by tauto) fun _ h => h

/-- The client's TLS files throw no `ConfigError`. -/
theorem onlyForeign_clientTlsFiles {tls : Yaml} : OnlyForeign (clientTlsFiles lib tls) :=
  onlyForeign_textOr.bind fun _ => onlyForeign_textOr.bind fun _ =>
    onlyForeign_textOr.bind fun _ => .pure _

/-- The client's TLS files throw where one of them is no text. -/
theorem throws_clientTlsFiles {tls : Yaml} :
    Throws ConfigFailure.Foreign (clientTlsFiles lib tls) ↔ tls.isScalar = true ∨
      tls.NoText lib (str "client_cert") ∨ tls.NoText lib (str "client_key") ∨
        tls.NoText lib (str "ca_cert") := by
  rw [clientTlsFiles, Only.throws_bind onlyForeign_textOr fun _ _ =>
    Only.throws_bind onlyForeign_textOr fun _ _ => throws_bind_pure,
    throws_textOr, throws_textOr, throws_textOr]
  tauto

/-- The TLS section of a proxy throws exactly as `ProxyTlsForeign` says. -/
theorem behaves_proxyTls (hadapter : adapter.isScalar = false) :
    Behaves ConfigFailure.Foreign (proxyTls lib adapter) (ProxyTlsForeign lib adapter)
      (¬ ProxyTlsForeign lib adapter) fun _ => True := by
  refine .of_only (onlyForeign_field.bind fun found => ?_) ?_ fun _ _ => trivial
  · cases found with
    | none => exact .pure _
    | some tls => exact onlyForeign_clientTlsFiles
  · rw [proxyTls, throws_field_some (not_throws_pure ([], [], [])), hadapter]
    simp only [throws_clientTlsFiles, ProxyTlsForeign, Bool.false_eq_true, false_or]

/-- A default does not help where the field is there and no text. -/
theorem textOr_of_noText {node : Yaml} {key : Bytes} (default : Bytes) (h : node.NoText lib key) :
    node.textOr lib key default = .error .yaml := by
  obtain ⟨v, hv, hno⟩ := h
  rw [Yaml.textOr, field_eq_ok.mpr hv]
  show v.toText lib = _
  rw [Yaml.toText, Yaml.asString, hno]
  rfl

/-- What is done for a proxy once its entity is registered. -/
theorem behaves_proxy (path : Bytes) (t : Topology) (hadapter : adapter.isScalar = false) :
    Behaves ConfigFailure.Foreign
      (do
        let baseUrl ← adapter.textOr lib (str "base_url") []
        let remotePath ← adapter.textOr lib (str "remote_path") path
        if baseUrl = [] then
          configError (str "sovd_proxy adapter for " ++ path ++
            str " is missing required field: base_url")
        else
          let (tlsClientCert, tlsClientKey, tlsCaCert) ← proxyTls lib adapter
          attachProxy path { baseUrl, remotePath, tlsClientCert, tlsClientKey, tlsCaCert } t)
      (ProxyForeign lib adapter) (¬ ProxyForeign lib adapter ∧ baseUrlOf lib adapter ≠ [])
      fun t' => t'.registry = t.registry ∧ t'.contexts = t.contexts := by
  -- the fields in the order they are read; a field that is no text throws
  by_cases hbase : adapter.NoText lib (str "base_url")
  · rw [textOr_of_noText _ hbase]
    exact (Behaves.error foreign_yaml).congr (by simp [ProxyForeign, hbase])
      (by simp [ProxyForeign, hbase]) fun _ h => h
  by_cases hremote : adapter.NoText lib (str "remote_path")
  · rw [textOr_eq _ hadapter hbase, pure_bind, textOr_of_noText _ hremote]
    exact (Behaves.error foreign_yaml).congr (by simp [ProxyForeign, hremote])
      (by simp [ProxyForeign, hremote]) fun _ h => h
  rw [textOr_eq _ hadapter hbase, pure_bind, textOr_eq _ hadapter hremote, pure_bind, ProxyForeign,
    or_iff_right hbase, or_iff_right hremote]
  change Behaves _ (if baseUrlOf lib adapter = [] then _ else _) _ _ _
  split_ifs with hempty
  · exact (Behaves.error_of_not (not_foreign_config _)).congr (by simp [hempty]) (by simp [hempty])
      fun _ h => h
  · -- what is left to throw is the client of the URL
    have hattach : ∀ target : ProxyTarget, target.baseUrl = baseUrlOf lib adapter →
        Behaves ConfigFailure.Foreign (attachProxy path target t)
          (ClientRejects (baseUrlOf lib adapter)) (¬ ClientRejects (baseUrlOf lib adapter))
          fun t' => t'.registry = t.registry ∧ t'.contexts = t.contexts := by
      intro target htarget
      rw [attachProxy, htarget]
      refine ((behaves_newClient _).bind fun _ _ => .pure ?_).congr (by simp) (by simp) fun _ h => h
      exact ⟨rfl, rfl⟩
    refine ((behaves_proxyTls hadapter).bind fun _ _ => hattach _ rfl).congr ?_ ?_ fun _ h => h
    · rw [and_iff_right hempty]
      exact or_congr_right' fun hread => and_iff_right hread
    · rw [and_iff_right hempty, not_or, and_iff_left hempty]

end

end Sovd
