import Sovd.Server.Handlers

/-!
# Texts on the threads that have no handler

Two pieces of code write JSON where nothing catches an exception: the logger
hook, which the HTTP library calls on a worker thread once a response is out,
and the `read_fn` a stream's poller thread runs over and over. An exception in
either ends the process.

Both write texts the server never checked. The hook writes the method and the
path as they were decoded, and the correlation id of the response. A poll
writes the text the stream was opened with and, of a value read through the
catalog, what `Catalog::decode` made of the bytes the ECU sent: a `string` item
is those bytes.

`dump` throws exactly on what is not UTF-8, so for each of the two there is an
exact account of when it does not throw: `loggerHook_iff`, `readFn_iff`. The
second is a walk through `dataReadOutcome`; its one detour is that the text of a
decode error names the item, which is named like the stream.

Mirroring notes vs the C++:
- The telemetry sink is another than the event sink; it gets the text or the
  hook throws.
- A poll that throws is the end of the poller, so one poll is all there is to
  model.
-/

namespace Sovd

variable {σ : Type}

/-! ## The logger hook -/

/-- What the logger hook tells of a request. -/
def loggerFields (req : Request) (res : Response) (durationMs : Double) : List (Bytes × Json) :=
  [(str "method", .str req.method), (str "path", .str req.path),
    (str "status", .int res.status), (str "duration_ms", .float durationMs),
    (str "correlation_id", .str (headerValue res.headers (str "X-SOVD-Correlation-Id")))]

/-- What the telemetry sink gets of a response, or the exception. -/
def loggerHook (env : Env) (durationMs : Double) (req : Request) (res : Response) :
    Except Exn Json :=
  (eventDocument env (str "http_request") (loggerFields req res durationMs)).dump

/-- The texts the hook writes. -/
structure LogTexts (req : Request) (res : Response) : Prop where
  method : Utf8.valid req.method = true
  path : Utf8.valid req.path = true
  correlation : Utf8.valid (headerValue res.headers (str "X-SOVD-Correlation-Id")) = true

/-- Nothing is thrown. -/
def NoThrow {α : Type} (x : Except Exn α) : Prop := ∃ a, x = .ok a

theorem noThrow_dump {j : Json} : NoThrow j.dump ↔ j.utf8 = true := by
  constructor
  · intro h
    obtain ⟨d, hd⟩ := h
    exact (Json.dump_eq_ok.mp hd).1
  · intro h
    exact ⟨j, Json.dump_of_utf8 h⟩

theorem loggerHook_iff {env : Env} {durationMs : Double} {req : Request} {res : Response} :
    NoThrow (loggerHook env durationMs req res) ↔ LogTexts req res := by
  have hkeys : ∀ key ∈ [str "method", str "path", str "status", str "duration_ms",
      str "correlation_id"], key ≠ str "event" ∧ key ≠ str "ts_ms" ∧ Utf8.valid key = true := by
    decide
  simp only [List.mem_cons, List.not_mem_nil, or_false, forall_eq_or_imp, forall_eq] at hkeys
  obtain ⟨hmethod, hpath, hstatus, hduration, hcorr⟩ := hkeys
  have hplain : ∀ m ∈ loggerFields req res durationMs, m.1 ≠ str "event" ∧ m.1 ≠ str "ts_ms" := by
    intro m hm
    simp only [loggerFields, List.mem_cons, List.not_mem_nil, or_false] at hm
    rcases hm with rfl | rfl | rfl | rfl | rfl
    · exact ⟨hmethod.1, hmethod.2.1⟩
    · exact ⟨hpath.1, hpath.2.1⟩
    · exact ⟨hstatus.1, hstatus.2.1⟩
    · exact ⟨hduration.1, hduration.2.1⟩
    · exact ⟨hcorr.1, hcorr.2.1⟩
  rw [loggerHook, noThrow_dump, eventDocument_utf8 hplain (by decide)]
  simp only [loggerFields, Json.utf8Members_cons, Json.utf8Members_nil, Json.utf8_str,
    Json.utf8_int, Json.utf8_float, hmethod.2.2, hpath.2.2, hstatus.2.2, hduration.2.2, hcorr.2.2,
    Bool.true_and, Bool.and_true, Bool.and_eq_true]
  exact ⟨fun h => ⟨h.1, h.2.1, h.2.2⟩, fun h => ⟨h.method, h.path, h.correlation⟩⟩

/-! ## The poller's `read_fn` -/

/-- The document of one poll. -/
def streamBody (idOrDid : Bytes) : DataReadOutcome → Json
  | .ok body => body
  | .failed _ errorCode message =>
    .obj [(str "id", .str idOrDid), (str "error", .str errorCode), (str "message", .str message)]

/-- What the poller of a stream calls. -/
def readFn (env : Env) (readData : σ → Bytes → Bytes → SovdResult × Bytes × σ)
    (path idOrDid : Bytes) (cat : Option Catalog) (w : World σ) : Except Exn Json × World σ :=
  let (outcome, w) := readOneDataItem env readData path idOrDid cat w
  ((streamBody idOrDid outcome).dump, w)

/-- The bytes of the item are, counted in an `int`, as many as its encoding asks for. -/
def FitsEncoding (i : DataItem) (bytes : Bytes) : Prop :=
  i.type = .float → toInt32 bytes.length = i.encoding.bytes

/-- What the item's value is written as is UTF-8: the bytes of a string, the
label an enumeration has for the number they are. -/
def ValueText (i : DataItem) (bytes : Bytes) : Prop :=
  match i.type with
  | .string => Utf8.valid bytes = true
  | .enum =>
    let raw := Catalog.bytesToUint bytes true
    ∀ ev, i.values.find? (fun ev => Catalog.intToU64 ev.raw == raw) = some ev →
      Utf8.valid ev.label = true
  | _ => True

/-- The texts a poll writes when the adapter answers `r` and `bytes`. -/
structure StreamTexts (item : Option DataItem) (idOrDid : Bytes) (r : SovdResult) (bytes : Bytes) :
    Prop where
  id : Utf8.valid idOrDid = true
  value : r = .ok → ∀ i, item = some i → FitsEncoding i bytes →
    ValueText i bytes ∧ Utf8.valid i.encoding.unit = true

/-! ## What decoding makes of the bytes -/

theorem intText_ascii (i : Int) : ∀ b ∈ intText i, b ≤ 0x7F := by
  intro b hb
  unfold intText at hb
  split_ifs at hb
  · rcases List.mem_cons.mp hb with rfl | hb
    · decide
    · exact decimal_ascii _ b hb
  · exact decimal_ascii _ b hb

/-- Decoding fails only on a number of the wrong size, and its text names the item. -/
theorem decode_error {castU64 : Nat → Rat} {i : DataItem} {bytes : Bytes} {ex : CatalogError}
    (h : Catalog.decode castU64 i bytes = .error ex) (hid : Utf8.valid i.id = true) :
    ¬ FitsEncoding i bytes ∧ Utf8.valid ex.what = true := by
  unfold Catalog.decode at h
  split at h
  next => cases h
  next htype =>
    split_ifs at h with hlen
    obtain rfl := Except.error.inj h
    refine ⟨fun hfits => hlen (hfits htype), ?_⟩
    -- ASCII, the name of the item, and ASCII again
    have hwant := Utf8.valid_of_ascii (intText_ascii i.encoding.bytes)
    have hgot := Utf8.valid_of_ascii (decimal_ascii bytes.length)
    have hname := Utf8.append_valid (by decide : Utf8.valid (str "data item '") = true) hid
    have hsize := Utf8.append_valid (by decide : Utf8.valid (str "expected ") = true) hwant
    have htext := Utf8.append_valid hsize (by decide : Utf8.valid (str " bytes, got ") = true)
    have hhead := Utf8.append_valid hname (by decide : Utf8.valid (str "': ") = true)
    exact Utf8.append_valid hhead (Utf8.append_valid htext hgot)
  next =>
    dsimp only at h
    split at h <;> cases h
  next => cases h

/-- A value that can be written. -/
def textUtf8 : TypedValue → Bool
  | .text s => Utf8.valid s
  | .number _ => true

theorem itemBody_utf8 (i : DataItem) (v : TypedValue) :
    (itemBody i v).utf8 = true ↔
      Utf8.valid i.id = true ∧ textUtf8 v = true ∧ Utf8.valid i.encoding.unit = true := by
  have hkeys : ∀ key ∈ [str "id", str "did", str "value", str "unit"], Utf8.valid key = true := by
    decide
  simp only [List.mem_cons, List.not_mem_nil, or_false, forall_eq_or_imp, forall_eq] at hkeys
  obtain ⟨hid, hdid, hvalue, hunit⟩ := hkeys
  unfold itemBody
  -- the three members every document has, then the unit if there is one
  by_cases hu : i.encoding.unit = []
  · cases v <;> simp [hu, hid, hdid, hvalue, utf8_toHexU16, textUtf8]
  · cases v <;> simp [hu, hid, hdid, hvalue, hunit, utf8_toHexU16, textUtf8]

/-- Decoding succeeds on what fits the encoding, and gives the text `ValueText` is about. -/
theorem decode_ok {castU64 : Nat → Rat} {i : DataItem} {bytes : Bytes} {v : TypedValue}
    (h : Catalog.decode castU64 i bytes = .ok v) :
    FitsEncoding i bytes ∧ (textUtf8 v = true ↔ ValueText i bytes) := by
  unfold Catalog.decode at h
  unfold FitsEncoding ValueText
  split at h
  next htype =>
    obtain rfl := Except.ok.inj h
    simp [htype, textUtf8]
  next htype =>
    split_ifs at h with hlen
    obtain rfl := Except.ok.inj h
    simp [htype, textUtf8, not_not.mp hlen]
  next htype =>
    dsimp only at h
    split at h
    next ev hev =>
      obtain rfl := Except.ok.inj h
      simp [htype, textUtf8, hev]
    next hev =>
      -- an undocumented value is written as a number
      obtain rfl := Except.ok.inj h
      simp [htype, textUtf8, hev, Utf8.valid_of_ascii (decimal_ascii _)]
  next htype =>
    obtain rfl := Except.ok.inj h
    simp [htype, textUtf8, Utf8.valid_of_ascii (toHex_ascii _)]

/-! ## One poll -/

theorem failed_utf8 {idOrDid errorCode message : Bytes} {status : Int}
    (herr : Utf8.valid errorCode = true) (hmsg : Utf8.valid idOrDid = true →
      Utf8.valid message = true) :
    (streamBody idOrDid (.failed status errorCode message)).utf8 = true ↔
      Utf8.valid idOrDid = true := by
  have hkeys : ∀ key ∈ [str "id", str "error", str "message"], Utf8.valid key = true := by decide
  simp only [List.mem_cons, List.not_mem_nil, or_false, forall_eq_or_imp, forall_eq] at hkeys
  obtain ⟨hid, herror, hmessage⟩ := hkeys
  unfold streamBody
  simp only [Json.utf8_obj, Json.utf8Members_cons, Json.utf8Members_nil, Json.utf8_str, hid,
    herror, hmessage, herr, Bool.true_and, Bool.and_true, Bool.and_eq_true]
  exact ⟨fun h => h.1, fun h => ⟨h, hmsg h⟩⟩

/-- What a poll writes is UTF-8 exactly when the texts in it are. -/
theorem streamBody_utf8 {castU64 : Nat → Rat} {item : Option DataItem} {idOrDid : Bytes}
    (hitem : ∀ i, item = some i → i.id = idOrDid) (r : SovdResult) (bytes : Bytes) :
    (streamBody idOrDid (dataReadOutcome castU64 idOrDid item r bytes)).utf8 = true ↔
      StreamTexts item idOrDid r bytes := by
  unfold dataReadOutcome
  by_cases hr : r = .ok
  · rw [if_neg (not_not.mpr hr)]
    cases item with
    | none =>
      have hkeys : Utf8.valid (str "id") = true ∧ Utf8.valid (str "value") = true := by decide
      have hhex : Utf8.valid (toHex bytes) = true := Utf8.valid_of_ascii (toHex_ascii bytes)
      simp only [streamBody, Json.utf8_obj, Json.utf8Members_cons, Json.utf8Members_nil,
        Json.utf8_str, hkeys, hhex, Bool.true_and, Bool.and_true]
      exact ⟨fun h => ⟨h, fun _ i hi => by cases hi⟩, fun h => h.id⟩
    | some i =>
      have hid := hitem i rfl
      dsimp only
      cases hd : Catalog.decode castU64 i bytes with
      | ok v =>
        obtain ⟨hfits, htext⟩ := decode_ok hd
        show (itemBody i v).utf8 = true ↔ _
        rw [itemBody_utf8, hid, htext]
        refine ⟨fun h => ⟨h.1, fun _ j hj _ => ?_⟩, fun h => ⟨h.id, h.value hr i rfl hfits⟩⟩
        exact Option.some.inj hj ▸ h.2
      | error ex =>
        rw [failed_utf8 (by decide)]
        · refine ⟨fun h => ⟨h, fun _ j hj hfits => ?_⟩, fun h => h.id⟩
          exact absurd (Option.some.inj hj ▸ hfits) (decode_error hd (hid.symm ▸ h)).1
        · intro h
          rw [Utf8.valid_append (by decide)]
          exact (decode_error hd (hid.symm ▸ h)).2
  · rw [if_pos hr, failed_utf8 (by decide) fun _ => by decide]
    exact ⟨fun h => ⟨h, fun hok => absurd hok hr⟩, fun h => h.id⟩

section

variable {env : Env} {readData : σ → Bytes → Bytes → SovdResult × Bytes × σ}
  {path idOrDid : Bytes} {cat : Option Catalog} {w : World σ}

theorem findItem_id {i : DataItem} (h : findItem cat idOrDid = some i) : i.id = idOrDid := by
  obtain ⟨c, -, hc⟩ := Option.bind_eq_some_iff.mp h
  exact (Catalog.findById_mem hc).2

/-- What the adapter answers a poll. -/
def pollAnswer (readData : σ → Bytes → Bytes → SovdResult × Bytes × σ) (path idOrDid : Bytes)
    (cat : Option Catalog) (w : World σ) : SovdResult × Bytes × σ :=
  readData w.adapter (cStr path) (cStr (didText (findItem cat idOrDid) idOrDid))

theorem readFn_iff :
    NoThrow (readFn env readData path idOrDid cat w).1 ↔
      StreamTexts (findItem cat idOrDid) idOrDid (pollAnswer readData path idOrDid cat w).1
        (pollAnswer readData path idOrDid cat w).2.1 := by
  show NoThrow (Json.dump _) ↔ _
  rw [noThrow_dump]
  exact streamBody_utf8 (fun i hi => findItem_id hi) _ _

/-- **What the threads without a handler need.** Neither the logger hook of a
response nor a poll of a stream throws exactly when the texts each of them
writes are UTF-8. -/
theorem threads_survive_iff {durationMs : Double} {req : Request} {res : Response} :
    NoThrow (loggerHook env durationMs req res) ∧
        NoThrow (readFn env readData path idOrDid cat w).1 ↔
      LogTexts req res ∧
        StreamTexts (findItem cat idOrDid) idOrDid (pollAnswer readData path idOrDid cat w).1
          (pollAnswer readData path idOrDid cat w).2.1 :=
  and_congr loggerHook_iff readFn_iff

end

/-! ## One byte -/

namespace OneByte

def env : Env where
  ssl := { hmacSha256 := fun _ _ => [], encodeBlock := fun _ => [], decodeBlock := fun _ => none }
  parse := fun _ => none

/-- `GET /%FF` -/
def request : Request := { method := str "GET", path := str "/" ++ [0xFF] }

/-- No route takes it. -/
def response : Response := { status := 404 }

/-- An item whose bytes are shown as they are. -/
def catalog : Catalog := { data := [{ id := str "name", did := 0xF18C, type := .string }] }

/-- An ECU that names itself in Latin-1. -/
def readData : Unit → Bytes → Bytes → SovdResult × Bytes × Unit := fun s _ _ => (.ok, [0xFC], s)

end OneByte

open OneByte in
/-- A byte in a path, or in what an ECU sends, and the process is gone. -/
theorem one_byte_throws :
    ¬ NoThrow (loggerHook env (.fin 0) request response) ∧
      ¬ NoThrow
        (readFn env readData (str "ecu") (str "name") (some catalog) { adapter := () }).1 := by
  have hlog : loggerHook env (.fin 0) request response = .error .invalidUtf8 := rfl
  have hpoll : (readFn env readData (str "ecu") (str "name") (some catalog) { adapter := () }).1 =
      .error .invalidUtf8 := rfl
  rw [hlog, hpoll]
  constructor
  · intro ⟨_, h⟩
    cases h
  · intro ⟨_, h⟩
    cases h

end Sovd
