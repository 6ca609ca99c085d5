import Sovd.Server.StreamHandlers

/-!
# Entities behind a proxy keep nothing here (`server/src/routes.cpp`)

The lock of a proxied entity is the upstream server's, and so are its session and its
data. A shadow of it here would be one more state to disagree with. There is none: every
handler looks for a proxy before it looks at locks, backends or streams.

All but two handlers open with `withEntity`, so one lemma is about all of them
(`Forwarded.withEntity`). The two about streams do not forward; they stop at the proxy.

`Vtable.counted` is a backend that counts the calls of its functions, whichever they
are. That its count stands still says that none was called.
-/

namespace Sovd

variable {σ : Type}

/-! ## Counting calls -/

/-- Every function of the backend counts. -/
def Vtable.counted (v : Vtable σ) : Vtable (σ × Nat) where
  readFaults := v.readFaults.map fun f s path =>
    let (r, faults, x) := f s.1 path
    (r, faults, x, s.2 + 1)
  clearFaults := v.clearFaults.map fun f s path =>
    let (r, x) := f s.1 path
    (r, x, s.2 + 1)
  readData := v.readData.map fun f s path did =>
    let (r, data, x) := f s.1 path did
    (r, data, x, s.2 + 1)
  writeData := v.writeData.map fun f s path did data =>
    let (r, x) := f s.1 path did data
    (r, x, s.2 + 1)
  setMode := v.setMode.map fun f s path mode =>
    let (r, x) := f s.1 path mode
    (r, x, s.2 + 1)
  executeOperation := v.executeOperation.map fun f s path op paramsJson =>
    let (r, out, x) := f s.1 path op paramsJson
    (r, out, x, s.2 + 1)
  capabilities := v.capabilities

/-- The server over backends that count. -/
def Router.counted (R : Router σ) : Router (σ × Nat) where
  entities := R.entities.map fun e =>
    { path := e.path, type := e.type, vtable := e.vtable.map Vtable.counted }
  catalogs := R.catalogs
  proxies := R.proxies
  oauth2Secret := R.oauth2Secret
  serverId := R.serverId
  role := R.role

/-! ## What forwarding leaves -/

/-- Locks and backends are as they were, and one request went upstream at most. -/
structure Forwarded (w w' : World σ) : Prop where
  locks : w'.locks = w.locks
  adapter : w'.adapter = w.adapter
  calls : w'.calls = w.calls
  upstream : ∃ sent, w'.upstream = w.upstream ++ sent ∧ sent.length ≤ 1

theorem Forwarded.refl (w : World σ) : Forwarded w w :=
  ⟨rfl, rfl, rfl, [], (List.append_nil _).symm, Nat.zero_le _⟩

section

variable {R : Router σ} {env : Env} {req : Request} {path : Bytes} {w : World σ}

theorem Forwarded.tryForward {res : Response} {out : World σ × Outcome}
    (h : tryForward R env req res path w = some out) : Forwarded w out.1 := by
  have hkept := tryForward_untouched h
  refine ⟨hkept.locks, hkept.adapter, hkept.calls, ?_⟩
  unfold Sovd.tryForward at h
  split at h
  next => cases h
  next proxy _ =>
    split_ifs at h
    · obtain rfl := Option.some.inj h
      exact ⟨[], (List.append_nil _).symm, Nat.zero_le _⟩
    · split at h
      next =>
        obtain rfl := Option.some.inj h
        exact ⟨[], (List.append_nil _).symm, Nat.zero_le _⟩
      next sent _ =>
        obtain rfl := Option.some.inj h
        exact ⟨[sent], rfl, le_rfl⟩

/-- Whatever a handler would do with a local entity. -/
theorem Forwarded.withEntity (hp : R.findProxy path ≠ none)
    (act : Entity σ → Bytes → Response → World σ × Outcome) :
    Forwarded w (withEntity R env req path w act).1 := by
  unfold Sovd.withEntity
  dsimp only
  split
  next => exact .refl w
  next e _ =>
    split
    next out hout => exact .tryForward hout
    next hout => exact absurd (tryForward_eq_none.mp hout) hp

/-- An event that is sent, or is not, and an answer. -/
theorem Forwarded.emitThen {type : Bytes} {fields : List (Bytes × Json)}
    {next : World σ → World σ × Outcome} (hnext : ∀ w, (next w).1 = w) :
    Forwarded w (emitThen env type fields w next).1 := by
  unfold Sovd.emitThen
  split
  next => exact .refl w
  next w' hw' =>
    obtain ⟨-, rfl⟩ := emitEvent_eq_ok hw'
    rw [hnext]
    exact ⟨rfl, rfl, rfl, [], (List.append_nil _).symm, Nat.zero_le _⟩

end

/-! ## Every handler -/

/-- Nothing of a proxied entity is kept: no lock, no call of a backend, no stream. -/
structure NoShadow (s s' : ServerState σ) : Prop where
  world : Forwarded s.world s'.world
  hub : s'.hub = s.hub

section

variable {R : Router σ} {env : ServerEnv} {req : Request} {path item : Bytes}
  {s : ServerState σ}

theorem NoShadow.onWorld {handle : World σ → World σ × Outcome}
    (h : Forwarded s.world (handle s.world).1) : NoShadow s (onWorld handle s).1 :=
  ⟨h, rfl⟩

/-- A stream is not forwarded, and not opened either. -/
theorem NoShadow.streamData (hp : R.findProxy path ≠ none) :
    NoShadow s (handleStreamData R env req path item s).1 := by
  unfold handleStreamData
  dsimp only
  split
  next => exact ⟨Forwarded.emitThen fun _ => rfl, rfl⟩
  next =>
    split
    next => exact ⟨.refl _, rfl⟩
    next e _ =>
      rw [if_pos (Option.isSome_iff_ne_none.mpr hp)]
      exact ⟨.refl _, rfl⟩

/-- A ticket is given for any entity; it is no state of the entity. -/
theorem NoShadow.postStreamTicket :
    NoShadow s (handlePostStreamTicket R env req path item s).1 := by
  unfold handlePostStreamTicket
  dsimp only
  split
  next => exact ⟨.refl _, rfl⟩
  next =>
    split
    next => exact ⟨Forwarded.emitThen fun _ => rfl, rfl⟩
    next => exact ⟨.refl _, rfl⟩

theorem NoShadow.run (hp : R.findProxy path ≠ none) (h : Handler) :
    NoShadow s (h.run R env req path item s).1 := by
  cases h with
  | root => exact .onWorld (.refl _)
  | listEntities => exact .onWorld (.refl _)
  | getFaults => exact .onWorld (.withEntity hp _)
  | clearFaults => exact .onWorld (.withEntity hp _)
  | getDataBatch => exact .onWorld (.withEntity hp _)
  | streamData => exact .streamData hp
  | postStreamTicket => exact .postStreamTicket
  | getData => exact .onWorld (.withEntity hp _)
  | putData => exact .onWorld (.withEntity hp _)
  | postMode => exact .onWorld (.withEntity hp _)
  | postOperation => exact .onWorld (.withEntity hp _)
  | postLock => exact .onWorld (.withEntity hp _)
  | putLock => exact .onWorld (.withEntity hp _)
  | deleteLock => exact .onWorld (.withEntity hp _)
  | getDocs => exact .onWorld (.withEntity hp _)

end

theorem Router.findProxy_counted (R : Router σ) (path : Bytes) :
    R.counted.findProxy path = R.findProxy path := rfl

theorem Router.findProxy_attached {R : Router σ} {path : Bytes}
    (h : path ∈ R.proxies.map Prod.fst) : R.findProxy path ≠ none := by
  obtain ⟨p, hp, rfl⟩ := List.mem_map.mp h
  intro hnone
  rw [Router.findProxy, Option.map_eq_none_iff, List.find?_eq_none] at hnone
  exact hnone p hp (beq_self_eq_true p.1)

/-- **No request leaves anything of a proxied entity here**, whatever it asks and whatever
becomes of it upstream. -/
theorem proxied_keeps_nothing {R : Router σ} {env : ServerEnv} {req : Request} {h : Handler}
    {path : Bytes} {rest : List Bytes}
    (hroute : dispatch req.method req.path = some (h, path :: rest))
    (hattached : path ∈ R.proxies.map Prod.fst) (s : ServerState (σ × Nat)) :
    ∃ s' out, serve R.counted env req s = some (s', out) ∧ NoShadow s s' := by
  have hp : R.counted.findProxy path ≠ none := by
    rw [Router.findProxy_counted]
    exact Router.findProxy_attached hattached
  have hserve : serve R.counted env req s =
      some (h.run R.counted env req path (rest.getD 0 []) s) := by
    rw [serve, hroute]
    rfl
  exact ⟨_, _, hserve, NoShadow.run hp h⟩

namespace RemoteLock

/-- The entity `ecu`, which another server has; its backend here is never asked. -/
def router : Router Unit where
  entities := [{ path := str "ecu", vtable := some { setMode := some fun s _ _ => (.ok, s) } }]
  proxies := [(str "ecu", { baseUrl := str "http://hpc:8080", remotePath := str "hpc/ecu" })]

def env : ServerEnv where
  ssl := { hmacSha256 := fun _ _ => [], encodeBlock := fun _ => [], decodeBlock := fun _ => none }
  parse := fun _ => none

def request : Request := { method := str "POST", path := str "/v1/entities/ecu/locks" }

theorem keeps_nothing : ∃ s' out,
    serve router.counted env request { world := { adapter := ((), 0) } } = some (s', out) ∧
      NoShadow { world := { adapter := ((), 0) } } s' :=
  have hroute : dispatch request.method request.path = some (.postLock, str "ecu" :: []) := by
    decide +kernel
  proxied_keeps_nothing hroute (by decide) _

end RemoteLock

end Sovd
