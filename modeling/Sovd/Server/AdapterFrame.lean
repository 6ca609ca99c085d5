import Sovd.Server.StreamHandlers

/-!
# What a request can do to an adapter

A handler reaches the adapters only through the functions of the one entity its route
names, and each handler calls one kind of function. So a relation that the functions of
that kind keep holds between the adapters before a request and after it
(`Handler.run_respects`), whatever else the request does: whether it is let through,
forwarded or refused, and what becomes of its event.

For the gated handlers and the locks this is read off what is known of them already
(`Acts`, `LockStep`).
-/

namespace Sovd

variable {σ : Type}

/-- The functions of the backend that the handler calls keep `Q`. -/
def Vtable.Respects (v : Vtable σ) (Q : σ → σ → Prop) : Handler → Prop
  | .getFaults => ∀ f, v.readFaults = some f → ∀ s path, Q s (f s path).2.2
  | .clearFaults => ∀ f, v.clearFaults = some f → ∀ s path, Q s (f s path).2
  | .getDataBatch => ∀ f, v.readData = some f → ∀ s path did, Q s (f s path did).2.2
  | .getData => ∀ f, v.readData = some f → ∀ s path did, Q s (f s path did).2.2
  | .putData => ∀ f, v.writeData = some f → ∀ s path did data, Q s (f s path did data).2
  | .postMode => ∀ f, v.setMode = some f → ∀ s path mode, Q s (f s path mode).2
  | .deleteLock => ∀ f, v.setMode = some f → ∀ s path mode, Q s (f s path mode).2
  | .postOperation =>
    ∀ f, v.executeOperation = some f → ∀ s path op params, Q s (f s path op params).2.2
  | _ => True

theorem Vtable.Respects.mono {v : Vtable σ} {Q Q' : σ → σ → Prop} {h : Handler}
    (hv : v.Respects Q h) (hQ : ∀ s t, Q s t → Q' s t) : v.Respects Q' h := by
  cases h with
  | getFaults => exact fun f hf s path => hQ _ _ (hv f hf s path)
  | clearFaults => exact fun f hf s path => hQ _ _ (hv f hf s path)
  | getDataBatch => exact fun f hf s path did => hQ _ _ (hv f hf s path did)
  | getData => exact fun f hf s path did => hQ _ _ (hv f hf s path did)
  | putData => exact fun f hf s path did data => hQ _ _ (hv f hf s path did data)
  | postMode => exact fun f hf s path mode => hQ _ _ (hv f hf s path mode)
  | deleteLock => exact fun f hf s path mode => hQ _ _ (hv f hf s path mode)
  | postOperation => exact fun f hf s path op params => hQ _ _ (hv f hf s path op params)
  | _ => trivial

section

variable {R : Router σ} {env : Env} {req : Request} {path : Bytes} {w : World σ}
  {Q : σ → σ → Prop}

/-- What the backend of the entity on `path` keeps, where it is asked. -/
def Router.RespectsAt (R : Router σ) (path : Bytes) (Q : σ → σ → Prop) (h : Handler) : Prop :=
  ∀ e v, R.find path = some e → R.findProxy path = none → e.vtable = some v → v.Respects Q h

theorem GetsTo.exists_vtable {α : Type} {select : Vtable σ → Option α} {f : α}
    (h : GetsTo R path select f) : ∃ e v, R.find path = some e ∧ R.findProxy path = none ∧
      e.vtable = some v ∧ select v = some f := by
  obtain ⟨e, he, hp, hf⟩ := h
  obtain ⟨v, hv, hf⟩ := Option.bind_eq_some_iff.mp hf
  exact ⟨e, v, he, hp, hv, hf⟩

/-- The handler of a gated request. -/
def GatedHandler.handler : GatedHandler → Handler
  | clearFaults => .clearFaults
  | putData _ => .putData
  | postMode => .postMode
  | postOperation _ => .postOperation

theorem GatedHandler.respects {k : GatedHandler} (hrefl : ∀ s, Q s s)
    (h : R.RespectsAt path Q k.handler) :
    Q w.adapter (k.handle R env req path w).1.adapter := by
  by_cases hacts : ∃ a, checkLockHeader env req path w.locks = true ∧
      Acts R env req path (correlationIdFor env req {}).1 w.adapter k a
  · obtain ⟨a, hlock, ha⟩ := hacts
    rw [(acts_reported hlock ha).adapter]
    cases ha with
    | clearFaults hf hr =>
      obtain ⟨e, v, he, hp, hv, hf⟩ := hf.exists_vtable
      exact (congrArg (fun x => Q w.adapter x.2) hr).mp (h e v he hp hv _ hf _ _)
    | putData hf hitem hw hb hr =>
      obtain ⟨e, v, he, hp, hv, hf⟩ := hf.exists_vtable
      exact (congrArg (fun x => Q w.adapter x.2) hr).mp (h e v he hp hv _ hf _ _ _ _)
    | postMode hf hm hr =>
      obtain ⟨e, v, he, hp, hv, hf⟩ := hf.exists_vtable
      exact (congrArg (fun x => Q w.adapter x.2) hr).mp (h e v he hp hv _ hf _ _ _)
    | postOperation hf hr =>
      obtain ⟨e, v, he, hp, hv, hf⟩ := hf.exists_vtable
      exact (congrArg (fun x => Q w.adapter x.2.2) hr).mp (h e v he hp hv _ hf _ _ _ _)
  · rw [(handle_of_not_acts fun a hlock ha => hacts ⟨a, hlock, ha⟩).adapter]
    exact hrefl _

/-- Of the lock handlers only the release of a lock reaches an adapter. -/
theorem handleDeleteLock_respects {lockId : Bytes} (hrefl : ∀ s, Q s s)
    (h : R.RespectsAt path Q .deleteLock) :
    Q w.adapter (handleDeleteLock R env req path lockId w).1.adapter := by
  by_cases hp : ∃ proxy, R.findProxy path = some proxy
  · -- the release is the other server's
    obtain ⟨proxy, hp⟩ := hp
    have hforwarded : Untouched w (handleDeleteLock R env req path lockId w).1 :=
      withEntity_of_not fun e he hnone => by simp [hp] at hnone
    exact hforwarded.adapter ▸ hrefl _
  have hp : R.findProxy path = none := Option.eq_none_iff_forall_ne_some.mpr (not_exists.mp hp)
  have hstep : LockStep R env path w (handleDeleteLock R env req path lockId w).1 :=
    handleDeleteLock_step
  cases hstep with
  | none hw => exact hw.adapter ▸ hrefl _
  | call _ _ hadapter _ => exact hadapter ▸ hrefl _
  | released he hdoes hend hadapter hcalls =>
    rename_i e entity
    rw [hadapter]
    unfold revertMode
    cases hmode : entity.vtable.bind Vtable.setMode with
    | none => exact hrefl _
    | some setMode =>
      obtain ⟨v, hv, hsel⟩ := Option.bind_eq_some_iff.mp hmode
      exact h entity v he hp hv _ hsel _ _ _

/-- A handler that only looks an entity up leaves the adapters alone. -/
theorem withEntity_adapter {act : Entity σ → Bytes → Response → World σ × Outcome}
    (h : ∀ e corr res, (act e corr res).1.adapter = w.adapter) :
    (withEntity R env req path w act).1.adapter = w.adapter := by
  by_cases hlocal : ∃ e, R.find path = some e ∧ R.findProxy path = none
  · obtain ⟨e, he, hp⟩ := hlocal
    rw [withEntity_of_local he hp]
    exact h ..
  · exact (withEntity_of_not fun e he hp => hlocal ⟨e, he, hp⟩).adapter

theorem handlePostLock_adapter : (handlePostLock R env req path w).1.adapter = w.adapter := by
  refine withEntity_adapter fun e corr res => ?_
  dsimp only
  split
  next => rfl
  next =>
    split_ifs
    · exact (emitThen_onlyEvents fun _ => rfl).adapter
    · split
      next => exact (emitThen_onlyEvents fun _ => rfl).adapter
      next => exact (emitThen_onlyEvents fun _ => rfl).adapter

theorem handlePutLock_adapter {lockId : Bytes} :
    (handlePutLock R env req path lockId w).1.adapter = w.adapter := by
  refine withEntity_adapter fun e corr res => ?_
  dsimp only
  split
  next => rfl
  next =>
    split
    next => exact (emitThen_onlyEvents fun _ => rfl).adapter
    next => exact (emitThen_onlyEvents fun _ => rfl).adapter
    next => rfl

theorem handleGetDocs_adapter : (handleGetDocs R env req path w).1.adapter = w.adapter :=
  withEntity_adapter fun _ _ _ => rfl

/-- The handlers that need a backend and no lock. -/
theorem withBackend_respects {α : Type} {select : Vtable σ → Option α}
    {act : α → Bytes → Response → World σ × Outcome} (hrefl : ∀ s, Q s s)
    (h : ∀ e v f corr res, R.find path = some e → R.findProxy path = none → e.vtable = some v →
      select v = some f → Q w.adapter (act f corr res).1.adapter) :
    Q w.adapter (withBackend R env req path select w act).1.adapter := by
  by_cases hf : ∃ f, GetsTo R path select f
  · obtain ⟨f, hf⟩ := hf
    obtain ⟨e, v, he, hp, hv, hsel⟩ := hf.exists_vtable
    rw [withBackend_of_getsTo hf]
    exact h e v f _ _ he hp hv hsel
  · rw [(withBackend_of_not (not_exists.mp hf)).adapter]
    exact hrefl _

theorem readBatch_respects {readData : σ → Bytes → Bytes → SovdResult × Bytes × σ}
    {cat : Option Catalog} (hrefl : ∀ s, Q s s) (htrans : ∀ s t u, Q s t → Q t u → Q s u)
    (h : ∀ s path did, Q s (readData s path did).2.2) :
    ∀ (ids : List Bytes) (w : World σ),
      Q w.adapter (readBatch env readData path cat ids w).2.adapter := by
  intro ids
  induction ids with
  | nil => exact fun w => hrefl _
  | cons id ids ih =>
    intro w
    unfold readBatch
    exact htrans _ _ _ (h w.adapter _ _) (ih (readOneDataItem env readData path id cat w).2)

theorem handleGetFaults_respects (hrefl : ∀ s, Q s s) (hQ : R.RespectsAt path Q .getFaults) :
    Q w.adapter (handleGetFaults R env req path w).1.adapter := by
  refine withBackend_respects hrefl fun e v f corr res he hp hv hf => ?_
  dsimp only
  split_ifs
  · exact hrefl _
  · exact hQ e v he hp hv f hf _ _
  · exact hQ e v he hp hv f hf _ _

theorem handleGetDataBatch_respects (hrefl : ∀ s, Q s s) (htrans : ∀ s t u, Q s t → Q t u → Q s u)
    (hQ : R.RespectsAt path Q .getDataBatch) :
    Q w.adapter (handleGetDataBatch R env req path w).1.adapter := by
  refine withBackend_respects hrefl fun e v f corr res he hp hv hf => ?_
  dsimp only
  split_ifs
  · exact hrefl _
  · exact readBatch_respects hrefl htrans (hQ e v he hp hv f hf) _ w

theorem handleGetData_respects {item : Bytes} (hrefl : ∀ s, Q s s)
    (hQ : R.RespectsAt path Q .getData) :
    Q w.adapter (handleGetData R env req path item w).1.adapter := by
  refine withBackend_respects hrefl fun e v f corr res he hp hv hf => ?_
  have hone := hQ e v he hp hv f hf w.adapter (cStr path)
    (cStr (didText (findItem (R.findCatalog path) item) item))
  cases hread : readOneDataItem env f path item (R.findCatalog path) w with
  | mk outcome w' =>
    obtain rfl : w' = _ := (congrArg Prod.snd hread).symm
    cases outcome with
    | ok body => exact hone
    | failed status errorCode message => exact hone

end

section

variable {R : Router σ} {env : ServerEnv} {req : Request} {path item : Bytes}
  {s : ServerState σ} {Q : σ → σ → Prop}

theorem handleStreamData_adapter :
    (handleStreamData R env req path item s).1.world.adapter = s.world.adapter := by
  unfold handleStreamData
  dsimp only
  split
  next => exact (emitThen_onlyEvents fun _ => rfl).adapter
  next =>
    split
    next => rfl
    next =>
      split_ifs
      · rfl
      · split
        next => rfl
        next => rfl

theorem handlePostStreamTicket_adapter :
    (handlePostStreamTicket R env req path item s).1.world.adapter = s.world.adapter := by
  unfold handlePostStreamTicket
  dsimp only
  split
  next => rfl
  next =>
    split
    next => exact (emitThen_onlyEvents fun _ => rfl).adapter
    next => rfl

/-- **What a request does to the adapters**: what the one kind of function does that its
handler calls of the one entity its route names. -/
theorem Handler.run_respects {h : Handler} (hrefl : ∀ s, Q s s)
    (htrans : ∀ s t u, Q s t → Q t u → Q s u) (hQ : R.RespectsAt path Q h) :
    Q s.world.adapter (h.run R env req path item s).1.world.adapter := by
  cases h with
  | root => exact hrefl _
  | listEntities => exact hrefl _
  | getFaults => exact handleGetFaults_respects hrefl hQ
  | clearFaults => exact GatedHandler.respects (k := .clearFaults) hrefl hQ
  | getDataBatch => exact handleGetDataBatch_respects hrefl htrans hQ
  | streamData => exact handleStreamData_adapter (s := s) ▸ hrefl _
  | postStreamTicket => exact handlePostStreamTicket_adapter (s := s) ▸ hrefl _
  | getData => exact handleGetData_respects hrefl hQ
  | putData => exact GatedHandler.respects (k := .putData item) hrefl hQ
  | postMode => exact GatedHandler.respects (k := .postMode) hrefl hQ
  | postOperation => exact GatedHandler.respects (k := .postOperation item) hrefl hQ
  | postLock => exact handlePostLock_adapter (w := s.world) ▸ hrefl _
  | putLock => exact handlePutLock_adapter (w := s.world) ▸ hrefl _
  | deleteLock => exact handleDeleteLock_respects hrefl hQ
  | getDocs => exact handleGetDocs_adapter (w := s.world) ▸ hrefl _

end

end Sovd
