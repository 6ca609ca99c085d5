import Sovd.Server.Pipeline

/-!
# No one reads the events

The record of events is written and never read: what a request does to everything else,
and what it is answered, is the same whatever was told before. That is a fact about every
handler, and each is walked through once (`Handler.run_same`); what the handlers share has
one lemma each.
-/

namespace Sovd

variable {σ : Type}

/-- The world without the record of its events. -/
def World.quiet (w : World σ) : World σ := { w with events := [] }

/-- The state without the events it was told of. -/
def ServerState.quiet (s : ServerState σ) : ServerState σ := { s with world := s.world.quiet }

/-- Worlds that are the same but for their events differ in those alone. -/
theorem World.exists_of_quiet {w w' : World σ} (h : w.quiet = w'.quiet) :
    ∃ es, w' = { w with events := es } := by
  refine ⟨w'.events, ?_⟩
  cases w
  cases w'
  simpa [World.quiet] using h.symm

/-- The same of the whole server. -/
theorem ServerState.exists_of_quiet {s s' : ServerState σ} (h : s.quiet = s'.quiet) :
    ∃ es, s' = { s with world := { s.world with events := es } } := by
  cases s
  cases s'
  simp only [ServerState.quiet, ServerState.mk.injEq] at h
  obtain ⟨hw, rfl, rfl⟩ := h
  obtain ⟨es, rfl⟩ := World.exists_of_quiet hw
  exact ⟨es, rfl⟩

/-- The same but for the events. -/
structure Same (x y : World σ × Outcome) : Prop where
  world : x.1.quiet = y.1.quiet
  answer : x.2 = y.2

/-- An answer from a world as it is, whatever was told in it. -/
theorem Same.answered (w : World σ) (es : List Json) (out : Outcome) :
    Same (w, out) ({ w with events := es }, out) := ⟨rfl, rfl⟩

section

variable {R : Router σ} {env : Env} {req : Request} {path : Bytes} {w : World σ}

/-- An event more is told in both, and the rest goes on alike. -/
theorem Same.emitThen {type : Bytes} {fields : List (Bytes × Json)} {es : List Json}
    {next next' : World σ → World σ × Outcome}
    (h : ∀ es es', Same (next { w with events := es }) (next' { w with events := es' })) :
    Same (emitThen env type fields w next)
      (emitThen env type fields { w with events := es } next') := by
  unfold Sovd.emitThen
  cases hutf : (eventDocument env type fields).utf8 with
  | true =>
    rw [emitEvent_of_utf8 _ hutf, emitEvent_of_utf8 _ hutf]
    exact h _ _
  | false =>
    rw [emitEvent_of_not_utf8 _ hutf, emitEvent_of_not_utf8 _ hutf]
    exact ⟨rfl, rfl⟩

/-- What is forwarded, and what comes back, does not depend on the events told. -/
theorem tryForward_events {res : Response} (es : List Json) :
    tryForward R env req res path { w with events := es } =
      (tryForward R env req res path w).map fun out => ({ out.1 with events := es }, out.2) := by
  unfold tryForward
  cases R.findProxy path with
  | none => rfl
  | some proxy =>
    dsimp only
    split_ifs
    · rfl
    · cases upstreamRequest proxy req res path with
      | none => rfl
      | some sent => rfl

/-- A handler opens alike, and goes on alike if what it does with the entity does. -/
theorem Same.withEntity {es : List Json}
    {act act' : Entity σ → Bytes → Response → World σ × Outcome}
    (h : ∀ e corr res, Same (act e corr res) (act' e corr res)) :
    Same (withEntity R env req path w act)
      (withEntity R env req path { w with events := es } act') := by
  unfold Sovd.withEntity
  dsimp only
  cases R.find path with
  | none => exact .answered ..
  | some e =>
    dsimp only
    rw [tryForward_events (w := w) es]
    cases tryForward R env req (correlationIdFor env req {}).2 path w with
    | none => exact h ..
    | some out => exact .answered ..

section

variable {α : Type} {select : Vtable σ → Option α} {es : List Json}
  {act act' : α → Bytes → Response → World σ × Outcome}

/-- The same of a handler that needs an adapter function. -/
theorem Same.withBackend (h : ∀ f corr res, Same (act f corr res) (act' f corr res)) :
    Same (withBackend R env req path select w act)
      (withBackend R env req path select { w with events := es } act') := by
  refine Same.withEntity fun e corr res => ?_
  cases e.vtable.bind select with
  | none => exact .answered ..
  | some f => exact h ..

/-- The same of a handler behind the lock gate. -/
theorem Same.lockGated (h : ∀ f corr res, Same (act f corr res) (act' f corr res)) :
    Same (lockGated R env req path select w act)
      (lockGated R env req path select { w with events := es } act') := by
  refine Same.withBackend fun f corr res => ?_
  dsimp only
  split_ifs
  · exact h ..
  · exact .answered ..

end

/-- A call of the adapter is told of and answered alike. -/
theorem Same.finishCall {r : SovdResult} {res : Response} {failed event : Bytes}
    {fields : List (Bytes × Json)} {answer : Response → Outcome} (es : List Json) :
    Same (finishCall env r res failed event fields answer w)
      (finishCall env r res failed event fields answer { w with events := es }) := by
  unfold Sovd.finishCall
  split_ifs
  · exact .answered ..
  · exact Same.emitThen fun _ _ => ⟨rfl, rfl⟩

/-- The faults are cleared alike. -/
theorem handleClearFaults_same (es : List Json) : Same (handleClearFaults R env req path w)
    (handleClearFaults R env req path { w with events := es }) :=
  Same.lockGated fun _ _ _ => Same.finishCall es

/-- Data items are written alike. -/
theorem handlePutData_same {idOrDid : Bytes} (es : List Json) :
    Same (handlePutData R env req path idOrDid w)
      (handlePutData R env req path idOrDid { w with events := es }) := by
  refine Same.lockGated fun f corr res => ?_
  dsimp only
  cases (findItem (R.findCatalog path) idOrDid).filter readOnly with
  | some i => exact .answered ..
  | none =>
    cases (findItem (R.findCatalog path) idOrDid).filter (scopeDenied R env req) with
    | some i => exact Same.emitThen fun _ _ => ⟨rfl, rfl⟩
    | none =>
      cases putDataBytes env (findItem (R.findCatalog path) idOrDid) req.body with
      | error text => exact .answered ..
      | ok bytes => exact Same.finishCall es

/-- Modes are set alike. -/
theorem handlePostMode_same (es : List Json) : Same (handlePostMode R env req path w)
    (handlePostMode R env req path { w with events := es }) := by
  refine Same.lockGated fun f corr res => ?_
  cases postedMode env req.body with
  | error text => exact .answered ..
  | ok mode => exact Same.finishCall es

/-- Operations are started alike. -/
theorem handlePostOperation_same {op : Bytes} (es : List Json) :
    Same (handlePostOperation R env req path op w)
      (handlePostOperation R env req path op { w with events := es }) :=
  Same.lockGated fun _ _ _ => Same.finishCall es

/-- Locks are given alike. -/
theorem handlePostLock_same (es : List Json) : Same (handlePostLock R env req path w)
    (handlePostLock R env req path { w with events := es }) := by
  refine Same.withEntity fun e corr res => ?_
  cases ttlSeconds env req.body with
  | error text => exact .answered ..
  | ok ttl =>
    dsimp only
    split_ifs
    · exact Same.emitThen fun _ _ => ⟨rfl, rfl⟩
    · cases w.locks.acquire env.now env.later path ttl with
      | mk ret locks =>
        cases ret with
        | none => exact Same.emitThen (w := { w with locks }) fun _ _ => ⟨rfl, rfl⟩
        | some lockId => exact Same.emitThen (w := { w with locks }) fun _ _ => ⟨rfl, rfl⟩

/-- Locks are renewed alike. -/
theorem handlePutLock_same {lockId : Bytes} (es : List Json) :
    Same (handlePutLock R env req path lockId w)
      (handlePutLock R env req path lockId { w with events := es }) := by
  refine Same.withEntity fun e corr res => ?_
  dsimp only
  cases ttlSeconds env req.body with
  | error text => exact .answered ..
  | ok ttl =>
    dsimp only
    cases w.locks.renew env.now env.later path lockId ttl with
    | mk ret locks =>
      cases ret with
      | renewed => exact Same.emitThen (w := { w with locks }) fun _ _ => ⟨rfl, rfl⟩
      | wrongId => exact Same.emitThen (w := { w with locks }) fun _ _ => ⟨rfl, rfl⟩
      | notFound => exact ⟨rfl, rfl⟩

/-- What a release tears down does not depend on the events told. -/
theorem revertMode_events (e : Entity σ) (es : List Json) :
    revertMode e path { w with events := es } = { revertMode e path w with events := es } := by
  unfold revertMode
  cases e.vtable.bind Vtable.setMode with
  | none => rfl
  | some setMode => rfl

/-- Locks are released alike. -/
theorem handleDeleteLock_same {lockId : Bytes} (es : List Json) :
    Same (handleDeleteLock R env req path lockId w)
      (handleDeleteLock R env req path lockId { w with events := es }) := by
  refine Same.withEntity fun e corr res => ?_
  dsimp only
  cases w.locks.release env.now path lockId with
  | mk ret locks =>
    cases ret with
    | released =>
      dsimp only
      rw [revertMode_events (w := { w with locks }) e es]
      exact Same.emitThen fun _ _ => ⟨rfl, rfl⟩
    | wrongId => exact Same.emitThen (w := { w with locks }) fun _ _ => ⟨rfl, rfl⟩
    | notFound => exact ⟨rfl, rfl⟩

/-- Faults are listed alike. -/
theorem handleGetFaults_same (es : List Json) : Same (handleGetFaults R env req path w)
    (handleGetFaults R env req path { w with events := es }) := by
  refine Same.withBackend fun f corr res => ?_
  dsimp only
  split_ifs
  · exact .answered ..
  · exact ⟨rfl, rfl⟩
  · exact ⟨rfl, rfl⟩

/-- One data item reads alike, events aside. -/
theorem readOneDataItem_events {readData : σ → Bytes → Bytes → SovdResult × Bytes × σ}
    {idOrDid : Bytes} {cat : Option Catalog} (es : List Json) (w : World σ) :
    readOneDataItem env readData path idOrDid cat { w with events := es } =
      ((readOneDataItem env readData path idOrDid cat w).1,
        { (readOneDataItem env readData path idOrDid cat w).2 with events := es }) := rfl

/-- A GET of one data item is answered alike. -/
theorem handleGetData_same {idOrDid : Bytes} (es : List Json) :
    Same (handleGetData R env req path idOrDid w)
      (handleGetData R env req path idOrDid { w with events := es }) := by
  refine Same.withBackend fun f corr res => ?_
  rw [readOneDataItem_events es w]
  cases readOneDataItem env f path idOrDid (R.findCatalog path) w with
  | mk outcome w' =>
    cases outcome with
    | ok body => exact .answered ..
    | failed status errorCode message => exact .answered ..

/-- Many data items read alike one after the other, events aside. -/
theorem readBatch_events {readData : σ → Bytes → Bytes → SovdResult × Bytes × σ}
    {cat : Option Catalog} (es : List Json) :
    ∀ (ids : List Bytes) (w : World σ),
      readBatch env readData path cat ids { w with events := es } =
        ((readBatch env readData path cat ids w).1,
          { (readBatch env readData path cat ids w).2 with events := es }) := by
  intro ids
  induction ids with
  | nil => exact fun _ => rfl
  | cons id ids ih =>
    intro w
    unfold readBatch
    rw [readOneDataItem_events es w]
    dsimp only
    rw [ih]

/-- A batch is answered alike. -/
theorem handleGetDataBatch_same (es : List Json) : Same (handleGetDataBatch R env req path w)
    (handleGetDataBatch R env req path { w with events := es }) := by
  refine Same.withBackend fun f corr res => ?_
  dsimp only
  split_ifs
  · exact .answered ..
  · rw [readBatch_events es]
    exact ⟨rfl, rfl⟩

/-- The docs are of the catalog alone. -/
theorem handleGetDocs_same (es : List Json) : Same (handleGetDocs R env req path w)
    (handleGetDocs R env req path { w with events := es }) :=
  Same.withEntity fun _ _ _ => .answered ..

end

/-! ## Every handler -/

/-- The same but for the events, the tickets and the streams included. -/
structure SameState (x y : ServerState σ × Outcome) : Prop where
  state : x.1.quiet = y.1.quiet
  answer : x.2 = y.2

section

variable {R : Router σ} {env : ServerEnv} {req : Request} {path item : Bytes}
  {s : ServerState σ}

/-- The state with another record of events. -/
def ServerState.telling (s : ServerState σ) (es : List Json) : ServerState σ :=
  { s with world := { s.world with events := es } }

/-- A handler that only sees the world is the same of the whole server. -/
theorem SameState.onWorld {handle : World σ → World σ × Outcome} {es : List Json}
    (h : Same (handle s.world) (handle { s.world with events := es })) :
    SameState (onWorld handle s) (onWorld handle (s.telling es)) := by
  refine ⟨?_, h.answer⟩
  unfold Sovd.onWorld ServerState.quiet ServerState.telling
  dsimp only
  rw [h.world]

/-- An event more, and one answer for all. -/
theorem SameState.emitThen {type : Bytes} {fields : List (Bytes × Json)} {answer : Outcome}
    (es : List Json) (tickets : StreamTicketStore) :
    let told (w : World σ) := emitThen env.toEnv type fields w fun w => (w, answer)
    SameState ({ s with world := (told s.world).1, tickets }, (told s.world).2)
      ({ s.telling es with world := (told (s.telling es).world).1, tickets },
        (told (s.telling es).world).2) := by
  intro told
  have h : Same (told s.world) (told { s.world with events := es }) :=
    Same.emitThen fun _ _ => ⟨rfl, rfl⟩
  refine ⟨?_, h.answer⟩
  unfold ServerState.quiet ServerState.telling
  dsimp only
  rw [h.world]

/-- A stream is opened or refused alike. -/
theorem handleStreamData_same (es : List Json) :
    SameState (handleStreamData R env req path item s)
      (handleStreamData R env req path item (s.telling es)) := by
  unfold handleStreamData
  dsimp only
  have htickets : (s.telling es).tickets = s.tickets := rfl
  rw [htickets]
  cases authorizeStream R env req path item s.tickets with
  | mk authorized tickets =>
    cases authorized with
    | false => exact SameState.emitThen es tickets
    | true =>
      cases R.find path with
      | none => exact ⟨rfl, rfl⟩
      | some e =>
        dsimp only
        cases (R.findProxy path).isSome with
        | true => exact ⟨rfl, rfl⟩
        | false =>
          cases e.vtable.bind Vtable.readData with
          | none => exact ⟨rfl, rfl⟩
          | some f => exact ⟨rfl, rfl⟩

/-- A ticket is issued alike. -/
theorem handlePostStreamTicket_same (es : List Json) :
    SameState (handlePostStreamTicket R env req path item s)
      (handlePostStreamTicket R env req path item (s.telling es)) := by
  unfold handlePostStreamTicket
  dsimp only
  have htickets : (s.telling es).tickets = s.tickets := rfl
  rw [htickets]
  cases R.find path with
  | none => exact ⟨rfl, rfl⟩
  | some e =>
    dsimp only
    cases s.tickets.issue env.now env.later env.raw path item with
    | mk ret tickets =>
      cases ret with
      | none => exact SameState.emitThen es tickets
      | some ticket => exact ⟨rfl, rfl⟩

/-- **No handler reads the events.** -/
theorem Handler.run_same (h : Handler) (es : List Json) :
    SameState (h.run R env req path item s) (h.run R env req path item (s.telling es)) := by
  cases h with
  | root => exact ⟨rfl, rfl⟩
  | listEntities => exact ⟨rfl, rfl⟩
  | getFaults => exact .onWorld (handleGetFaults_same es)
  | clearFaults => exact .onWorld (handleClearFaults_same es)
  | getDataBatch => exact .onWorld (handleGetDataBatch_same es)
  | streamData => exact handleStreamData_same es
  | postStreamTicket => exact handlePostStreamTicket_same es
  | getData => exact .onWorld (handleGetData_same es)
  | putData => exact .onWorld (handlePutData_same es)
  | postMode => exact .onWorld (handlePostMode_same es)
  | postOperation => exact .onWorld (handlePostOperation_same es)
  | postLock => exact .onWorld (handlePostLock_same es)
  | putLock => exact .onWorld (handlePutLock_same es)
  | deleteLock => exact .onWorld (handleDeleteLock_same es)
  | getDocs => exact .onWorld (handleGetDocs_same es)

end

/-! ## The whole way -/

section

variable {S : HttpServer σ} {req : Request}

/-- **What a request does and is answered does not depend on what was told before.** -/
theorem routing_same {env : ServerEnv} {s : ServerState σ} (es : List Json) :
    (routing S env req s).1.quiet = (routing S env req (s.telling es)).1.quiet ∧
      (routing S env req s).2 = (routing S env req (s.telling es)).2 := by
  unfold routing
  rcases preRouting_cases S env.toEnv req with ⟨told, answer, hpre⟩ | ⟨hadmitted, hpre⟩
  · rw [hpre, hpre]
    exact ⟨rfl, rfl⟩
  · rw [hpre, hpre]
    dsimp only
    by_cases hlarge : payloadTooLarge req = true
    · rw [if_pos hlarge, if_pos hlarge]
      exact ⟨rfl, rfl⟩
    · rw [if_neg hlarge, if_neg hlarge, serve, serve]
      cases dispatch req.method req.path with
      | none => exact ⟨rfl, rfl⟩
      | some r =>
        have hrun : SameState
            (r.1.run S.toRouter env req (r.2.getD 0 []) (r.2.getD 1 []) s)
            (r.1.run S.toRouter env req (r.2.getD 0 []) (r.2.getD 1 []) (s.telling es)) :=
          Handler.run_same r.1 es
        refine ⟨hrun.state, ?_⟩
        exact congrArg (fun out : Outcome => (out.mapError Failure.json).map
          (·.behind (applyCorsHeaders S.corsAllowedOrigins req {}))) hrun.answer

end

end Sovd
