import Sovd.Server.Answers

/-!
# A lock keeps the others out

A POST that is answered with a 201 gives its client a lock id, and until the lock runs out
or a PUT or DELETE is routed with that id (one that is refused counts), whatever is asked of
the server, the lock is there. While it is, the gated handlers, a second POST, and a renewal
or release with another id all fail, without a call of the backend (`lock_excludes`).

`KeptOut` says what it means to fail here; there is one lemma for each opening of the
handlers, and the handlers that look at the lock table are each built of them. That the
others leave the table alone is `OnlyReads`.
-/

namespace Sovd

open Wildcard

variable {σ : Type}

/-! ## A lease that still counts -/

namespace LockManager

variable {m m' : LockManager} {l : Lease Bytes Time} {p q : Bytes} {t₁ t₂ : Time}

/-- A free entity is another one. -/
theorem ne_of_free (hl : m.table p = some l) (hlive : t₁ < l.expires) (hfree : m.view t₁ q = none) :
    p ≠ q := by
  intro heq
  subst heq
  have hview : m.view t₁ p = some l := Lease.live_eq_some.mpr ⟨hl, hlive⟩
  rw [hfree] at hview
  cases hview

/-- There is one lock on an entity. -/
theorem eq_of_view (hl : m.table p = some l) {l' : Lease Bytes Time}
    (hview : m.view t₁ p = some l') : l' = l := by
  obtain ⟨hl', -⟩ := Lease.live_eq_some.mp hview
  exact Option.some.inj (hl'.symm.trans hl)

/-- No acquisition replaces it. -/
theorem table_acquire {ttl : Int} {ret : Option Bytes} (hl : m.table p = some l)
    (hlive : t₁ < l.expires) (h : m.acquire t₁ t₂ q ttl = (ret, m')) : m'.table p = some l := by
  rcases acquire_cases h with ⟨-, -, -, rfl⟩ | ⟨hfree, -, -, htable⟩
  · exact hl
  · rw [htable, Lease.grant_of_ne (ne_of_free hl hlive hfree)]
    exact hl

/-- No renewal with another id replaces it. -/
theorem table_renew {id : Bytes} {ttl : Int} {ret : LockRenewResult} (hl : m.table p = some l)
    (hlive : t₁ < l.expires) (hid : q = p → id ≠ l.holder)
    (h : m.renew t₁ t₂ q id ttl = (ret, m')) : m'.table p = some l := by
  rcases renew_cases h with ⟨hfree, -, -, htable⟩ | ⟨l', hview, hholder, -, -, htable⟩ |
    ⟨-, -, -, -, rfl⟩
  · rw [htable, Lease.revoke_of_ne (ne_of_free hl hlive hfree)]
    exact hl
  · have hne : p ≠ q := by
      intro heq
      subst heq
      obtain rfl := eq_of_view hl hview
      exact hid rfl hholder.symm
    rw [htable, Lease.grant_of_ne hne]
    exact hl
  · exact hl

/-- No release with another id removes it. -/
theorem table_release {id : Bytes} {ret : LockReleaseResult} (hl : m.table p = some l)
    (hlive : t₁ < l.expires) (hid : q = p → id ≠ l.holder)
    (h : m.release t₁ q id = (ret, m')) : m'.table p = some l := by
  rcases release_cases h with ⟨hfree, -, -, htable⟩ | ⟨l', hview, hholder, -, -, htable⟩ |
    ⟨-, -, -, -, rfl⟩
  · rw [htable, Lease.revoke_of_ne (ne_of_free hl hlive hfree)]
    exact hl
  · have hne : p ≠ q := by
      intro heq
      subst heq
      obtain rfl := eq_of_view hl hview
      exact hid rfl hholder.symm
    rw [htable, Lease.revoke_of_ne hne]
    exact hl
  · exact hl

end LockManager

/-! ## What a handler does to it -/

/-- The handlers that end a lock or give it another term. -/
def Handler.endsLock : Handler → Bool
  | putLock => true
  | deleteLock => true
  | _ => false

/-- The lock id a request comes with. -/
def Handler.presented (req : Request) (item : Bytes) : Handler → Option Bytes
  | clearFaults => some (headerValue req.headers (str "X-SOVD-Lock-Id"))
  | putData => some (headerValue req.headers (str "X-SOVD-Lock-Id"))
  | postMode => some (headerValue req.headers (str "X-SOVD-Lock-Id"))
  | postOperation => some (headerValue req.headers (str "X-SOVD-Lock-Id"))
  | putLock => some item
  | deleteLock => some item
  | _ => none

section Table

variable {R : Router σ} {env : Env} {req : Request} {path item p : Bytes} {w : World σ}
  {l : Lease Bytes Time}

/-- Only for a local entity is anything done. -/
theorem withEntity_table {act : Entity σ → Bytes → Response → World σ × Outcome}
    (hl : w.locks.table p = some l)
    (h : ∀ e corr res, (act e corr res).1.locks.table p = some l) :
    (withEntity R env req path w act).1.locks.table p = some l := by
  by_cases hlocal : ∃ e, R.find path = some e ∧ R.findProxy path = none
  · obtain ⟨e, he, hp⟩ := hlocal
    rw [withEntity_of_local he hp]
    exact h ..
  · rw [(withEntity_of_not fun e he hp => hlocal ⟨e, he, hp⟩).locks]
    exact hl

/-- Telling of something leaves the locks alone. -/
theorem emitThen_locks {type : Bytes} {fields : List (Bytes × Json)} {answer : Outcome} :
    (emitThen env type fields w fun w => (w, answer)).1.locks = w.locks :=
  (emitThen_onlyEvents fun _ => rfl).locks

/-- The gated handlers do too. -/
theorem GatedHandler.handle_locks {k : GatedHandler} :
    (k.handle R env req path w).1.locks = w.locks := by
  by_cases hacts : ∃ a, checkLockHeader env req path w.locks = true ∧
      Acts R env req path (correlationIdFor env req {}).1 w.adapter k a
  · obtain ⟨a, hlock, ha⟩ := hacts
    exact (acts_reported hlock ha).locks
  · exact (handle_of_not_acts fun a hlock ha => hacts ⟨a, hlock, ha⟩).locks

/-- A POST leaves a lock that counts. -/
theorem handlePostLock_table (hl : w.locks.table p = some l) (hlive : env.now < l.expires) :
    (handlePostLock R env req path w).1.locks.table p = some l := by
  refine withEntity_table hl fun e corr res => ?_
  dsimp only
  split
  next => exact hl
  next ttl _ =>
    split_ifs
    · rw [emitThen_locks]
      exact hl
    · split
      next locks hacquire =>
        rw [emitThen_locks]
        exact LockManager.table_acquire hl hlive hacquire
      next lockId locks hacquire =>
        rw [emitThen_locks]
        exact LockManager.table_acquire hl hlive hacquire

/-- A PUT of another id leaves a lock that counts. -/
theorem handlePutLock_table (hl : w.locks.table p = some l) (hlive : env.now < l.expires)
    (hid : path = p → item ≠ l.holder) :
    (handlePutLock R env req path item w).1.locks.table p = some l := by
  refine withEntity_table hl fun e corr res => ?_
  dsimp only
  split
  next => exact hl
  next ttl _ =>
    split
    next locks hrenew =>
      rw [emitThen_locks]
      exact LockManager.table_renew hl hlive hid hrenew
    next locks hrenew =>
      rw [emitThen_locks]
      exact LockManager.table_renew hl hlive hid hrenew
    next locks hrenew => exact LockManager.table_renew hl hlive hid hrenew

/-- A DELETE of another id leaves a lock that counts. -/
theorem handleDeleteLock_table (hl : w.locks.table p = some l) (hlive : env.now < l.expires)
    (hid : path = p → item ≠ l.holder) :
    (handleDeleteLock R env req path item w).1.locks.table p = some l := by
  refine withEntity_table hl fun e corr res => ?_
  dsimp only
  split
  next locks hrelease =>
    rw [emitThen_locks, revertMode_locks]
    exact LockManager.table_release hl hlive hid hrelease
  next locks hrelease =>
    rw [emitThen_locks]
    exact LockManager.table_release hl hlive hid hrelease
  next locks hrelease => exact LockManager.table_release hl hlive hid hrelease

end Table

section

variable {S : HttpServer σ} {env : ServerEnv} {req : Request} {path item p : Bytes}
  {s : ServerState σ} {l : Lease Bytes Time}

/-- **What a handler does to a lock that still counts**: nothing, unless it is renewed or
released with its id. -/
theorem Handler.run_table {R : Router σ} {h : Handler}
    (hmethod : h.demand = .scope (str "execute:routines") ∨
      (req.method = str "GET" ∨ req.method = str "HEAD") ∨ h = .postStreamTicket)
    (hl : s.world.locks.table p = some l) (hlive : env.now < l.expires)
    (hid : path = p → h.endsLock = true → item ≠ l.holder) :
    (h.run R env req path item s).1.world.locks.table p = some l := by
  by_cases hs : h.demand = .scope (str "execute:routines")
  · have hgated : ∀ k : GatedHandler,
        (k.handle R env.toEnv req path s.world).1.locks.table p = some l := by
      intro k
      rw [GatedHandler.handle_locks]
      exact hl
    cases h with
    | clearFaults => exact hgated .clearFaults
    | putData => exact hgated (.putData item)
    | postMode => exact hgated .postMode
    | postOperation => exact hgated (.postOperation item)
    | postLock => exact handlePostLock_table hl hlive
    | putLock => exact handlePutLock_table hl hlive fun hp => hid hp rfl
    | deleteLock => exact handleDeleteLock_table hl hlive fun hp => hid hp rfl
    | root => cases hs
    | listEntities => cases hs
    | getFaults => cases hs
    | getDataBatch => cases hs
    | streamData => cases hs
    | postStreamTicket => cases hs
    | getData => cases hs
    | getDocs => cases hs
  · rw [(Handler.run_onlyReads (hmethod.resolve_left hs) hs).locks]
    exact hl

/-- The same of a request. -/
theorem routing_table (hl : s.world.locks.table p = some l) (hlive : env.now < l.expires)
    (hid : ∀ h, Routed req h p l.holder → h.endsLock = false) :
    (routing S env req s).1.world.locks.table p = some l := by
  rcases routing_cases S env req s with ⟨es, htold⟩ | ⟨h, captures, -, -, hroute, hrun⟩
  · rw [htold]
    exact hl
  · rw [hrun]
    refine Handler.run_table ?_ hl hlive fun hpath hends hitem => ?_
    · by_cases hs : h.demand = .scope (str "execute:routines")
      · exact .inl hs
      · exact .inr (method_of_not_executes (dispatch_handlerFor hroute) hs)
    · rw [hid h ⟨captures, hroute, hpath, hitem⟩] at hends
      cases hends

end

/-! ## What it is to be kept out -/

/-- Nothing was asked of a backend, and the answer is an error. -/
structure KeptOut (w : World σ) (out : World σ × Outcome) : Prop where
  adapter : out.1.adapter = w.adapter
  calls : out.1.calls = w.calls
  fails : ∀ res, out.2 = .ok res → 400 ≤ res.status

namespace KeptOut

variable {R : Router σ} {env : Env} {req : Request} {path item : Bytes} {w : World σ}
  {l : Lease Bytes Time}

/-- An error of 400 or more. -/
theorem error {res : Response} {status : Int} {code message : Bytes} {locks : LockManager}
    (h : 400 ≤ status) : KeptOut w ({ w with locks }, writeError res status code message) :=
  ⟨rfl, rfl, fun _ hres => (writeError_status hres).symm ▸ h⟩

/-- Also where the event cannot be written. -/
theorem emitThen {res : Response} {status : Int} {code message type : Bytes}
    {fields : List (Bytes × Json)} {locks : LockManager} (h : 400 ≤ status) :
    KeptOut w (emitThen env type fields { w with locks } fun w =>
      (w, writeError res status code message)) := by
  have honly : OnlyEvents { w with locks } (Sovd.emitThen env type fields { w with locks } fun w =>
      (w, writeError res status code message)).1 := emitThen_onlyEvents fun _ => rfl
  refine ⟨honly.adapter, honly.calls, fun res' hres => ?_⟩
  rw [writeError_status (emitThen_answered hres)]
  exact h

/-- A handler fails if what it does with the entity does. -/
theorem withEntity {act : Entity σ → Bytes → Response → World σ × Outcome}
    (hp : R.findProxy path = none) (h : ∀ e corr res, KeptOut w (act e corr res)) :
    KeptOut w (withEntity R env req path w act) := by
  cases he : R.find path with
  | some e =>
    rw [withEntity_of_local he hp]
    exact h ..
  | none =>
    unfold Sovd.withEntity
    simp only [he]
    exact error (by decide)

/-- The gate is closed. -/
theorem lockGated {α : Type} {select : Vtable σ → Option α}
    {act : (f : α) → (corr : Bytes) → Response → World σ × Outcome}
    (hp : R.findProxy path = none) (hgate : checkLockHeader env req path w.locks = false) :
    KeptOut w (lockGated R env req path select w act) := by
  unfold Sovd.lockGated withBackend
  refine withEntity hp fun e corr res => ?_
  cases e.vtable.bind select with
  | none => exact error (by decide)
  | some f =>
    dsimp only
    rw [hgate]
    exact error (by decide)

/-- What a request that the gate lets through is kept out by is the handler itself. -/
theorem ofGated {α : Type} {select : Vtable σ → Option α}
    {act : (f : α) → (corr : Bytes) → Response → World σ × Outcome}
    (hp : R.findProxy path = none)
    (h : ∀ f, GetsTo R path select f → checkLockHeader env req path w.locks = true →
      KeptOut w (act f (correlationIdFor env req {}).1 (correlationIdFor env req {}).2)) :
    KeptOut w (Sovd.lockGated R env req path select w act) := by
  cases hgate : checkLockHeader env req path w.locks with
  | false => exact lockGated hp hgate
  | true =>
    by_cases hf : ∃ f, GetsTo R path select f
    · obtain ⟨f, hf⟩ := hf
      rw [lockGated_of_getsTo hf hgate]
      exact h f hf hgate
    · unfold Sovd.lockGated withBackend
      cases he : R.find path with
      | none =>
        unfold Sovd.withEntity
        simp only [he]
        exact error (by decide)
      | some e =>
        rw [withEntity_of_local he hp]
        cases hsel : e.vtable.bind select with
        | none => exact error (by decide)
        | some f => exact absurd ⟨f, e, he, hp, hsel⟩ hf

/-- **A gated request that does not act is refused.** -/
theorem of_not_acts {k : GatedHandler} (hp : R.findProxy path = none)
    (h : ∀ a, checkLockHeader env req path w.locks = true →
      ¬ Acts R env req path (correlationIdFor env req {}).1 w.adapter k a) :
    KeptOut w (k.handle R env req path w) := by
  cases k with
  | clearFaults =>
    rw [GatedHandler.handle, handleClearFaults]
    refine ofGated hp fun f hf hlock => ?_
    exact absurd (.clearFaults hf rfl) (h _ hlock)
  | postOperation op =>
    rw [GatedHandler.handle, handlePostOperation]
    refine ofGated hp fun f hf hlock => ?_
    exact absurd (.postOperation hf rfl) (h _ hlock)
  | postMode =>
    rw [GatedHandler.handle, handlePostMode]
    refine ofGated hp fun f hf hlock => ?_
    dsimp only
    split
    next => exact error (by decide)
    next mode hm => exact absurd (.postMode hf hm rfl) (h _ hlock)
  | putData idOrDid =>
    rw [GatedHandler.handle, handlePutData]
    refine ofGated hp fun f hf hlock => ?_
    dsimp only
    split
    next => exact error (by decide)
    next hread =>
      split
      next i hi => exact emitThen (by decide)
      next hscope =>
        split
        next => exact error (by decide)
        next bytes hb =>
          refine absurd (.putData hf rfl (fun i hi => ?_) hb rfl) (h _ hlock)
          rw [Option.filter_eq_none_iff] at hread hscope
          exact ⟨eq_false_of_ne_true (hread i hi), eq_false_of_ne_true (hscope i hi)⟩

/-- The gated handlers fail at a closed gate. -/
theorem gated (k : GatedHandler) (hp : R.findProxy path = none)
    (hgate : checkLockHeader env req path w.locks = false) :
    KeptOut w (k.handle R env req path w) :=
  of_not_acts hp fun _ hlock => absurd (hgate.symm.trans hlock) Bool.false_ne_true

/-- A second POST fails. -/
theorem handlePostLock (hp : R.findProxy path = none) (hheld : w.locks.view env.now path = some l) :
    KeptOut w (handlePostLock R env req path w) := by
  refine withEntity hp fun e corr res => ?_
  dsimp only
  split
  next => exact error (by decide)
  next ttl _ =>
    split_ifs
    · exact emitThen (by decide)
    · rw [LockManager.acquire_held hheld]
      exact emitThen (by decide)

/-- A renewal with another id fails. -/
theorem handlePutLock (hp : R.findProxy path = none) (hheld : w.locks.view env.now path = some l)
    (hid : item ≠ l.holder) : KeptOut w (handlePutLock R env req path item w) := by
  refine withEntity hp fun e corr res => ?_
  dsimp only
  split
  next => exact error (by decide)
  next ttl _ =>
    rw [LockManager.renew_held hheld, if_neg (Ne.symm hid)]
    exact emitThen (by decide)

/-- A release with another id fails. -/
theorem handleDeleteLock (hp : R.findProxy path = none)
    (hheld : w.locks.view env.now path = some l) (hid : item ≠ l.holder) :
    KeptOut w (handleDeleteLock R env req path item w) := by
  refine withEntity hp fun e corr res => ?_
  dsimp only
  rw [LockManager.release_held hheld, if_neg (Ne.symm hid)]
  exact emitThen (by decide)

end KeptOut

section

variable {S : HttpServer σ} {env : ServerEnv} {req : Request} {path item : Bytes}
  {s : ServerState σ} {l : Lease Bytes Time}

/-- **Who has another id, or none, is kept out.** -/
theorem Handler.run_keptOut {R : Router σ} {h : Handler} (hp : R.findProxy path = none)
    (hheld : s.world.locks.view env.now path = some l)
    (hexec : h.demand = .scope (str "execute:routines"))
    (hother : h.presented req item ≠ some l.holder) :
    KeptOut s.world ((h.run R env req path item s).1.world, (h.run R env req path item s).2) := by
  have hgate : some (headerValue req.headers (str "X-SOVD-Lock-Id")) ≠ some l.holder →
      checkLockHeader env.toEnv req path s.world.locks = false := by
    intro hne
    rw [checkLockHeader, LockManager.checkLock_held hheld, beq_eq_false_iff_ne]
    exact fun heq => hne (congrArg some heq.symm)
  cases h with
  | clearFaults => exact KeptOut.gated .clearFaults hp (hgate hother)
  | putData => exact KeptOut.gated (.putData item) hp (hgate hother)
  | postMode => exact KeptOut.gated .postMode hp (hgate hother)
  | postOperation => exact KeptOut.gated (.postOperation item) hp (hgate hother)
  | postLock => exact KeptOut.handlePostLock hp hheld
  | putLock => exact KeptOut.handlePutLock hp hheld fun hid => hother (congrArg some hid)
  | deleteLock => exact KeptOut.handleDeleteLock hp hheld fun hid => hother (congrArg some hid)
  | root => cases hexec
  | listEntities => cases hexec
  | getFaults => cases hexec
  | getDataBatch => cases hexec
  | streamData => cases hexec
  | postStreamTicket => cases hexec
  | getData => cases hexec
  | getDocs => cases hexec

/-- The same of a request. -/
theorem routing_keptOut {h : Handler} (hp : S.findProxy path = none)
    (hheld : s.world.locks.view env.now path = some l) (hroute : Routed req h path item)
    (hexec : h.demand = .scope (str "execute:routines"))
    (hother : h.presented req item ≠ some l.holder) :
    (routing S env req s).1.world.adapter = s.world.adapter ∧
      (routing S env req s).1.world.calls = s.world.calls ∧
      400 ≤ answerStatus (routing S env req s).2 := by
  have hstatus : ∀ res : Response, 400 ≤ res.status → 400 ≤ answerStatus (.ok res) := by
    intro res hres
    show 400 ≤ if res.status = -1 then 200 else res.status
    rw [if_neg (by omega)]
    exact hres
  obtain ⟨captures, hdispatch, rfl, rfl⟩ := hroute
  have hroot : h ≠ .root := by
    intro hroot
    rw [hroot] at hexec
    cases hexec
  have hlist : h ≠ .listEntities := by
    intro hlist
    rw [hlist] at hexec
    cases hexec
  -- what demands the scope to execute is about an entity
  obtain ⟨rest, hmatch⟩ := underEntity_of_handler (dispatch_handlerFor hdispatch) hroot hlist
  rcases routing_of_underEntity S env hmatch hdispatch s with ⟨⟨es, htold⟩, hrefused⟩ | ⟨-, hrun⟩
  · rw [htold]
    refine ⟨rfl, rfl, ?_⟩
    cases hanswer : (routing S env req s).2 with
    | error failure => exact (by decide : (400 : Int) ≤ 500)
    | ok res =>
      refine hstatus res ?_
      have hmem := hrefused res hanswer
      simp only [List.mem_cons, List.not_mem_nil, or_false] at hmem
      omega
  · -- admitted, so its handler ran, and was kept out
    have hout : KeptOut s.world
        ((h.run S.toRouter env req (captures.getD 0 []) (captures.getD 1 []) s).1.world,
          (h.run S.toRouter env req (captures.getD 0 []) (captures.getD 1 []) s).2) :=
      Handler.run_keptOut hp hheld hexec hother
    rw [hrun]
    refine ⟨hout.adapter, hout.calls, ?_⟩
    dsimp only
    cases hanswer : (h.run S.toRouter env req (captures.getD 0 []) (captures.getD 1 []) s).2 with
    | error ex => exact (by decide : (400 : Int) ≤ 500)
    | ok res => exact hstatus _ (hout.fails res hanswer)

end

/-! ## Runs -/

/-- A POST fails, or it creates a lock that is there and is answered. -/
theorem handlePostLock_created {R : Router σ} {env : Env} {req : Request} {path : Bytes}
    {w : World σ} {res : Response} (hp : R.findProxy path = none)
    (h : (handlePostLock R env req path w).2 = .ok res) (hsuccess : res.status < 400) :
    ∃ n ttl, ttlSeconds env req.body = .ok ttl ∧ res.status = 201 ∧
      res.body = .json (grantedLock (LockManager.lockIdOf n) ttl) ∧
      (handlePostLock R env req path w).1.locks.table path = some
        ⟨LockManager.lockIdOf n, env.later + seconds (min ttl kMaxLockTtlSeconds)⟩ := by
  -- every way out but the last is an error
  have hrefused : ∀ {res' : Response} {status : Int} {code message : Bytes},
      writeError res' status code message = .ok res → 400 ≤ status → False := by
    intro res' status code message hres hstatus
    rw [← writeError_status hres] at hstatus
    omega
  unfold handlePostLock at h ⊢
  cases he : R.find path with
  | none =>
    unfold withEntity at h
    simp only [he] at h
    exact (hrefused h (by decide)).elim
  | some e =>
    rw [withEntity_of_local he hp] at h ⊢
    cases httl : ttlSeconds env req.body with
    | error text =>
      rw [httl] at h
      exact (hrefused h (by decide)).elim
    | ok ttl =>
      rw [httl] at h
      dsimp only at h ⊢
      -- refused while too many locks are held
      split_ifs at h ⊢
      · exact (hrefused (emitThen_answered h) (by decide)).elim
      · cases hacquire : w.locks.acquire env.now env.later path ttl with
        | mk ret locks =>
          rw [hacquire] at h
          rcases LockManager.acquire_cases hacquire with ⟨-, -, rfl, -⟩ | ⟨-, rfl, -, htable⟩
          · exact (hrefused (emitThen_answered h) (by decide)).elim
          · obtain ⟨-, hstatus, hbody⟩ := Response.setJson_eq_ok (emitThen_answered h)
            refine ⟨_, ttl, rfl, hstatus, hbody, ?_⟩
            dsimp only
            rw [emitThen_locks, htable, Lease.grant_self]

/-- The request is routed to the renewal or the release of the lock, whether or not that is then
refused. -/
def HttpEvent.EndsLock (path lockId : Bytes) : HttpEvent σ → Prop
  | .request _ req _ => ∃ h, Routed req h path lockId ∧ h.endsLock = true
  | .background _ _ => False

/-- The request comes before the lock has run out. -/
def HttpEvent.Before (expires : Time) : HttpEvent σ → Prop
  | .request env _ _ => env.now < expires
  | .background _ _ => True

/-- The lock is held, and what that means to a request. -/
structure Excludes (S : HttpServer σ) (path : Bytes) (l : Lease Bytes Time) (s : ServerState σ) :
    Prop where
  held : s.world.locks.table path = some l
  /-- The gate opens to the id of the lock. -/
  gate : ∀ (env : Env) (req : Request), env.now < l.expires →
    (checkLockHeader env req path s.world.locks = true ↔
      headerValue req.headers (str "X-SOVD-Lock-Id") = l.holder)
  /-- A request with another id, or none, fails and reaches no backend. -/
  keptOut : ∀ (env : ServerEnv) (req : Request) (h : Handler) (item : Bytes),
    env.now < l.expires → Routed req h path item →
    h.demand = .scope (str "execute:routines") → h.presented req item ≠ some l.holder →
      (routing S env req s).1.world.adapter = s.world.adapter ∧
      (routing S env req s).1.world.calls = s.world.calls ∧
      400 ≤ answerStatus (routing S env req s).2

/-- A lock in the table excludes. -/
theorem Excludes.of_held {S : HttpServer σ} {path : Bytes} {l : Lease Bytes Time}
    {s : ServerState σ} (hp : S.findProxy path = none)
    (hl : s.world.locks.table path = some l) : Excludes S path l s where
  held := hl
  gate env req hlive := by
    rw [checkLockHeader, LockManager.checkLock_held (Lease.live_eq_some.mpr ⟨hl, hlive⟩),
      beq_iff_eq]
    exact eq_comm
  keptOut env req h item hlive hroute hexec hother :=
    routing_keptOut hp (Lease.live_eq_some.mpr ⟨hl, hlive⟩) hroute hexec hother

/-- A lock is held through every run that does not end it. -/
theorem table_of_run {S : HttpServer σ} {path : Bytes} {l : Lease Bytes Time}
    {es : List (HttpEvent σ)} {s t : ServerState σ} (h : (httpLts S).Run s es t)
    (hl : s.world.locks.table path = some l)
    (hkeep : ∀ e ∈ es, e.Before l.expires ∧ ¬ e.EndsLock path l.holder) :
    t.world.locks.table path = some l := by
  induction es generalizing s with
  | nil =>
    obtain rfl := Lts.run_nil.mp h
    exact hl
  | cons e es ih =>
    obtain ⟨u, hu, hr⟩ := h
    refine ih hr ?_ fun e' he' => hkeep e' (List.mem_cons_of_mem e he')
    obtain ⟨hbefore, hends⟩ := hkeep e List.mem_cons_self
    cases e with
    | request env req answer =>
      have hu : routing S env req s = (u, answer) := hu
      have hkept : (routing S env req s).1.world.locks.table path = some l := by
        refine routing_table hl hbefore fun h hroute => ?_
        exact eq_false_of_ne_true fun hh => hends ⟨h, hroute, hh⟩
      rw [hu] at hkept
      exact hkept
    | background adapter hub =>
      obtain rfl : u = { s with world := { s.world with adapter }, hub } := hu
      exact hl

/-- **A lock excludes.** From a POST for a local entity that is answered with a 201 on, and until
the time it was granted is over, the lock that the answer names is held and keeps everybody else
out, through every run in which no PUT or DELETE is routed with its id, refused ones
included. -/
theorem lock_excludes {S : HttpServer σ} {path item : Bytes} (hp : S.findProxy path = none)
    {env : ServerEnv} {post : Request} {res : Response} {s₀ s₁ : ServerState σ}
    (hpost : Routed post .postLock path item)
    (hstep : (httpLts S).step s₀ (.request env post (.ok res)) s₁) (h201 : res.status = 201) :
    ∃ lockId ttl expires, ttlSeconds env.toEnv post.body = .ok ttl ∧
      res.body = .json (grantedLock lockId ttl) ∧
      expires = env.later + seconds (min ttl kMaxLockTtlSeconds) ∧
      ∀ (es : List (HttpEvent σ)) (s₂ : ServerState σ), (httpLts S).Run s₁ es s₂ →
        (∀ e ∈ es, e.Before expires ∧ ¬ e.EndsLock path lockId) →
          Excludes S path ⟨lockId, expires⟩ s₂ := by
  have hnot : res.status ∉ [401, 403, 413] := by
    rw [h201]
    decide
  obtain ⟨res', hrun, hstatus, hbody, rfl⟩ :=
    run_of_answered hpost (by simp) (by simp) hstep hnot
  obtain ⟨n, ttl, httl, -, hgranted, htable⟩ :=
    handlePostLock_created hp hrun (by omega)
  refine ⟨LockManager.lockIdOf n, ttl, _, httl, hbody.symm.trans hgranted, rfl, ?_⟩
  intro es s₂ hes hkeep
  exact .of_held hp (table_of_run hes htable hkeep)

namespace HeldLock

def env : ServerEnv where
  ssl := { hmacSha256 := fun _ _ => [], encodeBlock := fun _ => [], decodeBlock := fun _ => none }
  parse := fun _ => none

/-- A backend that clears faults whenever it is asked. -/
def backend : Vtable Unit := { clearFaults := some fun s _ => (.ok, s) }

def server : HttpServer Unit :=
  { entities := [{ path := str "ecu", vtable := some backend }], files := linkedFiles }

/-- A POST without a body: the TTL is the default. -/
def lock : Request := { method := str "POST", path := str "/v1/entities/ecu/locks" }

def start : ServerState Unit := { world := { adapter := () } }

theorem routed_lock : Routed lock .postLock (str "ecu") [] :=
  ⟨[str "ecu"], by decide +kernel, rfl, rfl⟩

end HeldLock

open HeldLock in
/-- Whoever asks for the lock a second time does not get it, and the first holder keeps it. -/
theorem second_lock_excluded :
    let s₁ := (routing server env lock start).1
    let s₂ := (routing server env lock s₁).1
    ∃ lockId, Excludes server (str "ecu") ⟨lockId, seconds 60⟩ s₂ := by
  intro s₁ s₂
  have hstatus : answerStatus (routing server env lock start).2 = 201 := by decide +kernel
  obtain ⟨res, hres, h201⟩ := ok_of_answerStatus hstatus (by decide) (by decide)
  have hstep : (httpLts server).step start (.request env lock (.ok res)) s₁ := Prod.ext rfl hres
  obtain ⟨lockId, ttl, expires, httl, -, rfl, hexcludes⟩ :=
    lock_excludes (by decide) routed_lock hstep h201
  obtain rfl : 60 = ttl := Except.ok.inj httl
  have hrun : (httpLts server).Run s₁ [.request env lock (routing server env lock s₁).2] s₂ :=
    ⟨s₂, request_step .., rfl⟩
  refine ⟨lockId, hexcludes _ s₂ hrun fun e he => ?_⟩
  obtain rfl := List.mem_singleton.mp he
  have hbefore : env.now < env.later + seconds (min 60 kMaxLockTtlSeconds) := by decide
  refine ⟨hbefore, fun hends => ?_⟩
  obtain ⟨h, ⟨captures, hroute, -⟩, hh⟩ := hends
  obtain ⟨captures', hroute', -⟩ := routed_lock
  obtain rfl := (Prod.mk.inj (Option.some.inj (hroute'.symm.trans hroute))).1
  cases hh

end Sovd
