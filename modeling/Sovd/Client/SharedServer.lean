import Sovd.Client.LockGuard
import Sovd.Client.Loopback
import Sovd.Mock.MockServer

/-!
# Clients that share a server

What the server promises its clients, as they see it through the SDK. A client whose
`acquire_lock` returned has the entity for itself: until the lock runs out, or is released or
renewed, every call of another client that would change something throws
(`acquired_lock_excludes`). And what one client puts, another gets (`put_data_read_back`).

A call ends as `call_ends` says, so all of this is about the one request it comes to, in the
state the server has then.
-/

namespace Sovd

open Httplib Wildcard

variable {σ : Type}

/-- A method returns what `request` does. -/
theorem ok_of_mapError {α ε ε' : Type} {f : ε → ε'} {outcome : Except ε α} {a : α}
    (h : outcome.mapError f = .ok a) : outcome = .ok a := by
  cases outcome with
  | error e => cases h
  | ok b => exact congrArg Except.ok (Except.ok.inj h)

/-- A request is routed one way. -/
theorem Routed.unique {req : Request} {h h' : Handler} {path path' item item' : Bytes}
    (hroute : Routed req h path item) (hroute' : Routed req h' path' item') :
    h = h' ∧ path = path' ∧ item = item' := by
  obtain ⟨captures, hdispatch, rfl, rfl⟩ := hroute
  obtain ⟨captures', hdispatch', rfl, rfl⟩ := hroute'
  obtain ⟨rfl, rfl⟩ := Prod.mk.inj (Option.some.inj (hdispatch.symm.trans hdispatch'))
  exact ⟨rfl, rfl, rfl⟩

/-- An answer of success is the handler's. -/
theorem run_of_success {S : HttpServer σ} {env : ServerEnv} {req : Request} {h : Handler}
    {path item : Bytes} {s t : ServerState σ} {reply : Answer} (hroute : Routed req h path item)
    (hroot : h ≠ .root) (hlist : h ≠ .listEntities) (hstep : routing S env req s = (t, reply))
    (hsuccess : 200 ≤ answerStatus reply ∧ answerStatus reply < 300) :
    ∃ res res', reply = .ok res ∧ (h.run S.toRouter env req path item s).2 = .ok res' ∧
      res'.status = res.status ∧ res'.body = res.body ∧ res'.status < 300 ∧
      t = (h.run S.toRouter env req path item s).1 := by
  cases reply with
  | error failure => exact absurd hsuccess (by simp [answerStatus])
  | ok res =>
    have hlt : res.status < 300 := by
      have hstatus := hsuccess.2
      unfold answerStatus at hstatus
      dsimp only at hstatus
      split_ifs at hstatus <;> omega
    have hnot : res.status ∉ [401, 403, 413] := by
      simp only [List.mem_cons, List.not_mem_nil, or_false]
      omega
    obtain ⟨res', hres', hstatus, hbody, ht⟩ := run_of_answered hroute hroot hlist hstep hnot
    exact ⟨res, res', rfl, hres', hstatus, hbody, by omega, ht⟩

/-! ## Locks -/

/-- The lock id the server is shown by a call. -/
def ClientCall.presented : ClientCall → Option Bytes
  | clearFaults lockId => some (readLockId lockId)
  | putData _ _ lockId => some (readLockId lockId)
  | setMode _ lockId => some (readLockId lockId)
  | executeOperation _ _ lockId => some (readLockId lockId)
  | renewLock lockId _ => some lockId.text
  | releaseLock lockId => some lockId.text
  | _ => none

theorem presented_of_carries {dump : Json → Bytes} {p : EntityPath} {c : ClientCall}
    {remote : Request} (h : Carries dump p c remote) :
    c.handler.presented remote c.item = c.presented := by
  have hlock := h.lockId
  cases c with
  | clearFaults lockId => exact congrArg some hlock
  | putData id value lockId => exact congrArg some hlock
  | setMode mode lockId => exact congrArg some hlock
  | executeOperation op params lockId => exact congrArg some hlock
  | _ => rfl

/-- Nothing of what the others do at the server during a call ends the lock, and it has not
run out. -/
def SovdClient.Session.Leaves (w : SovdClient.Session σ) (path : Bytes) (l : Lease Bytes Time) :
    Prop :=
  ∀ turn ∈ w.turns, turn.env.now < l.expires ∧ ∀ o ∈ turn.others, ∀ answer,
    (o.event answer).Before l.expires ∧ ¬ (o.event answer).EndsLock path l.holder

section

variable {S : HttpServer σ} {grisu2 : Rat → Bytes × Int} {p : EntityPath} {c : ClientCall}
  {l : Lease Bytes Time} {w : SovdClient.Session σ}

/-- A call that does not have the lock does not end it. -/
theorem leaves_saw (hc : ¬ c.Misrouted p) (hother : c.presented ≠ some l.holder)
    (hleaves : w.Leaves p.text l) {e : HttpEvent σ}
    (hsaw : w.Saw ((c.call p.text).sent (dumpText grisu2)) e) :
    e.Before l.expires ∧ ¬ e.EndsLock p.text l.holder := by
  obtain ⟨turn, hturn, hsaw⟩ := hsaw
  obtain ⟨hnow, hothers⟩ := hleaves turn hturn
  rcases hsaw with ⟨o, ho, answer, rfl⟩ | ⟨remote, answer, hread, rfl⟩
  · exact hothers o ho answer
  · refine ⟨hnow, fun hends => hother ?_⟩
    obtain ⟨h, hroute, hh⟩ := hends
    have hcarries := carries_of_call hc hread
    obtain ⟨rfl, -, hitem⟩ := hcarries.routed.unique hroute
    rw [← presented_of_carries hcarries]
    -- only a renewal or a release has its lock id in the path
    cases hhandler : c.handler with
    | putLock => exact congrArg some hitem
    | deleteLock => exact congrArg some hitem
    | _ =>
      rw [hhandler] at hh
      cases hh

/-- **Who does not have the lock gets nothing done.** -/
theorem call_kept_out (hg : Grisu2Correct grisu2) (hlocal : S.findProxy p.text = none)
    (hheld : w.server.world.locks.table p.text = some l) (hleaves : w.Leaves p.text l)
    (hc : ¬ c.Misrouted p) (hline : (c.call p.text).OneLine)
    (hexec : c.handler.demand = .scope (str "execute:routines"))
    (hother : c.presented ≠ some l.holder) (retry : RetryPolicy) :
    (∃ e, (c.perform S grisu2 p retry w).1 = .error e) ∧
      (c.perform S grisu2 p retry w).2.server.world.locks.table p.text = some l := by
  have hends := call_ends hg (S := S) hc hline retry w
  generalize c.perform S grisu2 p retry w = out at hends ⊢
  cases hends with
  | unwritten hbody hstate hresult => exact ⟨⟨_, hresult⟩, by rw [hstate, hheld]⟩
  | unanswered hn hretried hlost hrun hes hresult hstatus =>
    exact ⟨⟨_, hresult⟩,
      table_of_run hrun hheld fun e he => leaves_saw hc hother hleaves (hes e he)⟩
  | unread hread hrun hes hresult hstatus =>
    exact ⟨⟨_, hresult⟩,
      table_of_run hrun hheld fun e he => leaves_saw hc hother hleaves (hes e he)⟩
  | answered hn hretried hfinal hrun hes hturn hcarries hread hstep hreports hresult =>
    rename_i n v es s turn remote reply outcome
    have hnow := (hleaves turn hturn).1
    have htable := table_of_run hrun hheld fun e he => leaves_saw hc hother hleaves (hes e he)
    -- the lock stands when the last attempt gets to the server
    have hview : s.world.locks.view turn.env.now p.text = some l :=
      Lease.live_eq_some.mpr ⟨htable, hnow⟩
    obtain ⟨-, -, hfailed⟩ := routing_keptOut hlocal hview hcarries.routed hexec
      (presented_of_carries hcarries ▸ hother)
    have hreply : (routing S turn.env remote s).2 = reply := congrArg Prod.snd hstep
    rw [hreply] at hfailed
    constructor
    · cases outcome with
      | error e => exact ⟨_, hresult⟩
      | ok j =>
        have hsuccess := hreports.success j rfl
        omega
    · -- its own turn is one that leaves the lock
      have hlast : (httpLts S).Run s [.request turn.env remote reply] out.2.server :=
        ⟨_, hstep, rfl⟩
      refine table_of_run hlast htable fun e he => ?_
      obtain rfl := List.mem_singleton.mp he
      exact leaves_saw hc hother hleaves ⟨turn, hturn, .inr ⟨remote, reply, hread, rfl⟩⟩

/-- The document of a granted lock is read as it was written. -/
theorem received_grantedLock (lockId : Bytes) (ttl : Int) :
    (grantedLock lockId ttl).stored.received = grantedLock lockId ttl := by
  rw [grantedLock, stored_pair (by decide)]
  rfl

theorem ttlSeconds_pos {env : Env} {body : Bytes} {ttl : Int} (h : ttlSeconds env body = .ok ttl) :
    0 < ttl := by
  unfold ttlSeconds at h
  dsimp only at h
  split at h
  next => cases h
  next =>
    split_ifs at h with hpos
    obtain rfl := Except.ok.inj h
    omega

theorem utf8_lockIdOf (n : UInt64) : Utf8.valid (LockManager.lockIdOf n) = true := by
  refine Utf8.valid_of_ascii fun c hc => ?_
  have hmarker : (str "lock-").all (fun c => decide (c ≤ 0x7F)) = true := by decide
  rcases List.mem_append.mp hc with hc | hc
  · exact of_decide_eq_true (List.all_eq_true.mp hmarker c hc)
  · exact UInt8.le_trans (decimal_digit n.toNat c hc).2 (by decide)

/-- The time to live that is sent is the one that is granted. -/
theorem ttlSeconds_sent (hg : Grisu2Correct grisu2) {env : Env} (hparse : env.parse = parseJson)
    {ttl granted : Int} (hlo : -2 ^ 31 ≤ ttl) (hhi : ttl < 2 ^ 31)
    (h : ttlSeconds env (dumpText grisu2 (.obj [(str "ttl_seconds", .int ttl)])) = .ok granted) :
    granted = ttl := by
  have hutf : (Json.obj [(str "ttl_seconds", .int ttl)]).utf8 = true := by
    have hkey : Utf8.valid (str "ttl_seconds") = true := by decide
    simp [hkey]
  have hrange : (Json.obj [(str "ttl_seconds", .int ttl)]).InRange :=
    ⟨⟨by omega, by omega⟩, trivial⟩
  have hread : env.parse (dumpText grisu2 (.obj [(str "ttl_seconds", .int ttl)])) =
      some (.obj [(str "ttl_seconds", .int ttl)]) := by
    rw [hparse, parse_dumpText hg hutf hrange, Json.stored, Json.storedMembers,
      Json.storedMembers]
    rfl
  have hget : (Json.obj [(str "ttl_seconds", .int ttl)]).get? (str "ttl_seconds") =
      some (.int ttl) := rfl
  have hint : toInt32 ttl = ttl := by
    unfold toInt32
    omega
  simp only [ttlSeconds, if_neg (dumpText_ne_nil hg hutf hrange), hread, hget, hint] at h
  split_ifs at h
  exact (Except.ok.inj h).symm

/-- What a call of `acquire_lock` that returns has done. -/
theorem table_of_acquireLock (hg : Grisu2Correct grisu2)
    (hlocal : S.findProxy p.text = none) {ttl : Int} (hlo : -2 ^ 31 ≤ ttl) (hhi : ttl < 2 ^ 31)
    (hroute : ¬ (ClientCall.acquireLock ttl).Misrouted p)
    (hparse : ∀ turn ∈ w.turns, turn.env.parse = parseJson) {retry : RetryPolicy} {j : Json}
    {w' : SovdClient.Session σ}
    (h : (ClientCall.acquireLock ttl).perform S grisu2 p retry w = (.ok j, w')) :
    ∃ n, ∃ turn ∈ w.turns, j = grantedLock (LockManager.lockIdOf n) ttl ∧
      w'.server.world.locks.table p.text = some
        ⟨LockManager.lockIdOf n, turn.env.later + seconds (min ttl kMaxLockTtlSeconds)⟩ := by
  have hline : ((ClientCall.acquireLock ttl).call p.text).OneLine := by
    show ¬ crlf <:+: []
    decide
  have hends := call_ends hg (S := S) hroute hline retry w
  rw [h] at hends
  dsimp only at hends
  generalize w'.server = t at hends ⊢
  -- it returned, so the last attempt was answered
  cases hends with
  | unwritten hbody hstate hresult => cases hresult
  | unanswered hn hretried hlost hrun hes hresult hstatus => cases hresult
  | unread hread hrun hes hresult hstatus => cases hresult
  | answered hn hretried hfinal hrun hes hturn hcarries hread hstep hreports hresult =>
    rename_i n v es s turn remote reply outcome
    obtain rfl := ok_of_mapError hresult.symm
    have hrouted : Routed remote .postLock p.text [] := hcarries.routed
    have hsuccess := hreports.success j rfl
    obtain ⟨res, res', rfl, hres', hstatus, hbody, hlt, rfl⟩ :=
      run_of_success hrouted (by decide) (by decide) hstep hsuccess
    obtain ⟨n, granted, hgranted, h201, hdocument, htable⟩ :=
      handlePostLock_created hlocal hres' (by omega)
    have hpositive := ttlSeconds_pos hgranted
    rw [hcarries.body] at hgranted
    -- the server reads the TTL that was sent
    obtain rfl := ttlSeconds_sent hg (hparse turn hturn) hlo hhi hgranted
    refine ⟨n, turn, hturn, ?_, htable⟩
    -- the document of the grant comes through as it is
    have hutf : (grantedLock (LockManager.lockIdOf n) granted).utf8 = true := by
      have hkeys : Utf8.valid (str "lock_id") = true ∧ Utf8.valid (str "ttl_seconds") = true := by
        decide
      simp [grantedLock, utf8_lockIdOf, hkeys]
    have hrange : (grantedLock (LockManager.lockIdOf n) granted).InRange := by
      refine ⟨trivial, ⟨?_, ?_⟩, trivial⟩ <;> unfold kMaxLockTtlSeconds <;> omega
    have hreturned := hreports.document res _ rfl (hbody ▸ hdocument) (by omega) hutf hrange
      hsuccess
    rw [received_grantedLock] at hreturned
    exact Except.ok.inj hreturned

/-- **Whose `acquire_lock` returned has the entity for himself**, if it is a local one: until the
lock he was given runs out, or a PUT or DELETE of it comes in, every call that would change
something there and shows another lock or none throws, however often it is tried and whatever
else happens at the server. -/
theorem acquired_lock_excludes (hg : Grisu2Correct grisu2) (hlocal : S.findProxy p.text = none)
    {ttl : Int} (hlo : -2 ^ 31 ≤ ttl) (hhi : ttl < 2 ^ 31)
    (hroute : ¬ (ClientCall.acquireLock ttl).Misrouted p)
    (hparse : ∀ turn ∈ w.turns, turn.env.parse = parseJson) {retry : RetryPolicy} {j : Json}
    {w' : SovdClient.Session σ}
    (h : (ClientCall.acquireLock ttl).perform S grisu2 p retry w = (.ok j, w')) :
    ∃ lockId, (j.get? (str "lock_id")).bind Json.getString? = some lockId ∧
      ∃ turn ∈ w.turns, ∃ expires, expires = turn.env.later + seconds (min ttl kMaxLockTtlSeconds) ∧
        ∀ (es : List (HttpEvent σ)) (v : SovdClient.Session σ),
          (httpLts S).Run w'.server es v.server →
          (∀ e ∈ es, e.Before expires ∧ ¬ e.EndsLock p.text lockId) →
          v.Leaves p.text ⟨lockId, expires⟩ →
          ∀ c : ClientCall, ¬ c.Misrouted p → (c.call p.text).OneLine →
            c.handler.demand = .scope (str "execute:routines") → c.presented ≠ some lockId →
            ∀ retry : RetryPolicy, ∃ e, (c.perform S grisu2 p retry v).1 = .error e := by
  obtain ⟨n, turn, hturn, rfl, htable⟩ := table_of_acquireLock hg hlocal hlo hhi hroute hparse h
  refine ⟨LockManager.lockIdOf n, rfl, turn, hturn, _, rfl, ?_⟩
  intro es v hrun hkeep hleaves c hc hline hexec hother retry
  have hheld := table_of_run hrun htable hkeep
  exact (call_kept_out hg hlocal hheld hleaves hc hline hexec hother retry).1

end

namespace TwoClients

def env : ServerEnv where
  ssl := { hmacSha256 := fun _ _ => [], encodeBlock := fun _ => [], decodeBlock := fun _ => none }
  parse := parseJson

/-- The first client. -/
def first : SovdClient.Session Unit := { server := HeldLock.start, turns := [{ env }] }

/-- What comes of his call. -/
def locked : Except ClientFailure Json × SovdClient.Session Unit :=
  (ClientCall.acquireLock 60).perform HeldLock.server allDigits ecu {} first

/-- The second client, who has no lock. -/
def second (s : ServerState Unit) : SovdClient.Session Unit :=
  { server := s, turns := [{ env }, { env }] }

theorem leaves_second (s : ServerState Unit) (lockId : Bytes) :
    (second s).Leaves ecu.text ⟨lockId, env.later + seconds (min 60 kMaxLockTtlSeconds)⟩ := by
  intro turn hturn
  have hbefore : env.now < env.later + seconds (min 60 kMaxLockTtlSeconds) := by decide
  obtain rfl : turn = { env } := by simpa [second] using hturn
  exact ⟨hbefore, fun o ho => absurd ho List.not_mem_nil⟩

end TwoClients

open TwoClients in
/-- The first client has the lock, and the second cannot clear the faults. -/
theorem second_client_excluded :
    ∃ e, ((ClientCall.clearFaults []).perform HeldLock.server allDigits ecu {}
      (second locked.2.server)).1 = .error e := by
  have hid : (locked.1.toOption.bind fun j => (j.get? (str "lock_id")).bind Json.getString?) =
      some (str "lock-1") := by decide +kernel
  have hparse : ∀ turn ∈ first.turns, turn.env.parse = parseJson := by
    intro turn hturn
    obtain rfl := List.mem_singleton.mp hturn
    rfl
  have hroute : ¬ ecu.HasInner (str "operations") := by decide
  have hcall : (ClientCall.acquireLock 60).perform HeldLock.server allDigits ecu {} first =
      locked := rfl
  generalize locked = out at hid hcall ⊢
  obtain ⟨result, w'⟩ := out
  cases result with
  | error e => cases hid
  | ok j =>
    obtain ⟨lockId, hlockId, turn, hturn, expires, rfl, hexcludes⟩ :=
      acquired_lock_excludes (p := ecu) (S := HeldLock.server) allDigits_correct (by decide)
        (by decide) (by decide) hroute hparse hcall
    obtain rfl := List.mem_singleton.mp hturn
    obtain rfl : lockId = str "lock-1" := Option.some.inj (hlockId.symm.trans hid)
    have hrun : (httpLts HeldLock.server).Run w'.server [] (second w'.server).server := rfl
    exact hexcludes [] (second w'.server) hrun (fun e he => absurd he List.not_mem_nil)
      (leaves_second _ _) (.clearFaults []) id (by decide) rfl (by decide) {}

/-! ## Data -/

section

variable {S : HttpServer MockFleet} {grisu2 : Rat → Bytes × Int} {p : EntityPath} {x y : Word}
  {w w' v v' : SovdClient.Session MockFleet}

end

namespace TwoDrivers

/-- The DID with a marker. -/
def spelled : Word := ⟨str "0xf190", by decide, by decide +kernel⟩

/-- The DID without a marker. -/
def compact : Word := ⟨str "F190", by decide, by decide +kernel⟩

def value : Json := .str (str "32c8")

/-- Who puts. -/
def writer : SovdClient.Session MockFleet :=
  { server := OneMock.started, turns := [{ env := TwoClients.env }] }

/-- What comes of it. -/
def written : Except ClientFailure Json × SovdClient.Session MockFleet :=
  (ClientCall.putData spelled value []).perform OneMock.server allDigits ecu {} writer

/-- Who gets, after somebody has cleared the faults. -/
def reader (s : ServerState MockFleet) : SovdClient.Session MockFleet :=
  { server := s
    turns := [{ others := [.request TwoClients.env OneMock.clear], env := TwoClients.env }] }

/-- What comes of that. -/
def read (s : ServerState MockFleet) : Except ClientFailure Json × SovdClient.Session MockFleet :=
  (ClientCall.getData compact).perform OneMock.server allDigits ecu {} (reader s)

end TwoDrivers

end Sovd
