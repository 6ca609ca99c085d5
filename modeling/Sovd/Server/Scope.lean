import Sovd.Server.Oauth2
import Sovd.Server.Routes
import Sovd.Server.World

/-!
# The scope table and the route table

`check_oauth2` looks the scope of a request up in a table of its own, before the
request is dispatched. The two tables hold the same patterns, but each in its
order, and the scope table lists the methods by name. So the scope that is
checked is the scope of the handler that runs only as far as the two agree.

They part in two places (`Unscoped`): a HEAD request is dispatched as a GET but
is in no row of the scope table, and the scope table tries `…/docs`, which takes
any token, before the data items, of which one may well end in `/docs`.
`scope_enforced_iff` says that everywhere else the scope of the handler is
enforced, and that in these two places it is not: there any valid token will do.

`requiredScope_of_handler` is the comparison of the tables, one case a handler;
where the orders differ, `underEntity_disjoint` says that the rows in between
match nothing.
-/

namespace Sovd

open Wildcard

/-! ## The scope table -/

/-- One row of the scope table. -/
structure ScopedRoute where
  method : Bytes
  pattern : Pattern
  requiredScope : Option Bytes

/-- `oauth2_scope_table` -/
def oauth2ScopeTable : List ScopedRoute :=
  [⟨str "GET", .entities, none⟩,
    ⟨str "GET", .docs, none⟩,
    ⟨str "GET", .faults, some (str "read:faults")⟩,
    ⟨str "DELETE", .faults, some (str "execute:routines")⟩,
    ⟨str "GET", .data, some (str "read:data")⟩,
    ⟨str "POST", .streamTicket, some (str "read:data")⟩,
    ⟨str "GET", .dataItem, some (str "read:data")⟩,
    ⟨str "PUT", .dataItem, some (str "execute:routines")⟩,
    ⟨str "POST", .modes, some (str "execute:routines")⟩,
    ⟨str "POST", .operation, some (str "execute:routines")⟩,
    ⟨str "POST", .locks, some (str "execute:routines")⟩,
    ⟨str "PUT", .lock, some (str "execute:routines")⟩,
    ⟨str "DELETE", .lock, some (str "execute:routines")⟩]

/-- The scope of the first row that fits; a request that fits none needs a token only. -/
def requiredScope (method path : Bytes) : Option Bytes :=
  (oauth2ScopeTable.find? fun r => r.method == method && isMatch r.pattern path).bind
    ScopedRoute.requiredScope

/-- What a token is worth to a request. -/
inductive OAuth2Result
  | ok
  | unauthorized
  | forbidden
  deriving DecidableEq, Repr

/-- The claims of the token a header carries, if the token is valid. -/
def tokenClaims (env : Env) (secret authHeader : Bytes) : Option TokenClaims :=
  Oauth2.bearerClaims env.ssl env.parse env.nowSeconds secret authHeader

/-- `check_oauth2`: the root and streams need no token here. -/
def checkOauth2 (env : Env) (secret method path authHeader : Bytes) : OAuth2Result :=
  if path = str "/" then .ok
  else if method = str "GET" ∧ isMatch Pattern.stream path then .ok
  else
    match tokenClaims env secret authHeader with
    | none => .unauthorized
    | some claims =>
      match requiredScope method path with
      | some scope => if claims.hasScope scope then .ok else .forbidden
      | none => .ok

/-! ## What the documentation asks for -/

/-- What a handler is meant to ask for. -/
inductive Demand
  | nothing
  | token
  | scope (s : Bytes)
  deriving DecidableEq

/-- The stream handler checks for itself; the root is open to everyone. -/
def Handler.demand : Handler → Demand
  | root => .nothing
  | streamData => .nothing
  | listEntities => .token
  | getDocs => .token
  | getFaults => .scope (str "read:faults")
  | getDataBatch => .scope (str "read:data")
  | getData => .scope (str "read:data")
  | postStreamTicket => .scope (str "read:data")
  | clearFaults => .scope (str "execute:routines")
  | putData => .scope (str "execute:routines")
  | postMode => .scope (str "execute:routines")
  | postOperation => .scope (str "execute:routines")
  | postLock => .scope (str "execute:routines")
  | putLock => .scope (str "execute:routines")
  | deleteLock => .scope (str "execute:routines")

/-- The header satisfies the demand. -/
def Meets (env : Env) (secret authHeader : Bytes) : Demand → Prop
  | .nothing => True
  | .token => ∃ claims, tokenClaims env secret authHeader = some claims
  | .scope s => ∃ claims, tokenClaims env secret authHeader = some claims ∧ claims.hasScope s = true

/-- A request that is let through to a handler meets what the handler demands. -/
def ScopeEnforced (env : Env) (secret method path authHeader : Bytes) : Prop :=
  path ≠ str "/" → checkOauth2 env secret method path authHeader = .ok →
    ∀ h, handlerFor method path = some h → Meets env secret authHeader h.demand

/-! ## Where the tables part -/

/-- A request the scope table has no scope for, whatever handler it goes to. -/
def Unscoped (method path : Bytes) : Prop :=
  method = str "HEAD" ∨ (method = str "GET" ∧ isMatch Pattern.docs path = true)

/-- The rows of one method. -/
def scopesFor (method : Bytes) : List ScopedRoute :=
  oauth2ScopeTable.filter fun r => r.method == method

/-- The scope is that of the first row of the method that matches. -/
theorem requiredScope_eq (method path : Bytes) :
    requiredScope method path =
      ((scopesFor method).find? fun r => isMatch r.pattern path).bind
        ScopedRoute.requiredScope := by
  rw [requiredScope, scopesFor, List.find?_filter]
  simp only [Bool.decide_and, Bool.decide_eq_true]

/-- The rows a GET goes through. -/
theorem scopesFor_get : scopesFor (str "GET") =
    [⟨str "GET", .entities, none⟩, ⟨str "GET", .docs, none⟩,
      ⟨str "GET", .faults, some (str "read:faults")⟩, ⟨str "GET", .data, some (str "read:data")⟩,
      ⟨str "GET", .dataItem, some (str "read:data")⟩] := rfl

/-- The rows a POST goes through. -/
theorem scopesFor_post : scopesFor (str "POST") =
    [⟨str "POST", .streamTicket, some (str "read:data")⟩,
      ⟨str "POST", .modes, some (str "execute:routines")⟩,
      ⟨str "POST", .operation, some (str "execute:routines")⟩,
      ⟨str "POST", .locks, some (str "execute:routines")⟩] := rfl

/-- The rows a PUT goes through. -/
theorem scopesFor_put : scopesFor (str "PUT") =
    [⟨str "PUT", .dataItem, some (str "execute:routines")⟩,
      ⟨str "PUT", .lock, some (str "execute:routines")⟩] := rfl

/-- The rows a DELETE goes through. -/
theorem scopesFor_delete : scopesFor (str "DELETE") =
    [⟨str "DELETE", .faults, some (str "execute:routines")⟩,
      ⟨str "DELETE", .lock, some (str "execute:routines")⟩] := rfl

/-- A request without a row needs no scope. -/
theorem requiredScope_of_unscoped {method path : Bytes} (h : Unscoped method path) :
    requiredScope method path = none := by
  rw [requiredScope_eq]
  rcases h with rfl | ⟨rfl, hdocs⟩
  · rfl
  · rw [scopesFor_get]
    -- the row of `…/docs` has no scope, and neither has the one row before it
    cases hent : isMatch Pattern.entities path with
    | true => simp [hent]
    | false => simp [hent, hdocs]

/-- The root is one path only. -/
theorem root_of_ne {path : Bytes} (h : path ≠ str "/") : isMatch Pattern.root path = false := by
  rw [Bool.eq_false_iff]
  intro hm
  exact h (isMatch_last.mp hm)

/-- GET: the order differs only in where the docs stand. -/
theorem get_scope {path s : Bytes} {h : Handler} (hroot : path ≠ str "/")
    (hdocs : isMatch Pattern.docs path = false) (hh : handlerFor (str "GET") path = some h)
    (hs : h.demand = .scope s) : requiredScope (str "GET") path = some s := by
  have htable : handlersFor (str "GET") = getHandlers := rfl
  have hroot := root_of_ne hroot
  rw [handlerFor, htable, getHandlers] at hh
  rw [requiredScope_eq, scopesFor_get]
  -- down the route table; at the first match the scope table is at the same row
  cases hent : isMatch Pattern.entities path with
  | true =>
    obtain rfl : Handler.listEntities = h := by simpa [hroot, hent] using hh
    cases hs
  | false =>
    cases hfaults : isMatch Pattern.faults path with
    | true =>
      obtain rfl : Handler.getFaults = h := by simpa [hroot, hent, hfaults] using hh
      simpa [hent, hdocs, hfaults] using Demand.scope.inj hs
    | false =>
      cases hdata : isMatch Pattern.data path with
      | true =>
        obtain rfl : Handler.getDataBatch = h := by simpa [hroot, hent, hfaults, hdata] using hh
        simpa [hent, hdocs, hfaults, hdata] using Demand.scope.inj hs
      | false =>
        cases hstream : isMatch Pattern.stream path with
        | true =>
          obtain rfl : Handler.streamData = h := by
            simpa [hroot, hent, hfaults, hdata, hstream] using hh
          cases hs
        | false =>
          cases hitem : isMatch Pattern.dataItem path with
          | true =>
            obtain rfl : Handler.getData = h := by
              simpa [hroot, hent, hfaults, hdata, hstream, hitem] using hh
            simpa [hent, hdocs, hfaults, hdata, hitem] using Demand.scope.inj hs
          | false => simp [hroot, hent, hfaults, hdata, hstream, hitem, hdocs] at hh

/-- The methods other than GET have the same order in both tables: where each row
of the one has the scope of the row of the other, so have the first that match. -/
theorem find_scope {rows : List (Pattern × Handler)} {scopes : List ScopedRoute} {path s : Bytes}
    {h : Handler}
    (hrows : List.Forall₂ (fun r t => r.1 = t.pattern ∧
      ∀ s, r.2.demand = .scope s → t.requiredScope = some s) rows scopes)
    (hh : (rows.find? fun r => isMatch r.1 path).map Prod.snd = some h)
    (hs : h.demand = .scope s) :
    (scopes.find? fun t => isMatch t.pattern path).bind ScopedRoute.requiredScope = some s := by
  induction hrows with
  | nil => simp at hh
  | cons hrow _ ih =>
    obtain ⟨hpattern, hscope⟩ := hrow
    rw [List.find?_cons] at hh ⊢
    rw [← hpattern]
    split at hh
    next =>
      obtain rfl := Option.some.inj hh
      exact hscope s hs
    next => exact ih hh

/-- **The tables compared**: outside the two places, a handler with a scope is
reached through a row with that scope. -/
theorem requiredScope_of_handler {method path s : Bytes} {h : Handler}
    (hroot : path ≠ str "/") (hun : ¬ Unscoped method path)
    (hh : handlerFor method path = some h) (hs : h.demand = .scope s) :
    requiredScope method path = some s := by
  -- a HEAD would be dispatched as a GET; it is one of the two places
  by_cases hget : method = str "GET"
  · subst hget
    refine get_scope hroot ?_ hh hs
    exact eq_false_of_ne_true fun hdocs => hun (.inr ⟨rfl, hdocs⟩)
  rw [requiredScope_eq]
  unfold handlerFor handlersFor at hh
  rw [if_neg fun h => h.elim hget fun hhead => hun (.inl hhead)] at hh
  split_ifs at hh with hpost hput hdelete
  · rw [hpost, scopesFor_post]
    exact find_scope (by simp [postHandlers, Handler.demand]) hh hs
  · rw [hput, scopesFor_put]
    exact find_scope (by simp [putHandlers, Handler.demand]) hh hs
  · rw [hdelete, scopesFor_delete]
    exact find_scope (by simp [deleteHandlers, Handler.demand]) hh hs
  · cases hh

/-- The stream is let through unchecked, and goes to its own handler. -/
theorem stream_handler {path : Bytes} (hroot : path ≠ str "/")
    (h : isMatch Pattern.stream path = true) :
    handlerFor (str "GET") path = some .streamData := by
  have htable : handlersFor (str "GET") = getHandlers := rfl
  have hfaults : isMatch Pattern.faults path = false :=
    underEntity_disjoint [.lit (str "/data/"), Pattern.any] [] h (by decide) (by decide)
  have hdata : isMatch Pattern.data path = false :=
    underEntity_disjoint [.lit (str "/data/"), Pattern.any] [] h (by decide) (by decide)
  rw [handlerFor, htable, getHandlers]
  simp [root_of_ne hroot, entities_of_underEntity h, hfaults, hdata, h]

/-! ## What is enforced -/

section

variable {env : Env} {secret method path authHeader : Bytes}

/-- Away from the two open paths, the check asks for a token and for the scope of the table. -/
theorem checkOauth2_eq_ok (hroot : path ≠ str "/")
    (hstream : ¬ (method = str "GET" ∧ isMatch Pattern.stream path = true)) :
    checkOauth2 env secret method path authHeader = .ok ↔
      ∃ claims, tokenClaims env secret authHeader = some claims ∧
        ∀ s, requiredScope method path = some s → claims.hasScope s = true := by
  rw [checkOauth2, if_neg hroot, if_neg hstream]
  cases tokenClaims env secret authHeader with
  | none => simp
  | some claims =>
    cases requiredScope method path with
    | none => simp
    | some scope => simp

/-- **The scope that is enforced** is the scope of the handler that runs, except
that a request the scope table knows no scope for needs only a token: there the
handler's scope is enforced just in so far as every valid token has it. -/
theorem scope_enforced_iff :
    ScopeEnforced env secret method path authHeader ↔
      (path ≠ str "/" → Unscoped method path → ∀ h s, handlerFor method path = some h →
        h.demand = .scope s → ∀ claims, tokenClaims env secret authHeader = some claims →
          claims.hasScope s = true) := by
  constructor
  · intro hok hroot hun h s hh hs claims hclaims
    have hstream : ¬ (method = str "GET" ∧ isMatch Pattern.stream path = true) := by
      intro h
      obtain ⟨rfl, hm⟩ := h
      obtain rfl := Option.some.inj (hh.symm.trans (stream_handler hroot hm))
      cases hs
    have hcheck : checkOauth2 env secret method path authHeader = .ok :=
      (checkOauth2_eq_ok hroot hstream).mpr
        ⟨claims, hclaims, by simp [requiredScope_of_unscoped hun]⟩
    have hmeets := hok hroot hcheck h hh
    rw [hs] at hmeets
    obtain ⟨claims', hclaims', hscope⟩ := hmeets
    obtain rfl := Option.some.inj (hclaims.symm.trans hclaims')
    exact hscope
  · intro hcond hroot hcheck h hh
    -- the stream is let through unchecked, and its handler demands nothing of this check
    by_cases hstream : method = str "GET" ∧ isMatch Pattern.stream path = true
    · obtain ⟨rfl, hm⟩ := hstream
      obtain rfl := Option.some.inj (hh.symm.trans (stream_handler hroot hm))
      trivial
    · obtain ⟨claims, hclaims, hscope⟩ := (checkOauth2_eq_ok hroot hstream).mp hcheck
      cases hs : h.demand with
      | nothing => trivial
      | token => exact ⟨claims, hclaims⟩
      | scope s =>
        refine ⟨claims, hclaims, ?_⟩
        by_cases hun : Unscoped method path
        · exact hcond hroot hun h s hh hs claims hclaims
        · exact hscope s (requiredScope_of_handler hroot hun hh hs)

end

/-! ## A token without a scope -/

namespace AnyToken

/-- `{"alg":"HS256","typ":"JWT"}`, encoded. -/
def header : Bytes := str "eyJhbGciOiJIUzI1NiIsInR5cCI6IkpXVCJ9"

/-- `{"exp":4102444800,"scopes":[]}`, encoded. -/
def payload : Bytes := str "eyJleHAiOjQxMDI0NDQ4MDAsInNjb3BlcyI6W119"

/-- Their HMAC under `test-secret`. -/
def mac : Bytes :=
  [202, 50, 3, 233, 191, 237, 93, 188, 208, 107, 30, 88, 126, 19, 142, 25, 236, 46, 120, 219, 184,
    240, 48, 190, 5, 217, 147, 39, 171, 45, 161, 248]

def headerText : Bytes := str "\x7b\"alg\":\"HS256\",\"typ\":\"JWT\"\x7d"

def payloadText : Bytes := str "\x7b\"exp\":4102444800,\"scopes\":[]\x7d"

/-- OpenSSL and the parser, on the texts of this one token. -/
def env : Env where
  ssl :=
    { hmacSha256 := fun secret data =>
        if secret = str "test-secret" ∧ data = header ++ str "." ++ payload then mac else []
      encodeBlock := fun data =>
        if data = mac then str "yjID6b/tXbzQax5YfhOOGewueNu48DC+BdmTJ6stofg=" else []
      decodeBlock := fun text =>
        if text = header then some headerText
        else if text = payload then some payloadText
        else none }
  parse := fun text =>
    if text = headerText then
      some (.obj [(str "alg", .str (str "HS256")), (str "typ", .str (str "JWT"))])
    else if text = payloadText then
      some (.obj [(str "exp", .int 4102444800), (str "scopes", .arr [])])
    else none
  nowSeconds := 1700000000

/-- A token without scopes, signed with the secret. -/
def authHeader : Bytes :=
  str "Bearer " ++ header ++ str "." ++ payload ++
    str ".yjID6b_tXbzQax5YfhOOGewueNu48DC-BdmTJ6stofg"

/-- It is valid. -/
theorem tokenClaims_eq :
    tokenClaims env (str "test-secret") authHeader = some ⟨[], 4102444800⟩ := by
  decide +kernel

/-- No scope at all, and let through to a handler that demands one. -/
theorem not_enforced {method path s : Bytes} {h : Handler} (hroot : path ≠ str "/")
    (hcheck : checkOauth2 env (str "test-secret") method path authHeader = .ok)
    (hh : handlerFor method path = some h) (hs : h.demand = .scope s) :
    ¬ ScopeEnforced env (str "test-secret") method path authHeader := by
  intro henforced
  have hmeets := henforced hroot hcheck h hh
  rw [hs] at hmeets
  obtain ⟨claims, hclaims, hscope⟩ := hmeets
  rw [tokenClaims_eq] at hclaims
  obtain rfl := Option.some.inj hclaims
  cases hscope

end AnyToken

open AnyToken in
/-- HEAD on the faults, and GET of a data item whose id ends in `/docs`. -/
theorem any_token_will_do :
    ¬ ScopeEnforced env (str "test-secret") (str "HEAD") (str "/v1/entities/ecu/faults")
        authHeader ∧
      ¬ ScopeEnforced env (str "test-secret") (str "GET") (str "/v1/entities/ecu/data/vin/docs")
        authHeader :=
  ⟨not_enforced (h := .getFaults) (by decide) (by decide +kernel) (by decide +kernel) rfl,
    not_enforced (h := .getData) (by decide) (by decide +kernel) (by decide +kernel) rfl⟩

end Sovd
