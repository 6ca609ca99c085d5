import Sovd.Server.Handlers

/-!
# The write policy of a catalog, and the spellings that slip past it

A catalog restricts who may write a data item: an item of access `read` is never
written, and one that requires a security level is written only under a token
with the scope `execute:security_access`. The ECU knows DIDs, not items, so the
policy has to hold of the DID that is written, whatever the request called it.

`handle_put_data` looks the item up by the text of the request, and only that
item's restrictions are checked. The adapter reads a number out of the DID text
it is handed. So there are two ways round the policy (`Alias`): a text that is
no item's id but reads as the DID of a restricted item, and an item that shares
its DID with a restricted one. `write_policy` says that there is no third: the
policy holds of a request exactly when the request does not get as far as the
write, or the text it gives is no alias of an item restricted for it.

The argument is one rule of `Acts`: what is written is named by `didText`, which
is four hex digits the adapter reads back (`parseHexU16_toHexU16`), or the text
of the request up to its first NUL.
-/

namespace Sovd

variable {σ : Type}

/-! ## The policy, in terms of DIDs -/

/-- The request carries a valid bearer token with this scope. -/
def TokenCarries (R : Router σ) (env : Env) (req : Request) (scope : Bytes) : Prop :=
  ∃ claims, Oauth2.bearerClaims env.ssl env.parse env.nowSeconds R.oauth2Secret
    (headerValue req.headers (str "Authorization")) = some claims ∧ claims.hasScope scope = true

/-- With a secret configured, `has_oauth2_scope` asks for a token. -/
theorem hasOauth2Scope_iff {R : Router σ} {env : Env} {req : Request} {scope : Bytes}
    (hs : R.oauth2Secret ≠ []) :
    R.hasOauth2Scope env req scope = true ↔ TokenCarries R env req scope := by
  rw [Router.hasOauth2Scope, if_neg hs, TokenCarries]
  cases Oauth2.bearerClaims env.ssl env.parse env.nowSeconds R.oauth2Secret
      (headerValue req.headers (str "Authorization")) with
  | none => simp
  | some claims => simp

/-- This request may write the item. -/
def MayWrite (R : Router σ) (env : Env) (req : Request) (i : DataItem) : Prop :=
  i.access ≠ .read ∧
    (i.requiresSecurityLevel ≠ none → TokenCarries R env req (str "execute:security_access"))

/-- What the handler checks of an item is whether the request may write it. -/
theorem mayWrite_iff {R : Router σ} {env : Env} {req : Request} {i : DataItem}
    (hs : R.oauth2Secret ≠ []) :
    MayWrite R env req i ↔ readOnly i = false ∧ scopeDenied R env req i = false := by
  have hread : i.access ≠ .read ↔ readOnly i = false := by
    rw [readOnly, beq_eq_false_iff_ne]
  have hscope : (i.requiresSecurityLevel ≠ none →
      TokenCarries R env req (str "execute:security_access")) ↔
      scopeDenied R env req i = false := by
    rw [← hasOauth2Scope_iff hs, scopeDenied]
    cases hl : i.requiresSecurityLevel with
    | none => simp
    | some level => simp
  rw [MayWrite, hread, hscope]

/-- **The policy**: whatever DID a write of this request reads as, the request
may write every item of the catalog that has it. -/
def WritePolicy (R : Router σ) (env : Env) (req : Request) (path idOrDid : Bytes) (w : World σ)
    (c : Catalog) : Prop :=
  ∀ p did data r, (handlePutData R env req path idOrDid w).1.calls =
      w.calls ++ [.writeData p did data r] →
    ∀ d, parseHexU16 did = some d → ∀ i ∈ c.data, i.did = d → MayWrite R env req i

/-! ## When the handler keeps it -/

/-- All that `handle_put_data` asks for before it writes. -/
structure ReachesWrite (R : Router σ) (env : Env) (req : Request) (path idOrDid : Bytes)
    (w : World σ) (c : Catalog) : Prop where
  backend : ∃ f, GetsTo R path Vtable.writeData f
  lock : checkLockHeader env req path w.locks = true
  item : ∀ i, c.findById idOrDid = some i → MayWrite R env req i
  body : ∃ bytes, putDataBytes env (c.findById idOrDid) req.body = .ok bytes

/-- The text reaches the DID of `j`, but it is not `j` that the handler looks at. -/
inductive Alias (c : Catalog) (idOrDid : Bytes) (j : DataItem) : Prop
  | raw (h : c.findById idOrDid = none) (hd : parseHexU16 (cStr idOrDid) = some j.did)
  | twin {i : DataItem} (h : c.findById idOrDid = some i) (hd : i.did = j.did)

/-- The DID text handed to the adapter reads as `d` exactly for the aliases of
the items with that DID. -/
theorem alias_iff {c : Catalog} {idOrDid : Bytes} {j : DataItem} :
    Alias c idOrDid j ↔
      parseHexU16 (cStr (didText (c.findById idOrDid) idOrDid)) = some j.did := by
  cases hi : c.findById idOrDid with
  | none =>
    refine ⟨fun h => ?_, fun h => .raw hi h⟩
    cases h with
    | raw _ hd => exact hd
    | twin h => exact absurd (hi.symm.trans h) (by simp)
  | some i =>
    show _ ↔ parseHexU16 (cStr (toHexU16 i.did)) = some j.did
    rw [cStr_toHexU16, parseHexU16_toHexU16, Option.some_inj]
    refine ⟨fun h => ?_, fun h => .twin hi h⟩
    cases h with
    | raw h => exact absurd (hi.symm.trans h) (by simp)
    | twin h hd => rwa [Option.some.inj (hi.symm.trans h)]

section

variable {R : Router σ} {env : Env} {req : Request} {path idOrDid : Bytes} {w : World σ}
  {c : Catalog}

theorem findItem_attached (hc : R.findCatalog path = some c) :
    findItem (R.findCatalog path) idOrDid = c.findById idOrDid := by rw [hc, findItem, Option.bind]

/-- A request that reaches the write makes one, of the DID text it gave. -/
theorem writes_of_reaches (hs : R.oauth2Secret ≠ []) (hc : R.findCatalog path = some c)
    (h : ReachesWrite R env req path idOrDid w c) :
    ∃ data r, (handlePutData R env req path idOrDid w).1.calls =
      w.calls ++ [.writeData (cStr path) (cStr (didText (c.findById idOrDid) idOrDid)) data r] := by
  obtain ⟨f, hf⟩ := h.backend
  obtain ⟨bytes, hb⟩ := h.body
  have hacts : Acts R env req path (correlationIdFor env req {}).1 w.adapter (.putData idOrDid) _ :=
    .putData hf (findItem_attached hc) (fun i hi => (mayWrite_iff hs).mp (h.item i hi)) hb rfl
  exact ⟨bytes, _, (acts_reported h.lock hacts).calls⟩

/-- What the handler writes, it was asked to write by a request that reaches the write. -/
theorem reaches_of_writes (hs : R.oauth2Secret ≠ []) (hc : R.findCatalog path = some c)
    {p did data : Bytes} {r : SovdResult}
    (h : (handlePutData R env req path idOrDid w).1.calls = w.calls ++ [.writeData p did data r]) :
    ReachesWrite R env req path idOrDid w c ∧
      did = cStr (didText (c.findById idOrDid) idOrDid) := by
  have hne : (GatedHandler.handle R env req path (.putData idOrDid) w).1.calls ≠ w.calls := by
    rw [GatedHandler.handle, h]
    simp
  obtain ⟨hlock, a, ha⟩ := acts_of_calls hne
  have hcall : AdapterCall.writeData p did data r = a.call := by
    simpa using List.append_cancel_left (h.symm.trans (acts_reported hlock ha).calls)
  cases ha with
  | putData hf hitem hw hb hr =>
    rw [findItem_attached hc] at hitem
    subst hitem
    refine ⟨⟨⟨_, hf⟩, hlock, fun i hi => (mayWrite_iff hs).mpr (hw i hi), _, hb⟩, ?_⟩
    exact (AdapterCall.writeData.inj hcall).2.1

/-- **The policy and its two gaps.** The handler keeps the policy of the
attached catalog for a request exactly when the request does not reach the
write, or its text is no alias of an item it may not write. -/
theorem write_policy (hs : R.oauth2Secret ≠ []) (hc : R.findCatalog path = some c) :
    WritePolicy R env req path idOrDid w c ↔
      (ReachesWrite R env req path idOrDid w c →
        ∀ j ∈ c.data, Alias c idOrDid j → MayWrite R env req j) := by
  constructor
  · intro h hreach j hj halias
    obtain ⟨data, r, hcalls⟩ := writes_of_reaches hs hc hreach
    exact h _ _ data r hcalls j.did (alias_iff.mp halias) j hj rfl
  · intro h p did data r hcalls d hd j hj hjd
    obtain ⟨hreach, rfl⟩ := reaches_of_writes hs hc hcalls
    subst hjd
    exact h hreach j hj (alias_iff.mpr hd)

end

/-! ## A read-only item written under its DID -/

namespace PutByDid

/-- The vehicle identification number: read-only, DID F190. -/
def vin : DataItem := { id := str "vin", did := 0xF190, type := .string }

/-- A backend that accepts every write. -/
def backend : Vtable Unit := { writeData := some fun s _ _ _ => (.ok, s) }

def router : Router Unit where
  entities := [{ path := str "ecu", vtable := some backend }]
  catalogs := [(str "ecu", { data := [vin] })]
  oauth2Secret := str "secret"

/-- No token library, and a parser that knows the one body below. -/
def env : Env where
  ssl := { hmacSha256 := fun _ _ => [], encodeBlock := fun _ => [], decodeBlock := fun _ => none }
  parse := fun text =>
    if text = str "\x7b\"value\":\"00\"\x7d" then some (.obj [(str "value", .str (str "00"))])
    else none

/-- The item by another name. -/
def request : Request :=
  { method := str "PUT", path := str "/v1/entities/ecu/data/0xf190",
    body := str "\x7b\"value\":\"00\"\x7d" }

def world : World Unit := { adapter := () }

/-- Its item cannot be written. -/
def catalog : Catalog := { data := [vin] }

end PutByDid

open PutByDid in
/-- Under its catalog id the item is safe. -/
theorem write_policy_by_id :
    WritePolicy router env request (str "ecu") (str "vin") world catalog := by
  refine (write_policy (by decide) (by decide)).mpr fun hreach => ?_
  -- the handler finds the item itself, and it is read-only
  exact absurd rfl (hreach.item vin (by decide)).1

open PutByDid in
/-- Under its DID it is written. -/
theorem put_by_did_writes_read_only_item :
    router.oauth2Secret ≠ [] ∧ router.findCatalog (str "ecu") = some catalog ∧
      ¬ WritePolicy router env request (str "ecu") (str "0xf190") world catalog := by
  refine ⟨by decide, by decide, fun h => ?_⟩
  have hvin : vin ∈ catalog.data := by simp [catalog]
  exact (h (str "ecu") (str "0xf190") [0] .ok rfl 0xF190 (by decide) vin hvin rfl).1 rfl

end Sovd
