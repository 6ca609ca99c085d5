import Sovd.Server.Answers

/-!
# Who gets a stream

A stream is data for as long as it is open, so what it takes to open one is a matter of the
whole history: a `read:data` token, or a ticket, and a ticket is as good as the token it was
minted for. `stream_opened_by` says so of every run of the server. A ticket opens a stream
only if some request with a `read:data` token was answered with it, for the same entity and
item and less than 30 s before, and no request has presented it since, in vain or not.

`TicketInv` says of every stored ticket what the history knows of it. A request that presents
a ticket always gets as far as the handler (`run_of_presented`), and there the ticket is
burned first.
-/

namespace Sovd

open Wildcard

variable {σ : Type}

/-- The document a ticket is answered with. -/
def ticketDocument (ticket : Bytes) : Json :=
  .obj [(str "ticket", .str ticket), (str "ttl_seconds", .int kStreamTicketTtlSeconds)]

/-- A request with a `read:data` token was answered with the ticket, which expires then. -/
def Minted (S : HttpServer σ) (ticket : Bytes) (entry : TicketEntry) (e : HttpEvent σ) : Prop :=
  ∃ env req res, e = .request env req (.ok res) ∧ res.body = .json (ticketDocument ticket) ∧
    Routed req .postStreamTicket entry.entityPath entry.dataId ∧
    Meets env.toEnv S.oauth2Secret (authHeader req) (.scope (str "read:data")) ∧
    entry.expiresAt = env.later + seconds kStreamTicketTtlSeconds

/-- A request was let through to the stream handler, with nothing but the ticket. -/
def Presented (S : HttpServer σ) (ticket : Bytes) (e : HttpEvent σ) : Prop :=
  ∃ env req answer path item, e = .request env req answer ∧ Routed req .streamData path item ∧
    Admitted S env.toEnv req ∧ S.hasOauth2Scope env.toEnv req (str "read:data") = false ∧
    req.paramValue (str "ticket") = ticket ∧ ticket ≠ []

/-! ## What a request does to the tickets -/

section

variable {S : HttpServer σ} {R : Router σ} {env : ServerEnv} {req : Request}
  {path item : Bytes} {s : ServerState σ}

/-- Only two handlers know of tickets and streams. -/
theorem Handler.run_tickets {h : Handler} (hticket : h ≠ .postStreamTicket)
    (hstream : h ≠ .streamData) :
    (h.run R env req path item s).1.tickets = s.tickets ∧
      (h.run R env req path item s).1.hub = s.hub := by
  cases h with
  | streamData => exact absurd rfl hstream
  | postStreamTicket => exact absurd rfl hticket
  | _ => exact ⟨rfl, rfl⟩

/-- A ticket is stored, or not, and answered if it is. -/
theorem handlePostStreamTicket_tickets (R : Router σ) (env : ServerEnv) (req : Request)
    (path item : Bytes) (s : ServerState σ) :
    (handlePostStreamTicket R env req path item s).1.tickets = s.tickets ∨
      ∃ ret, s.tickets.issue env.now env.later env.raw path item =
          (ret, (handlePostStreamTicket R env req path item s).1.tickets) ∧
        ∀ ticket, ret = some ticket →
          (handlePostStreamTicket R env req path item s).2 =
            ({ (correlationIdFor env.toEnv req {}).2 with status := 201 }.setJson
              (ticketDocument ticket)) := by
  unfold handlePostStreamTicket
  dsimp only
  split
  next => exact .inl rfl
  next =>
    right
    cases hissue : s.tickets.issue env.now env.later env.raw path item with
    | mk ret tickets =>
      refine ⟨ret, ?_, ?_⟩
      · cases ret with
        | none => rfl
        | some ticket => rfl
      · intro ticket hret
        subst hret
        rfl

theorem handleStreamData_tickets :
    (handleStreamData R env req path item s).1.tickets =
      (authorizeStream R env req path item s.tickets).2 := by
  unfold handleStreamData
  dsimp only
  split
  next => rfl
  next =>
    split
    next => rfl
    next =>
      split_ifs
      · rfl
      · split
        next => rfl
        next => rfl

end

/-! ## Tickets are hexadecimal -/

theorem lowerHexChar_le {n : Nat} (h : n < 16) : lowerHexChar n ≤ 0x7F := by
  have hall : ∀ n < 16, lowerHexChar n ≤ 0x7F := by decide
  exact hall n h

theorem utf8_hex16 (raw : Vector UInt8 16) : Utf8.valid (str "tkt-" ++ hex16 raw) = true := by
  refine Utf8.valid_of_ascii fun b hb => ?_
  rcases List.mem_append.mp hb with hb | hb
  · have hmarker : ((str "tkt-").all fun c => c ≤ 0x7F) = true := by decide
    exact of_decide_eq_true (List.all_eq_true.mp hmarker b hb)
  · obtain ⟨c, -, hc⟩ := List.mem_flatMap.mp hb
    have hlt := c.toNat_lt
    simp only [List.mem_cons, List.not_mem_nil, or_false] at hc
    rcases hc with rfl | rfl
    · exact lowerHexChar_le (by omega)
    · exact lowerHexChar_le (by omega)

theorem utf8_of_issue {store store' : StreamTicketStore} {t₁ t₂ : Time}
    {raw : Option (Vector UInt8 16)} {path item ticket : Bytes}
    (h : store.issue t₁ t₂ raw path item = (some ticket, store')) :
    Utf8.valid ticket = true := by
  unfold StreamTicketStore.issue at h
  dsimp only at h
  split at h
  next => cases h
  next =>
    cases raw with
    | none => cases h
    | some raw =>
      obtain rfl := Option.some.inj (Prod.mk.inj h).1
      exact utf8_hex16 raw

/-- The answer that tells a ticket. -/
theorem setJson_ticketDocument (res : Response) {ticket : Bytes}
    (h : Utf8.valid ticket = true) :
    ∃ res', res.setJson (ticketDocument ticket) = .ok res' ∧
      res'.body = .json (ticketDocument ticket) := by
  have hkeys : Utf8.valid (str "ticket") = true ∧ Utf8.valid (str "ttl_seconds") = true := by
    decide
  have hutf : (ticketDocument ticket).utf8 = true := by
    simp [ticketDocument, hkeys, h]
  obtain ⟨res', hres', -⟩ := Response.setJson_of_utf8 res hutf
  exact ⟨res', hres', (Response.setJson_eq_ok hres').2.2⟩

/-! ## What is stored -/

section

variable {R : Router σ} {env : ServerEnv} {req : Request} {path item ticket : Bytes}
  {entry : TicketEntry}

/-- A redemption stores nothing. -/
theorem lookup_of_authorizeStream {tickets : StreamTicketStore}
    (h : (authorizeStream R env req path item tickets).2.tickets.lookup ticket = some entry) :
    tickets.tickets.lookup ticket = some entry := by
  unfold authorizeStream at h
  dsimp only at h
  split_ifs at h with hscope hempty
  · exact h
  · exact h
  · cases hredeem : tickets.redeem env.now (req.paramValue (str "ticket")) path item with
    | mk ret tickets' =>
      rw [hredeem] at h
      rcases StreamTicketStore.redeem_cases hredeem with ⟨-, -, rfl⟩ | ⟨e, -, herase, -⟩
      · exact h
      · rw [herase] at h
        by_cases hsame : ticket = req.paramValue (str "ticket")
        · rw [hsame, AList.lookup_erase] at h
          cases h
        · rwa [AList.lookup_erase_ne hsame] at h

/-- What is new among the stored tickets is what the request is answered. -/
theorem lookup_of_mint {s : ServerState σ}
    (h : (handlePostStreamTicket R env req path item s).1.tickets.tickets.lookup ticket =
      some entry) :
    s.tickets.tickets.lookup ticket = some entry ∨
      (entry = ⟨path, item, env.later + seconds kStreamTicketTtlSeconds⟩ ∧
        ∃ res, (handlePostStreamTicket R env req path item s).2 = .ok res ∧
          res.body = .json (ticketDocument ticket)) := by
  rcases handlePostStreamTicket_tickets R env req path item s with
    hsame | ⟨ret, hissue, hanswer⟩
  · exact .inl (hsame ▸ h)
  rcases StreamTicketStore.issue_cases hissue with ⟨rfl, hswept⟩ | ⟨minted, rfl, -, hinsert⟩
  · rw [hswept] at h
    exact .inl (StreamTicketStore.lookup_sweepExpired h)
  · rw [hinsert] at h
    by_cases hsame : ticket = minted
    · subst hsame
      rw [AList.lookup_insert] at h
      obtain ⟨res, hres, hbody⟩ := setJson_ticketDocument
        { (correlationIdFor env.toEnv req {}).2 with status := 201 } (utf8_of_issue hissue)
      exact .inr ⟨(Option.some.inj h).symm, res, (hanswer ticket rfl).trans hres, hbody⟩
    · rw [AList.lookup_insert_ne hsame] at h
      exact .inl (StreamTicketStore.lookup_sweepExpired h)

end

/-! ## A ticket that is presented is looked at -/

section

variable {S : HttpServer σ} {env : ServerEnv} {req : Request} {s : ServerState σ}

/-- A request for a stream that is admitted gets to the handler. -/
theorem run_of_admitted {captures : List Bytes} (hadmitted : Admitted S env.toEnv req)
    (hroute : dispatch req.method req.path = some (.streamData, captures)) :
    (routing S env req s).1 =
      (handleStreamData S.toRouter env req (captures.getD 0 []) (captures.getD 1 []) s).1 := by
  rw [routing_of_gets ⟨captures, hroute, rfl, rfl⟩ rfl hadmitted]
  rfl

end

/-! ## Runs -/

section

variable {S : HttpServer σ}

/-- Every stored ticket was minted, and not presented since. -/
def TicketInv (S : HttpServer σ) (es : List (HttpEvent σ)) (s : ServerState σ) : Prop :=
  ∀ ticket entry, s.tickets.tickets.lookup ticket = some entry →
    Lts.Since (Minted S ticket entry) (Presented S ticket) es

/-- A GET's handler has its scope looked up, but the one that mints is a POST's. -/
theorem not_unscoped_of_mint {method path : Bytes}
    (hh : handlerFor method path = some .postStreamTicket) : ¬ Unscoped method path := by
  have hreads : ∀ r ∈ getHandlers, r.2 ≠ .postStreamTicket := by decide
  intro hun
  have hget : method = str "GET" ∨ method = str "HEAD" := hun.elim .inr fun h => .inl h.1
  obtain ⟨pattern, hmem, -⟩ := row_of_handler hh
  rw [handlersFor, if_pos hget] at hmem
  exact hreads _ hmem rfl

/-- What is presented is not stored any more. -/
theorem lookup_of_presented {env : ServerEnv} {req : Request} {answer : Answer} {ticket : Bytes}
    {s : ServerState σ} (h : Presented S ticket (.request env req answer)) :
    (routing S env req s).1.tickets.tickets.lookup ticket = none := by
  obtain ⟨env', req', answer', path, item, heq, ⟨captures, hroute, rfl, rfl⟩, hadmitted, hscope,
    hticket, hne⟩ := h
  obtain ⟨rfl, rfl, rfl⟩ := HttpEvent.request.inj heq
  rw [run_of_admitted hadmitted hroute, handleStreamData_tickets, authorizeStream, hscope]
  dsimp only
  rw [if_neg Bool.false_ne_true, if_neg (hticket ▸ hne), hticket]
  cases hredeem : s.tickets.redeem env.now ticket (captures.getD 0 []) (captures.getD 1 []) with
  | mk ret tickets =>
    rcases StreamTicketStore.redeem_cases hredeem with ⟨hnone, -, rfl⟩ | ⟨e, -, herase, -⟩
    · exact hnone
    · rw [herase]
      exact AList.lookup_erase ..

/-- What is stored after a request was stored before it, or is minted by it. -/
theorem lookup_of_routing {env : ServerEnv} {req : Request} {ticket : Bytes} {entry : TicketEntry}
    {s : ServerState σ} (hsecret : S.oauth2Secret ≠ [])
    (h : (routing S env req s).1.tickets.tickets.lookup ticket = some entry) :
    s.tickets.tickets.lookup ticket = some entry ∨
      Minted S ticket entry (.request env req (routing S env req s).2) := by
  rcases routing_cases S env req s with ⟨es, htold⟩ | ⟨h', captures, hadmitted, -, hroute, hrun⟩
  · rw [htold] at h
    exact .inl h
  rw [hrun] at h ⊢
  have hh := dispatch_handlerFor hroute
  by_cases hstream : h' = .streamData
  · subst hstream
    exact .inl (lookup_of_authorizeStream (handleStreamData_tickets ▸ h))
  by_cases hmint : h' = .postStreamTicket
  · subst hmint
    refine (lookup_of_mint h).imp_right fun hminted => ?_
    obtain ⟨rfl, res, hres, hbody⟩ := hminted
    have hmeets := scope_of_admitted hsecret hadmitted hh rfl (not_unscoped_of_mint hh)
    refine ⟨env, req, res.behind (applyCorsHeaders S.corsAllowedOrigins req {}), ?_, hbody,
      ⟨captures, hroute, rfl, rfl⟩, hmeets, rfl⟩
    show HttpEvent.request env req (((handlePostStreamTicket S.toRouter env req (captures.getD 0 [])
      (captures.getD 1 []) s).2.mapError Failure.json).map _) = _
    rw [hres]
    rfl
  · rw [(Handler.run_tickets hmint hstream).1] at h
    exact .inl h

theorem TicketInv.of_hist (hsecret : S.oauth2Secret ≠ []) {es : List (HttpEvent σ)}
    {s : ServerState σ} (h : (httpLts S).Hist es s) : TicketInv S es s := by
  refine Lts.hist_induct (P := TicketInv S) ?_ ?_ h
  · intro s hs ticket entry hlookup
    rw [hs.1] at hlookup
    cases hlookup
  · intro es s e t _ hinv hstep ticket entry hlookup
    cases e with
    | background adapter hub =>
      obtain rfl : t = { s with world := { s.world with adapter }, hub } := hstep
      refine (hinv ticket entry hlookup).concat ?_
      intro hx
      obtain ⟨env, req, answer, path, item, heq, -⟩ := hx
      cases heq
    | request env req answer =>
      have hstep : routing S env req s = (t, answer) := hstep
      have hafter : (routing S env req s).1.tickets.tickets.lookup ticket = some entry := by
        rw [hstep]
        exact hlookup
      rcases lookup_of_routing hsecret hafter with hbefore | hminted
      · refine (hinv ticket entry hbefore).concat fun hpresented => ?_
        rw [lookup_of_presented hpresented] at hafter
        cases hafter
      · rw [hstep] at hminted
        exact .of_last es hminted

end

namespace ReadToken

/-- A ticket is asked for with the scope `read:data`. -/
def mintRequest : Request :=
  { method := str "POST", path := str "/v1/entities/ecu/data/vin/stream-ticket",
    headers := [bearer] }

/-- What comes of the first. -/
def minted : ServerState Unit × Answer :=
  routing server env mintRequest { world := { adapter := () } }

end ReadToken

end Sovd
