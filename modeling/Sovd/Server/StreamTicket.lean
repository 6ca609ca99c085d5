import Sovd.Core.LockManager
import Sovd.HexText
import Sovd.Lib.Lts

/-!
# Stream tickets (`stream_ticket.cpp`)

A browser cannot send a token along with a stream request, so it fetches a ticket
first and passes that. A ticket is good for one stream, once, for a short time.
`tickets_single_use` says so of every run of `issue` and `redeem`, whatever the clock
shows and whatever `RAND_bytes` returns, the same ticket twice included.

`StoreInv` ties the map to the history: what is stored under a ticket is what the
last `issue` that returned it put there, and nobody has presented it since; a stored
ticket is one issue that no redemption has used up yet.

Mirroring notes vs the C++:
- `issue` reads the clock before the sweep and again for the expiry, `redeem` once
  if the ticket is there; each reading is an argument (not used where it is not
  made). Nothing here needs them to be in order.
- `raw` is what `RAND_bytes` left in the buffer, `none` where it failed.
- The mutex makes each operation atomic; `tickets_` is an `AList`, as the lock table.
-/

namespace Sovd

/-- `kStreamTicketTtlSeconds` -/
def kStreamTicketTtlSeconds : Int := 30

/-- `kMaxOutstandingTickets` -/
def kMaxOutstandingTickets : Nat := 64

/-- The text of a ticket: sixteen bytes in lower case. -/
def hex16 (bytes : Vector UInt8 16) : Bytes :=
  bytes.toList.flatMap fun b => [lowerHexChar (b.toNat / 16), lowerHexChar (b.toNat % 16)]

/-- What a ticket is for, and until when. -/
structure TicketEntry where
  entityPath : Bytes
  dataId : Bytes
  expiresAt : Time
  deriving DecidableEq

/-- The tickets that are out. -/
structure StreamTicketStore where
  tickets : AList (fun _ : Bytes => TicketEntry) := ∅

namespace StreamTicketStore

/-- `sweep_expired_locked`: expired tickets are dropped. -/
def sweepExpired (s : StreamTicketStore) (now : Time) : StreamTicketStore where
  tickets :=
    { entries := s.tickets.entries.filter fun e => decide (now < e.2.expiresAt)
      nodupKeys := s.tickets.nodupKeys.sublist List.filter_sublist }

/-- How many tickets are out. -/
def outstandingCount (s : StreamTicketStore) : Nat := s.tickets.entries.length

/-- `issue`: refused when too many are out, or without random bytes. -/
def issue (s : StreamTicketStore) (t₁ t₂ : Time) (raw : Option (Vector UInt8 16))
    (entityPath dataId : Bytes) : Option Bytes × StreamTicketStore :=
  let s := s.sweepExpired t₁
  if kMaxOutstandingTickets ≤ s.outstandingCount then (none, s)
  else
    match raw with
    | none => (none, s) -- no weak fallback
    | some raw =>
      let ticket := str "tkt-" ++ hex16 raw
      let entry : TicketEntry := ⟨entityPath, dataId, t₂ + seconds kStreamTicketTtlSeconds⟩
      (some ticket, { tickets := s.tickets.insert ticket entry })

/-- `redeem`: a ticket is burned even if it is for something else. -/
def redeem (s : StreamTicketStore) (t : Time) (ticket entityPath dataId : Bytes) :
    Bool × StreamTicketStore :=
  match s.tickets.lookup ticket with
  | none => (false, s)
  | some entry =>
    -- burned before anything is checked
    let s : StreamTicketStore := { tickets := s.tickets.erase ticket }
    if entry.expiresAt ≤ t then (false, s)
    else (entry.entityPath == entityPath && entry.dataId == dataId, s)

/-! ## What one operation does -/

variable {s s' : StreamTicketStore}

/-- What is left after a sweep was there before. -/
theorem lookup_sweepExpired {now : Time} {ticket : Bytes} {e : TicketEntry}
    (h : (s.sweepExpired now).tickets.lookup ticket = some e) :
    s.tickets.lookup ticket = some e := by
  have hmem := AList.mem_lookup_iff.mp (Option.mem_def.mpr h)
  exact AList.mem_lookup_iff.mpr (List.mem_filter.mp hmem).1

/-- After a sweep no more tickets are out. -/
theorem outstandingCount_sweepExpired_le (s : StreamTicketStore) (now : Time) :
    (s.sweepExpired now).outstandingCount ≤ s.outstandingCount :=
  List.length_filter_le ..

/-- An issue leaves of the others what was there, and stores the ticket it returns. -/
theorem issue_cases {t₁ t₂ : Time} {raw : Option (Vector UInt8 16)} {entityPath dataId : Bytes}
    {ret : Option Bytes} (h : s.issue t₁ t₂ raw entityPath dataId = (ret, s')) :
    (ret = none ∧ s' = s.sweepExpired t₁) ∨
      ∃ ticket, ret = some ticket ∧
        (s.sweepExpired t₁).outstandingCount < kMaxOutstandingTickets ∧
        s'.tickets = (s.sweepExpired t₁).tickets.insert ticket
          ⟨entityPath, dataId, t₂ + seconds kStreamTicketTtlSeconds⟩ := by
  unfold issue at h
  simp only at h
  split at h
  next => exact .inl ⟨(congrArg Prod.fst h).symm, (congrArg Prod.snd h).symm⟩
  next hlt =>
    split at h
    next => exact .inl ⟨(congrArg Prod.fst h).symm, (congrArg Prod.snd h).symm⟩
    next raw =>
      obtain ⟨rfl, rfl⟩ := Prod.mk.inj h
      exact .inr ⟨_, rfl, Nat.lt_of_not_le hlt, rfl⟩

/-- A redemption of what is not stored changes nothing; any other burns the ticket. -/
theorem redeem_cases {t : Time} {ticket entityPath dataId : Bytes} {ret : Bool}
    (h : s.redeem t ticket entityPath dataId = (ret, s')) :
    (s.tickets.lookup ticket = none ∧ ret = false ∧ s' = s) ∨
      ∃ e, s.tickets.lookup ticket = some e ∧ s'.tickets = s.tickets.erase ticket ∧
        (ret = true → t < e.expiresAt ∧ e.entityPath = entityPath ∧ e.dataId = dataId) := by
  unfold redeem at h
  split at h
  next hnone =>
    exact .inl ⟨hnone, (congrArg Prod.fst h).symm, (congrArg Prod.snd h).symm⟩
  next e he =>
    simp only at h
    split at h
    next =>
      obtain ⟨rfl, rfl⟩ := Prod.mk.inj h
      exact .inr ⟨e, he, rfl, fun hret => absurd hret Bool.false_ne_true⟩
    next hlt =>
      obtain ⟨rfl, rfl⟩ := Prod.mk.inj h
      refine .inr ⟨e, he, rfl, fun hret => ?_⟩
      rw [Bool.and_eq_true, beq_iff_eq, beq_iff_eq] at hret
      exact ⟨Int.not_le.mp hlt, hret.1, hret.2⟩

end StreamTicketStore

/-! ## Runs -/

/-- The calls of the store. -/
inductive TicketEvent
  | issue (entityPath dataId : Bytes) (t₁ t₂ : Time) (raw : Option (Vector UInt8 16))
      (ret : Option Bytes)
  | redeem (ticket entityPath dataId : Bytes) (t : Time) (ret : Bool)

namespace TicketEvent

/-- An issue that returned the ticket. -/
def issues (ticket : Bytes) : TicketEvent → Bool
  | issue _ _ _ _ _ ret => ret == some ticket
  | redeem .. => false

/-- A redemption of the ticket that returned true. -/
def redeems (ticket : Bytes) : TicketEvent → Bool
  | issue .. => false
  | redeem k _ _ _ ret => k == ticket && ret

/-- The ticket was returned, or presented. -/
def Concerns (ticket : Bytes) : TicketEvent → Prop
  | issue _ _ _ _ _ ret => ret = some ticket
  | redeem k _ _ _ _ => k = ticket

/-- The ticket was returned, for the path and the id, with that expiry. -/
def Grants (ticket : Bytes) (entry : TicketEntry) (e : TicketEvent) : Prop :=
  ∃ t₁ t₂ raw, e = issue entry.entityPath entry.dataId t₁ t₂ raw (some ticket) ∧
    entry.expiresAt = t₂ + seconds kStreamTicketTtlSeconds

end TicketEvent

/-- Every history of the store. -/
def ticketLts : Lts StreamTicketStore TicketEvent where
  init s := s = {}
  step s e s' :=
    match e with
    | .issue entityPath dataId t₁ t₂ raw ret => s.issue t₁ t₂ raw entityPath dataId = (ret, s')
    | .redeem ticket entityPath dataId t ret => s.redeem t ticket entityPath dataId = (ret, s')

/-- The issue that a redemption at `t` answers to: the last that returned the ticket,
for that path and id, not too long ago, with no redemption of the ticket after it. -/
def GoodFor (ticket entityPath dataId : Bytes) (t : Time) (es : List TicketEvent) : Prop :=
  Lts.Since
    (fun e => ∃ t₁ t₂ raw, e = .issue entityPath dataId t₁ t₂ raw (some ticket) ∧
      t < t₂ + seconds kStreamTicketTtlSeconds)
    (TicketEvent.Concerns ticket) es

/-- How the map hangs together with the history. -/
structure StoreInv (es : List TicketEvent) (s : StreamTicketStore) : Prop where
  granted : ∀ ticket entry, s.tickets.lookup ticket = some entry →
    Lts.Since (TicketEvent.Grants ticket entry) (TicketEvent.Concerns ticket) es
  balance : ∀ ticket, es.countP (TicketEvent.redeems ticket) +
    (if (s.tickets.lookup ticket).isSome then 1 else 0) ≤ es.countP (TicketEvent.issues ticket)
  bounded : s.outstandingCount ≤ kMaxOutstandingTickets

namespace StoreInv

variable {es : List TicketEvent} {s s' : StreamTicketStore}

/-- No ticket is out at the start. -/
theorem initial : StoreInv [] {} where
  granted ticket entry h := by
    rw [AList.lookup_empty] at h
    cases h
  balance ticket := by simp
  bounded := Nat.zero_le _

/-- What is kept in the map keeps its history, if the event is about another ticket. -/
theorem keep (h : StoreInv es s) {ticket : Bytes} {entry : TicketEntry} {e : TicketEvent}
    (hkept : s.tickets.lookup ticket = some entry) (he : ¬ e.Concerns ticket) :
    Lts.Since (TicketEvent.Grants ticket entry) (TicketEvent.Concerns ticket) (es ++ [e]) :=
  (h.granted ticket entry hkept).concat he

/-- A ticket that is issued is accounted for. -/
theorem issue {entityPath dataId : Bytes} {t₁ t₂ : Time} {raw : Option (Vector UInt8 16)}
    {ret : Option Bytes} (h : StoreInv es s)
    (hs : s.issue t₁ t₂ raw entityPath dataId = (ret, s')) :
    StoreInv (es ++ [.issue entityPath dataId t₁ t₂ raw ret]) s' := by
  -- a ticket that is left after the sweep was there before
  have hswept : ∀ k, ((s.sweepExpired t₁).tickets.lookup k).isSome = true →
      (s.tickets.lookup k).isSome = true := by
    intro k hk
    obtain ⟨e, he⟩ := Option.isSome_iff_exists.mp hk
    rw [StreamTicketStore.lookup_sweepExpired he]
    rfl
  rcases StreamTicketStore.issue_cases hs with ⟨rfl, rfl⟩ | ⟨ticket, rfl, hlt, htickets⟩
  · -- no ticket: no bytes, or the table is full
    refine ⟨?_, ?_, ?_⟩
    · intro k entry hk
      exact h.keep (StreamTicketStore.lookup_sweepExpired hk) (fun hc => nomatch hc)
    · intro k
      have hb := h.balance k
      have hk := hswept k
      simp only [List.countP_append, List.countP_singleton, TicketEvent.redeems,
        TicketEvent.issues]
      grind
    · exact (StreamTicketStore.outstandingCount_sweepExpired_le s t₁).trans h.bounded
  · -- the new ticket may be one that is in the table, if the bytes repeat
    refine ⟨?_, ?_, ?_⟩
    · intro k entry hk
      rw [htickets] at hk
      by_cases hne : k = ticket
      · subst hne
        rw [AList.lookup_insert] at hk
        obtain rfl := Option.some.inj hk
        exact .of_last es ⟨t₁, t₂, raw, rfl, rfl⟩
      · rw [AList.lookup_insert_ne hne] at hk
        refine h.keep (StreamTicketStore.lookup_sweepExpired hk) fun hc => ?_
        exact hne (Option.some.inj hc).symm
    · intro k
      have hb := h.balance k
      have hk := hswept k
      simp only [List.countP_append, List.countP_singleton, TicketEvent.redeems,
        TicketEvent.issues, htickets]
      by_cases hne : k = ticket
      · subst hne
        rw [AList.lookup_insert]
        grind
      · rw [AList.lookup_insert_ne hne]
        grind
    · -- the table was not full, and one entry is added at most
      have hlen : s'.outstandingCount ≤ (s.sweepExpired t₁).outstandingCount + 1 := by
        rw [StreamTicketStore.outstandingCount, htickets, AList.entries_insert, List.length_cons]
        exact Nat.succ_le_succ (List.kerase_sublist ..).length_le
      omega

/-- A ticket that is redeemed is out no more. -/
theorem redeem {ticket entityPath dataId : Bytes} {t : Time} {ret : Bool} (h : StoreInv es s)
    (hs : s.redeem t ticket entityPath dataId = (ret, s')) :
    StoreInv (es ++ [.redeem ticket entityPath dataId t ret]) s' := by
  rcases StreamTicketStore.redeem_cases hs with ⟨hnone, rfl, rfl⟩ | ⟨e, he, htickets, -⟩
  · -- no such ticket: nothing is redeemed
    refine ⟨?_, ?_, h.bounded⟩
    · intro k entry hk
      refine h.keep hk fun hc => ?_
      rw [← (hc : ticket = k), hnone] at hk
      cases hk
    · intro k
      have hb := h.balance k
      simp only [List.countP_append, List.countP_singleton, TicketEvent.redeems,
        TicketEvent.issues, Bool.and_false]
      exact hb
  · -- the entry goes, whether or not it was good for this stream
    refine ⟨?_, ?_, ?_⟩
    · intro k entry hk
      rw [htickets] at hk
      by_cases hne : k = ticket
      · rw [hne, AList.lookup_erase] at hk
        cases hk
      · rw [AList.lookup_erase_ne hne] at hk
        exact h.keep hk fun hc => hne hc.symm
    · intro k
      have hb := h.balance k
      simp only [List.countP_append, List.countP_singleton, TicketEvent.redeems,
        TicketEvent.issues, htickets]
      by_cases hne : k = ticket
      · subst hne
        rw [he] at hb
        rw [AList.lookup_erase]
        grind
      · rw [AList.lookup_erase_ne hne]
        grind
    · have hlen : s'.outstandingCount ≤ s.outstandingCount := by
        rw [StreamTicketStore.outstandingCount, htickets]
        exact (List.kerase_sublist ..).length_le
      exact hlen.trans h.bounded

/-- In every history the tickets are accounted for. -/
theorem of_hist (h : ticketLts.Hist es s) : StoreInv es s := by
  refine Lts.hist_induct (P := StoreInv) ?_ ?_ h
  · intro s hs
    obtain rfl := hs
    exact initial
  · intro es s e s' _ hinv hs
    cases e with
    | issue entityPath dataId t₁ t₂ raw ret => exact hinv.issue hs
    | redeem ticket entityPath dataId t ret => exact hinv.redeem hs

end StoreInv

/-- A redemption that returns true answers to an issue that it is good for. -/
theorem goodFor_of_redeem {es : List TicketEvent} {s s' : StreamTicketStore}
    {ticket entityPath dataId : Bytes} {t : Time} (h : ticketLts.Hist es s)
    (hs : s.redeem t ticket entityPath dataId = (true, s')) :
    GoodFor ticket entityPath dataId t es := by
  rcases StreamTicketStore.redeem_cases hs with ⟨-, hret, -⟩ | ⟨entry, he, -, htrue⟩
  · cases hret
  · obtain ⟨hlt, rfl, rfl⟩ := htrue rfl
    obtain ⟨before, e, after, rfl, ⟨t₁, t₂, raw, heq, hexpires⟩, hafter⟩ :=
      (StoreInv.of_hist h).granted ticket entry he
    exact ⟨before, e, after, rfl, ⟨t₁, t₂, raw, heq, hexpires ▸ hlt⟩, hafter⟩

/-- **Stream tickets are single-use, bound and short-lived**: in every run, no more
redemptions of a ticket succeed than issues returned it, each that succeeds is the
first to present the last such issue's ticket, for the same path and id and in time,
and there are never more than `kMaxOutstandingTickets` tickets. -/
theorem tickets_single_use {es : List TicketEvent} {s : StreamTicketStore}
    (h : ticketLts.Hist es s) :
    (∀ ticket, es.countP (TicketEvent.redeems ticket) ≤ es.countP (TicketEvent.issues ticket)) ∧
      (∀ before after ticket entityPath dataId t,
        es = before ++ .redeem ticket entityPath dataId t true :: after →
          GoodFor ticket entityPath dataId t before) ∧
      s.outstandingCount ≤ kMaxOutstandingTickets := by
  have hinv := StoreInv.of_hist h
  refine ⟨fun ticket => le_trans (Nat.le_add_right _ _) (hinv.balance ticket), ?_, hinv.bounded⟩
  intro before after ticket entityPath dataId t heq
  obtain ⟨s₀, hinit, hrun⟩ := h
  rw [heq, Lts.run_append] at hrun
  obtain ⟨s₁, hbefore, s₂, hstep, -⟩ := hrun
  exact goodFor_of_redeem ⟨s₀, hinit, hbefore⟩ hstep

/-- A ticket that is issued, redeemed, and presented once more. -/
theorem ticket_redeemed_once :
    ∃ s, ticketLts.Hist
        [.issue (str "ecu") (str "vin") 0 0 (some (.replicate 16 0xA5))
            (some (str "tkt-a5a5a5a5a5a5a5a5a5a5a5a5a5a5a5a5")),
          .redeem (str "tkt-a5a5a5a5a5a5a5a5a5a5a5a5a5a5a5a5") (str "ecu") (str "vin")
            (seconds 29) true,
          .redeem (str "tkt-a5a5a5a5a5a5a5a5a5a5a5a5a5a5a5a5") (str "ecu") (str "vin")
            (seconds 29) false] s ∧
      s.outstandingCount ≤ kMaxOutstandingTickets := by
  have hhist : ticketLts.Hist
      [.issue (str "ecu") (str "vin") 0 0 (some (.replicate 16 0xA5))
          (some (str "tkt-a5a5a5a5a5a5a5a5a5a5a5a5a5a5a5a5")),
        .redeem (str "tkt-a5a5a5a5a5a5a5a5a5a5a5a5a5a5a5a5") (str "ecu") (str "vin")
          (seconds 29) true,
        .redeem (str "tkt-a5a5a5a5a5a5a5a5a5a5a5a5a5a5a5a5") (str "ecu") (str "vin")
          (seconds 29) false] _ :=
    ⟨{}, rfl, _, Prod.ext rfl rfl, _, Prod.ext rfl rfl, _, Prod.ext rfl rfl, rfl⟩
  exact ⟨_, hhist, (tickets_single_use hhist).2.2⟩

end Sovd
