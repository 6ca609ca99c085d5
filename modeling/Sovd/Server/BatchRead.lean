import Sovd.Server.ReadHandlers
import Sovd.Server.Telemetry

/-!
# A batch and the single reads it stands for (`server/src/routes_data.cpp`)

A batch reads its items one after the other, as GET `…/data/{id}` reads one, and an item
that cannot be read is an error among the others. So a batch is meant to answer as its
items would on their own: `BatchIsolates`.

The documents of the items are the ones a stream sends (`streamBody`), and those are put
into one that is written once, with `dump`. One text that is not UTF-8 is therefore an
exception for the whole batch: an item that asked for alone would be a 500 on its own
takes the others with it. `batch_isolates_iff` says that nothing else does.

Mirroring notes vs the C++:
- What an adapter answers here depends on the DID alone (`AnswersPerDid`), so that the
  reads of a batch and single reads can be compared at all.
-/

namespace Sovd

variable {σ : Type}

/-- Of one entity the adapter always answers `answer did`. -/
def AnswersPerDid (readData : σ → Bytes → Bytes → SovdResult × Bytes × σ) (path : Bytes)
    (answer : Bytes → SovdResult × Bytes) : Prop :=
  ∀ s did, (readData s (cStr path) did).1 = (answer did).1 ∧
    (readData s (cStr path) did).2.1 = (answer did).2

/-- What a batch says of an id that could not be read. -/
def failedItem (id errorCode message : Bytes) : Json :=
  .obj [(str "id", .str id), (str "error", .str errorCode), (str "message", .str message)]

/-- The entry is the body of a single GET that answers 200, and else says the id and an
error. -/
structure EntryFor (R : Router σ) (env : Env) (path id : Bytes) (entry : Json) : Prop where
  read : ∀ single w, finalStatus (handleGetData R env single path id w).2 = 200 →
    ∃ res, (handleGetData R env single path id w).2 = .ok res ∧ res.body = .json entry
  failed : ∀ single w, finalStatus (handleGetData R env single path id w).2 ≠ 200 →
    ∃ errorCode message, entry = failedItem id errorCode message

/-- The batch answers 200 with one entry for each id, in the order of the request. -/
def BatchIsolates (R : Router σ) (env : Env) (req : Request) (path : Bytes) (w : World σ) :
    Prop :=
  ∃ res items, (handleGetDataBatch R env req path w).2 = .ok res ∧ finalStatus (.ok res) = 200 ∧
    res.body = .json (.obj [(str "items", .arr items)]) ∧
    List.Forall₂ (EntryFor R env path) (batchIds req) items

/-- What the adapter answers for an id. -/
def answerFor (cat : Option Catalog) (answer : Bytes → SovdResult × Bytes) (id : Bytes) :
    SovdResult × Bytes :=
  answer (cStr (didText (findItem cat id) id))

/-- What a read of it comes to. -/
def outcomeFor (env : Env) (cat : Option Catalog) (answer : Bytes → SovdResult × Bytes)
    (id : Bytes) : DataReadOutcome :=
  dataReadOutcome env.castU64 id (findItem cat id) (answerFor cat answer id).1
    (answerFor cat answer id).2

section

variable {env : Env} {readData : σ → Bytes → Bytes → SovdResult × Bytes × σ} {path id : Bytes}
  {answer : Bytes → SovdResult × Bytes} {cat : Option Catalog}

theorem readOneDataItem_outcome (ha : AnswersPerDid readData path answer) (w : World σ) :
    (readOneDataItem env readData path id cat w).1 = outcomeFor env cat answer id := by
  obtain ⟨hresult, hbytes⟩ := ha w.adapter (cStr (didText (findItem cat id) id))
  show dataReadOutcome env.castU64 id (findItem cat id) _ _ = _
  rw [hresult, hbytes]
  rfl

/-- The entries of a batch are what streams of the same items would send. -/
theorem readBatch_items (ha : AnswersPerDid readData path answer) (ids : List Bytes)
    (w : World σ) :
    (readBatch env readData path cat ids w).1 =
      ids.map fun id => streamBody id (outcomeFor env cat answer id) := by
  induction ids generalizing w with
  | nil => rfl
  | cons id ids ih =>
    have hhead : (readOneDataItem env readData path id cat w).1 = outcomeFor env cat answer id :=
      readOneDataItem_outcome ha w
    unfold readBatch
    rw [List.map_cons, ← ih (readOneDataItem env readData path id cat w).2, ← hhead]
    rfl

/-- An outcome that is a failure has the status of one. -/
theorem dataReadOutcome_failed {castU64 : Nat → Rat} {item : Option DataItem} {r : SovdResult}
    {bytes : Bytes} {status : Int} {errorCode message : Bytes}
    (h : dataReadOutcome castU64 id item r bytes = .failed status errorCode message) :
    status ≠ 200 ∧ status ≠ -1 := by
  unfold dataReadOutcome at h
  split_ifs at h with hr
  · obtain ⟨rfl, -, -⟩ := DataReadOutcome.failed.inj h
    cases r <;> first | exact absurd rfl hr | exact ⟨by decide, by decide⟩
  · split at h
    · split at h
      · cases h
      · obtain ⟨rfl, -, -⟩ := DataReadOutcome.failed.inj h
        exact ⟨by decide, by decide⟩
    · cases h

end

section

variable {R : Router σ} {env : Env} {readData : σ → Bytes → Bytes → SovdResult × Bytes × σ}
  {path id : Bytes} {answer : Bytes → SovdResult × Bytes}

/-! ## The single read -/

theorem handleGetData_answer (h : GetsTo R path Vtable.readData readData)
    (ha : AnswersPerDid readData path answer) (single : Request) (w : World σ) :
    (handleGetData R env single path id w).2 =
      match outcomeFor env (R.findCatalog path) answer id with
      | .ok body => (correlationIdFor env single {}).2.setJson body
      | .failed status errorCode message =>
        writeError (correlationIdFor env single {}).2 status errorCode message := by
  have hread : (readOneDataItem env readData path id (R.findCatalog path) w).1 =
      outcomeFor env (R.findCatalog path) answer id := readOneDataItem_outcome ha w
  rw [handleGetData, withBackend_of_getsTo h, ← hread]
  cases readOneDataItem env readData path id (R.findCatalog path) w with
  | mk outcome w' => cases outcome <;> rfl

/-- What a stream would send of an item is the entry of a batch for it, once that is
UTF-8. -/
theorem entryFor_streamBody (h : GetsTo R path Vtable.readData readData)
    (ha : AnswersPerDid readData path answer)
    (hutf : (streamBody id (outcomeFor env (R.findCatalog path) answer id)).utf8 = true) :
    EntryFor R env path id (streamBody id (outcomeFor env (R.findCatalog path) answer id)) := by
  cases hout : outcomeFor env (R.findCatalog path) answer id with
  | ok body =>
    rw [hout] at hutf
    have hsingle : ∀ single w, ∃ res, (handleGetData R env single path id w).2 = .ok res ∧
        finalStatus (.ok res) = 200 ∧ res.body = .json body := by
      intro single w
      have hstatus : (correlationIdFor env single {}).2.status = -1 :=
        Response.setHeader_status ..
      obtain ⟨res, hres, hres'⟩ :=
        Response.setJson_of_utf8 (correlationIdFor env single {}).2 (j := body) hutf
      refine ⟨res, ?_, ?_, (Response.setJson_eq_ok hres).2.2⟩
      · rw [handleGetData_answer h ha, hout]
        exact hres
      · rw [finalStatus, hres', hstatus]
        rfl
    refine ⟨fun single w _ => ?_, fun single w hne => ?_⟩
    · obtain ⟨res, hres, -, hbody⟩ := hsingle single w
      exact ⟨res, hres, hbody⟩
    · obtain ⟨res, hres, h200, -⟩ := hsingle single w
      rw [hres] at hne
      exact absurd h200 hne
  | failed status errorCode message =>
    obtain ⟨h200, hset⟩ := dataReadOutcome_failed hout
    refine ⟨fun single w hstatus => ?_, fun _ _ _ => ⟨errorCode, message, rfl⟩⟩
    rw [handleGetData_answer h ha, hout] at hstatus
    dsimp only at hstatus
    rcases @finalStatus_writeError (correlationIdFor env single {}).2 _ hset errorCode message
      with h500 | hfailed
    · rw [h500] at hstatus
      cases hstatus
    · exact absurd (hfailed.symm.trans hstatus) h200

/-! ## The batch -/

theorem handleGetDataBatch_answer {req : Request} (h : GetsTo R path Vtable.readData readData)
    (ha : AnswersPerDid readData path answer) (hids : batchIds req ≠ []) (w : World σ) :
    (handleGetDataBatch R env req path w).2 =
      (correlationIdFor env req {}).2.setJson (.obj [(str "items", .arr ((batchIds req).map
        fun id => streamBody id (outcomeFor env (R.findCatalog path) answer id)))]) := by
  rw [handleGetDataBatch, withBackend_of_getsTo h]
  dsimp only
  rw [if_neg hids, ← readBatch_items ha (batchIds req) w]

theorem items_utf8 (items : List Json) :
    (Json.obj [(str "items", .arr items)]).utf8 = true ↔ ∀ item ∈ items, item.utf8 = true := by
  have hkey : Utf8.valid (str "items") = true := by decide
  simp [hkey]

/-- **One text fails the batch, and nothing else does.** A batch answers as the single
reads of its items would exactly when every text in it is UTF-8: the ids, and of what is
read through the catalog the value and the unit. -/
theorem batch_isolates_iff {req : Request} {w : World σ}
    (h : GetsTo R path Vtable.readData readData) (ha : AnswersPerDid readData path answer)
    (hids : batchIds req ≠ []) :
    BatchIsolates R env req path w ↔
      ∀ id ∈ batchIds req, StreamTexts (findItem (R.findCatalog path) id) id
        (answerFor (R.findCatalog path) answer id).1
        (answerFor (R.findCatalog path) answer id).2 := by
  have htexts : ∀ id, (streamBody id (outcomeFor env (R.findCatalog path) answer id)).utf8 = true ↔
      StreamTexts (findItem (R.findCatalog path) id) id
        (answerFor (R.findCatalog path) answer id).1
        (answerFor (R.findCatalog path) answer id).2 :=
    fun id => streamBody_utf8 (fun i hi => findItem_id hi) _ _
  constructor
  · rintro ⟨res, items, hres, -, -, -⟩ id hid
    -- what was written is UTF-8 in each of its parts
    rw [handleGetDataBatch_answer h ha hids w] at hres
    have hutf := (items_utf8 _).mp (Response.setJson_eq_ok hres).1
    exact (htexts id).mp (hutf _ (List.mem_map_of_mem hid))
  · intro hall
    have hutf : ∀ id ∈ batchIds req,
        (streamBody id (outcomeFor env (R.findCatalog path) answer id)).utf8 = true :=
      fun id hid => (htexts id).mpr (hall id hid)
    have hdocument := (items_utf8 ((batchIds req).map
      fun id => streamBody id (outcomeFor env (R.findCatalog path) answer id))).mpr
      (List.forall_mem_map.mpr hutf)
    obtain ⟨res, hres, hstatus⟩ :=
      Response.setJson_of_utf8 (correlationIdFor env req {}).2 hdocument
    refine ⟨res, _, (handleGetDataBatch_answer h ha hids w).trans hres, ?_,
      (Response.setJson_eq_ok hres).2.2, ?_⟩
    · rw [finalStatus, hstatus, correlationIdFor_status]
      rfl
    · rw [List.forall₂_map_right_iff]
      exact List.forall₂_same.mpr fun id hid => entryFor_streamBody h ha (hutf id hid)

end

/-! ## A name in Latin-1 -/

namespace LatinName

def env : Env where
  ssl := { hmacSha256 := fun _ _ => [], encodeBlock := fun _ => [], decodeBlock := fun _ => none }
  parse := fun _ => none

/-- An item whose bytes are shown as they are. -/
def catalog : Catalog := { data := [{ id := str "name", did := 0xF18C, type := .string }] }

/-- The VIN is there, the name of the ECU is one byte, and nothing else is supported. -/
def answer (did : Bytes) : SovdResult × Bytes :=
  if did = str "F190" then (.ok, str "W0L")
  else if did = str "F18C" then (.ok, [0xFC])
  else (.notFound, [])

/-- A backend with an answer to each DID. -/
def backend : Vtable Unit :=
  { readData := some fun s _ did => ((answer did).1, (answer did).2, s) }

def router : Router Unit where
  entities := [{ path := str "ecu", vtable := some backend }]
  catalogs := [(str "ecu", catalog)]

def request (ids : Bytes) : Request where
  method := str "GET"
  path := str "/v1/entities/ecu/data-batch"
  params := [(str "ids", ids)]

def world : World Unit := { adapter := () }

theorem hasBackend : GetsTo router (str "ecu") Vtable.readData
    fun s _ did => ((answer did).1, (answer did).2, s) :=
  ⟨_, rfl, rfl, rfl⟩

theorem answersPerDid : AnswersPerDid (fun (s : Unit) _ did => ((answer did).1, (answer did).2, s))
    (str "ecu") answer :=
  fun _ _ => ⟨rfl, rfl⟩

end LatinName

open LatinName in
/-- Where the only thing wrong is an id that is not there, the batch is an answer. -/
theorem batch_with_unknown_id :
    BatchIsolates router env (request (str "F190,,beef")) (str "ecu") world := by
  have hids : batchIds (request (str "F190,,beef")) = [str "F190", str "beef"] := by decide
  refine (batch_isolates_iff hasBackend answersPerDid
    (by rw [hids]; decide)).mpr ?_
  rw [hids]
  intro id hid
  rcases List.mem_pair.mp hid with rfl | rfl
  · exact ⟨by decide, fun _ i hi => by cases hi⟩
  · exact ⟨by decide, fun _ i hi => by cases hi⟩

open LatinName in
/-- The VIN alone is an answer, and with the name it is none. -/
theorem batch_with_latin_name :
    finalStatus (handleGetData router env (request []) (str "ecu") (str "F190") world).2 = 200 ∧
      ¬ BatchIsolates router env (request (str "F190,name")) (str "ecu") world := by
  have hids : batchIds (request (str "F190,name")) = [str "F190", str "name"] := by decide
  have hname : (streamBody (str "name") (outcomeFor env (some catalog) answer (str "name"))).utf8 =
      false := rfl
  refine ⟨rfl, ?_⟩
  rintro ⟨res, items, hres, -⟩
  rw [handleGetDataBatch_answer hasBackend answersPerDid (by rw [hids]; decide), hids] at hres
  have hutf := (items_utf8 _).mp (Response.setJson_eq_ok hres).1 _
    (List.mem_map_of_mem (List.mem_pair.mpr (.inr rfl)))
  exact absurd hutf (by rw [Bool.not_eq_true]; exact hname)

end Sovd
