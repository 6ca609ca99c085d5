import Sovd.Uds.UdsAdapter

/-!
# Reading the fault memory (`uds_doip_read_faults`)

The response to ReadDTCInformation is a list of records, three bytes for the trouble code
and one for its status. The adapter writes each code as a text (`formatDtc`), copies the
texts into the fixed fields of `sovd_fault_t`, and that is what a client sees.

The texts tell the codes apart (`formatDtc_injective`), and they fit (`readFaults_eq`).
What is not kept is the end of a response that breaks off in a record: the loop stops
before it and the rest of the list is reported as the whole (`nothing_lost_iff`).

Mirroring notes vs the C++:
- The loop `while (i + 4 <= size)` is a recursion on four bytes at a time.
- `snprintf` and `strncpy` cut off at the size of the buffer; a fault's fields are the C
  strings in them.
-/

namespace Sovd

namespace Uds

/-- ReadDTCInformation. -/
def kSidReadDtcInformation : UInt8 := 0x19
/-- Report DTCs by status mask, the one report the adapter asks for. -/
def kSubReportDtcByStatusMask : UInt8 := 0x02

/-- `DtcEntry` -/
structure DtcEntry where
  code : Bytes
  status : Bytes
  deriving DecidableEq

/-- `kCategories[n]`. -/
def dtcCategory (n : Nat) : UInt8 :=
  if n = 0 then 80 else if n = 1 then 67 else if n = 2 then 66 else 85

/-- `snprintf(buf, 16, "%c%d%X%X%X-%02X", …)`. -/
def formatDtc (b₀ b₁ b₂ : UInt8) : Bytes :=
  List.take 15
    [dtcCategory (b₀.toNat / 64), UInt8.ofNat (48 + b₀.toNat / 16 % 4), hexChar (b₀.toNat % 16),
      hexChar (b₁.toNat / 16), hexChar (b₁.toNat % 16), 45,
      hexChar (b₂.toNat / 16), hexChar (b₂.toNat % 16)]

/-- `dtc_status_to_string`: the first of three bits that is set. -/
def dtcStatusToString (statusByte : UInt8) : Bytes :=
  if statusByte &&& 0x08 ≠ 0 then str "confirmed"
  else if statusByte &&& 0x04 ≠ 0 then str "pending"
  else if statusByte &&& 0x01 ≠ 0 then str "testFailed"
  else str "pending"

/-- `encode_read_dtc_by_status_mask` -/
def encodeReadDtcByStatusMask (statusMask : UInt8) : Bytes :=
  [kSidReadDtcInformation, kSubReportDtcByStatusMask, statusMask]

/-- The loop over the records; what is left at the end is dropped. -/
def decodeDtcRecords : Bytes → List DtcEntry
  | b₀ :: b₁ :: b₂ :: status :: rest =>
    ⟨formatDtc b₀ b₁ b₂, dtcStatusToString status⟩ :: decodeDtcRecords rest
  | _ => []

/-- After the sub-function comes the availability mask. -/
def decodeReadDtcByStatusMask (response : Bytes) : Option (List DtcEntry) :=
  match response with
  | sid :: sub :: _ :: records =>
    if sid ≠ kSidReadDtcInformation + 0x40 ∨ sub ≠ kSubReportDtcByStatusMask then none
    else some (decodeDtcRecords records)
  | _ => none

end Uds

open Uds SessionManager

/-- `std::strncpy` of a text into a field of 16 bytes that was cleared. -/
def faultField (text : Bytes) : Bytes := (cStr text).take 15

namespace UdsContext

/-- `uds_doip_read_faults`: all DTCs, whatever their status. -/
def readFaults (c : UdsContext) (s : SessionManager) (_entityPath : Bytes) :
    SovdResult × List Fault × SessionManager :=
  match send c.bus (encodeReadDtcByStatusMask 0xFF) s with
  | (none, s) => (.transport, [], s)
  | (some resp, s) =>
    match decodeReadDtcByStatusMask resp with
    | none => (negativeOrInternal resp, [], s)
    | some entries => (.ok, entries.map fun e => ⟨faultField e.code, faultField e.status⟩, s)

end UdsContext

/-! ## Codes -/

/-- Hex digits tell numbers apart. -/
theorem hexChar_injOn {m n : Nat} (hm : m < 16) (hn : n < 16) (h : hexChar m = hexChar n) :
    m = n := by
  have hread := nibble_hexChar m hm
  rw [h, nibble_hexChar n hn] at hread
  exact (Option.some.inj hread).symm

/-- The letters tell the categories apart. -/
theorem dtcCategory_injOn : ∀ m < 4, ∀ n < 4, dtcCategory m = dtcCategory n → m = n := by decide

/-- The text of a code determines its three bytes. -/
theorem formatDtc_injective {b₀ b₁ b₂ c₀ c₁ c₂ : UInt8}
    (h : formatDtc b₀ b₁ b₂ = formatDtc c₀ c₁ c₂) : b₀ = c₀ ∧ b₁ = c₁ ∧ b₂ = c₂ := by
  have hb₀ := b₀.toNat_lt
  have hb₁ := b₁.toNat_lt
  have hb₂ := b₂.toNat_lt
  have hc₀ := c₀.toNat_lt
  have hc₁ := c₁.toNat_lt
  have hc₂ := c₂.toNat_lt
  simp only [formatDtc, List.take_succ_cons, List.take_nil, List.cons.injEq, true_and,
    and_true] at h
  obtain ⟨hcategory, hfirst, hsecond, hthird, hfourth, hfifth, hsixth⟩ := h
  have hcategory := dtcCategory_injOn _ (by omega) _ (by omega) hcategory
  have hfirst : b₀.toNat / 16 % 4 = c₀.toNat / 16 % 4 := by
    have hdigit := congrArg UInt8.toNat hfirst
    simp only [UInt8.toNat_ofNat'] at hdigit
    omega
  have hsecond := hexChar_injOn (by omega) (by omega) hsecond
  have hthird := hexChar_injOn (by omega) (by omega) hthird
  have hfourth := hexChar_injOn (by omega) (by omega) hfourth
  have hfifth := hexChar_injOn (by omega) (by omega) hfifth
  have hsixth := hexChar_injOn (by omega) (by omega) hsixth
  refine ⟨UInt8.toNat_inj.mp ?_, UInt8.toNat_inj.mp ?_, UInt8.toNat_inj.mp ?_⟩
  · omega
  · omega
  · omega

/-! ## The fields of a fault -/

/-- Every text the decoder makes is printable and at most ten characters long. -/
theorem formatDtc_length (b₀ b₁ b₂ : UInt8) : (formatDtc b₀ b₁ b₂).length = 8 := rfl

/-- A code has no NUL in it. -/
theorem nul_not_mem_formatDtc (b₀ b₁ b₂ : UInt8) : (0 : UInt8) ∉ formatDtc b₀ b₁ b₂ := by
  have hb₀ := b₀.toNat_lt
  have hb₁ := b₁.toNat_lt
  have hb₂ := b₂.toNat_lt
  have hcategory : ∀ n < 4, dtcCategory n ≠ 0 := by decide
  have hdigit : ∀ n < 4, UInt8.ofNat (48 + n) ≠ 0 := by decide
  have hhex : ∀ n < 16, hexChar n ≠ 0 := by decide
  intro h
  simp only [formatDtc, List.take_succ_cons, List.take_nil, List.mem_cons, List.not_mem_nil,
    or_false] at h
  rcases h with h | h | h | h | h | h | h | h
  · exact hcategory _ (by omega) h.symm
  · exact hdigit _ (by omega) h.symm
  · exact hhex _ (by omega) h.symm
  · exact hhex _ (by omega) h.symm
  · exact hhex _ (by omega) h.symm
  · exact absurd h (by decide)
  · exact hhex _ (by omega) h.symm
  · exact hhex _ (by omega) h.symm

/-- A short text without a NUL fits the field of a fault. -/
theorem faultField_eq_self {text : Bytes} (hnul : (0 : UInt8) ∉ text) (hlen : text.length ≤ 15) :
    faultField text = text := by
  rw [faultField, cStr_eq_self.mpr hnul, List.take_of_length_le hlen]

/-- A code fits the field of a fault. -/
theorem faultField_formatDtc (b₀ b₁ b₂ : UInt8) :
    faultField (formatDtc b₀ b₁ b₂) = formatDtc b₀ b₁ b₂ :=
  faultField_eq_self (nul_not_mem_formatDtc b₀ b₁ b₂) (by rw [formatDtc_length]; decide)

/-- A status fits the field of a fault. -/
theorem faultField_dtcStatus (statusByte : UInt8) :
    faultField (dtcStatusToString statusByte) = dtcStatusToString statusByte := by
  unfold dtcStatusToString
  split_ifs <;> rfl

/-- Copying an entry that was decoded loses nothing. -/
theorem faultField_of_decoded {records : Bytes} {e : DtcEntry} (h : e ∈ decodeDtcRecords records) :
    faultField e.code = e.code ∧ faultField e.status = e.status := by
  induction records using decodeDtcRecords.induct with
  | case1 b₀ b₁ b₂ status rest ih =>
    rw [decodeDtcRecords] at h
    rcases List.mem_cons.mp h with rfl | h
    · exact ⟨faultField_formatDtc b₀ b₁ b₂, faultField_dtcStatus status⟩
    · exact ih h
  | case2 records hshort =>
    rw [decodeDtcRecords] at h
    · cases h
    · exact hshort

/-! ## Records -/

/-- A record of the response. -/
structure DtcRecord where
  b₀ : UInt8
  b₁ : UInt8
  b₂ : UInt8
  status : UInt8

namespace DtcRecord

/-- The four bytes of a record. -/
def bytes (r : DtcRecord) : Bytes := [r.b₀, r.b₁, r.b₂, r.status]

/-- What it is decoded to. -/
def entry (r : DtcRecord) : DtcEntry := ⟨formatDtc r.b₀ r.b₁ r.b₂, dtcStatusToString r.status⟩

end DtcRecord

/-- Records are decoded one by one. -/
theorem decodeDtcRecords_flatMap (records : List DtcRecord) (rest : Bytes) :
    decodeDtcRecords (records.flatMap DtcRecord.bytes ++ rest) =
      records.map DtcRecord.entry ++ decodeDtcRecords rest := by
  induction records with
  | nil => rfl
  | cons r records ih =>
    rw [List.flatMap_cons, List.append_assoc]
    show decodeDtcRecords (r.b₀ :: r.b₁ :: r.b₂ :: r.status :: (_ ++ rest)) = _
    rw [decodeDtcRecords, ih]
    rfl

/-- A list of bytes is records as long as there are four bytes. -/
theorem exists_records (l : Bytes) :
    ∃ (records : List DtcRecord) (rest : Bytes),
      l = records.flatMap DtcRecord.bytes ++ rest ∧ rest.length < 4 := by
  induction l using decodeDtcRecords.induct with
  | case1 b₀ b₁ b₂ status l ih =>
    obtain ⟨records, rest, rfl, hrest⟩ := ih
    exact ⟨⟨b₀, b₁, b₂, status⟩ :: records, rest, rfl, hrest⟩
  | case2 l hshort =>
    refine ⟨[], l, rfl, ?_⟩
    match l, hshort with
    | [], _ => decide
    | [_], _ => simp
    | [_, _], _ => simp
    | [_, _, _], _ => simp
    | a :: b :: c :: d :: l, hshort => exact absurd rfl (hshort a b c d l)

/-- Each takes four bytes. -/
theorem length_flatMap_bytes (records : List DtcRecord) :
    (records.flatMap DtcRecord.bytes).length = 4 * records.length := by
  induction records with
  | nil => rfl
  | cons r records ih =>
    rw [List.flatMap_cons, List.length_append, ih, List.length_cons]
    show 4 + _ = _
    ring

/-- A response that is accepted is whole records after the mask, and what is reported is
one fault for each, in order, with the texts of that record and a code that no other
trouble code has. -/
structure NothingLost (response : Bytes) : Prop where
  entries : ∀ entries, decodeReadDtcByStatusMask response = some entries →
    ∃ mask, ∃ records : List DtcRecord,
      response = (kSidReadDtcInformation + 0x40) :: kSubReportDtcByStatusMask :: mask ::
        records.flatMap DtcRecord.bytes ∧
      entries = records.map DtcRecord.entry ∧
      ∀ r ∈ records, ∀ r' : DtcRecord, r.entry.code = r'.entry.code →
        r.b₀ = r'.b₀ ∧ r.b₁ = r'.b₁ ∧ r.b₂ = r'.b₂
  faults : ∀ entries, decodeReadDtcByStatusMask response = some entries →
    ∀ (c : UdsContext) (s s' : SessionManager) (path : Bytes),
      send c.bus (encodeReadDtcByStatusMask 0xFF) s = (some response, s') →
        c.readFaults s path = (.ok, entries.map fun e => ⟨e.code, e.status⟩, s')

/-- The adapter lists what was decoded. -/
theorem readFaults_eq {response : Bytes} {entries : List DtcEntry} {c : UdsContext}
    {s s' : SessionManager} (path : Bytes)
    (hdecode : decodeReadDtcByStatusMask response = some entries)
    (hsend : send c.bus (encodeReadDtcByStatusMask 0xFF) s = (some response, s')) :
    c.readFaults s path = (.ok, entries.map fun e => ⟨e.code, e.status⟩, s') := by
  have hfields : ∀ e ∈ entries, faultField e.code = e.code ∧ faultField e.status = e.status := by
    unfold decodeReadDtcByStatusMask at hdecode
    split at hdecode
    next sid sub mask records =>
      split_ifs at hdecode
      obtain rfl := Option.some.inj hdecode
      exact fun e he => faultField_of_decoded he
    next => cases hdecode
  rw [UdsContext.readFaults, hsend]
  dsimp only
  rw [hdecode]
  dsimp only
  congr 2
  refine List.map_congr_left fun e he => ?_
  rw [(hfields e he).1, (hfields e he).2]

/-- **No fault is lost of a response to ReadDTCInformation exactly if its record area is a
multiple of four bytes.** -/
theorem nothing_lost_iff (response : Bytes) :
    NothingLost response ↔
      ∀ mask area,
        response = (kSidReadDtcInformation + 0x40) :: kSubReportDtcByStatusMask :: mask :: area →
          area.length % 4 = 0 := by
  constructor
  · rintro h mask area rfl
    have haccepted : decodeReadDtcByStatusMask
        ((kSidReadDtcInformation + 0x40) :: kSubReportDtcByStatusMask :: mask :: area) =
          some (decodeDtcRecords area) := by
      simp [decodeReadDtcByStatusMask]
    obtain ⟨mask', records, harea, -⟩ := h.entries _ haccepted
    simp only [List.cons.injEq, true_and] at harea
    rw [harea.2, length_flatMap_bytes, Nat.mul_mod_right]
  · intro h
    refine ⟨fun entries hentries => ?_, fun entries hentries c s s' path hsend =>
      readFaults_eq path hentries hsend⟩
    unfold decodeReadDtcByStatusMask at hentries
    split at hentries
    next sid sub mask area =>
      split_ifs at hentries with hhead
      rw [not_or, not_not, not_not] at hhead
      obtain ⟨rfl, rfl⟩ := hhead
      obtain ⟨records, rest, rfl, hrest⟩ := exists_records area
      have hlen := h mask _ rfl
      rw [List.length_append, length_flatMap_bytes] at hlen
      obtain rfl := List.length_eq_zero_iff.mp (show rest.length = 0 by omega)
      rw [decodeDtcRecords_flatMap] at hentries
      obtain rfl := Option.some.inj hentries
      refine ⟨mask, records, by rw [List.append_nil], by simp [decodeDtcRecords], ?_⟩
      exact fun r _ r' hcode => formatDtc_injective hcode
    next => cases hentries

/-- A response that breaks off in its only record is an empty fault memory. -/
theorem broken_off_is_empty :
    decodeReadDtcByStatusMask [0x59, 0x02, 0xFF, 0x0A, 0x0F, 0x16] = some [] ∧
      ¬ NothingLost [0x59, 0x02, 0xFF, 0x0A, 0x0F, 0x16] := by
  refine ⟨rfl, fun h => ?_⟩
  have harea := (nothing_lost_iff _).mp h 0xFF [0x0A, 0x0F, 0x16] rfl
  exact absurd harea (by decide)

end Sovd
