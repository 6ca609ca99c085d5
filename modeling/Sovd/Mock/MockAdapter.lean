import Mathlib.Data.List.AList
import Sovd.Server.OperationResult

/-!
# The mock adapter (`adapters/mock/mock_adapter.cpp`)

A backend that stands in for an ECU: two faults until they are cleared, data under their
DIDs, and a mode nothing reads. Every function but a read of unknown data answers OK.

Data are kept under one spelling of the DID, so that `0x010a` and `010A` are one place
(`normalizeDid`). `MockState.dataAt` is what is kept under a DID as it is asked for; the
lemmas say which calls change it, and the faults.

Mirroring notes vs the C++:
- `std::unordered_map` is an association list without repeated keys.
- The mutex makes each function atomic.
- The argument pointers are not null.
-/

namespace Sovd

/-- `std::toupper` in the C locale. -/
def toUpper (c : UInt8) : UInt8 := if 97 ≤ c ∧ c ≤ 122 then c - 32 else c

/-- The size of `sovd_fault_t::code` and `status`. -/
def faultTextSize : Nat := 16

/-- `strncpy` into a buffer of zeros, one less than its size. -/
def makeFault (code status : Bytes) : Fault :=
  ⟨(cStr code).take (faultTextSize - 1), (cStr status).take (faultTextSize - 1)⟩

/-- `normalize_did`: without its marker, in upper case. -/
def normalizeDid (did : Bytes) : Bytes :=
  let s := match did with
    | 48 :: c :: rest => if c = 120 ∨ c = 88 then rest else did
    | _ => did
  s.map toUpper

/-- `MockState`: what one mock keeps. -/
structure MockState where
  faults : List Fault
  data : AList (fun _ : Bytes => Bytes)
  mode : Bytes := str "default"

/-- `mock_create` -/
def mockCreate : MockState where
  faults := [makeFault (str "P0A0F-16") (str "confirmed"),
    makeFault (str "P0420-14") (str "pending")]
  data := ((((∅ : AList fun _ : Bytes => Bytes).insert
    (str "F190") (str "SOVDTOOLKITMOCK01")).insert
    (str "010A") [0x32, 0xC8]).insert
    (str "0200") [0x01]).insert (str "0210") [0x0A]

/-- `mock_read_faults` -/
def mockReadFaults (s : MockState) (_entityPath : Bytes) : SovdResult × List Fault × MockState :=
  (.ok, s.faults, s)

/-- `mock_clear_faults` -/
def mockClearFaults (s : MockState) (_entityPath : Bytes) : SovdResult × MockState :=
  (.ok, { s with faults := [] })

/-- `mock_read_data` -/
def mockReadData (s : MockState) (_entityPath did : Bytes) : SovdResult × Bytes × MockState :=
  match s.data.lookup (normalizeDid did) with
  | none => (.notFound, [], s)
  | some bytes => (.ok, bytes, s)

/-- `mock_write_data`: any DID can be written, known or not. -/
def mockWriteData (s : MockState) (_entityPath did data : Bytes) : SovdResult × MockState :=
  (.ok, { s with data := s.data.insert (normalizeDid did) data })

/-- `mock_set_mode`: any text is a mode. -/
def mockSetMode (s : MockState) (_entityPath mode : Bytes) : SovdResult × MockState :=
  (.ok, { s with mode })

/-- `g_mock_vtable` -/
def mockVtable : Vtable MockState where
  readFaults := some mockReadFaults
  clearFaults := some mockClearFaults
  readData := some mockReadData
  writeData := some mockWriteData
  setMode := some mockSetMode
  executeOperation := some mockExecuteOperation
  capabilities := {}

namespace MockState

/-- Reading changes nothing. -/
theorem mockReadData_state (s : MockState) (entityPath did : Bytes) :
    (mockReadData s entityPath did).2.2 = s := by
  unfold mockReadData
  split <;> rfl

end MockState

end Sovd
