import Sovd.Bytes

/-!
# The adapter seam (`core/include/sovd/adapter.h`)

A backend is a table of functions over its own state; an entry left empty is an
operation the backend does not support. Texts cross the seam as C strings, so an
adapter sees of a `std::string` what comes before its first NUL.

`AdapterCall` is the record of one call, with the arguments as the adapter
received them and what it answered.

Mirroring notes vs the C++:
- One state `σ` stands for the contexts of all entities; the functions of an
  entity act on their part of it.
- Out-parameters are results. Nothing is freed.
-/

namespace Sovd

/-- `sovd_result_t`. -/
inductive SovdResult
  | ok
  | notFound
  | locked
  | badRequest
  | unsupported
  | busy
  | transport
  | negativeResponse
  | internal
  | forbidden
  | conflict
  deriving DecidableEq, Repr

/-- `sovd_fault_t`; both texts are C strings. -/
structure Fault where
  code : Bytes
  status : Bytes
  deriving DecidableEq

/-- `sovd_capability_t`. -/
structure Capabilities where
  supportsBatchRead : Bool := false
  supportsAsyncOperations : Bool := false
  supportsIoControl : Bool := false
  deriving DecidableEq

/-- `sovd_vtable_t`; the strings a function is given are C strings. -/
structure Vtable (σ : Type) where
  readFaults : Option (σ → (entityPath : Bytes) → SovdResult × List Fault × σ) := none
  clearFaults : Option (σ → (entityPath : Bytes) → SovdResult × σ) := none
  readData : Option (σ → (entityPath did : Bytes) → SovdResult × Bytes × σ) := none
  writeData : Option (σ → (entityPath did data : Bytes) → SovdResult × σ) := none
  setMode : Option (σ → (entityPath mode : Bytes) → SovdResult × σ) := none
  executeOperation :
    Option (σ → (entityPath op paramsJson : Bytes) → SovdResult × Option Bytes × σ) := none
  capabilities : Capabilities := {}

/-- One call of an adapter function that can change something on the ECU. -/
inductive AdapterCall
  | clearFaults (entityPath : Bytes) (ret : SovdResult)
  | writeData (entityPath did data : Bytes) (ret : SovdResult)
  | setMode (entityPath mode : Bytes) (ret : SovdResult)
  | executeOperation (entityPath op paramsJson : Bytes) (ret : SovdResult)
  deriving DecidableEq, Repr

def AdapterCall.ret : AdapterCall → SovdResult
  | clearFaults _ r => r
  | writeData _ _ _ r => r
  | setMode _ _ r => r
  | executeOperation _ _ _ r => r

end Sovd
