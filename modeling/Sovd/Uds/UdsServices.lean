import Sovd.Uds.DoipProtocol

/-!
# UDS services (`adapters/uds_doip/src/uds_services.cpp`)

The request and response bytes of the services the adapter uses. A decoder
answers whether the response is the positive one to the request at hand; a
negative response (`7F sid nrc`) is never taken for it.

Mirroring notes vs the C++:
- An out-parameter next to a Boolean result is an `Option`.
- A response is read by pattern on its first bytes, where the C++ compares its
  size and indexes it.
-/

namespace Sovd

namespace Uds

/-- ReadDataByIdentifier. -/
def kSidReadDataByIdentifier : UInt8 := 0x22
/-- WriteDataByIdentifier. -/
def kSidWriteDataByIdentifier : UInt8 := 0x2E
/-- InputOutputControlByIdentifier. -/
def kSidIoControl : UInt8 := 0x2F
/-- ClearDiagnosticInformation. -/
def kSidClearDiagnosticInformation : UInt8 := 0x14
/-- DiagnosticSessionControl. -/
def kSidDiagnosticSessionControl : UInt8 := 0x10
/-- RoutineControl. -/
def kSidRoutineControl : UInt8 := 0x31
/-- TesterPresent. -/
def kSidTesterPresent : UInt8 := 0x3E
/-- SecurityAccess: an odd level asks for a seed, the even one above it sends the key. -/
def kSidSecurityAccess : UInt8 := 0x27

/-- The one control parameter the adapter uses. -/
def kIoControlShortTermAdjustment : UInt8 := 0x03

/-- `RoutineSubfunction::Start`. -/
def kRoutineStart : UInt8 := 0x01

/-- The NRC of a negative response, if the response is one. -/
def isNegativeResponse : Bytes → Option UInt8
  | sid :: _ :: nrc :: _ => if sid = 0x7F then some nrc else none
  | _ => none

/-- `encode_read_data_by_identifier` -/
def encodeReadDataByIdentifier (did : UInt16) : Bytes :=
  kSidReadDataByIdentifier :: appendU16 did

/-- A positive response that echoes the DID after its service id. -/
def echoesDid (sid : UInt8) (expectedDid : UInt16) : Bytes → Option Bytes
  | s :: a :: b :: data =>
    if s ≠ sid + 0x40 then none else if readU16 a b ≠ expectedDid then none else some data
  | _ => none

/-- The record of the data item, from a positive response that names it. -/
def decodeReadDataByIdentifier (response : Bytes) (expectedDid : UInt16) : Option Bytes :=
  echoesDid kSidReadDataByIdentifier expectedDid response

/-- `encode_write_data_by_identifier` -/
def encodeWriteDataByIdentifier (did : UInt16) (data : Bytes) : Bytes :=
  kSidWriteDataByIdentifier :: appendU16 did ++ data

/-- A positive response names the data item that was written. -/
def decodeWriteDataByIdentifier (response : Bytes) (expectedDid : UInt16) : Bool :=
  (echoesDid kSidWriteDataByIdentifier expectedDid response).isSome

/-- `encode_io_control`: the control parameter stands between the DID and the state. -/
def encodeIoControl (did : UInt16) (controlParam : UInt8) (data : Bytes) : Bytes :=
  kSidIoControl :: appendU16 did ++ controlParam :: data

/-- A positive response names the data item; its control parameter is not looked at. -/
def decodeIoControl (response : Bytes) (expectedDid : UInt16) : Bool :=
  (echoesDid kSidIoControl expectedDid response).isSome

/-- The group is always the default, all DTCs. -/
def encodeClearDiagnosticInformation : Bytes := [kSidClearDiagnosticInformation, 0xFF, 0xFF, 0xFF]

/-- A positive response is the SID and nothing that would name the group. -/
def decodeClearDiagnosticInformation : Bytes → Bool
  | s :: _ => s == kSidClearDiagnosticInformation + 0x40
  | [] => false

/-- The sessions that a catalog or a mode can name. -/
def sessionNameToType (name : Bytes) : Option UInt8 :=
  if name = str "default" then some 0x01
  else if name = str "programming" then some 0x02
  else if name = str "extended" then some 0x03
  else none

/-- `encode_diagnostic_session_control` -/
def encodeDiagnosticSessionControl (sessionType : UInt8) : Bytes :=
  [kSidDiagnosticSessionControl, sessionType]

/-- A positive response names the session; what follows it is not looked at. -/
def decodeDiagnosticSessionControl (response : Bytes) (expectedSessionType : UInt8) : Bool :=
  match response with
  | s :: t :: _ => s == kSidDiagnosticSessionControl + 0x40 && t == expectedSessionType
  | _ => false

/-- `encode_routine_control` -/
def encodeRoutineControl (subfunction : UInt8) (routineId : UInt16) (optionRecord : Bytes) :
    Bytes :=
  kSidRoutineControl :: subfunction :: appendU16 routineId ++ optionRecord

/-- The status record of the routine; the subfunction is not looked at. -/
def decodeRoutineControl (response : Bytes) (expectedRoutineId : UInt16) : Option Bytes :=
  match response with
  | s :: _ :: a :: b :: result =>
    if s ≠ kSidRoutineControl + 0x40 then none
    else if readU16 a b ≠ expectedRoutineId then none
    else some result
  | _ => none

/-- TesterPresent, with an answer asked for. -/
def encodeTesterPresent : Bytes := [kSidTesterPresent, 0x00]

/-- `encode_security_access_request_seed` -/
def encodeSecurityAccessRequestSeed (level : UInt8) : Bytes := [kSidSecurityAccess, level]

/-- The seed, from a positive response that names the level. -/
def decodeSecurityAccessSeed (response : Bytes) (expectedLevel : UInt8) : Option Bytes :=
  match response with
  | s :: l :: seed =>
    if s ≠ kSidSecurityAccess + 0x40 then none else if l ≠ expectedLevel then none else some seed
  | _ => none

/-- The key goes under the level above; `level + 1` is taken modulo 256. -/
def encodeSecurityAccessSendKey (level : UInt8) (key : Bytes) : Bytes :=
  kSidSecurityAccess :: (level + 1) :: key

/-- A positive response names the level of the key. -/
def decodeSecurityAccessKeyAccepted (response : Bytes) (expectedLevel : UInt8) : Bool :=
  match response with
  | s :: l :: _ => s == kSidSecurityAccess + 0x40 && l == expectedLevel + 1
  | _ => false

/-- The project's placeholder for the OEM's key derivation. -/
def deriveKeyDemoOnlyNotSecure (seed : Bytes) (level : UInt8) : Bytes :=
  seed.map fun b => b ^^^ 0xA5 ^^^ level

end Uds

end Sovd
