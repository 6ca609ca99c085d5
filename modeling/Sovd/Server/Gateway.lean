import Sovd.Server.Routes
import Sovd.Server.World

/-!
# The gateway's whitelist (`gateway_route_allowed`)

A gateway refuses, before anything is dispatched, what is in no row of a second,
hand-kept list of routes. The list is meant to mirror the registered routes, and
it lacks one of them: the route that mints stream tickets. `gateway_mirrors_iff`
says that this row is the whole difference. A ticket request that another POST
route matches as well is still let through, so the difference shows on the paths
`routeForgotten` describes and on no other.

Two tables are compared one method at a time (`any_patternsFor`); their order is
of no account.

Mirroring notes vs the C++:
- The anchors of the whitelist's patterns say what `regex_match` does anyway.
- A HEAD request is dispatched through the table of GET (`handlersFor`), but no
  route is registered for HEAD and the whitelist has no row for it
  (`gateway_answers_iff`).
-/

namespace Sovd

open Wildcard

/-! ## The two tables -/

/-- Rows of a method and a pattern. -/
abbrev RouteTable := List (Bytes × Pattern)

def gatewayRouteWhitelist : RouteTable :=
  [(str "GET", .root),
    (str "GET", .entities),
    (str "GET", .faults),
    (str "DELETE", .faults),
    (str "GET", .data),
    (str "GET", .stream),
    (str "GET", .dataItem),
    (str "PUT", .dataItem),
    (str "POST", .modes),
    (str "POST", .operation),
    (str "POST", .locks),
    (str "PUT", .lock),
    (str "DELETE", .lock),
    (str "GET", .docs)]

/-- The calls `svr.Get`, `svr.Post`, … of `register_routes`. -/
def registeredRoutes : RouteTable :=
  getHandlers.map (fun r => (str "GET", r.1)) ++ postHandlers.map (fun r => (str "POST", r.1)) ++
    putHandlers.map (fun r => (str "PUT", r.1)) ++
    deleteHandlers.map (fun r => (str "DELETE", r.1))

namespace RouteTable

/-- Some row is of that method and matches the path. -/
def hasRoute (table : RouteTable) (method path : Bytes) : Bool :=
  table.any fun r => r.1 == method && isMatch r.2 path

/-- The patterns of one method. -/
def patternsFor (table : RouteTable) (method : Bytes) : List Pattern :=
  (table.filter fun r => r.1 == method).map Prod.snd

theorem any_patternsFor (table : RouteTable) (method path : Bytes) :
    (table.patternsFor method).any (isMatch · path) = table.hasRoute method path := by
  rw [patternsFor, List.any_map, List.any_filter, hasRoute]
  rfl

end RouteTable

/-- The methods that have routes. -/
def routeMethods : List Bytes := [str "GET", str "POST", str "PUT", str "DELETE"]

theorem RouteTable.patternsFor_of_not_mem {table : RouteTable} {method : Bytes}
    (hall : ∀ r ∈ table, r.1 ∈ routeMethods) (h : method ∉ routeMethods) :
    table.patternsFor method = [] := by
  rw [patternsFor, List.map_eq_nil_iff, List.filter_eq_nil_iff]
  intro r hr heq
  exact h (beq_iff_eq.mp heq ▸ hall r hr)

def gatewayRouteAllowed (method path : Bytes) : Bool :=
  gatewayRouteWhitelist.hasRoute method path

def routeRegistered (method path : Bytes) : Bool := registeredRoutes.hasRoute method path

/-- What the pre-routing hook answers a request the server's role does not permit. -/
def gatewayRefuses (role : Bytes) (req : Request) (res : Response) :
    Option (Except Exn Response) :=
  if role = str "gateway" ∧ gatewayRouteAllowed req.method req.path = false then
    some (writeError res 403 (str "FORBIDDEN")
      (str "path/method not permitted on a gateway-tier server"))
  else none

/-! ## Where they differ -/

/-- A request for a stream ticket that no other POST route matches. -/
def routeForgotten (method path : Bytes) : Bool :=
  method == str "POST" && isMatch Pattern.streamTicket path &&
    !isMatch Pattern.operation path

/-- The two tables say the same of a request. -/
def Mirrors (method path : Bytes) : Prop :=
  gatewayRouteAllowed method path = true ↔ routeRegistered method path = true

/-- A stream ticket's path ends like no path of the modes or the locks. -/
theorem only_operation_of_streamTicket {path : Bytes}
    (h : isMatch Pattern.streamTicket path = true) :
    isMatch Pattern.modes path = false ∧ isMatch Pattern.locks path = false := by
  constructor
  · exact underEntity_disjoint [.lit (str "/data/"), Pattern.any] [] h (by decide) (by decide)
  · exact underEntity_disjoint [.lit (str "/data/"), Pattern.any] [] h (by decide) (by decide)

/-- On POST the registered routes have one pattern more. -/
theorem hasRoute_post (path : Bytes) :
    routeRegistered (str "POST") path =
      (isMatch Pattern.streamTicket path || gatewayRouteAllowed (str "POST") path) := by
  have hpatterns : registeredRoutes.patternsFor (str "POST") =
      Pattern.streamTicket :: gatewayRouteWhitelist.patternsFor (str "POST") := rfl
  rw [routeRegistered, ← RouteTable.any_patternsFor, gatewayRouteAllowed,
    ← RouteTable.any_patternsFor, hpatterns, List.any_cons]

/-- On every other method the tables have the same patterns. -/
theorem hasRoute_of_ne_post {method : Bytes} (h : method ≠ str "POST") (path : Bytes) :
    gatewayRouteAllowed method path = routeRegistered method path := by
  have hpatterns : gatewayRouteWhitelist.patternsFor method =
      registeredRoutes.patternsFor method := by
    by_cases hmem : method ∈ routeMethods
    · simp only [routeMethods, List.mem_cons, List.not_mem_nil, or_false] at hmem
      rcases hmem with rfl | rfl | rfl | rfl
      · rfl
      · exact absurd rfl h
      · have hput : gatewayRouteWhitelist.patternsFor (str "PUT") = [.dataItem, .lock] := rfl
        rw [hput]
        rfl
      · rfl
    · rw [RouteTable.patternsFor_of_not_mem (by decide) hmem,
        RouteTable.patternsFor_of_not_mem (by decide) hmem]
  rw [routeRegistered, ← RouteTable.any_patternsFor, gatewayRouteAllowed,
    ← RouteTable.any_patternsFor, hpatterns]

/-- **The whitelist mirrors the registered routes exactly outside the forgotten
route.** -/
theorem gateway_mirrors_iff (method path : Bytes) :
    Mirrors method path ↔ routeForgotten method path = false := by
  unfold Mirrors routeForgotten
  by_cases hpost : method = str "POST"
  · subst hpost
    rw [hasRoute_post, beq_self_eq_true, Bool.true_and]
    cases hticket : isMatch Pattern.streamTicket path with
    | false => simp
    | true =>
      obtain ⟨hmodes, hlocks⟩ := only_operation_of_streamTicket hticket
      have hallowed : gatewayRouteAllowed (str "POST") path =
          isMatch Pattern.operation path := by
        rw [gatewayRouteAllowed, ← RouteTable.any_patternsFor]
        show (isMatch Pattern.modes path || (isMatch Pattern.operation path ||
          (isMatch Pattern.locks path || false))) = isMatch Pattern.operation path
        rw [hmodes, hlocks, Bool.false_or, Bool.or_false, Bool.or_false]
      rw [hallowed]
      simp
  · rw [hasRoute_of_ne_post hpost, beq_eq_false_iff_ne.mpr hpost]
    simp

/-- A ticket request for a stream of the entity `ecu` goes to its handler and is
refused by a gateway. -/
theorem stream_ticket_unreachable :
    dispatch (str "POST") (str "/v1/entities/ecu/data/vin/stream-ticket") =
        some (.postStreamTicket, [str "ecu", str "vin"]) ∧
      ¬ Mirrors (str "POST") (str "/v1/entities/ecu/data/vin/stream-ticket") := by
  refine ⟨by decide +kernel, ?_⟩
  unfold Mirrors
  have hallowed : gatewayRouteAllowed (str "POST")
      (str "/v1/entities/ecu/data/vin/stream-ticket") = false := by decide +kernel
  have hregistered : routeRegistered (str "POST")
      (str "/v1/entities/ecu/data/vin/stream-ticket") = true := by decide +kernel
  rw [hallowed, hregistered]
  decide

/-! ## What a gateway answers -/

theorem handlerFor_isSome (method path : Bytes) :
    (handlerFor method path).isSome =
      ((handlersFor method).map Prod.fst).any (isMatch · path) := by
  rw [handlerFor, Option.isSome_map, List.any_map, Bool.eq_iff_iff, List.find?_isSome,
    List.any_eq_true]
  rfl

/-- HEAD apart, the routes of a method are its handlers' patterns. -/
theorem patternsFor_registeredRoutes {method : Bytes} (h : method ≠ str "HEAD") :
    registeredRoutes.patternsFor method = (handlersFor method).map Prod.fst := by
  by_cases hmem : method ∈ routeMethods
  · simp only [routeMethods, List.mem_cons, List.not_mem_nil, or_false] at hmem
    rcases hmem with rfl | rfl | rfl | rfl
    · rfl
    · rfl
    · rfl
    · rfl
  · rw [RouteTable.patternsFor_of_not_mem (by decide) hmem]
    simp only [routeMethods, List.mem_cons, List.not_mem_nil, or_false, not_or] at hmem
    obtain ⟨hget, hpost, hput, hdelete⟩ := hmem
    rw [handlersFor, if_neg (not_or.mpr ⟨hget, h⟩), if_neg hpost, if_neg hput, if_neg hdelete]
    rfl

/-- The whitelist allows what is registered and not forgotten. -/
theorem allowed_iff {method path : Bytes} :
    gatewayRouteAllowed method path = true ↔
      routeRegistered method path = true ∧ routeForgotten method path = false := by
  unfold routeForgotten
  by_cases hpost : method = str "POST"
  · subst hpost
    rw [hasRoute_post, beq_self_eq_true, Bool.true_and]
    cases hticket : isMatch Pattern.streamTicket path with
    | false => simp
    | true =>
      obtain ⟨hmodes, hlocks⟩ := only_operation_of_streamTicket hticket
      rw [gatewayRouteAllowed, ← RouteTable.any_patternsFor]
      show (isMatch Pattern.modes path || (isMatch Pattern.operation path ||
        (isMatch Pattern.locks path || false))) = true ↔ _
      rw [hmodes, hlocks, Bool.false_or, Bool.or_false, Bool.or_false]
      simp
  · rw [hasRoute_of_ne_post hpost, beq_eq_false_iff_ne.mpr hpost]
    simp

/-- **A gateway lets through what a domain server answers**, but for HEAD requests
and the forgotten route. -/
theorem gateway_answers_iff {req : Request} {res : Response} :
    gatewayRefuses (str "gateway") req res = none ↔
      (handlerFor req.method req.path).isSome = true ∧ req.method ≠ str "HEAD" ∧
        routeForgotten req.method req.path = false := by
  have hpermit : gatewayRefuses (str "gateway") req res = none ↔
      gatewayRouteAllowed req.method req.path = true := by
    unfold gatewayRefuses
    cases gatewayRouteAllowed req.method req.path <;> simp
  rw [hpermit]
  by_cases hhead : req.method = str "HEAD"
  · have hrefused : gatewayRouteAllowed req.method req.path = false := by
      have hno : str "HEAD" ∉ routeMethods := by decide
      rw [gatewayRouteAllowed, ← RouteTable.any_patternsFor, hhead,
        RouteTable.patternsFor_of_not_mem (by decide) hno, List.any_nil]
    rw [hrefused]
    exact ⟨fun h => absurd h Bool.false_ne_true, fun h => absurd hhead h.2.1⟩
  · have hanswers : (handlerFor req.method req.path).isSome =
        routeRegistered req.method req.path := by
      rw [handlerFor_isSome, ← patternsFor_registeredRoutes hhead, RouteTable.any_patternsFor]
      rfl
    rw [hanswers, allowed_iff]
    exact ⟨fun h => ⟨h.1, hhead, h.2⟩, fun h => ⟨h.1, h.2.2⟩⟩

end Sovd
