import Sovd.Bytes
import Sovd.Lib.Wildcard

/-!
# The route table (`Router::register_routes`)

Which handler a request goes to, and what its pattern captures. The HTTP library
keeps one table a method, in the order of registration; the first pattern that
matches the whole decoded path decides, and a HEAD request uses the table of
GET.

A pattern is a `Wildcard` pattern. Most ends are told apart by their last
literal (`not_both_of_suffix`); the one true overlap is that of a data item with
everything else that ends in something.

Mirroring notes vs the C++:
- `.` is every byte but the two line breaks; `[^/]` is every byte but a slash.
- `std::regex` captures greedily from the left, as `Wildcard.capture` does.
-/

namespace Sovd

open Wildcard

/-- A path pattern. -/
abbrev Pattern := List (Piece UInt8)

namespace Pattern

/-- `.+` -/
def any : Piece UInt8 := .plus fun c => c != 10 && c != 13

/-- `[^/]+` -/
def segment : Piece UInt8 := .plus fun c => c != 47

/-- `/` -/
def root : Pattern := [.lit (str "/")]

/-- `/v1/entities` -/
def entities : Pattern := [.lit (str "/v1/entities")]

/-- `/v1/entities/(.+)` and what follows. -/
def underEntity (rest : Pattern) : Pattern := .lit (str "/v1/entities/") :: any :: rest

/-- `/v1/entities/(.+)/faults` -/
def faults : Pattern := underEntity [.lit (str "/faults")]

/-- `/v1/entities/(.+)/data` -/
def data : Pattern := underEntity [.lit (str "/data")]

/-- `/v1/entities/(.+)/data/(.+)/stream` -/
def stream : Pattern := underEntity [.lit (str "/data/"), any, .lit (str "/stream")]

/-- `/v1/entities/(.+)/data/(.+)/stream-ticket` -/
def streamTicket : Pattern := underEntity [.lit (str "/data/"), any, .lit (str "/stream-ticket")]

/-- `/v1/entities/(.+)/data/(.+)` -/
def dataItem : Pattern := underEntity [.lit (str "/data/"), any]

/-- `/v1/entities/(.+)/modes` -/
def modes : Pattern := underEntity [.lit (str "/modes")]

/-- `/v1/entities/(.+)/operations/(.+)` -/
def operation : Pattern := underEntity [.lit (str "/operations/"), any]

/-- `/v1/entities/(.+)/locks` -/
def locks : Pattern := underEntity [.lit (str "/locks")]

/-- `/v1/entities/(.+)/locks/([^/]+)` -/
def lock : Pattern := underEntity [.lit (str "/locks/"), segment]

/-- `/v1/entities/(.+)/docs` -/
def docs : Pattern := underEntity [.lit (str "/docs")]

end Pattern

/-- The handlers that are registered. -/
inductive Handler
  | root
  | listEntities
  | getFaults
  | clearFaults
  | getDataBatch
  | streamData
  | postStreamTicket
  | getData
  | putData
  | postMode
  | postOperation
  | postLock
  | putLock
  | deleteLock
  | getDocs
  deriving DecidableEq, Repr

/-- The GET rows, in the order of registration. -/
def getHandlers : List (Pattern × Handler) :=
  [(.root, .root), (.entities, .listEntities), (.faults, .getFaults), (.data, .getDataBatch),
    (.stream, .streamData), (.dataItem, .getData), (.docs, .getDocs)]

/-- The POST rows, in the order of registration. -/
def postHandlers : List (Pattern × Handler) :=
  [(.streamTicket, .postStreamTicket), (.modes, .postMode), (.operation, .postOperation),
    (.locks, .postLock)]

/-- The PUT rows, in the order of registration. -/
def putHandlers : List (Pattern × Handler) := [(.dataItem, .putData), (.lock, .putLock)]

/-- The DELETE rows, in the order of registration. -/
def deleteHandlers : List (Pattern × Handler) := [(.faults, .clearFaults), (.lock, .deleteLock)]

/-- The table `routing` looks into. -/
def handlersFor (method : Bytes) : List (Pattern × Handler) :=
  if method = str "GET" ∨ method = str "HEAD" then getHandlers
  else if method = str "POST" then postHandlers
  else if method = str "PUT" then putHandlers
  else if method = str "DELETE" then deleteHandlers
  else []

/-- The handler of the first pattern that matches, with what it captures. -/
def dispatch (method path : Bytes) : Option (Handler × List Bytes) :=
  (handlersFor method).findSome? fun r => (capture r.1 path).map fun captures => (r.2, captures)

/-- The handler alone. -/
def handlerFor (method path : Bytes) : Option Handler :=
  ((handlersFor method).find? fun r => isMatch r.1 path).map Prod.snd

/-- The handler a request is dispatched to is that of the first row that matches. -/
theorem dispatch_handler (method path : Bytes) :
    (dispatch method path).map Prod.fst = handlerFor method path := by
  unfold dispatch handlerFor
  induction handlersFor method with
  | nil => rfl
  | cons r rs ih =>
    rw [List.findSome?_cons, List.find?_cons, isMatch]
    cases hc : capture r.1 path with
    | none =>
      rw [Option.map_none, Option.isSome_none]
      exact ih
    | some captures =>
      rw [Option.map_some, Option.isSome_some]
      rfl

/-! ## Patterns that share no path -/

section

variable {path : Bytes}

/-- Two patterns under an entity, told apart by how they end. -/
theorem underEntity_disjoint (mid₁ mid₂ : Pattern) {l₁ l₂ : Bytes}
    (hs : isMatch (Pattern.underEntity (mid₁ ++ [.lit l₁])) path = true)
    (h₁ : ¬ l₁ <:+ l₂) (h₂ : ¬ l₂ <:+ l₁) :
    isMatch (Pattern.underEntity (mid₂ ++ [.lit l₂])) path = false :=
  not_both_of_suffix (.lit (str "/v1/entities/") :: Pattern.any :: mid₁)
    (.lit (str "/v1/entities/") :: Pattern.any :: mid₂) h₁ h₂ hs

/-- What is under an entity is not the list of entities. -/
theorem entities_of_underEntity {rest : Pattern}
    (h : isMatch (Pattern.underEntity rest) path = true) :
    isMatch Pattern.entities path = false := by
  rw [Bool.eq_false_iff]
  intro hent
  obtain ⟨cs, hm⟩ := isMatch_iff.mp h
  obtain ⟨cs', hm'⟩ := isMatch_iff.mp hent
  have hpath : str "/v1/entities" = path := by
    cases hm' with
    | lit hm' =>
      cases hm'
      rw [List.append_nil]
  exact absurd (hpath ▸ hm.prefix) (by decide)

end

end Sovd
