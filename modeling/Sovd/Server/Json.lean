import Sovd.Double
import Sovd.Lib.Utf8

/-!
# The JSON documents the server builds (`nlohmann::json`)

Handlers, events and stream frames are documents, and what the server sends of
one is `dump()`. In its default, strict mode `dump` throws when a string
anywhere in the document, a key included, is not UTF-8. The text `dump` writes
is never looked at again here, so `Json.dump` returns the document itself when
there is something to send.

Mirroring notes vs the C++:
- Integers the parser reads as integers stay integers; other numbers are
  `Double`.
- An object is the list of its members in the order they were put in; no key is
  put in twice (`set` overwrites, as `operator[]` does).
- `json::parse` is third-party code far too large to embed. Whoever parses takes
  it as a parameter (`JsonParser`), and where the argument needs it, the fact
  that what was parsed is UTF-8 throughout (`JsonParser.Strict`).
-/

namespace Sovd

/-- A JSON document; members keep the order they were written in. -/
inductive Json
  | null
  | bool (b : Bool)
  | int (i : Int)
  | float (x : Double)
  | str (s : Bytes)
  | arr (items : List Json)
  | obj (members : List (Bytes × Json))

/-- What the library throws. -/
inductive Exn
  | invalidUtf8
  deriving DecidableEq, Repr

namespace Json

mutual

/-- Every string of the document is UTF-8. -/
def utf8 : Json → Bool
  | .str s => Utf8.valid s
  | .arr items => utf8Items items
  | .obj members => utf8Members members
  | _ => true

/-- The same of items. -/
def utf8Items : List Json → Bool
  | [] => true
  | j :: js => utf8 j && utf8Items js

/-- The same of members, keys included. -/
def utf8Members : List (Bytes × Json) → Bool
  | [] => true
  | (k, j) :: ms => Utf8.valid k && (utf8 j && utf8Members ms)

end

/-- `dump()`: the document that is written, or the exception. -/
def dump (j : Json) : Except Exn Json := if j.utf8 then .ok j else .error .invalidUtf8

/-- `j.find(key)` on an object; anything else has no members. -/
def get? (j : Json) (key : Bytes) : Option Json :=
  match j with
  | .obj members => (members.find? fun m => m.1 == key).map Prod.snd
  | _ => none

/-- `j[key] = v` on an object. -/
def set (members : List (Bytes × Json)) (key : Bytes) (v : Json) : List (Bytes × Json) :=
  members.filter (fun m => !(m.1 == key)) ++ [(key, v)]

/-- The text of a string; `none` for any other kind of value. -/
def getString? : Json → Option Bytes
  | .str s => some s
  | _ => none

/-- `is_number()`, with the value `get<double>()` returns. -/
def getNumber? : Json → Option Double
  | .int i => some (.fin i)
  | .float x => some x
  | _ => none

@[simp] theorem utf8_str (s : Bytes) : (Json.str s).utf8 = Utf8.valid s := by rw [utf8]

@[simp] theorem utf8_int (i : Int) : (Json.int i).utf8 = true := by simp [utf8]

@[simp] theorem utf8_float (x : Double) : (Json.float x).utf8 = true := by simp [utf8]

@[simp] theorem utf8_obj (ms : List (Bytes × Json)) : (Json.obj ms).utf8 = utf8Members ms := by
  rw [utf8]

@[simp] theorem utf8_arr (js : List Json) :
    (Json.arr js).utf8 = true ↔ ∀ j ∈ js, j.utf8 = true := by
  rw [utf8]
  induction js with
  | nil => simp [utf8Items]
  | cons j js ih => rw [utf8Items, Bool.and_eq_true, ih, List.forall_mem_cons]

@[simp] theorem utf8Members_nil : utf8Members [] = true := by rw [utf8Members]

@[simp] theorem utf8Members_cons (k : Bytes) (j : Json) (ms : List (Bytes × Json)) :
    utf8Members ((k, j) :: ms) = (Utf8.valid k && (j.utf8 && utf8Members ms)) := by
  rw [utf8Members]

/-- Members are UTF-8 if each of them is. -/
theorem utf8Members_iff {ms : List (Bytes × Json)} :
    utf8Members ms = true ↔ ∀ m ∈ ms, Utf8.valid m.1 = true ∧ m.2.utf8 = true := by
  induction ms with
  | nil => simp
  | cons m ms ih =>
    obtain ⟨k, j⟩ := m
    rw [utf8Members_cons, Bool.and_eq_true, Bool.and_eq_true, ih]
    simp [and_assoc]

/-- A member that is set is there. -/
@[simp] theorem get?_set_self (ms : List (Bytes × Json)) (k : Bytes) (v : Json) :
    (Json.obj (set ms k v)).get? k = some v := by
  have hnone : (ms.filter fun m => !(m.1 == k)).find? (fun m => m.1 == k) = none := by
    rw [List.find?_eq_none]
    intro m hm
    have := (List.mem_filter.mp hm).2
    simpa using this
  simp [get?, set, List.find?_append, hnone]

theorem get?_set_of_ne {ms : List (Bytes × Json)} {k k' : Bytes} {v : Json} (h : k' ≠ k) :
    (Json.obj (set ms k v)).get? k' = (Json.obj ms).get? k' := by
  have hk : (k == k') = false := by simpa using fun he => h he.symm
  have hfind : (ms.filter fun m => !(m.1 == k)).find? (fun m => m.1 == k') =
      ms.find? fun m => m.1 == k' := by
    rw [List.find?_filter]
    congr 1
    funext m
    by_cases hm : m.1 = k'
    · simp [hm, h]
    · simp [hm]
  simp [get?, set, List.find?_append, hfind, hk]

/-- A member that is put in adds its own text to what has to be UTF-8. -/
theorem utf8Members_set {ms : List (Bytes × Json)} {k : Bytes} {v : Json}
    (h : ∀ m ∈ ms, m.1 ≠ k) :
    utf8Members (set ms k v) = (utf8Members ms && (Utf8.valid k && v.utf8)) := by
  have hfilter : ms.filter (fun m => !(m.1 == k)) = ms :=
    List.filter_eq_self.mpr fun m hm => by simpa using h m hm
  rw [set, hfilter, Bool.eq_iff_iff, Bool.and_eq_true, utf8Members_iff, utf8Members_iff]
  simp only [List.mem_append, List.mem_singleton, Bool.and_eq_true, or_imp, forall_and,
    forall_eq]
  tauto

/-- A document that is written is the document, and it is UTF-8. -/
theorem dump_eq_ok {j d : Json} : j.dump = .ok d ↔ j.utf8 = true ∧ d = j := by
  unfold dump
  split_ifs with h
  · simp [h, eq_comm]
  · simp [h]

/-- A document that is UTF-8 is written. -/
theorem dump_of_utf8 {j : Json} (h : j.utf8 = true) : j.dump = .ok j := dump_eq_ok.mpr ⟨h, rfl⟩

/-- A document that is not UTF-8 throws. -/
theorem dump_of_not_utf8 {j : Json} (h : j.utf8 = false) : j.dump = .error .invalidUtf8 := by
  rw [dump, h]
  rfl

end Json

/-- `json::parse` on a text: the document, or an exception (`none`). -/
abbrev JsonParser := Bytes → Option Json

/-- The parser checks the encoding of what it reads. -/
def JsonParser.Strict (parse : JsonParser) : Prop := ∀ text j, parse text = some j → j.utf8 = true

/-- A string member of a parsed document is UTF-8. -/
theorem JsonParser.Strict.getString {parse : JsonParser} (h : parse.Strict) {text key s : Bytes}
    {j v : Json} (hp : parse text = some j) (hv : j.get? key = some v)
    (hs : v.getString? = some s) : Utf8.valid s = true := by
  have hj := h text j hp
  cases j with
  | obj members =>
    rw [Json.get?, Option.map_eq_some_iff] at hv
    obtain ⟨m, hm, rfl⟩ := hv
    rw [Json.utf8_obj, Json.utf8Members_iff] at hj
    have hmem := (hj m (List.mem_of_find?_eq_some hm)).2
    cases hk : m.2 with
    | str t =>
      rw [hk] at hs hmem
      obtain rfl : t = s := by simpa [Json.getString?] using hs
      rwa [Json.utf8_str] at hmem
    | _ =>
      rw [hk] at hs
      simp [Json.getString?] at hs
  | _ => simp [Json.get?] at hv

end Sovd
