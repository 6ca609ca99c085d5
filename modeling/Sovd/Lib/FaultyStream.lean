import Mathlib.Data.List.Basic

/-!
# Reading from a stream that can fail

What the other end of a blocking connection will deliver, in order: items, and
between them the moments at which the reader finds nothing and gives up
(`timeout`), the end of the stream (`closed`, which every later read meets
again) or a failure of the connection (`error`). A script that runs out is a
peer that says nothing more.

`readExact n` is the loop every length-prefixed protocol is built on: read
until `n` items have come. Two facts carry its users:

> `readExact_eq_ok`: it succeeds exactly when the script starts with `n` items,
> and then takes these and nothing else;
> `suffix_of_readExact`: however it ends, what is left is the end of what there was.

Items are arbitrary, so they may carry labels the reader never looks at.
-/

/-- What a read meets. -/
inductive StreamEvent (β : Type*)
  | item (b : β)
  | timeout
  | closed
  | error
  deriving DecidableEq, Repr

/-- How a read ended. -/
inductive ReadResult
  | ok
  | closed
  | timeout
  | error
  deriving DecidableEq, Repr

namespace StreamEvent

variable {β : Type*}

/-- The item an event delivers, if it is one. -/
def item? : StreamEvent β → Option β
  | item b => some b
  | _ => none

/-- Everything a script still delivers. -/
def items (s : List (StreamEvent β)) : List β := s.filterMap item?

/-- A script on which nothing goes wrong. -/
def ofItems (bs : List β) : List (StreamEvent β) := bs.map item

@[simp] theorem items_append (s t : List (StreamEvent β)) : items (s ++ t) = items s ++ items t :=
  List.filterMap_append

@[simp] theorem items_ofItems (bs : List β) : items (ofItems bs) = bs := by
  simp [items, ofItems, List.filterMap_map, Function.comp_def, item?]

@[simp] theorem ofItems_append (bs cs : List β) : ofItems (bs ++ cs) = ofItems bs ++ ofItems cs :=
  List.map_append

/-- Read until `n` items have come; a short read keeps none of them for later. -/
def readExact : Nat → List (StreamEvent β) → ReadResult × List β × List (StreamEvent β)
  | 0, s => (.ok, [], s)
  | _ + 1, [] => (.timeout, [], [])
  | n + 1, item b :: s =>
    let (r, bs, s') := readExact n s
    (r, b :: bs, s')
  | _ + 1, timeout :: s => (.timeout, [], s)
  | _ + 1, closed :: s => (.closed, [], closed :: s)
  | _ + 1, error :: s => (.error, [], s)

/-- A read succeeds exactly on a script that starts with enough items. -/
theorem readExact_eq_ok {n : Nat} {s s' : List (StreamEvent β)} {bs : List β} :
    readExact n s = (.ok, bs, s') ↔ s = ofItems bs ++ s' ∧ bs.length = n := by
  induction n generalizing s bs with
  | zero =>
    rw [readExact]
    constructor
    · intro h
      obtain ⟨rfl, rfl⟩ : bs = [] ∧ s = s' := by simpa using h
      exact ⟨rfl, rfl⟩
    · intro h
      obtain ⟨rfl, hlen⟩ := h
      rw [List.eq_nil_of_length_eq_zero hlen]
      rfl
  | succ n ih =>
    cases s with
    | nil => cases bs <;> simp [readExact, ofItems]
    | cons e s =>
      cases e with
      | item b =>
        -- the rest of the read is a read of the rest
        cases bs with
        | nil => simp [readExact]
        | cons c bs =>
          simp only [readExact, Prod.mk.injEq, List.cons.injEq, ofItems, List.map_cons,
            List.cons_append, item.injEq, List.length_cons, Nat.add_right_cancel_iff]
          have hi : readExact n s = (.ok, bs, s') ↔ s = bs.map item ++ s' ∧ bs.length = n := ih
          constructor
          · intro h
            obtain ⟨hr, ⟨rfl, hbs⟩, hs'⟩ := h
            obtain ⟨hs, hlen⟩ := hi.mp (Prod.ext hr (Prod.ext hbs hs'))
            exact ⟨⟨rfl, hs⟩, hlen⟩
          · intro h
            obtain ⟨⟨rfl, hs⟩, hlen⟩ := h
            have hr := hi.mpr ⟨hs, hlen⟩
            rw [hr]
            exact ⟨rfl, ⟨rfl, rfl⟩, rfl⟩
      | timeout => cases bs <;> simp [readExact, ofItems]
      | closed => cases bs <;> simp [readExact, ofItems]
      | error => cases bs <;> simp [readExact, ofItems]

/-- What a read leaves is the end of what there was. -/
theorem readExact_suffix (n : Nat) (s : List (StreamEvent β)) :
    (readExact n s).2.2 <:+ s := by
  fun_induction readExact n s with
  | case1 s => exact List.suffix_refl s
  | case2 => exact List.suffix_refl []
  | case3 n b s r bs s' h ih =>
    rw [h] at ih
    exact ih.trans (List.suffix_cons ..)
  | case4 n s => exact List.suffix_cons ..
  | case5 n s => exact List.suffix_refl _
  | case6 n s => exact List.suffix_cons ..

/-- However a read ends, what is left to deliver was there before. -/
theorem suffix_of_readExact {n : Nat} {s s' : List (StreamEvent β)} {r : ReadResult} {bs : List β}
    (h : readExact n s = (r, bs, s')) : s' <:+ s := by
  have hsuf := readExact_suffix n s
  rw [h] at hsuf
  exact hsuf

theorem mem_items_of_suffix {s s' : List (StreamEvent β)} (h : s' <:+ s) {b : β}
    (hb : b ∈ items s') : b ∈ items s :=
  (h.filterMap item?).subset hb

end StreamEvent
