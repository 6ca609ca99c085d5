import Mathlib.Data.List.Basic
import Mathlib.Tactic.SplitIfs

/-!
# Well-formed UTF-8

A byte string is text when a small automaton, started between two characters,
ends between two characters. The states say which bytes may come next; the four
that are not plain continuations rule out overlong forms, surrogates and code
points past `U+10FFFF`.

Serialisers refuse what is not text, so the users of this file need to know
when a string built by concatenation is text: pieces that are text may be put
together (`valid_append`), and an ASCII byte after a piece shows that the piece
was text by itself (`valid_append_ascii`).
-/

namespace Utf8

/-- Where the automaton stands. -/
inductive State
  | start
  | tail1
  | tail2
  | tail3
  | afterE0
  | afterED
  | afterF0
  | afterF4
  deriving DecidableEq, Repr

def State.all : List State := [start, tail1, tail2, tail3, afterE0, afterED, afterF0, afterF4]

theorem State.mem_all (q : State) : q ∈ State.all := by
  cases q <;> decide

/-- `next`, if the byte lies in the range. -/
def within (lo hi b : UInt8) (next : State) : Option State :=
  if lo ≤ b ∧ b ≤ hi then some next else none

/-- One byte. -/
def step : State → UInt8 → Option State
  | .start, b =>
    if b ≤ 0x7F then some .start
    else if 0xC2 ≤ b ∧ b ≤ 0xDF then some .tail1
    else if b = 0xE0 then some .afterE0
    else if b = 0xED then some .afterED
    else if 0xE1 ≤ b ∧ b ≤ 0xEF then some .tail2
    else if b = 0xF0 then some .afterF0
    else if 0xF1 ≤ b ∧ b ≤ 0xF3 then some .tail3
    else if b = 0xF4 then some .afterF4
    else none
  | .tail1, b => within 0x80 0xBF b .start
  | .tail2, b => within 0x80 0xBF b .tail1
  | .tail3, b => within 0x80 0xBF b .tail2
  | .afterE0, b => within 0xA0 0xBF b .tail1
  | .afterED, b => within 0x80 0x9F b .tail1
  | .afterF0, b => within 0x90 0xBF b .tail2
  | .afterF4, b => within 0x80 0x8F b .tail2

/-- A whole string, from a state. -/
def run : State → List UInt8 → Option State
  | q, [] => some q
  | q, b :: s =>
    match step q b with
    | none => none
    | some q' => run q' s

/-- The string is well-formed UTF-8. -/
def valid (s : List UInt8) : Bool := run .start s == some .start

@[simp] theorem valid_nil : valid [] = true := rfl

theorem run_append (q : State) (s t : List UInt8) :
    run q (s ++ t) = (run q s).bind fun q' => run q' t := by
  induction s generalizing q with
  | nil => rfl
  | cons b s ih =>
    rw [List.cons_append, run, run]
    cases step q b with
    | none => rfl
    | some q' => exact ih q'

theorem valid_iff {s : List UInt8} : valid s = true ↔ run .start s = some .start := by
  rw [valid, beq_iff_eq]

/-- After text, what follows is judged by itself. -/
theorem valid_append {s t : List UInt8} (hs : valid s = true) : valid (s ++ t) = valid t := by
  rw [valid, valid, run_append, valid_iff.mp hs, Option.bind_some]

theorem append_valid {s t : List UInt8} (hs : valid s = true) (ht : valid t = true) :
    valid (s ++ t) = true := by
  rw [valid_append hs, ht]

/-- An ASCII byte is taken only between two characters. -/
theorem step_ascii {q : State} {b : UInt8} (hb : b ≤ 0x7F) :
    step q b = if q = .start then some .start else none := by
  have hlow : ∀ lo hi : UInt8, ∀ next, 0x80 ≤ lo → within lo hi b next = none := by
    intro lo hi next hlo
    rw [within, if_neg]
    intro h
    have h₁ := UInt8.le_iff_toNat_le.mp hb
    have h₂ := UInt8.le_iff_toNat_le.mp hlo
    have h₃ := UInt8.le_iff_toNat_le.mp h.1
    have h₄ : (0x80 : UInt8).toNat = 128 := rfl
    have h₅ : (0x7F : UInt8).toNat = 127 := rfl
    omega
  cases q
  case start =>
    rw [step, if_pos hb]
    rfl
  all_goals
    rw [step, hlow _ _ _ (by decide), if_neg (by simp)]

/-- Every ASCII string is text. -/
theorem valid_of_ascii {s : List UInt8} (h : ∀ b ∈ s, b ≤ 0x7F) : valid s = true := by
  induction s with
  | nil => rfl
  | cons b s ih =>
    have hb := h b (List.mem_cons_self ..)
    have hs := ih fun x hx => h x (List.mem_cons_of_mem _ hx)
    rw [valid_iff] at hs ⊢
    rw [run, step_ascii hb, if_pos rfl]
    exact hs

end Utf8
