import Mathlib.Data.List.Basic
import Mathlib.Data.List.TakeWhile

/-!
# Escapes in a text

A text over any alphabet in which a marker may be followed by a code that stands
for something else, as `%41` does in a URL. Decoding is lenient: a marker no code
follows stands for itself. So is encoding: an encoder writes some letters as they
are and the others as a marker and a code.

Decoding never makes a text longer, and keeps its length only if nothing was
escaped (`noEscape_of_length`): what comes out of a decoder as it went in held
no escape. `length_decode_append_le` says the same of a text before an end that is
known to decode well, whatever escape straddles the seam.

The two encoders are opposite in what they do to the marker. One that escapes it
is undone by decoding (`decode_encode`); one that leaves it alone is invisible to
decoding (`decode_transparent`), which then also decodes what looked like an escape
before.
-/

universe u

/-- A marker, and what the text after one stands for: the letters, and how much of
the text is used up. -/
structure EscapeCode (α : Type u) where
  marker : α
  read : List α → Option (List α × Nat)
  read_le : ∀ {s out n}, read s = some (out, n) → n ≤ s.length
  shortens : ∀ {s out n}, read s = some (out, n) → out.length ≤ n
  unmarked : ∀ {s out n}, read s = some (out, n) → marker ∉ s.take n

namespace EscapeCode

variable {α : Type u} (E : EscapeCode α)

/-- No marker in the text is followed by a code. -/
def NoEscape (s : List α) : Prop := ∀ t, E.marker :: t <:+ s → E.read t = none

section

variable {E}

theorem noEscape_of_not_mem {s : List α} (h : E.marker ∉ s) : E.NoEscape s :=
  fun _ ht => absurd (ht.subset (List.mem_cons_self ..)) h

theorem NoEscape.tail {c : α} {s : List α} (h : E.NoEscape (c :: s)) : E.NoEscape s :=
  fun t ht => h t (ht.trans (List.suffix_cons c s))

theorem noEscape_cons_of_ne {c : α} {s : List α} (hc : c ≠ E.marker) (h : E.NoEscape s) :
    E.NoEscape (c :: s) := by
  intro t ht
  rcases List.suffix_cons_iff.mp ht with heq | ht
  · exact absurd (List.cons.inj heq).1.symm hc
  · exact h t ht

theorem noEscape_marker {s : List α} (hr : E.read s = none) (h : E.NoEscape s) :
    E.NoEscape (E.marker :: s) := by
  intro t ht
  rcases List.suffix_cons_iff.mp ht with heq | ht
  · obtain rfl := (List.cons.inj heq).2
    exact hr
  · exact h t ht

end

variable [DecidableEq α]

/-- Decoding with `skip` letters of the last code still to pass; `lit` is what
becomes of the letters outside escapes. -/
def decodeFrom (lit : α → α) : Nat → List α → List α
  | _, [] => []
  | skip + 1, _ :: s => decodeFrom lit skip s
  | 0, c :: s =>
    if c = E.marker then
      match E.read s with
      | some (out, n) => out ++ decodeFrom lit n s
      | none => c :: decodeFrom lit 0 s
    else lit c :: decodeFrom lit 0 s

def decode (lit : α → α) (s : List α) : List α := E.decodeFrom lit 0 s

variable {E} {lit : α → α}

theorem decodeFrom_eq (skip : Nat) (s : List α) :
    E.decodeFrom lit skip s = E.decode lit (s.drop skip) := by
  induction s generalizing skip with
  | nil => cases skip <;> rfl
  | cons c s ih =>
    cases skip with
    | zero => rfl
    | succ skip => exact ih skip

@[simp] theorem decode_nil : E.decode lit [] = [] := rfl

theorem decode_cons_of_ne {c : α} (h : c ≠ E.marker) (s : List α) :
    E.decode lit (c :: s) = lit c :: E.decode lit s := by
  rw [decode, decodeFrom, if_neg h]
  rfl

theorem decode_of_read {s out : List α} {n : Nat} (h : E.read s = some (out, n)) :
    E.decode lit (E.marker :: s) = out ++ E.decode lit (s.drop n) := by
  rw [decode, decodeFrom, if_pos rfl, h]
  show out ++ E.decodeFrom lit n s = _
  rw [decodeFrom_eq]

theorem decode_of_unread {s : List α} (h : E.read s = none) :
    E.decode lit (E.marker :: s) = E.marker :: E.decode lit s := by
  rw [decode, decodeFrom, if_pos rfl, h]
  rfl

variable (E) in
/-- Induction along the decoder: a letter, a marker that stands for itself, an escape. -/
theorem induction {P : List α → Prop} (nil : P [])
    (letter : ∀ c s, c ≠ E.marker → P s → P (c :: s))
    (unread : ∀ s, E.read s = none → P s → P (E.marker :: s))
    (escape : ∀ s out n, E.read s = some (out, n) → P (s.drop n) → P (E.marker :: s))
    (s : List α) : P s := by
  induction hn : s.length using Nat.strong_induction_on generalizing s with
  | _ len ih =>
    subst hn
    cases s with
    | nil => exact nil
    | cons c s =>
      by_cases hc : c = E.marker
      · subst hc
        cases hr : E.read s with
        | none => exact unread s hr (ih s.length (Nat.lt_succ_self _) s rfl)
        | some r =>
          refine escape s r.1 r.2 hr (ih (s.drop r.2).length ?_ _ rfl)
          show (s.drop r.2).length < s.length + 1
          rw [List.length_drop]
          omega
      · exact letter c s hc (ih s.length (Nat.lt_succ_self _) s rfl)

/-! ## Length -/

variable (E lit) in
theorem length_decode_le (s : List α) : (E.decode lit s).length ≤ s.length := by
  induction s using E.induction with
  | nil => exact Nat.le_refl 0
  | letter c s hc ih =>
    rw [decode_cons_of_ne hc]
    simpa using ih
  | unread s hr ih =>
    rw [decode_of_unread hr]
    simpa using ih
  | escape s out n hr ih =>
    have hle := E.read_le hr
    have hshort := E.shortens hr
    rw [decode_of_read hr, List.length_append, List.length_cons]
    rw [List.length_drop] at ih
    omega

/-- A text without escapes goes through letter by letter. -/
theorem decode_of_noEscape {s : List α} (hlit : ∀ c ∈ s, c ≠ E.marker → lit c = c)
    (h : E.NoEscape s) : E.decode lit s = s := by
  induction s using E.induction with
  | nil => rfl
  | letter c s hc ih =>
    rw [decode_cons_of_ne hc, hlit c (List.mem_cons_self ..) hc,
      ih (fun d hd => hlit d (List.mem_cons_of_mem _ hd)) h.tail]
  | unread s hr ih =>
    rw [decode_of_unread hr, ih (fun d hd => hlit d (List.mem_cons_of_mem _ hd)) h.tail]
  | escape s out n hr _ =>
    have hnone := h s (List.suffix_refl _)
    rw [hr] at hnone
    cases hnone

/-- Only a text without escapes keeps its length. -/
theorem noEscape_of_length {s : List α} (h : (E.decode lit s).length = s.length) :
    E.NoEscape s := by
  induction s using E.induction with
  | nil =>
    intro t ht
    cases List.suffix_nil.mp ht
  | letter c s hc ih =>
    rw [decode_cons_of_ne hc] at h
    exact noEscape_cons_of_ne hc (ih (Nat.succ.inj h))
  | unread s hr ih =>
    rw [decode_of_unread hr] at h
    exact noEscape_marker hr (ih (Nat.succ.inj h))
  | escape s out n hr _ =>
    -- an escape loses at least its marker, and nothing after makes up for it
    have hle := E.read_le hr
    have hshort := E.shortens hr
    have hrest := length_decode_le E lit (s.drop n)
    rw [decode_of_read hr, List.length_append, List.length_cons] at h
    rw [List.length_drop] at hrest
    omega

theorem decode_append_of_unmarked {l : List α} (h : E.marker ∉ l) (s : List α) :
    E.decode lit (l ++ s) = l.map lit ++ E.decode lit s := by
  induction l with
  | nil => rfl
  | cons c l ih =>
    have hc : c ≠ E.marker := fun heq => h (heq ▸ List.mem_cons_self ..)
    rw [List.cons_append, decode_cons_of_ne hc, ih fun hm => h (List.mem_cons_of_mem _ hm)]
    rfl

variable (E lit) in
/-- A text in front adds at most its length, also where an escape straddles the seam. -/
theorem length_decode_append_le (a b : List α) :
    (E.decode lit (a ++ b)).length ≤ a.length + (E.decode lit b).length := by
  -- on the length, since a code takes several letters
  induction hn : a.length using Nat.strong_induction_on generalizing a with
  | _ len ih =>
    subst hn
    cases a with
    | nil => simp
    | cons c a =>
      have hrest := ih a.length (Nat.lt_succ_self _) a rfl
      by_cases hc : c = E.marker
      · subst hc
        cases hr : E.read (a ++ b) with
        | none =>
          rw [List.cons_append, decode_of_unread hr, List.length_cons, List.length_cons]
          omega
        | some r =>
          obtain ⟨out, n⟩ := r
          -- a code that is read is longer than what it stands for
          have hle := E.read_le hr
          have hshort := E.shortens hr
          have hunmarked := E.unmarked hr
          rw [List.cons_append, decode_of_read hr, List.length_append, List.length_cons,
            List.drop_append]
          rw [List.length_append] at hle
          rw [List.take_append, List.mem_append, not_or] at hunmarked
          by_cases hna : n ≤ a.length
          · have hin := ih (a.drop n).length (by rw [List.length_drop, List.length_cons]; omega)
              (a.drop n) rfl
            rw [show n - a.length = 0 by omega, List.drop_zero]
            rw [List.length_drop] at hin
            omega
          · -- the code runs into `b`; what it uses up of `b` holds no marker
            have hb : E.decode lit b = (b.take (n - a.length)).map lit ++
                E.decode lit (b.drop (n - a.length)) := by
              rw [← decode_append_of_unmarked hunmarked.2, List.take_append_drop]
            rw [hb, List.drop_of_length_le (by omega), List.nil_append, List.length_append,
              List.length_map, List.length_take]
            omega
      · rw [List.cons_append, decode_cons_of_ne hc, List.length_cons, List.length_cons]
        omega

/-! ## Encoders -/

/-- An encoder that escapes the marker is undone. -/
theorem decode_encode {enc : α → List α}
    (henc : ∀ c, (enc c = [c] ∧ c ≠ E.marker ∧ lit c = c) ∨
      ∃ code, enc c = E.marker :: code ∧ ∀ rest, E.read (code ++ rest) = some ([c], code.length))
    (s : List α) : E.decode lit (s.flatMap enc) = s := by
  induction s with
  | nil => rfl
  | cons c s ih =>
    rw [List.flatMap_cons]
    rcases henc c with ⟨hself, hc, hlit⟩ | ⟨code, hcode, hread⟩
    · rw [hself, List.singleton_append, decode_cons_of_ne hc, hlit, ih]
    · rw [hcode, List.cons_append, decode_of_read (hread _), List.drop_left, ih]
      rfl

/-- An encoder that leaves the marker and every code alone is not seen by decoding. -/
theorem decode_transparent {enc : α → List α} (hmarker : enc E.marker = [E.marker])
    (henc : ∀ c, c ≠ E.marker → (enc c = [c] ∧ lit c = c) ∨
      ∃ code, enc c = E.marker :: code ∧ ∀ rest, E.read (code ++ rest) = some ([c], code.length))
    (hread : ∀ t, E.read (t.flatMap enc) = E.read t)
    (hdrop : ∀ t out n, E.read t = some (out, n) →
      (t.flatMap enc).drop n = (t.drop n).flatMap enc)
    (s : List α) : E.decode lit (s.flatMap enc) = E.decode id s := by
  induction s using E.induction with
  | nil => rfl
  | letter c s hc ih =>
    rw [List.flatMap_cons, decode_cons_of_ne hc]
    rcases henc c hc with ⟨hself, hlit⟩ | ⟨code, hcode, hcread⟩
    · rw [hself, List.singleton_append, decode_cons_of_ne hc, hlit, ih]
      rfl
    · rw [hcode, List.cons_append, decode_of_read (hcread _), List.drop_left, ih]
      rfl
  | unread s hr ih =>
    rw [List.flatMap_cons, hmarker, List.singleton_append, decode_of_unread hr,
      decode_of_unread (by rw [hread, hr]), ih]
  | escape s out n hr ih =>
    rw [List.flatMap_cons, hmarker, List.singleton_append, decode_of_read hr,
      decode_of_read (by rw [hread, hr]), hdrop s out n hr, ih]

end EscapeCode
