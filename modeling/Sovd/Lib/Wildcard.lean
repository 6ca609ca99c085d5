import Mathlib.Data.List.Infix
import Mathlib.Tactic.SplitIfs

/-!
# Patterns with wildcards

A pattern is a sequence of pieces: a literal text, or a wildcard that stands for
one or more characters of a class. `Matches` is the relation between a pattern,
a text and what the wildcards stand for; a text can be cut in several ways.
`capture` computes one of them, the one a backtracking regular-expression
matcher finds first: each wildcard, from left to right, takes as much as it can.

`capture_sound` and `capture_complete` say that it computes a cut exactly when
there is one, so what a pattern matches is a matter of `Matches` alone, piece by
piece (`isMatch_lit`, `isMatch_plus`). `capture_plus` says which cut it is. The ends
of a matched text are fixed by the literals at the ends of the pattern
(`Matches.prefix`, `Matches.suffix`), which is what keeps patterns apart.
-/

namespace Wildcard

variable {α : Type*}

/-- A literal, or one letter and more of a kind. -/
inductive Piece (α : Type*)
  | lit (s : List α)
  | plus (ok : α → Bool)

/-- The pieces, the text, and what the wildcards stand for. -/
inductive Matches : List (Piece α) → List α → List (List α) → Prop
  | nil : Matches [] [] []
  | lit {l t : List α} {ps : List (Piece α)} {cs : List (List α)} (h : Matches ps t cs) :
      Matches (.lit l :: ps) (l ++ t) cs
  | plus {ok : α → Bool} {u t : List α} {ps : List (Piece α)} {cs : List (List α)}
      (hne : u ≠ []) (hok : ∀ c ∈ u, ok c = true) (h : Matches ps t cs) :
      Matches (.plus ok :: ps) (u ++ t) (u :: cs)

/-! ## The ends of what is matched -/

theorem Matches.prefix {l : List α} {ps : List (Piece α)} {s : List α} {cs : List (List α)}
    (h : Matches (.lit l :: ps) s cs) : l <+: s := by
  cases h with
  | lit h => exact List.prefix_append ..

theorem Matches.suffix {l : List α} {ps : List (Piece α)} :
    ∀ {s : List α} {cs : List (List α)}, Matches (ps ++ [.lit l]) s cs → l <:+ s := by
  induction ps with
  | nil =>
    intro s cs h
    cases h with
    | lit h =>
      cases h
      rw [List.append_nil]
  | cons p ps ih =>
    intro s cs h
    cases h with
    | lit h => exact (ih h).trans (List.suffix_append ..)
    | plus hne hok h => exact (ih h).trans (List.suffix_append ..)

/-! ## The first match -/

variable [DecidableEq α]

/-- `n, n - 1, …, 1`. -/
def downFrom : Nat → List Nat
  | 0 => []
  | n + 1 => (n + 1) :: downFrom n

/-- The first match a greedy matcher finds, if there is one. -/
def capture : List (Piece α) → List α → Option (List (List α))
  | [], s => if s = [] then some [] else none
  | .lit l :: ps, s => if l.isPrefixOf s then capture ps (s.drop l.length) else none
  | .plus ok :: ps, s =>
    (downFrom s.length).findSome? fun n =>
      if (s.take n).all ok then (capture ps (s.drop n)).map (s.take n :: ·) else none

/-- The whole text matches. -/
def isMatch (ps : List (Piece α)) (s : List α) : Bool := (capture ps s).isSome

theorem mem_downFrom {n k : Nat} : k ∈ downFrom n ↔ 0 < k ∧ k ≤ n := by
  induction n with
  | zero =>
    rw [downFrom]
    simp only [List.not_mem_nil, false_iff]
    omega
  | succ n ih =>
    rw [downFrom, List.mem_cons, ih]
    omega

/-- What is captured is a match. -/
theorem capture_sound {ps : List (Piece α)} :
    ∀ {s : List α} {cs : List (List α)}, capture ps s = some cs → Matches ps s cs := by
  induction ps with
  | nil =>
    intro s cs h
    rw [capture] at h
    split_ifs at h with hs
    subst hs
    obtain rfl := Option.some.inj h
    exact .nil
  | cons p ps ih =>
    intro s cs h
    cases p with
    | lit l =>
      rw [capture] at h
      split_ifs at h with hl
      obtain ⟨t, rfl⟩ := List.isPrefixOf_iff_prefix.mp hl
      rw [List.drop_left] at h
      exact .lit (ih h)
    | plus ok =>
      rw [capture] at h
      obtain ⟨n, hn, hcut⟩ := List.exists_of_findSome?_eq_some h
      obtain ⟨hpos, hle⟩ := mem_downFrom.mp hn
      split_ifs at hcut with hok
      obtain ⟨cs', hcs', rfl⟩ := Option.map_eq_some_iff.mp hcut
      have hne : s.take n ≠ [] := by
        intro hnil
        have hlen := congrArg List.length hnil
        rw [List.length_take, List.length_nil] at hlen
        omega
      have hcut := Matches.plus hne (fun c hc => List.all_eq_true.mp hok c hc) (ih hcs')
      rwa [List.take_append_drop] at hcut

/-- Where there is a match, one is captured. -/
theorem capture_complete {ps : List (Piece α)} {s : List α} {cs : List (List α)}
    (h : Matches ps s cs) : ∃ cs', capture ps s = some cs' := by
  induction h with
  | nil => exact ⟨[], by rw [capture, if_pos rfl]⟩
  | lit h ih =>
    rename_i l t ps cs
    obtain ⟨cs', hcs'⟩ := ih
    refine ⟨cs', ?_⟩
    rw [capture, if_pos (List.isPrefixOf_iff_prefix.mpr (List.prefix_append l t)), List.drop_left]
    exact hcs'
  | plus hne hok h ih =>
    rename_i ok u t ps cs
    obtain ⟨cs', hcs'⟩ := ih
    -- the cut of the match is one of those that are tried
    have hmem : u.length ∈ downFrom (u ++ t).length := by
      have hpos := List.length_pos_of_ne_nil hne
      rw [mem_downFrom, List.length_append]
      omega
    have hsome : (if ((u ++ t).take u.length).all ok then
        (capture ps ((u ++ t).drop u.length)).map ((u ++ t).take u.length :: ·) else none) =
        some (u :: cs') := by
      rw [List.take_left, List.drop_left, if_pos (List.all_eq_true.mpr hok), hcs']
      rfl
    rw [capture]
    exact Option.isSome_iff_exists.mp
      (List.findSome?_isSome_iff.mpr ⟨u.length, hmem, by rw [hsome]; rfl⟩)

theorem isMatch_iff {ps : List (Piece α)} {s : List α} :
    isMatch ps s = true ↔ ∃ cs, Matches ps s cs := by
  rw [isMatch, Option.isSome_iff_exists]
  exact ⟨fun ⟨cs, h⟩ => ⟨cs, capture_sound h⟩, fun ⟨_, h⟩ => capture_complete h⟩

/-! ## Matching, piece by piece -/

theorem isMatch_nil {s : List α} : isMatch ([] : List (Piece α)) s = true ↔ s = [] := by
  rw [isMatch_iff]
  constructor
  · intro h
    obtain ⟨cs, hm⟩ := h
    cases hm
    rfl
  · intro h
    exact ⟨[], h ▸ .nil⟩

theorem isMatch_lit {l : List α} {ps : List (Piece α)} {s : List α} :
    isMatch (.lit l :: ps) s = true ↔ ∃ t, s = l ++ t ∧ isMatch ps t = true := by
  rw [isMatch_iff]
  constructor
  · intro h
    obtain ⟨cs, hm⟩ := h
    cases hm with
    | lit hm => exact ⟨_, rfl, isMatch_iff.mpr ⟨cs, hm⟩⟩
  · intro h
    obtain ⟨t, rfl, ht⟩ := h
    obtain ⟨cs, hm⟩ := isMatch_iff.mp ht
    exact ⟨cs, .lit hm⟩

theorem isMatch_plus {ok : α → Bool} {ps : List (Piece α)} {s : List α} :
    isMatch (.plus ok :: ps) s = true ↔
      ∃ u t, s = u ++ t ∧ u ≠ [] ∧ (∀ c ∈ u, ok c = true) ∧ isMatch ps t = true := by
  rw [isMatch_iff]
  constructor
  · intro h
    obtain ⟨cs, hm⟩ := h
    cases hm with
    | plus hne hok hm => exact ⟨_, _, rfl, hne, hok, isMatch_iff.mpr ⟨_, hm⟩⟩
  · intro h
    obtain ⟨u, t, rfl, hne, hok, ht⟩ := h
    obtain ⟨cs, hm⟩ := isMatch_iff.mp ht
    exact ⟨u :: cs, .plus hne hok hm⟩

/-- A last literal is all that is left of the text. -/
theorem isMatch_last {l s : List α} : isMatch [.lit l] s = true ↔ s = l := by
  rw [isMatch_lit]
  constructor
  · intro h
    obtain ⟨t, hs, ht⟩ := h
    rw [hs, isMatch_nil.mp ht, List.append_nil]
  · intro h
    exact ⟨[], by rw [h, List.append_nil], isMatch_nil.mpr rfl⟩

theorem capture_of_not_isMatch {ps : List (Piece α)} {s : List α} (h : isMatch ps s = false) :
    capture ps s = none := by
  rw [isMatch, Option.isSome_eq_false_iff, Option.isNone_iff_eq_none] at h
  exact h

/-! ## Which match is captured -/

theorem capture_nil : capture ([] : List (Piece α)) [] = some [] := if_pos rfl

theorem capture_lit (l : List α) (ps : List (Piece α)) (t : List α) :
    capture (.lit l :: ps) (l ++ t) = capture ps t := by
  rw [capture, if_pos (List.isPrefixOf_iff_prefix.mpr (List.prefix_append l t)), List.drop_left]

/-- The largest number for which there is an answer gives the answer. -/
theorem findSome?_downFrom {β : Type*} {f : Nat → Option β} {b : β} {k : Nat} :
    ∀ {n : Nat}, 0 < k → k ≤ n → f k = some b → (∀ m, k < m → m ≤ n → f m = none) →
      (downFrom n).findSome? f = some b := by
  intro n
  induction n with
  | zero =>
    intro hpos hle
    omega
  | succ n ih =>
    intro hpos hle hk hnone
    rw [downFrom, List.findSome?_cons]
    rcases Nat.lt_or_eq_of_le hle with hlt | heq
    · rw [hnone (n + 1) hlt (Nat.le_refl _)]
      exact ih hpos (by omega) hk fun m hm hmn => hnone m hm (by omega)
    · rw [← heq, hk]

/-- **A wildcard takes the longest text** behind which the rest still matches. -/
theorem capture_plus {ok : α → Bool} {ps : List (Piece α)} {u t : List α} {cs : List (List α)}
    (hne : u ≠ []) (hok : ∀ c ∈ u, ok c = true) (hrest : capture ps t = some cs)
    (hlong : ∀ x y, t = x ++ y → isMatch ps y = true → x = []) :
    capture (.plus ok :: ps) (u ++ t) = some (u :: cs) := by
  rw [capture]
  refine findSome?_downFrom (k := u.length) (List.length_pos_of_ne_nil hne) (by simp) ?_ ?_
  · rw [List.take_left, List.drop_left, if_pos (List.all_eq_true.mpr hok), hrest]
    rfl
  · intro m hlt hle
    -- a longer cut goes into what is left of the text
    have hdrop : (u ++ t).drop m = t.drop (m - u.length) := by
      rw [List.drop_append, List.drop_eq_nil_of_le (Nat.le_of_lt hlt), List.nil_append]
    have hnone : isMatch ps (t.drop (m - u.length)) = false := by
      rw [Bool.eq_false_iff]
      intro hm
      have hnil := hlong (t.take (m - u.length)) (t.drop (m - u.length))
        (List.take_append_drop ..).symm hm
      have hlen := congrArg List.length hnil
      rw [List.length_append] at hle
      rw [List.length_take, List.length_nil] at hlen
      omega
    rw [hdrop, capture_of_not_isMatch hnone]
    exact ite_self none

/-- A wildcard at the end takes all there is. -/
theorem capture_plus_last {ok : α → Bool} {u : List α} (hne : u ≠ [])
    (hok : ∀ c ∈ u, ok c = true) : capture [.plus ok] u = some [u] := by
  have h := capture_plus hne hok capture_nil (t := []) fun x y hxy _ =>
    (List.append_eq_nil_iff.mp hxy.symm).1
  rwa [List.append_nil] at h

/-! ## Patterns that share no text -/

/-- Two patterns whose last literals do not end in one another share no text. -/
theorem not_both_of_suffix {l₁ l₂ s : List α} (ps₁ ps₂ : List (Piece α))
    (h₁ : ¬ l₁ <:+ l₂) (h₂ : ¬ l₂ <:+ l₁) (hs₁ : isMatch (ps₁ ++ [.lit l₁]) s = true) :
    isMatch (ps₂ ++ [.lit l₂]) s = false := by
  rw [Bool.eq_false_iff]
  intro hs₂
  obtain ⟨cs₁, hm₁⟩ := isMatch_iff.mp hs₁
  obtain ⟨cs₂, hm₂⟩ := isMatch_iff.mp hs₂
  rcases List.suffix_or_suffix_of_suffix hm₁.suffix hm₂.suffix with h | h
  · exact h₁ h
  · exact h₂ h

end Wildcard
