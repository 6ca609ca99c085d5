import Mathlib.Algebra.BigOperators.Group.List.Basic
import Mathlib.Algebra.Ring.Nat
import Mathlib.Data.List.DropRight
import Mathlib.Data.List.TakeWhile
import Mathlib.Tactic.SplitIfs

/-!
# Separated texts

Taking a text apart at a separator: at the first one (`divide`), or at every one,
with the blanks around each piece dropped and empty pieces left out (`split`).

Two things are said about them. A text that was encoded letter by letter comes
apart in the same places as before, as long as the encoding leaves the separator
alone and writes it for nothing else (`Keeps`). And what a reader makes of the
pieces is bounded by the text: `sum_split_le` is the account, with one for each
piece and two for each letter, so that every separator costs something.
-/

universe u v

namespace Separated

variable {α : Type u} [DecidableEq α] {β : Type v}

/-- Blanks are taken off both ends. -/
def trim (blank : α → Bool) (s : List α) : List α := (s.rdropWhile blank).dropWhile blank

/-- The pieces between separators, trimmed, without those that are empty then. -/
def split (blank : α → Bool) (d : α) (s : List α) : List (List α) :=
  ((s.splitOn d).map (trim blank)).filter fun p => p ≠ []

/-- What stands in front of the first separator, and what stands behind it. -/
def divide (d : α) (s : List α) : List α × List α :=
  (s.takeWhile (· != d), (s.dropWhile (· != d)).drop 1)

/-! ## Trimming -/

section

omit [DecidableEq α]

variable {blank : α → Bool}

/-- Blanks at the end are taken off behind a letter that is none. -/
theorem rdropWhile_append_cons {c : α} (hc : blank c = false) (a b : List α) :
    (a ++ c :: b).rdropWhile blank = a ++ c :: b.rdropWhile blank := by
  induction b using List.reverseRecOn with
  | nil =>
    rw [List.rdropWhile_nil, List.rdropWhile_concat_neg]
    simp [hc]
  | append_singleton b x ih =>
    rw [show a ++ c :: (b ++ [x]) = (a ++ c :: b) ++ [x] by simp]
    by_cases hx : blank x = true
    · rw [List.rdropWhile_concat_pos _ _ _ hx, List.rdropWhile_concat_pos _ _ _ hx, ih]
    · rw [List.rdropWhile_concat_neg _ _ _ hx, List.rdropWhile_concat_neg _ _ _ hx]
      simp

theorem rdropWhile_cons {c : α} (hc : blank c = false) (b : List α) :
    (c :: b).rdropWhile blank = c :: b.rdropWhile blank :=
  rdropWhile_append_cons hc [] b

/-- Blanks in front are taken off before a letter that is none. -/
theorem dropWhile_append_cons {c : α} (hc : blank c = false) (a b : List α) :
    (a ++ c :: b).dropWhile blank = a.dropWhile blank ++ c :: b := by
  induction a with
  | nil =>
    rw [List.nil_append, List.dropWhile_cons_of_neg (by simp [hc])]
    rfl
  | cons x a ih =>
    rw [List.cons_append, List.dropWhile_cons, List.dropWhile_cons]
    split_ifs
    · exact ih
    · rfl

/-- What is taken ends before the letter that stops it. -/
theorem length_takeWhile_lt {p : α → Bool} {a : List α} (h : ∃ c ∈ a, p c = false) (b : List α) :
    ((a ++ b).takeWhile p).length < a.length := by
  induction a with
  | nil =>
    obtain ⟨c, hc, -⟩ := h
    cases hc
  | cons x a ih =>
    rw [List.cons_append, List.takeWhile_cons]
    split_ifs with hx
    · obtain ⟨c, hc, hpc⟩ := h
      rcases List.mem_cons.mp hc with rfl | hc
      · rw [hx] at hpc
        cases hpc
      · exact Nat.succ_lt_succ (ih ⟨c, hc, hpc⟩)
    · exact Nat.succ_pos _

variable (blank) in
/-- Trimming makes nothing longer. -/
theorem length_trim_le (s : List α) : (trim blank s).length ≤ s.length :=
  (List.dropWhile_suffix blank).length_le.trans (List.rdropWhile_prefix blank s).length_le

/-- A blank in front is taken off. -/
theorem trim_cons_blank {b : α} (hb : blank b = true) (s : List α) :
    trim blank (b :: s) = trim blank s := by
  by_cases hall : ∀ c ∈ s, blank c = true
  · have hcons : ∀ c ∈ b :: s, blank c = true := by
      intro c hc
      rcases List.mem_cons.mp hc with rfl | hc
      · exact hb
      · exact hall c hc
    rw [trim, trim, List.rdropWhile_eq_nil_iff.mpr hcons, List.rdropWhile_eq_nil_iff.mpr hall]
  · push Not at hall
    obtain ⟨c, hc, hcb⟩ := hall
    obtain ⟨x, y, rfl⟩ := List.append_of_mem hc
    have hcb : blank c = false := eq_false_of_ne_true hcb
    rw [trim, trim, ← List.cons_append, rdropWhile_append_cons hcb, rdropWhile_append_cons hcb,
      List.cons_append, List.dropWhile_cons_of_pos hb]

/-- The first letter is no blank. -/
theorem trim_cons {c : α} (hc : blank c = false) (s : List α) :
    trim blank (c :: s) = c :: s.rdropWhile blank := by
  rw [trim, rdropWhile_cons hc, List.dropWhile_cons_of_neg (by simp [hc])]

end

/-! ## Splitting -/

section

variable {blank : α → Bool} {d : α}

/-- A text is split at every separator. -/
theorem split_append_cons (a b : List α) :
    split blank d (a ++ d :: b) = split blank d a ++ split blank d b := by
  rw [split, List.splitOn_append_cons_self, List.map_append, List.filter_append]
  rfl

/-- Without a separator it is one piece, or none. -/
theorem split_of_not_mem {s : List α} (h : d ∉ s) :
    split blank d s = if trim blank s = [] then [] else [trim blank s] := by
  rw [split, List.splitOn_eq_singleton h, List.map_singleton]
  split_ifs with hs <;> simp [hs]

/-- A text is divided at the first separator. -/
theorem divide_of_not_mem {a : List α} (h : d ∉ a) (b : List α) :
    divide d (a ++ d :: b) = (a, b) := by
  have ha : ∀ c ∈ a, (c != d) = true := fun c hc => bne_iff_ne.mpr fun heq => h (heq ▸ hc)
  rw [divide, List.takeWhile_append_of_pos ha, List.dropWhile_append_of_pos ha]
  simp

/-- What follows the first separator does not matter to it. -/
theorem divide_append_of_mem {a : List α} (h : d ∈ a) (b : List α) :
    divide d (a ++ b) = ((divide d a).1, (divide d a).2 ++ b) := by
  obtain ⟨x, y, rfl, hx⟩ := List.eq_append_cons_of_mem h
  rw [List.append_assoc, List.cons_append, divide_of_not_mem hx, divide_of_not_mem hx]

/-- Dividing makes nothing longer. -/
theorem length_divide_le (s : List α) :
    (divide d s).1.length + (divide d s).2.length ≤ s.length := by
  have h := congrArg List.length (List.takeWhile_append_dropWhile (p := (· != d)) (l := s))
  rw [List.length_append] at h
  simp only [divide, List.length_drop]
  omega

/-- The account of a text: two for each letter, one for each piece. -/
theorem sum_split_le {w : List α → Nat} (hw : ∀ p, w p ≤ 2 * p.length + 1) (s : List α) :
    ((split blank d s).map w).sum ≤ 2 * s.length + 1 := by
  induction hn : s.length using Nat.strong_induction_on generalizing s with
  | _ len ih =>
    subst hn
    by_cases hmem : d ∈ s
    · obtain ⟨a, b, rfl⟩ := List.append_of_mem hmem
      have ha := ih a.length (by simp) a rfl
      have hb := ih b.length (by simp; omega) b rfl
      rw [split_append_cons, List.map_append, List.sum_append, List.length_append,
        List.length_cons]
      omega
    · rw [split_of_not_mem hmem]
      have hlen := length_trim_le blank s
      have hp := hw (trim blank s)
      split_ifs
      · simp
      · simp only [List.map_singleton, List.sum_singleton]
        omega

end

/-! ## Letterwise encodings -/

/-- The encoding writes `d` for `d` and for nothing else. -/
def Keeps (enc : α → List α) (d : α) : Prop := enc d = [d] ∧ ∀ c, c ≠ d → d ∉ enc c

section

variable {enc : α → List α} {d : α} (hk : Keeps enc d)
include hk

/-- An encoding that keeps a separator can be divided before or after. -/
theorem Keeps.divide_flatMap (s : List α) :
    divide d (s.flatMap enc) =
      ((divide d s).1.flatMap enc, (divide d s).2.flatMap enc) := by
  induction s with
  | nil => rfl
  | cons c s ih =>
    rw [List.flatMap_cons]
    by_cases hc : c = d
    · subst hc
      rw [hk.1]
      simp [divide]
    · have hall : ∀ x ∈ enc c, (x != d) = true := fun x hx =>
        bne_iff_ne.mpr fun heq => hk.2 c hc (heq ▸ hx)
      have hne : (c != d) = true := bne_iff_ne.mpr hc
      simp only [divide, Prod.mk.injEq] at ih ⊢
      rw [List.takeWhile_append_of_pos hall, List.dropWhile_append_of_pos hall, ih.1, ih.2,
        List.takeWhile_cons, List.dropWhile_cons, if_pos hne, if_pos hne]
      exact ⟨rfl, rfl⟩

theorem Keeps.takeWhile_flatMap (s : List α) :
    (s.flatMap enc).takeWhile (· != d) = (s.takeWhile (· != d)).flatMap enc :=
  congrArg Prod.fst (hk.divide_flatMap s)

/-- It can be split before or after. -/
theorem Keeps.splitOn_flatMap (s : List α) :
    (s.flatMap enc).splitOn d = (s.splitOn d).map fun p => p.flatMap enc := by
  induction hn : s.length using Nat.strong_induction_on generalizing s with
  | _ len ih =>
    subst hn
    by_cases hmem : d ∈ s
    · obtain ⟨a, b, rfl⟩ := List.append_of_mem hmem
      rw [List.flatMap_append, List.flatMap_cons, hk.1, List.singleton_append,
        List.splitOn_append_cons_self, List.splitOn_append_cons_self, List.map_append,
        ih a.length (by simp) a rfl, ih b.length (by simp; omega) b rfl]
    · have hnone : d ∉ s.flatMap enc := by
        intro h
        obtain ⟨c, hc, hd⟩ := List.mem_flatMap.mp h
        exact hk.2 c (fun heq => hmem (heq ▸ hc)) hd
      rw [List.splitOn_eq_singleton hnone, List.splitOn_eq_singleton hmem]
      rfl

end

/-- The encoding leaves the letters in `raw` alone, which are blanks, and writes
no blank for any other. -/
structure KeepsBlanks (enc : α → List α) (raw blank : α → Bool) : Prop where
  self : ∀ c, raw c = true → enc c = [c] ∧ blank c = true
  other : ∀ c, raw c = false → enc c ≠ [] ∧ ∀ b ∈ enc c, blank b = false

section

omit [DecidableEq α]

variable {enc : α → List α} {raw blank : α → Bool} (hb : KeepsBlanks enc raw blank)
include hb

/-- One that keeps blanks can be trimmed at its end before or after. -/
theorem KeepsBlanks.rdropWhile_flatMap (s : List α) :
    (s.flatMap enc).rdropWhile blank = (s.rdropWhile raw).flatMap enc := by
  induction s using List.reverseRecOn with
  | nil => simp
  | append_singleton s c ih =>
    rw [List.flatMap_append, List.flatMap_singleton]
    cases hc : raw c with
    | true =>
      obtain ⟨hself, hblank⟩ := hb.self c hc
      rw [hself, List.rdropWhile_concat_pos _ _ _ hblank, ih, List.rdropWhile_concat_pos _ _ _ hc]
    | false =>
      obtain ⟨hne, hblank⟩ := hb.other c hc
      obtain ⟨init, x, hx⟩ := (List.eq_nil_or_concat (enc c)).resolve_left hne
      rw [List.rdropWhile_concat_neg _ _ _ (by simp [hc]), List.flatMap_append,
        List.flatMap_singleton, hx, List.concat_eq_append, ← List.append_assoc,
        List.rdropWhile_concat_neg]
      simp [hblank x (by simp [hx])]

/-- It can be trimmed in front before or after. -/
theorem KeepsBlanks.dropWhile_flatMap (s : List α) :
    (s.flatMap enc).dropWhile blank = (s.dropWhile raw).flatMap enc := by
  induction s with
  | nil => rfl
  | cons c s ih =>
    rw [List.flatMap_cons]
    cases hc : raw c with
    | true =>
      obtain ⟨hself, hblank⟩ := hb.self c hc
      rw [hself, List.singleton_append, List.dropWhile_cons_of_pos hblank, ih,
        List.dropWhile_cons_of_pos hc]
    | false =>
      obtain ⟨hne, hblank⟩ := hb.other c hc
      obtain ⟨x, code, hx⟩ := List.exists_cons_of_ne_nil hne
      rw [List.dropWhile_cons_of_neg (by simp [hc]), List.flatMap_cons, hx, List.cons_append,
        List.dropWhile_cons_of_neg]
      simp [hblank x (by simp [hx])]

/-- It can be trimmed at both ends before or after. -/
theorem KeepsBlanks.trim_flatMap (s : List α) :
    trim blank (s.flatMap enc) = (trim raw s).flatMap enc := by
  rw [trim, hb.rdropWhile_flatMap, hb.dropWhile_flatMap, trim]

/-- It makes nothing empty. -/
theorem KeepsBlanks.flatMap_eq_nil (s : List α) : s.flatMap enc = [] ↔ s = [] := by
  cases s with
  | nil => simp
  | cons c s =>
    cases hc : raw c with
    | true => simp [(hb.self c hc).1]
    | false => simp [(hb.other c hc).1]

end

/-- **What keeps both can be split before or after.** -/
theorem split_flatMap {enc : α → List α} {raw blank : α → Bool} {d : α} (hk : Keeps enc d)
    (hb : KeepsBlanks enc raw blank) (s : List α) :
    split blank d (s.flatMap enc) = (split raw d s).map fun p => p.flatMap enc := by
  rw [split, split, hk.splitOn_flatMap, List.map_map, List.filter_map, List.filter_map,
    List.map_map]
  simp [Function.comp_def, hb.trim_flatMap, hb.flatMap_eq_nil]

end Separated
