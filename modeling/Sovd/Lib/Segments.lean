import Mathlib.Data.List.Infix

/-!
# Segments joined by a separator

A path is a sequence of segments, none of them empty and none with the separator in
it, written one behind the other with a separator in between. Its text determines
its segments (`Path.splitOn_text`), so what a text cut out of a path can be is read
off the segments: between two separators stands one of them (`Path.between_iff`).

`rfind_unique` is the fact a matcher that looks for the last place needs: where a
marked segment is the last but one, nothing behind its separator fits.
-/

namespace Segments

variable {α : Type*} {d : α}

/-- A segment. -/
structure IsSegment (d : α) (s : List α) : Prop where
  ne_nil : s ≠ []
  not_mem : d ∉ s

/-- A path that is not empty. -/
structure Path (d : α) where
  segments : List (List α)
  ne_nil : segments ≠ []
  isSegment : ∀ s ∈ segments, IsSegment d s

theorem intercalate_append {a b : List (List α)} (ha : a ≠ []) (hb : b ≠ []) :
    [d].intercalate (a ++ b) = [d].intercalate a ++ d :: [d].intercalate b := by
  induction a with
  | nil => exact absurd rfl ha
  | cons s a ih =>
    rw [List.cons_append]
    rcases eq_or_ne a [] with rfl | hne
    · rw [List.nil_append, List.intercalate_cons_of_ne_nil hb, List.intercalate_singleton,
        List.append_assoc, List.singleton_append]
    · rw [List.intercalate_cons_of_ne_nil (List.append_ne_nil_of_left_ne_nil hne b),
        List.intercalate_cons_of_ne_nil hne, ih hne]
      simp only [List.append_assoc]

theorem ne_nil_of_intercalate {a : List (List α)} (ha : a ≠ []) (h : ∀ s ∈ a, s ≠ []) :
    [d].intercalate a ≠ [] := by
  cases a with
  | nil => exact absurd rfl ha
  | cons s a =>
    have hs := h s (List.mem_cons_self ..)
    rcases eq_or_ne a [] with rfl | hne
    · rw [List.intercalate_singleton]
      exact hs
    · rw [List.intercalate_cons_of_ne_nil hne, List.append_assoc]
      exact List.append_ne_nil_of_left_ne_nil hs _

/-- What is joined stands in the text. -/
theorem infix_intercalate {a : List (List α)} {s : List α} (h : s ∈ a) :
    s <:+: [d].intercalate a := by
  induction a with
  | nil => cases h
  | cons t a ih =>
    rcases eq_or_ne a [] with rfl | hne
    · rw [List.mem_singleton.mp h, List.intercalate_singleton]
    · rw [List.intercalate_cons_of_ne_nil hne]
      rcases List.mem_cons.mp h with rfl | h
      · rw [List.append_assoc]
        exact (List.prefix_append s _).isInfix
      · exact (ih h).trans (List.suffix_append _ _).isInfix

/-- A piece of a text stands in it. -/
theorem infix_of_mem_splitOn [DecidableEq α] {s t : List α} (h : t ∈ s.splitOn d) : t <:+: s := by
  have hinfix := infix_intercalate (d := d) h
  rw [List.intercalate_splitOn] at hinfix
  exact hinfix

/-! ## The text of a path -/

namespace Path

variable (p : Path d)

def text : List α := [d].intercalate p.segments

theorem text_ne_nil : p.text ≠ [] :=
  ne_nil_of_intercalate p.ne_nil fun s hs => (p.isSegment s hs).ne_nil

/-- What is in the text is the separator or in a segment. -/
theorem mem_text {c : α} (h : c ∈ p.text) : c = d ∨ ∃ s ∈ p.segments, c ∈ s := by
  unfold text at h
  generalize p.segments = ss at h
  induction ss with
  | nil => exact absurd h (List.not_mem_nil)
  | cons s ss ih =>
    rcases eq_or_ne ss [] with rfl | hne
    · rw [List.intercalate_singleton] at h
      exact .inr ⟨s, List.mem_cons_self .., h⟩
    · rw [List.intercalate_cons_of_ne_nil hne, List.append_assoc, List.singleton_append,
        List.mem_append, List.mem_cons] at h
      rcases h with h | h | h
      · exact .inr ⟨s, List.mem_cons_self .., h⟩
      · exact .inl h
      · rcases ih h with h | ⟨s', hs', hc⟩
        · exact .inl h
        · exact .inr ⟨s', List.mem_cons_of_mem _ hs', hc⟩

/-- One more segment. -/
def snoc {x : List α} (hx : IsSegment d x) : Path d where
  segments := p.segments ++ [x]
  ne_nil := List.append_ne_nil_of_right_ne_nil _ (List.cons_ne_nil _ _)
  isSegment s hs := by
    rcases List.mem_append.mp hs with hs | hs
    · exact p.isSegment s hs
    · rw [List.mem_singleton.mp hs]
      exact hx

theorem text_snoc {x : List α} (hx : IsSegment d x) : (p.snoc hx).text = p.text ++ d :: x := by
  unfold text snoc
  rw [intercalate_append p.ne_nil (List.cons_ne_nil _ _), List.intercalate_singleton]

variable [DecidableEq α]

theorem splitOn_text : p.text.splitOn d = p.segments :=
  List.splitOn_intercalate d (fun s hs => (p.isSegment s hs).not_mem) p.ne_nil

end Path

variable [DecidableEq α]

/-! ## What can be cut out of a path -/

/-- A text with a separator has one last segment. -/
theorem last_segment {a b x y : List α} (hx : d ∉ x) (hy : d ∉ y)
    (h : a ++ d :: x = b ++ d :: y) : a = b ∧ x = y := by
  have hsplit := congrArg (List.splitOn d) h
  rw [List.splitOn_append_cons_self, List.splitOn_append_cons_self, List.splitOn_eq_singleton hx,
    List.splitOn_eq_singleton hy] at hsplit
  have hxy : x = y := List.singleton_inj.mp (List.append_inj_right' hsplit rfl)
  subst hxy
  exact ⟨List.append_cancel_right h, rfl⟩

/-- An element with something before it is in the tail, and stays so without the last one. -/
theorem mem_tail_iff {β : Type*} {l : List β} {x w : β} (hl : l ≠ []) :
    (∃ a b, l ++ [x] = a ++ w :: b ∧ a ≠ [] ∧ b ≠ []) ↔ w ∈ l.tail := by
  constructor
  · intro h
    obtain ⟨a, b, heq, ha, hb⟩ := h
    obtain ⟨b', z, rfl⟩ := List.eq_nil_or_concat b |>.resolve_left hb
    rw [List.concat_eq_append, ← List.cons_append, ← List.append_assoc] at heq
    have hinit : l = a ++ w :: b' := List.append_inj_left' heq rfl
    rw [hinit, List.tail_append_of_ne_nil ha]
    exact List.mem_append_right _ (List.mem_cons_self ..)
  · intro h
    obtain ⟨y, ys, rfl⟩ := List.exists_cons_of_ne_nil hl
    obtain ⟨a, b, hab⟩ := List.append_of_mem h
    rw [List.tail_cons] at hab
    exact ⟨y :: a, b ++ [x], by simp [hab], List.cons_ne_nil _ _, by simp⟩

/-- **Between two separators stands a segment** that is neither the first nor the
last. -/
theorem Path.between_iff (p : Path d) {x w : List α} (hx : IsSegment d x) (hw : d ∉ w) :
    (∃ u v, p.text ++ d :: x = u ++ (d :: (w ++ d :: v)) ∧ u ≠ [] ∧ v ≠ []) ↔
      w ∈ p.segments.tail := by
  rw [← mem_tail_iff p.ne_nil (x := x)]
  constructor
  · intro h
    obtain ⟨u, v, heq, -, -⟩ := h
    have hsplit := congrArg (List.splitOn d) heq
    rw [← p.text_snoc hx, splitOn_text, List.splitOn_append_cons_self,
      List.splitOn_append_cons_self, List.splitOn_eq_singleton hw] at hsplit
    exact ⟨u.splitOn d, v.splitOn d, hsplit, List.splitOn_ne_nil _ _, List.splitOn_ne_nil _ _⟩
  · intro h
    obtain ⟨a, b, heq, ha, hb⟩ := h
    have hseg : ∀ s ∈ a ++ w :: b, s ≠ [] := by
      intro s hs
      rw [← heq] at hs
      exact ((p.snoc hx).isSegment s hs).ne_nil
    refine ⟨[d].intercalate a, [d].intercalate b, ?_,
      ne_nil_of_intercalate ha fun s hs => hseg s (List.mem_append_left _ hs),
      ne_nil_of_intercalate hb fun s hs =>
        hseg s (List.mem_append_right _ (List.mem_cons_of_mem _ hs))⟩
    have htext : p.text ++ d :: x = [d].intercalate (p.segments ++ [x]) := (p.text_snoc hx).symm
    rw [htext, heq, intercalate_append ha (List.cons_ne_nil _ _),
      List.intercalate_cons_of_ne_nil hb, List.append_assoc, List.singleton_append]

/-- Behind the separator of the last segment but one, nothing fits any more. -/
theorem rfind_unique {x w y v : List α} (hx : d ∉ x) (hw : d ∉ w)
    (h : d :: (w ++ d :: x) = y ++ (d :: (w ++ d :: v))) : y = [] := by
  have hcount := congrArg (List.count d) h
  simp only [List.count_append, List.count_cons_self, List.count_eq_zero_of_not_mem hx,
    List.count_eq_zero_of_not_mem hw] at hcount
  have hy : d ∉ y := List.count_eq_zero.mp (by omega)
  cases y with
  | nil => rfl
  | cons c y =>
    rw [List.cons_append] at h
    exact absurd ((List.cons.inj h).1 ▸ List.mem_cons_self ..) hy

end Segments
