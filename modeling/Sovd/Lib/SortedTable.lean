import Mathlib.Data.List.Basic
import Mathlib.Data.Prod.Basic

/-!
# A table in the order of its keys

A search tree, seen from outside, is the list of its entries in the order of their keys.
`put` writes an entry and keeps the order (`Sorted.put`). Writing the entries of such a
list one after the other, in its order, gives the list back: each goes to the end
(`put_of_lt`).
-/

namespace SortedTable

variable {κ α : Type*} [LT κ] [DecidableLT κ] [DecidableEq κ]

/-- The keys grow from each entry to the next. -/
def Sorted (t : List (κ × α)) : Prop := t.Pairwise fun p q => p.1 < q.1

/-- The value of a key that is there is replaced; a new key goes to its place. -/
def put (k : κ) (v : α) : List (κ × α) → List (κ × α)
  | [] => [(k, v)]
  | p :: t =>
    if k < p.1 then (k, v) :: p :: t
    else if k = p.1 then (k, v) :: t
    else p :: put k v t

theorem mem_put {k : κ} {v : α} {t : List (κ × α)} {p : κ × α} (h : p ∈ put k v t) :
    p = (k, v) ∨ p ∈ t := by
  induction t with
  | nil => exact .inl (List.mem_singleton.mp h)
  | cons q t ih =>
    rw [put] at h
    split_ifs at h with hlt heq
    · exact List.mem_cons.mp h
    · exact (List.mem_cons.mp h).imp_right (List.mem_cons_of_mem q)
    · rcases List.mem_cons.mp h with rfl | h
      · exact .inr (List.mem_cons_self ..)
      · exact (ih h).imp_right (List.mem_cons_of_mem q)

section

variable [Trans (fun a b : κ => a < b) (· < ·) (· < ·)]

/-- An entry with a larger key than all others goes to the end. -/
theorem put_of_lt [Std.Irrefl (fun a b : κ => a < b)] {k : κ} {v : α} {t : List (κ × α)}
    (h : ∀ p ∈ t, p.1 < k) : put k v t = t ++ [(k, v)] := by
  induction t with
  | nil => rfl
  | cons p t ih =>
    have hp := h p (List.mem_cons_self ..)
    have hnlt : ¬ k < p.1 := fun hk => Std.lt_irrefl (Std.lt_trans hk hp)
    have hne : k ≠ p.1 := fun hk => Std.lt_irrefl (hk ▸ hp)
    rw [put, if_neg hnlt, if_neg hne, ih fun q hq => h q (List.mem_cons_of_mem p hq)]
    rfl

theorem Sorted.put [Std.Trichotomous (fun a b : κ => a < b)] {t : List (κ × α)} (h : Sorted t)
    (k : κ) (v : α) : Sorted (put k v t) := by
  induction t with
  | nil => exact List.pairwise_singleton _ _
  | cons p t ih =>
    obtain ⟨hp, ht⟩ := List.pairwise_cons.mp h
    rw [SortedTable.put]
    split_ifs with hlt heq
    · apply List.pairwise_cons.mpr ⟨_, h⟩
      intro q hq
      rcases List.mem_cons.mp hq with rfl | hq
      · exact hlt
      · exact Std.lt_trans hlt (hp q hq)
    · apply List.pairwise_cons.mpr ⟨_, ht⟩
      intro q hq
      exact heq ▸ hp q hq
    · have hgt : p.1 < k := by
        rcases Std.lt_trichotomy k p.1 with h' | h' | h'
        · exact absurd h' hlt
        · exact absurd h' heq
        · exact h'
      apply List.pairwise_cons.mpr ⟨_, ih ht⟩
      intro q hq
      rcases mem_put hq with rfl | hq
      · exact hgt
      · exact hp q hq

end

end SortedTable
