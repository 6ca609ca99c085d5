import Mathlib.Data.Finset.Card
import Mathlib.Logic.Function.Basic
import Mathlib.Tactic.SplitIfs

/-!
# Counting the holders of a key

Objects are numbered as they are made, and each holds at most one key. How many hold a
given key changes only where an object changes what it holds, by the one equation
`holders_update`; making an object that holds something counts it
(`holders_new`), and handing a key over counts nothing (`holders_move`).

A table that counts references to its entries is right as long as its counts are
these numbers.
-/

namespace RefCount

variable {κ : Type*} [DecidableEq κ]

/-- How many of the first `n` objects hold `k`. -/
def holders (n : ℕ) (held : ℕ → Option κ) (k : κ) : ℕ :=
  ((Finset.range n).filter fun o => held o = some k).card

variable {n : ℕ} {held : ℕ → Option κ} {k : κ}

theorem holders_pos_iff : 0 < holders n held k ↔ ∃ o < n, held o = some k := by
  rw [holders, Finset.card_pos]
  constructor
  · rintro ⟨o, ho⟩
    obtain ⟨hlt, hheld⟩ := Finset.mem_filter.mp ho
    exact ⟨o, Finset.mem_range.mp hlt, hheld⟩
  · rintro ⟨o, hlt, hheld⟩
    exact ⟨o, Finset.mem_filter.mpr ⟨Finset.mem_range.mpr hlt, hheld⟩⟩

theorem holders_succ :
    holders (n + 1) held k = holders n held k + if held n = some k then 1 else 0 := by
  rw [holders, Finset.range_add_one, Finset.filter_insert]
  split_ifs with h
  · rw [Finset.card_insert_of_notMem (by simp)]
    rfl
  · rfl

/-- What object `o` holds is all that changes. -/
theorem holders_update (held : ℕ → Option κ) {o : ℕ} (ho : o < n) (v : Option κ) :
    holders n (Function.update held o v) k + (if held o = some k then 1 else 0) =
      holders n held k + if v = some k then 1 else 0 := by
  have hmem : o ∈ Finset.range n := Finset.mem_range.mpr ho
  -- everything but `o`, which is counted apart
  have hsplit : ∀ h : ℕ → Option κ, holders n h k =
      (((Finset.range n).erase o).filter fun x => h x = some k).card +
        if h o = some k then 1 else 0 := by
    intro h
    rw [holders, ← Finset.insert_erase hmem, Finset.filter_insert]
    split_ifs with hv
    · rw [Finset.card_insert_of_notMem (by simp), Finset.erase_insert_eq_erase,
        Finset.erase_idem]
    · rw [Finset.erase_insert_eq_erase, Finset.erase_idem]
      rfl
  have hrest : ((Finset.range n).erase o).filter (fun x => Function.update held o v x = some k) =
      ((Finset.range n).erase o).filter fun x => held x = some k := by
    refine Finset.filter_congr fun x hx => ?_
    rw [Function.update_of_ne (Finset.ne_of_mem_erase hx)]
  rw [hsplit, hsplit held, hrest, Function.update_self]
  omega

/-- A new object, which starts by holding `v`. -/
theorem holders_new (hnew : held n = none) (v : Option κ) :
    holders (n + 1) (Function.update held n v) k =
      holders n held k + if v = some k then 1 else 0 := by
  have hupdate := holders_update (k := k) held (Nat.lt_succ_self n) v
  have hsucc : holders n.succ held k = _ := holders_succ
  rw [hsucc, hnew] at hupdate
  simpa using hupdate

/-- Handing on what `s` holds, to an object that held nothing. -/
theorem holders_move {d s : ℕ} (hd : d < n) (hs : s < n) (hne : d ≠ s) (hfree : held d = none) :
    holders n (Function.update (Function.update held d (held s)) s none) k =
      holders n held k := by
  have h₁ := holders_update (k := k) held hd (held s)
  have h₂ := holders_update (k := k) (Function.update held d (held s)) hs none
  rw [Function.update_of_ne hne.symm] at h₂
  rw [hfree] at h₁
  simp only [reduceCtorEq, if_false] at h₁ h₂
  omega

end RefCount
