import Mathlib.Data.List.Nodup
import Mathlib.Data.List.Perm.Basic

/-!
# A map and the order of its keys

A table that remembers the order of insertion keeps its entries in a map and its keys
in a list. `Shows` says that the two are in step, by naming the one list they both
come from: the values, oldest first, each under its own key.

Looking a key up, inserting a new one and erasing one are then operations on that
list (`Shows.lookup_eq_some`, `Shows.insert`, `Shows.erase`), and going through the keys
and looking each of them up gives the list back (`Shows.mapM_lookup`).
-/

namespace OrderedTable

variable {κ α : Type*} {key : α → κ}

/-- The entries and the order of their keys both show the values `listed`. -/
structure Shows (key : α → κ) (entries : List (κ × α)) (order : List κ) (listed : List α) :
    Prop where
  nodup : (listed.map key).Nodup
  order_eq : order = listed.map key
  perm : entries.Perm (listed.map fun a => (key a, a))

namespace Shows

theorem empty : Shows key [] [] [] := ⟨List.nodup_nil, rfl, .nil⟩

variable {entries : List (κ × α)} {order : List κ} {listed : List α}

theorem nodup_order (h : Shows key entries order listed) : order.Nodup := h.order_eq ▸ h.nodup

theorem mem_order (h : Shows key entries order listed) {k : κ} :
    k ∈ order ↔ ∃ a ∈ listed, key a = k := by
  rw [h.order_eq, List.mem_map]

theorem mem_entries (h : Shows key entries order listed) {k : κ} {a : α} :
    (k, a) ∈ entries ↔ a ∈ listed ∧ key a = k := by
  rw [h.perm.mem_iff, List.mem_map]
  constructor
  · rintro ⟨b, hb, heq⟩
    obtain ⟨rfl, rfl⟩ := Prod.mk.inj heq
    exact ⟨hb, rfl⟩
  · rintro ⟨ha, rfl⟩
    exact ⟨a, ha, rfl⟩

/-- A key has one value. -/
theorem eq_of_key (h : Shows key entries order listed) {a b : α} (ha : a ∈ listed)
    (hb : b ∈ listed) (hkey : key a = key b) : a = b :=
  List.inj_on_of_nodup_map h.nodup ha hb hkey

variable [BEq κ]

/-- A key that is erased takes its value with it, and nothing else. -/
theorem erase (h : Shows key entries order listed) (k : κ) :
    Shows key (entries.filter fun p => p.1 != k) (order.filter (· != k))
      (listed.filter fun a => key a != k) where
  nodup := h.nodup.sublist (List.filter_sublist.map key)
  order_eq := by
    rw [h.order_eq, List.filter_map]
    rfl
  perm := by
    have hperm := h.perm.filter fun p => p.1 != k
    rw [List.filter_map] at hperm
    exact hperm

variable [LawfulBEq κ]

theorem lookup_eq_some (h : Shows key entries order listed) {k : κ} {a : α} :
    entries.lookup k = some a ↔ a ∈ listed ∧ key a = k := by
  constructor
  · intro hl
    obtain ⟨l₁, l₂, rfl, -⟩ := List.lookup_eq_some_iff.mp hl
    exact h.mem_entries.mp (by simp)
  · intro hmem
    have hsome : (entries.lookup k).isSome := by
      rw [List.lookup_isSome_iff]
      exact ⟨(k, a), h.mem_entries.mpr hmem, by simp⟩
    obtain ⟨b, hb⟩ := Option.isSome_iff_exists.mp hsome
    obtain ⟨l₁, l₂, hsplit, -⟩ := List.lookup_eq_some_iff.mp hb
    have hb' := (h.mem_entries (k := k) (a := b)).mp (by rw [hsplit]; simp)
    rw [hb, h.eq_of_key hb'.1 hmem.1 (hb'.2.trans hmem.2.symm)]

theorem lookup_isSome (h : Shows key entries order listed) {k : κ} :
    (entries.lookup k).isSome ↔ k ∈ order := by
  rw [h.mem_order, Option.isSome_iff_exists]
  exact exists_congr fun a => h.lookup_eq_some

theorem lookup_eq_none (h : Shows key entries order listed) {k : κ} :
    entries.lookup k = none ↔ k ∉ order := by
  rw [← h.lookup_isSome, Option.not_isSome_iff_eq_none]

/-- Going through the keys in order gives back the values. -/
theorem mapM_lookup (h : Shows key entries order listed) :
    order.mapM (fun k => entries.lookup k) = some listed := by
  have hsub : ∀ a ∈ listed, entries.lookup (key a) = some a :=
    fun a ha => h.lookup_eq_some.mpr ⟨ha, rfl⟩
  rw [h.order_eq]
  clear h
  induction listed with
  | nil => rfl
  | cons a l ih =>
    rw [List.map_cons, List.mapM_cons, hsub a (List.mem_cons_self ..),
      ih fun b hb => hsub b (List.mem_cons_of_mem _ hb)]
    rfl

/-- A value under a new key goes to the end. -/
theorem insert (h : Shows key entries order listed) {a : α}
    (hnew : entries.lookup (key a) = none) :
    Shows key ((key a, a) :: entries) (order ++ [key a]) (listed ++ [a]) where
  nodup := by
    rw [List.map_append, List.map_singleton, ← h.order_eq]
    exact List.nodup_append.mpr ⟨h.nodup_order, List.nodup_singleton _, by
      rintro k hk b hb rfl
      exact h.lookup_eq_none.mp hnew (List.mem_singleton.mp hb ▸ hk)⟩
  order_eq := by rw [h.order_eq, List.map_append, List.map_singleton]
  perm := by
    rw [List.map_append, List.map_singleton]
    exact (h.perm.cons _).trans (List.perm_append_singleton _ _).symm

end Shows

end OrderedTable
