import Mathlib.Tactic.SplitIfs
import Sovd.Lib.FaultyStream

/-!
# A stream that comes in chunks

What a stream socket delivers has no boundaries of its own: the peer writes bytes, and
`recv` returns some of them at a time. `Chunked` is the bytes of a peer that closes after
the last of them, cut into the pieces in which they arrive. No piece is empty, so that a
`recv` of nothing means the end, and a `recv` for less than a piece leaves the rest of it.

The loop that reads exactly `n` bytes sees none of the cuts
(`Chunked.readExact_script`): it does what `StreamEvent.readExact` does on the bytes alone.
-/

namespace StreamEvent

variable {β : Type*}

theorem ofItems_injective : Function.Injective (ofItems : List β → List (StreamEvent β)) :=
  List.map_injective_iff.mpr fun _ _ h => by injection h

/-- A read begins with the items there are, as far as it wants them. -/
theorem readExact_ofItems_append {n : ℕ} {bs : List β} (h : bs.length ≤ n)
    (s : List (StreamEvent β)) :
    readExact n (ofItems bs ++ s) =
      ((readExact (n - bs.length) s).1, bs ++ (readExact (n - bs.length) s).2.1,
        (readExact (n - bs.length) s).2.2) := by
  induction bs generalizing n with
  | nil => rfl
  | cons b bs ih =>
    cases n with
    | zero => simp at h
    | succ n =>
      have hle : bs.length ≤ n := Nat.le_of_succ_le_succ h
      rw [List.length_cons, Nat.add_sub_add_right]
      simp only [ofItems, List.map_cons, List.cons_append, readExact]
      rw [← ofItems, ih hle]

end StreamEvent

/-- The items of a stream in the pieces in which they arrive, before it ends. -/
structure Chunked (β : Type*) where
  chunks : List (List β)
  nil_not_mem : [] ∉ chunks

namespace Chunked

open StreamEvent

variable {β : Type*}

/-- What is delivered, however it is cut. -/
def items (c : Chunked β) : List β := c.chunks.flatten

/-- The same as a script, on which the stream ends after the last item. -/
def script (c : Chunked β) : List (StreamEvent β) := ofItems c.items ++ [closed]

theorem script_inj {c c' : Chunked β} : c.script = c'.script ↔ c.items = c'.items := by
  rw [script, script, List.append_left_inj]
  exact ofItems_injective.eq_iff

theorem nil_not_mem_drop {b : List β} {bs : List (List β)} {len : ℕ} (h : [] ∉ b :: bs)
    (hlen : len < b.length) : [] ∉ b.drop len :: bs := by
  rw [List.mem_cons, not_or] at h ⊢
  refine ⟨fun hnil => ?_, h.2⟩
  have := List.drop_eq_nil_iff.mp hnil.symm
  omega

/-- Up to `len` items of the first chunk; of an ended stream, none. -/
def recv (len : ℕ) : Chunked β → List β × Chunked β
  | ⟨[], h⟩ => ([], ⟨[], h⟩)
  | ⟨b :: bs, h⟩ =>
    if hlen : len < b.length then (b.take len, ⟨b.drop len :: bs, nil_not_mem_drop h hlen⟩)
    else (b, ⟨bs, fun hmem => h (List.mem_cons_of_mem b hmem)⟩)

/-- Calls of `recv` until `len` items have come or the stream has ended. -/
def readExact (len : ℕ) (c : Chunked β) : ReadResult × List β × Chunked β :=
  if len = 0 then (.ok, [], c)
  else
    match recv len c with
    | ([], c) => (.closed, [], c)
    | (b :: bs, c) =>
      let (r, more, c) := readExact (len - (bs.length + 1)) c
      (r, b :: bs ++ more, c)
termination_by len

/-- A `recv` takes what it returns from the front. -/
theorem items_of_recv {len : ℕ} {c c' : Chunked β} {bs : List β} (h : recv len c = (bs, c')) :
    c.items = bs ++ c'.items := by
  obtain ⟨chunks, hc⟩ := c
  cases chunks with
  | nil =>
    obtain ⟨rfl, rfl⟩ := Prod.mk.inj h
    rfl
  | cons b rest =>
    rw [recv] at h
    split_ifs at h with hlen
    · obtain ⟨rfl, rfl⟩ := Prod.mk.inj h
      simp only [items, List.flatten_cons]
      rw [← List.append_assoc, List.take_append_drop]
    · obtain ⟨rfl, rfl⟩ := Prod.mk.inj h
      simp only [items, List.flatten_cons]

theorem length_of_recv {len : ℕ} {c c' : Chunked β} {bs : List β} (h : recv len c = (bs, c')) :
    bs.length ≤ len := by
  obtain ⟨chunks, hc⟩ := c
  cases chunks with
  | nil =>
    obtain ⟨rfl, rfl⟩ := Prod.mk.inj h
    exact Nat.zero_le len
  | cons b rest =>
    rw [recv] at h
    split_ifs at h with hlen
    · obtain ⟨rfl, -⟩ := Prod.mk.inj h
      exact List.length_take_le len b
    · obtain ⟨rfl, -⟩ := Prod.mk.inj h
      exact Nat.not_lt.mp hlen

/-- A `recv` that wants something returns nothing only at the end. -/
theorem items_eq_nil_of_recv {len : ℕ} (hlen : len ≠ 0) {c c' : Chunked β}
    (h : recv len c = ([], c')) : c.items = [] ∧ c'.items = [] := by
  obtain ⟨chunks, hc⟩ := c
  cases chunks with
  | nil =>
    obtain ⟨-, rfl⟩ := Prod.mk.inj h
    exact ⟨rfl, rfl⟩
  | cons b rest =>
    exfalso
    rw [List.mem_cons, not_or] at hc
    rw [recv] at h
    split_ifs at h with hshort
    · obtain ⟨htake, -⟩ := Prod.mk.inj h
      rcases List.take_eq_nil_iff.mp htake with hzero | hnil
      · exact hlen hzero
      · exact hc.1 hnil.symm
    · obtain ⟨hnil, -⟩ := Prod.mk.inj h
      exact hc.1 hnil.symm

/-- **The loop sees no chunks**: it reads what the bytes alone would give it. -/
theorem readExact_script (len : ℕ) (c : Chunked β) :
    StreamEvent.readExact len c.script =
      ((c.readExact len).1, (c.readExact len).2.1, (c.readExact len).2.2.script) := by
  induction len using Nat.strongRecOn generalizing c with
  | ind len ih =>
    rw [readExact]
    split_ifs with hlen
    · rw [hlen, StreamEvent.readExact]
    · obtain ⟨n, rfl⟩ := Nat.exists_eq_succ_of_ne_zero hlen
      split
      next c' hrecv =>
        obtain ⟨hnil, hnil'⟩ := items_eq_nil_of_recv hlen hrecv
        rw [script, script, hnil, hnil']
        rfl
      next b bs c' hrecv =>
        have hle : (b :: bs).length ≤ n + 1 := length_of_recv hrecv
        have hscript : c.script = ofItems (b :: bs) ++ c'.script := by
          rw [script, items_of_recv hrecv, ofItems_append, List.append_assoc, ← script]
        rw [hscript, readExact_ofItems_append hle, List.length_cons,
          ih (n + 1 - (bs.length + 1)) (by omega) c']

end Chunked
