import Mathlib.Data.List.Forall2

/-!
# Computations that may fail

`Except ε` is a computation that returns a value or stops with an error. The rules here
say, of each way such computations are put together, when the whole returns
(`Returns`), and when it stops with an error of a given kind (`Throws`): a sequence stops
where its first part does, or its second after the first has returned; a list stops at an
element all before which have returned. Where all errors are of the one kind (`Only`) it
does not matter which part comes first. `Behaves` is the two together, with what holds of
the value that is returned.
-/

namespace Fallible

variable {ε α β : Type}

/-- It comes to a value. -/
def Returns (x : Except ε α) : Prop := ∃ a, x = .ok a

/-- It stops with an error of the kind `kind`. -/
def Throws (kind : ε → Prop) (x : Except ε α) : Prop := ∃ e, x = .error e ∧ kind e

/-! ## One computation -/

@[simp] theorem returns_ok (a : α) : Returns (.ok a : Except ε α) := ⟨a, rfl⟩

@[simp] theorem returns_pure (a : α) : Returns (pure a : Except ε α) := ⟨a, rfl⟩

@[simp] theorem not_returns_error (e : ε) : ¬ Returns (.error e : Except ε α) := by
  rintro ⟨a, h⟩
  cases h

@[simp] theorem not_throws_ok {kind : ε → Prop} (a : α) :
    ¬ Throws kind (.ok a : Except ε α) := by
  rintro ⟨e, h, -⟩
  cases h

@[simp] theorem not_throws_pure {kind : ε → Prop} (a : α) :
    ¬ Throws kind (pure a : Except ε α) := not_throws_ok a

@[simp] theorem throws_error {kind : ε → Prop} {e : ε} :
    Throws kind (.error e : Except ε α) ↔ kind e := by
  constructor
  · rintro ⟨e', h, hkind⟩
    exact Except.error.inj h ▸ hkind
  · intro hkind
    exact ⟨e, rfl, hkind⟩

/-- What throws does not return. -/
theorem Throws.not_returns {kind : ε → Prop} {x : Except ε α} (h : Throws kind x) :
    ¬ Returns x := by
  rintro ⟨a, rfl⟩
  exact not_throws_ok a h

/-! ## One after the other -/

/-- A sequence returns what its second part makes of the first. -/
theorem bind_eq_ok {x : Except ε α} {f : α → Except ε β} {b : β} :
    x >>= f = .ok b ↔ ∃ a, x = .ok a ∧ f a = .ok b := by
  cases x with
  | error e => simp [bind, Except.bind]
  | ok a => simp [bind, Except.bind]

/-- It returns if both parts do. -/
theorem returns_bind {x : Except ε α} {f : α → Except ε β} :
    Returns (x >>= f) ↔ ∃ a, x = .ok a ∧ Returns (f a) := by
  cases x with
  | error e => simp [bind, Except.bind]
  | ok a => simp [bind, Except.bind]

/-- Whether the second part returns need not depend on the value of the first. -/
theorem returns_bind_iff {x : Except ε α} {f : α → Except ε β} {p q : Prop}
    (hx : Returns x ↔ p) (hf : ∀ a, Returns (f a) ↔ q) : Returns (x >>= f) ↔ p ∧ q := by
  rw [returns_bind, ← hx]
  simp only [hf]
  exact ⟨fun ⟨a, ha, hq⟩ => ⟨⟨a, ha⟩, hq⟩, fun ⟨⟨a, ha⟩, hq⟩ => ⟨a, ha, hq⟩⟩

/-- What is done with the value in the end cannot fail. -/
theorem returns_bind_pure {x : Except ε α} {f : α → β} :
    Returns (x >>= fun a => pure (f a)) ↔ Returns x := by
  rw [returns_bind]
  exact ⟨fun ⟨a, ha, _⟩ => ⟨a, ha⟩, fun ⟨a, ha⟩ => ⟨a, ha, returns_pure _⟩⟩

/-- It throws if the first part does, or the second does of what the first returned. -/
theorem throws_bind {kind : ε → Prop} {x : Except ε α} {f : α → Except ε β} :
    Throws kind (x >>= f) ↔ Throws kind x ∨ ∃ a, x = .ok a ∧ Throws kind (f a) := by
  cases x with
  | error e => simp [bind, Except.bind]
  | ok a => simp [bind, Except.bind]

/-- What follows without failing throws nothing more. -/
theorem throws_bind_pure {kind : ε → Prop} {x : Except ε α} {f : α → β} :
    Throws kind (x >>= fun a => pure (f a)) ↔ Throws kind x := by
  rw [throws_bind]
  refine ⟨?_, .inl⟩
  rintro (h | ⟨a, -, h⟩)
  · exact h
  · exact absurd h (not_throws_pure _)

/-! ## A list -/

/-- A list that is mapped is mapped one by one. -/
theorem mapM_eq_ok {f : α → Except ε β} {xs : List α} :
    ∀ {ys : List β}, xs.mapM f = .ok ys → List.Forall₂ (fun x y => f x = .ok y) xs ys := by
  induction xs with
  | nil =>
    intro ys h
    obtain rfl : [] = ys := by simpa [pure, Except.pure] using h
    exact .nil
  | cons x xs ih =>
    intro ys h
    rw [List.mapM_cons, bind_eq_ok] at h
    obtain ⟨y, hy, h⟩ := h
    obtain ⟨rest, hrest, h⟩ := bind_eq_ok.mp h
    obtain rfl : y :: rest = ys := by simpa [pure, Except.pure] using h
    exact .cons hy (ih hrest)

/-- Where it is known what becomes of an element, it is known what becomes of the list. -/
theorem eq_map_of_mapM {f : α → Except ε β} {g : α → β} (hf : ∀ x y, f x = .ok y → y = g x)
    {xs : List α} {ys : List β} (h : xs.mapM f = .ok ys) : ys = xs.map g := by
  have hall := mapM_eq_ok h
  clear h
  induction hall with
  | nil => rfl
  | cons hxy hrest ih => rw [List.map_cons, hf _ _ hxy, ih]

/-- Every image is the image of something. -/
theorem exists_of_forall₂ {rel : α → β → Prop} {xs : List α} {ys : List β}
    (h : List.Forall₂ rel xs ys) {y : β} (hy : y ∈ ys) : ∃ x ∈ xs, rel x y := by
  induction h with
  | nil => exact absurd hy List.not_mem_nil
  | cons hxy _ ih =>
    rcases List.mem_cons.mp hy with rfl | hmem
    · exact ⟨_, List.mem_cons_self .., hxy⟩
    · obtain ⟨x, hx, hrel⟩ := ih hmem
      exact ⟨x, List.mem_cons_of_mem _ hx, hrel⟩

/-- A list is mapped if every entry is. -/
theorem returns_mapM {f : α → Except ε β} {xs : List α} :
    Returns (xs.mapM f) ↔ ∀ x ∈ xs, Returns (f x) := by
  induction xs with
  | nil => simp
  | cons x xs ih =>
    rw [List.mapM_cons, returns_bind, List.forall_mem_cons, ← ih]
    constructor
    · rintro ⟨y, hy, hrest⟩
      obtain ⟨ys, hys, -⟩ := returns_bind.mp hrest
      exact ⟨⟨y, hy⟩, ⟨ys, hys⟩⟩
    · rintro ⟨⟨y, hy⟩, ⟨ys, hys⟩⟩
      exact ⟨y, hy, returns_bind.mpr ⟨ys, hys, returns_pure _⟩⟩

/-- Before the first element that is not good there are only good ones, and it is bad. -/
def FirstIs (good bad : α → Prop) (xs : List α) : Prop :=
  ∃ before x after, xs = before ++ x :: after ∧ (∀ y ∈ before, good y) ∧ bad x

/-- Of nothing nothing is the first. -/
theorem not_firstIs_nil {good bad : α → Prop} : ¬ FirstIs good bad [] := by
  rintro ⟨before, x, after, heq, -⟩
  cases before <;> cases heq

/-- The first bad entry is the head, or is behind a good one. -/
theorem firstIs_cons {good bad : α → Prop} {x : α} {xs : List α} :
    FirstIs good bad (x :: xs) ↔ bad x ∨ good x ∧ FirstIs good bad xs := by
  constructor
  · rintro ⟨before, y, after, heq, hbefore, hy⟩
    cases before with
    | nil =>
      obtain ⟨rfl, rfl⟩ := List.cons.inj heq
      exact .inl hy
    | cons z before =>
      obtain ⟨rfl, rfl⟩ := List.cons.inj heq
      obtain ⟨hx, hbefore⟩ := List.forall_mem_cons.mp hbefore
      exact .inr ⟨hx, before, y, after, rfl, hbefore, hy⟩
  · rintro (hx | ⟨hx, before, y, after, rfl, hbefore, hy⟩)
    · exact ⟨[], x, xs, rfl, fun _ h => absurd h List.not_mem_nil, hx⟩
    · exact ⟨x :: before, y, after, rfl, List.forall_mem_cons.mpr ⟨hx, hbefore⟩, hy⟩

/-- The first element that does not return decides. -/
theorem throws_mapM {kind : ε → Prop} {f : α → Except ε β} {xs : List α} :
    Throws kind (xs.mapM f) ↔
      FirstIs (fun x => Returns (f x)) (fun x => Throws kind (f x)) xs := by
  induction xs with
  | nil =>
    rw [List.mapM_nil]
    exact ⟨fun h => absurd h (not_throws_pure _), fun h => absurd h not_firstIs_nil⟩
  | cons x xs ih =>
    rw [List.mapM_cons, throws_bind, firstIs_cons]
    refine or_congr_right ?_
    constructor
    · rintro ⟨y, hy, hrest⟩
      rcases throws_bind.mp hrest with hrest | ⟨ys, -, hpure⟩
      · exact ⟨⟨y, hy⟩, ih.mp hrest⟩
      · exact absurd hpure (not_throws_pure _)
    · rintro ⟨⟨y, hy⟩, hrest⟩
      exact ⟨y, hy, throws_bind.mpr (.inl (ih.mpr hrest))⟩

/-! ## One kind of error -/

/-- Where it does not return, the error is of the kind `kind`. -/
def Only (kind : ε → Prop) (x : Except ε α) : Prop := ∀ e, x = .error e → kind e

namespace Only

variable {kind : ε → Prop}

/-- A value is no failure. -/
theorem ok (a : α) : Only kind (.ok a : Except ε α) := fun _ h => by cases h

theorem pure (a : α) : Only kind (pure a : Except ε α) := ok a

/-- A failure of the kind is one of the kind. -/
theorem error {e : ε} (h : kind e) : Only kind (.error e : Except ε α) :=
  fun _ he => Except.error.inj he ▸ h

/-- Parts that only fail in one way do so together. -/
theorem bind {x : Except ε α} {f : α → Except ε β} (hx : Only kind x)
    (hf : ∀ a, Only kind (f a)) : Only kind (x >>= f) := by
  cases x with
  | error e => exact error (hx e rfl)
  | ok a => exact hf a

/-- A list mapped by a part that only fails in one way fails in that way only. -/
theorem mapM {f : α → Except ε β} (hf : ∀ a, Only kind (f a)) (xs : List α) :
    Only kind (xs.mapM f) := by
  induction xs with
  | nil => exact pure []
  | cons x xs ih =>
    rw [List.mapM_cons]
    exact (hf x).bind fun y => ih.bind fun ys => pure (y :: ys)

/-- What only fails in one way returns or throws so. -/
theorem returns_iff {x : Except ε α} (h : Only kind x) : Returns x ↔ ¬ Throws kind x := by
  cases x with
  | ok a => exact iff_of_true (returns_ok a) (not_throws_ok a)
  | error e =>
    exact iff_of_false (not_returns_error e) (not_not.mpr (throws_error.mpr (h e rfl)))

/-- What the second part does need not wait for the first. -/
theorem throws_bind {x : Except ε α} {f : α → Except ε β} {p : Prop} (hx : Only kind x)
    (hf : ∀ a, x = .ok a → (Throws kind (f a) ↔ p)) :
    Throws kind (x >>= f) ↔ Throws kind x ∨ p := by
  cases x with
  | error e =>
    have he : Throws kind (.error e : Except ε α) := throws_error.mpr (hx e rfl)
    exact iff_of_true (throws_error.mpr (hx e rfl)) (.inl he)
  | ok a =>
    exact (hf a rfl).trans (or_iff_right (not_throws_ok a)).symm

/-- A list throws if an entry does. -/
theorem throws_mapM {f : α → Except ε β} (hf : ∀ a, Only kind (f a)) {xs : List α} :
    Throws kind (xs.mapM f) ↔ ∃ x ∈ xs, Throws kind (f x) := by
  have hnot := (mapM hf xs).returns_iff
  rw [returns_mapM] at hnot
  rw [← not_iff_not, ← hnot]
  simp only [not_exists, not_and]
  exact forall₂_congr fun x _ => (hf x).returns_iff

end Only

/-! ## All there is to know -/

/-- When it stops with an error of the kind `kind`, when it returns, and with what. -/
structure Behaves (kind : ε → Prop) (x : Except ε α) (bad good : Prop) (post : α → Prop) :
    Prop where
  throws : Throws kind x ↔ bad
  returns : Returns x ↔ good
  ensures : ∀ a, x = .ok a → post a

namespace Behaves

variable {kind : ε → Prop} {x : Except ε α} {bad good : Prop} {post : α → Prop}

/-- A value returns. -/
theorem pure {a : α} (h : post a) : Behaves kind (pure a : Except ε α) False True post :=
  ⟨iff_of_false (not_throws_pure a) id, iff_of_true (returns_pure a) trivial,
    fun _ ha => Except.ok.inj ha ▸ h⟩

/-- A failure of the kind throws so. -/
theorem error {e : ε} (h : kind e) : Behaves kind (.error e : Except ε α) True False post :=
  ⟨iff_of_true (throws_error.mpr h) trivial, iff_of_false (not_returns_error e) id,
    fun _ ha => by cases ha⟩

/-- A failure of another kind neither throws so nor returns. -/
theorem error_of_not {e : ε} (h : ¬ kind e) :
    Behaves kind (.error e : Except ε α) False False post :=
  ⟨iff_of_false (fun ht => h (throws_error.mp ht)) id, iff_of_false (not_returns_error e) id,
    fun _ ha => by cases ha⟩

/-- What only fails in one way, by when it throws. -/
theorem of_only (h : Only kind x) (hbad : Throws kind x ↔ bad)
    (hpost : ∀ a, x = .ok a → post a) : Behaves kind x bad (¬ bad) post :=
  ⟨hbad, by rw [h.returns_iff, hbad], hpost⟩

/-- Conditions can be put otherwise. -/
theorem congr {bad' good' : Prop} {post' : α → Prop} (h : Behaves kind x bad good post)
    (hbad : bad ↔ bad') (hgood : good ↔ good') (hpost : ∀ a, post a → post' a) :
    Behaves kind x bad' good' post' :=
  ⟨h.throws.trans hbad, h.returns.trans hgood, fun a ha => hpost a (h.ensures a ha)⟩

/-- What returned did so under its condition. -/
theorem and_good (h : Behaves kind x bad good post) :
    Behaves kind x bad good fun a => good ∧ post a :=
  ⟨h.throws, h.returns, fun a ha => ⟨h.returns.mp ⟨a, ha⟩, h.ensures a ha⟩⟩

/-- The second part is only looked at where the first returns. -/
theorem bind {f : α → Except ε β} {bad' good' : Prop} {post' : β → Prop}
    (hx : Behaves kind x bad good post)
    (hf : ∀ a, post a → Behaves kind (f a) bad' good' post') :
    Behaves kind (x >>= f) (bad ∨ good ∧ bad') (good ∧ good') post' where
  throws := by
    rw [throws_bind, hx.throws, ← hx.returns]
    refine or_congr_right ⟨?_, ?_⟩
    · rintro ⟨a, ha, h⟩
      exact ⟨⟨a, ha⟩, (hf a (hx.ensures a ha)).throws.mp h⟩
    · rintro ⟨⟨a, ha⟩, h⟩
      exact ⟨a, ha, (hf a (hx.ensures a ha)).throws.mpr h⟩
  returns := by
    rw [returns_bind, ← hx.returns]
    constructor
    · rintro ⟨a, ha, h⟩
      exact ⟨⟨a, ha⟩, (hf a (hx.ensures a ha)).returns.mp h⟩
    · rintro ⟨⟨a, ha⟩, h⟩
      exact ⟨a, ha, (hf a (hx.ensures a ha)).returns.mpr h⟩
  ensures b hb := by
    obtain ⟨a, ha, hfa⟩ := bind_eq_ok.mp hb
    exact (hf a (hx.ensures a ha)).ensures b hfa

end Behaves

end Fallible
