import Mathlib.Data.List.Infix
import Mathlib.Tactic.SplitIfs

/-!
# Names in a tree with symbolic links

A tree of directories is a map from places, lists of names from the root, to what is there:
a directory, a file or a link, which stands for further steps. `resolve` walks along the
steps of a name as an operating system does. It follows links wherever it meets them, up
to a number of them, and asks for a directory wherever a step is left.

What it arrives at is a place on which there are no links (`resolve_real`), so that the
steps along the names of the place lead to it again (`resolve_down`).
-/

/-- A step of a name: to the directory itself, to its parent, or to an entry. -/
inductive Step (α : Type*)
  | here
  | up
  | down (a : α)
  deriving DecidableEq

/-- What there can be at a place. -/
inductive LinkNode (α γ : Type*)
  | directory
  | file (content : γ)
  | link (absolute : Bool) (steps : List (Step α))
  deriving DecidableEq

/-- Why a path leads nowhere. -/
inductive ResolveError
  | notFound
  | tooManyLinks
  deriving DecidableEq, Repr

/-- A tree of names with links in it. -/
structure LinkTree (α γ : Type*) where
  node : List α → Option (LinkNode α γ)
  root_directory : node [] = some .directory

namespace LinkTree

variable {α γ : Type*} (t : LinkTree α γ)

/-- There is a directory at the place. -/
def isDirectory (place : List α) : Bool :=
  match t.node place with
  | some .directory => true
  | _ => false

/-- The steps up to the first link, and from there as `follow` goes on. -/
@[simp] def walk (follow : List α → List (Step α) → Except ResolveError (List α)) :
    List α → List (Step α) → Except ResolveError (List α)
  | place, [] => .ok place
  | place, .here :: steps =>
    if t.isDirectory place then walk follow place steps else .error .notFound
  | place, .up :: steps =>
    if t.isDirectory place then walk follow place.dropLast steps else .error .notFound
  | place, .down a :: steps =>
    if t.isDirectory place then
      match t.node (place ++ [a]) with
      | none => .error .notFound
      | some (.link absolute target) => follow (if absolute then [] else place) (target ++ steps)
      | some _ => walk follow (place ++ [a]) steps
    else .error .notFound

/-- The place that the steps from a place lead to, over at most so many links. -/
def resolve : ℕ → List α → List (Step α) → Except ResolveError (List α)
  | 0 => t.walk fun _ _ => .error .tooManyLinks
  | links + 1 => t.walk (resolve links)

variable {t}

/-- The same as a fact. -/
theorem isDirectory_iff {place : List α} :
    t.isDirectory place = true ↔ t.node place = some .directory := by
  unfold isDirectory
  split <;> simp_all

/-! ## Places without links -/

/-- There is something at the place, and no link on the way to it or there. -/
structure Real (t : LinkTree α γ) (place : List α) : Prop where
  directories : ∀ before a, before ++ [a] <+: place → t.node before = some .directory
  entry : ∃ n, t.node place = some n ∧ ∀ absolute target, n ≠ .link absolute target

/-- The root is a real place. -/
theorem real_root : t.Real [] where
  directories := fun before a h => by simp at h
  entry := ⟨.directory, t.root_directory, fun _ _ h => by cases h⟩

/-- What a real directory holds is at a real place, unless it is a link. -/
theorem Real.concat {place : List α} {a : α} {n : LinkNode α γ} (h : t.Real place)
    (hdir : t.node place = some .directory) (hn : t.node (place ++ [a]) = some n)
    (hlink : ∀ absolute target, n ≠ .link absolute target) : t.Real (place ++ [a]) where
  directories := by
    intro before b hpre
    rcases List.prefix_concat_iff.mp hpre with heq | hpre
    · rw [(List.append_inj' heq rfl).1]
      exact hdir
    · exact h.directories before b hpre
  entry := ⟨n, hn, hlink⟩

/-- Every place on the way to a real one is a directory, and real. -/
theorem Real.of_prefix {place before : List α} (h : t.Real place) (hpre : before <+: place)
    (hne : before ≠ place) : t.node before = some .directory ∧ t.Real before := by
  obtain ⟨rest, rfl⟩ := hpre
  cases rest with
  | nil => exact absurd (List.append_nil before).symm hne
  | cons a rest =>
    have hdir : t.node before = some .directory :=
      h.directories before a ⟨rest, by rw [List.append_assoc, List.singleton_append]⟩
    refine ⟨hdir, ⟨fun early b hearly => ?_, .directory, hdir, fun _ _ heq => by cases heq⟩⟩
    exact h.directories early b (hearly.trans (List.prefix_append before (a :: rest)))

/-- A real place is in a real one. -/
theorem Real.dropLast {place : List α} (h : t.Real place) : t.Real place.dropLast := by
  by_cases hne : place.dropLast = place
  · rw [hne]
    exact h
  · exact (h.of_prefix place.dropLast_prefix hne).2

/-- What a walk arrives at is real, if what it is followed to is. -/
theorem walk_real {follow : List α → List (Step α) → Except ResolveError (List α)}
    (hfollow : ∀ place steps place', t.Real place → follow place steps = .ok place' →
      t.Real place') {place place' : List α} {steps : List (Step α)} (h : t.Real place)
    (hwalk : t.walk follow place steps = .ok place') : t.Real place' := by
  induction steps generalizing place with
  | nil =>
    obtain rfl := Except.ok.inj hwalk
    exact h
  | cons s steps ih =>
    cases s with
    | here =>
      rw [walk] at hwalk
      split_ifs at hwalk
      exact ih h hwalk
    | up =>
      rw [walk] at hwalk
      split_ifs at hwalk
      exact ih h.dropLast hwalk
    | down a =>
      rw [walk] at hwalk
      split_ifs at hwalk with hdir
      split at hwalk
      next => cases hwalk
      next absolute target hn =>
        refine hfollow _ _ _ ?_ hwalk
        split_ifs
        · exact real_root
        · exact h
      next n hlink hn =>
        exact ih (h.concat (isDirectory_iff.mp hdir) hn fun _ _ heq => hlink _ _ heq) hwalk

/-- **No link is left** on the place that is arrived at. -/
theorem resolve_real {links : ℕ} {place place' : List α} {steps : List (Step α)}
    (h : t.Real place) (hresolve : t.resolve links place steps = .ok place') : t.Real place' := by
  induction links generalizing place place' steps with
  | zero => exact walk_real (fun _ _ _ _ heq => by cases heq) h hresolve
  | succ links ih => exact walk_real (fun _ _ _ hreal heq => ih hreal heq) h hresolve

/-- Along a real place nothing is followed. -/
theorem walk_down {follow : List α → List (Step α) → Except ResolveError (List α)}
    {place names : List α} (h : t.Real (place ++ names)) (steps : List (Step α)) :
    t.walk follow place (names.map .down ++ steps) = t.walk follow (place ++ names) steps := by
  induction names generalizing place with
  | nil => rw [List.map_nil, List.nil_append, List.append_nil]
  | cons a names ih =>
    have hplace : place ++ a :: names = place ++ [a] ++ names := by simp
    have hdir : t.isDirectory place = true :=
      isDirectory_iff.mpr (h.directories place a ⟨names, hplace.symm⟩)
    have hreal : t.Real (place ++ [a]) := by
      by_cases hend : place ++ [a] = place ++ a :: names
      · rw [hend]
        exact h
      · exact (h.of_prefix ⟨names, hplace.symm⟩ hend).2
    obtain ⟨n, hn, hlink⟩ := hreal.entry
    rw [List.map_cons, List.cons_append, walk, if_pos hdir, hn]
    rw [hplace] at h ⊢
    rw [← ih h]
    cases n with
    | directory => rfl
    | file content => rfl
    | link absolute target => exact absurd rfl (hlink absolute target)

/-- The names of a real place lead there. -/
theorem resolve_down {place names : List α} (h : t.Real (place ++ names)) (links : ℕ)
    (steps : List (Step α)) :
    t.resolve links place (names.map .down ++ steps) = t.resolve links (place ++ names) steps := by
  cases links with
  | zero => exact walk_down h steps
  | succ links => exact walk_down h steps

/-- The names of a real place lead to it from the root. -/
theorem resolve_names {place : List α} (h : t.Real place) (links : ℕ) (steps : List (Step α)) :
    t.resolve links [] (place.map .down ++ steps) = t.resolve links place steps :=
  resolve_down h links steps

/-- Where no directory is, no step leads on. -/
theorem resolve_of_not_directory {place : List α} (h : t.isDirectory place = false) (links : ℕ)
    (s : Step α) (steps : List (Step α)) :
    t.resolve links place (s :: steps) = .error .notFound := by
  have hwalk : ∀ follow, t.walk follow place (s :: steps) = .error .notFound := by
    intro follow
    cases s <;> rw [walk, h, if_neg Bool.false_ne_true]
  cases links with
  | zero => exact hwalk _
  | succ links => exact hwalk _

/-- A step that leads nowhere is skipped. -/
theorem resolve_here {place : List α} (h : t.isDirectory place = true) (links : ℕ)
    (steps : List (Step α)) :
    t.resolve links place (.here :: steps) = t.resolve links place steps := by
  have hwalk : ∀ follow, t.walk follow place (.here :: steps) = t.walk follow place steps := by
    intro follow
    rw [walk, if_pos h]
  cases links with
  | zero => exact hwalk _
  | succ links => exact hwalk _

/-! ## Names in two parts -/

section

variable {follow follow' : List α → List (Step α) → Except ResolveError (List α)}
  {place place' : List α} {steps : List (Step α)}

/-- A walk that fails does so whatever would come after. -/
theorem walk_append_error {more : List (Step α)} {e : ResolveError}
    (hfollow : ∀ place steps, follow place steps = .error e →
      follow place (steps ++ more) = .error e)
    (h : t.walk follow place steps = .error e) :
    t.walk follow place (steps ++ more) = .error e := by
  induction steps generalizing place with
  | nil => cases h
  | cons s steps ih =>
    cases s with
    | here =>
      rw [walk] at h
      rw [List.cons_append, walk]
      split_ifs at h ⊢
      · exact ih h
      · exact h
    | up =>
      rw [walk] at h
      rw [List.cons_append, walk]
      split_ifs at h ⊢
      · exact ih h
      · exact h
    | down a =>
      rw [walk] at h
      rw [List.cons_append, walk]
      split_ifs at h ⊢
      · split at h
        next => exact h
        next absolute target _ =>
          rw [← List.append_assoc]
          exact hfollow _ _ h
        next => exact ih h
      · exact h

/-- After a walk that arrives one goes on from there, or after a link that was followed. -/
theorem walk_append_ok {more : List (Step α)} {links : ℕ}
    (hfollow : ∀ place steps place', follow place steps = .ok place' →
      ∃ m < links, follow place (steps ++ more) = t.resolve m place' more)
    (h : t.walk follow place steps = .ok place') :
    t.walk follow place (steps ++ more) = t.walk follow place' more ∨
      ∃ m < links, t.walk follow place (steps ++ more) = t.resolve m place' more := by
  induction steps generalizing place with
  | nil =>
    obtain rfl := Except.ok.inj h
    exact .inl rfl
  | cons s steps ih =>
    cases s with
    | here =>
      rw [walk] at h
      rw [List.cons_append, walk]
      split_ifs at h ⊢
      exact ih h
    | up =>
      rw [walk] at h
      rw [List.cons_append, walk]
      split_ifs at h ⊢
      exact ih h
    | down a =>
      rw [walk] at h
      rw [List.cons_append, walk]
      split_ifs at h ⊢
      split at h
      next => cases h
      next absolute target _ =>
        rw [← List.append_assoc]
        exact .inr (hfollow _ _ _ h)
      next => exact ih h

/-- What is not there is not there for one who follows further. -/
theorem walk_notFound (hfollow : ∀ place steps, follow place steps = .error .notFound →
      follow' place steps = .error .notFound)
    (h : t.walk follow place steps = .error .notFound) :
    t.walk follow' place steps = .error .notFound := by
  induction steps generalizing place with
  | nil => cases h
  | cons s steps ih =>
    cases s with
    | here =>
      rw [walk] at h ⊢
      split_ifs at h ⊢
      · exact ih h
      · rfl
    | up =>
      rw [walk] at h ⊢
      split_ifs at h ⊢
      · exact ih h
      · rfl
    | down a =>
      rw [walk] at h ⊢
      split_ifs at h ⊢
      · split at h
        next => rfl
        next => exact hfollow _ _ h
        next => exact ih h
      · rfl

/-- A path that leads nowhere does so however it goes on. -/
theorem resolve_append_error {links : ℕ} {e : ResolveError}
    (h : t.resolve links place steps = .error e) (more : List (Step α)) :
    t.resolve links place (steps ++ more) = .error e := by
  induction links generalizing place steps with
  | zero => exact walk_append_error (fun _ _ heq => heq) h
  | succ links ih => exact walk_append_error (fun _ _ heq => ih heq) h

/-- A path goes on from where its front leads. -/
theorem resolve_append_ok {links : ℕ} (h : t.resolve links place steps = .ok place')
    (more : List (Step α)) :
    ∃ m ≤ links, t.resolve links place (steps ++ more) = t.resolve m place' more := by
  induction links generalizing place place' steps with
  | zero =>
    rcases @walk_append_ok _ _ t _ place place' steps more 0 (fun _ _ _ heq => by cases heq) h
      with heq | ⟨m, hm, -⟩
    · exact ⟨0, Nat.le_refl 0, heq⟩
    · exact absurd hm (Nat.not_lt_zero m)
  | succ links ih =>
    have hfollow : ∀ place steps place', t.resolve links place steps = .ok place' →
        ∃ m < links + 1, t.resolve links place (steps ++ more) = t.resolve m place' more := by
      intro place steps place' heq
      obtain ⟨m, hm, hmore⟩ := ih heq
      exact ⟨m, Nat.lt_succ_of_le hm, hmore⟩
    rcases walk_append_ok hfollow h with heq | ⟨m, hm, heq⟩
    · exact ⟨links + 1, Nat.le_refl _, heq⟩
    · exact ⟨m, hm.le, heq⟩

/-- What is not there is not there with one link more allowed. -/
theorem resolve_notFound_succ {links : ℕ} (h : t.resolve links place steps = .error .notFound) :
    t.resolve (links + 1) place steps = .error .notFound := by
  induction links generalizing place steps with
  | zero => exact walk_notFound (fun _ _ heq => by cases heq) h
  | succ links ih => exact walk_notFound (fun _ _ heq => ih heq) h

/-- What is not there is not there with any number of links allowed. -/
theorem resolve_notFound_mono {m links : ℕ} (hle : m ≤ links)
    (h : t.resolve m place steps = .error .notFound) :
    t.resolve links place steps = .error .notFound := by
  induction links, hle using Nat.le_induction with
  | base => exact h
  | succ links _ ih => exact resolve_notFound_succ ih

/-- **What is missing behind a name** is missing at the place the name leads to. -/
theorem notFound_at_place {links : ℕ} {s : Step α} (h : t.resolve links place steps = .ok place')
    (hnext : t.resolve links place (steps ++ [s]) = .error .notFound) (more : List (Step α)) :
    t.resolve links place' (s :: more) = .error .notFound := by
  obtain ⟨m, hm, heq⟩ := resolve_append_ok h [s]
  rw [hnext] at heq
  exact resolve_append_error (resolve_notFound_mono hm heq.symm) more

end

end LinkTree
