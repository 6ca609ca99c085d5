/-!
# Calls that are interrupted

A call that holds a lock for a moment, lets go of it to wait for an answer, and takes it
again is not one step of the state the lock protects: between its atoms other threads
have their turn. `Prog σ α` is what is left to do of such a call: nothing, with a result,
or an atom on the state and, depending on what the atom saw, the rest.

`Prog.finish` is the call with nothing in between, which is what a function that does not
know of threads computes; `Prog.step` is its next atom. A relation that each atom keeps
to (`Prog.Within`) is kept to by each step, whatever happened since the last.
-/

namespace Atoms

variable {σ α β : Type}

inductive Prog (σ α : Type)
  | done (a : α)
  /-- `f` is what the atom does, and `next` goes on from the state it found. -/
  | atom (f : σ → σ) (next : σ → Prog σ α)

namespace Prog

def bind : Prog σ α → (α → Prog σ β) → Prog σ β
  | done a, k => k a
  | atom f next, k => atom f fun s => (next s).bind k

/-- All that is left, with nothing in between. -/
def finish : Prog σ α → σ → α × σ
  | done a, s => (a, s)
  | atom f next, s => (next s).finish (f s)

/-- The next atom, if there is one. -/
def step : Prog σ α → σ → Prog σ α × σ
  | done a, s => (done a, s)
  | atom f next, s => (next s, f s)

/-- The result of a call that has come to its end. -/
def result? : Prog σ α → Option α
  | done a => some a
  | atom _ _ => none

@[simp] theorem finish_atom (f : σ → σ) (next : σ → Prog σ α) (s : σ) :
    (atom f next).finish s = (next s).finish (f s) := rfl

@[simp] theorem finish_bind (p : Prog σ α) (k : α → Prog σ β) (s : σ) :
    (p.bind k).finish s = (k (p.finish s).1).finish (p.finish s).2 := by
  induction p generalizing s with
  | done a => rfl
  | atom f next ih => exact ih s (f s)

/-- Each atom moves the state along `R`. -/
def Within (R : σ → σ → Prop) : Prog σ α → Prop
  | done _ => True
  | atom f next => ∀ s, R s (f s) ∧ (next s).Within R

variable {R : σ → σ → Prop}

theorem Within.bind {p : Prog σ α} {k : α → Prog σ β} (hp : p.Within R)
    (hk : ∀ a, (k a).Within R) : (p.bind k).Within R := by
  induction p with
  | done a => exact hk a
  | atom f next ih =>
    intro s
    exact ⟨(hp s).1, ih s (hp s).2⟩

theorem Within.step {p : Prog σ α} (h : p.Within R) (hrefl : ∀ s, R s s) (s : σ) :
    R s (p.step s).2 ∧ (p.step s).1.Within R := by
  cases p with
  | done a => exact ⟨hrefl s, trivial⟩
  | atom f next => exact h s

end Prog

end Atoms
