import Mathlib.Data.List.Basic
import Mathlib.Data.List.Infix

/-!
# Frames between delimiters

A receiver gets a stream in pieces. It appends each piece to a buffer, and as long as
the delimiter occurs in the buffer it takes off what stands before the first one.

Where the stream is cut does not matter: a frame that has ended stays the same when more
arrives (`cut_append`), so taking frames off in two goes is taking them off in one
(`drain_append`), and all pieces together give what the whole stream gives
(`receive_eq_drain`). If the delimiter's first symbol occurs in no frame, these are the
frames that were sent (`receive_frames`).
-/

namespace Framing

variable {α : Type*} [DecidableEq α]

/-- What stands before the first delimiter and what after it; no delimiter is empty. -/
def cut (d : List α) : List α → Option (List α × List α)
  | [] => none
  | a :: s =>
    if d <+: a :: s then some ([], (a :: s).drop d.length)
    else (cut d s).map fun p => (a :: p.1, p.2)

/-- At most so many frames, and what is left in the buffer. -/
def drainAtMost (d : List α) : Nat → List α → List (List α) × List α
  | 0, s => ([], s)
  | n + 1, s =>
    match cut d s with
    | none => ([], s)
    | some (frame, rest) => (frame :: (drainAtMost d n rest).1, (drainAtMost d n rest).2)

/-- All frames that have ended, and what is left in the buffer. -/
def drain (d s : List α) : List (List α) × List α := drainAtMost d s.length s

/-- One piece after the other, from a buffer. -/
def receive (d : List α) : List α → List (List α) → List (List α) × List α
  | buffer, [] => ([], buffer)
  | buffer, piece :: pieces =>
    let taken := drain d (buffer ++ piece)
    let later := receive d taken.2 pieces
    (taken.1 ++ later.1, later.2)

/-! ## One frame -/

theorem eq_of_cut {d s frame rest : List α} (h : cut d s = some (frame, rest)) :
    s = frame ++ (d ++ rest) := by
  induction s generalizing frame with
  | nil => cases h
  | cons a s ih =>
    rw [cut] at h
    split at h
    next hpre =>
      obtain ⟨t, ht⟩ := hpre
      cases h
      rw [← ht, List.drop_left, List.nil_append]
    next =>
      rw [Option.map_eq_some_iff] at h
      obtain ⟨⟨frame', rest'⟩, hcut, heq⟩ := h
      cases heq
      rw [ih hcut, List.cons_append]

/-- A frame that has ended takes the delimiter with it. -/
theorem length_of_cut {d s frame rest : List α} (hd : d ≠ [])
    (h : cut d s = some (frame, rest)) : rest.length < s.length := by
  have hpos := List.length_pos_iff.mpr hd
  rw [eq_of_cut h, List.length_append, List.length_append]
  omega

/-- What arrives later does not change a frame that has ended. -/
theorem cut_append {d s frame rest : List α} (h : cut d s = some (frame, rest)) (t : List α) :
    cut d (s ++ t) = some (frame, rest ++ t) := by
  induction s generalizing frame with
  | nil => cases h
  | cons a s ih =>
    rw [cut] at h
    rw [List.cons_append, cut]
    split at h
    next hpre =>
      cases h
      have hpre' : d <+: a :: (s ++ t) := hpre.trans (List.prefix_append (a :: s) t)
      rw [if_pos hpre', ← List.cons_append, List.drop_append_of_le_length hpre.length_le]
    next hpre =>
      rw [Option.map_eq_some_iff] at h
      obtain ⟨⟨frame', rest'⟩, hcut, heq⟩ := h
      cases heq
      -- the delimiter lies within `s`, so it does not start here with the help of `t`
      have hlen : d.length ≤ (a :: s).length := by
        rw [List.length_cons, eq_of_cut hcut, List.length_append, List.length_append]
        omega
      have hnot : ¬ d <+: a :: (s ++ t) := fun hp =>
        hpre (List.prefix_of_prefix_length_le hp (List.prefix_append (a :: s) t) hlen)
      rw [if_neg hnot, ih hcut, Option.map_some]

/-- A frame in which the delimiter cannot start is found. -/
theorem cut_frame {c : α} {frame : List α} (hc : c ∉ frame) (d t : List α) :
    cut (c :: d) (frame ++ (c :: d ++ t)) = some (frame, t) := by
  induction frame with
  | nil =>
    have hpre : c :: d <+: c :: (d ++ t) := List.prefix_append (c :: d) t
    show cut (c :: d) (c :: (d ++ t)) = some ([], t)
    rw [cut, if_pos hpre, ← List.cons_append, List.drop_left]
  | cons a frame ih =>
    obtain ⟨ha, hframe⟩ := not_or.mp (List.mem_cons.not.mp hc)
    have hnot : ¬ c :: d <+: a :: (frame ++ (c :: d ++ t)) :=
      fun hp => ha (List.cons_prefix_cons.mp hp).1
    rw [List.cons_append, cut, if_neg hnot, ih hframe, Option.map_some]

/-! ## All frames of a buffer -/

/-- More rounds than there can be frames change nothing. -/
theorem drainAtMost_eq {d : List α} (hd : d ≠ []) {n m : Nat} {s : List α} (hn : s.length ≤ n)
    (hm : s.length ≤ m) : drainAtMost d n s = drainAtMost d m s := by
  induction n generalizing m s with
  | zero =>
    obtain rfl := List.length_eq_zero_iff.mp (Nat.le_zero.mp hn)
    cases m with
    | zero => rfl
    | succ m => rfl
  | succ n ih =>
    cases m with
    | zero =>
      obtain rfl := List.length_eq_zero_iff.mp (Nat.le_zero.mp hm)
      rfl
    | succ m =>
      rw [drainAtMost, drainAtMost]
      cases h : cut d s with
      | none => rfl
      | some p =>
        obtain ⟨frame, rest⟩ := p
        have hlen := length_of_cut hd h
        dsimp only
        rw [ih (m := m) (s := rest) (by omega) (by omega)]

theorem drain_of_none {d s : List α} (h : cut d s = none) : drain d s = ([], s) := by
  cases s with
  | nil => rfl
  | cons a s =>
    rw [drain, List.length_cons, drainAtMost, h]

theorem drain_of_some {d s frame rest : List α} (hd : d ≠ [])
    (h : cut d s = some (frame, rest)) :
    drain d s = (frame :: (drain d rest).1, (drain d rest).2) := by
  cases s with
  | nil => cases h
  | cons a s =>
    have hlen := length_of_cut hd h
    rw [List.length_cons] at hlen
    rw [drain, List.length_cons, drainAtMost, h, drain]
    dsimp only
    rw [drainAtMost_eq hd (n := s.length) (m := rest.length) (by omega) (le_refl _)]

/-- No frame that has ended is left behind. -/
theorem cut_drain {d : List α} (hd : d ≠ []) (s : List α) : cut d (drain d s).2 = none := by
  induction hn : s.length using Nat.strong_induction_on generalizing s with
  | _ n ih =>
    cases h : cut d s with
    | none => rwa [drain_of_none h]
    | some p =>
      obtain ⟨frame, rest⟩ := p
      rw [drain_of_some hd h]
      exact ih rest.length (hn ▸ length_of_cut hd h) rest rfl

/-- Frames may be taken off before the rest arrives. -/
theorem drain_append {d : List α} (hd : d ≠ []) (s t : List α) :
    drain d (s ++ t) =
      ((drain d s).1 ++ (drain d ((drain d s).2 ++ t)).1, (drain d ((drain d s).2 ++ t)).2) := by
  induction hn : s.length using Nat.strong_induction_on generalizing s with
  | _ n ih =>
    cases h : cut d s with
    | none => rw [drain_of_none h, List.nil_append]
    | some p =>
      obtain ⟨frame, rest⟩ := p
      rw [drain_of_some hd (cut_append h t), drain_of_some hd h,
        ih rest.length (hn ▸ length_of_cut hd h) rest rfl]
      rfl

/-! ## All pieces of a stream -/

/-- Only the stream as a whole matters, not where it is cut. -/
theorem receive_eq_drain {d : List α} (hd : d ≠ []) {buffer : List α}
    (hbuffer : cut d buffer = none) (pieces : List (List α)) :
    receive d buffer pieces = drain d (buffer ++ pieces.flatten) := by
  induction pieces generalizing buffer with
  | nil => rw [List.flatten_nil, List.append_nil, drain_of_none hbuffer, receive]
  | cons piece pieces ih =>
    rw [receive, List.flatten_cons, ← List.append_assoc, drain_append hd (buffer ++ piece),
      ih (cut_drain hd _)]

theorem drain_frames {c : α} {frames : List (List α)} (hc : ∀ f ∈ frames, c ∉ f) (d : List α) :
    drain (c :: d) (frames.flatMap fun f => f ++ (c :: d)) = (frames, []) := by
  induction frames with
  | nil => rfl
  | cons f frames ih =>
    have hcut := cut_frame (hc f (List.mem_cons_self ..)) d
      (frames.flatMap fun f => f ++ (c :: d))
    rw [List.flatMap_cons, List.append_assoc, drain_of_some (List.cons_ne_nil c d) hcut,
      ih fun g hg => hc g (List.mem_cons_of_mem f hg)]

/-- Frames in which the delimiter cannot start are received as they were sent. -/
theorem receive_frames {c : α} {d : List α} {frames pieces : List (List α)}
    (hc : ∀ f ∈ frames, c ∉ f) (hsent : pieces.flatten = frames.flatMap fun f => f ++ (c :: d)) :
    receive (c :: d) [] pieces = (frames, []) := by
  have hnil : cut (c :: d) ([] : List α) = none := rfl
  rw [receive_eq_drain (List.cons_ne_nil c d) hnil, List.nil_append, hsent, drain_frames hc]

end Framing
