import Mathlib.Tactic

/-!
Ropes: sequences kept as a list of nonempty pieces, the shape of a buffer that
is filled from the right by arrivals and consumed from the left.

* `Rope`, `Rope.flat`: the pieces and the sequence they spell; no piece is
  empty, so that the first piece of a nonempty rope carries something;
* `Rope.push`: an arrival becomes a piece of its own or extends the last piece;
* `Rope.take`, `Rope.drop`: the cut after `n` elements, which splits at most one
  piece; `flat_take` and `flat_drop` say that the spelled sequence does not see
  the pieces;
* `Rope.Contiguous`: at most one piece, which `take`, `drop` and arrivals behind the last
  piece keep.
-/

/-- A sequence in nonempty pieces. -/
@[ext]
structure Rope (α : Type*) where
  pieces : List (List α)
  ne_nil : ∀ p ∈ pieces, p ≠ []

namespace Rope

variable {α : Type*}

/-! ### Lists of pieces -/

/-- The pieces left of the cut after `n` elements. -/
def takePieces : ℕ → List (List α) → List (List α)
  | _, [] => []
  | n, p :: ps =>
      if p.length ≤ n then p :: takePieces (n - p.length) ps
      else if n = 0 then [] else [p.take n]

/-- The pieces right of the cut after `n` elements. -/
def dropPieces : ℕ → List (List α) → List (List α)
  | _, [] => []
  | n, p :: ps =>
      if p.length ≤ n then dropPieces (n - p.length) ps else p.drop n :: ps

/-- The last piece extended on the right. -/
def extendLast (xs : List α) : List (List α) → List (List α)
  | [] => [xs]
  | [p] => [p ++ xs]
  | p :: q :: ps => p :: extendLast xs (q :: ps)

lemma flatten_takePieces (n : ℕ) (ps : List (List α)) :
    (takePieces n ps).flatten = ps.flatten.take n := by
  induction ps generalizing n with
  | nil => simp [takePieces]
  | cons p ps ih =>
      rw [takePieces]
      split_ifs with hle h0
      · rw [List.flatten_cons, List.flatten_cons, ih, List.take_append,
          List.take_of_length_le hle]
      · simp [h0]
      · have hlt : n - p.length = 0 := by omega
        simp [List.take_append, hlt]

lemma flatten_dropPieces (n : ℕ) (ps : List (List α)) :
    (dropPieces n ps).flatten = ps.flatten.drop n := by
  induction ps generalizing n with
  | nil => simp [dropPieces]
  | cons p ps ih =>
      rw [dropPieces]
      split_ifs with hle
      · rw [List.flatten_cons, ih, List.drop_append, List.drop_of_length_le hle, List.nil_append]
      · have hlt : n - p.length = 0 := by omega
        rw [List.flatten_cons, List.flatten_cons, List.drop_append, hlt, List.drop_zero]

lemma flatten_extendLast (xs : List α) (ps : List (List α)) :
    (extendLast xs ps).flatten = ps.flatten ++ xs := by
  induction ps using extendLast.induct with
  | case1 => simp [extendLast]
  | case2 p => simp [extendLast]
  | case3 p q ps ih =>
      rw [extendLast, List.flatten_cons, ih]
      simp

lemma ne_nil_of_mem_takePieces {n : ℕ} {ps : List (List α)} (h : ∀ p ∈ ps, p ≠ []) :
    ∀ p ∈ takePieces n ps, p ≠ [] := by
  induction ps generalizing n with
  | nil => simp [takePieces]
  | cons p ps ih =>
      have hp := h p (by simp)
      have hps : ∀ q ∈ ps, q ≠ [] := fun q hq => h q (by simp [hq])
      rw [takePieces]
      split_ifs with hle h0
      · intro q hq
        rcases List.mem_cons.mp hq with rfl | hq
        · exact hp
        · exact ih hps q hq
      · simp
      · intro q hq
        rw [List.mem_singleton.mp hq]
        simpa [List.take_eq_nil_iff, h0] using hp

lemma ne_nil_of_mem_dropPieces {n : ℕ} {ps : List (List α)} (h : ∀ p ∈ ps, p ≠ []) :
    ∀ p ∈ dropPieces n ps, p ≠ [] := by
  induction ps generalizing n with
  | nil => simp [dropPieces]
  | cons p ps ih =>
      have hps : ∀ q ∈ ps, q ≠ [] := fun q hq => h q (by simp [hq])
      rw [dropPieces]
      split_ifs with hle
      · exact ih hps
      · intro q hq
        rcases List.mem_cons.mp hq with rfl | hq
        · rw [Ne, List.drop_eq_nil_iff]
          omega
        · exact hps q hq

lemma ne_nil_of_mem_extendLast {xs : List α} (hxs : xs ≠ []) {ps : List (List α)}
    (h : ∀ p ∈ ps, p ≠ []) : ∀ p ∈ extendLast xs ps, p ≠ [] := by
  induction ps using extendLast.induct with
  | case1 => simpa [extendLast] using hxs
  | case2 p => simp [extendLast, hxs]
  | case3 p q ps ih =>
      intro r hr
      rcases List.mem_cons.mp hr with rfl | hr
      · exact h r (by simp)
      · exact ih (fun s hs => h s (by simp [hs])) r hr

lemma length_takePieces_le (n : ℕ) (ps : List (List α)) :
    (takePieces n ps).length ≤ ps.length := by
  induction ps generalizing n with
  | nil => exact le_rfl
  | cons p ps ih =>
      rw [takePieces]
      split_ifs
      · exact Nat.succ_le_succ (ih _)
      · exact Nat.zero_le _
      · exact Nat.succ_le_succ (Nat.zero_le _)

lemma length_dropPieces_le (n : ℕ) (ps : List (List α)) :
    (dropPieces n ps).length ≤ ps.length := by
  induction ps generalizing n with
  | nil => exact le_rfl
  | cons p ps ih =>
      rw [dropPieces]
      split_ifs
      · exact (ih _).trans (Nat.le_succ _)
      · exact le_rfl

lemma length_extendLast_le (xs : List α) {ps : List (List α)} (h : ps.length ≤ 1) :
    (extendLast xs ps).length ≤ 1 := by
  match ps, h with
  | [], _ => exact le_rfl
  | [p], _ => exact le_rfl

/-! ### Ropes -/

/-- The sequence a rope spells. -/
def flat (r : Rope α) : List α := r.pieces.flatten

/-- The number of elements. -/
def length (r : Rope α) : ℕ := (r.pieces.map List.length).sum

/-- The first piece, empty only for the empty rope. -/
def head (r : Rope α) : List α := r.pieces.headD []

/-- The rope without pieces. -/
def empty : Rope α := ⟨[], by simp⟩

/-- The first `n` elements. -/
def take (n : ℕ) (r : Rope α) : Rope α :=
  ⟨takePieces n r.pieces, ne_nil_of_mem_takePieces r.ne_nil⟩

/-- What is left without the first `n` elements. -/
def drop (n : ℕ) (r : Rope α) : Rope α :=
  ⟨dropPieces n r.pieces, ne_nil_of_mem_dropPieces r.ne_nil⟩

/-- An arrival on the right: a `fresh` one is a piece of its own, another one
extends the last piece.  An empty arrival leaves no piece. -/
def push (fresh : Bool) (xs : List α) (r : Rope α) : Rope α :=
  if hxs : xs = [] then r
  else if fresh then
    ⟨r.pieces ++ [xs], by
      intro p hp
      rcases List.mem_append.mp hp with hp | hp
      · exact r.ne_nil p hp
      · rw [List.mem_singleton.mp hp]; exact hxs⟩
  else ⟨extendLast xs r.pieces, ne_nil_of_mem_extendLast hxs r.ne_nil⟩

@[simp] lemma flat_empty : (empty : Rope α).flat = [] := rfl

@[simp] lemma length_eq (r : Rope α) : r.length = r.flat.length := by
  rw [length, flat, List.length_flatten]

@[simp] lemma flat_take (n : ℕ) (r : Rope α) : (r.take n).flat = r.flat.take n :=
  flatten_takePieces n r.pieces

@[simp] lemma flat_drop (n : ℕ) (r : Rope α) : (r.drop n).flat = r.flat.drop n :=
  flatten_dropPieces n r.pieces

@[simp] lemma flat_push (fresh : Bool) (xs : List α) (r : Rope α) :
    (r.push fresh xs).flat = r.flat ++ xs := by
  rw [push]
  split_ifs with hxs hf
  · rw [hxs, List.append_nil]
  · simp [flat]
  · exact flatten_extendLast xs r.pieces

/-- The rope is in one piece, or empty. -/
def Contiguous (r : Rope α) : Prop := r.pieces.length ≤ 1

lemma contiguous_empty : (empty : Rope α).Contiguous := Nat.zero_le 1

lemma Contiguous.take {r : Rope α} (h : r.Contiguous) (n : ℕ) : (r.take n).Contiguous :=
  (length_takePieces_le n r.pieces).trans h

lemma Contiguous.drop {r : Rope α} (h : r.Contiguous) (n : ℕ) : (r.drop n).Contiguous :=
  (length_dropPieces_le n r.pieces).trans h

/-- Arrivals behind the last piece leave the rope in one piece. -/
lemma Contiguous.push {r : Rope α} (h : r.Contiguous) (xs : List α) :
    (r.push false xs).Contiguous := by
  rw [Rope.push]
  split_ifs with hxs hfresh
  · exact h
  · cases hfresh
  · exact length_extendLast_le xs h

/-- The pieces after the first one. -/
def tail (r : Rope α) : List (List α) := r.pieces.tail

/-- The first piece and the others spell the whole rope. -/
lemma head_append_flatten_tail (r : Rope α) : r.head ++ r.tail.flatten = r.flat := by
  rcases r with ⟨_ | ⟨p, ps⟩, hr⟩
  · rfl
  · simp [head, tail, flat]

lemma Contiguous.tail_eq {r : Rope α} (h : r.Contiguous) : r.tail = [] := by
  rw [tail, ← List.length_eq_zero_iff, List.length_tail]
  exact Nat.sub_eq_zero_of_le h

end Rope
