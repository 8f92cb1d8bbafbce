import Mathlib.Tactic

/-!
Machines that answer every input, and one machine as an account of another.

* `Machine`, `Machine.run`: the inputs with their outputs, and the state behind them;
* `Machine.Refines`: a machine whose states stand for those of a more abstract one, with its
  outputs showing theirs, as long as an invariant holds, which every input keeps;
* `Refines.run`: so do its runs.
-/

/-- A machine with inputs in `ι`, outputs in `ο` and states in `σ`. -/
structure Machine (ι ο σ : Type*) where
  next : σ → ι → ο × σ

namespace Machine

variable {ι ο ω σ τ : Type*}

/-- Inputs one after the other, each with its output. -/
def run (M : Machine ι ο σ) : List ι → σ → List (ι × ο) × σ
  | [], s => ([], s)
  | i :: inputs, s =>
      ((i, (M.next s i).1) :: (M.run inputs (M.next s i).2).1, (M.run inputs (M.next s i).2).2)

/-- Each state of `M` with the invariant `I` stands for a state of `N`, and every input takes
them to such states again, the output of `M` showing the one of `N`. -/
structure Refines (M : Machine ι ο σ) (N : Machine ι ω τ) (abs : σ → τ) (I : σ → Prop)
    (Shows : ι → ω → ο → Prop) : Prop where
  keeps : ∀ {s : σ} (i : ι), I s → I (M.next s i).2
  stands : ∀ {s : σ} (i : ι), I s → abs (M.next s i).2 = (N.next (abs s) i).2
  shows : ∀ {s : σ} (i : ι), I s → Shows i (N.next (abs s) i).1 (M.next s i).1

/-- **The rule for runs**: what holds of every input holds of every run. -/
theorem Refines.run {M : Machine ι ο σ} {N : Machine ι ω τ} {abs : σ → τ} {I : σ → Prop}
    {Shows : ι → ω → ο → Prop} (h : M.Refines N abs I Shows) (inputs : List ι) {s : σ} (hs : I s) :
    I (M.run inputs s).2 ∧ abs (M.run inputs s).2 = (N.run inputs (abs s)).2 ∧
      List.Forall₂ (fun e f => e.1 = f.1 ∧ Shows e.1 f.2 e.2) (M.run inputs s).1
        (N.run inputs (abs s)).1 := by
  induction inputs generalizing s with
  | nil => exact ⟨hs, rfl, .nil⟩
  | cons i inputs ih =>
      obtain ⟨hkept, hstands, hshows⟩ := ih (h.keeps i hs)
      rw [h.stands i hs] at hstands hshows
      exact ⟨hkept, hstands, .cons ⟨rfl, h.shows i hs⟩ hshows⟩

end Machine
