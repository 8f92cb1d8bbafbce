import Mathlib.Tactic

/-!
Runs of a system that takes one step for each input.

* `Run.Guarded`: every step of a run meets a condition in the state it is taken
  from; `guarded_append`, `Guarded.congr`, `Guarded.imp` and `Guarded.mono`;
* `Run.Guarded.invariant`: what every step under the condition keeps, every run
  under the condition keeps;
* `Run.simulates_filter`: a run simulates the run of some of its inputs, when the
  others stutter;
* `Run.guarded_iff_forall`: where a step keeps an invariant exactly under the
  condition, a run is guarded exactly when the invariant holds all along; the step may
  rest on another invariant that every step keeps (`guarded_iff_forall_of_invariant`).
-/

namespace Run

variable {σ ι : Type} (step : σ → ι → σ)

/-- Every step of the run meets the condition `ok` in the state it is taken from. -/
def Guarded (ok : ι → σ → Prop) : List ι → σ → Prop
  | [], _ => True
  | i :: inputs, s => ok i s ∧ Guarded ok inputs (step s i)

variable {step} {ok ok' : ι → σ → Prop} {inputs : List ι} {s : σ}

/-- **The rule for guarded runs**: what every step under the condition keeps, every
run under the condition keeps. -/
theorem Guarded.invariant {I : σ → Prop} (hstep : ∀ i s, ok i s → I s → I (step s i))
    (hg : Guarded step ok inputs s) (hs : I s) : I (inputs.foldl step s) := by
  induction inputs generalizing s with
  | nil => exact hs
  | cons i inputs ih => exact ih hg.2 (hstep i s hg.1 hs)

/-- A run of two parts is guarded in both of them. -/
lemma guarded_append {earlier later : List ι} :
    Guarded step ok (earlier ++ later) s
      ↔ Guarded step ok earlier s ∧ Guarded step ok later (earlier.foldl step s) := by
  induction earlier generalizing s with
  | nil => exact (and_iff_right trivial).symm
  | cons i earlier ih => exact (and_congr_right fun _ => ih).trans and_assoc.symm

/-- Conditions that agree guard the same runs. -/
lemma Guarded.congr (h : ∀ i s, ok i s ↔ ok' i s) :
    Guarded step ok inputs s ↔ Guarded step ok' inputs s := by
  induction inputs generalizing s with
  | nil => exact Iff.rfl
  | cons i inputs ih => exact and_congr (h i s) ih

/-- A run guarded by two conditions is guarded by what follows from both. -/
lemma Guarded.imp {ok'' : ι → σ → Prop} (h : ∀ i s, ok i s → ok' i s → ok'' i s)
    (hg : Guarded step ok inputs s) (hg' : Guarded step ok' inputs s) :
    Guarded step ok'' inputs s := by
  induction inputs generalizing s with
  | nil => exact trivial
  | cons i inputs ih => exact ⟨h i s hg.1 hg'.1, ih hg.2 hg'.2⟩

/-- A run guarded by a condition is guarded by what follows from it. -/
lemma Guarded.mono (h : ∀ i s, ok i s → ok' i s) (hg : Guarded step ok inputs s) :
    Guarded step ok' inputs s := Guarded.imp (fun i s hi _ => h i s hi) hg hg

/-- **Exact guards**: where a step keeps `I` exactly under the condition, a run is
guarded exactly when `I` holds behind each of its beginnings. -/
theorem guarded_iff_forall {I : σ → Prop} (hstep : ∀ i s, I s → (ok i s ↔ I (step s i)))
    (hs : I s) :
    Guarded step ok inputs s
      ↔ ∀ earlier later, inputs = earlier ++ later → I (earlier.foldl step s) := by
  induction inputs generalizing s with
  | nil =>
      refine iff_of_true trivial fun earlier later h => ?_
      obtain ⟨rfl, -⟩ := List.append_eq_nil_iff.mp h.symm
      exact hs
  | cons i inputs ih =>
      constructor
      · rintro ⟨hi, hg⟩ earlier later h
        cases earlier with
        | nil => exact hs
        | cons j earlier =>
            obtain ⟨rfl, hrest⟩ := List.cons_eq_cons.mp h
            exact (ih ((hstep i s hs).mp hi)).mp hg earlier later hrest
      · intro h
        have hnext : I (step s i) := h [i] inputs rfl
        refine ⟨(hstep i s hs).mpr hnext, (ih hnext).mpr fun earlier later hrest => ?_⟩
        exact h (i :: earlier) later (by rw [hrest, List.cons_append])

/-- The same for the states of an invariant `J` that every step keeps. -/
theorem guarded_iff_forall_of_invariant {I J : σ → Prop} (hinv : ∀ i s, J s → J (step s i))
    (hstep : ∀ i s, J s → I s → (ok i s ↔ I (step s i))) (hJ : J s) (hI : I s) :
    Guarded step ok inputs s
      ↔ ∀ earlier later, inputs = earlier ++ later → I (earlier.foldl step s) := by
  have hboth (i : ι) (s : σ) (h : J s ∧ I s) : ok i s ↔ J (step s i) ∧ I (step s i) :=
    (hstep i s h.1 h.2).trans (and_iff_right (hinv i s h.1)).symm
  rw [guarded_iff_forall hboth ⟨hJ, hI⟩]
  refine forall_congr' fun earlier => forall_congr' fun later => imp_congr_right fun _ => ?_
  exact and_iff_right (List.foldlRecOn earlier step hJ fun s hs i _ => hinv i s hs)

variable (step) in
/-- **Stuttering simulation**: where the chosen inputs take related states to related
states and the others leave the second state behind, the run is related to the run of
the chosen inputs.  The relation may count the inputs still to come. -/
theorem simulates_filter {τ : Type} (step' : τ → ι → τ) (chosen : ι → Bool)
    (R : ℕ → σ → τ → Prop)
    (htake : ∀ n i s t, chosen i = true → R (n + 1) s t → R n (step s i) (step' t i))
    (hskip : ∀ n i s t, chosen i = false → R (n + 1) s t → R n (step s i) t) {t : τ}
    (h : R inputs.length s t) :
    R 0 (inputs.foldl step s) ((inputs.filter chosen).foldl step' t) := by
  induction inputs generalizing s t with
  | nil => exact h
  | cons i inputs ih =>
      cases hi : chosen i with
      | true =>
          rw [List.filter_cons_of_pos hi]
          exact ih (htake _ i s t hi h)
      | false =>
          rw [List.filter_cons_of_neg (by rw [hi]; exact Bool.false_ne_true)]
          exact ih (hskip _ i s t hi h)

end Run
