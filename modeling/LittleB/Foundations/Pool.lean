import LittleB.Foundations.Prog
import LittleB.Foundations.Run

/-!
Interleavings: any number of processes that issue commands against shared
surroundings, one command at a time and in any order.

* `View`: what a process does next, and `Prog.view`, the next step of a program;
  `Describes`: control points with the programs they stand for, also as part of a larger
  type of points (`Describes.answer`);
* `Pool`, `Pool.step`, `Pool.run`: the processes with the shared state and the
  log of the commands executed so far, one step of one process, and the steps of
  a schedule; `Pool.step_cases` says what a step can do, `step_proc_of_ne` what it
  leaves alone;
* `Pool.run_map`: two descriptions of the same processes, a program and the
  control points it goes through, have the same runs;
* `Pool.Guarded`: a schedule whose steps all meet a condition, in either description
  (`guarded_map`), and `run_guarded`, the rule for what such schedules keep invariant, the
  steps looked at in one description and the condition in the other.
-/

/-- What a process does next: it has finished, or it issues a command. -/
inductive View (S : Signature) (α π : Type) where
  | done (a : α) : View S α π
  | ask (c : S.Command) (k : S.Reply c → π) : View S α π

namespace View

variable {S : Signature} {α π ρ : Type}

/-- The same next step, the processes behind it described otherwise. -/
def map (f : π → ρ) : View S α π → View S α ρ
  | done a => done a
  | ask c k => ask c fun r => f (k r)

/-- The command a process is about to issue. -/
def next : View S α π → Option S.Command
  | done _ => none
  | ask c _ => some c

@[simp] lemma next_map (f : π → ρ) (v : View S α π) : (v.map f).next = v.next := by
  cases v <;> rfl

/-- The same next step, the results converted. -/
def answer {β : Type} (h : α → β) : View S α π → View S β π
  | done a => done (h a)
  | ask c k => ask c k

end View

/-- The next step of a program. -/
def Prog.view {S : Signature} {α : Type} : Prog S α → View S α (Prog S α)
  | .ret a => .done a
  | .ask c k => .ask c k

/-- The control points `next` describe the programs `prog`: the next step of the
program of a point is that of the point. -/
def Describes {S : Signature} {α π : Type} (next : π → View S α π) (prog : π → Prog S α) : Prop :=
  ∀ p, (prog p).view = (next p).map prog

section Describes

variable {S : Signature} {α π σ : Type} {next : π → View S α π} {prog : π → Prog S α}

/-- The next step of the points describes the programs with their results converted, the
points being part of a larger type of points. -/
lemma Describes.answer (h : Describes next prog) {β ρ : Type} (result : α → β) (point : π → ρ)
    {prog' : ρ → Prog S β} (hprog : ∀ p, prog' (point p) = result <$> prog p) (p : π) :
    (prog' (point p)).view = (((next p).answer result).map point).map prog' := by
  rw [hprog]
  have hv := h p
  cases hp : next p with
  | done a =>
      rw [hp] at hv
      cases hq : prog p with
      | ret b =>
          rw [hq] at hv
          cases hv
          rfl
      | ask c k => rw [hq] at hv; cases hv
  | ask c k =>
      rw [hp] at hv
      cases hq : prog p with
      | ret b => rw [hq] at hv; cases hv
      | ask c' k' =>
          rw [hq] at hv
          cases hv
          exact congrArg (View.ask c) (funext fun reply => (hprog (k reply)).symm)

/-- A program has finished where its point has. -/
lemma Describes.eq_ret_iff (h : Describes next prog) {p : π} {a : α} :
    prog p = .ret a ↔ next p = .done a := by
  have hv := h p
  cases hp : next p with
  | done b =>
      rw [hp] at hv
      cases hq : prog p with
      | ret b' =>
          rw [hq] at hv
          cases hv
          exact ⟨fun heq => by cases heq; rfl, fun heq => by cases heq; rfl⟩
      | ask c k => rw [hq] at hv; cases hv
  | ask c k =>
      rw [hp] at hv
      refine iff_of_false (fun heq => ?_) fun heq => by cases heq
      rw [heq] at hv
      cases hv

/-- A program issues the command of its point. -/
lemma Describes.eq_ask (h : Describes next prog) {p : π} {c : S.Command} {k : S.Reply c → π}
    (hp : next p = .ask c k) : prog p = .ask c fun r => prog (k r) := by
  have hv := h p
  rw [hp, View.map] at hv
  cases hq : prog p with
  | ret b => rw [hq] at hv; cases hv
  | ask c' k' =>
      rw [hq] at hv
      cases hv
      rfl

/-- Running the program of a point that issues a command. -/
lemma Describes.run_ask (h : Describes next prog) (exec : Semantics S σ) {p : π} {c : S.Command}
    {k : S.Reply c → π} (hp : next p = .ask c k) (s : σ) :
    (prog p).run exec s = (prog (k (exec c s).1)).run exec (exec c s).2 := by
  have hv := h p
  rw [hp, View.map] at hv
  cases hq : prog p with
  | ret b => rw [hq] at hv; cases hv
  | ask c' k' =>
      rw [hq] at hv
      cases hv
      rfl

end Describes

/-- Processes over shared surroundings, with the log of the commands executed so
far and their replies, the last one first. -/
structure Pool (S : Signature) (ι π σ : Type) where
  proc : ι → π
  state : σ
  log : List (ι × (c : S.Command) × S.Reply c)

namespace Pool

variable {S : Signature} {ι π ρ σ α : Type} [DecidableEq ι]
variable (view : ι → π → View S α π) (exec : Semantics S σ)

/-- The process `i` executes its next command; a finished process does nothing. -/
def step (i : ι) (P : Pool S ι π σ) : Pool S ι π σ :=
  match view i (P.proc i) with
  | .done _ => P
  | .ask c k =>
      { proc := Function.update P.proc i (k (exec c P.state).1)
        state := (exec c P.state).2
        log := (i, ⟨c, (exec c P.state).1⟩) :: P.log }

/-- The processes of a schedule take their steps, one after the other. -/
def run (sched : List ι) (P : Pool S ι π σ) : Pool S ι π σ :=
  sched.foldl (fun P i => P.step view exec i) P

@[simp] lemma run_cons (i : ι) (sched : List ι) (P : Pool S ι π σ) :
    P.run view exec (i :: sched) = (P.step view exec i).run view exec sched := rfl

lemma step_of_done {i : ι} {P : Pool S ι π σ} {a : α} (h : view i (P.proc i) = .done a) :
    P.step view exec i = P := by
  rw [step, h]

lemma step_of_ask {i : ι} {P : Pool S ι π σ} {c : S.Command} {k : S.Reply c → π}
    (h : view i (P.proc i) = .ask c k) :
    P.step view exec i =
      { proc := Function.update P.proc i (k (exec c P.state).1)
        state := (exec c P.state).2
        log := (i, ⟨c, (exec c P.state).1⟩) :: P.log } := by
  rw [step, h]

/-- What a step can do: nothing, or one command of one process. -/
lemma step_cases (i : ι) (P : Pool S ι π σ) :
    ((view i (P.proc i)).next = none ∧ P.step view exec i = P) ∨
    ∃ c k, view i (P.proc i) = .ask c k ∧
      (P.step view exec i).proc i = k (exec c P.state).1 ∧
      (∀ j, j ≠ i → (P.step view exec i).proc j = P.proc j) ∧
      (P.step view exec i).state = (exec c P.state).2 ∧
      (P.step view exec i).log = (i, ⟨c, (exec c P.state).1⟩) :: P.log := by
  cases hv : view i (P.proc i) with
  | done a => exact .inl ⟨rfl, step_of_done view exec hv⟩
  | ask c k =>
      refine .inr ⟨c, k, rfl, ?_⟩
      rw [step_of_ask view exec hv]
      exact ⟨Function.update_self _ _ _, fun j hj => Function.update_of_ne hj _ _, rfl, rfl⟩

/-- A step leaves the other processes where they are. -/
lemma step_proc_of_ne {i j : ι} (h : j ≠ i) (P : Pool S ι π σ) :
    (P.step view exec i).proc j = P.proc j := by
  rcases P.step_cases view exec i with ⟨-, hstep⟩ | ⟨c, k, -, -, hother, -, -⟩
  · rw [hstep]
  · exact hother j h

/-! ### Two descriptions of the same processes -/

/-- The pool with every process described otherwise. -/
def map (f : ι → π → ρ) (P : Pool S ι π σ) : Pool S ι ρ σ :=
  { proc := fun i => f i (P.proc i), state := P.state, log := P.log }

variable {view} {view' : ι → ρ → View S α ρ} {f : ι → π → ρ}

lemma step_map (hf : ∀ i p, view' i (f i p) = (view i p).map (f i)) (i : ι) (P : Pool S ι π σ) :
    (P.map f).step view' exec i = (P.step view exec i).map f := by
  cases hv : view i (P.proc i) with
  | done a =>
      have h' : view' i ((P.map f).proc i) = .done a := by rw [map, hf, hv, View.map]
      rw [step_of_done view exec hv, step_of_done view' exec h']
  | ask c k =>
      have h' : view' i ((P.map f).proc i) = .ask c fun r => f i (k r) := by
        rw [map, hf, hv, View.map]
      rw [step_of_ask view exec hv, step_of_ask view' exec h']
      simp only [map, Pool.mk.injEq, and_true]
      funext j
      by_cases hj : j = i
      · subst hj
        simp
      · simp [hj]

/-- **Two descriptions, one run**: when `f` turns the next step of one description
into the next step of the other, it turns runs into runs. -/
theorem run_map (hf : ∀ i p, view' i (f i p) = (view i p).map (f i)) (sched : List ι)
    (P : Pool S ι π σ) : (P.map f).run view' exec sched = (P.run view exec sched).map f := by
  induction sched generalizing P with
  | nil => rfl
  | cons i sched ih => rw [run_cons, run_cons, step_map exec hf, ih]

/-! ### Guarded schedules -/

variable (view)

/-- Every step of the schedule meets the condition `ok` in the state it is taken
from. -/
abbrev Guarded (ok : ι → Pool S ι π σ → Prop) : List ι → Pool S ι π σ → Prop :=
  Run.Guarded (fun P i => P.step view exec i) ok

variable {view}

/-- A condition guards the redescribed pool where it guards the described one. -/
lemma guarded_map (hf : ∀ i p, view' i (f i p) = (view i p).map (f i))
    {ok : ι → Pool S ι ρ σ → Prop} {sched : List ι} {P : Pool S ι π σ} :
    Guarded view' exec ok sched (P.map f)
      ↔ Guarded view exec (fun i P => ok i (P.map f)) sched P := by
  induction sched generalizing P with
  | nil => exact Iff.rfl
  | cons i sched ih =>
      refine and_congr_right fun _ => ?_
      change Guarded view' exec ok sched ((P.map f).step view' exec i) ↔ _
      rw [step_map exec hf]
      exact ih

/-- **The rule for guarded schedules**: what every step under the condition keeps of
the control points, every schedule under the condition keeps of them. -/
theorem run_guarded (hf : ∀ i p, view' i (f i p) = (view i p).map (f i))
    {ok : ι → Pool S ι ρ σ → Prop} {I : Pool S ι π σ → Prop}
    (hstep : ∀ i P, ok i (P.map f) → I P → I (P.step view exec i)) {sched : List ι}
    {P : Pool S ι π σ} (hg : Guarded view' exec ok sched (P.map f)) (hP : I P) :
    ∃ P', (P.map f).run view' exec sched = P'.map f ∧ I P' :=
  ⟨P.run view exec sched, run_map exec hf sched P, ((guarded_map exec hf).mp hg).invariant hstep hP⟩

end Pool
