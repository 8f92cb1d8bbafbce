import Mathlib.Tactic

/-!
Programs that talk to their surroundings through commands.

* `Signature`: the commands and, for each, the type of its reply;
* `Prog`: a program either has finished or issues a command and goes on with the
  reply; sequencing makes it a monad (`ret_bind`, `ask_bind`, `bind_bind`);
* `Prog.run`: one program alone, every command executed at once by the
  surroundings; `run_bind` runs a sequence;
* `Prog.Ensures`: what a program returns whatever the replies, with the rule for
  sequences, `Ensures.bind`, and `Ensures.run`;
* `Prog.Asks`: which commands a program can issue, and `Asks.run_related`, the rule for
  two runs that these commands cannot tell apart.
-/

/-- The commands a program can issue and the type of reply each is given. -/
structure Signature where
  Command : Type
  Reply : Command → Type

/-- A program over a signature with a result in `α`. -/
inductive Prog (S : Signature) (α : Type) where
  | ret (a : α) : Prog S α
  | ask (c : S.Command) (k : S.Reply c → Prog S α) : Prog S α

/-- Surroundings with states in `σ`: what each command replies and leaves behind. -/
abbrev Semantics (S : Signature) (σ : Type) := (c : S.Command) → σ → S.Reply c × σ

namespace Prog

variable {S : Signature} {α β σ : Type}

/-! ### Sequencing -/

/-- Run `p`, then `f` on its result. -/
def bind : Prog S α → (α → Prog S β) → Prog S β
  | ret a, f => f a
  | ask c k, f => ask c fun r => bind (k r) f

instance : Monad (Prog S) where
  pure := ret
  bind := bind

/-- The program that issues one command. -/
def call (c : S.Command) : Prog S (S.Reply c) := ask c ret

@[simp] lemma pure_eq (a : α) : (pure a : Prog S α) = ret a := rfl

@[simp] lemma ret_bind (a : α) (f : α → Prog S β) : (ret a >>= f) = f a := rfl

@[simp] lemma ask_bind (c : S.Command) (k : S.Reply c → Prog S α) (f : α → Prog S β) :
    (ask c k >>= f) = ask c fun r => k r >>= f := rfl

lemma bind_bind (p : Prog S α) (f : α → Prog S β) {γ : Type} (g : β → Prog S γ) :
    (p >>= f >>= g) = p >>= fun a => f a >>= g := by
  induction p with
  | ret a => rfl
  | ask c k ih =>
      rw [ask_bind, ask_bind, ask_bind]
      exact congrArg (ask c) (funext ih)

/-- Converting the result of a sequence. -/
lemma map_bind (h : β → α) {γ : Type} (p : Prog S γ) (f : γ → Prog S β) :
    h <$> (p >>= f) = p >>= fun a => h <$> f a := bind_bind p f _

/-! ### Running a program alone -/

/-- The result of a program and the state of its surroundings afterwards. -/
def run (exec : Semantics S σ) : Prog S α → σ → α × σ
  | ret a, s => (a, s)
  | ask c k, s => run exec (k (exec c s).1) (exec c s).2

variable (exec : Semantics S σ)

@[simp] lemma run_ret (a : α) (s : σ) : (ret a : Prog S α).run exec s = (a, s) := rfl

lemma run_ask (c : S.Command) (k : S.Reply c → Prog S α) (s : σ) :
    (ask c k).run exec s = (k (exec c s).1).run exec (exec c s).2 := rfl

/-- A sequence runs its second part from where the first part ended. -/
lemma run_bind (p : Prog S α) (f : α → Prog S β) (s : σ) :
    (p >>= f).run exec s = (f (p.run exec s).1).run exec (p.run exec s).2 := by
  induction p generalizing s with
  | ret a => rfl
  | ask c k ih => rw [ask_bind, run_ask, ih, run_ask]

/-- A result that is only converted. -/
lemma run_map (f : α → β) (p : Prog S α) (s : σ) :
    (f <$> p).run exec s = (f (p.run exec s).1, (p.run exec s).2) :=
  run_bind exec p (fun a => ret (f a)) s

/-! ### What a program can return -/

/-- Whatever the replies, the program returns a value with the property `P`. -/
def Ensures (P : α → Prop) : Prog S α → Prop
  | ret a => P a
  | ask c k => ∀ r : S.Reply c, Ensures P (k r)

variable {P : α → Prop} {Q : β → Prop} {p : Prog S α}

/-- **The rule for sequences**. -/
lemma Ensures.bind {f : α → Prog S β} (hp : p.Ensures P) (hf : ∀ a, P a → (f a).Ensures Q) :
    (p >>= f).Ensures Q := by
  induction p with
  | ret a => exact hf a hp
  | ask c k ih =>
      intro r
      exact ih r (hp r)

/-- The rule for branches. -/
lemma Ensures.ite {c : Prop} [Decidable c] {q : Prog S α} (hp : c → p.Ensures P)
    (hq : ¬ c → q.Ensures P) : (if c then p else q).Ensures P := by
  split_ifs with h
  · exact hp h
  · exact hq h

/-- A run returns what the program ensures. -/
theorem Ensures.run (hp : p.Ensures P) (s : σ) : P (p.run exec s).1 := by
  induction p generalizing s with
  | ret a => exact hp
  | ask c k ih =>
      rw [run_ask]
      exact ih _ (hp _) _

/-- Every program returns something. -/
lemma ensures_true (p : Prog S α) : p.Ensures fun _ => True := by
  induction p with
  | ret a => trivial
  | ask c k ih => exact ih

/-- The rule of consequence. -/
lemma Ensures.mono {P' : α → Prop} (hp : p.Ensures P) (h : ∀ a, P a → P' a) : p.Ensures P' := by
  induction p with
  | ret a => exact h a hp
  | ask c k ih => exact fun r => ih r (hp r)

/-! ### What a program can issue -/

/-- Whatever the replies, the program issues commands with the property `P` only. -/
def Asks (P : S.Command → Prop) : Prog S α → Prop
  | ret _ => True
  | ask c k => P c ∧ ∀ r : S.Reply c, Asks P (k r)

section Asks

variable {P : S.Command → Prop} {p : Prog S α}

/-- The rule for sequences. -/
lemma Asks.bind {f : α → Prog S β} (hp : p.Asks P) (hf : ∀ a, (f a).Asks P) :
    (p >>= f).Asks P := by
  induction p with
  | ret a => exact hf a
  | ask c k ih => exact ⟨hp.1, fun r => ih r (hp.2 r)⟩

/-- The rule for branches. -/
lemma Asks.ite {c : Prop} [Decidable c] {q : Prog S α} (hp : p.Asks P) (hq : q.Asks P) :
    (if c then p else q).Asks P := by
  split_ifs
  · exact hp
  · exact hq

/-- Every program issues some commands. -/
lemma asks_true (p : Prog S α) : p.Asks fun _ => True := by
  induction p with
  | ret a => trivial
  | ask c k ih => exact ⟨trivial, ih⟩

/-- **The rule for two runs**: surroundings that the commands of a program cannot tell
apart give it the same result, and cannot be told apart behind it. -/
theorem Asks.run_related {exec : Semantics S σ} {R : σ → σ → Prop}
    (hexec : ∀ c, P c → ∀ s t, R s t → (exec c s).1 = (exec c t).1 ∧ R (exec c s).2 (exec c t).2)
    (hp : p.Asks P) {s t : σ} (h : R s t) :
    (p.run exec s).1 = (p.run exec t).1 ∧ R (p.run exec s).2 (p.run exec t).2 := by
  induction p generalizing s t with
  | ret a => exact ⟨rfl, h⟩
  | ask c k ih =>
      obtain ⟨hreply, hrest⟩ := hexec c hp.1 s t h
      rw [run_ask, run_ask, hreply]
      exact ih _ (hp.2 _) hrest

end Asks

end Prog
