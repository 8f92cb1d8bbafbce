import LittleB.Foundations.Clients

/-!
What clients keep, and that they are answered.

* `Prog.Within`: a program issues at most so many commands;
  `Clients.answered_of_turns`: **wait-freedom**, a client is answered after as many turns
  of its own as its program has commands, whatever the others do;
* `Prog.Keeps`: each command of a program keeps a property of the shared state from every
  state that has it, with the rules for sequences and branches;
* `Clients.Called`: the requests a run has received, each with the own state it was
  received in; `called_step`, `executed_step`: what a run has received and executed stays so;
* `Sound.exists_called`, `Sound.called_unique`: every command belongs to one of them, and a
  call is about one;
* `Clients.Kept`, `Clients.Kept.run`: **the rule for invariants**: what every program keeps,
  every run keeps, in whatever order the commands are executed.
-/

namespace Prog

variable {S : Signature} {α β σ O : Type}

/-! ### Bounds -/

/-- The program issues at most so many commands. -/
def Within : ℕ → Prog S α → Prop
  | _, ret _ => True
  | 0, ask _ _ => False
  | n + 1, ask c k => ∀ r : S.Reply c, Within n (k r)

@[simp] lemma within_ret (n : ℕ) (a : α) : (ret a : Prog S α).Within n := by
  cases n <;> trivial

/-- Fewer commands. -/
lemma Within.mono {p : Prog S α} {m n : ℕ} (h : p.Within m) (hmn : m ≤ n) : p.Within n := by
  induction p generalizing m n with
  | ret a => exact within_ret n a
  | ask c k ih =>
      cases m with
      | zero => exact h.elim
      | succ m =>
          cases n with
          | zero => exact absurd hmn (Nat.not_succ_le_zero m)
          | succ n => exact fun r => ih r (h r) (Nat.le_of_succ_le_succ hmn)

/-- The rule for sequences. -/
lemma Within.bind {p : Prog S α} {f : α → Prog S β} {m n : ℕ} (hp : p.Within m)
    (hf : ∀ a, (f a).Within n) : (p >>= f).Within (m + n) := by
  induction p generalizing m with
  | ret a => exact (hf a).mono (Nat.le_add_left n m)
  | ask c k ih =>
      cases m with
      | zero => exact hp.elim
      | succ m =>
          rw [Nat.add_right_comm]
          exact fun r => ih r (hp r)

/-- The rule for branches. -/
lemma Within.ite {c : Prop} [Decidable c] {p q : Prog S α} {n : ℕ} (hp : p.Within n)
    (hq : q.Within n) : (if c then p else q).Within n := by
  split_ifs
  · exact hp
  · exact hq

/-! ### Invariants -/

/-- Each command keeps `I` from every state that has it, as far as the command, the choice
and the reply are in `E`, and the program returns a value with the property `P`. -/
def Keeps (exec : O → Semantics S σ) (E : (c : S.Command) → O → S.Reply c → Prop) (I : σ → Prop)
    (P : α → Prop) : Prog S α → Prop
  | ret a => P a
  | ask c k => ∀ choice s, E c choice (exec choice c s).1 → I s →
      I (exec choice c s).2 ∧ Keeps exec E I P (k (exec choice c s).1)

section Keeps

variable {exec : O → Semantics S σ} {E : (c : S.Command) → O → S.Reply c → Prop} {I : σ → Prop}
  {P : α → Prop} {Q : β → Prop} {p : Prog S α}

/-- The rule for sequences. -/
lemma Keeps.bind {f : α → Prog S β} (hp : p.Keeps exec E I P)
    (hf : ∀ a, P a → (f a).Keeps exec E I Q) : (p >>= f).Keeps exec E I Q := by
  induction p with
  | ret a => exact hf a hp
  | ask c k ih =>
      intro choice s hE hI
      obtain ⟨hkept, hrest⟩ := hp choice s hE hI
      exact ⟨hkept, ih _ hrest⟩

/-- The rule for branches. -/
lemma Keeps.ite {c : Prop} [Decidable c] {q : Prog S α} (hp : c → p.Keeps exec E I P)
    (hq : ¬ c → q.Keeps exec E I P) : (if c then p else q).Keeps exec E I P := by
  split_ifs with h
  · exact hp h
  · exact hq h

/-- The rule of consequence. -/
lemma Keeps.mono {P' : α → Prop} (hp : p.Keeps exec E I P) (h : ∀ a, P a → P' a) :
    p.Keeps exec E I P' := by
  induction p with
  | ret a => exact h a hp
  | ask c k ih =>
      intro choice s hE hI
      obtain ⟨hkept, hrest⟩ := hp choice s hE hI
      exact ⟨hkept, ih _ hrest⟩

/-- Many invariants at once. -/
lemma Keeps.forall {κ : Type*} {E : κ → (c : S.Command) → O → S.Reply c → Prop} {I : κ → σ → Prop}
    {P : κ → α → Prop} (hp : ∀ k, p.Keeps exec (E k) (I k) (P k)) :
    p.Keeps exec (fun c o r => ∀ k, E k c o r) (fun s => ∀ k, I k s) fun a => ∀ k, P k a := by
  induction p with
  | ret a => exact hp
  | ask c k ih =>
      intro choice s hE hI
      have hstep := fun k => hp k choice s (hE k) (hI k)
      exact ⟨fun k => (hstep k).1, ih _ fun k => (hstep k).2⟩

/-- A program whose commands all keep `I`, with what it returns whatever the replies. -/
lemma Keeps.of_asks {R : S.Command → Prop}
    (hexec : ∀ c choice s, R c → E c choice (exec choice c s).1 → I s → I (exec choice c s).2)
    (hasks : p.Asks R) (hensures : p.Ensures P) : p.Keeps exec E I P := by
  induction p with
  | ret a => exact hensures
  | ask c k ih =>
      exact fun choice s hE hI => ⟨hexec c choice s hasks.1 hE hI, ih _ (hasks.2 _) (hensures _)⟩

end Keeps

/-- The commands a program has issued are among those it can issue. -/
lemma Follows.forall_of_asks {p q : Prog S α} {es : List ((c : S.Command) × S.Reply c)}
    {P : S.Command → Prop} (h : Follows p es q) (hp : p.Asks P) : ∀ e ∈ es, P e.1 := by
  induction h with
  | refl p => exact fun e he => absurd he List.not_mem_nil
  | @ask c k r es q h ih =>
      intro e he
      rcases List.mem_cons.mp he with rfl | hlater
      · exact hp.1
      · exact ih (hp.2 r) e hlater

/-- The commands that are left are, too. -/
lemma Follows.asks_rest {p q : Prog S α} {es : List ((c : S.Command) × S.Reply c)}
    {P : S.Command → Prop} (h : Follows p es q) (hp : p.Asks P) : q.Asks P := by
  induction h with
  | refl p => exact hp
  | @ask c k r es q h ih => exact ih (hp.2 r)

end Prog

namespace Clients

variable {S : Signature} {ι L Q R σ O : Type} [DecidableEq ι]
variable (serve : ι → L → Q → Prog S (R × L)) (exec : O → Semantics S σ)
variable {C : Clients S ι L Q R σ O}

/-! ### Answers -/

/-- A client is at its own turn. -/
def Move.isCommandOf (i : ι) : Move ι Q O → Bool
  | .command j _ => j = i
  | _ => false

/-- An answer stays. -/
lemma answered_step {a : Answered ι L Q R} (ha : a ∈ C.answered) (m : Move ι Q O) :
    a ∈ (C.step serve exec m).answered := by
  have hm := C.moves_cases serve exec m
  generalize C.step serve exec m = C' at hm ⊢
  cases hm with
  | stay => exact ha
  | receive i request hfree => exact ha
  | command i choice request c k hrunning => exact ha
  | answer i request response left hrunning => exact List.mem_append_left _ ha

lemma answered_run {a : Answered ι L Q R} (ha : a ∈ C.answered) (moves : List (Move ι Q O)) :
    a ∈ (C.run serve exec moves).answered := by
  induction moves generalizing C with
  | nil => exact ha
  | cons m moves ih => exact ih (answered_step serve exec ha m)

/-- A client that works on a request has answered it, or goes on working on it, with one
command less when it is at its turn. -/
lemma answered_or_running_step {i : ι} {request : Q} {rest : Prog S (R × L)} {n : ℕ}
    (hrunning : C.running i = some ⟨request, rest⟩) (hwithin : rest.Within n)
    (m : Move ι Q O) :
    (∃ a ∈ (C.step serve exec m).answered, a.call = (i, C.turn i) ∧ a.request = request) ∨
      (C.step serve exec m).turn i = C.turn i ∧
      ∃ rest', (C.step serve exec m).running i = some ⟨request, rest'⟩ ∧
        rest'.Within (if m.isCommandOf i then n - 1 else n) := by
  by_cases hturn : m.isCommandOf i
  · rw [if_pos hturn]
    refine .inr ?_
    cases m with
    | receive j q => cases hturn
    | answer j => cases hturn
    | command j choice =>
        obtain rfl : j = i := of_decide_eq_true hturn
        cases rest with
        | ret out =>
            have hstay : C.step serve exec (.command j choice) = C := by
              simp only [step, hrunning]
            rw [hstay]
            exact ⟨rfl, .ret out, hrunning, Prog.within_ret _ out⟩
        | ask c k =>
            have hstep : C.step serve exec (.command j choice)
                = C.execute exec j choice request c k := by
              simp only [step, hrunning]
            rw [hstep]
            cases n with
            | zero => exact hwithin.elim
            | succ n => exact ⟨rfl, _, running_execute_self exec, hwithin _⟩
  · rw [if_neg hturn]
    have hm := C.moves_cases serve exec m
    generalize C.step serve exec m = C' at hm ⊢
    cases hm with
    | stay => exact .inr ⟨rfl, rest, hrunning, hwithin⟩
    | receive j q hfree =>
        have hj : i ≠ j := fun h => by rw [h, hfree] at hrunning; cases hrunning
        exact .inr ⟨rfl, rest, (running_begin_of_ne serve hj).trans hrunning, hwithin⟩
    | command j choice q c k hother =>
        have hj : i ≠ j := fun h => hturn (decide_eq_true h.symm)
        exact .inr ⟨rfl, rest, (running_execute_of_ne exec hj).trans hrunning, hwithin⟩
    | answer j q response left hother =>
        by_cases hj : i = j
        · subst hj
          rw [hrunning] at hother
          cases hother
          exact .inl ⟨_, List.mem_append_right _ (List.mem_singleton_self _), rfl, rfl⟩
        · exact .inr ⟨turn_finish_of_ne hj, rest, (running_finish_of_ne hj).trans hrunning, hwithin⟩

/-- **Wait-freedom**: a client that works on a request whose program has at most `n` commands
left is answered after `n` turns of its own, whatever happens between them. -/
theorem answered_of_turns {i : ι} {request : Q} {rest : Prog S (R × L)} {n : ℕ}
    (hrunning : C.running i = some ⟨request, rest⟩) (hwithin : rest.Within n)
    {moves : List (Move ι Q O)} (hmoves : n ≤ moves.countP fun m => m.isCommandOf i) :
    ∃ a ∈ (C.run serve exec (moves ++ [.answer i])).answered,
      a.call = (i, C.turn i) ∧ a.request = request := by
  induction moves generalizing C rest n with
  | nil =>
      obtain rfl : n = 0 := Nat.le_zero.mp hmoves
      cases rest with
      | ask c k => exact hwithin.elim
      | ret out =>
          refine ⟨⟨i, C.turn i, request, C.own i, out.1, out.2⟩, ?_, rfl, rfl⟩
          change _ ∈ (C.step serve exec (.answer i)).answered
          simp only [step, hrunning]
          exact List.mem_append_right _ (List.mem_singleton_self _)
  | cons m moves ih =>
      rw [List.countP_cons] at hmoves
      rcases answered_or_running_step serve exec hrunning hwithin m with
        ⟨a, ha, hcall, hrequest⟩ | ⟨hturn, rest', hrunning', hwithin'⟩
      · exact ⟨a, answered_run serve exec ha _, hcall, hrequest⟩
      · rw [← hturn]
        refine ih hrunning' hwithin' ?_
        cases hm : m.isCommandOf i with
        | true =>
            rw [hm, if_pos rfl] at hmoves
            rw [if_pos rfl]
            omega
        | false =>
            rw [hm, if_neg Bool.false_ne_true] at hmoves
            rw [if_neg Bool.false_ne_true]
            exact hmoves

/-! ### Invariants -/

/-- A request that has been received, by its call, with the own state it was received in. -/
inductive Called (C : Clients S ι L Q R σ O) : ι × ℕ → L → Q → Prop
  | answered (a : Answered ι L Q R) (ha : a ∈ C.answered) : Called C a.call a.found a.request
  | running (i : ι) (r : Running S L Q R) (hr : C.running i = some r) :
      Called C (i, C.turn i) (C.own i) r.request

/-- A request stays received. -/
lemma called_step {call : ι × ℕ} {l : L} {q : Q} (h : Called C call l q) (m : Move ι Q O) :
    Called (C.step serve exec m) call l q := by
  have hm := C.moves_cases serve exec m
  generalize C.step serve exec m = C' at hm ⊢
  cases h with
  | answered a ha =>
      cases hm with
      | stay => exact .answered a ha
      | receive j request hfree => exact .answered a ha
      | command j choice request c k hrunning => exact .answered a ha
      | answer j request response left hrunning => exact .answered a (List.mem_append_left _ ha)
  | running i r hr =>
      cases hm with
      | stay => exact .running i r hr
      | receive j request hfree =>
          have hj : i ≠ j := fun h => by rw [h, hfree] at hr; cases hr
          exact Called.running i r ((running_begin_of_ne serve hj).trans hr)
      | command j choice request c k hrunning =>
          by_cases hj : i = j
          · subst hj
            rw [hrunning] at hr
            cases hr
            exact Called.running i ⟨request, k (exec choice c C.shared).1⟩
              (running_execute_self exec)
          · exact Called.running i r ((running_execute_of_ne exec hj).trans hr)
      | answer j request response left hrunning =>
          by_cases hj : i = j
          · subst hj
            rw [hrunning] at hr
            cases hr
            exact .answered ⟨i, C.turn i, request, C.own i, response, left⟩
              (List.mem_append_right _ (List.mem_singleton_self _))
          · rw [← own_finish_of_ne (C := C) hj, ← turn_finish_of_ne (C := C) hj]
            exact Called.running i r ((running_finish_of_ne hj).trans hr)

/-- A command stays executed. -/
lemma executed_step {e : Executed S ι O} (h : e ∈ C.executed) (m : Move ι Q O) :
    e ∈ (C.step serve exec m).executed := by
  have hm := C.moves_cases serve exec m
  generalize C.step serve exec m = C' at hm ⊢
  cases hm with
  | stay => exact h
  | receive i request hfree => exact h
  | command i choice request c k hrunning => exact List.mem_append_left _ h
  | answer i request response left hrunning => exact h

section Calls

variable {serve exec} {C₀ : Clients S ι L Q R σ O}

/-- Every command belongs to a request that has been received. -/
lemma Sound.exists_called (h : Sound serve exec C₀ C) {e : Executed S ι O} (he : e ∈ C.executed) :
    ∃ l q rest, Called C e.call l q ∧
      (serve e.client l q).Follows ((C.commandsOf e.call).map Executed.event) rest := by
  rcases (h.current e he).lt_or_eq with hlt | hself
  · have hmem : e.number ∈ (C.answersOf e.client).map Answered.number := by
      rw [h.numbers]
      exact List.mem_range.mpr hlt
    obtain ⟨a, ha, hnumber⟩ := List.mem_map.mp hmem
    obtain ⟨hanswered, hclient⟩ := List.mem_filter.mp ha
    have hclient : a.client = e.client := of_decide_eq_true hclient
    have hcall : a.call = e.call := Prod.ext hclient hnumber
    have hfollows := h.answered a hanswered
    rw [hcall, hclient] at hfollows
    exact ⟨a.found, a.request, _, hcall ▸ .answered a hanswered, hfollows⟩
  · have hcall : e.call = (e.client, C.turn e.client) := Prod.ext rfl hself
    cases hrunning : C.running e.client with
    | none => exact absurd hself (h.busy e he hrunning).ne
    | some r =>
        have hfollows := h.running e.client r hrunning
        rw [← hcall] at hfollows
        exact ⟨C.own e.client, r.request, _, hcall ▸ .running e.client r hrunning, hfollows⟩

/-- The commands of a run are among those the programs can issue. -/
lemma Sound.forall_executed (h : Sound serve exec C₀ C) {P : S.Command → Prop}
    (hserve : ∀ i l q, (serve i l q).Asks P) : ∀ e ∈ C.executed, P e.command := by
  intro e he
  obtain ⟨l, q, rest, -, hfollows⟩ := h.exists_called he
  have hself : e ∈ C.commandsOf e.call := List.mem_filter.mpr ⟨he, by simp⟩
  exact hfollows.forall_of_asks (hserve e.client l q) _ (List.mem_map_of_mem hself)

/-- A call is about one request. -/
lemma Sound.called_unique (h : Sound serve exec C₀ C) {call : ι × ℕ} {l l' : L} {q q' : Q}
    (hq : Called C call l q) (hq' : Called C call l' q') : q = q' := by
  have hinj {a b : Answered ι L Q R} (ha : a ∈ C.answered) (hb : b ∈ C.answered)
      (hcall : a.call = b.call) : a = b := by
    have hclient : b.client = a.client := (congrArg Prod.fst hcall).symm
    have hnodup : ((C.answersOf a.client).map Answered.number).Nodup := by
      rw [h.numbers]
      exact List.nodup_range
    exact List.inj_on_of_nodup_map hnodup (List.mem_filter.mpr ⟨ha, by simp⟩)
      (List.mem_filter.mpr ⟨hb, decide_eq_true hclient⟩) (congrArg Prod.snd hcall)
  have hlater {a : Answered ι L Q R} (ha : a ∈ C.answered) {i : ι}
      (hcall : a.call = (i, C.turn i)) : False := by
    have hlt := h.number_lt ha
    have hclient : a.client = i := congrArg Prod.fst hcall
    rw [hclient] at hlt
    exact hlt.ne (congrArg Prod.snd hcall)
  generalize hcall : call = call' at hq'
  cases hq with
  | answered a ha =>
      cases hq' with
      | answered b hb => rw [hinj ha hb hcall]
      | running j r' hr' => exact (hlater ha hcall).elim
  | running i r hr =>
      cases hq' with
      | answered b hb => exact (hlater hb hcall.symm).elim
      | running j r' hr' =>
          obtain rfl : i = j := congrArg Prod.fst hcall
          rw [hr] at hr'
          rw [Option.some_inj.mp hr']

end Calls

section Kept

variable (E : ι × ℕ → (c : S.Command) → O → S.Reply c → Prop) (I : σ → Prop) (J : ι → L → Prop)
  (B : ι × ℕ → L → Q → R → Prop)

/-- The shared state, the own states and the answers are as they should be, and every
program that is left keeps them so. -/
structure Kept (C : Clients S ι L Q R σ O) : Prop where
  shared : I C.shared
  own : ∀ i, J i (C.own i)
  answered : ∀ a ∈ C.answered, B a.call a.found a.request a.response
  running : ∀ i r, C.running i = some r → r.rest.Keeps exec (E (i, C.turn i)) I
    fun out => J i out.2 ∧ B (i, C.turn i) (C.own i) r.request out.1

variable {E I J B} {A : ι × ℕ → L → Q → Prop}
variable {serve exec}

lemma kept_start {own : ι → L} {shared : σ} (hI : I shared) (hJ : ∀ i, J i (own i)) :
    Kept exec E I J B (start own shared : Clients S ι L Q R σ O) := by
  refine ⟨hI, hJ, fun a ha => ?_, fun i r hr => ?_⟩
  · cases ha
  · cases hr

lemma Kept.step
    (hserve : ∀ i n l q, J i l → A (i, n) l q →
      (serve i l q).Keeps exec (E (i, n)) I fun out => J i out.2 ∧ B (i, n) l q out.1)
    {m : Move ι Q O}
    (hcalled : ∀ call l q, Called (C.step serve exec m) call l q → A call l q)
    (hexecuted : ∀ e ∈ (C.step serve exec m).executed, E e.call e.command e.choice e.reply)
    (h : Kept exec E I J B C) : Kept exec E I J B (C.step serve exec m) := by
  have hm := C.moves_cases serve exec m
  generalize C.step serve exec m = C' at hm hcalled hexecuted ⊢
  cases hm with
  | stay => exact h
  | receive i request hfree =>
      refine ⟨h.shared, h.own, h.answered, fun j r hr => ?_⟩
      by_cases hj : j = i
      · subst hj
        have hself := hcalled _ _ _ (.running j r hr)
        rw [running_begin_self] at hr
        cases hr
        exact hserve j _ _ request (h.own j) hself
      · rw [running_begin_of_ne serve hj] at hr
        exact h.running j r hr
  | command i choice request c k hrunning =>
      have hevent := hexecuted ⟨i, C.turn i, c, choice, (exec choice c C.shared).1⟩
        (List.mem_append_right _ (List.mem_singleton_self _))
      obtain ⟨hkept, hrest⟩ := h.running i _ hrunning choice C.shared hevent h.shared
      refine ⟨hkept, h.own, h.answered, fun j r hr => ?_⟩
      by_cases hj : j = i
      · subst hj
        rw [running_execute_self] at hr
        cases hr
        exact hrest
      · rw [running_execute_of_ne exec hj] at hr
        exact h.running j r hr
  | answer i request response left hrunning =>
      obtain ⟨hleft, hresponse⟩ := h.running i _ hrunning
      refine ⟨h.shared, fun j => ?_, fun a ha => ?_, fun j r hr => ?_⟩
      · by_cases hj : j = i
        · rw [hj, own_finish_self]
          exact hleft
        · rw [own_finish_of_ne hj]
          exact h.own j
      · rcases List.mem_append.mp ha with hold | hnew
        · exact h.answered a hold
        · obtain rfl := List.mem_singleton.mp hnew
          exact hresponse
      · have hj : j ≠ i := fun hj => by simp [hj] at hr
        rw [own_finish_of_ne hj, turn_finish_of_ne hj]
        rw [running_finish_of_ne hj] at hr
        exact h.running j r hr

/-- **The rule for invariants**: where each command of every program keeps `I`, as far as the
run has executed it, started from own states in `J` with the requests the run has received,
every run keeps it, however the clients take turns. -/
theorem Kept.run
    (hserve : ∀ i n l q, J i l → A (i, n) l q →
      (serve i l q).Keeps exec (E (i, n)) I fun out => J i out.2 ∧ B (i, n) l q out.1)
    {moves : List (Move ι Q O)}
    (hcalled : ∀ call l q, Called (C.run serve exec moves) call l q → A call l q)
    (hexecuted : ∀ e ∈ (C.run serve exec moves).executed, E e.call e.command e.choice e.reply)
    (h : Kept exec E I J B C) : Kept exec E I J B (C.run serve exec moves) := by
  induction moves using List.reverseRecOn with
  | nil => exact h
  | append_singleton moves m ih =>
      rw [Clients.run, List.foldl_append] at hcalled hexecuted ⊢
      have hearlier : Kept exec E I J B (C.run serve exec moves) :=
        ih (fun call l q hq => hcalled call l q (called_step serve exec hq m))
          fun e he => hexecuted e (executed_step serve exec he m)
      exact hearlier.step hserve hcalled hexecuted

end Kept

end Clients
