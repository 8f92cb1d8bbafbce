import LittleB.Foundations.Serial

/-!
Clients that work on requests at the same time, over one shared state.

* `Clients`: a client has a state of its own and works on one request at a time, a program
  whose commands go to the shared state; `Move`, `Clients.step` and `Clients.run`: a
  request is received, one command is executed, the request is answered, in any order
  that the clients come to; `moves_cases` says what a move can do;
* `Clients.Sound`: the record of a run: the commands executed lead to the shared state,
  and every answer is what the program of its request makes of the replies it was given;
  `Sound.step`, `sound_run`: every run keeps it.
-/

namespace Clients

/-- A request that is being worked on. -/
structure Running (S : Signature) (L Q R : Type) where
  request : Q
  rest : Prog S (R × L)

/-- A command that has been executed, for the request of a client with this number. -/
structure Executed (S : Signature) (ι O : Type) where
  client : ι
  number : ℕ
  command : S.Command
  choice : O
  reply : S.Reply command

/-- A request that has been answered, with the client's own state before and after it. -/
structure Answered (ι L Q R : Type) where
  client : ι
  number : ℕ
  request : Q
  found : L
  response : R
  left : L

/-- What can happen to a client: it is sent a request, its next command is executed, with a
choice that is up to the surroundings, or it answers. -/
inductive Move (ι Q O : Type) where
  | receive (i : ι) (request : Q)
  | command (i : ι) (choice : O)
  | answer (i : ι)

end Clients

/-- Clients over a shared state, with what they have had executed and answered, in order. -/
structure Clients (S : Signature) (ι L Q R σ O : Type) where
  own : ι → L
  shared : σ
  running : ι → Option (Clients.Running S L Q R)
  executed : List (Clients.Executed S ι O)
  answered : List (Clients.Answered ι L Q R)

namespace Clients

variable {S : Signature} {ι L Q R σ O : Type}

/-- The call a command was executed for. -/
def Executed.call (e : Executed S ι O) : ι × ℕ := (e.client, e.number)

/-- The command with its reply. -/
def Executed.event (e : Executed S ι O) : (c : S.Command) × S.Reply c := ⟨e.command, e.reply⟩

/-- The call that is answered. -/
def Answered.call (a : Answered ι L Q R) : ι × ℕ := (a.client, a.number)

/-- The clients before any request. -/
def start (own : ι → L) (shared : σ) : Clients S ι L Q R σ O := ⟨own, shared, fun _ => none, [], []⟩

/-- A command is executed in a state, with the reply it was given. -/
def Executes (exec : O → Semantics S σ) (s : σ) (e : Executed S ι O) (s' : σ) : Prop :=
  exec e.choice e.command s = (e.reply, s')

/-- A request leads from one own state to another. -/
def Chains (l : L) (a : Answered ι L Q R) (l' : L) : Prop := a.found = l ∧ a.left = l'

variable [DecidableEq ι]

/-- The answers of a client. -/
def answersOf (C : Clients S ι L Q R σ O) (i : ι) : List (Answered ι L Q R) :=
  C.answered.filter fun a => a.client = i

/-- The number of the request a client works on, or of its next one. -/
def turn (C : Clients S ι L Q R σ O) (i : ι) : ℕ := (C.answersOf i).length

/-- The commands executed for a call. -/
def commandsOf (C : Clients S ι L Q R σ O) (call : ι × ℕ) : List (Executed S ι O) :=
  C.executed.filter fun e => e.call = call

variable (serve : ι → L → Q → Prog S (R × L)) (exec : O → Semantics S σ)

/-- A client starts to work on a request. -/
def begin (C : Clients S ι L Q R σ O) (i : ι) (request : Q) : Clients S ι L Q R σ O :=
  { C with running := Function.update C.running i (some ⟨request, serve i (C.own i) request⟩) }

/-- A command of a client is executed. -/
def execute (C : Clients S ι L Q R σ O) (i : ι) (choice : O) (request : Q) (c : S.Command)
    (k : S.Reply c → Prog S (R × L)) : Clients S ι L Q R σ O :=
  { C with
    shared := (exec choice c C.shared).2
    running := Function.update C.running i (some ⟨request, k (exec choice c C.shared).1⟩)
    executed := C.executed ++ [⟨i, C.turn i, c, choice, (exec choice c C.shared).1⟩] }

/-- A client answers its request. -/
def finish (C : Clients S ι L Q R σ O) (i : ι) (request : Q) (response : R) (left : L) :
    Clients S ι L Q R σ O :=
  { C with
    own := Function.update C.own i left
    running := Function.update C.running i none
    answered := C.answered ++ [⟨i, C.turn i, request, C.own i, response, left⟩] }

/-- One move; a client that is not up to it stays as it is. -/
def step (C : Clients S ι L Q R σ O) : Move ι Q O → Clients S ι L Q R σ O
  | .receive i request =>
      match C.running i with
      | none => C.begin serve i request
      | some _ => C
  | .command i choice =>
      match C.running i with
      | some ⟨request, .ask c k⟩ => C.execute exec i choice request c k
      | _ => C
  | .answer i =>
      match C.running i with
      | some ⟨request, .ret (response, left)⟩ => C.finish i request response left
      | _ => C

/-- The moves of a schedule, one after the other. -/
def run (C : Clients S ι L Q R σ O) (moves : List (Move ι Q O)) : Clients S ι L Q R σ O :=
  moves.foldl (step serve exec) C

/-! ### What a move can do -/

/-- What a move leads to. -/
inductive Moves (C : Clients S ι L Q R σ O) : Move ι Q O → Clients S ι L Q R σ O → Prop
  | stay (m : Move ι Q O) : Moves C m C
  | receive (i : ι) (request : Q) (hfree : C.running i = none) :
      Moves C (.receive i request) (C.begin serve i request)
  | command (i : ι) (choice : O) (request : Q) (c : S.Command) (k : S.Reply c → Prog S (R × L))
      (hrunning : C.running i = some ⟨request, .ask c k⟩) :
      Moves C (.command i choice) (C.execute exec i choice request c k)
  | answer (i : ι) (request : Q) (response : R) (left : L)
      (hrunning : C.running i = some ⟨request, .ret (response, left)⟩) :
      Moves C (.answer i) (C.finish i request response left)

lemma moves_cases (C : Clients S ι L Q R σ O) (m : Move ι Q O) :
    Moves serve exec C m (C.step serve exec m) := by
  cases m with
  | receive i request =>
      cases hi : C.running i with
      | none =>
          simp only [step, hi]
          exact .receive i request hi
      | some r =>
          simp only [step, hi]
          exact .stay _
  | command i choice =>
      cases hi : C.running i with
      | none =>
          simp only [step, hi]
          exact .stay _
      | some r =>
          obtain ⟨request, rest⟩ := r
          cases rest with
          | ret out =>
              simp only [step, hi]
              exact .stay _
          | ask c k =>
              simp only [step, hi]
              exact .command i choice request c k hi
  | answer i =>
      cases hi : C.running i with
      | none =>
          simp only [step, hi]
          exact .stay _
      | some r =>
          obtain ⟨request, rest⟩ := r
          cases rest with
          | ret out =>
              simp only [step, hi]
              exact .answer i request out.1 out.2 hi
          | ask c k =>
              simp only [step, hi]
              exact .stay _

section Lists

variable {C : Clients S ι L Q R σ O} {i j : ι} {choice : O} {request : Q} {c : S.Command}
  {k : S.Reply c → Prog S (R × L)} {response : R} {left : L}

@[simp] lemma running_begin_self :
    (C.begin serve i request).running i = some ⟨request, serve i (C.own i) request⟩ :=
  Function.update_self _ _ _

lemma running_begin_of_ne (h : j ≠ i) : (C.begin serve i request).running j = C.running j :=
  Function.update_of_ne h _ _

@[simp] lemma running_execute_self :
    (C.execute exec i choice request c k).running i
      = some ⟨request, k (exec choice c C.shared).1⟩ :=
  Function.update_self _ _ _

lemma running_execute_of_ne (h : j ≠ i) :
    (C.execute exec i choice request c k).running j = C.running j :=
  Function.update_of_ne h _ _

@[simp] lemma running_finish_self : (C.finish i request response left).running i = none :=
  Function.update_self _ _ _

lemma running_finish_of_ne (h : j ≠ i) :
    (C.finish i request response left).running j = C.running j :=
  Function.update_of_ne h _ _

@[simp] lemma own_finish_self : (C.finish i request response left).own i = left :=
  Function.update_self _ _ _

lemma own_finish_of_ne (h : j ≠ i) : (C.finish i request response left).own j = C.own j :=
  Function.update_of_ne h _ _

/-- The commands of the call a client works on, one more executed. -/
lemma commandsOf_execute_self :
    (C.execute exec i choice request c k).commandsOf (i, C.turn i)
      = C.commandsOf (i, C.turn i)
        ++ [⟨i, C.turn i, c, choice, (exec choice c C.shared).1⟩] := by
  simp [commandsOf, execute, Executed.call]

/-- The commands of other calls. -/
lemma commandsOf_execute_of_ne {call : ι × ℕ} (h : (i, C.turn i) ≠ call) :
    (C.execute exec i choice request c k).commandsOf call = C.commandsOf call := by
  simp [commandsOf, execute, Executed.call, h]

lemma answersOf_finish_self :
    (C.finish i request response left).answersOf i
      = C.answersOf i ++ [⟨i, C.turn i, request, C.own i, response, left⟩] := by
  simp [answersOf, finish]

lemma answersOf_finish_of_ne (h : j ≠ i) :
    (C.finish i request response left).answersOf j = C.answersOf j := by
  simp [answersOf, finish, h.symm]

lemma turn_finish_self : (C.finish i request response left).turn i = C.turn i + 1 := by
  rw [turn, answersOf_finish_self, List.length_append, turn, List.length_singleton]

lemma turn_finish_of_ne (h : j ≠ i) :
    (C.finish i request response left).turn j = C.turn j := by
  rw [turn, answersOf_finish_of_ne h, turn]

lemma turn_le_finish (j : ι) : C.turn j ≤ (C.finish i request response left).turn j := by
  by_cases hj : j = i
  · rw [hj, turn_finish_self]
    exact Nat.le_succ _
  · rw [turn_finish_of_ne hj]

end Lists

/-! ### The record of a run -/

/-- The record of a run, from one state of the clients to another. -/
structure Sound (C₀ C : Clients S ι L Q R σ O) : Prop where
  shared : Happens (Executes exec) C₀.shared C.executed C.shared
  own : ∀ i, Happens Chains (C₀.own i) (C.answersOf i) (C.own i)
  answered : ∀ a ∈ C.answered, (serve a.client a.found a.request).Follows
    ((C.commandsOf a.call).map Executed.event) (.ret (a.response, a.left))
  running : ∀ i r, C.running i = some r → (serve i (C.own i) r.request).Follows
    ((C.commandsOf (i, C.turn i)).map Executed.event) r.rest
  numbers : ∀ i, (C.answersOf i).map Answered.number = List.range (C.turn i)
  current : ∀ e ∈ C.executed, e.number ≤ C.turn e.client
  busy : ∀ e ∈ C.executed, C.running e.client = none → e.number < C.turn e.client
  sorted : C.executed.Pairwise fun e f => e.client = f.client → e.number ≤ f.number

lemma sound_start (own : ι → L) (shared : σ) :
    Sound serve exec (start own shared) (start own shared) := by
  constructor
  case shared => exact .nil _
  case own => exact fun i => .nil _
  case answered => exact fun a ha => by cases ha
  case running => exact fun i r h => by cases h
  case numbers => exact fun i => rfl
  case current => exact fun e he => by cases he
  case busy => exact fun e he => by cases he
  case sorted => exact .nil

namespace Sound

variable {serve exec} {C₀ C : Clients S ι L Q R σ O}

/-- An answer has a number below the next one of its client. -/
lemma number_lt (h : Sound serve exec C₀ C) {a : Answered ι L Q R} (ha : a ∈ C.answered) :
    a.number < C.turn a.client := by
  have hmem : a.number ∈ (C.answersOf a.client).map Answered.number :=
    List.mem_map_of_mem (List.mem_filter.mpr ⟨ha, by simp⟩)
  rw [h.numbers a.client] at hmem
  exact List.mem_range.mp hmem

/-- A request is received. -/
lemma begin (h : Sound serve exec C₀ C) {i : ι} (request : Q) (hfree : C.running i = none) :
    Sound serve exec C₀ (C.begin serve i request) := by
  constructor
  case shared => exact h.shared
  case own => exact h.own
  case answered => exact h.answered
  case running =>
    intro j r hr
    by_cases hj : j = i
    · subst hj
      rw [running_begin_self] at hr
      cases hr
      have hnone : C.commandsOf (j, C.turn j) = [] := by
        refine List.filter_eq_nil_iff.mpr fun e he hcall => ?_
        obtain ⟨rfl, hnumber⟩ := Prod.mk.inj (of_decide_eq_true hcall)
        exact (h.busy e he hfree).ne hnumber
      change Prog.Follows _ ((C.commandsOf (j, C.turn j)).map Executed.event) _
      rw [hnone]
      exact .refl _
    · rw [running_begin_of_ne serve hj] at hr
      exact h.running j r hr
  case numbers => exact h.numbers
  case current => exact h.current
  case busy =>
    intro e he hnone
    have hi : e.client ≠ i := fun hi => by simp [hi] at hnone
    rw [running_begin_of_ne serve hi] at hnone
    exact h.busy e he hnone
  case sorted => exact h.sorted

/-- A command is executed. -/
lemma execute (h : Sound serve exec C₀ C) {i : ι} (choice : O) {request : Q} {c : S.Command}
    {k : S.Reply c → Prog S (R × L)} (hrunning : C.running i = some ⟨request, .ask c k⟩) :
    Sound serve exec C₀ (C.execute exec i choice request c k) := by
  constructor
  case shared => exact h.shared.snoc rfl
  case own => exact h.own
  case answered =>
    intro a ha
    have hne : (i, C.turn i) ≠ a.call := by
      intro heq
      obtain ⟨hi, hnumber⟩ := Prod.mk.inj heq
      have hlt := h.number_lt ha
      rw [← hi, ← hnumber] at hlt
      exact hlt.false
    rw [commandsOf_execute_of_ne exec hne]
    exact h.answered a ha
  case running =>
    intro j r hr
    change Prog.Follows _
      (((C.execute exec i choice request c k).commandsOf (j, C.turn j)).map Executed.event) _
    by_cases hj : j = i
    · subst hj
      rw [running_execute_self] at hr
      cases hr
      rw [commandsOf_execute_self, List.map_append]
      exact (h.running j _ hrunning).snoc _
    · have hne : (i, C.turn i) ≠ (j, C.turn j) := fun heq => hj (Prod.mk.inj heq).1.symm
      rw [commandsOf_execute_of_ne exec hne]
      rw [running_execute_of_ne exec hj] at hr
      exact h.running j r hr
  case numbers => exact h.numbers
  case current =>
    intro e he
    rcases List.mem_append.mp he with hold | hnew
    · exact h.current e hold
    · obtain rfl := List.mem_singleton.mp hnew
      exact le_rfl
  case busy =>
    intro e he hnone
    have hi : e.client ≠ i := fun hi => by simp [hi] at hnone
    rcases List.mem_append.mp he with hold | hnew
    · rw [running_execute_of_ne exec hi] at hnone
      exact h.busy e hold hnone
    · obtain rfl := List.mem_singleton.mp hnew
      exact absurd rfl hi
  case sorted =>
    refine List.pairwise_append.mpr ⟨h.sorted, List.pairwise_singleton _ _, ?_⟩
    intro e he f hf hclient
    obtain rfl := List.mem_singleton.mp hf
    exact (h.current e he).trans_eq (congrArg C.turn hclient)

/-- A request is answered. -/
lemma finish (h : Sound serve exec C₀ C) {i : ι} {request : Q} {response : R} {left : L}
    (hrunning : C.running i = some ⟨request, .ret (response, left)⟩) :
    Sound serve exec C₀ (C.finish i request response left) := by
  constructor
  case shared => exact h.shared
  case own =>
    intro j
    by_cases hj : j = i
    · subst hj
      rw [answersOf_finish_self, own_finish_self]
      exact (h.own j).snoc ⟨rfl, rfl⟩
    · rw [answersOf_finish_of_ne hj, own_finish_of_ne hj]
      exact h.own j
  case answered =>
    intro a ha
    rcases List.mem_append.mp ha with hold | hnew
    · exact h.answered a hold
    · obtain rfl := List.mem_singleton.mp hnew
      exact h.running i _ hrunning
  case running =>
    intro j r hr
    have hj : j ≠ i := fun hj => by simp [hj] at hr
    rw [turn_finish_of_ne hj, own_finish_of_ne hj]
    rw [running_finish_of_ne hj] at hr
    exact h.running j r hr
  case numbers =>
    intro j
    by_cases hj : j = i
    · subst hj
      rw [answersOf_finish_self, turn_finish_self, List.map_append, h.numbers, List.range_succ]
      rfl
    · rw [answersOf_finish_of_ne hj, turn_finish_of_ne hj]
      exact h.numbers j
  case current => exact fun e he => (h.current e he).trans (turn_le_finish e.client)
  case busy =>
    intro e he hnone
    by_cases hi : e.client = i
    · rw [hi, turn_finish_self, Nat.lt_succ_iff, ← hi]
      exact h.current e he
    · rw [turn_finish_of_ne hi]
      rw [running_finish_of_ne hi] at hnone
      exact h.busy e he hnone
  case sorted => exact h.sorted

/-- **The step**. -/
lemma step (h : Sound serve exec C₀ C) (m : Move ι Q O) :
    Sound serve exec C₀ (C.step serve exec m) := by
  have hm := C.moves_cases serve exec m
  generalize C.step serve exec m = C' at hm ⊢
  cases hm with
  | stay => exact h
  | receive i request hfree => exact h.begin request hfree
  | command i choice request c k hrunning => exact h.execute choice hrunning
  | answer i request response left hrunning => exact h.finish hrunning

/-- **The run**. -/
theorem run (h : Sound serve exec C₀ C) (moves : List (Move ι Q O)) :
    Sound serve exec C₀ (C.run serve exec moves) := by
  induction moves generalizing C with
  | nil => exact h
  | cons m moves ih => exact ih (h.step m)

end Sound

lemma sound_run (own : ι → L) (shared : σ) (moves : List (Move ι Q O)) :
    Sound serve exec (start own shared) ((start own shared).run serve exec moves) :=
  (sound_start serve exec own shared).run moves

end Clients
