import LittleB.Foundations.Clients

/-!
Requests one after the other, and when a run of clients comes to the same.

* `Serves`: a request served with nothing in between;
* `Sound.lt_of_order`, `Sound.exists_answer`: orders that keep every client's requests in
  order;
* `Sound.serial`: **serializability**: the requests of some clients, one after the other in
  any order that no two conflicting commands contradict, when nobody else has interfered;
  `Sound.alone` for one client;
* `SerialOrder`: such an order of the requests of all clients, `SerialOrder.serves`;
  `Sound.exists_serialOrder_iff`: **the precedence graph**, there is one exactly when the
  requests that come before others by a conflict do not do so in a circle.
-/

namespace Clients

variable {S : Signature} {ι L Q R σ O : Type} [DecidableEq ι]
variable (serve : ι → L → Q → Prog S (R × L)) (exec : O → Semantics S σ)

/-- A request served with nothing in between: its commands lead from one shared state to
another, and its answer is what its program makes of the replies. -/
structure Serves (s : (ι → L) × σ) (e : Answered ι L Q R × List (Executed S ι O))
    (s' : (ι → L) × σ) : Prop where
  found : e.1.found = s.1 e.1.client
  commands : Happens (Executes exec) s.2 e.2 s'.2
  follows : (serve e.1.client (s.1 e.1.client) e.1.request).Follows (e.2.map Executed.event)
    (.ret (e.1.response, e.1.left))
  own : s'.1 = Function.update s.1 e.1.client e.1.left

variable {serve exec} {C₀ C : Clients S ι L Q R σ O}

/-- Commands that come call by call serve the calls. -/
lemma happens_serves {order : List (Answered ι L Q R)} {own own' : ι → L} {s s' : σ}
    {commands : Answered ι L Q R → List (Executed S ι O)}
    (hcommands : Happens (Executes exec) s (order.flatMap commands) s')
    (hown : ∀ i, Happens Chains (own i) (order.filter fun a => a.client = i) (own' i))
    (hfollows : ∀ a ∈ order, (serve a.client a.found a.request).Follows
      ((commands a).map Executed.event) (.ret (a.response, a.left))) :
    Happens (Serves serve exec) (own, s) (order.map fun a => (a, commands a)) (own', s') := by
  induction order generalizing own s with
  | nil =>
      have hsame : own = own' := funext fun i => (hown i).eq_of_nil
      rw [hsame, hcommands.eq_of_nil]
      exact .nil _
  | cons a order ih =>
      rw [List.flatMap_cons] at hcommands
      obtain ⟨s₁, hfirst, hrest⟩ := happens_append.mp hcommands
      have hself := hown a.client
      rw [List.filter_cons_of_pos (by simp)] at hself
      obtain ⟨hfound, hchain⟩ : a.found = own a.client ∧ Happens Chains a.left
          (order.filter fun b => b.client = a.client) (own' a.client) := by
        cases hself with
        | cons hlink hlater =>
            obtain ⟨hfound, rfl⟩ := hlink
            exact ⟨hfound, hlater⟩
      have hnext : Happens (Serves serve exec) (Function.update own a.client a.left, s₁)
          (order.map fun a => (a, commands a)) (own', s') := by
        refine ih hrest (fun i => ?_) fun b hb => hfollows b (List.mem_cons_of_mem a hb)
        by_cases hi : i = a.client
        · rw [hi, Function.update_self]
          exact hchain
        · rw [Function.update_of_ne hi]
          have hother := hown i
          rwa [List.filter_cons_of_neg (by simpa using Ne.symm hi)] at hother
      refine .cons ⟨hfound, hfirst, ?_, rfl⟩ hnext
      change (serve a.client (own a.client) a.request).Follows _ _
      rw [← hfound]
      exact hfollows a List.mem_cons_self

namespace Sound

variable {order : List (Answered ι L Q R)}

/-- An order that has the requests of a client as they were answered. -/
lemma lt_of_order (h : Sound serve exec C₀ C) {p : ι → Prop}
    (hclients : ∀ a ∈ order, p a.client)
    (horder : ∀ i, p i → (order.filter fun a => a.client = i) = C.answersOf i) :
    order.Pairwise fun a b => a.client = b.client → a.number < b.number := by
  refine List.pairwise_iff_forall_sublist.mpr fun {a b} hsub hclient => ?_
  have hpair : [a, b].filter (fun x => x.client = a.client) = [a, b] := by simp [hclient]
  have hanswers : [a, b].Sublist (C.answersOf a.client) := by
    rw [← horder a.client (hclients a (hsub.subset (by simp))), ← hpair]
    exact hsub.filter _
  have hnumbers := hanswers.map Answered.number
  rw [h.numbers] at hnumbers
  exact List.pairwise_iff_forall_sublist.mp (List.pairwise_lt_range) hnumbers

/-- A command of a client that works on nothing belongs to an answer. -/
lemma exists_answer (h : Sound serve exec C₀ C) {e : Executed S ι O} (he : e ∈ C.executed)
    (hidle : C.running e.client = none) : ∃ a ∈ C.answersOf e.client, a.call = e.call := by
  have hmem : e.number ∈ (C.answersOf e.client).map Answered.number := by
    rw [h.numbers]
    exact List.mem_range.mpr (h.busy e he hidle)
  obtain ⟨a, ha, hnumber⟩ := List.mem_map.mp hmem
  refine ⟨a, ha, ?_⟩
  rw [Answered.call, hnumber, of_decide_eq_true (List.mem_filter.mp ha).2]
  rfl

/-- The commands of the requests in such an order change places as far as the order differs from
the one they were executed in: those of one client have come in it already. -/
lemma swaps_of_order (h : Sound serve exec C₀ C)
    (hlt : order.Pairwise fun a b => a.client = b.client → a.number < b.number)
    (hconflicts : order.Pairwise fun a b => a.client ≠ b.client →
      C.executed.Pairwise fun e f => e.call = b.call → f.call = a.call →
        Swaps (Executes exec) e f) :
    (order.map Answered.call).Pairwise fun i j => C.executed.Pairwise fun e f =>
      e.call = j → f.call = i → Swaps (Executes exec) e f := by
  refine List.pairwise_map.mpr ((hlt.and hconflicts).imp fun {a b} hab => ?_)
  by_cases hclient : a.client = b.client
  · refine h.sorted.imp fun {e f} hsorted he hf => ?_
    have hle : e.number ≤ f.number :=
      hsorted ((congrArg Prod.fst he).trans (hclient.symm.trans (congrArg Prod.fst hf).symm))
    have hlt : f.number < e.number := calc
      f.number = a.number := congrArg Prod.snd hf
      _ < b.number := hab.1 hclient
      _ = e.number := (congrArg Prod.snd he).symm
    exact absurd hle hlt.not_ge
  · exact hab.2 hclient

/-- The commands of some clients, request by request. -/
lemma flatMap_commandsOf {p : ι → Prop} [DecidablePred p]
    (hclients : ∀ a ∈ order, p a.client) :
    (order.flatMap fun a => (C.executed.filter fun e => p e.client).filter fun e =>
        e.call = a.call)
      = order.flatMap fun a => C.commandsOf a.call := by
  refine List.flatMap_congr fun a ha => ?_
  rw [List.filter_filter, commandsOf]
  refine List.filter_congr fun e _ => ?_
  by_cases hcall : e.call = a.call
  · have hclient : e.client = a.client := congrArg Prod.fst hcall
    simp [hcall, hclient, hclients a ha]
  · simp [hcall]

/-- **Serializability**: let the commands of some clients swap with the earlier ones of the
others, and let their requests be in an order that keeps those of every client and that no
two conflicting commands contradict.  Then the requests, one after the other in this order,
have the same answers and leave the same own states, and what the others have done behind
them leads to the same shared state. -/
theorem serial (h : Sound serve exec C₀ C) (p : ι → Prop) [DecidablePred p]
    (hidle : ∀ i, p i → C.running i = none) (hclients : ∀ a ∈ order, p a.client)
    (horder : ∀ i, p i → (order.filter fun a => a.client = i) = C.answersOf i)
    (hothers : C.executed.Pairwise fun e f =>
      ¬ p e.client → p f.client → Swaps (Executes exec) e f)
    (hconflicts : order.Pairwise fun a b => a.client ≠ b.client →
      C.executed.Pairwise fun e f => e.call = b.call → f.call = a.call →
        Swaps (Executes exec) e f) :
    ∃ s, Happens (Serves serve exec) (C₀.own, C₀.shared)
        (order.map fun a => (a, C.commandsOf a.call))
        (fun i => if p i then C.own i else C₀.own i, s) ∧
      Happens (Executes exec) s (C.executed.filter fun e => ¬ p e.client) C.shared := by
  obtain ⟨s, hfront, hback⟩ := happens_append.mp (h.shared.front (fun e => p e.client) hothers)
  refine ⟨s, ?_, hback⟩
  have hlt := h.lt_of_order hclients horder
  have hswaps : (order.map Answered.call).Pairwise fun i j =>
      (C.executed.filter fun e => p e.client).Pairwise fun e f =>
        e.call = j → f.call = i → Swaps (Executes exec) e f :=
    (h.swaps_of_order hlt hconflicts).imp fun hpairs => hpairs.sublist List.filter_sublist
  have hnodup : (order.map Answered.call).Nodup := by
    refine List.pairwise_map.mpr (hlt.imp fun {a b} hnumber heq => ?_)
    exact (hnumber (congrArg Prod.fst heq)).ne (congrArg Prod.snd heq)
  have hcalls : ∀ e ∈ C.executed.filter fun e => p e.client,
      e.call ∈ order.map Answered.call := by
    intro e he
    obtain ⟨hmem, hp⟩ := List.mem_filter.mp he
    have hp : p e.client := of_decide_eq_true hp
    obtain ⟨a, ha, hcall⟩ := h.exists_answer hmem (hidle _ hp)
    rw [← horder _ hp] at ha
    exact hcall ▸ List.mem_map_of_mem (List.mem_of_mem_filter ha)
  have hserial := hfront.serial hnodup hcalls hswaps
  rw [List.flatMap_map] at hserial
  rw [flatMap_commandsOf hclients] at hserial
  refine happens_serves hserial (fun i => ?_) fun a ha => ?_
  · by_cases hi : p i
    · rw [if_pos hi, horder i hi]
      exact h.own i
    · have hnone : (order.filter fun a => a.client = i) = [] := by
        refine List.filter_eq_nil_iff.mpr fun a ha hclient => hi ?_
        exact of_decide_eq_true hclient ▸ hclients a ha
      rw [if_neg hi, hnone]
      exact .nil _
  · have hmem : a ∈ C.answersOf a.client := by
      rw [← horder _ (hclients a ha)]
      exact List.mem_filter.mpr ⟨ha, by simp⟩
    exact h.answered a (List.mem_of_mem_filter hmem)

/-- The requests of one client, nobody having interfered with its commands. -/
theorem alone (h : Sound serve exec C₀ C) {i : ι} (hidle : C.running i = none)
    (hothers : C.executed.Pairwise fun e f =>
      e.client ≠ i → f.client = i → Swaps (Executes exec) e f) :
    ∃ s, Happens (Serves serve exec) (C₀.own, C₀.shared)
      ((C.answersOf i).map fun a => (a, C.commandsOf a.call))
      (Function.update C₀.own i (C.own i), s) := by
  have hclients : ∀ a ∈ C.answersOf i, a.client = i :=
    fun a ha => of_decide_eq_true (List.mem_filter.mp ha).2
  obtain ⟨s, hserves, -⟩ := h.serial (fun j => j = i) (fun j hj => hj ▸ hidle) hclients
    (fun j hj => by
      subst hj
      exact List.filter_eq_self.mpr fun a ha => by simpa using hclients a ha)
    hothers
    (List.Pairwise.imp_of_mem
      (fun {a b} ha hb _ hne => absurd ((hclients a ha).trans (hclients b hb).symm) hne)
      (List.pairwise_of_forall fun _ _ => trivial : (C.answersOf i).Pairwise fun _ _ => True))
  have hown : (fun j => if j = i then C.own j else C₀.own j)
      = Function.update C₀.own i (C.own i) := by
    funext j
    by_cases hj : j = i
    · rw [if_pos hj, hj, Function.update_self]
    · rw [if_neg hj, Function.update_of_ne hj]
  rw [hown] at hserves
  exact ⟨s, hserves⟩

end Sound

/-! ### The precedence graph -/

section Conflicts

variable (conflicts : Executed S ι O → Executed S ι O → Prop)

/-- An order of the answers that keeps those of every client and that no two conflicting
commands contradict. -/
structure SerialOrder (C : Clients S ι L Q R σ O) (order : List (Answered ι L Q R)) : Prop where
  answers : ∀ i, (order.filter fun a => a.client = i) = C.answersOf i
  conflicts : order.Pairwise fun a b => a.client ≠ b.client →
    C.executed.Pairwise fun e f => e.call = b.call → f.call = a.call → ¬ conflicts e f

/-- An answer comes before another one: that of the client itself to an earlier request, or
one with a command that conflicts with a later command of the other. -/
structure Precedes (C : Clients S ι L Q R σ O) (a b : Answered ι L Q R) : Prop where
  left_mem : a ∈ C.answered
  right_mem : b ∈ C.answered
  before : (a.client = b.client ∧ a.number < b.number) ∨
    (a.client ≠ b.client ∧ ∃ e f, [e, f].Sublist C.executed ∧ e.call = a.call ∧
      f.call = b.call ∧ conflicts e f)

variable {conflicts} {order : List (Answered ι L Q R)}

/-- **The requests of all clients**, one after the other. -/
theorem SerialOrder.serves (horder : SerialOrder conflicts C order)
    (hconflicts : ∀ e f, ¬ conflicts e f → Swaps (Executes exec) e f)
    (h : Sound serve exec C₀ C) (hidle : ∀ i, C.running i = none) :
    Happens (Serves serve exec) (C₀.own, C₀.shared)
      (order.map fun a => (a, C.commandsOf a.call)) (C.own, C.shared) := by
  have hothers : C.executed.Pairwise fun e f =>
      ¬ True → True → Swaps (Executes exec) e f :=
    List.Pairwise.imp (fun _ hfalse => absurd trivial hfalse) h.sorted
  obtain ⟨s, hserves, hrest⟩ := h.serial (fun _ => True) (fun i _ => hidle i)
    (fun a _ => trivial) (fun i _ => horder.answers i) hothers
    (horder.conflicts.imp fun {a b} hpairs hne => (hpairs hne).imp
      fun {e f} hnot he hf => hconflicts e f (hnot he hf))
  have hnone : (C.executed.filter fun _ => ¬ True) = [] := by simp
  rw [hnone] at hrest
  rw [← hrest.eq_of_nil]
  simpa using hserves

omit [DecidableEq ι] in
lemma Precedes.irrefl (a : Answered ι L Q R) : ¬ Precedes conflicts C a a := by
  rintro ⟨-, -, ⟨-, hlt⟩ | ⟨hne, -⟩⟩
  · exact hlt.false
  · exact hne rfl

/-- An order keeps the answers of every client where nothing in it precedes what comes
before. -/
lemma SerialOrder.of_perm (h : Sound serve exec C₀ C) (hperm : order.Perm C.answered)
    (hprecedes : order.Pairwise fun a b => ¬ Precedes conflicts C b a) :
    SerialOrder conflicts C order := by
  have hmem {a : Answered ι L Q R} (ha : a ∈ order) : a ∈ C.answered := hperm.mem_iff.mp ha
  constructor
  case answers =>
    intro i
    have hclient {l : List (Answered ι L Q R)} {a : Answered ι L Q R}
        (ha : a ∈ l.filter fun a => a.client = i) : a ∈ l ∧ a.client = i :=
      (List.mem_filter.mp ha).imp_right of_decide_eq_true
    have hinj : ∀ a ∈ C.answersOf i, ∀ b ∈ C.answersOf i, a.number = b.number → a = b := by
      refine fun a ha b hb hab => List.inj_on_of_nodup_map ?_ ha hb hab
      rw [h.numbers]
      exact List.nodup_range
    have hsorted : (C.answersOf i).Pairwise fun a b => a.number ≤ b.number := by
      refine List.pairwise_map.mp ?_
      rw [h.numbers]
      exact List.pairwise_le_range
    refine List.Perm.eq_of_pairwise (fun a b ha hb hab hba => ?_) ?_ hsorted (hperm.filter _)
    · have ha' : a ∈ C.answersOf i :=
        List.mem_filter.mpr ⟨hmem (hclient ha).1, decide_eq_true (hclient ha).2⟩
      exact hinj a ha' b hb (hab.antisymm hba)
    · refine (hprecedes.sublist List.filter_sublist).imp_of_mem fun {a b} ha hb hnot => ?_
      by_contra hlt
      obtain ⟨ha, hai⟩ := hclient ha
      obtain ⟨hb, hbi⟩ := hclient hb
      exact hnot ⟨hmem hb, hmem ha, .inl ⟨hbi.trans hai.symm, not_le.mp hlt⟩⟩
  case conflicts =>
    refine hprecedes.imp_of_mem fun {a b} ha hb hnot hne => ?_
    refine List.pairwise_iff_forall_sublist.mpr fun {e f} hsub he hf hconflict => ?_
    exact hnot ⟨hmem hb, hmem ha, .inr ⟨hne.symm, e, f, hsub, he, hf, hconflict⟩⟩

/-- Such an order has every answer, and nothing in it precedes what comes before. -/
lemma SerialOrder.pairwise (horder : SerialOrder conflicts C order)
    (h : Sound serve exec C₀ C) :
    order.Pairwise fun a b => ¬ Precedes conflicts C b a := by
  have hlt := h.lt_of_order (p := fun _ => True) (fun _ _ => trivial)
    fun i _ => horder.answers i
  refine (hlt.and horder.conflicts).imp fun {a b} ⟨hnumber, hpairs⟩ => ?_
  rintro ⟨-, -, ⟨hclient, hback⟩ | ⟨hne, e, f, hsub, he, hf, hconflict⟩⟩
  · exact (hnumber hclient.symm).not_gt hback
  · exact List.pairwise_iff_forall_sublist.mp (hpairs hne.symm) hsub he hf hconflict

lemma SerialOrder.perm (horder : SerialOrder conflicts C order) : order.Perm C.answered := by
  classical
  refine List.perm_iff_count.mpr fun a => ?_
  have hcount (l : List (Answered ι L Q R)) :
      (l.filter fun b => b.client = a.client).count a = l.count a :=
    List.count_filter (by simp)
  rw [← hcount order, ← hcount C.answered, horder.answers]
  rfl

/-- **The precedence graph**: the answers have an order that no two conflicting commands
contradict exactly when they do not precede each other in a circle. -/
theorem Sound.exists_serialOrder_iff (h : Sound serve exec C₀ C) :
    (∃ order, SerialOrder conflicts C order)
      ↔ ∀ a, ¬ Relation.TransGen (Precedes conflicts C) a a := by
  rw [← exists_order_iff (fun a b hab => ⟨hab.left_mem, hab.right_mem⟩) Precedes.irrefl]
  refine exists_congr fun order => ⟨fun horder => ⟨horder.perm, horder.pairwise h⟩, ?_⟩
  rintro ⟨hperm, hprecedes⟩
  exact .of_perm h hperm hprecedes

end Conflicts

/-! ### Last commands -/

section Last

/-- How many commands had been executed when the last one of a call was. -/
def finished (C : Clients S ι L Q R σ O) (call : ι × ℕ) : ℕ :=
  ((Finset.range C.executed.length).filter fun n =>
    (C.executed[n]?).map Executed.call = some call).sup Nat.succ

/-- A command of a call is executed by then. -/
lemma lt_finished {n : ℕ} {e : Executed S ι O} (hn : C.executed[n]? = some e) :
    n < C.finished e.call := by
  refine Nat.lt_of_succ_le (Finset.le_sup (f := Nat.succ) ?_)
  refine Finset.mem_filter.mpr ⟨Finset.mem_range.mpr ?_, by rw [hn]; rfl⟩
  exact (List.getElem?_eq_some_iff.mp hn).1

/-- The last command of a call. -/
lemma exists_finished {n : ℕ} {e : Executed S ι O} (hn : C.executed[n]? = some e) :
    ∃ m f, C.executed[m]? = some f ∧ f.call = e.call ∧ C.finished e.call = m + 1 ∧ n ≤ m := by
  have hle := lt_finished hn
  have hnonempty : ((Finset.range C.executed.length).filter fun n =>
      (C.executed[n]?).map Executed.call = some e.call).Nonempty := by
    refine ⟨n, Finset.mem_filter.mpr ⟨Finset.mem_range.mpr ?_, by rw [hn]; rfl⟩⟩
    exact (List.getElem?_eq_some_iff.mp hn).1
  obtain ⟨m, hm, hsup⟩ := Finset.exists_mem_eq_sup _ hnonempty Nat.succ
  obtain ⟨f, hf, hcall⟩ := Option.map_eq_some_iff.mp (Finset.mem_filter.mp hm).2
  have hfinished : C.finished e.call = m + 1 := hsup
  rw [hfinished] at hle
  exact ⟨m, f, hf, hcall, hfinished, Nat.le_of_lt_succ hle⟩

/-- Two calls with commands do not finish at once. -/
lemma finished_ne {m n : ℕ} {e f : Executed S ι O} (hm : C.executed[m]? = some e)
    (hn : C.executed[n]? = some f) (hne : e.call ≠ f.call) :
    C.finished e.call ≠ C.finished f.call := by
  obtain ⟨m', e', hm', he', hmf, -⟩ := exists_finished hm
  obtain ⟨n', f', hn', hf', hnf, -⟩ := exists_finished hn
  rw [hmf, hnf]
  intro heq
  obtain rfl : m' = n' := Nat.succ.inj heq
  rw [hm'] at hn'
  obtain rfl := Option.some_inj.mp hn'
  exact hne (he'.symm.trans hf')

end Last

end Clients
