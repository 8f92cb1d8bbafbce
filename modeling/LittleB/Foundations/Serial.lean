import LittleB.Foundations.Prog
import Mathlib.Data.List.NodupEquivFin
import Mathlib.Data.List.Sort
import Mathlib.Order.Extension.Linear

/-!
Events of several calls, interleaved and one call after the other.

* `Happens`: events that happen one behind the other, each from the state that the one
  before it leaves, with `happens_append`;
* `Swaps`: two neighbouring events that may change places; `Happens.past` moves one event
  behind others, `Happens.front` the events of a kind to the front;
* `Happens.serial`: **serial order**: events that change places wherever an order of their
  calls asks for it lead to the same state call by call;
* `exists_order_iff`: a list has an order that a relation does not contradict exactly when
  the relation has no cycle in it;
* `Prog.Follows`: a program, the commands it has issued with their replies, and what is
  left of it; `Follows.run` runs the program alone over such events.
-/

/-! ### Paths -/

section Happens

variable {σ ε ι : Type}

/-- Events one behind the other, from one state to another. -/
inductive Happens (step : σ → ε → σ → Prop) : σ → List ε → σ → Prop
  | nil (s : σ) : Happens step s [] s
  | cons {s s₁ s' : σ} {e : ε} {es : List ε} (h : step s e s₁) (hes : Happens step s₁ es s') :
      Happens step s (e :: es) s'

/-- Where `f` can happen behind `e`, it can happen before it, to the same effect. -/
def Swaps (step : σ → ε → σ → Prop) (e f : ε) : Prop :=
  ∀ s s₁ s', step s e s₁ → step s₁ f s' → ∃ s₂, step s f s₂ ∧ step s₂ e s'

variable {step : σ → ε → σ → Prop} {s s' : σ} {e : ε} {es fs : List ε}

/-- No event. -/
lemma Happens.eq_of_nil (h : Happens step s [] s') : s = s' := by
  cases h
  rfl

/-- Two parts. -/
lemma happens_append :
    Happens step s (es ++ fs) s' ↔ ∃ s₁, Happens step s es s₁ ∧ Happens step s₁ fs s' := by
  induction es generalizing s with
  | nil =>
      refine ⟨fun h => ⟨s, .nil s, h⟩, ?_⟩
      rintro ⟨s₁, hnil, h⟩
      cases hnil
      exact h
  | cons e es ih =>
      constructor
      · intro h
        cases h with
        | cons he hrest =>
            obtain ⟨s₁, hes, hfs⟩ := ih.mp hrest
            exact ⟨s₁, .cons he hes, hfs⟩
      · rintro ⟨s₁, hhappens, hfs⟩
        cases hhappens with
        | cons he hes => exact .cons he (ih.mpr ⟨s₁, hes, hfs⟩)

/-- One more event at the end. -/
lemma Happens.snoc {s₁ : σ} (h : Happens step s es s₁) (he : step s₁ e s') :
    Happens step s (es ++ [e]) s' := happens_append.mpr ⟨s₁, h, .cons he (.nil s')⟩

/-- An event moves behind events it swaps with. -/
lemma Happens.past (hswaps : ∀ f ∈ fs, Swaps step e f) (h : Happens step s (e :: fs) s') :
    Happens step s (fs ++ [e]) s' := by
  induction fs generalizing s with
  | nil => exact h
  | cons f fs ih =>
      cases h with
      | cons he hrest =>
          cases hrest with
          | cons hf hfs =>
              obtain ⟨s₂, hf', he'⟩ := hswaps f List.mem_cons_self _ _ _ he hf
              have hrest := ih (fun g hg => hswaps g (List.mem_cons_of_mem f hg)) (.cons he' hfs)
              exact .cons hf' hrest

/-- The events with a property move to the front, past the others. -/
lemma Happens.front (p : ε → Prop) [DecidablePred p]
    (hswaps : es.Pairwise fun e f => ¬ p e → p f → Swaps step e f) (h : Happens step s es s') :
    Happens step s (es.filter (fun e => p e) ++ es.filter fun e => ¬ p e) s' := by
  induction es generalizing s with
  | nil => exact h
  | cons e es ih =>
      obtain ⟨hnow, hlater⟩ := List.pairwise_cons.mp hswaps
      cases h with
      | cons he hrest =>
          by_cases hp : p e
          · simpa [hp] using Happens.cons he (ih hlater hrest)
          · have hmoved : Happens step s
                ((e :: es.filter fun e => p e) ++ es.filter fun e => ¬ p e) s' :=
              .cons he (ih hlater hrest)
            obtain ⟨s₁, hfront, hback⟩ := happens_append.mp hmoved
            have hpast : Happens step s (es.filter (fun e => p e) ++ [e]) s₁ := by
              refine hfront.past fun f hf => ?_
              obtain ⟨hmem, hpf⟩ := List.mem_filter.mp hf
              exact hnow f hmem hp (by simpa using hpf)
            have hall := happens_append.mpr ⟨s₁, hpast, hback⟩
            simpa [hp] using hall

/-- **Serial order**: let every event swap with a later one whose call comes earlier in
the order.  Then the events lead to the same state when they happen call by call. -/
theorem Happens.serial [DecidableEq ι] {call : ε → ι} {order : List ι} (hnodup : order.Nodup)
    (hcalls : ∀ e ∈ es, call e ∈ order)
    (hswaps : order.Pairwise fun i j => es.Pairwise fun e f =>
      call e = j → call f = i → Swaps step e f)
    (h : Happens step s es s') :
    Happens step s (order.flatMap fun i => es.filter fun e => call e = i) s' := by
  induction order generalizing s es with
  | nil =>
      obtain rfl : es = [] := List.eq_nil_iff_forall_not_mem.mpr fun e he => by
        simpa using hcalls e he
      exact h
  | cons i order ih =>
      obtain ⟨hnew, hnodup⟩ := List.nodup_cons.mp hnodup
      obtain ⟨hfirst, hothers⟩ := List.pairwise_cons.mp hswaps
      have hfront : es.Pairwise fun e f => ¬ call e = i → call f = i → Swaps step e f := by
        refine List.pairwise_iff_forall_sublist.mpr fun {e f} hsub hne hf => ?_
        have hmem : call e ∈ order :=
          (List.mem_cons.mp (hcalls e (hsub.subset (by simp)))).resolve_left hne
        exact List.pairwise_iff_forall_sublist.mp (hfirst (call e) hmem) hsub rfl hf
      obtain ⟨s₁, hhead, htail⟩ := happens_append.mp (h.front (fun e => call e = i) hfront)
      -- the calls that are left have their events among the events that are left
      have hrest : (order.flatMap fun j => (es.filter fun e => ¬ call e = i).filter
          fun e => call e = j) = order.flatMap fun j => es.filter fun e => call e = j := by
        refine List.flatMap_congr fun j hj => ?_
        rw [List.filter_filter]
        refine List.filter_congr fun e _ => ?_
        have hne : j ≠ i := fun heq => hnew (heq ▸ hj)
        by_cases hej : call e = j <;> simp [hej, hne]
      have hleft : ∀ e ∈ es.filter fun e => ¬ call e = i, call e ∈ order := by
        intro e he
        obtain ⟨hmem, hne⟩ := List.mem_filter.mp he
        exact (List.mem_cons.mp (hcalls e hmem)).resolve_left (by simpa using hne)
      have hserial := ih hnodup hleft
        (hothers.imp fun hpairs => hpairs.sublist List.filter_sublist) htail
      rw [hrest] at hserial
      rw [List.flatMap_cons]
      exact happens_append.mpr ⟨s₁, hhead, hserial⟩

end Happens

/-! ### Orders without contradictions -/

section Orders

variable {α : Type} {r : α → α → Prop} {l order : List α}

/-- A relation without cycles has an order of any list that it does not contradict. -/
lemma exists_order (h : ∀ a, ¬ Relation.TransGen r a a) (l : List α) :
    ∃ order : List α, order.Perm l ∧ order.Pairwise fun a b => ¬ r b a := by
  classical
  have hpartial : IsPartialOrder α (Relation.ReflTransGen r) :=
    { refl := fun a => .refl
      trans := fun a b c hab hbc => hab.trans hbc
      antisymm := fun a b hab hba => by
        rcases Relation.reflTransGen_iff_eq_or_transGen.mp hab with heq | htrans
        · exact heq.symm
        · exact absurd (htrans.trans_left hba) (h a) }
  obtain ⟨s, hs, hle⟩ := extend_partialOrder (Relation.ReflTransGen r)
  refine ⟨l.insertionSort s, l.perm_insertionSort s, ?_⟩
  refine (List.pairwise_insertionSort s l).imp fun {a b} hab => ?_
  intro hba
  refine h a ?_
  obtain rfl : a = b := hs.antisymm a b hab (hle b a (.single hba))
  exact .single hba

/-- In an order that a relation does not contradict, the relation only leads on. -/
lemma idxOf_lt_of_transGen [DecidableEq α] (hmem : ∀ a b, r a b → a ∈ order ∧ b ∈ order)
    (hirr : ∀ a, ¬ r a a) (horder : order.Pairwise fun a b => ¬ r b a) {a b : α}
    (h : Relation.TransGen r a b) : order.idxOf a < order.idxOf b := by
  have hstep {a b : α} (hab : r a b) : order.idxOf a < order.idxOf b := by
    obtain ⟨ha, hb⟩ := hmem a b hab
    have hia := List.idxOf_lt_length_of_mem ha
    have hib := List.idxOf_lt_length_of_mem hb
    rcases lt_trichotomy (order.idxOf a) (order.idxOf b) with hlt | heq | hgt
    · exact hlt
    · obtain rfl : a = b := (List.idxOf_inj ha).mp heq
      exact absurd hab (hirr a)
    · have hnot := List.pairwise_iff_getElem.mp horder _ _ hib hia hgt
      rw [List.getElem_idxOf hib, List.getElem_idxOf hia] at hnot
      exact absurd hab hnot
  induction h with
  | single hab => exact hstep hab
  | tail _ hbc ih => exact ih.trans (hstep hbc)

/-- Two elements of a list, one behind the other. -/
lemma pair_sublist_iff {a b : α} :
    [a, b].Sublist l ↔ ∃ i j : ℕ, i < j ∧ l[i]? = some a ∧ l[j]? = some b := by
  constructor
  · intro h
    obtain ⟨f, hf⟩ := List.sublist_iff_exists_orderEmbedding_getElem?_eq.mp h
    exact ⟨f 0, f 1, f.strictMono Nat.zero_lt_one, (hf 0).symm, (hf 1).symm⟩
  · rintro ⟨i, j, hij, hi, hj⟩
    have hfront : a ∈ l.take (i + 1) := by
      refine List.mem_of_getElem? (i := i) ?_
      rw [List.getElem?_take_of_lt (Nat.lt_succ_self i), hi]
    have hback : b ∈ l.drop (i + 1) := by
      refine List.mem_of_getElem? (i := j - (i + 1)) ?_
      rw [List.getElem?_drop, Nat.add_sub_cancel' hij, hj]
    have happend := (List.singleton_sublist.mpr hfront).append (List.singleton_sublist.mpr hback)
    rwa [List.take_append_drop] at happend

/-- **Orders and cycles**. -/
theorem exists_order_iff (hmem : ∀ a b, r a b → a ∈ l ∧ b ∈ l) (hirr : ∀ a, ¬ r a a) :
    (∃ order : List α, order.Perm l ∧ order.Pairwise fun a b => ¬ r b a)
      ↔ ∀ a, ¬ Relation.TransGen r a a := by
  classical
  refine ⟨?_, fun h => exists_order h l⟩
  rintro ⟨order, hperm, horder⟩ a ha
  have hmem' (a b : α) (hab : r a b) : a ∈ order ∧ b ∈ order :=
    (hmem a b hab).imp hperm.mem_iff.mpr hperm.mem_iff.mpr
  exact (idxOf_lt_of_transGen hmem' hirr horder ha).false

end Orders

/-! ### Programs and their events -/

namespace Prog

variable {S : Signature} {α β σ : Type}

/-- The program issues the commands of the events and is given their replies; `q` is
what is left of it. -/
inductive Follows : Prog S α → List ((c : S.Command) × S.Reply c) → Prog S α → Prop
  | refl (p : Prog S α) : Follows p [] p
  | ask {c : S.Command} {k : S.Reply c → Prog S α} {r : S.Reply c}
      {es : List ((c : S.Command) × S.Reply c)} {q : Prog S α} (h : Follows (k r) es q) :
      Follows (ask c k) (⟨c, r⟩ :: es) q

/-- One more command. -/
lemma Follows.snoc {p : Prog S α} {es : List ((c : S.Command) × S.Reply c)} {c : S.Command}
    {k : S.Reply c → Prog S α} (h : Follows p es (.ask c k)) (r : S.Reply c) :
    Follows p (es ++ [⟨c, r⟩]) (k r) := by
  generalize hq : Prog.ask c k = q at h
  induction h with
  | refl p =>
      subst hq
      exact .ask (.refl _)
  | ask h ih => exact .ask (ih hq)

/-- A program that has issued its last command. -/
lemma follows_ret_iff {a b : α} {es : List ((c : S.Command) × S.Reply c)} :
    Follows (.ret a) es (.ret b) ↔ es = [] ∧ a = b := by
  constructor
  · intro h
    cases h
    exact ⟨rfl, rfl⟩
  · rintro ⟨rfl, rfl⟩
    exact .refl _

/-- A program that has issued a command and has returned. -/
lemma follows_ask_iff {c : S.Command} {k : S.Reply c → Prog S α} {b : α}
    {es : List ((c : S.Command) × S.Reply c)} :
    Follows (.ask c k) es (.ret b)
      ↔ ∃ r later, es = ⟨c, r⟩ :: later ∧ Follows (k r) later (.ret b) := by
  constructor
  · intro h
    cases h with
    | ask h => exact ⟨_, _, rfl, h⟩
  · rintro ⟨r, later, rfl, h⟩
    exact .ask h

/-- A program run alone over the events it follows comes to what is left of it. -/
lemma Follows.run {exec : Semantics S σ} {p q : Prog S α}
    {es : List ((c : S.Command) × S.Reply c)} {s s' : σ} (h : Follows p es q)
    (hhappens : Happens (fun s e s' => exec e.1 s = (e.2, s')) s es s') :
    p.run exec s = q.run exec s' := by
  induction h generalizing s with
  | refl p =>
      cases hhappens
      rfl
  | ask h ih =>
      cases hhappens with
      | cons he hrest =>
          rw [run_ask, he]
          exact ih hrest

end Prog
