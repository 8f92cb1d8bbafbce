import LittleB.Foundations.Bytes

/-!
Incremental framing: cutting a stream that arrives in pieces into frames.

* `Framer`: one step takes a complete frame off the front of what has been
  buffered, or waits; a frame once complete stays the same when more arrives
  (`stable`), and taking it off shortens the buffer (`shrinks`);
* `Framer.drain`: the steps until the framer waits, `drain_append` when more arrives;
* `Framer.Encodes`: an encoder of frames the framer undoes; `drain_flatMap` reads
  back a concatenation of encoded frames with an incomplete one behind it,
  `step_of_prefix` says that a proper beginning of a frame is incomplete, and
  `sync_step` follows one step inside such a stream of which a part is still to
  come;
* `Framer.lengthPrefixed`: frames behind a little-endian length field, with a
  bound on the size of the whole frame.
-/

/-- A step that takes the first complete frame off a buffer. -/
structure Framer (α β : Type*) where
  step : List α → Option (β × List α)
  stable : ∀ {q : List α} {b : β} {r : List α} (s : List α),
    step q = some (b, r) → step (q ++ s) = some (b, r ++ s)
  shrinks : ∀ {q : List α} {b : β} {r : List α}, step q = some (b, r) → r.length < q.length

namespace Framer

variable {α β : Type*} (F : Framer α β)

/-! ### Draining a buffer -/

/-- Take frames off the buffer until no complete one is left. -/
def drain (q : List α) : List β × List α :=
  match _h : F.step q with
  | none => ([], q)
  | some (b, r) => (b :: (drain r).1, (drain r).2)
  termination_by q.length
  decreasing_by all_goals exact F.shrinks _h

lemma drain_of_none {q : List α} (h : F.step q = none) : F.drain q = ([], q) := by
  rw [drain]
  split
  · rfl
  · next b r hs => rw [hs] at h; cases h

lemma drain_of_some {q r : List α} {b : β} (h : F.step q = some (b, r)) :
    F.drain q = (b :: (F.drain r).1, (F.drain r).2) := by
  rw [drain]
  split
  · next hs => rw [hs] at h; cases h
  · next b' r' hs =>
    rw [hs] at h
    obtain ⟨rfl, rfl⟩ := Prod.mk.inj (Option.some.inj h)
    rfl

/-- A drained buffer waits. -/
lemma step_drain (q : List α) : F.step (F.drain q).2 = none := by
  induction q using drain.induct F with
  | case1 q h => rw [F.drain_of_none h, h]
  | case2 q b r h ih => rw [F.drain_of_some h, ih]

/-- **Arrivals**: what comes later is drained behind what was left. -/
theorem drain_append (q s : List α) :
    F.drain (q ++ s) = ((F.drain q).1 ++ (F.drain ((F.drain q).2 ++ s)).1,
      (F.drain ((F.drain q).2 ++ s)).2) := by
  induction q using drain.induct F with
  | case1 q h => rw [F.drain_of_none h, List.nil_append]
  | case2 q b r h ih => rw [F.drain_of_some (F.stable s h), F.drain_of_some h, ih, List.cons_append]

/-! ### Encoded frames -/

/-- The framer takes an encoded frame of the class `ok` off the front of any
buffer. -/
def Encodes (enc : β → List α) (ok : β → Prop) : Prop :=
  ∀ b, ok b → ∀ r, F.step (enc b ++ r) = some (b, r)

variable {F} {enc : β → List α} {ok : β → Prop}

/-- A proper beginning of an encoded frame is incomplete. -/
lemma Encodes.step_of_prefix (hE : F.Encodes enc ok) {b : β} (hb : ok b) {p s : List α}
    (hs : s ≠ []) (hp : p ++ s = enc b) : F.step p = none := by
  cases hstep : F.step p with
  | none => rfl
  | some x =>
      have h1 := F.stable s hstep
      have h2 := hE b hb []
      rw [List.append_nil, ← hp, h1] at h2
      have h3 : x.2 ++ s = [] := congrArg Prod.snd (Option.some.inj h2)
      exact absurd (List.append_eq_nil_iff.mp h3).2 hs

/-- **Reading back a stream**: encoded frames are drained in order, and what is
incomplete behind them is left. -/
theorem Encodes.drain_flatMap (hE : F.Encodes enc ok) {bs : List β} (hbs : ∀ b ∈ bs, ok b)
    {tail : List α} (ht : F.step tail = none) : F.drain (bs.flatMap enc ++ tail) = (bs, tail) := by
  induction bs with
  | nil => simpa using F.drain_of_none ht
  | cons b bs ih =>
      have hstep := hE b (hbs b (by simp)) (bs.flatMap enc ++ tail)
      rw [List.flatMap_cons, List.append_assoc, F.drain_of_some hstep,
        ih fun c hc => hbs c (by simp [hc])]

/-- **One step inside a stream**: when the buffer and what is still to come start
with an encoded frame, a frame that is taken off is this one. -/
lemma Encodes.head_step (hE : F.Encodes enc ok) {b b' : β} (hb : ok b) {q r future rest : List α}
    (hq : q ++ future = enc b ++ rest) (hstep : F.step q = some (b', r)) :
    b' = b ∧ r ++ future = rest := by
  have hwhole := F.stable future hstep
  rw [hq, hE b hb] at hwhole
  obtain ⟨hbb, hr⟩ := Prod.mk.inj (Option.some.inj hwhole)
  exact ⟨hbb.symm, hr.symm⟩

/-- The same inside a stream of encoded frames with an incomplete one behind it. -/
theorem Encodes.sync_step (hE : F.Encodes enc ok) {bs : List β} (hbs : ∀ b ∈ bs, ok b)
    {tail : List α} (ht : F.step tail = none) {q r future : List α} {b : β}
    (hq : q ++ future = bs.flatMap enc ++ tail) (hstep : F.step q = some (b, r)) :
    ∃ bs', bs = b :: bs' ∧ r ++ future = bs'.flatMap enc ++ tail := by
  cases bs with
  | nil =>
      have hwhole := F.stable future hstep
      rw [hq, List.flatMap_nil, List.nil_append, ht] at hwhole
      cases hwhole
  | cons c bs' =>
      rw [List.flatMap_cons, List.append_assoc] at hq
      obtain ⟨rfl, hr⟩ := hE.head_step (hbs c (by simp)) hq hstep
      exact ⟨bs', rfl, hr⟩

/-- When everything has come, a framer that waits has taken off every frame. -/
theorem Encodes.sync_none (hE : F.Encodes enc ok) {bs : List β} (hbs : ∀ b ∈ bs, ok b)
    {tail q : List α} (hq : q = bs.flatMap enc ++ tail) (hstep : F.step q = none) : bs = [] := by
  cases bs with
  | nil => rfl
  | cons c bs' =>
      rw [hq, List.flatMap_cons, List.append_assoc, hE c (hbs c (by simp))] at hstep
      cases hstep

/-! ### Length-prefixed frames -/

/-- Frames behind a little-endian length field of `k` octets, no frame with its
length field longer than `max`. -/
def lengthPrefixed (k max : ℕ) (hk : 0 < k) : Framer UInt8 Bytes where
  step q :=
    if q.length < k then none
    else if max < Bytes.ofLE (q.take k) + k then none
    else if q.length < Bytes.ofLE (q.take k) + k then none
    else some ((q.drop k).take (Bytes.ofLE (q.take k)), q.drop (Bytes.ofLE (q.take k) + k))
  stable := by
    intro q b r s h
    split_ifs at h with h1 h2 h3
    obtain ⟨rfl, rfl⟩ := Prod.mk.inj (Option.some.inj h)
    have htake : (q ++ s).take k = q.take k := List.take_append_of_le_length (by omega)
    have hdrop : (q ++ s).drop k = q.drop k ++ s := List.drop_append_of_le_length (by omega)
    have hlen : (q ++ s).length = q.length + s.length := List.length_append
    rw [htake, hdrop, if_neg (by omega), if_neg h2, if_neg (by omega),
      List.take_append_of_le_length (by rw [List.length_drop]; omega),
      List.drop_append_of_le_length (by omega)]
  shrinks := by
    intro q b r h
    split_ifs at h with h1 h2 h3
    obtain ⟨rfl, rfl⟩ := Prod.mk.inj (Option.some.inj h)
    rw [List.length_drop]
    omega

/-- A frame behind its length field. -/
def lengthPrefix (k : ℕ) (b : Bytes) : Bytes := Bytes.toLE k b.length ++ b

@[simp] lemma lengthPrefix_length (k : ℕ) (b : Bytes) :
    (lengthPrefix k b).length = k + b.length := by
  rw [lengthPrefix, List.length_append, Bytes.toLE_length]

/-- The length field of a frame whose length fits it. -/
lemma ofLE_take_lengthPrefix {k : ℕ} {b : Bytes} (hb : b.length < 256 ^ k) (r : Bytes) :
    Bytes.ofLE ((lengthPrefix k b ++ r).take k) = b.length := by
  have hlen : (Bytes.toLE k b.length).length = k := Bytes.toLE_length k b.length
  rw [lengthPrefix, List.append_assoc, List.take_append_of_le_length hlen.ge,
    List.take_of_length_le hlen.le, Bytes.ofLE_toLE hb]

/-- The framer undoes the length prefix of every frame within the bounds. -/
theorem encodes_lengthPrefix (k max : ℕ) (hk : 0 < k) :
    (lengthPrefixed k max hk).Encodes (lengthPrefix k)
      fun b => b.length < 256 ^ k ∧ b.length + k ≤ max := by
  rintro b ⟨hfit, hmax⟩ r
  have hlen : (Bytes.toLE k b.length).length = k := Bytes.toLE_length k b.length
  have hhead := ofLE_take_lengthPrefix hfit r
  have hall : (lengthPrefix k b ++ r).length = k + b.length + r.length := by
    rw [List.length_append, lengthPrefix_length]
  simp only [lengthPrefixed]
  rw [hhead, if_neg (by omega), if_neg (by omega), if_neg (by omega)]
  have hbody : (lengthPrefix k b ++ r).drop k = b ++ r := by
    rw [lengthPrefix, List.append_assoc]
    exact List.drop_left' hlen
  have hrest : (lengthPrefix k b ++ r).drop (b.length + k) = r :=
    List.drop_left' (by rw [lengthPrefix_length]; omega)
  rw [hbody, hrest, List.take_left' rfl]

end Framer
