import LittleB.Pipeline.Reassembly

/-!
The decoder of `newPipeline` on streams with frames past the maximum.

* `Recovers`: such a frame costs one exception, and every other frame is delivered;
  no octets inside a frame are looked at as a length field;
* `DropsWhole`: the calls of `decode` at an oversized header that do no harm;
* `recovers_iff`: the decoder recovers exactly when all such calls are of this kind.

The decoder drops what it has of an oversized frame and forgets about the rest, and
an exception ends the loop of the read.
-/

namespace LittleB

open Framer

/-! ### What is fired -/

namespace Fired

variable {E : Type}

/-- The frames that are delivered. -/
def delivered (fired : List (Fired E)) : List E :=
  fired.filterMap fun
    | .read e => some e
    | .readException _ => none

/-- The exceptions that are fired. -/
def exceptions (fired : List (Fired E)) : List FrameException :=
  fired.filterMap fun
    | .read _ => none
    | .readException e => some e

@[simp] lemma delivered_append (fired fired' : List (Fired E)) :
    delivered (fired ++ fired') = delivered fired ++ delivered fired' := List.filterMap_append

@[simp] lemma exceptions_append (fired fired' : List (Fired E)) :
    exceptions (fired ++ fired') = exceptions fired ++ exceptions fired' := List.filterMap_append

@[simp] lemma delivered_map_read (es : List E) : delivered (es.map .read) = es := by
  rw [delivered, List.filterMap_map]
  exact List.filterMap_some

@[simp] lemma exceptions_map_read (es : List E) : exceptions (es.map .read) = [] := by
  rw [exceptions, List.filterMap_map]
  exact List.filterMap_eq_nil_iff.mpr fun _ _ => rfl

end Fired

/-! ### The reads of the server's connection -/

/-- The queues the server's decoder is called on, each with the reads still to
come. -/
abbrev serverConnectionCalls (fuel : ℕ) (reads : List SocketRead) (q : IOBufQueue) :
    List (IOBufQueue × List SocketRead) :=
  Connection.calls newPipeline.decoder.decode deliver fuel reads q

lemma serverConnectionCalls_cons {fuel : ℕ} {r : SocketRead} {q q' : IOBufQueue}
    {fired : List (Fired Bytes)} (h : serverRead fuel (q.push r.fresh r.bytes) = .ok (fired, q'))
    (rs : List SocketRead) :
    serverConnectionCalls fuel (r :: rs) q
      = (serverCalls fuel (q.push r.fresh r.bytes)).map (·, rs)
        ++ serverConnectionCalls fuel rs q' := by
  rw [serverConnectionCalls, Connection.calls]
  rw [show ByteToMessageDecoder.read newPipeline.decoder.decode deliver fuel _ = _ from h]

/-! ### Recovery -/

/-- The bodies within the maximum. -/
def withinMaximum (frames : List Bytes) : List Bytes :=
  frames.filter fun body => body.length + 2 ≤ 65536

/-- The bodies past the maximum. -/
def pastMaximum (frames : List Bytes) : List Bytes :=
  frames.filter fun body => 65536 < body.length + 2

/-- The reads that bring the frames `frames`, the last ones of the stream `all`, do
what a stream with oversized frames asks for. -/
structure Recovers (all frames : List Bytes) (fuel : ℕ) (reads : List SocketRead)
    (q : IOBufQueue) : Prop where
  /-- The bodies within the maximum are delivered, every other one costs one
  exception. -/
  fired : ∃ fired q', serverConnection fuel reads q = .ok (fired, q') ∧
    Fired.delivered fired = withinMaximum frames ∧
    (Fired.exceptions fired).length = (pastMaximum frames).length
  /-- Every length field that is looked at is one. -/
  atFrames : ∀ c ∈ serverConnectionCalls fuel reads q,
    2 ≤ c.1.flat.length → AtFrame all [] c.1 (received c.2)

/-- A call that meets an oversized header has the whole frame in the queue, and
unless nothing is behind the frame more is to be read; or it lacks one octet, which
is the last one of the stream. -/
def DropsWhole (q : IOBufQueue) (reads : List SocketRead) : Prop :=
  Oversized q.flat →
    (65537 ≤ q.flat.length ∧ (reads = [] → q.flat.length = 65537)) ∨
      (q.flat.length = 65536 ∧ (received reads).length = 1)

/-- Every frame is within the maximum or past it. -/
lemma eq_nil_of_within_past {frames : List Bytes} (hwithin : withinMaximum frames = [])
    (hpast : pastMaximum frames = []) : frames = [] := by
  rw [withinMaximum, List.filter_eq_nil_iff] at hwithin
  rw [pastMaximum, List.filter_eq_nil_iff] at hpast
  refine List.eq_nil_iff_forall_not_mem.mpr fun f hf => ?_
  have h1 := hwithin f hf
  have h2 := hpast f hf
  simp only [decide_eq_true_eq] at h1 h2
  omega

lemma withinMaximum_append (frames frames' : List Bytes) :
    withinMaximum (frames ++ frames') = withinMaximum frames ++ withinMaximum frames' :=
  List.filter_append _ _

lemma pastMaximum_append (frames frames' : List Bytes) :
    pastMaximum (frames ++ frames') = pastMaximum frames ++ pastMaximum frames' :=
  List.filter_append _ _

lemma withinMaximum_of_le {frames : List Bytes} (h : ∀ f ∈ frames, f.length ≤ 65534) :
    withinMaximum frames = frames ∧ pastMaximum frames = [] := by
  refine ⟨List.filter_eq_self.mpr fun f hf => ?_, List.filter_eq_nil_iff.mpr fun f hf => ?_⟩
  · have := h f hf
    simp only [decide_eq_true_eq]
    omega
  · have := h f hf
    simp only [decide_eq_true_eq]
    omega

lemma withinMaximum_of_lt {f : Bytes} (h : 65534 < f.length) :
    withinMaximum [f] = [] ∧ pastMaximum [f] = [f] := by
  have h1 : ¬ f.length + 2 ≤ 65536 := by omega
  have h2 : 65536 < f.length + 2 := by omega
  exact ⟨List.filter_cons_of_neg (by simpa using h1), List.filter_cons_of_pos (by simpa using h2)⟩

/-- The first read of a connection that recovers, and the others. -/
lemma recovers_cons {all done rest : List Bytes} {fuel : ℕ} {r : SocketRead}
    {rs : List SocketRead} {q q' : IOBufQueue} {fired : List (Fired Bytes)}
    (hread : serverRead fuel (q.push r.fresh r.bytes) = .ok (fired, q'))
    (hat : ∀ c ∈ serverCalls fuel (q.push r.fresh r.bytes), AtFrame all [] c (received rs))
    (hdelivered : Fired.delivered fired = withinMaximum done)
    (hexceptions : (Fired.exceptions fired).length = (pastMaximum done).length) :
    Recovers all (done ++ rest) fuel (r :: rs) q ↔ Recovers all rest fuel rs q' := by
  have hconn := serverConnection_cons hread rs
  have hcalls := serverConnectionCalls_cons hread rs
  have hpast : (pastMaximum (done ++ rest)).length
      = (pastMaximum done).length + (pastMaximum rest).length := by
    rw [pastMaximum_append, List.length_append]
  constructor
  · rintro ⟨⟨out, q'', hout, hd, he⟩, hall⟩
    refine ⟨?_, fun c hc => hall c (by rw [hcalls]; simp [hc])⟩
    rw [hconn] at hout
    cases hrest : serverConnection fuel rs q' with
    | error e => rw [hrest] at hout; cases hout
    | ok out' =>
        rw [hrest] at hout
        obtain ⟨rfl, rfl⟩ := Prod.mk.inj (Except.ok.inj hout)
        refine ⟨out'.1, out'.2, rfl, ?_, ?_⟩
        · rwa [Fired.delivered_append, hdelivered, withinMaximum_append,
            List.append_right_inj] at hd
        · rw [Fired.exceptions_append, List.length_append, hexceptions, hpast] at he
          omega
  · rintro ⟨⟨fired', q'', hrest, hd, he⟩, hall⟩
    refine ⟨⟨fired ++ fired', q'', by rw [hconn, hrest]; rfl, ?_, ?_⟩, fun c hc h2 => ?_⟩
    · rw [Fired.delivered_append, hdelivered, withinMaximum_append, hd]
    · rw [Fired.exceptions_append, List.length_append, hexceptions, hpast, he]
    · rw [hcalls, List.mem_append, List.mem_map] at hc
      rcases hc with ⟨c', hc', rfl⟩ | hc
      · exact hat c' hc'
      · exact hall c hc h2

/-- A read that ends waiting. -/
lemma recovers_cons_of_waits {all done rest : List Bytes} {fuel : ℕ} {r : SocketRead}
    {rs : List SocketRead} {q q' : IOBufQueue} (hdone : ∀ f ∈ done, f.length ≤ 65534)
    (hread : serverRead fuel (q.push r.fresh r.bytes) = .ok (done.map .read, q'))
    (hat : ∀ c ∈ serverCalls fuel (q.push r.fresh r.bytes), AtFrame all [] c (received rs)) :
    Recovers all (done ++ rest) fuel (r :: rs) q ↔ Recovers all rest fuel rs q' := by
  obtain ⟨hwithin, hpast⟩ := withinMaximum_of_le hdone
  refine recovers_cons hread hat ?_ ?_
  · rw [hwithin, Fired.delivered_map_read]
  · rw [hpast, Fired.exceptions_map_read]
    rfl

/-- A read that ends at an oversized header. -/
lemma recovers_cons_of_meets {all done rest : List Bytes} {f : Bytes} {fuel : ℕ} {r : SocketRead}
    {rs : List SocketRead} {q q' : IOBufQueue} (hdone : ∀ f ∈ done, f.length ≤ 65534)
    (hf : 65534 < f.length)
    (hread : serverRead fuel (q.push r.fresh r.bytes)
      = .ok (done.map .read ++ [.readException (.tooLarge 65536)], q'))
    (hat : ∀ c ∈ serverCalls fuel (q.push r.fresh r.bytes), AtFrame all [] c (received rs)) :
    Recovers all (done ++ f :: rest) fuel (r :: rs) q ↔ Recovers all rest fuel rs q' := by
  obtain ⟨hwithin, hpast⟩ := withinMaximum_of_le hdone
  obtain ⟨hwithin', hpast'⟩ := withinMaximum_of_lt hf
  rw [List.append_cons]
  refine recovers_cons hread hat ?_ ?_
  · rw [Fired.delivered_append, Fired.delivered_map_read, withinMaximum_append, hwithin, hwithin']
    rfl
  · rw [Fired.exceptions_append, Fired.exceptions_map_read, pastMaximum_append, hpast, hpast']
    rfl

/-! ### Out of step -/

/-- As long as there is no length field the decoder waits. -/
lemma serverRead_of_short (fuel : ℕ) {q : IOBufQueue} (h : q.flat.length < 2) :
    serverRead (fuel + 1) q = .ok ([], q) ∧ serverCalls (fuel + 1) q = [q] := by
  refine serverRead_of_step_none fuel ?_ fun ho => absurd ho.1 (by omega)
  rw [step_framer, if_pos h]

/-- When less than a length field is still to come, nothing is fired any more. -/
lemma connection_of_short {fuel : ℕ} (hfuel : 0 < fuel) (reads : List SocketRead) {q : IOBufQueue}
    (h : (q.flat ++ received reads).length < 2) :
    (∃ q', serverConnection fuel reads q = .ok ([], q')) ∧
      ∀ c ∈ serverConnectionCalls fuel reads q, c.1.flat.length < 2 := by
  obtain ⟨fuel, rfl⟩ := Nat.exists_eq_add_one.mpr hfuel
  induction reads generalizing q with
  | nil => exact ⟨⟨q, rfl⟩, fun c hc => nomatch hc⟩
  | cons r rs ih =>
      rw [received_cons, ← List.append_assoc, ← Rope.flat_push r.fresh] at h
      have hshort : (q.push r.fresh r.bytes).flat.length < 2 := by
        rw [List.length_append] at h
        omega
      obtain ⟨hread, hcalls⟩ := serverRead_of_short fuel hshort
      obtain ⟨⟨q', hrest⟩, hall⟩ := ih h
      refine ⟨⟨q', by rw [serverConnection_cons hread, hrest]; rfl⟩, fun c hc => ?_⟩
      rw [serverConnectionCalls_cons hread, hcalls, List.mem_append] at hc
      rcases hc with hc | hc
      · rw [List.map_singleton, List.mem_singleton] at hc
        rw [hc]
        exact hshort
      · exact hall c hc

/-- The first call of a read. -/
lemma mem_serverConnectionCalls {fuel : ℕ} (hfuel : 0 < fuel) (r : SocketRead)
    (rs : List SocketRead) (q : IOBufQueue) :
    (q.push r.fresh r.bytes, rs) ∈ serverConnectionCalls fuel (r :: rs) q := by
  obtain ⟨fuel, rfl⟩ := Nat.exists_eq_add_one.mpr hfuel
  rw [serverConnectionCalls, Connection.calls, ByteToMessageDecoder.calls]
  simp

/-- Otherwise the next two octets are looked at as a length field. -/
lemma exists_call_of_long {fuel : ℕ} (hfuel : 0 < fuel) (reads : List SocketRead) {q : IOBufQueue}
    (hq : q.flat.length < 2) (h : 2 ≤ (q.flat ++ received reads).length) :
    ∃ c ∈ serverConnectionCalls fuel reads q, 2 ≤ c.1.flat.length ∧
      c.1.flat ++ received c.2 = q.flat ++ received reads := by
  obtain ⟨fuel, rfl⟩ := Nat.exists_eq_add_one.mpr hfuel
  induction reads generalizing q with
  | nil =>
      rw [received_nil, List.append_nil] at h
      omega
  | cons r rs ih =>
      have hpush : (q.push r.fresh r.bytes).flat ++ received rs
          = q.flat ++ received (r :: rs) := by
        rw [Rope.flat_push, List.append_assoc, received_cons]
      by_cases hshort : (q.push r.fresh r.bytes).flat.length < 2
      · obtain ⟨hread, -⟩ := serverRead_of_short fuel hshort
        obtain ⟨c, hc, hlen, heq⟩ := ih hshort (by rw [hpush]; exact h)
        refine ⟨c, ?_, hlen, heq.trans hpush⟩
        rw [serverConnectionCalls_cons hread]
        exact List.mem_append_right _ hc
      · exact ⟨(q.push r.fresh r.bytes, rs), mem_serverConnectionCalls (Nat.succ_pos fuel) r rs q,
          Nat.le_of_not_lt hshort, hpush⟩

/-- No frame of a stream starts inside another one. -/
lemma le_length_of_suffix {all rest t : List Bytes} {f : Bytes} (hrest : f :: rest <:+ all)
    (ht : t <:+ all) (hlt : (rest.flatMap frame).length < (t.flatMap frame).length) :
    ((f :: rest).flatMap frame).length ≤ (t.flatMap frame).length := by
  have hmono : ∀ {s t : List Bytes}, s <:+ t →
      (s.flatMap frame).length ≤ (t.flatMap frame).length := by
    rintro s _ ⟨p, rfl⟩
    rw [List.flatMap_append, List.length_append]
    omega
  rcases List.suffix_or_suffix_of_suffix ht hrest with hinside | houtside
  · rcases List.suffix_cons_iff.mp hinside with rfl | hinside
    · exact le_rfl
    · have := hmono hinside
      omega
  · exact hmono houtside

/-- A stream that starts behind the header of a frame, inside the frame, is looked
at as if it started with a length field, as soon as it has two octets. -/
lemma not_recovers_inside {all rest : List Bytes} {f : Bytes} (hrest : f :: rest <:+ all)
    {fuel : ℕ} (hfuel : 0 < fuel) {reads : List SocketRead} {q : IOBufQueue} (hq : q.flat = [])
    (hlong : 2 ≤ (received reads).length)
    (hlow : (rest.flatMap frame).length < (received reads).length)
    (hhigh : (received reads).length < ((f :: rest).flatMap frame).length) (frames : List Bytes) :
    ¬ Recovers all frames fuel reads q := by
  intro hrecovers
  obtain ⟨c, hc, hlen, heq⟩ := exists_call_of_long hfuel reads (q := q) (by rw [hq]; simp)
    (by rwa [hq, List.nil_append])
  obtain ⟨t, ht, hframes⟩ := hrecovers.atFrames c hc hlen
  rw [heq, hq, List.nil_append, List.append_nil] at hframes
  have hle := le_length_of_suffix hrest ht (by rwa [← hframes])
  rw [← hframes] at hle
  omega

/-! ### The condition -/

/-- Frames take octets. -/
lemma eq_nil_of_flatMap_frame {frames : List Bytes} (h : (frames.flatMap frame).length = 0) :
    frames = [] := by
  cases frames with
  | nil => rfl
  | cons f rest =>
      rw [List.flatMap_cons, List.length_append, frame_length] at h
      omega

/-- Behind an oversized header: the rest of the frame is dropped, or it is taken for
frames. -/
lemma recovers_behind_header {all rest : List Bytes} {f : Bytes} (hsuf : f :: rest <:+ all)
    (hf : f.length = 65535) {fuel : ℕ} {rs : List SocketRead} {c : IOBufQueue}
    (hc : c.flat ++ received rs = frame f ++ rest.flatMap frame) (hover : Oversized c.flat)
    (hfuel : (rest.flatMap frame).length < fuel)
    (ih : ∀ {q : IOBufQueue}, q.flat ++ received rs = rest.flatMap frame →
      (rs = [] → rest = []) → (q.flat ++ received rs).length < fuel →
      (Recovers all rest fuel rs q ↔ ∀ c ∈ serverConnectionCalls fuel rs q, DropsWhole c.1 c.2)) :
    Recovers all rest fuel rs (c.drop 65537)
      ↔ DropsWhole c rs ∧
        ∀ c' ∈ serverConnectionCalls fuel rs (c.drop 65537), DropsWhole c'.1 c'.2 := by
  have hlength : c.flat.length + (received rs).length = 65537 + (rest.flatMap frame).length :=
    calc c.flat.length + (received rs).length
        = (frame f ++ rest.flatMap frame).length := by rw [← hc, List.length_append]
      _ = 65537 + (rest.flatMap frame).length := by rw [List.length_append, frame_length, hf]
  by_cases hwhole : 65537 ≤ c.flat.length
  · have hq : (c.drop 65537).flat ++ received rs = rest.flatMap frame :=
      calc (c.drop 65537).flat ++ received rs
          = (frame f ++ rest.flatMap frame).drop 65537 := by
            rw [← hc, Rope.flat_drop, List.drop_append_of_le_length hwhole]
        _ = rest.flatMap frame := List.drop_left' (by rw [frame_length, hf])
    by_cases hnil : rs = [] → rest = []
    · -- the next read goes on behind the frame
      rw [ih hq hnil (by rw [hq]; exact hfuel)]
      refine (and_iff_right fun _ => .inl ⟨hwhole, fun hrs => ?_⟩).symm
      rw [hrs, hnil hrs] at hlength
      simpa using hlength
    · -- there is no next read, and frames are left in the queue
      push Not at hnil
      obtain ⟨rfl, hne⟩ := hnil
      refine iff_of_false (fun hrecovers => ?_) fun h => ?_
      · obtain ⟨fired, q', hrun, hd, he⟩ := hrecovers.fired
        obtain ⟨rfl, -⟩ := Prod.mk.inj (Except.ok.inj hrun)
        exact hne (eq_nil_of_within_past hd.symm (List.length_eq_zero_iff.mp he.symm))
      · rcases h.1 hover with ⟨-, hlast⟩ | ⟨hshort, -⟩
        · have hall := hlast rfl
          rw [received_nil, List.length_nil] at hlength
          exact hne (eq_nil_of_flatMap_frame (by omega))
        · omega
  · have hq : (c.drop 65537).flat = [] := by
      rw [Rope.flat_drop, List.drop_of_length_le (by omega)]
    by_cases hone : (received rs).length = 1
    · -- the last octet of the frame ends the stream
      obtain ⟨⟨q', hrun⟩, hshort⟩ := connection_of_short (Nat.zero_lt_of_lt hfuel) rs
        (q := c.drop 65537) (by rw [hq, List.nil_append, hone]; norm_num)
      obtain rfl := (eq_nil_of_flatMap_frame (by omega) : rest = [])
      refine iff_of_true ⟨⟨[], q', hrun, rfl, rfl⟩, fun c' hc' h2 => ?_⟩
        ⟨fun _ => .inr ⟨by omega, hone⟩, fun c' hc' ho => ?_⟩
      · have := hshort c' hc'
        omega
      · have h2 := ho.1
        have := hshort c' hc'
        omega
    · -- what is left of the frame is taken for a frame
      refine iff_of_false (not_recovers_inside hsuf (Nat.zero_lt_of_lt hfuel) hq ?_ ?_ ?_ rest)
        fun h => ?_
      · omega
      · omega
      · rw [List.flatMap_cons, List.length_append, frame_length, hf]
        have := hover.1
        omega
      · rcases h.1 hover with ⟨h1, -⟩ | ⟨-, h1⟩
        · exact hwhole h1
        · exact hone h1

/-- Where only one call meets an oversized header, the condition is about that call. -/
lemma dropsWhole_calls_iff {calls : List IOBufQueue} {c : IOBufQueue} {rs : List SocketRead}
    (hmem : c ∈ calls) (hcalls : ∀ c' ∈ calls, Oversized c'.flat → c' = c) :
    (∀ c' ∈ calls, DropsWhole c' rs) ↔ DropsWhole c rs := by
  constructor
  · exact fun h => h c hmem
  · intro h c' hc' ho
    obtain rfl := hcalls c' hc' ho
    exact h ho

/-- The run from any point at which the queue stands at a frame. -/
lemma recovers_iff_from {all fs : List Bytes} (hsuf : fs <:+ all)
    (hall : ∀ f ∈ all, f.length < 65536) (reads : List SocketRead) {q : IOBufQueue}
    (hq : q.flat ++ received reads = fs.flatMap frame) (hnil : reads = [] → fs = []) {fuel : ℕ}
    (hfuel : (q.flat ++ received reads).length < fuel) :
    Recovers all fs fuel reads q
      ↔ ∀ c ∈ serverConnectionCalls fuel reads q, DropsWhole c.1 c.2 := by
  induction reads generalizing q fs with
  | nil =>
      obtain rfl := hnil rfl
      exact iff_of_true ⟨⟨[], q, rfl, rfl, rfl⟩, fun c hc => nomatch hc⟩ fun c hc => nomatch hc
  | cons r rs ih =>
      have hfit : ∀ f ∈ fs, f.length < 65536 := fun f hf => hall f (hsuf.mem hf)
      have hempty : framer.step [] = none := by
        rw [step_framer]
        rfl
      have hpush : (q.push r.fresh r.bytes).flat ++ received rs = fs.flatMap frame ++ [] := by
        rw [Rope.flat_push, List.append_assoc, ← received_cons, hq, List.append_nil]
      have hlen : (q.push r.fresh r.bytes).flat.length < fuel := by
        rw [received_cons, ← List.append_assoc, ← Rope.flat_push r.fresh,
          List.length_append] at hfuel
        omega
      obtain ⟨hat, hout⟩ := read_outcome hfit hempty (fun ho => absurd ho.1 (by simp)) hpush hlen
      have hatAll : ∀ c ∈ serverCalls fuel (q.push r.fresh r.bytes),
          AtFrame all [] c (received rs) := by
        intro c hc
        obtain ⟨t, ht, heq⟩ := hat c hc
        exact ⟨t, ht.trans hsuf, heq⟩
      rw [hq] at hfuel
      cases hout with
      | waits done rest q' hsplit hdone hread hq' hstep hcalls =>
          subst hsplit
          rw [List.append_nil] at hq'
          have hrest : Recovers all rest fuel rs q'
              ↔ ∀ c ∈ serverConnectionCalls fuel rs q', DropsWhole c.1 c.2 := by
            refine ih ((List.suffix_append done rest).trans hsuf) hq' (fun hrs => ?_) ?_
            · subst hrs
              rw [received_nil, List.append_nil] at hq'
              exact framer_encodes.sync_none (fun f hf => hfit f (by simp [hf]))
                (by rw [hq', List.append_nil]) hstep
            · rw [hq']
              rw [List.flatMap_append, List.length_append] at hfuel
              omega
          rw [recovers_cons_of_waits hdone hread hatAll, hrest, serverConnectionCalls_cons hread,
            List.forall_mem_append, List.forall_mem_map]
          exact (and_iff_right fun c hc ho => absurd ho (hcalls c hc)).symm
      | meets done f rest c hsplit hdone hf hread hc hlen2 hmem hcalls =>
          subst hsplit
          rw [List.append_nil] at hc
          have hflt : f.length < 65536 := hfit f (by simp)
          have hover : Oversized c.flat := (oversized_iff_of_append hflt hc).mpr ⟨hlen2, hf⟩
          have hsuf' : f :: rest <:+ all := (List.suffix_append done _).trans hsuf
          have hrest := recovers_behind_header hsuf' (by omega) hc hover
            (by
              rw [List.flatMap_append, List.flatMap_cons, List.length_append, List.length_append]
                at hfuel
              omega)
            (ih ((List.suffix_cons f rest).trans hsuf'))
          -- among the calls of this read only the last one meets an oversized header
          rw [recovers_cons_of_meets hdone hf hread hatAll, hrest, serverConnectionCalls_cons hread,
            List.forall_mem_append, List.forall_mem_map, dropsWhole_calls_iff hmem hcalls]

/-- **Recovery**: on a stream of frames, some of them past the maximum, the decoder
delivers exactly the others, in order, at the cost of one exception for each
oversized one and never out of step, exactly when at every oversized header it meets
it has the whole frame, and more to read unless nothing is behind the frame, or
lacks one octet and that is the last of the stream. -/
theorem recovers_iff (frames : List Bytes) (hframes : ∀ f ∈ frames, f.length < 65536)
    (reads : List SocketRead) (hreads : received reads = frames.flatMap frame) (fuel : ℕ)
    (hfuel : (received reads).length < fuel) :
    Recovers frames frames fuel reads Rope.empty
      ↔ ∀ c ∈ serverConnectionCalls fuel reads Rope.empty, DropsWhole c.1 c.2 := by
  have hempty : (Rope.empty : IOBufQueue).flat ++ received reads = received reads :=
    List.nil_append _
  refine recovers_iff_from List.suffix_rfl hframes reads (hempty.trans hreads) (fun hnone => ?_)
    (by rwa [hempty])
  rw [hnone, received_nil] at hreads
  exact eq_nil_of_flatMap_frame (by rw [← hreads]; rfl)

/-- An oversized body of zero octets. -/
def zeros : Bytes := List.replicate 65535 0

lemma zeros_length : zeros.length = 65535 := List.length_replicate

lemma frame_zeros : frame zeros = [255, 255] ++ zeros := by
  have hhead : Bytes.toLE 2 65535 = [255, 255] := by decide
  rw [frame, lengthPrefix, zeros_length, hhead]

/-- An oversized frame in one read, and a frame in the next. -/
theorem recovers_whole :
    (∀ f ∈ [zeros, [7]], f.length < 65536) ∧
    (Recovers [zeros, [7]] [zeros, [7]] 65541 [⟨true, frame zeros⟩, ⟨true, frame [7]⟩] Rope.empty
      ↔ ∀ c ∈ serverConnectionCalls 65541 [⟨true, frame zeros⟩, ⟨true, frame [7]⟩] Rope.empty,
          DropsWhole c.1 c.2) := by
  have hframes : ∀ f ∈ [zeros, [7]], f.length < 65536 := by simp [zeros_length]
  refine ⟨hframes, recovers_iff [zeros, [7]] hframes [⟨true, frame zeros⟩, ⟨true, frame [7]⟩] ?_
    65541 ?_⟩
  · simp [received]
  · simp [received, zeros_length]

/-- The header of an oversized frame arrives alone, and its zero octets are taken
for empty frames. -/
theorem recovers_cut_header :
    ¬ Recovers [zeros] [zeros] 65538 [⟨true, [255, 255]⟩, ⟨true, zeros⟩] Rope.empty := by
  intro hrecovers
  have hreceived : (Rope.empty : IOBufQueue).flat ++ received [⟨true, [255, 255]⟩, ⟨true, zeros⟩]
      = [zeros].flatMap frame := by simp [frame_zeros]
  have hlength : ([zeros].flatMap frame).length = 65537 := by
    rw [List.flatMap_singleton, frame_length, zeros_length]
  have hdrops := (recovers_iff_from List.suffix_rfl (by simp [zeros_length])
    [⟨true, [255, 255]⟩, ⟨true, zeros⟩] hreceived (by simp)
    (by rw [hreceived, hlength]; norm_num)).mp hrecovers
  have hcall := hdrops _ (mem_serverConnectionCalls (by norm_num) ⟨true, [255, 255]⟩
    [⟨true, zeros⟩] Rope.empty)
  have hflat : (Rope.empty.push true [255, 255] : IOBufQueue).flat = [255, 255] :=
    Rope.flat_push true _ _
  rw [DropsWhole, hflat] at hcall
  rcases hcall (by decide) with ⟨h, -⟩ | ⟨h, -⟩
  · exact absurd h (by simp)
  · exact absurd h (by simp)

end LittleB
