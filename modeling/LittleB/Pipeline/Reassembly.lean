import LittleB.Pipeline.Decoder

/-!
The decoder of `newPipeline` on a stream of frames, read by read.

* `deliver`: the next handler as far as the decoder is concerned, it takes the
  octets of the frame;
* `ReadOutcome`: how one read can end when the queue and what is still to come
  are a stream of frames: the decoder waits inside the stream, or it has met the
  header of an oversized frame; `read_outcome` is the step lemma, by induction on
  the calls of `decode`;
* `reassembly`: streams of frames within the maximum are cut into their bodies,
  whatever the reads.
-/

namespace LittleB

open Framer

/-- The next handler takes the octets of a frame. -/
def deliver (result : IOBuf) : Except Fault Bytes := .ok result.chain

/-- One read of the server's decoder. -/
abbrev serverRead (fuel : ℕ) (q : IOBufQueue) : Except Fault (List (Fired Bytes) × IOBufQueue) :=
  ByteToMessageDecoder.read newPipeline.decoder.decode deliver fuel q

/-- The queues the server's decoder is called on during one read. -/
abbrev serverCalls (fuel : ℕ) (q : IOBufQueue) : List IOBufQueue :=
  ByteToMessageDecoder.calls newPipeline.decoder.decode deliver fuel q

/-! ### The first call of a read -/

section FirstCall

variable {q : IOBufQueue}

lemma serverRead_of_oversized (fuel : ℕ) (h : Oversized q.flat) :
    serverRead (fuel + 1) q = .ok ([.readException (.tooLarge 65536)], q.drop 65537)
      ∧ serverCalls (fuel + 1) q = [q] := by
  rw [serverRead, serverCalls, ByteToMessageDecoder.read, ByteToMessageDecoder.calls,
    decode_of_oversized h]
  exact ⟨rfl, rfl⟩

lemma serverRead_of_step_none (fuel : ℕ) (hstep : framer.step q.flat = none)
    (h : ¬ Oversized q.flat) :
    serverRead (fuel + 1) q = .ok ([], q) ∧ serverCalls (fuel + 1) q = [q] := by
  rw [serverRead, serverCalls, ByteToMessageDecoder.read, ByteToMessageDecoder.calls,
    decode_of_step_none hstep h]
  exact ⟨rfl, rfl⟩

lemma serverRead_of_step_some (fuel : ℕ) {b r : Bytes} (hstep : framer.step q.flat = some (b, r))
    (h : ¬ Oversized q.flat) :
    ∃ q', q'.flat = r ∧
      (∀ fired q'', serverRead fuel q' = .ok (fired, q'') →
        serverRead (fuel + 1) q = .ok (.read b :: fired, q'')) ∧
      serverCalls (fuel + 1) q = q :: serverCalls fuel q' := by
  obtain ⟨result, q', hdec, hb, hr⟩ := decode_of_step_some hstep h
  refine ⟨q', hr, fun fired q'' hread => ?_, ?_⟩
  · rw [serverRead, ByteToMessageDecoder.read, hdec]
    simp only [bind, Except.bind, deliver, hb]
    rw [serverRead] at hread
    rw [hread]
    rfl
  · rw [serverCalls, ByteToMessageDecoder.calls, hdec]
    rfl

end FirstCall

/-! ### One read inside a stream of frames -/

/-- An oversized header stays one when more arrives. -/
lemma Oversized.append {bs : Bytes} (h : Oversized bs) (s : Bytes) : Oversized (bs ++ s) := by
  have htake : (bs ++ s).take 2 = bs.take 2 := List.take_append_of_le_length h.1
  refine ⟨?_, ?_⟩
  · rw [List.length_append]
    have := h.1
    omega
  · rw [lengthField, htake]
    exact h.2

/-- The queue `c` stands at the beginning of one of the frames `fs`, when `future`
is still to come and `tail` ends the stream. -/
def AtFrame (fs : List Bytes) (tail : Bytes) (c : IOBufQueue) (future : Bytes) : Prop :=
  ∃ t, t <:+ fs ∧ c.flat ++ future = t.flatMap frame ++ tail

/-- How a read ends that starts inside a stream of the frames `fs`. -/
inductive ReadOutcome (fuel : ℕ) (q : IOBufQueue) (fs : List Bytes) (tail future : Bytes) : Prop
  /-- The frames `done` are delivered and the decoder waits for more of `rest`. -/
  | waits (done rest : List Bytes) (q' : IOBufQueue) (hfs : fs = done ++ rest)
      (hdone : ∀ f ∈ done, f.length ≤ 65534)
      (hread : serverRead fuel q = .ok (done.map .read, q'))
      (hq' : q'.flat ++ future = rest.flatMap frame ++ tail)
      (hstep : framer.step q'.flat = none)
      (hcalls : ∀ c ∈ serverCalls fuel q, ¬ Oversized c.flat)
  /-- The frames `done` are delivered and on the queue `c` the decoder meets the
  header of `f`. -/
  | meets (done : List Bytes) (f : Bytes) (rest : List Bytes) (c : IOBufQueue)
      (hfs : fs = done ++ f :: rest) (hdone : ∀ f ∈ done, f.length ≤ 65534)
      (hf : 65534 < f.length)
      (hread : serverRead fuel q
        = .ok (done.map .read ++ [.readException (.tooLarge 65536)], c.drop 65537))
      (hc : c.flat ++ future = frame f ++ (rest.flatMap frame ++ tail))
      (hlen : 2 ≤ c.flat.length) (hmem : c ∈ serverCalls fuel q)
      (hcalls : ∀ c' ∈ serverCalls fuel q, Oversized c'.flat → c' = c)

/-- A read that delivers a frame ends as the rest of it does. -/
lemma ReadOutcome.cons {fuel : ℕ} {q q' : IOBufQueue} {b : Bytes} {fs : List Bytes}
    {tail future : Bytes} (hb : b.length ≤ 65534) (hover : ¬ Oversized q.flat)
    (hread : ∀ fired q'', serverRead fuel q' = .ok (fired, q'') →
      serverRead (fuel + 1) q = .ok (.read b :: fired, q''))
    (hcalls : serverCalls (fuel + 1) q = q :: serverCalls fuel q')
    (h : ReadOutcome fuel q' fs tail future) : ReadOutcome (fuel + 1) q (b :: fs) tail future := by
  cases h with
  | waits done rest q'' hfs hdone hread' hq'' hstep' hcalls' =>
      refine .waits (b :: done) rest q'' (by rw [hfs]; rfl) ?_ (hread _ _ hread') hq'' hstep' ?_
      · exact List.forall_mem_cons.mpr ⟨hb, hdone⟩
      · rw [hcalls]
        exact List.forall_mem_cons.mpr ⟨hover, hcalls'⟩
  | meets done f rest c hfs hdone hf hread' hc hlen hmem hcalls' =>
      refine .meets (b :: done) f rest c (by rw [hfs]; rfl) ?_ hf (hread _ _ hread') hc hlen ?_ ?_
      · exact List.forall_mem_cons.mpr ⟨hb, hdone⟩
      · rw [hcalls]
        exact List.mem_cons_of_mem q hmem
      · rw [hcalls]
        exact List.forall_mem_cons.mpr ⟨fun hover' => absurd hover' hover, hcalls'⟩

/-- **One read**: inside a stream of frames every call of `decode` stands at the
beginning of a frame, and the read ends in one of the two ways. -/
theorem read_outcome {fs : List Bytes} (hfs : ∀ f ∈ fs, f.length < 65536) {tail : Bytes}
    (ht : framer.step tail = none) (hto : ¬ Oversized tail) {q : IOBufQueue} {future : Bytes}
    (hq : q.flat ++ future = fs.flatMap frame ++ tail) {fuel : ℕ} (hfuel : q.flat.length < fuel) :
    (∀ c ∈ serverCalls fuel q, AtFrame fs tail c future) ∧ ReadOutcome fuel q fs tail future := by
  induction fuel generalizing q fs with
  | zero => omega
  | succ fuel ih =>
      by_cases hover : Oversized q.flat
      · obtain ⟨hread, hcalls⟩ := serverRead_of_oversized fuel hover
        cases fs with
        | nil =>
            rw [List.flatMap_nil, List.nil_append] at hq
            exact absurd (hq ▸ hover.append future) hto
        | cons f fs =>
            have hq' := hq
            rw [List.flatMap_cons, List.append_assoc] at hq'
            have hf := ((oversized_iff_of_append (hfs f (by simp)) hq').mp hover).2
            refine ⟨fun c hc => ?_, ?_⟩
            · rw [hcalls, List.mem_singleton] at hc
              exact ⟨f :: fs, List.suffix_rfl, by rw [hc, hq]⟩
            · exact .meets [] f fs q rfl (by simp) hf (by rw [hread]; rfl) hq' hover.1
                (by rw [hcalls]; simp) (fun c' hc' _ => by rwa [hcalls, List.mem_singleton] at hc')
      · cases hstep : framer.step q.flat with
        | none =>
            obtain ⟨hread, hcalls⟩ := serverRead_of_step_none fuel hstep hover
            refine ⟨fun c hc => ?_, ?_⟩
            · rw [hcalls, List.mem_singleton] at hc
              exact ⟨fs, List.suffix_rfl, by rw [hc, hq]⟩
            · exact .waits [] fs q rfl (by simp) (by rw [hread]; rfl) hq hstep
                (fun c hc => by rw [hcalls, List.mem_singleton] at hc; rwa [hc])
        | some p =>
            obtain ⟨b, r⟩ := p
            obtain ⟨fs', rfl, hr⟩ := framer_encodes.sync_step hfs ht hq hstep
            have hshrink := framer.shrinks hstep
            obtain ⟨q', hq', hread, hcalls⟩ := serverRead_of_step_some fuel hstep hover
            have hb : b.length ≤ 65534 := by
              rw [List.flatMap_cons, List.append_assoc] at hq
              rw [oversized_iff_of_append (hfs b (by simp)) hq] at hover
              have hlen : 2 ≤ q.flat.length := by
                by_contra hlt
                rw [step_framer, if_pos (by omega)] at hstep
                cases hstep
              omega
            have hfs' : ∀ f ∈ fs', f.length < 65536 := fun f hf => hfs f (by simp [hf])
            obtain ⟨hat, hout⟩ := ih hfs' (by rw [hq', hr]) (by rw [hq']; omega)
            refine ⟨fun c hc => ?_, ?_⟩
            · rw [hcalls, List.mem_cons] at hc
              rcases hc with rfl | hc
              · exact ⟨b :: fs', List.suffix_rfl, hq⟩
              · obtain ⟨t, hsuf, heq⟩ := hat c hc
                exact ⟨t, hsuf.trans (List.suffix_cons b fs'), heq⟩
            · exact hout.cons hb hover hread hcalls

/-! ### Streams within the maximum -/

/-- A read of the server's connection. -/
abbrev serverConnection (fuel : ℕ) (reads : List SocketRead) (q : IOBufQueue) :
    Except Fault (List (Fired Bytes) × IOBufQueue) :=
  Connection.read newPipeline.decoder.decode deliver fuel reads q

/-- A read that returns, then the others. -/
lemma serverConnection_cons {fuel : ℕ} {r : SocketRead} {q q' : IOBufQueue}
    {fired : List (Fired Bytes)} (h : serverRead fuel (q.push r.fresh r.bytes) = .ok (fired, q'))
    (rs : List SocketRead) :
    serverConnection fuel (r :: rs) q
      = (serverConnection fuel rs q').map fun out => (fired ++ out.1, out.2) := by
  rw [serverConnection, Connection.read]
  simp only [bind, Except.bind]
  rw [show ByteToMessageDecoder.read newPipeline.decoder.decode deliver fuel _ = _ from h]
  rfl

/-- The reads of a stream within the maximum, from any point inside it. -/
lemma connection_sync {fs : List Bytes} (hfs : ∀ f ∈ fs, f.length ≤ 65534) {tail : Bytes}
    (ht : framer.step tail = none) (hto : ¬ Oversized tail) (reads : List SocketRead)
    {q : IOBufQueue} (hwait : framer.step q.flat = none)
    (hq : q.flat ++ received reads = fs.flatMap frame ++ tail) {fuel : ℕ}
    (hfuel : (q.flat ++ received reads).length < fuel) :
    ∃ q', serverConnection fuel reads q = .ok (fs.map .read, q') ∧ q'.flat = tail := by
  have hfit : ∀ f ∈ fs, f.length < 65536 := fun f hf => by have := hfs f hf; omega
  induction reads generalizing q fs with
  | nil =>
      rw [received_nil, List.append_nil] at hq
      obtain rfl := framer_encodes.sync_none hfit hq hwait
      exact ⟨q, rfl, by simpa using hq⟩
  | cons r rs ih =>
      have hpush : (q.push r.fresh r.bytes).flat ++ received rs = fs.flatMap frame ++ tail := by
        rw [Rope.flat_push, List.append_assoc, ← received_cons, hq]
      rw [received_cons, ← List.append_assoc, ← Rope.flat_push r.fresh] at hfuel
      have hlen : (q.push r.fresh r.bytes).flat.length < fuel := by
        rw [List.length_append] at hfuel
        omega
      obtain ⟨-, hout⟩ := read_outcome hfit ht hto hpush hlen
      cases hout with
      | waits done rest q' hsplit hdone hread hq' hstep hcalls =>
          have hrest : ∀ f ∈ rest, f ∈ fs := fun f hf => by rw [hsplit]; simp [hf]
          have hshort : (q'.flat ++ received rs).length < fuel :=
            calc (q'.flat ++ received rs).length
                = (rest.flatMap frame ++ tail).length := by rw [hq']
              _ ≤ (fs.flatMap frame ++ tail).length := by
                rw [hsplit]
                simp
              _ < fuel := by rwa [← hpush]
          obtain ⟨q'', hread', htail⟩ := ih (fun f hf => hfs f (hrest f hf)) hstep hq' hshort
            (fun f hf => hfit f (hrest f hf))
          refine ⟨q'', ?_, htail⟩
          rw [serverConnection_cons hread, hread', hsplit, List.map_append]
          rfl
      | meets done f rest c hsplit hdone hf =>
          have := hfs f (by rw [hsplit]; simp)
          omega

/-- A proper beginning of a frame within the maximum holds no complete frame and
no oversized header. -/
lemma incomplete_of_prefix {last tail s : Bytes} (hlast : last.length ≤ 65534) (hs : s ≠ [])
    (htail : tail ++ s = frame last) : framer.step tail = none ∧ ¬ Oversized tail := by
  have hfit : last.length < 65536 := by omega
  refine ⟨framer_encodes.step_of_prefix hfit hs htail, ?_⟩
  have hhead : tail ++ s = frame last ++ [] := by rw [List.append_nil, htail]
  rw [oversized_iff_of_append hfit hhead]
  omega

/-- **Reassembly**: on a stream of frames within the maximum, followed by a proper
beginning of one more such frame, the decoder returns from every read, delivers
exactly the bodies, in order and each once, fires no exception, and leaves the
incomplete frame in the queue, however the stream is cut into reads. -/
theorem reassembly (bodies : List Bytes) (hbodies : ∀ b ∈ bodies, b.length ≤ 65534)
    (last tail s : Bytes) (hlast : last.length ≤ 65534) (hs : s ≠ [])
    (htail : tail ++ s = frame last) (reads : List SocketRead)
    (hreads : received reads = bodies.flatMap frame ++ tail) (fuel : ℕ)
    (hfuel : (received reads).length < fuel) :
    ∃ q, Connection.read newPipeline.decoder.decode deliver fuel reads Rope.empty
        = .ok (bodies.map .read, q) ∧ q.flat = tail := by
  obtain ⟨ht, hto⟩ := incomplete_of_prefix hlast hs htail
  have hempty : framer.step (Rope.empty : IOBufQueue).flat = none := by
    rw [step_framer]
    rfl
  exact connection_sync hbodies ht hto reads hempty hreads hfuel

/-- Two frames, the first one cut inside its length field and the second one behind it, and
the first octet of a third. -/
theorem reassembly_two_bodies :
    ∃ q, Connection.read newPipeline.decoder.decode deliver 9
        [⟨true, [1]⟩, ⟨false, [0, 5, 2, 0]⟩, ⟨true, [6, 7, 1]⟩] Rope.empty
      = .ok ([[5], [6, 7]].map .read, q) ∧ q.flat = [1] :=
  reassembly [[5], [6, 7]] (by simp) [8] [1] [0, 8] (by simp) (by simp) (by decide)
    [⟨true, [1]⟩, ⟨false, [0, 5, 2, 0]⟩, ⟨true, [6, 7, 1]⟩] (by decide) 9 (by decide)

end LittleB
