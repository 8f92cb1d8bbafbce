import LittleB.Pipeline.Exchange
import LittleB.Pipeline.Recovery

/-!
The server from the octets of its sockets to the octets it writes, with any number of
connections whose reads come in any order.

* `Sockets`, `Sockets.read`: the queues of the connections and the server behind them; one
  more read of one socket, each frame being handled before the next one is cut off;
* `Sockets.cut`, `run_eq`: cutting and handling take turns, and may as well come one after
  the other;
* `Streaming`, `cut_sync`: what is cut off for each connection, whatever the others send in
  between;
* `run_simulates`: a run over sockets and a run of `Server` side by side;
* `server_over_sockets`: **octets in, octets out**: the requests of all connections are
  served in the order in which their frames are complete.
-/

namespace LittleB

open Framer

variable (env : Env) (codecs : Codecs) {Addr : Type} [DecidableEq Addr]

/-! ### Reads of sockets -/

/-- The connections with what they have not consumed, and the server behind them. -/
structure Sockets (Addr : Type) where
  queues : Addr → IOBufQueue
  backend : Backend Addr

namespace Sockets

/-- The server as it starts, over a store. -/
def start (redis : Redis) : Sockets Addr := ⟨fun _ => Rope.empty, .start redis⟩

/-- The loop of one read, with the pipeline behind the decoder: a frame goes all the way to
its service and back before `decode` is called again.  No handler does anything about an
exception. -/
def pump (addr : Addr) : ℕ → IOBufQueue → Backend Addr → Except Stop (IOBufQueue × Backend Addr)
  | 0, _, _ => .error (.inbound .diverges)
  | fuel + 1, q, B =>
      match newPipeline.decoder.decode q with
      | .error e => .error (.inbound e)
      | .ok .more => .ok (q, B)
      | .ok (.exception _ q') => .ok (q', B)
      | .ok (.frame result q') => do
          let B ← B.read env codecs (addr, result)
          pump addr fuel q' B

/-- One read of one socket. -/
def read (fuel : ℕ) (T : Sockets Addr) (input : Addr × SocketRead) :
    Except Stop (Sockets Addr) := do
  let (q, B) ← pump env codecs input.1 fuel
    ((T.queues input.1).push input.2.fresh input.2.bytes) T.backend
  return ⟨Function.update T.queues input.1 q, B⟩

/-- The reads of all sockets, one after the other. -/
def run (fuel : ℕ) : List (Addr × SocketRead) → Sockets Addr → Except Stop (Sockets Addr)
  | [], T => .ok T
  | input :: inputs, T => do
      let T ← T.read env codecs fuel input
      run fuel inputs T

/-! ### Cutting and handling -/

/-- The frames that the reads of all sockets are cut into, in the order in which they are
complete, and the queues behind them. -/
def cut (fuel : ℕ) : List (Addr × SocketRead) → (Addr → IOBufQueue) →
    Except Fault (List (Addr × IOBuf) × (Addr → IOBufQueue))
  | [], queues => .ok ([], queues)
  | (addr, r) :: inputs, queues => do
      let (fired, q) ← ByteToMessageDecoder.read newPipeline.decoder.decode .ok fuel
        ((queues addr).push r.fresh r.bytes)
      let (frames, queues) ← cut fuel inputs (Function.update queues addr q)
      return ((Fired.delivered fired).map (addr, ·) ++ frames, queues)

/-- The frames of the reads of all sockets. -/
def arrivals (fuel : ℕ) (inputs : List (Addr × SocketRead)) : List (Addr × IOBuf) :=
  match cut fuel inputs fun _ => Rope.empty with
  | .ok out => out.1
  | .error _ => []

/-- The reads of one socket. -/
def readsOf (addr : Addr) (inputs : List (Addr × SocketRead)) : List SocketRead :=
  (inputs.filter fun input => input.1 = addr).map Prod.snd

lemma readsOf_cons_self (addr : Addr) (r : SocketRead) (inputs : List (Addr × SocketRead)) :
    readsOf addr ((addr, r) :: inputs) = r :: readsOf addr inputs := by
  rw [readsOf, List.filter_cons_of_pos (by simp), List.map_cons, readsOf]

lemma readsOf_cons_of_ne {addr a : Addr} (h : a ≠ addr) (r : SocketRead)
    (inputs : List (Addr × SocketRead)) :
    readsOf a ((addr, r) :: inputs) = readsOf a inputs := by
  rw [readsOf, List.filter_cons_of_neg (by simpa using h.symm), readsOf]

end Sockets

/-- Frames behind others. -/
lemma Backend.readAll_append (front back : List (Addr × IOBuf)) (B : Backend Addr) :
    Backend.readAll env codecs (front ++ back) B
      = (Backend.readAll env codecs front B >>= Backend.readAll env codecs back) := by
  induction front generalizing B with
  | nil => rfl
  | cons input front ih =>
      rw [List.cons_append, Backend.readAll, Backend.readAll, bind_assoc]
      exact congrArg _ (funext fun B => ih B)

namespace Sockets

/-- One read: the frames are cut off, and handled. -/
lemma pump_eq {addr : Addr} {fuel : ℕ} {q q' : IOBufQueue} {fired : List (Fired IOBuf)}
    (h : ByteToMessageDecoder.read newPipeline.decoder.decode .ok fuel q = .ok (fired, q'))
    (B : Backend Addr) :
    pump env codecs addr fuel q B
      = (Backend.readAll env codecs ((Fired.delivered fired).map (addr, ·)) B).map (q', ·) := by
  induction fuel generalizing q fired B with
  | zero => cases h
  | succ fuel ih =>
      rw [ByteToMessageDecoder.read] at h
      rw [pump]
      cases hdecode : newPipeline.decoder.decode q with
      | error e =>
          rw [hdecode] at h
          cases h
      | ok decoded =>
          rw [hdecode] at h
          cases decoded with
          | more =>
              obtain ⟨rfl, rfl⟩ := Prod.mk.inj (Except.ok.inj h)
              rfl
          | exception e q₁ =>
              obtain ⟨rfl, rfl⟩ := Prod.mk.inj (Except.ok.inj h)
              rfl
          | frame result q₁ =>
              cases hrest : ByteToMessageDecoder.read newPipeline.decoder.decode .ok fuel q₁ with
              | error e => simp [bind, Except.bind, hrest] at h
              | ok out =>
                  simp only [bind, Except.bind, hrest] at h
                  obtain ⟨rfl, rfl⟩ := Prod.mk.inj (Except.ok.inj h)
                  change (B.read env codecs (addr, result) >>= pump env codecs addr fuel q₁)
                    = (B.read env codecs (addr, result) >>= Backend.readAll env codecs
                      ((Fired.delivered out.1).map (addr, ·))).map (out.2, ·)
                  cases B.read env codecs (addr, result) with
                  | error e => rfl
                  | ok B => exact ih hrest B

/-- **The reads of all sockets**: cutting and handling may as well come one after the other. -/
lemma run_eq {fuel : ℕ} {inputs : List (Addr × SocketRead)} {queues queues' : Addr → IOBufQueue}
    {frames : List (Addr × IOBuf)} (h : cut fuel inputs queues = .ok (frames, queues'))
    (B : Backend Addr) :
    run env codecs fuel inputs ⟨queues, B⟩
      = (Backend.readAll env codecs frames B).map fun B => ⟨queues', B⟩ := by
  induction inputs generalizing queues frames B with
  | nil =>
      obtain ⟨rfl, rfl⟩ := Prod.mk.inj (Except.ok.inj h)
      rfl
  | cons input inputs ih =>
      obtain ⟨addr, r⟩ := input
      rw [cut] at h
      cases hread : ByteToMessageDecoder.read newPipeline.decoder.decode .ok fuel
          ((queues addr).push r.fresh r.bytes) with
      | error e => simp [bind, Except.bind, hread] at h
      | ok out =>
          cases hcut : cut fuel inputs (Function.update queues addr out.2) with
          | error e => simp [bind, Except.bind, hread, hcut] at h
          | ok later =>
              simp only [bind, Except.bind, hread, hcut] at h
              obtain ⟨rfl, rfl⟩ := Prod.mk.inj (Except.ok.inj h)
              rw [run, read, Backend.readAll_append]
              simp only [pump_eq env codecs hread]
              cases Backend.readAll env codecs ((Fired.delivered out.1).map (addr, ·)) B with
              | error e => rfl
              | ok B => exact ih hcut B

/-! ### What is cut off for each connection -/

/-- The frames of one read, with the segments they have come in. -/
lemma read_frames {fuel : ℕ} {q q' : IOBufQueue} {done : List Bytes}
    (h : serverRead fuel q = .ok (done.map .read, q')) :
    ∃ bufs : List IOBuf, ByteToMessageDecoder.read newPipeline.decoder.decode .ok fuel q
        = .ok (bufs.map .read, q') ∧ bufs.map IOBuf.chain = done := by
  induction fuel generalizing q done with
  | zero => cases h
  | succ fuel ih =>
      rw [serverRead, ByteToMessageDecoder.read] at h
      rw [ByteToMessageDecoder.read]
      cases hdecode : newPipeline.decoder.decode q with
      | error e =>
          rw [hdecode] at h
          cases h
      | ok decoded =>
          rw [hdecode] at h
          cases decoded with
          | more =>
              obtain ⟨hdone, rfl⟩ := Prod.mk.inj (Except.ok.inj h)
              obtain rfl := List.map_eq_nil_iff.mp hdone.symm
              exact ⟨[], rfl, rfl⟩
          | exception e q₁ =>
              obtain ⟨hdone, -⟩ := Prod.mk.inj (Except.ok.inj h)
              cases done with
              | nil => cases hdone
              | cons b done => cases (List.cons.inj hdone).1
          | frame result q₁ =>
              cases hrest : serverRead fuel q₁ with
              | error e =>
                  rw [serverRead] at hrest
                  simp [bind, Except.bind, deliver, hrest] at h
              | ok out =>
                  obtain ⟨fired, q₂⟩ := out
                  have hrest' := hrest
                  rw [serverRead] at hrest'
                  simp only [bind, Except.bind, deliver, hrest'] at h
                  obtain ⟨hdone, rfl⟩ := Prod.mk.inj (Except.ok.inj h)
                  cases done with
                  | nil => cases hdone
                  | cons b done =>
                      obtain ⟨hb, hfired⟩ := List.cons.inj hdone
                      rw [hfired] at hrest
                      obtain ⟨bufs, hread, hbufs⟩ := ih hrest
                      refine ⟨result :: bufs, ?_, ?_⟩
                      · simp only [bind, Except.bind, hread]
                        rfl
                      · rw [List.map_cons, hbufs, Fired.read.inj hb]

/-- What each connection has still to send, behind what waits in its queue, are frames of these
bodies, within the maximum, and an incomplete one. -/
structure Streaming (fuel : ℕ) (tail : Addr → Bytes) (inputs : List (Addr × SocketRead))
    (queues : Addr → IOBufQueue) (bodies : Addr → List Bytes) : Prop where
  short : ∀ addr, ∀ b ∈ bodies addr, b.length ≤ 65534
  incomplete : ∀ addr, framer.step (tail addr) = none ∧ ¬ Oversized (tail addr)
  waits : ∀ addr, framer.step (queues addr).flat = none
  streams : ∀ addr, (queues addr).flat ++ received (readsOf addr inputs)
    = (bodies addr).flatMap frame ++ tail addr
  enough : ∀ addr, ((queues addr).flat ++ received (readsOf addr inputs)).length < fuel

namespace Streaming

variable {fuel : ℕ} {tail : Addr → Bytes} {inputs : List (Addr × SocketRead)}
  {queues : Addr → IOBufQueue} {bodies : Addr → List Bytes}

lemma fits (h : Streaming fuel tail inputs queues bodies) (addr : Addr) :
    ∀ b ∈ bodies addr, b.length < 65536 := by
  intro b hb
  have hshort := h.short addr b hb
  omega

/-- What the connections have behind their last read. -/
lemma behind (h : Streaming fuel tail [] queues bodies) (addr : Addr) :
    bodies addr = [] ∧ (queues addr).flat = tail addr := by
  have hqueue := h.streams addr
  change (queues addr).flat ++ [] = _ at hqueue
  rw [List.append_nil] at hqueue
  have hnil := framer_encodes.sync_none (h.fits addr) hqueue (h.waits addr)
  rw [hnil] at hqueue
  exact ⟨hnil, hqueue⟩

/-- One connection goes on, the others being where they were. -/
lemma update {addr : Addr} {r : SocketRead} {q' : IOBufQueue} {rest : List Bytes}
    (h : Streaming fuel tail ((addr, r) :: inputs) queues bodies)
    (hrest : ∀ b ∈ rest, b ∈ bodies addr) (hstep : framer.step q'.flat = none)
    (hq' : q'.flat ++ received (readsOf addr inputs) = rest.flatMap frame ++ tail addr)
    (hlong : (q'.flat ++ received (readsOf addr inputs)).length < fuel) :
    Streaming fuel tail inputs (Function.update queues addr q')
      (Function.update bodies addr rest) := by
  have hqueue (a : Addr) : Function.update queues addr q' a
      = if a = addr then q' else queues a := Function.update_apply ..
  have hleft (a : Addr) : Function.update bodies addr rest a
      = if a = addr then rest else bodies a := Function.update_apply ..
  constructor
  case short =>
    intro a b hb
    rw [hleft] at hb
    split_ifs at hb with ha
    · exact h.short addr b (hrest b hb)
    · exact h.short a b hb
  case incomplete => exact h.incomplete
  case waits =>
    intro a
    rw [hqueue]
    split_ifs with ha
    · exact hstep
    · exact h.waits a
  case streams =>
    intro a
    rw [hqueue, hleft]
    split_ifs with ha
    · rw [ha, hq']
    · rw [← h.streams a, readsOf_cons_of_ne ha]
  case enough =>
    intro a
    rw [hqueue]
    split_ifs with ha
    · rwa [ha]
    · have hother := h.enough a
      rwa [readsOf_cons_of_ne ha] at hother

/-- **The step**: a read cuts off frames of its connection, in their order. -/
lemma read {addr : Addr} {r : SocketRead}
    (h : Streaming fuel tail ((addr, r) :: inputs) queues bodies) :
    ∃ (bufs : List IOBuf) (rest : List Bytes) (q' : IOBufQueue),
      bodies addr = bufs.map IOBuf.chain ++ rest ∧
      ByteToMessageDecoder.read newPipeline.decoder.decode .ok fuel
        ((queues addr).push r.fresh r.bytes) = .ok (bufs.map .read, q') ∧
      Streaming fuel tail inputs (Function.update queues addr q')
        (Function.update bodies addr rest) := by
  have hpush : ((queues addr).push r.fresh r.bytes).flat ++ received (readsOf addr inputs)
      = (bodies addr).flatMap frame ++ tail addr := by
    rw [Rope.flat_push, List.append_assoc, ← received_cons, ← readsOf_cons_self, h.streams addr]
  have hlong := h.enough addr
  rw [readsOf_cons_self, received_cons, ← List.append_assoc, ← Rope.flat_push r.fresh] at hlong
  have hnow : ((queues addr).push r.fresh r.bytes).flat.length < fuel := by
    rw [List.length_append] at hlong
    omega
  obtain ⟨-, hout⟩ := read_outcome (h.fits addr) (h.incomplete addr).1 (h.incomplete addr).2
    hpush hnow
  cases hout with
  | meets done f rest c hsplit hdone hf =>
      have hshort := h.short addr f (by rw [hsplit]; simp)
      omega
  | waits done rest q' hsplit hdone hread hq' hstep hcalls =>
      obtain ⟨bufs, hbufs, hchains⟩ := read_frames hread
      rw [← hchains] at hsplit
      refine ⟨bufs, rest, q', hsplit, hbufs, h.update (fun b hb => ?_) hstep hq' ?_⟩
      · rw [hsplit]
        exact List.mem_append_right _ hb
      · rw [hpush, hsplit, List.flatMap_append, List.append_assoc, List.length_append] at hlong
        rw [hq']
        omega

end Streaming

/-- **The connections**: the frames that are cut off for a connection are those it sends, in
their order, whatever the other connections send in between. -/
lemma cut_sync {fuel : ℕ} {tail : Addr → Bytes} {inputs : List (Addr × SocketRead)}
    {queues : Addr → IOBufQueue} {bodies : Addr → List Bytes}
    (h : Streaming fuel tail inputs queues bodies) :
    ∃ frames queues', cut fuel inputs queues = .ok (frames, queues') ∧
      ∀ addr, (frames.filter fun f => f.1 = addr).map (fun f => f.2.chain) = bodies addr ∧
        (queues' addr).flat = tail addr := by
  induction inputs generalizing queues bodies with
  | nil =>
      refine ⟨[], queues, rfl, fun addr => ?_⟩
      rw [(h.behind addr).1]
      exact ⟨rfl, (h.behind addr).2⟩
  | cons input inputs ih =>
      obtain ⟨addr, r⟩ := input
      obtain ⟨bufs, rest, q', hsplit, hread, hlater⟩ := h.read
      obtain ⟨frames, queues', hcut, hframes⟩ := ih hlater
      refine ⟨bufs.map (addr, ·) ++ frames, queues', ?_, fun a => ?_⟩
      · rw [cut, hread]
        simp only [bind, Except.bind, hcut, Fired.delivered_map_read]
        rfl
      · refine ⟨?_, (hframes a).2⟩
        rw [List.filter_append, List.map_append, (hframes a).1]
        by_cases ha : a = addr
        · rw [ha, Function.update_self, List.filter_eq_self.mpr (by simp), List.map_map, hsplit]
          rfl
        · rw [Function.update_of_ne ha,
            List.filter_eq_nil_iff.mpr (by simpa using fun _ _ => Ne.symm ha)]
          rfl

/-! ### Segments -/

/-- A contiguous queue is cut into frames of one segment, and stays contiguous. -/
lemma read_contiguous {fuel : ℕ} {q q' : IOBufQueue} {fired : List (Fired IOBuf)}
    (h : ByteToMessageDecoder.read newPipeline.decoder.decode .ok fuel q = .ok (fired, q'))
    (hq : q.Contiguous) : q'.Contiguous ∧ ∀ f ∈ Fired.delivered fired, f.next = [] := by
  induction fuel generalizing q fired with
  | zero => cases h
  | succ fuel ih =>
      rw [ByteToMessageDecoder.read, decode_server] at h
      split_ifs at h with h1 h2 h3
      · obtain ⟨rfl, rfl⟩ := Prod.mk.inj (Except.ok.inj h)
        exact ⟨hq, fun f hf => absurd hf List.not_mem_nil⟩
      · obtain ⟨rfl, rfl⟩ := Prod.mk.inj (Except.ok.inj h)
        exact ⟨hq.drop _, fun f hf => absurd hf List.not_mem_nil⟩
      · obtain ⟨rfl, rfl⟩ := Prod.mk.inj (Except.ok.inj h)
        exact ⟨hq, fun f hf => absurd hf List.not_mem_nil⟩
      · cases hrest : ByteToMessageDecoder.read newPipeline.decoder.decode .ok fuel
            ((q.drop 2).drop (lengthField q.flat)) with
        | error e => simp [bind, Except.bind, hrest] at h
        | ok out =>
            simp only [bind, Except.bind, hrest] at h
            obtain ⟨rfl, rfl⟩ := Prod.mk.inj (Except.ok.inj h)
            obtain ⟨hleft, hothers⟩ := ih hrest ((hq.drop 2).drop _)
            refine ⟨hleft, fun f hf => ?_⟩
            rcases List.mem_cons.mp hf with rfl | hf
            · exact ((hq.drop 2).take _).tail_eq
            · exact hothers f hf

/-- Reads that all go into the room behind the last one leave every frame in one segment. -/
lemma arrivals_contiguous {fuel : ℕ} {inputs : List (Addr × SocketRead)}
    (h : ∀ input ∈ inputs, input.2.fresh = false) : ∀ f ∈ arrivals fuel inputs, f.2.next = [] := by
  have hcut : ∀ {queues queues' : Addr → IOBufQueue} {frames : List (Addr × IOBuf)},
      (∀ addr, (queues addr).Contiguous) → cut fuel inputs queues = .ok (frames, queues') →
      ∀ f ∈ frames, f.2.next = [] := by
    induction inputs with
    | nil =>
        intro queues queues' frames _ hframes
        obtain ⟨rfl, -⟩ := Prod.mk.inj (Except.ok.inj hframes)
        exact fun f hf => absurd hf List.not_mem_nil
    | cons input inputs ih =>
        intro queues queues' frames hqueues hframes
        obtain ⟨addr, fresh, bytes⟩ := input
        obtain rfl : fresh = false := h _ List.mem_cons_self
        rw [cut] at hframes
        cases hread : ByteToMessageDecoder.read newPipeline.decoder.decode .ok fuel
            ((queues addr).push false bytes) with
        | error e => simp [bind, Except.bind, hread] at hframes
        | ok out =>
            cases hlater : cut fuel inputs (Function.update queues addr out.2) with
            | error e => simp [bind, Except.bind, hread, hlater] at hframes
            | ok later =>
                simp only [bind, Except.bind, hread, hlater] at hframes
                obtain ⟨rfl, rfl⟩ := Prod.mk.inj (Except.ok.inj hframes)
                obtain ⟨hleft, hnow⟩ := read_contiguous hread ((hqueues addr).push bytes)
                have hqueues' : ∀ a, (Function.update queues addr out.2 a).Contiguous := by
                  intro a
                  rw [Function.update_apply]
                  split_ifs
                  · exact hleft
                  · exact hqueues a
                have hothers := ih (fun input hinput => h input (List.mem_cons_of_mem _ hinput))
                  hqueues' hlater
                intro f hf
                rcases List.mem_append.mp hf with hf | hf
                · obtain ⟨buf, hbuf, rfl⟩ := List.mem_map.mp hf
                  exact hnow buf hbuf
                · exact hothers f hf
  rw [arrivals]
  cases hframes : cut fuel inputs fun _ => Rope.empty with
  | error e => exact fun f hf => absurd hf List.not_mem_nil
  | ok out => exact hcut (fun _ => Rope.contiguous_empty) hframes

end Sockets

/-- **The run**: streams of frames of 2 to 65534 octets, no frame being cut into segments, are
cut into the frames that the connections have sent, which are read as the typed server does,
and the beginnings behind them wait. -/
lemma Sockets.run_simulates {inputs : List (Addr × SocketRead)} (redis : Redis)
    {bodies : Addr → List Bytes} {tail : Addr → Bytes} {fuel : ℕ}
    (hbodies : ∀ addr, ∀ b ∈ bodies addr, 2 ≤ b.length ∧ b.length ≤ 65534)
    (htail : ∀ addr, ∃ last s : Bytes, last.length ≤ 65534 ∧ s ≠ [] ∧ tail addr ++ s = frame last)
    (hstreams : ∀ addr, received (Sockets.readsOf addr inputs)
      = (bodies addr).flatMap frame ++ tail addr)
    (hfuel : ∀ addr, (received (Sockets.readsOf addr inputs)).length < fuel)
    (hwhole : ∀ f ∈ Sockets.arrivals fuel inputs, f.2.next = []) :
    let frames := (Sockets.arrivals fuel inputs).map fun f => (f.1, f.2.chain)
    (∀ addr, (frames.filter fun f => f.1 = addr).map Prod.snd = bodies addr) ∧
      ((∀ e ∈ (Server.run env (requestsOf codecs frames) (.start redis)).log,
          (e.2.2.message codecs).SerializeToArray.length ≤ 65533) →
        ∃ T, Sockets.run env codecs fuel inputs (.start redis) = .ok T ∧
          T.backend.Simulates codecs (Server.run env (requestsOf codecs frames) (.start redis)) ∧
          ∀ addr, (T.queues addr).flat = tail addr) := by
  have hincomplete : ∀ addr, framer.step (tail addr) = none ∧ ¬ Oversized (tail addr) := by
    intro addr
    obtain ⟨last, s, hlast, hs, heq⟩ := htail addr
    exact incomplete_of_prefix hlast hs heq
  have hempty : framer.step (Rope.empty : IOBufQueue).flat = none := by
    rw [step_framer]
    rfl
  have hstreaming : Sockets.Streaming fuel tail inputs (fun _ => Rope.empty) bodies :=
    ⟨fun addr b hb => (hbodies addr b hb).2, hincomplete, fun _ => hempty, hstreams, hfuel⟩
  obtain ⟨cutOff, queues, hcut, hframes⟩ := Sockets.cut_sync hstreaming
  have harrivals : Sockets.arrivals fuel inputs = cutOff := by rw [Sockets.arrivals, hcut]
  rw [harrivals] at hwhole ⊢
  have hfilter (addr : Addr) : ((cutOff.map fun f => (f.1, f.2.chain)).filter
      fun f => f.1 = addr).map Prod.snd = bodies addr := by
    rw [List.filter_map, List.map_map]
    exact (hframes addr).1
  have hlong : ∀ f ∈ cutOff.map fun f => (f.1, f.2.chain), 2 ≤ f.2.length := by
    intro f hf
    have hmem : f.2 ∈ bodies f.1 := by
      rw [← hfilter f.1]
      exact List.mem_map_of_mem (List.mem_filter.mpr ⟨hf, by simp⟩)
    exact (hbodies f.1 f.2 hmem).1
  -- a frame in one segment is the octets of its chain
  have hsingle : (cutOff.map fun f => (f.1, f.2.chain)).map (fun f => (f.1, IOBuf.single f.2))
      = cutOff := by
    rw [List.map_map]
    refine (List.map_congr_left fun f hf => ?_).trans (List.map_id _)
    obtain ⟨addr, data, next⟩ := f
    obtain rfl : next = [] := hwhole _ hf
    change (addr, IOBuf.single (data ++ [])) = _
    rw [List.append_nil]
    rfl
  have hstart : (Backend.start redis : Backend Addr).Simulates codecs (.start redis) :=
    ⟨rfl, rfl, rfl⟩
  refine ⟨hfilter, fun hsize => ?_⟩
  obtain ⟨B, hread, hsim⟩ := Backend.readAll_simulates env codecs _ hlong hstart hsize
  rw [hsingle] at hread
  refine ⟨⟨queues, B⟩, ?_, hsim, fun addr => (hframes addr).2⟩
  rw [Sockets.start, Sockets.run_eq env codecs hcut, hread]
  rfl

variable {codecs} in
/-- What is written to an address are the frames of its responses. -/
lemma Backend.Simulates.writtenTo {B : Backend Addr} {S : Server Addr}
    (hsim : B.Simulates codecs S) (addr : Addr) :
    B.writtenTo addr
      = (S.log.reverse.filter fun e => e.1 = addr).flatMap fun e => answerFrame codecs e.2 := by
  rw [Backend.writtenTo, hsim.written, ← List.map_reverse, List.filter_map, List.flatMap_map]
  rfl

/-- **Octets in, octets out**: let every connection send a stream of frames of 2 to 65534
octets, with a proper beginning of one more behind them, in reads of any sizes that come in
any order, no frame being cut into segments, and let no response be longer than 65533
octets.  Then the server returns from every read, and serves the requests of all connections
in the order in which their frames are complete, as the typed server does: for each
connection the frames are those it has sent, what is written to it is the frames of the
responses to its requests in their order, and the beginning of the next frame waits. -/
theorem server_over_sockets (inputs : List (Addr × SocketRead)) (redis : Redis)
    (bodies : Addr → List Bytes) (tail : Addr → Bytes) (fuel : ℕ)
    (hbodies : ∀ addr, ∀ b ∈ bodies addr, 2 ≤ b.length ∧ b.length ≤ 65534)
    (htail : ∀ addr, ∃ last s : Bytes, last.length ≤ 65534 ∧ s ≠ [] ∧ tail addr ++ s = frame last)
    (hstreams : ∀ addr, received (Sockets.readsOf addr inputs)
      = (bodies addr).flatMap frame ++ tail addr)
    (hfuel : ∀ addr, (received (Sockets.readsOf addr inputs)).length < fuel)
    (hwhole : ∀ f ∈ Sockets.arrivals fuel inputs, f.2.next = [])
    (hsize : ∀ e ∈ (Server.run env (requestsOf codecs
        ((Sockets.arrivals fuel inputs).map fun f => (f.1, f.2.chain))) (.start redis)).log,
      (e.2.2.message codecs).SerializeToArray.length ≤ 65533) :
    let frames := (Sockets.arrivals fuel inputs).map fun f => (f.1, f.2.chain)
    let S := Server.run env (requestsOf codecs frames) (.start redis)
    (∀ addr, (frames.filter fun f => f.1 = addr).map Prod.snd = bodies addr) ∧
      ∃ T, Sockets.run env codecs fuel inputs (.start redis) = .ok T ∧
        T.backend.Simulates codecs S ∧
        ∀ addr, T.backend.writtenTo addr
            = (S.log.reverse.filter fun e => e.1 = addr).flatMap (fun e => answerFrame codecs e.2) ∧
          (T.queues addr).flat = tail addr := by
  obtain ⟨hframes, hrun⟩ :=
    Sockets.run_simulates env codecs redis hbodies htail hstreams hfuel hwhole
  obtain ⟨T, hT, hsim, htails⟩ := hrun hsize
  exact ⟨hframes, T, hT, hsim, fun addr => ⟨hsim.writtenTo addr, htails addr⟩⟩

/-- A login request cut inside its length field, while another connection sends a frame of a
command that is not registered, and the first octet of the next one. -/
def twoConnections : List (ℕ × SocketRead) :=
  [(0, ⟨false, [2]⟩), (1, ⟨false, [3, 0, 1, 0, 5, 4]⟩), (0, ⟨false, [0, 101, 0]⟩)]

lemma arrivals_twoConnections :
    (Sockets.arrivals 7 twoConnections).map (fun f => (f.1, f.2.chain))
      = [(1, [1, 0, 5]), (0, [101, 0])] := by
  decide +kernel

lemma requestsOf_twoConnections :
    requestsOf .wire ([(1, [1, 0, 5]), (0, [101, 0])] : List (ℕ × Bytes)) = [(0, .LOGIN {})] := by
  have hparse : Codecs.wire.ParseFromArray .LoginReq [] = (true, {}) :=
    LoginReq.codec.parse_serialize_eq {}
  have hlogin : requestOf .wire [101, 0] = some (.LOGIN {}) := by
    change parsed _ .LoginReq .LOGIN [] = _
    rw [parsed, hparse]
  have hother : requestOf .wire [1, 0, 5] = none := rfl
  simp [requestsOf, hlogin, hother]

/-- The frames that each of them has sent. -/
def bodiesOfTwo (addr : ℕ) : List Bytes :=
  if addr = 0 then [[101, 0]] else if addr = 1 then [[1, 0, 5]] else []

/-- What is left of each of them. -/
def tailOfTwo (addr : ℕ) : Bytes := if addr = 1 then [4] else []

lemma readsOf_twoConnections (addr : ℕ) :
    received (Sockets.readsOf addr twoConnections)
      = (bodiesOfTwo addr).flatMap frame ++ tailOfTwo addr := by
  by_cases h0 : addr = 0
  · subst h0
    rfl
  by_cases h1 : addr = 1
  · subst h1
    rfl
  have hnone : Sockets.readsOf addr twoConnections = [] := by
    simp [Sockets.readsOf, twoConnections, Ne.symm h0, Ne.symm h1]
  rw [hnone, bodiesOfTwo, tailOfTwo, if_neg h0, if_neg h1, if_neg h1]
  rfl

/-- The login is answered, and the octet of the other connection waits. -/
theorem server_over_sockets_two :
    ∃ T, Sockets.run Env.wire .wire 7 twoConnections (.start (.working fun _ => none)) = .ok T ∧
      T.backend.writtenTo 0
        = answerFrame .wire (.LOGIN {}, .LOGIN (.answer 0 .LOGIN_NOT_REGISTERED false)) ∧
      (T.queues 1).flat = [4] := by
  have hlog : (Server.run Env.wire (requestsOf .wire ((Sockets.arrivals 7 twoConnections).map
      fun f => (f.1, f.2.chain))) (.start (.working fun _ => none))).log
        = [(0, .LOGIN {}, .LOGIN (.answer 0 .LOGIN_NOT_REGISTERED false))] := by
    rw [arrivals_twoConnections, requestsOf_twoConnections]
    rfl
  have hbodies : ∀ addr, ∀ b ∈ bodiesOfTwo addr, 2 ≤ b.length ∧ b.length ≤ 65534 := by
    intro addr b hb
    rw [bodiesOfTwo] at hb
    split_ifs at hb <;> simp_all
  have htail : ∀ addr, ∃ last s : Bytes, last.length ≤ 65534 ∧ s ≠ [] ∧
      tailOfTwo addr ++ s = frame last := by
    intro addr
    rw [tailOfTwo]
    split_ifs
    · exact ⟨[1, 2, 3, 4], [0, 1, 2, 3, 4], by decide, by decide, rfl⟩
    · exact ⟨[], [0, 0], by decide, by decide, rfl⟩
  have hfuel : ∀ addr, (received (Sockets.readsOf addr twoConnections)).length < 7 := by
    intro addr
    rw [readsOf_twoConnections, bodiesOfTwo, tailOfTwo]
    split_ifs <;> decide
  obtain ⟨-, T, hrun, -, hconnections⟩ := server_over_sockets Env.wire .wire twoConnections
    (.working fun _ => none) bodiesOfTwo tailOfTwo 7 hbodies htail readsOf_twoConnections hfuel
    (Sockets.arrivals_contiguous (by decide)) (by rw [hlog]; decide)
  refine ⟨T, hrun, ?_, (hconnections 1).2⟩
  rw [(hconnections 0).1, hlog]
  exact List.append_nil _

end LittleB
