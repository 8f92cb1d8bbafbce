import LittleB.Foundations.Framing
import LittleB.Handlers.FrameRoundTrip
import LittleB.Pipeline.Reassembly

/-!
Decoders on streams of any octets, for every configuration whose frames can be delivered.

* `Deliverable`: the configurations on which no call of `decode` throws; `framing`, `failure`:
  what such a decoder takes off the front of a buffer, and the exception it fires there, from
  the octets alone, with `decode_of_some`, `decode_of_failure`, `decode_of_waiting`;
* `Waits`: a queue of which nothing is taken; `Took`: the octets that a frame or an exception
  stands for; `read_spec`, one read;
* `stream_accounted`: **nothing is lost in silence**, on every stream;
* `split_independent`: **the cuts do not matter** up to the first exception;
* `stream_roundTrips`: the encoder and the decoder that matches it on streams of bodies.
-/

namespace LittleB

namespace LengthFieldBasedFrameDecoder

variable (d : LengthFieldBasedFrameDecoder)

/-! ### One call of `decode`, from the octets -/

/-- The length field is read, and every frame within the maximum is short enough to be cut
off. -/
structure Deliverable : Prop where
  readable : d.Readable
  cut : d.maxFrameLength_.toNat < d.initialBytesToStrip_.toNat + 2 ^ 31

variable {d}

lemma Readable.fieldEnd_pos (h : d.Readable) : 0 < d.fieldEnd := by
  have hpos : 0 < d.lengthFieldLength_.toNat := by
    rcases h.length with h1 | h2 | h4 | h8
    · rw [h1]; decide
    · rw [h2]; decide
    · rw [h4]; decide
    · rw [h8]; decide
  rw [fieldEnd]
  omega

/-- The length of a frame is known as soon as the length field is there. -/
lemma frameLength_append {bs : Bytes} (h : d.fieldEnd ≤ bs.length) (s : Bytes) :
    d.frameLength (bs ++ s) = d.frameLength bs := by
  rw [fieldEnd] at h
  have hfield : ((bs ++ s).drop d.lengthFieldOffset_.toNat).take d.lengthFieldLength_.toNat
      = (bs.drop d.lengthFieldOffset_.toNat).take d.lengthFieldLength_.toNat := by
    rw [List.drop_append_of_le_length (by omega),
      List.take_append_of_le_length (by rw [List.length_drop]; omega)]
  rw [frameLength, frameLength, rawLength, rawLength, hfield]

/-- A frame that can be delivered stands at the front, of `n` octets. -/
def Complete (d : LengthFieldBasedFrameDecoder) (bs : Bytes) (n : ℕ) : Prop :=
  d.fieldEnd ≤ n ∧ n ≤ d.maxFrameLength_.toNat ∧ n ≤ bs.length ∧ d.initialBytesToStrip_.toNat ≤ n

instance (bs : Bytes) (n : ℕ) : Decidable (d.Complete bs n) :=
  inferInstanceAs (Decidable (_ ∧ _ ∧ _ ∧ _))

/-- What the decoder takes off the front of a buffer. -/
def framing (h : d.Readable) : Framer UInt8 Bytes where
  step bs :=
    if d.fieldEnd ≤ bs.length ∧ d.Complete bs (d.frameLength bs) then
      some ((bs.take (d.frameLength bs)).drop d.initialBytesToStrip_.toNat,
        bs.drop (d.frameLength bs))
    else none
  stable := by
    intro bs b r s hstep
    split_ifs at hstep with hcomplete
    obtain ⟨rfl, rfl⟩ := Prod.mk.inj (Option.some.inj hstep)
    obtain ⟨hfield, hlow, hhigh, hwhole, hstrip⟩ := hcomplete
    rw [frameLength_append hfield, List.length_append, if_pos, List.take_append_of_le_length hwhole,
      List.drop_append_of_le_length hwhole]
    exact ⟨by omega, hlow, hhigh, by rw [List.length_append]; omega, hstrip⟩
  shrinks := by
    intro bs b r hstep
    have hpos := h.fieldEnd_pos
    split_ifs at hstep with hcomplete
    obtain ⟨rfl, rfl⟩ := Prod.mk.inj (Option.some.inj hstep)
    obtain ⟨hfield, hlow, -⟩ := hcomplete
    rw [List.length_drop]
    omega

/-- The exception the decoder fires at a buffer. -/
def failure (d : LengthFieldBasedFrameDecoder) (bs : Bytes) : Option FrameException :=
  if bs.length < d.fieldEnd then none
  else if d.frameLength bs < d.fieldEnd then some .tooSmall
  else if d.maxFrameLength_.toNat < d.frameLength bs then some (.tooLarge d.maxFrameLength_)
  else if bs.length < d.frameLength bs then none
  else if d.frameLength bs < d.initialBytesToStrip_.toNat then some .stripTooLarge
  else none

/-- What is in a queue waits for more: no complete frame stands at its front, no exception is
due there, and `decode` takes nothing. -/
structure Waits (d : LengthFieldBasedFrameDecoder) (q : IOBufQueue) : Prop where
  incomplete : ¬ (d.fieldEnd ≤ q.flat.length ∧ d.Complete q.flat (d.frameLength q.flat))
  quiet : d.failure q.flat = none
  more : d.decode q = .ok .more

/-- The octets that a frame or an exception stands for. -/
inductive Took (d : LengthFieldBasedFrameDecoder) : Fired Bytes → Bytes → Prop
  /-- A frame is delivered without the octets in front that are stripped. -/
  | read (bs : Bytes) (hfield : d.fieldEnd ≤ bs.length) (hlength : bs.length = d.frameLength bs)
      (hmax : d.frameLength bs ≤ d.maxFrameLength_.toNat)
      (hstrip : d.initialBytesToStrip_.toNat ≤ bs.length) :
      Took d (.read (bs.drop d.initialBytesToStrip_.toNat)) bs
  /-- Of a frame that is too small the length field is dropped. -/
  | tooSmall (bs : Bytes) (hfield : bs.length = d.fieldEnd)
      (hsmall : d.frameLength bs < d.fieldEnd) : Took d (.readException .tooSmall) bs
  /-- Of a frame that is too large, what is there. -/
  | tooLarge (bs : Bytes) (hfield : d.fieldEnd ≤ bs.length)
      (hlength : bs.length ≤ d.frameLength bs)
      (hmax : d.maxFrameLength_.toNat < d.frameLength bs) :
      Took d (.readException (.tooLarge d.maxFrameLength_)) bs
  /-- A frame shorter than what is stripped is dropped whole. -/
  | stripTooLarge (bs : Bytes) (hfield : d.fieldEnd ≤ bs.length)
      (hlength : bs.length = d.frameLength bs)
      (hmax : d.frameLength bs ≤ d.maxFrameLength_.toNat)
      (hstrip : bs.length < d.initialBytesToStrip_.toNat) :
      Took d (.readException .stripTooLarge) bs

namespace Deliverable

variable (h : d.Deliverable) {q : IOBufQueue}

include h

/-- One call of `decode` behind the length field. -/
lemma decode_eq (hend : d.fieldEnd ≤ q.flat.length) :
    d.decode q = d.decodeFrame q (d.frameLength q.flat) := by
  have hcut := h.cut
  exact h.readable.decode_eq hend fun _ hmax _ _ => .inr (by omega)

/-- Where the framing takes a frame off, `decode` delivers it. -/
lemma decode_of_some {b r : Bytes} (hstep : (framing h.readable).step q.flat = some (b, r)) :
    ∃ result q', d.decode q = .ok (.frame result q') ∧ result.chain = b ∧ q'.flat = r ∧
      ∃ bs, d.Took (.read b) bs ∧ q.flat = bs ++ r := by
  have hcut := h.cut
  change (if _ then _ else none) = some (b, r) at hstep
  split_ifs at hstep with hcomplete
  obtain ⟨rfl, rfl⟩ := Prod.mk.inj (Option.some.inj hstep)
  obtain ⟨hfield, hlow, hhigh, hwhole, hstrip⟩ := hcomplete
  obtain ⟨result, q', hdecode, hchain, hrest⟩ :=
    decodeFrame_frame hlow hhigh hwhole hstrip (by omega)
  have hlength : (q.flat.take (d.frameLength q.flat)).length = d.frameLength q.flat :=
    List.length_take_of_le hwhole
  have hself : d.frameLength (q.flat.take (d.frameLength q.flat)) = d.frameLength q.flat := by
    have htake : d.fieldEnd ≤ (q.flat.take (d.frameLength q.flat)).length := by omega
    have happend := frameLength_append htake (q.flat.drop (d.frameLength q.flat))
    rwa [List.take_append_drop, eq_comm] at happend
  refine ⟨result, q', by rw [h.decode_eq hfield, hdecode], hchain, hrest,
    q.flat.take (d.frameLength q.flat), ?_, (List.take_append_drop _ _).symm⟩
  exact .read _ (by omega) (by rw [hlength, hself]) (by omega) (by omega)

/-- Where there is an exception to fire, `decode` fires it. -/
lemma decode_of_failure {e : FrameException} (hfailure : d.failure q.flat = some e) :
    ∃ q', d.decode q = .ok (.exception e q') ∧
      ∃ bs, d.Took (.readException e) bs ∧ q.flat = bs ++ q'.flat := by
  have hsplit (n : ℕ) : q.flat = q.flat.take n ++ (q.drop n).flat := by
    rw [Rope.flat_drop, List.take_append_drop]
  have hself {n : ℕ} (hfield : d.fieldEnd ≤ (q.flat.take n).length) :
      d.frameLength (q.flat.take n) = d.frameLength q.flat := by
    have happend := frameLength_append hfield (q.flat.drop n)
    rwa [List.take_append_drop, eq_comm] at happend
  rw [failure] at hfailure
  split_ifs at hfailure with h1 h2 h3 h4 h5
  all_goals
    obtain rfl := Option.some_inj.mp hfailure
    have hend : d.fieldEnd ≤ q.flat.length := by omega
    rw [h.decode_eq hend, decodeFrame]
  case pos =>
    have hlen : (q.flat.take d.fieldEnd).length = d.fieldEnd := List.length_take_of_le hend
    refine ⟨_, if_pos h2, _, ?_, hsplit d.fieldEnd⟩
    exact .tooSmall _ hlen (by rw [hself hlen.ge]; exact h2)
  case pos =>
    have hlen := List.length_take (l := q.flat) (i := d.frameLength q.flat)
    refine ⟨_, by rw [if_neg h2, if_pos h3], _, ?_, hsplit (d.frameLength q.flat)⟩
    have hfield : d.fieldEnd ≤ (q.flat.take (d.frameLength q.flat)).length := by omega
    exact .tooLarge _ hfield (by rw [hself hfield]; omega) (by rw [hself hfield]; exact h3)
  case pos =>
    have hlen : (q.flat.take (d.frameLength q.flat)).length = d.frameLength q.flat :=
      List.length_take_of_le (by omega)
    refine ⟨_, by rw [if_neg h2, if_neg h3, if_neg h4, if_pos h5], _, ?_,
      hsplit (d.frameLength q.flat)⟩
    have hfield : d.fieldEnd ≤ (q.flat.take (d.frameLength q.flat)).length := by omega
    exact .stripTooLarge _ hfield (by rw [hself hfield, hlen]) (by rw [hself hfield]; omega)
      (by omega)

/-- Otherwise it waits. -/
lemma decode_of_waiting (hstep : (framing h.readable).step q.flat = none)
    (hfailure : d.failure q.flat = none) : d.decode q = .ok .more := by
  change (if _ then _ else none) = none at hstep
  rw [failure] at hfailure
  by_cases h1 : q.flat.length < d.fieldEnd
  · rw [decode, IOBufQueue.chainLength_eq, h.readable.fieldEnd_eq, if_pos h1]
    rfl
  rw [h.decode_eq (by omega), decodeFrame]
  rw [if_neg h1] at hfailure
  split_ifs at hfailure with h2 h3 h4 h5
  · rw [if_neg h2, if_neg h3, if_pos h4]
  · have hcomplete : d.fieldEnd ≤ q.flat.length ∧ d.Complete q.flat (d.frameLength q.flat) :=
      ⟨by omega, by omega, by omega, by omega, by omega⟩
    rw [if_pos hcomplete] at hstep
    cases hstep

end Deliverable

/-! ### Reads -/

/-- The octets of a buffer, event by event, and what is left of them. -/
def Accounts (d : LengthFieldBasedFrameDecoder) (fired : List (Fired Bytes)) (bs rest : Bytes) :
    Prop := ∃ pieces, List.Forall₂ d.Took fired pieces ∧ bs = pieces.flatten ++ rest

lemma Accounts.nil (d : LengthFieldBasedFrameDecoder) (bs : Bytes) : d.Accounts [] bs bs :=
  ⟨[], .nil, rfl⟩

/-- An event in front of others. -/
lemma Accounts.cons {e : Fired Bytes} {fired : List (Fired Bytes)} {piece bs rest : Bytes}
    (he : d.Took e piece) (h : d.Accounts fired bs rest) :
    d.Accounts (e :: fired) (piece ++ bs) rest := by
  obtain ⟨pieces, htook, rfl⟩ := h
  exact ⟨piece :: pieces, .cons he htook, by rw [List.flatten_cons, List.append_assoc]⟩

/-- Events behind others, with what has arrived in between. -/
lemma Accounts.append {fired fired' : List (Fired Bytes)} {bs rest more rest' : Bytes}
    (h : d.Accounts fired bs rest) (h' : d.Accounts fired' (rest ++ more) rest') :
    d.Accounts (fired ++ fired') (bs ++ more) rest' := by
  obtain ⟨pieces, htook, rfl⟩ := h
  obtain ⟨pieces', htook', heq⟩ := h'
  refine ⟨pieces ++ pieces', List.rel_append htook htook', ?_⟩
  rw [List.flatten_append, List.append_assoc, List.append_assoc, heq]

/-- What a read ends with: it has fired an exception, or it waits. -/
def ending (d : LengthFieldBasedFrameDecoder) (rest : Bytes) : List (Fired Bytes) :=
  ((d.failure rest).map .readException).toList

namespace Deliverable

variable (h : d.Deliverable)

include h

/-- **One read** delivers what the framing drains of the queue, and fires the exception at
what is left, if there is one. -/
lemma read_spec {fuel : ℕ} {q : IOBufQueue} (hfuel : q.flat.length < fuel) :
    ∃ q', ByteToMessageDecoder.read d.decode deliver fuel q
        = .ok (((framing h.readable).drain q.flat).1.map .read
          ++ d.ending ((framing h.readable).drain q.flat).2, q') ∧
      d.Accounts (((framing h.readable).drain q.flat).1.map .read
        ++ d.ending ((framing h.readable).drain q.flat).2) q.flat q'.flat ∧
      (d.failure ((framing h.readable).drain q.flat).2 = none →
        q'.flat = ((framing h.readable).drain q.flat).2) := by
  induction fuel generalizing q with
  | zero => omega
  | succ fuel ih =>
      rw [ByteToMessageDecoder.read]
      cases hstep : (framing h.readable).step q.flat with
      | none =>
          rw [(framing h.readable).drain_of_none hstep, ending]
          cases hfailure : d.failure q.flat with
          | none =>
              rw [h.decode_of_waiting hstep hfailure]
              exact ⟨q, rfl, .nil d q.flat, fun _ => rfl⟩
          | some e =>
              obtain ⟨q', hdecode, bs, htook, hsplit⟩ := h.decode_of_failure hfailure
              rw [hdecode]
              refine ⟨q', rfl, ?_, fun hnone => by cases hnone⟩
              have haccounts := (Accounts.nil d q'.flat).cons htook
              rwa [← hsplit] at haccounts
      | some p =>
          obtain ⟨b, r⟩ := p
          have hshrinks := (framing h.readable).shrinks hstep
          obtain ⟨result, q₁, hdecode, hchain, hr, bs, htook, hsplit⟩ := h.decode_of_some hstep
          obtain ⟨q', hread, haccounts, hwaits⟩ := ih (q := q₁) (by rw [hr]; omega)
          rw [hr] at hread haccounts hwaits
          rw [(framing h.readable).drain_of_some hstep, hdecode]
          refine ⟨q', ?_, ?_, hwaits⟩
          · simp only [bind, Except.bind, deliver, hchain]
            rw [hread]
            rfl
          · rw [hsplit]
            exact haccounts.cons htook

/-- An exception that is due stays due when more arrives. -/
lemma failure_append {bs : Bytes} {e : FrameException} (hfailure : d.failure bs = some e)
    (s : Bytes) : d.failure (bs ++ s) = some e ∧ (framing h.readable).step (bs ++ s) = none := by
  change _ ∧ (if _ then _ else none) = none
  have hlen : (bs ++ s).length = bs.length + s.length := List.length_append
  rw [failure] at hfailure
  split_ifs at hfailure with h1 h2 h3 h4 h5
  all_goals
    obtain rfl := Option.some_inj.mp hfailure
    rw [failure, frameLength_append (by omega), hlen, if_neg (by omega)]
    refine ⟨?_, if_neg fun hcomplete => ?_⟩
  · rw [if_pos h2]
  · have hlow := hcomplete.2.1
    omega
  · rw [if_neg h2, if_pos h3]
  · have hhigh := hcomplete.2.2.1
    omega
  · rw [if_neg h2, if_neg h3, if_neg (by omega), if_pos h5]
  · have hstrip := hcomplete.2.2.2.2
    omega

/-- The decoder waits, or the last it has fired is an exception. -/
def Settled (fired : List (Fired Bytes)) (rest : Bytes) : Prop :=
  ((framing h.readable).step rest = none ∧ d.failure rest = none) ∨
    ∃ e, fired.getLast? = some (.readException e)

/-- **The reads of a connection** return, and account for everything that has arrived. -/
lemma connection_accounted {fuel : ℕ} (reads : List SocketRead) {q : IOBufQueue}
    (hfuel : (q.flat ++ received reads).length < fuel) :
    ∃ fired q', Connection.read d.decode deliver fuel reads q = .ok (fired, q') ∧
      d.Accounts fired (q.flat ++ received reads) q'.flat ∧
      (reads ≠ [] → h.Settled fired q'.flat) := by
  induction reads generalizing q with
  | nil =>
      refine ⟨[], q, rfl, ?_, fun hne => absurd rfl hne⟩
      rw [received_nil, List.append_nil]
      exact .nil d q.flat
  | cons r rs ih =>
      rw [received_cons, ← List.append_assoc, ← Rope.flat_push r.fresh] at hfuel ⊢
      have hnow : (q.push r.fresh r.bytes).flat.length < fuel := by
        rw [List.length_append] at hfuel
        omega
      obtain ⟨q₁, hread, haccounts, hwaits⟩ := h.read_spec hnow
      have hle : q₁.flat.length ≤ (q.push r.fresh r.bytes).flat.length := by
        obtain ⟨pieces, -, hsplit⟩ := haccounts
        rw [hsplit, List.length_append]
        omega
      obtain ⟨fired, q', hreads, haccounts', hsettled⟩ := ih (q := q₁)
        (by rw [List.length_append] at hfuel ⊢; omega)
      refine ⟨_, q', ?_, haccounts.append haccounts', fun _ => ?_⟩
      · rw [Connection.read, hread]
        simp only [bind, Except.bind, hreads]
        rfl
      · cases rs with
        | cons r' rs' =>
            refine (hsettled (List.cons_ne_nil r' rs')).imp_right fun hlast => ?_
            obtain ⟨e, he⟩ := hlast
            refine ⟨e, ?_⟩
            rw [List.getLast?_append, he]
            rfl
        | nil =>
            obtain ⟨rfl, rfl⟩ := Prod.mk.inj (Except.ok.inj hreads)
            rw [List.append_nil]
            cases hfailure :
                d.failure ((framing h.readable).drain (q.push r.fresh r.bytes).flat).2 with
            | none =>
                refine .inl ?_
                rw [hwaits hfailure]
                exact ⟨(framing h.readable).step_drain _, hfailure⟩
            | some e =>
                refine .inr ⟨e, ?_⟩
                rw [ending, hfailure]
                exact List.getLast?_concat

/-- **Up to the first exception** the reads of a connection deliver what the framing drains
of all that arrives. -/
lemma connection_drains {fuel : ℕ} (reads : List SocketRead) {q : IOBufQueue}
    (hstep : (framing h.readable).step q.flat = none) (hfailure : d.failure q.flat = none)
    (hfuel : (q.flat ++ received reads).length < fuel) :
    ∃ more q', Connection.read d.decode deliver fuel reads q
        = .ok (((framing h.readable).drain (q.flat ++ received reads)).1.map .read ++ more, q') ∧
      (d.failure ((framing h.readable).drain (q.flat ++ received reads)).2 = none →
        more = [] ∧ q'.flat = ((framing h.readable).drain (q.flat ++ received reads)).2) ∧
      ∀ e, d.failure ((framing h.readable).drain (q.flat ++ received reads)).2 = some e →
        ∃ more', more = .readException e :: more' := by
  induction reads generalizing q with
  | nil =>
      rw [received_nil, List.append_nil, (framing h.readable).drain_of_none hstep]
      refine ⟨[], q, rfl, fun _ => ⟨rfl, rfl⟩, fun e he => ?_⟩
      rw [hfailure] at he
      cases he
  | cons r rs ih =>
      rw [received_cons, ← List.append_assoc, ← Rope.flat_push r.fresh] at hfuel ⊢
      have hnow : (q.push r.fresh r.bytes).flat.length < fuel := by
        rw [List.length_append] at hfuel
        omega
      obtain ⟨q₁, hread, ⟨pieces, -, hsplit⟩, hwaits⟩ := h.read_spec hnow
      have hle : q₁.flat.length ≤ (q.push r.fresh r.bytes).flat.length := by
        rw [hsplit, List.length_append]
        omega
      have hrest : (q₁.flat ++ received rs).length < fuel := by
        rw [List.length_append] at hfuel ⊢
        omega
      rw [(framing h.readable).drain_append, Connection.read, hread]
      have hdrained := (framing h.readable).step_drain (q.push r.fresh r.bytes).flat
      generalize (framing h.readable).drain (q.push r.fresh r.bytes).flat = drained
        at hwaits hdrained ⊢
      cases hdue : d.failure drained.2 with
      | none =>
          obtain ⟨more, q', hreads, hnone, hsome⟩ := ih (by rw [hwaits hdue]; exact hdrained)
            (by rw [hwaits hdue]; exact hdue) hrest
          rw [hwaits hdue] at hreads hnone hsome
          refine ⟨more, q', ?_, hnone, hsome⟩
          simp only [bind, Except.bind, hreads, ending, hdue, List.map_append, List.append_assoc]
          rfl
      | some e =>
          obtain ⟨hdue', hstuck⟩ := h.failure_append hdue (received rs)
          obtain ⟨fired, q', hreads, -, -⟩ := h.connection_accounted rs hrest
          rw [(framing h.readable).drain_of_none hstuck]
          refine ⟨.readException e :: fired, q', ?_, fun hnone => ?_, fun e' he' => ⟨fired, ?_⟩⟩
          · simp only [bind, Except.bind, hreads, ending, hdue, List.map_append, List.append_assoc]
            rfl
          · rw [hdue'] at hnone
            cases hnone
          · rw [hdue'] at he'
            rw [Option.some_inj.mp he']

/-- An empty queue waits. -/
lemma waits_empty : (framing h.readable).step [] = none ∧ d.failure [] = none := by
  have hpos := h.readable.fieldEnd_pos
  have hshort : ¬ d.fieldEnd ≤ ([] : Bytes).length := by
    rw [List.length_nil]
    omega
  exact ⟨if_neg fun hcomplete => hshort hcomplete.1, if_pos (not_le.mp hshort)⟩

/-- A queue of which nothing is taken waits. -/
lemma waits {q : IOBufQueue} (hstep : (framing h.readable).step q.flat = none)
    (hfailure : d.failure q.flat = none) : d.Waits q := by
  refine ⟨fun hcomplete => ?_, hfailure, h.decode_of_waiting hstep hfailure⟩
  have hsome : (framing h.readable).step q.flat = some _ := if_pos hcomplete
  cases hstep.symm.trans hsome

end Deliverable

/-- **Nothing is lost in silence**: on every stream, in whatever reads it arrives, the decoder
returns from every read; each octet belongs to a frame that is delivered, or to an exception
that is fired, in the order of arrival, or is left in the queue, where no complete frame and
no exception is due unless an exception was the last that was fired. -/
theorem stream_accounted (d : LengthFieldBasedFrameDecoder) (h : d.Deliverable)
    (reads : List SocketRead) (fuel : ℕ) (hfuel : (received reads).length < fuel) :
    ∃ fired q, Connection.read d.decode deliver fuel reads Rope.empty = .ok (fired, q) ∧
      (∃ pieces, List.Forall₂ d.Took fired pieces ∧ received reads = pieces.flatten ++ q.flat) ∧
      (d.Waits q ∨ ∃ e, fired.getLast? = some (.readException e)) := by
  obtain ⟨fired, q, hread, haccounts, hsettled⟩ := h.connection_accounted reads (q := Rope.empty)
    hfuel
  refine ⟨fired, q, hread, haccounts, ?_⟩
  cases reads with
  | nil =>
      obtain ⟨rfl, rfl⟩ := Prod.mk.inj (Except.ok.inj hread)
      exact .inl (h.waits h.waits_empty.1 h.waits_empty.2)
  | cons r rs =>
      refine (hsettled (List.cons_ne_nil r rs)).imp_left fun ⟨hstep, hfailure⟩ => ?_
      exact h.waits hstep hfailure

lemma deliverable_server : newPipeline.decoder.Deliverable := ⟨readable_server, by decide⟩

/-- A header past the maximum with one octet behind it, then a frame: the server's decoder. -/
theorem stream_accounted_server :
    (newPipeline.decoder.Deliverable ∧
      (received [⟨true, [255, 255, 7]⟩, ⟨true, [1, 0, 9]⟩]).length < 7) ∧
    ∃ fired q, Connection.read newPipeline.decoder.decode deliver 7
        [⟨true, [255, 255, 7]⟩, ⟨true, [1, 0, 9]⟩] Rope.empty = .ok (fired, q) ∧
      (∃ pieces, List.Forall₂ newPipeline.decoder.Took fired pieces ∧
        received [⟨true, [255, 255, 7]⟩, ⟨true, [1, 0, 9]⟩] = pieces.flatten ++ q.flat) ∧
      (newPipeline.decoder.Waits q ∨ ∃ e, fired.getLast? = some (.readException e)) :=
  ⟨⟨deliverable_server, by decide⟩,
    stream_accounted newPipeline.decoder deliverable_server _ 7 (by decide)⟩

/-- **The cuts do not matter**: whatever octets arrive, in whatever reads, the decoder delivers
the same frames up to the first exception, which is the same, too; and when none is fired,
the same octets are left in the queue. -/
theorem split_independent (d : LengthFieldBasedFrameDecoder) (h : d.Deliverable)
    (reads reads' : List SocketRead) (hsame : received reads = received reads') (fuel : ℕ)
    (hfuel : (received reads).length < fuel) :
    ∃ bs : List Bytes,
      (∃ q q', Connection.read d.decode deliver fuel reads Rope.empty = .ok (bs.map .read, q) ∧
        Connection.read d.decode deliver fuel reads' Rope.empty = .ok (bs.map .read, q') ∧
        q.flat = q'.flat) ∨
      ∃ e more more' q q', Connection.read d.decode deliver fuel reads Rope.empty
          = .ok (bs.map .read ++ .readException e :: more, q) ∧
        Connection.read d.decode deliver fuel reads' Rope.empty
          = .ok (bs.map .read ++ .readException e :: more', q') := by
  obtain ⟨hstep, hfailure⟩ := h.waits_empty
  obtain ⟨more, q, hread, hnone, hsome⟩ := h.connection_drains reads (q := Rope.empty)
    hstep hfailure hfuel
  obtain ⟨more', q', hread', hnone', hsome'⟩ := h.connection_drains reads' (q := Rope.empty)
    hstep hfailure (hsame ▸ hfuel)
  rw [Rope.flat_empty, List.nil_append] at hread hnone hsome hread' hnone' hsome'
  rw [← hsame] at hread' hnone' hsome'
  refine ⟨((framing h.readable).drain (received reads)).1, ?_⟩
  cases hdue : d.failure ((framing h.readable).drain (received reads)).2 with
  | none =>
      obtain ⟨rfl, hq⟩ := hnone hdue
      obtain ⟨rfl, hq'⟩ := hnone' hdue
      rw [List.append_nil] at hread hread'
      exact .inl ⟨q, q', hread, hread', hq.trans hq'.symm⟩
  | some e =>
      obtain ⟨later, rfl⟩ := hsome e hdue
      obtain ⟨later', rfl⟩ := hsome' e hdue
      exact .inr ⟨e, later, later', q, q', hread, hread'⟩

/-- Two frames in one read, and octet by octet. -/
theorem split_independent_server :
    (newPipeline.decoder.Deliverable ∧
      received [⟨true, [1, 0, 9, 0, 0]⟩]
        = received ([1, 0, 9, 0, 0].map fun b => ⟨false, [b]⟩) ∧
      (received [⟨true, [1, 0, 9, 0, 0]⟩]).length < 6) ∧
    ∃ bs : List Bytes,
      (∃ q q', Connection.read newPipeline.decoder.decode deliver 6
          [⟨true, [1, 0, 9, 0, 0]⟩] Rope.empty = .ok (bs.map .read, q) ∧
        Connection.read newPipeline.decoder.decode deliver 6
          ([1, 0, 9, 0, 0].map fun b => ⟨false, [b]⟩) Rope.empty = .ok (bs.map .read, q') ∧
        q.flat = q'.flat) ∨
      ∃ e more more' q q', Connection.read newPipeline.decoder.decode deliver 6
          [⟨true, [1, 0, 9, 0, 0]⟩] Rope.empty
          = .ok (bs.map .read ++ .readException e :: more, q) ∧
        Connection.read newPipeline.decoder.decode deliver 6
          ([1, 0, 9, 0, 0].map fun b => ⟨false, [b]⟩) Rope.empty
          = .ok (bs.map .read ++ .readException e :: more', q') :=
  ⟨⟨deliverable_server, rfl, by decide⟩,
    split_independent newPipeline.decoder deliverable_server _ _ rfl 6 (by decide)⟩

namespace Deliverable

/-- What `decode` delivers, the framing takes off. -/
lemma step_of_decode (h : d.Deliverable) {q q' : IOBufQueue} {result : IOBuf}
    (hdecode : d.decode q = .ok (.frame result q')) :
    (framing h.readable).step q.flat = some (result.chain, q'.flat) := by
  cases hstep : (framing h.readable).step q.flat with
  | some p =>
      obtain ⟨result', q'', hdecode', hchain, hrest, -⟩ := h.decode_of_some hstep
      obtain ⟨rfl, rfl⟩ := Decoded.frame.inj (Except.ok.inj (hdecode.symm.trans hdecode'))
      rw [hchain, hrest]
  | none =>
      cases hfailure : d.failure q.flat with
      | none =>
          rw [h.decode_of_waiting hstep hfailure] at hdecode
          cases hdecode
      | some e =>
          obtain ⟨q'', hdecode', -⟩ := h.decode_of_failure hfailure
          rw [hdecode'] at hdecode
          cases hdecode

end Deliverable

end LengthFieldBasedFrameDecoder

/-! ### Streams of bodies -/

namespace LengthFieldPrepender

open LengthFieldBasedFrameDecoder

variable {p : LengthFieldPrepender} {d : LengthFieldBasedFrameDecoder}

/-- A body behind its length field. -/
def encode (p : LengthFieldPrepender) (b : Bytes) : Bytes :=
  p.fieldOctets (p.writtenLength b.length) ++ b

/-- What is written is the body behind a length that `write` accepts. -/
lemma chain_of_write {buf out : IOBuf} (h : p.write buf = .ok out) :
    p.writtenLength buf.chain.length < p.bound ∧ out.chain = p.encode buf.chain := by
  have hlt : p.writtenLength buf.chain.length < p.bound := by
    by_contra hge
    obtain ⟨e, he⟩ := write_of_ge (not_lt.mp hge)
    rw [he] at h
    cases h
  rw [write_of_lt hlt] at h
  obtain rfl := Except.ok.inj h
  exact ⟨hlt, rfl⟩

/-- The framing of the decoder undoes the encoder that it matches. -/
lemma Matches.encodes (h : p.Matches d) (hd : d.Deliverable)
    (hadj : p.totalAdjustment ≤ p.fieldLength) :
    (framing hd.readable).Encodes p.encode fun b =>
      p.writtenLength b.length < p.bound ∧ b.length + p.fieldLength ≤ d.maxFrameLength_.toNat := by
  rintro b ⟨hwritten, hmax⟩ r
  have hcut := hd.cut
  have hstrip := h.strip_eq
  have hchain : (IOBuf.single b).chain = b := IOBuf.chain_single b
  rw [← hchain] at hwritten
  have hround := @Matches.roundTrips p d h (.single b) (by rwa [hchain]) hwritten hadj
    (by rw [hchain]; omega)
  have hflat : (Rope.empty.push true (p.encode b ++ r)).flat = p.encode b ++ r := by
    rw [Rope.flat_push, Rope.flat_empty, List.nil_append]
  have hout : (⟨p.fieldOctets (p.writtenLength (IOBuf.single b).chain.length),
      [b]⟩ : IOBuf).chain = p.encode b := by
    rw [IOBuf.chain, hchain, encode]
    simp
  obtain ⟨result, q', hdecode, hresult, hrest⟩ := hround _ (write_of_lt hwritten) r
    (Rope.empty.push true (p.encode b ++ r)) (by rw [hflat]; exact congrArg (· ++ r) hout.symm)
  have hstep := hd.step_of_decode hdecode
  rw [hflat, hresult, hrest, hchain] at hstep
  exact hstep

/-- **Streams of bodies**: what the encoder writes for bodies within the maximum, followed by
a proper beginning of what it writes for one more, is cut into the bodies again by every
decoder that matches it, in order and each once, however it arrives; the beginning is left in
the queue. -/
theorem stream_roundTrips (p : LengthFieldPrepender) (d : LengthFieldBasedFrameDecoder)
    (h : p.Matches d) (hd : d.Deliverable) (hadj : p.totalAdjustment ≤ p.fieldLength)
    (bufs outs : List IOBuf)
    (hwritten : List.Forall₂ (fun buf out => p.write buf = .ok out) bufs outs)
    (hfits : ∀ buf ∈ bufs, buf.chain.length + p.fieldLength ≤ d.maxFrameLength_.toNat)
    (last out : IOBuf) (hlast : p.write last = .ok out)
    (hlastfits : last.chain.length + p.fieldLength ≤ d.maxFrameLength_.toNat)
    (tail s : Bytes) (hs : s ≠ []) (htail : tail ++ s = out.chain) (reads : List SocketRead)
    (hreads : received reads = outs.flatMap IOBuf.chain ++ tail) (fuel : ℕ)
    (hfuel : (received reads).length < fuel) :
    ∃ q, Connection.read d.decode deliver fuel reads Rope.empty
        = .ok (bufs.map fun buf => .read buf.chain, q) ∧ q.flat = tail := by
  have hencodes := h.encodes hd hadj
  obtain ⟨hlastwritten, hout⟩ := chain_of_write hlast
  rw [hout] at htail
  have hstep := hencodes.step_of_prefix ⟨hlastwritten, hlastfits⟩ hs htail
  -- an exception that were due at the beginning would be due at the whole frame
  have hfailure : d.failure tail = none := by
    cases hdue : d.failure tail with
    | none => rfl
    | some e =>
        have hwhole := hencodes last.chain ⟨hlastwritten, hlastfits⟩ []
        rw [List.append_nil, ← htail, (hd.failure_append hdue s).2] at hwhole
        cases hwhole
  have hbodies : ∀ b ∈ bufs.map IOBuf.chain, p.writtenLength b.length < p.bound ∧
      b.length + p.fieldLength ≤ d.maxFrameLength_.toNat := by
    intro b hb
    obtain ⟨buf, hbuf, rfl⟩ := List.mem_map.mp hb
    obtain ⟨i, hi⟩ := List.mem_iff_get.mp hbuf
    have hwrite := hwritten.get i.isLt (hwritten.length_eq ▸ i.isLt)
    rw [show bufs.get ⟨i.1, i.isLt⟩ = buf from hi] at hwrite
    exact ⟨(chain_of_write hwrite).1, hfits buf hbuf⟩
  have hstream : outs.flatMap IOBuf.chain = (bufs.map IOBuf.chain).flatMap p.encode := by
    clear hreads hfits hbodies
    induction hwritten with
    | nil => rfl
    | cons hwrite _ ih =>
        rw [List.flatMap_cons, List.map_cons, List.flatMap_cons, ih, (chain_of_write hwrite).2]
  have hdrain := hencodes.drain_flatMap hbodies hstep
  obtain ⟨hstep₀, hfailure₀⟩ := hd.waits_empty
  obtain ⟨more, q, hread, hnone, -⟩ := hd.connection_drains reads (q := Rope.empty)
    hstep₀ hfailure₀ hfuel
  rw [Rope.flat_empty, List.nil_append, hreads, hstream, hdrain] at hread hnone
  obtain ⟨rfl, hq⟩ := hnone hfailure
  rw [List.append_nil, List.map_map] at hread
  exact ⟨q, hread, hq⟩

lemma deliverable_wholeFrame : wholeFrameDecoder.Deliverable :=
  ⟨⟨.inr (.inl rfl), by decide⟩, by decide⟩

/-- Two bodies, one of them empty, and the first octet of a third one, with lengths that count
themselves. -/
theorem stream_roundTrips_wholeFrame :
    (wholeFrame.Matches wholeFrameDecoder ∧ wholeFrameDecoder.Deliverable ∧
      wholeFrame.totalAdjustment ≤ wholeFrame.fieldLength) ∧
    ∃ q, Connection.read wholeFrameDecoder.decode deliver 7
        [⟨true, [0, 3, 9]⟩, ⟨false, [0, 2, 0]⟩] Rope.empty
      = .ok ([.single [9], .single []].map fun buf => .read (IOBuf.chain buf), q) ∧
        q.flat = [0] := by
  have hmatches : wholeFrame.Matches wholeFrameDecoder := ⟨rfl, rfl, rfl, rfl, rfl⟩
  have hadj : wholeFrame.totalAdjustment ≤ wholeFrame.fieldLength := by decide
  have hwritten : List.Forall₂ (fun buf out => wholeFrame.write buf = .ok out)
      [.single [9], .single []] [⟨[0, 3], [[9]]⟩, ⟨[0, 2], [[]]⟩] :=
    .cons rfl (.cons rfl .nil)
  refine ⟨⟨hmatches, deliverable_wholeFrame, hadj⟩, ?_⟩
  exact stream_roundTrips wholeFrame wholeFrameDecoder hmatches deliverable_wholeFrame hadj
    [.single [9], .single []] [⟨[0, 3], [[9]]⟩, ⟨[0, 2], [[]]⟩] hwritten (by decide)
    (.single [7]) ⟨[0, 3], [[7]]⟩ rfl (by decide) [0] [3, 7] (by decide) rfl
    [⟨true, [0, 3, 9]⟩, ⟨false, [0, 2, 0]⟩] rfl 7 (by decide)

end LengthFieldPrepender

end LittleB
