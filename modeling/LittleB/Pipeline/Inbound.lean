import LittleB.Handlers.Request
import LittleB.Pipeline.Decoder

/-!
The inbound path of `newPipeline`: what a frame becomes depending on the segments
it arrives in, and which streams make a handler throw.

* `requested`: what a frame asks for, from its octets alone;
* `inbound_requested_iff`: the segmentations under which the handlers find it;
* `ByteToMessageDecoder.read_ok_iff`, `Connection.read_ok_iff`: reads return when
  no call of `decode` they make, and no frame they hand on, throws;
* `ShortFrame`, `connection_ok_iff`: which frames make the inbound path throw.
-/

namespace LittleB

open Framer

variable {M : Type}

/-! ### Segmentation -/

/-- What a frame asks for: the command is the first two octets, the message is
parsed from all the others. -/
def requested (reg : PbReflectionManager M) (f : Bytes) : Incoming M :=
  match reg.reflection_data_ (opcode f) with
  | none => .invalid (opcode f)
  | some data => CmdMessageSerializeHandler.parse (opcode f) data (f.drop 2)

/-- In one segment a frame is found as it is. -/
lemma inbound_single (reg : PbReflectionManager M) {f : Bytes} (h : 2 ≤ f.length) :
    inbound reg (.single f) = .ok (requested reg f) := by
  have hfirst : ¬ (IOBuf.single f).length < 2 := by
    change ¬ f.length < 2
    omega
  rw [inbound_eq, IOBuf.chain_single, if_neg (by omega), if_neg hfirst]
  rfl

/-- A chain with further segments holds more than its first one. -/
lemma IOBuf.length_lt_chain {buf : IOBuf} (hne : ∀ s ∈ buf.next, s ≠ []) (hnext : buf.next ≠ []) :
    buf.data.length < buf.chain.length := by
  obtain ⟨s, ss, hs⟩ := List.exists_cons_of_ne_nil hnext
  have hpos : 0 < s.length := List.length_pos_iff.mpr (hne s (by rw [hs]; simp))
  rw [IOBuf.chain, hs, List.length_append, List.flatten_cons, List.length_append]
  omega

/-- **Segmentation**: the handlers find what a frame asks for, as they do when it
arrives in one segment, exactly when it does arrive in one segment, or when its
command is not registered and its first segment holds the opcode. -/
theorem inbound_requested_iff (reg : PbReflectionManager M) (buf : IOBuf)
    (hlen : 2 ≤ buf.chain.length) (hne : ∀ s ∈ buf.next, s ≠ []) :
    (inbound reg buf = .ok (requested reg buf.chain)
        ∧ inbound reg buf = inbound reg (.single buf.chain))
      ↔ buf.next = [] ∨ (reg.IsValidCmd (opcode buf.chain) = false ∧ 2 ≤ buf.length) := by
  rw [inbound_single reg hlen, and_self, inbound_eq, if_neg (by omega)]
  by_cases hnext : buf.next = []
  · have hchain : buf.chain = buf.data := by rw [IOBuf.chain, hnext]; simp
    refine iff_of_true ?_ (.inl hnext)
    rw [if_neg (by rw [IOBuf.length, ← hchain]; omega), hchain]
    rfl
  have hmore := IOBuf.length_lt_chain hne hnext
  by_cases hfirst : buf.length < 2
  · rw [if_pos hfirst]
    refine iff_of_false (by simp) ?_
    rintro (h | ⟨-, h⟩)
    · exact hnext h
    · omega
  rw [if_neg hfirst, CmdMessageSerializeHandler.read, requested, PbReflectionManager.IsValidCmd]
  cases hreg : reg.reflection_data_ (opcode buf.chain) with
  | none => simpa using Or.inr (by omega)
  | some data =>
      refine iff_of_false (fun h => ?_) (by simp [hnext])
      have hbody := CmdMessageSerializeHandler.parse_inj (Except.ok.inj h)
      have hlength := congrArg List.length hbody
      rw [List.length_drop, List.length_drop] at hlength
      rw [IOBuf.length] at hfirst
      omega

/-- The prototype of the login request under its command. -/
def loginRegistry : PbReflectionManager LoginReq where
  reflection_data_ cmd_id := if cmd_id = 101 then some ⟨LoginReq.codec.ParseFromArray⟩ else none

/-- The login request of the examples, on the wire. -/
def loginBody : Bytes := LoginReq.codec.SerializeToString { account := "a", password := "b" }

/-- A request with a command that is not registered, cut into three segments. -/
theorem inbound_requested_unregistered :
    (2 ≤ (⟨[102, 0], [[1], [2, 3]]⟩ : IOBuf).chain.length ∧
      ∀ s ∈ (⟨[102, 0], [[1], [2, 3]]⟩ : IOBuf).next, s ≠ []) ∧
    inbound loginRegistry ⟨[102, 0], [[1], [2, 3]]⟩
      = .ok (requested loginRegistry [102, 0, 1, 2, 3]) ∧
    inbound loginRegistry ⟨[102, 0], [[1], [2, 3]]⟩
      = inbound loginRegistry (.single [102, 0, 1, 2, 3]) := by
  have hlen : 2 ≤ (⟨[102, 0], [[1], [2, 3]]⟩ : IOBuf).chain.length := by decide
  have hne : ∀ s ∈ (⟨[102, 0], [[1], [2, 3]]⟩ : IOBuf).next, s ≠ [] := by decide
  exact ⟨⟨hlen, hne⟩, (inbound_requested_iff loginRegistry ⟨[102, 0], [[1], [2, 3]]⟩ hlen hne).mpr
    (.inr ⟨rfl, by decide⟩)⟩

/-- A login request cut behind its opcode is parsed from no octets at all, which is
a request with an empty account and password. -/
theorem inbound_cut_login :
    (∀ s ∈ [loginBody], s ≠ []) ∧
    inbound loginRegistry ⟨[101, 0], [loginBody]⟩ = .ok (.read 101 [] {}) ∧
    inbound loginRegistry (.single ([101, 0] ++ loginBody))
      = .ok (.read 101 loginBody { account := "a", password := "b" }) ∧
    ¬ (inbound loginRegistry ⟨[101, 0], [loginBody]⟩
          = .ok (requested loginRegistry ([101, 0] ++ loginBody)) ∧
        inbound loginRegistry ⟨[101, 0], [loginBody]⟩
          = inbound loginRegistry (.single ([101, 0] ++ loginBody))) := by
  have hparse : LoginReq.codec.ParseFromArray loginBody
      = (true, { account := "a", password := "b" }) := LoginReq.codec.parse_serialize_eq _
  have hempty : LoginReq.codec.ParseFromArray [] = (true, {}) :=
    LoginReq.codec.parse_serialize_eq {}
  have hne : loginBody ≠ [] := by decide
  have hcut : inbound loginRegistry ⟨[101, 0], [loginBody]⟩ = .ok (.read 101 [] {}) := by
    rw [inbound_eq, if_neg (by simp [IOBuf.chain]), if_neg (by simp [IOBuf.length])]
    exact congrArg Except.ok (CmdMessageSerializeHandler.parse_of_ok hempty)
  have hwhole : inbound loginRegistry (.single ([101, 0] ++ loginBody))
      = .ok (.read 101 loginBody { account := "a", password := "b" }) := by
    rw [inbound_single loginRegistry (by simp)]
    exact congrArg Except.ok (CmdMessageSerializeHandler.parse_of_ok hparse)
  refine ⟨by simpa using hne, hcut, hwhole, fun h => ?_⟩
  rw [hcut, hwhole] at h
  have hbody : [] = loginBody := (Incoming.read.inj (Except.ok.inj h.2)).2.1
  exact hne hbody.symm

/-! ### Reads that return -/

section Returns

variable {E : Type} (decode : IOBufQueue → Except Fault Decoded) (fireRead : IOBuf → Except Fault E)

/-- A call of `decode` returns, and so do the handlers behind it when it hands out
a frame. -/
def Returns (q : IOBufQueue) : Prop :=
  match decode q with
  | .error _ => False
  | .ok (.frame result _) => ∃ e, fireRead result = .ok e
  | .ok _ => True

/-- A decoder that takes octets off the queue for every frame, and never puts any
there. -/
structure Shrinking : Prop where
  frame : ∀ q result q', decode q = .ok (.frame result q') → q'.flat.length < q.flat.length
  exception : ∀ q e q', decode q = .ok (.exception e q') → q'.flat.length ≤ q.flat.length

variable {decode fireRead}

/-- One read returns exactly when every call it makes does. -/
lemma ByteToMessageDecoder.read_ok_iff (hd : Shrinking decode) {fuel : ℕ} {q : IOBufQueue}
    (hfuel : q.flat.length < fuel) :
    (∃ out, ByteToMessageDecoder.read decode fireRead fuel q = .ok out)
      ↔ ∀ c ∈ ByteToMessageDecoder.calls decode fireRead fuel q, Returns decode fireRead c := by
  induction fuel generalizing q with
  | zero => omega
  | succ fuel ih =>
      rw [ByteToMessageDecoder.read, ByteToMessageDecoder.calls, List.forall_mem_cons, Returns]
      cases hdec : decode q with
      | error e => simp [bind, Except.bind]
      | ok d =>
          cases d with
          | more => simp [bind, Except.bind, pure, Except.pure]
          | exception e q' => simp [bind, Except.bind, pure, Except.pure]
          | frame result q' =>
              have hlt := hd.frame q result q' hdec
              cases hfire : fireRead result with
              | error e => simp [bind, Except.bind, hfire]
              | ok e =>
                  have hrest := ih (q := q') (by omega)
                  simp only [bind, Except.bind, hfire, Except.ok.injEq, exists_eq', true_and]
                  rw [← hrest]
                  cases ByteToMessageDecoder.read decode fireRead fuel q' with
                  | error e' => simp
                  | ok out => simp [pure, Except.pure]

/-- One read leaves no more in the queue than it found. -/
lemma ByteToMessageDecoder.length_le_of_read (hd : Shrinking decode) {fuel : ℕ}
    {q q'' : IOBufQueue} {fired : List (Fired E)}
    (h : ByteToMessageDecoder.read decode fireRead fuel q = .ok (fired, q'')) :
    q''.flat.length ≤ q.flat.length := by
  induction fuel generalizing q fired with
  | zero => cases h
  | succ fuel ih =>
      rw [ByteToMessageDecoder.read] at h
      cases hdec : decode q with
      | error e => rw [hdec] at h; cases h
      | ok d =>
          rw [hdec] at h
          cases d with
          | more =>
              obtain ⟨-, rfl⟩ := Prod.mk.inj (Except.ok.inj h)
              exact le_rfl
          | exception e q' =>
              obtain ⟨-, rfl⟩ := Prod.mk.inj (Except.ok.inj h)
              exact hd.exception q e q' hdec
          | frame result q' =>
              have hlt := hd.frame q result q' hdec
              cases hfire : fireRead result with
              | error e => simp [bind, Except.bind, hfire] at h
              | ok e =>
                  cases hrest : ByteToMessageDecoder.read decode fireRead fuel q' with
                  | error e' => simp [bind, Except.bind, hfire, hrest] at h
                  | ok out =>
                      simp only [bind, Except.bind, hfire, hrest] at h
                      obtain ⟨-, rfl⟩ := Prod.mk.inj (Except.ok.inj h)
                      have := ih hrest
                      omega

/-- **The reads of a connection** return exactly when every call of `decode` they
make returns, and every frame handed on is taken. -/
theorem Connection.read_ok_iff (hd : Shrinking decode) {fuel : ℕ} (reads : List SocketRead)
    {q : IOBufQueue} (hfuel : (q.flat ++ received reads).length < fuel) :
    (∃ out, Connection.read decode fireRead fuel reads q = .ok out)
      ↔ ∀ c ∈ Connection.calls decode fireRead fuel reads q, Returns decode fireRead c.1 := by
  induction reads generalizing q with
  | nil => exact iff_of_true ⟨_, rfl⟩ (by simp [Connection.calls])
  | cons r rs ih =>
      have hpush : ((q.push r.fresh r.bytes).flat ++ received rs).length < fuel := by
        rw [Rope.flat_push, List.append_assoc, ← received_cons]
        exact hfuel
      have hnow : (q.push r.fresh r.bytes).flat.length < fuel := by
        rw [List.length_append] at hpush
        omega
      rw [Connection.read, Connection.calls, List.forall_mem_append, List.forall_mem_map,
        ← ByteToMessageDecoder.read_ok_iff hd hnow]
      cases hread : ByteToMessageDecoder.read decode fireRead fuel (q.push r.fresh r.bytes) with
      | error e => simp [bind, Except.bind]
      | ok out =>
          have hle := ByteToMessageDecoder.length_le_of_read hd hread
          have hrest := ih (q := out.2) (by rw [List.length_append] at hpush ⊢; omega)
          simp only [bind, Except.bind, Except.ok.injEq, exists_eq', true_and]
          rw [← hrest]
          cases Connection.read decode fireRead fuel rs out.2 with
          | error e => simp
          | ok out' => simp [pure, Except.pure]

end Returns

/-! ### Frames that make a handler throw -/

lemma shrinking_server : Shrinking newPipeline.decoder.decode where
  frame q result q' h := by
    rw [decode_server] at h
    split_ifs at h with h1 h2 h3
    all_goals cases h
    rw [Rope.flat_drop, Rope.flat_drop, List.length_drop, List.length_drop]
    omega
  exception q e q' h := by
    rw [decode_server] at h
    split_ifs at h with h1 h2 h3
    all_goals cases h
    rw [Rope.flat_drop, List.length_drop]
    omega

/-- A complete frame within the maximum stands at the front of the queue, and its
body, or the first segment of its body, is too short for an opcode. -/
def ShortFrame (q : IOBufQueue) : Prop :=
  ¬ Oversized q.flat ∧ 2 ≤ q.flat.length ∧ lengthField q.flat + 2 ≤ q.flat.length ∧
    (lengthField q.flat < 2 ∨ ((q.drop 2).take (lengthField q.flat)).head.length < 2)

/-- A call of the server's decoder returns, with the handlers behind it, exactly
when it does not meet such a frame. -/
lemma returns_server_iff (reg : PbReflectionManager M) (q : IOBufQueue) :
    Returns newPipeline.decoder.decode (inbound reg) q ↔ ¬ ShortFrame q := by
  rw [Returns, decode_server, ShortFrame, Oversized]
  by_cases hshort : q.flat.length < 2
  · rw [if_pos hshort]
    exact iff_of_true trivial (by omega)
  rw [if_neg hshort]
  by_cases hover : 65536 < lengthField q.flat + 2
  · rw [if_pos hover]
    exact iff_of_true trivial fun h => h.1 ⟨by omega, hover⟩
  rw [if_neg hover]
  by_cases hwait : q.flat.length < lengthField q.flat + 2
  · rw [if_pos hwait]
    exact iff_of_true trivial (by omega)
  rw [if_neg hwait]
  have hchain : (IOBuf.chain ⟨((q.drop 2).take (lengthField q.flat)).head,
      ((q.drop 2).take (lengthField q.flat)).tail⟩).length = lengthField q.flat := by
    rw [IOBufQueue.chain_take, Rope.flat_drop, List.length_take, List.length_drop]
    omega
  simp only [inbound_eq, hchain]
  by_cases hn : lengthField q.flat < 2
  · rw [if_pos hn]
    refine iff_of_false (by simp) fun h => h ⟨fun ho => hover ho.2, by omega, by omega, .inl hn⟩
  rw [if_neg hn, IOBuf.length]
  by_cases hfirst : ((q.drop 2).take (lengthField q.flat)).head.length < 2
  · rw [if_pos hfirst]
    exact iff_of_false (by simp) fun h => h ⟨fun ho => hover ho.2, by omega, by omega, .inr hfirst⟩
  · rw [if_neg hfirst]
    exact iff_of_true ⟨_, rfl⟩ (by omega)

/-- **Faults of the inbound path**: the reads of a connection return, whatever the
peer sends, exactly when no call of `decode` meets a frame too short for its
opcode. -/
theorem connection_ok_iff (reg : PbReflectionManager M) (reads : List SocketRead) (fuel : ℕ)
    (hfuel : (received reads).length < fuel) :
    (∃ out, Connection.read newPipeline.decoder.decode (inbound reg) fuel reads Rope.empty
        = .ok out)
      ↔ ∀ c ∈ Connection.calls newPipeline.decoder.decode (inbound reg) fuel reads Rope.empty,
        ¬ ShortFrame c.1 := by
  rw [Connection.read_ok_iff shrinking_server reads hfuel]
  exact forall₂_congr fun c _ => returns_server_iff reg c.1

/-- One frame that holds an opcode and nothing else. -/
theorem connection_ok_opcode :
    (received [⟨true, [2, 0, 101, 0]⟩]).length < 5 ∧
    ((∃ out, Connection.read newPipeline.decoder.decode (inbound loginRegistry) 5
        [⟨true, [2, 0, 101, 0]⟩] Rope.empty = .ok out)
      ↔ ∀ c ∈ Connection.calls newPipeline.decoder.decode (inbound loginRegistry) 5
          [⟨true, [2, 0, 101, 0]⟩] Rope.empty, ¬ ShortFrame c.1) :=
  ⟨by decide, connection_ok_iff loginRegistry [⟨true, [2, 0, 101, 0]⟩] 5 (by decide)⟩

/-- The empty frame: two zero octets stop the server. -/
theorem connection_empty_frame :
    ¬ ∃ out, Connection.read newPipeline.decoder.decode (inbound loginRegistry) 3
      [⟨true, [0, 0]⟩] Rope.empty = .ok out := by
  have hthrows : Connection.read newPipeline.decoder.decode (inbound loginRegistry) 3
      [⟨true, [0, 0]⟩] Rope.empty = .error .out_of_range := rfl
  rw [hthrows]
  rintro ⟨out, hout⟩
  cases hout

end LittleB
