import LittleB.Foundations.Framing
import LittleB.Handlers.FrameLengths

/-!
The decoder as `newPipeline` of `minigame_server/minigame_sever_main.cpp`
configures it: a length field of two octets, not in network order, not counting
itself, frames of at most 65536 octets with it.

* `newPipeline.decoder`: the configuration;
* `framer`, `frame`: the framing of the client without the maximum, and a frame
  on the wire, `framer_encodes`;
* `Oversized`: the front of the queue is the header of a frame past the maximum;
* `readable_server`, `decode_server`: one call of `decode` in closed form, as the general
  closed form has it for this configuration, and `decode_of_step_none`,
  `decode_of_step_some`, `decode_of_oversized`, the same in terms of the framer.
-/

namespace LittleB

open Framer

/-! ### The configuration -/

/-- `libsrc/common_def.h`. -/
def PKG_LENGTH_FIELD_SIZE : UInt32 := 2

/-- The decoder `newPipeline` puts at the front of the pipeline. -/
def newPipeline.decoder : LengthFieldBasedFrameDecoder where
  lengthFieldLength_ := PKG_LENGTH_FIELD_SIZE
  maxFrameLength_ := 65536
  lengthFieldOffset_ := 0
  lengthAdjustment_ := 0
  initialBytesToStrip_ := PKG_LENGTH_FIELD_SIZE
  networkByteOrder_ := false
  maxFrameLength_pos := by decide
  lengthFieldOffset_le := by decide

/-- The framing of the client: every length that two octets can express. -/
def framer : Framer UInt8 Bytes := lengthPrefixed 2 65537 (by norm_num)

/-- A frame on the wire: the length of the body, then the body. -/
def frame (body : Bytes) : Bytes := lengthPrefix 2 body

@[simp] lemma frame_length (body : Bytes) : (frame body).length = body.length + 2 := by
  rw [frame, lengthPrefix_length, Nat.add_comm]

/-- The framer reads back every body whose length two octets can express. -/
lemma framer_encodes : framer.Encodes frame fun body => body.length < 65536 := by
  intro body hbody r
  exact encodes_lengthPrefix 2 65537 (by norm_num) body ⟨by omega, by omega⟩ r

/-- The value of the length field at the front of a queue. -/
def lengthField (bs : Bytes) : ℕ := Bytes.ofLE (bs.take 2)

/-- The front of the queue is the length field of a frame past the maximum. -/
def Oversized (bs : Bytes) : Prop := 2 ≤ bs.length ∧ 65536 < lengthField bs + 2

instance (bs : Bytes) : Decidable (Oversized bs) := inferInstanceAs (Decidable (_ ∧ _))

lemma lengthField_lt (bs : Bytes) : lengthField bs < 65536 := by
  have h := Bytes.ofLE_lt (bs.take 2)
  have hlen : (bs.take 2).length ≤ 2 := by rw [List.length_take]; omega
  have hpow : 256 ^ (bs.take 2).length ≤ 256 ^ 2 := Nat.pow_le_pow_right (by norm_num) hlen
  rw [lengthField]
  omega

/-- Only one length is past the maximum. -/
lemma Oversized.lengthField_eq {bs : Bytes} (h : Oversized bs) : lengthField bs = 65535 := by
  have h1 := lengthField_lt bs
  have h2 := h.2
  omega

/-! ### One call of `decode` -/

lemma step_framer (bs : Bytes) :
    framer.step bs =
      if bs.length < 2 then none
      else if bs.length < lengthField bs + 2 then none
      else some ((bs.drop 2).take (lengthField bs), bs.drop (lengthField bs + 2)) := by
  have hfit : ¬ 65537 < lengthField bs + 2 := by
    have := lengthField_lt bs
    omega
  change (if bs.length < 2 then none else if 65537 < lengthField bs + 2 then none else _) = _
  rw [if_neg hfit]
  rfl

lemma readable_server : newPipeline.decoder.Readable := ⟨.inr (.inl rfl), by decide⟩

/-- The length of the frame counts the length field in. -/
lemma frameLength_server (bs : Bytes) :
    newPipeline.decoder.frameLength bs = lengthField bs + 2 := by
  have hlt := lengthField_lt bs
  have hraw : newPipeline.decoder.rawLength bs = lengthField bs := rfl
  have hend : ((newPipeline.decoder.lengthAdjustment_.toInt + newPipeline.decoder.fieldEnd)
      % 2 ^ 32).toNat = 2 := rfl
  rw [LengthFieldBasedFrameDecoder.frameLength, hraw, hend, Nat.mod_eq_of_lt (by omega)]

/-- One call of `decode` on the queue, in closed form. -/
lemma decode_server (q : IOBufQueue) :
    newPipeline.decoder.decode q =
      if q.flat.length < 2 then .ok .more
      else if 65536 < lengthField q.flat + 2 then
        .ok (.exception (.tooLarge 65536) (q.drop (lengthField q.flat + 2)))
      else if q.flat.length < lengthField q.flat + 2 then .ok .more
      else
        .ok (.frame ⟨((q.drop 2).take (lengthField q.flat)).head,
          ((q.drop 2).take (lengthField q.flat)).tail⟩ ((q.drop 2).drop (lengthField q.flat))) := by
  have hlt := lengthField_lt q.flat
  have hend : newPipeline.decoder.fieldEnd = 2 := rfl
  have hmax : newPipeline.decoder.maxFrameLength_.toNat = 65536 := rfl
  have hstrip : newPipeline.decoder.initialBytesToStrip_.toNat = 2 := rfl
  by_cases hshort : q.flat.length < 2
  · rw [LengthFieldBasedFrameDecoder.decode, IOBufQueue.chainLength_eq,
      readable_server.fieldEnd_eq, hend, if_pos hshort, if_pos hshort]
    rfl
  rw [if_neg hshort, readable_server.decode_eq (by omega)
    (fun _ _ _ _ => .inr (by rw [frameLength_server]; omega)),
    LengthFieldBasedFrameDecoder.decodeFrame, frameLength_server, hend, hmax, hstrip,
    if_neg (by omega)]
  by_cases hover : 65536 < lengthField q.flat + 2
  · rw [if_pos hover, if_pos hover]
    rfl
  by_cases hwait : q.flat.length < lengthField q.flat + 2
  · rw [if_neg hover, if_neg hover, if_pos hwait, if_pos hwait]
  · rw [if_neg hover, if_neg hover, if_neg hwait, if_neg hwait, if_neg (by omega),
      if_neg (by omega), Nat.add_sub_cancel]

/-! ### `decode` and the framer -/

/-- At an oversized header the decoder drops what it can of the frame. -/
lemma decode_of_oversized {q : IOBufQueue} (h : Oversized q.flat) :
    newPipeline.decoder.decode q = .ok (.exception (.tooLarge 65536) (q.drop 65537)) := by
  rw [decode_server, if_neg (by have := h.1; omega), if_pos h.2, h.lengthField_eq]

/-- Where the framer waits, and not for an oversized frame, the decoder waits. -/
lemma decode_of_step_none {q : IOBufQueue} (hstep : framer.step q.flat = none)
    (h : ¬ Oversized q.flat) : newPipeline.decoder.decode q = .ok .more := by
  rw [step_framer] at hstep
  rw [decode_server]
  split_ifs at hstep ⊢ with h1 h2 h3
  · rfl
  · exact absurd ⟨by omega, h2⟩ h
  · rfl

/-- Where the framer takes a frame within the maximum off, the decoder hands it
out. -/
lemma decode_of_step_some {q : IOBufQueue} {b r : Bytes} (hstep : framer.step q.flat = some (b, r))
    (h : ¬ Oversized q.flat) :
    ∃ result q', newPipeline.decoder.decode q = .ok (.frame result q') ∧ result.chain = b ∧
      q'.flat = r := by
  rw [step_framer] at hstep
  rw [decode_server]
  split_ifs at hstep ⊢ with h1 h2 h3
  · exact absurd ⟨by omega, by assumption⟩ h
  · obtain ⟨rfl, rfl⟩ := Prod.mk.inj (Option.some.inj hstep)
    refine ⟨_, _, rfl, ?_, ?_⟩
    · rw [IOBufQueue.chain_take, Rope.flat_drop]
    · rw [Rope.flat_drop, Rope.flat_drop, List.drop_drop, Nat.add_comm]

/-- The framer takes an oversized frame off once it is complete. -/
lemma Oversized.step_framer {bs : Bytes} (h : Oversized bs) :
    framer.step bs = if bs.length < 65537 then none else some ((bs.drop 2).take 65535,
      bs.drop 65537) := by
  rw [LittleB.step_framer, if_neg (by have := h.1; omega), h.lengthField_eq]

/-- The front of a frame on the wire is oversized exactly for a body past the
maximum, as soon as the length field is there. -/
lemma oversized_iff_of_append {q s r body : Bytes} (hbody : body.length < 65536)
    (hq : q ++ s = frame body ++ r) : Oversized q ↔ 2 ≤ q.length ∧ 65534 < body.length := by
  rw [Oversized]
  refine and_congr_right fun hlen => ?_
  have hfield : lengthField q = body.length := by
    have htake : (q ++ s).take 2 = q.take 2 := List.take_append_of_le_length hlen
    rw [lengthField, ← htake, hq]
    exact ofLE_take_lengthPrefix hbody r
  rw [hfield]
  omega

end LittleB
