import LittleB.Handlers.FrameRoundTrip
import LittleB.Pipeline.Decoder

/-!
The encoder as `newPipeline` of `minigame_server/minigame_sever_main.cpp` configures
it, against the decoder in front of it.

* `newPipeline.prepender`: the configuration;
* `write_server`: one call of `write` in closed form;
* `matches_server`: the decoder is the one for what the encoder writes, so that the
  general round trip covers the short bodies;
* `Agrees`, `agrees_iff`: what is written is decoded and what does not fit is refused,
  which is so except for one length and for lengths that an `int` wraps;
* `longest_body_rejected`: that one length.
-/

namespace LittleB

open Framer

/-- The encoder `newPipeline` puts behind the decoder. -/
def newPipeline.prepender : LengthFieldPrepender where
  lengthFieldLength_ := PKG_LENGTH_FIELD_SIZE.toInt32
  lengthAdjustment_ := 0
  lengthIncludesLengthField_ := false
  networkByteOrder_ := false
  lengthFieldLength_mem := by decide

/-! ### One call of `write` -/

/-- The length as an `int`: the low 32 bits of the number of octets. -/
lemma length_server (buf : IOBuf) :
    newPipeline.prepender.length buf = .ok (UInt32.ofNat buf.chain.length).toInt32 := by
  have h0 : newPipeline.prepender.lengthAdjustment_.toInt64.toUInt64 = 0 := rfl
  have hincludes : newPipeline.prepender.lengthIncludesLengthField_ = false := rfl
  rw [LengthFieldPrepender.length, h0, hincludes, UInt64.zero_add]
  simp [IOBuf.computeChainDataLength]

/-- One call of `write`, in closed form: it looks at the length modulo `2 ^ 32` only. -/
lemma write_server (buf : IOBuf) :
    newPipeline.prepender.write buf =
      if 2 ^ 31 ≤ buf.chain.length % 2 ^ 32 then .error .negative
      else if 65536 ≤ buf.chain.length % 2 ^ 32 then .error .doesNotFit
      else .ok ⟨Bytes.toLE 2 (buf.chain.length % 2 ^ 32), buf.data :: buf.next⟩ := by
  have h2 : newPipeline.prepender.lengthFieldLength_ = 2 := rfl
  have hn : (UInt32.ofNat buf.chain.length).toNat = buf.chain.length % 2 ^ 32 :=
    UInt32.toNat_ofNat'
  have hint := toInt_toInt32 (UInt32.ofNat buf.chain.length)
  rw [hn] at hint
  have hsize (h : buf.chain.length % 2 ^ 32 < 2 ^ 31) :
      LengthFieldBasedFrameDecoder.sizeOfInt (UInt32.ofNat buf.chain.length).toInt32
        = buf.chain.length % 2 ^ 32 := by
    rw [LengthFieldBasedFrameDecoder.sizeOfInt_toInt32 (by rw [hn]; exact h), hn]
  have hzero : (0 : Int32).toInt = 0 := rfl
  have hmax : (65536 : Int32).toInt = 65536 := rfl
  rw [LengthFieldPrepender.write, length_server]
  generalize (UInt32.ofNat buf.chain.length).toInt32 = length at hint hsize ⊢
  simp only [bind, Except.bind, h2, Int32.lt_iff_toInt_lt, ge_iff_le, Int32.le_iff_toInt_le, hzero,
    hmax]
  by_cases hneg : 2 ^ 31 ≤ buf.chain.length % 2 ^ 32
  · rw [if_neg (by omega)] at hint
    rw [if_pos hneg, if_pos (by omega)]
  rw [if_pos (by omega)] at hint
  rw [if_neg hneg, if_neg (by omega), if_neg (by decide), if_pos trivial]
  by_cases hlong : 65536 ≤ buf.chain.length % 2 ^ 32
  · rw [if_pos hlong, if_pos (by omega)]
  · rw [if_neg hlong, if_neg (by omega), LengthFieldPrepender.field, hsize (by omega)]
    rfl

/-! ### Encoder and decoder -/

/-- The encoder writes a body that two octets can express as a frame of the client. -/
lemma write_of_lt {buf : IOBuf} (h : buf.chain.length < 65536) :
    ∃ out, newPipeline.prepender.write buf = .ok out ∧ out.chain = frame buf.chain := by
  have hmod : buf.chain.length % 2 ^ 32 = buf.chain.length := Nat.mod_eq_of_lt (by omega)
  rw [write_server, hmod, if_neg (by omega), if_neg (by omega)]
  exact ⟨_, rfl, rfl⟩

/-- The two ends of a connection agree on a body: what is written is decoded, whatever
follows and in whatever segments it arrives, and it is refused exactly when two octets
cannot express its length. -/
structure Agrees (buf : IOBuf) : Prop where
  decoded : ∀ out, newPipeline.prepender.write buf = .ok out →
    ∀ (s : Bytes) (q : IOBufQueue), q.flat = out.chain ++ s →
      ∃ result q', newPipeline.decoder.decode q = .ok (.frame result q') ∧
        result.chain = buf.chain ∧ q'.flat = s
  refused : (∃ e, newPipeline.prepender.write buf = .error e) ↔ 2 ^ 16 ≤ buf.chain.length

/-- The decoder is the one for what the encoder writes. -/
lemma matches_server : newPipeline.prepender.Matches newPipeline.decoder :=
  ⟨rfl, rfl, rfl, rfl, rfl⟩

/-- A body up to 65534 octets goes through. -/
lemma agrees_of_lt {buf : IOBuf} (h : buf.chain.length < 65535) : Agrees buf := by
  have hwritten : newPipeline.prepender.writtenLength buf.chain.length
      < newPipeline.prepender.bound := by
    change ((buf.chain.length + 0 : ℤ) % 2 ^ 32).toNat < 65536
    omega
  have hmax : buf.chain.length + newPipeline.prepender.fieldLength
      ≤ newPipeline.decoder.maxFrameLength_.toNat := by
    change buf.chain.length + 2 ≤ 65536
    omega
  refine ⟨matches_server.roundTrips hmax hwritten (by decide) (by omega),
    iff_of_false ?_ (by omega)⟩
  rintro ⟨e, he⟩
  obtain ⟨out, hwrite, -⟩ := write_of_lt (show buf.chain.length < 65536 by omega)
  cases hwrite.symm.trans he

/-- The body of 65535 octets is written, and rejected by the decoder. -/
lemma not_agrees_of_eq {buf : IOBuf} (h : buf.chain.length = 65535) : ¬ Agrees buf := by
  intro hagrees
  obtain ⟨out, hwrite, hchain⟩ := write_of_lt (show buf.chain.length < 65536 by omega)
  have hq : (Rope.empty.push true (frame buf.chain)).flat = frame buf.chain := Rope.flat_push _ _ _
  obtain ⟨result, q', hdecode, -, -⟩ := hagrees.decoded out hwrite []
    (Rope.empty.push true (frame buf.chain)) (by rw [hq, hchain, List.append_nil])
  have hover : Oversized (Rope.empty.push true (frame buf.chain)).flat := by
    rw [hq, oversized_iff_of_append (s := []) (r := [])
      (show buf.chain.length < 65536 by omega) rfl,
      frame_length]
    omega
  rw [decode_of_oversized hover] at hdecode
  cases hdecode

/-- **What fits**: the encoder and the decoder agree on a body exactly when it has
fewer than 65535 octets, or more of them and also modulo `2 ^ 32` more than 65535. -/
theorem agrees_iff (buf : IOBuf) :
    Agrees buf ↔ buf.chain.length < 65535 ∨
      65535 < buf.chain.length ∧ 65535 < buf.chain.length % 2 ^ 32 := by
  rcases lt_trichotomy buf.chain.length 65535 with hlt | heq | hgt
  · exact iff_of_true (agrees_of_lt hlt) (.inl hlt)
  · exact iff_of_false (not_agrees_of_eq heq) (by omega)
  · rw [or_iff_right (by omega), and_iff_right hgt]
    by_cases hwraps : 65535 < buf.chain.length % 2 ^ 32
    · have herror : ∃ e, newPipeline.prepender.write buf = .error e := by
        rw [write_server]
        split_ifs with h1 h2
        · exact ⟨_, rfl⟩
        · exact ⟨_, rfl⟩
        · omega
      refine iff_of_true ⟨fun out hout => ?_, iff_of_true herror (by omega)⟩ hwraps
      obtain ⟨e, he⟩ := herror
      rw [he] at hout
      cases hout
    · refine iff_of_false (fun hagrees => ?_) hwraps
      obtain ⟨e, he⟩ := hagrees.refused.mpr (by omega)
      rw [write_server, if_neg (by omega), if_neg (by omega)] at he
      cases he

/-- The longest body that the encoder writes. -/
theorem longest_body_rejected : ¬ Agrees (IOBuf.single (List.replicate 65535 0)) := by
  refine not_agrees_of_eq ?_
  rw [IOBuf.chain_single, List.length_replicate]

end LittleB
