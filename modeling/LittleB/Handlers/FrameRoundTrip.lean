import LittleB.Handlers.FrameLengths
import LittleB.Handlers.LengthFieldPrepender

/-!
The encoder against the decoder, over every pair of configurations that match.

* `totalAdjustment`, `writtenLength`, `bound`: what the encoder adds to the length of a
  body, the number it writes and where it stops to write numbers;
* `write_of_lt`, `write_of_ge`: one call of `write`, in closed form;
* `Matches`: the decoder for what the encoder writes;
* `RoundTrips`, `frame_roundTrips_iff`: when the decoder delivers what was written.
-/

namespace LittleB

namespace LengthFieldPrepender

variable (p : LengthFieldPrepender)

/-! ### One call of `write` -/

/-- The number of octets of the length field. -/
def fieldLength : ℕ := p.lengthFieldLength_.toInt.toNat

/-- What is added to the length of the body. -/
def totalAdjustment : ℤ :=
  p.lengthAdjustment_.toInt + if p.lengthIncludesLengthField_ then p.fieldLength else 0

/-- The number in the length field of a body of `n` octets. -/
def writtenLength (n : ℕ) : ℕ := ((n + p.totalAdjustment) % 2 ^ 32).toNat

/-- The numbers that `write` refuses start here. -/
def bound : ℕ := if p.fieldLength = 1 then 256 else if p.fieldLength = 2 then 65536 else 2 ^ 31

/-- A number in the length field. -/
def fieldOctets (n : ℕ) : Bytes :=
  if p.networkByteOrder_ then (Bytes.toLE p.fieldLength n).reverse else Bytes.toLE p.fieldLength n

variable {p}

lemma fieldLength_cases (p : LengthFieldPrepender) :
    p.lengthFieldLength_ = 1 ∧ p.fieldLength = 1 ∨ p.lengthFieldLength_ = 2 ∧ p.fieldLength = 2 ∨
      p.lengthFieldLength_ = 4 ∧ p.fieldLength = 4 ∨
      p.lengthFieldLength_ = 8 ∧ p.fieldLength = 8 := by
  rw [fieldLength]
  rcases p.lengthFieldLength_mem with h | h | h | h
  · exact .inl ⟨h, by rw [h]; rfl⟩
  · exact .inr (.inl ⟨h, by rw [h]; rfl⟩)
  · exact .inr (.inr (.inl ⟨h, by rw [h]; rfl⟩))
  · exact .inr (.inr (.inr ⟨h, by rw [h]; rfl⟩))

lemma toInt_lengthFieldLength (p : LengthFieldPrepender) :
    p.lengthFieldLength_.toInt = p.fieldLength := by
  rcases p.fieldLength_cases with ⟨h, hf⟩ | ⟨h, hf⟩ | ⟨h, hf⟩ | ⟨h, hf⟩ <;> rw [h, hf] <;> rfl

lemma writtenLength_lt (p : LengthFieldPrepender) (n : ℕ) : p.writtenLength n < 2 ^ 32 := by
  rw [writtenLength]
  omega

/-- The length before the field is counted in. -/
lemma toNat_length (p : LengthFieldPrepender) (n : ℕ) :
    ((p.lengthAdjustment_.toInt64.toUInt64 + UInt64.ofNat n).toUInt32.toNat : ℤ)
      = (n + p.lengthAdjustment_.toInt) % 2 ^ 32 := by
  have hadj := LengthFieldBasedFrameDecoder.sizeOfInt_eq p.lengthAdjustment_
  rw [UInt64.toNat_toUInt32, UInt64.toNat_add, UInt64.toNat_ofNat']
  rw [LengthFieldBasedFrameDecoder.sizeOfInt] at hadj
  omega

/-- The value of the length field: the written number as an `int`, unless that overflows. -/
lemma length_spec (p : LengthFieldPrepender) (buf : IOBuf) :
    p.length buf = .error .overflow ∧ 2 ^ 31 ≤ p.writtenLength buf.chain.length ∨
      ∃ len, p.length buf = .ok len ∧ len.toInt = if p.writtenLength buf.chain.length < 2 ^ 31
        then (p.writtenLength buf.chain.length : ℤ)
        else p.writtenLength buf.chain.length - 2 ^ 32 := by
  have hx := p.toNat_length buf.computeChainDataLength
  have hf := p.toInt_lengthFieldLength
  have hle : p.fieldLength ≤ 8 := by
    rcases p.fieldLength_cases with ⟨-, h⟩ | ⟨-, h⟩ | ⟨-, h⟩ | ⟨-, h⟩ <;> omega
  rw [length, writtenLength, totalAdjustment]
  rw [IOBuf.computeChainDataLength] at hx ⊢
  generalize (p.lengthAdjustment_.toInt64.toUInt64 + UInt64.ofNat buf.chain.length).toUInt32 = x
    at hx ⊢
  have hint := toInt_toInt32 x
  cases p.lengthIncludesLengthField_ with
  | false =>
      refine .inr ⟨_, rfl, ?_⟩
      rw [hint]
      simp only [Bool.false_eq_true, if_false]
      split_ifs <;> omega
  | true =>
      have hlow := x.toInt32.le_toInt
      simp only [if_true]
      rw [hf]
      by_cases hover : x.toInt32.toInt + p.fieldLength < 2 ^ 31
      · refine .inr ⟨_, if_pos hover, ?_⟩
        rw [Int32.toInt_add, hf, Int.bmod_eq_of_le (by omega) (by omega), hint]
        split_ifs <;> omega
      · refine .inl ⟨if_neg hover, ?_⟩
        rw [hint] at hover
        split_ifs at hover <;> omega

/-- A number below the bound is written. -/
lemma write_of_lt {buf : IOBuf} (h : p.writtenLength buf.chain.length < p.bound) :
    p.write buf
      = .ok ⟨p.fieldOctets (p.writtenLength buf.chain.length), buf.data :: buf.next⟩ := by
  have hbound : p.bound ≤ 2 ^ 31 := by
    rw [bound]
    split_ifs <;> norm_num
  rcases p.length_spec buf with ⟨-, hge⟩ | ⟨len, hlen, hvalue⟩
  · omega
  rw [if_pos (by omega)] at hvalue
  have hsize : LengthFieldBasedFrameDecoder.sizeOfInt len = p.writtenLength buf.chain.length := by
    have hsize := LengthFieldBasedFrameDecoder.sizeOfInt_eq len
    omega
  have hnonneg : ¬ len < 0 := by
    rw [Int32.lt_iff_toInt_lt, hvalue, show (0 : Int32).toInt = 0 from rfl]
    omega
  rw [write, hlen]
  simp only [bind, Except.bind, if_neg hnonneg, field, hsize]
  rw [fieldOctets]
  rw [bound] at h
  rcases p.fieldLength_cases with ⟨hl, hf⟩ | ⟨hl, hf⟩ | ⟨hl, hf⟩ | ⟨hl, hf⟩
  · have hfits : ¬ len ≥ 256 := by
      rw [ge_iff_le, Int32.le_iff_toInt_le, hvalue, show (256 : Int32).toInt = 256 from rfl]
      rw [if_pos hf] at h
      omega
    simp only [hl, hf, if_true, if_neg hfits]
    rfl
  · have hfits : ¬ len ≥ 65536 := by
      rw [ge_iff_le, Int32.le_iff_toInt_le, hvalue, show (65536 : Int32).toInt = 65536 from rfl]
      rw [if_neg (by omega), if_pos hf] at h
      omega
    have h21 : ¬ (2 : Int32) = 1 := by decide
    simp only [hl, hf, if_true, if_neg h21, if_neg hfits]
    rfl
  · have h41 : ¬ (4 : Int32) = 1 := by decide
    have h42 : ¬ (4 : Int32) = 2 := by decide
    simp only [hl, hf, if_true, if_neg h41, if_neg h42]
    rfl
  · have h81 : ¬ (8 : Int32) = 1 := by decide
    have h82 : ¬ (8 : Int32) = 2 := by decide
    have h84 : ¬ (8 : Int32) = 4 := by decide
    simp only [hl, hf, if_true, if_neg h81, if_neg h82, if_neg h84]
    rfl

/-- A number from the bound on is refused. -/
lemma write_of_ge {buf : IOBuf} (h : p.bound ≤ p.writtenLength buf.chain.length) :
    ∃ e, p.write buf = .error e := by
  rcases p.length_spec buf with ⟨hover, -⟩ | ⟨len, hlen, hvalue⟩
  · exact ⟨.overflow, by rw [write, hover]; rfl⟩
  by_cases hneg : len < 0
  · refine ⟨.negative, ?_⟩
    rw [write, hlen]
    simp only [bind, Except.bind, if_pos hneg]
  have hsmall : p.writtenLength buf.chain.length < 2 ^ 31 := by
    have hlt := p.writtenLength_lt buf.chain.length
    rw [Int32.lt_iff_toInt_lt, hvalue, show (0 : Int32).toInt = 0 from rfl] at hneg
    split_ifs at hneg with hsmall
    · exact hsmall
    · omega
  rw [if_pos hsmall] at hvalue
  refine ⟨.doesNotFit, ?_⟩
  rw [write, hlen]
  simp only [bind, Except.bind, if_neg hneg]
  rw [bound] at h
  rcases p.fieldLength_cases with ⟨hl, hf⟩ | ⟨hl, hf⟩ | ⟨-, hf⟩ | ⟨-, hf⟩
  · have hlong : len ≥ 256 := by
      rw [ge_iff_le, Int32.le_iff_toInt_le, hvalue, show (256 : Int32).toInt = 256 from rfl]
      rw [if_pos hf] at h
      omega
    simp only [hl, if_true, if_pos hlong]
  · have hlong : len ≥ 65536 := by
      rw [ge_iff_le, Int32.le_iff_toInt_le, hvalue, show (65536 : Int32).toInt = 65536 from rfl]
      rw [if_neg (by omega), if_pos hf] at h
      omega
    have h21 : ¬ (2 : Int32) = 1 := by decide
    simp only [hl, if_true, if_neg h21, if_pos hlong]
  all_goals
    rw [if_neg (by omega), if_neg (by omega)] at h
    omega

/-- What is written comes back as the number in the field. -/
lemma read_fieldOctets (p : LengthFieldPrepender) {n : ℕ} (h : n < p.bound) :
    (if p.networkByteOrder_ then Bytes.ofBE (p.fieldOctets n) else Bytes.ofLE (p.fieldOctets n))
      = n := by
  have hfits : n < 256 ^ p.fieldLength := by
    rw [bound] at h
    rcases p.fieldLength_cases with ⟨-, hf⟩ | ⟨-, hf⟩ | ⟨-, hf⟩ | ⟨-, hf⟩
    · rw [hf]
      rw [if_pos hf] at h
      omega
    · rw [hf]
      rw [if_neg (by omega), if_pos hf] at h
      omega
    all_goals
      rw [hf]
      rw [if_neg (by omega), if_neg (by omega)] at h
      norm_num
      omega
  rw [fieldOctets]
  split_ifs with hbe
  · rw [Bytes.ofBE, List.reverse_reverse, Bytes.ofLE_toLE hfits]
  · exact Bytes.ofLE_toLE hfits

@[simp] lemma fieldOctets_length (p : LengthFieldPrepender) (n : ℕ) :
    (p.fieldOctets n).length = p.fieldLength := by
  rw [fieldOctets]
  split_ifs
  · rw [List.length_reverse, Bytes.toLE_length]
  · rw [Bytes.toLE_length]

/-! ### Encoder and decoder -/

/-- The decoder for what the encoder writes: the same field, the adjustment undone and the
field stripped. -/
structure Matches (p : LengthFieldPrepender) (d : LengthFieldBasedFrameDecoder) : Prop where
  length : d.lengthFieldLength_.toNat = p.fieldLength
  order : d.networkByteOrder_ = p.networkByteOrder_
  offset : d.lengthFieldOffset_ = 0
  adjustment : d.lengthAdjustment_.toInt = -p.totalAdjustment
  strip : d.initialBytesToStrip_ = d.lengthFieldLength_

/-- A body that is written is delivered, whatever follows it and in whatever segments it
arrives, and what follows is left. -/
def RoundTrips (p : LengthFieldPrepender) (d : LengthFieldBasedFrameDecoder) (buf : IOBuf) : Prop :=
  ∀ out, p.write buf = .ok out → ∀ (s : Bytes) (q : IOBufQueue), q.flat = out.chain ++ s →
    ∃ result q', d.decode q = .ok (.frame result q') ∧ result.chain = buf.chain ∧ q'.flat = s

variable {d : LengthFieldBasedFrameDecoder}

namespace Matches

lemma readable (h : p.Matches d) : d.Readable := by
  have hlength := h.length
  refine ⟨?_, by rw [h.offset]; decide⟩
  simp only [← UInt32.toNat_inj, hlength]
  rcases p.fieldLength_cases with ⟨-, hf⟩ | ⟨-, hf⟩ | ⟨-, hf⟩ | ⟨-, hf⟩
  · exact .inl hf
  · exact .inr (.inl hf)
  · exact .inr (.inr (.inl hf))
  · exact .inr (.inr (.inr hf))

lemma fieldEnd (h : p.Matches d) : d.fieldEnd = p.fieldLength := by
  rw [LengthFieldBasedFrameDecoder.fieldEnd, h.offset, h.length]
  exact Nat.zero_add _

lemma strip_eq (h : p.Matches d) : d.initialBytesToStrip_.toNat = p.fieldLength := by
  rw [h.strip, h.length]

/-- The decoder reads the number that was written. -/
lemma rawLength (h : p.Matches d) {n : ℕ} (hn : n < p.bound) (bs : Bytes) :
    d.rawLength (p.fieldOctets n ++ bs) = n := by
  have hoff : d.lengthFieldOffset_.toNat = 0 := by
    rw [h.offset]
    rfl
  rw [LengthFieldBasedFrameDecoder.rawLength, h.order, h.length, hoff, List.drop_zero,
    List.take_left' (p.fieldOctets_length n)]
  exact p.read_fieldOctets hn

/-- The length the decoder computes for what was written, as an integer. -/
lemma frameLength (h : p.Matches d) {n : ℕ} (hn : n < p.bound) (bs : Bytes) :
    (d.frameLength (p.fieldOctets n ++ bs) : ℤ)
      = (n + (p.fieldLength - p.totalAdjustment) % 2 ^ 32) % 2 ^ 64 := by
  rw [LengthFieldBasedFrameDecoder.frameLength_eq, h.rawLength hn, h.adjustment, h.fieldEnd,
    neg_add_eq_sub]

end Matches

/-- What is written, with what follows it in the queue. -/
lemma flat_written {buf : IOBuf} {q : IOBufQueue} {n : ℕ} {s : Bytes}
    (hq : q.flat = (⟨p.fieldOctets n, buf.data :: buf.next⟩ : IOBuf).chain ++ s) :
    q.flat = p.fieldOctets n ++ (buf.chain ++ s) :=
  hq.trans (List.append_assoc _ _ _)

/-- A body below `2 ^ 31` octets goes through when no more than the field is added. -/
lemma Matches.roundTrips (h : p.Matches d) {buf : IOBuf}
    (hmax : buf.chain.length + p.fieldLength ≤ d.maxFrameLength_.toNat)
    (hwritten : p.writtenLength buf.chain.length < p.bound)
    (hadj : p.totalAdjustment ≤ p.fieldLength) (hlen : buf.chain.length < 2 ^ 31) :
    p.RoundTrips d buf := by
  intro out hout s q hq
  obtain rfl := Except.ok.inj ((write_of_lt hwritten).symm.trans hout)
  have hflat := flat_written hq
  have hsplit : q.flat
      = p.fieldOctets (p.writtenLength buf.chain.length) ++ buf.chain ++ s := by
    rw [hflat, List.append_assoc]
  have hqlen := congrArg List.length hsplit
  rw [List.length_append, List.length_append, fieldOctets_length] at hqlen
  have hframe : d.frameLength q.flat = p.fieldLength + buf.chain.length := by
    have hn := h.frameLength hwritten (buf.chain ++ s)
    have hd := h.adjustment
    have hlow := d.lengthAdjustment_.toInt_lt
    have hbound : p.bound ≤ 2 ^ 31 := by
      rw [bound]
      split_ifs <;> norm_num
    have hN : p.writtenLength buf.chain.length
        = ((buf.chain.length + p.totalAdjustment) % 2 ^ 32).toNat := rfl
    rw [← hflat] at hn
    have hf := p.fieldLength_cases
    omega
  have hdecode := h.readable.decode_eq (q := q) (by rw [h.fieldEnd]; omega)
    (by rw [hframe, h.strip_eq]; omega)
  rw [hdecode, hframe]
  obtain ⟨result, q', hdelivered, hchain, hrest⟩ := 
    LengthFieldBasedFrameDecoder.decodeFrame_frame (d := d) (q := q)
    (n := p.fieldLength + buf.chain.length) (by rw [h.fieldEnd]; omega)
    (by omega) (by omega) (by rw [h.strip_eq]; omega) (by rw [h.strip_eq]; omega)
  have htake : (p.fieldOctets (p.writtenLength buf.chain.length) ++ buf.chain).length
      = p.fieldLength + buf.chain.length := by
    rw [List.length_append, fieldOctets_length]
  refine ⟨result, q', hdelivered, ?_, ?_⟩
  · rw [hchain, hsplit, List.take_left' htake, h.strip_eq,
      List.drop_left' (p.fieldOctets_length _)]
  · rw [hrest, hsplit, List.drop_left' htake]

/-- No other body that is written does. -/
lemma Matches.of_roundTrips (h : p.Matches d) {buf : IOBuf}
    (hmax : buf.chain.length + p.fieldLength ≤ d.maxFrameLength_.toNat)
    (hwritten : p.writtenLength buf.chain.length < p.bound) (hround : p.RoundTrips d buf) :
    p.totalAdjustment ≤ p.fieldLength ∧ buf.chain.length < 2 ^ 31 := by
  have hwire := Rope.flat_push true
    (⟨p.fieldOctets (p.writtenLength buf.chain.length), buf.data :: buf.next⟩ : IOBuf).chain
    Rope.empty
  rw [Rope.flat_empty, List.nil_append, ← List.append_nil (IOBuf.chain _)] at hwire
  obtain ⟨result, q', hdecode, -, hrest⟩ := hround _ (write_of_lt hwritten) [] _ hwire
  generalize Rope.empty.push true _ = q at hwire hdecode
  have hflat := flat_written hwire
  have hqlen := congrArg List.length hflat
  rw [List.append_nil, List.length_append, fieldOctets_length] at hqlen
  have hlt := d.maxFrameLength_.toNat_lt
  rw [h.readable.decode_eq (by rw [h.fieldEnd]; omega) fun _ _ _ _ => .inl (by omega)] at hdecode
  obtain ⟨hwhole, hcut, hleft⟩ := LengthFieldBasedFrameDecoder.of_decodeFrame_frame hdecode
  have hall : q.flat.length ≤ d.frameLength q.flat :=
    List.drop_eq_nil_iff.mp (hleft.symm.trans hrest)
  have hn := h.frameLength hwritten (buf.chain ++ [])
  rw [← hflat] at hn
  rw [h.strip_eq] at hcut
  have hlen : buf.chain.length < 2 ^ 31 := by omega
  have hd := h.adjustment
  have hlow := d.lengthAdjustment_.le_toInt
  have hN : p.writtenLength buf.chain.length
      = ((buf.chain.length + p.totalAdjustment) % 2 ^ 32).toNat := rfl
  refine ⟨?_, hlen⟩
  -- a larger sum borrows in 32 bits, and the frame comes out too long
  by_contra hlarge
  omega

/-- **The frame codec** round trips a body that the maximum has room for exactly when
`write` refuses it, or no more than the length of the field is added to its length, which
is below `2 ^ 31`. -/
theorem frame_roundTrips_iff (p : LengthFieldPrepender) (d : LengthFieldBasedFrameDecoder)
    (buf : IOBuf) (h : p.Matches d)
    (hmax : buf.chain.length + p.fieldLength ≤ d.maxFrameLength_.toNat) :
    p.RoundTrips d buf ↔ p.bound ≤ p.writtenLength buf.chain.length ∨
      p.totalAdjustment ≤ p.fieldLength ∧ buf.chain.length < 2 ^ 31 := by
  by_cases hwritten : p.writtenLength buf.chain.length < p.bound
  · constructor
    · exact fun hround => .inr (h.of_roundTrips hmax hwritten hround)
    · rintro (hge | ⟨hadj, hlen⟩)
      · omega
      · exact h.roundTrips hmax hwritten hadj hlen
  · refine iff_of_true (fun out hout => ?_) (.inl (by omega))
    obtain ⟨e, he⟩ := write_of_ge (not_lt.mp hwritten)
    rw [he] at hout
    cases hout

/-- Two octets that count themselves. -/
def wholeFrame : LengthFieldPrepender := ⟨2, 0, true, true, .inr (.inl rfl)⟩

/-- A maximum that a decoder may have. -/
lemma maxFrameLength_65536 : (0 : UInt32) < 65536 := by decide

/-- The decoder that matches them. -/
def wholeFrameDecoder : LengthFieldBasedFrameDecoder :=
  ⟨2, 65536, 0, -2, 2, true, maxFrameLength_65536, by decide⟩

/-- A body that goes through. -/
theorem frame_roundTrips_wholeFrame :
    wholeFrame.Matches wholeFrameDecoder ∧
      wholeFrame.RoundTrips wholeFrameDecoder (.single (Bytes.ofString "HELLO, WORLD")) := by
  have hmatches : wholeFrame.Matches wholeFrameDecoder := ⟨rfl, rfl, rfl, rfl, rfl⟩
  exact ⟨hmatches, (frame_roundTrips_iff wholeFrame wholeFrameDecoder
    (.single (Bytes.ofString "HELLO, WORLD")) hmatches (by decide)).mpr
      (.inr ⟨by decide, by decide⟩)⟩

/-- Two octets that hold the length of the body and three more. -/
def threeMore : LengthFieldPrepender := ⟨2, 3, false, true, .inr (.inl rfl)⟩

/-- The decoder that matches them. -/
def threeMoreDecoder : LengthFieldBasedFrameDecoder :=
  ⟨2, 65536, 0, -3, 2, true, maxFrameLength_65536, by decide⟩

/-- The empty body is written, and comes out too long. -/
theorem threeMore_not_roundTrips :
    threeMore.Matches threeMoreDecoder ∧ ¬ threeMore.RoundTrips threeMoreDecoder (.single []) := by
  have hmatches : threeMore.Matches threeMoreDecoder := ⟨rfl, rfl, rfl, rfl, rfl⟩
  refine ⟨hmatches, fun hround => ?_⟩
  have hadj := (hmatches.of_roundTrips (by decide) (by decide) hround).1
  revert hadj
  decide

end LengthFieldPrepender

end LittleB
