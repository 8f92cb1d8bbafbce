import LittleB.Handlers.LengthFieldBasedFrameDecoder

/-!
The length arithmetic of `decode`, over every configuration.

* `fieldEnd`, `rawLength`, `total`: the end of the length field, its value and the length
  of the frame, as exact numbers; `frameLength` is what `decode` makes of the last one;
* `decodeFrame`, `decode_eq`: one call of `decode` behind the length field, in closed
  form; `decode_eq_error`: where the length field is not read;
* `ExactDecode`: what a call should do by the exact numbers;
* `ExactHeader`, `exactDecode_iff`: when it does that.
-/

namespace LittleB

namespace LengthFieldBasedFrameDecoder

variable (d : LengthFieldBasedFrameDecoder)

/-! ### Exact numbers -/

/-- The end of the length field. -/
def fieldEnd : ℕ := d.lengthFieldOffset_.toNat + d.lengthFieldLength_.toNat

/-- The value of the length field. -/
def rawLength (bs : Bytes) : ℕ :=
  let field := (bs.drop d.lengthFieldOffset_.toNat).take d.lengthFieldLength_.toNat
  if d.networkByteOrder_ then Bytes.ofBE field else Bytes.ofLE field

/-- The length of the frame. -/
def total (bs : Bytes) : ℤ := d.rawLength bs + d.lengthAdjustment_.toInt + d.fieldEnd

/-- There is a case for the length of the length field, and the offset is an `int`. -/
structure Readable : Prop where
  length : d.lengthFieldLength_ = 1 ∨ d.lengthFieldLength_ = 2 ∨ d.lengthFieldLength_ = 4 ∨
    d.lengthFieldLength_ = 8
  offset : d.lengthFieldOffset_.toNat < 2 ^ 31

/-- The length of the frame as `decode` computes it: the adjustment and the end are added
in 32 bits, the value of the field in 64. -/
def frameLength (bs : Bytes) : ℕ :=
  (d.rawLength bs + ((d.lengthAdjustment_.toInt + d.fieldEnd) % 2 ^ 32).toNat) % 2 ^ 64

variable {d}

lemma toInt32_inj {x y : UInt32} : x.toInt32 = y.toInt32 ↔ x = y :=
  ⟨fun h => congrArg Int32.toUInt32 h, congrArg _⟩

/-- The `switch` has a case for the length. -/
lemma length_cases : (d.lengthFieldLength_.toInt32 = 1 ∨ d.lengthFieldLength_.toInt32 = 2 ∨
    d.lengthFieldLength_.toInt32 = 4 ∨ d.lengthFieldLength_.toInt32 = 8)
      ↔ d.lengthFieldLength_ = 1 ∨ d.lengthFieldLength_ = 2 ∨ d.lengthFieldLength_ = 4 ∨
        d.lengthFieldLength_ = 8 :=
  or_congr (toInt32_inj (y := 1)) (or_congr (toInt32_inj (y := 2))
    (or_congr (toInt32_inj (y := 4)) (toInt32_inj (y := 8))))

lemma Readable.length_le (h : d.Readable) : d.lengthFieldLength_.toNat ≤ 8 := by
  rcases h.length with h1 | h2 | h4 | h8
  · rw [h1]; decide
  · rw [h2]; decide
  · rw [h4]; decide
  · rw [h8]; decide

/-- A length field that is read ends where the 32 bits say. -/
lemma Readable.fieldEnd_eq (h : d.Readable) : d.lengthFieldEndOffset_.toNat = d.fieldEnd := by
  have hlen := h.length_le
  have hoff := h.offset
  rw [lengthFieldEndOffset_, UInt32.toNat_add, fieldEnd, Nat.mod_eq_of_lt (by omega)]

/-- The value of a length field of at most eight octets. -/
lemma Readable.rawLength_lt (h : d.Readable) (bs : Bytes) : d.rawLength bs < 2 ^ 64 := by
  have hlt (field : Bytes) (hlen : field.length ≤ 8) : Bytes.ofLE field < 2 ^ 64 :=
    calc Bytes.ofLE field
        < 256 ^ field.length := Bytes.ofLE_lt field
      _ ≤ 256 ^ 8 := Nat.pow_le_pow_right (by norm_num) hlen
      _ = 2 ^ 64 := by norm_num
  have hfield : ((bs.drop d.lengthFieldOffset_.toNat).take d.lengthFieldLength_.toNat).length ≤ 8 :=
    (List.length_take_le _ _).trans h.length_le
  rw [rawLength]
  split_ifs with hbe
  · exact hlt _ (by rw [List.length_reverse]; exact hfield)
  · exact hlt _ hfield

/-! ### The length field -/

/-- The length field is read where it is and as wide as it is. -/
lemma Readable.getUnadjustedFrameLength_eq (h : d.Readable) {q : IOBufQueue}
    (hend : d.fieldEnd ≤ q.flat.length) :
    getUnadjustedFrameLength q d.lengthFieldOffset_.toInt32 d.lengthFieldLength_.toInt32
        d.networkByteOrder_
      = .ok (UInt64.ofNat (d.rawLength q.flat)) := by
  have hlen := h.length_le
  have hoffset := sizeOfInt_toInt32 h.offset
  have hlength := sizeOfInt_toInt32 (x := d.lengthFieldLength_) (by omega)
  rw [fieldEnd] at hend
  have hfield : d.lengthFieldLength_.toNat ≤ (q.flat.drop d.lengthFieldOffset_.toNat).length := by
    rw [List.length_drop]
    omega
  rw [getUnadjustedFrameLength, hoffset, hlength, Cursor.skip_of_le (by omega)]
  simp only [bind, Except.bind, if_pos (length_cases.mpr h.length), Cursor.read_of_le hfield]
  rw [rawLength]
  cases d.networkByteOrder_ with
  | true => rfl
  | false => rfl

/-- Where there is no case for its length, or the offset is no `int`, the length field is
not read. -/
lemma getUnadjustedFrameLength_error (h : ¬ d.Readable) {q : IOBufQueue}
    (hq : q.flat.length < 2 ^ 63) :
    ∃ fault, getUnadjustedFrameLength q d.lengthFieldOffset_.toInt32
      d.lengthFieldLength_.toInt32 d.networkByteOrder_ = .error fault := by
  rw [getUnadjustedFrameLength]
  by_cases hskip : sizeOfInt d.lengthFieldOffset_.toInt32 ≤ q.flat.length
  · have hoff : d.lengthFieldOffset_.toNat < 2 ^ 31 := by
      by_contra hlarge
      rw [sizeOfInt_toInt32_of_ge (by omega)] at hskip
      omega
    have hcase := fun hlength => h ⟨length_cases.mp hlength, hoff⟩
    rw [Cursor.skip_of_le hskip]
    simp only [bind, Except.bind, if_neg hcase]
    exact ⟨_, rfl⟩
  · rw [Cursor.skip, if_neg hskip]
    exact ⟨_, rfl⟩

/-- The sum `decode` computes. -/
lemma Readable.toNat_frameLength (h : d.Readable) (bs : Bytes) :
    (UInt64.ofNat (d.rawLength bs)
        + (d.lengthAdjustment_.toUInt32 + d.lengthFieldEndOffset_).toUInt64).toNat
      = d.frameLength bs := by
  have hraw := h.rawLength_lt bs
  have hadj : (d.lengthAdjustment_.toUInt32.toNat : ℤ) = d.lengthAdjustment_.toInt % 2 ^ 32 := by
    change (d.lengthAdjustment_.toBitVec.toNat : ℤ) = d.lengthAdjustment_.toBitVec.toInt % 2 ^ 32
    have hlt := d.lengthAdjustment_.toBitVec.isLt
    rw [BitVec.toInt_eq_toNat_cond]
    split_ifs with hpos <;> omega
  rw [UInt64.toNat_add, UInt64.toNat_ofNat', UInt32.toNat_toUInt64, UInt32.toNat_add,
    h.fieldEnd_eq, frameLength]
  omega

/-! ### One call of `decode` -/

variable (d) in
/-- What `decode` does with the length it has computed. -/
def decodeFrame (q : IOBufQueue) (frameLength : ℕ) : Except Fault Decoded :=
  if frameLength < d.fieldEnd then .ok (.exception .tooSmall (q.drop d.fieldEnd))
  else if d.maxFrameLength_.toNat < frameLength then
    .ok (.exception (.tooLarge d.maxFrameLength_) (q.drop frameLength))
  else if q.flat.length < frameLength then .ok .more
  else if frameLength < d.initialBytesToStrip_.toNat then
    .ok (.exception .stripTooLarge (q.drop frameLength))
  else if 2 ^ 31 ≤ frameLength - d.initialBytesToStrip_.toNat then .error .underflow_error
  else
    let q := q.drop d.initialBytesToStrip_.toNat
    let actualFrameLength := frameLength - d.initialBytesToStrip_.toNat
    .ok (.frame ⟨(q.take actualFrameLength).head, (q.take actualFrameLength).tail⟩
      (q.drop actualFrameLength))

/-- What is cut off behind the stripped octets, its length narrowed to an `int`. -/
lemma split_actualFrameLength {q : IOBufQueue} {n strip : ℕ} (hn : n < 2 ^ 32) (hstrip : strip ≤ n)
    (hq : q.flat.length < 2 ^ 63 ∨ n - strip < 2 ^ 31) (hle : n ≤ q.flat.length)
    {x : UInt32} (hx : x.toNat = n - strip) :
    IOBufQueue.split (q.drop strip) (sizeOfInt x.toInt32)
      = if 2 ^ 31 ≤ n - strip then .error .underflow_error
        else .ok (⟨((q.drop strip).take (n - strip)).head, ((q.drop strip).take (n - strip)).tail⟩,
          (q.drop strip).drop (n - strip)) := by
  have hlen : (q.drop strip).flat.length = q.flat.length - strip := by
    rw [Rope.flat_drop, List.length_drop]
  split_ifs with hlarge
  · have hsize : ¬ sizeOfInt x.toInt32 ≤ (q.drop strip).flat.length := by
      rw [sizeOfInt_toInt32_of_ge (by omega), hlen]
      omega
    rw [IOBufQueue.split, IOBufQueue.chainLength_eq, if_neg hsize]
  · rw [sizeOfInt_toInt32 (by omega), hx, IOBufQueue.split_of_le (by omega)]

/-- One call of `decode` behind the length field, in closed form. -/
lemma Readable.decode_eq (h : d.Readable) {q : IOBufQueue} (hend : d.fieldEnd ≤ q.flat.length)
    (hq : d.fieldEnd ≤ d.frameLength q.flat → d.frameLength q.flat ≤ d.maxFrameLength_.toNat →
      d.frameLength q.flat ≤ q.flat.length → d.initialBytesToStrip_.toNat ≤ d.frameLength q.flat →
      q.flat.length < 2 ^ 63 ∨ d.frameLength q.flat - d.initialBytesToStrip_.toNat < 2 ^ 31) :
    d.decode q = d.decodeFrame q (d.frameLength q.flat) := by
  have hmax := d.maxFrameLength_.toNat_lt
  have hfl := h.toNat_frameLength q.flat
  rw [decode, IOBufQueue.chainLength_eq, h.fieldEnd_eq, if_neg (by omega),
    h.getUnadjustedFrameLength_eq hend]
  simp only [bind, Except.bind]
  generalize d.frameLength q.flat = n at hfl hq ⊢
  generalize UInt64.ofNat (d.rawLength q.flat)
    + (d.lengthAdjustment_.toUInt32 + d.lengthFieldEndOffset_).toUInt64 = frameLength at hfl ⊢
  have hsmall : frameLength < d.lengthFieldEndOffset_.toUInt64 ↔ n < d.fieldEnd := by
    rw [UInt64.lt_iff_toNat_lt, UInt32.toNat_toUInt64, h.fieldEnd_eq, hfl]
  have hlarge : frameLength > d.maxFrameLength_.toUInt64 ↔ d.maxFrameLength_.toNat < n := by
    rw [gt_iff_lt, UInt64.lt_iff_toNat_lt, UInt32.toNat_toUInt64, hfl]
  have hstrip : d.initialBytesToStrip_.toUInt64 > frameLength
      ↔ n < d.initialBytesToStrip_.toNat := by
    rw [gt_iff_lt, UInt64.lt_iff_toNat_lt, UInt32.toNat_toUInt64, hfl]
  rw [decodeFrame, hfl]
  simp only [hsmall, hlarge, hstrip]
  by_cases h1 : n < d.fieldEnd
  · rw [if_pos h1, if_pos h1, IOBufQueue.trimStart_of_le hend]
    rfl
  by_cases h2 : d.maxFrameLength_.toNat < n
  · rw [if_neg h1, if_neg h1, if_pos h2, if_pos h2]
    rfl
  by_cases h3 : q.flat.length < n
  · rw [if_neg h1, if_neg h1, if_neg h2, if_neg h2, if_pos h3, if_pos h3]
    rfl
  by_cases h4 : n < d.initialBytesToStrip_.toNat
  · rw [if_neg h1, if_neg h1, if_neg h2, if_neg h2, if_neg h3, if_neg h3, if_pos h4, if_pos h4,
      IOBufQueue.trimStart_of_le (by omega)]
    rfl
  have hle : d.initialBytesToStrip_.toUInt64 ≤ frameLength := by
    rw [UInt64.le_iff_toNat_le, UInt32.toNat_toUInt64, hfl]
    omega
  have hactual : (frameLength - d.initialBytesToStrip_.toUInt64).toUInt32.toNat
      = n - d.initialBytesToStrip_.toNat := by
    rw [UInt64.toNat_toUInt32, UInt64.toNat_sub_of_le _ _ hle, UInt32.toNat_toUInt64, hfl]
    omega
  rw [if_neg h1, if_neg h1, if_neg h2, if_neg h2, if_neg h3, if_neg h3, if_neg h4, if_neg h4,
    IOBufQueue.trimStart_of_le (by omega)]
  have hcut := hq (by omega) (by omega) (by omega) (by omega)
  simp only [split_actualFrameLength (by omega) (by omega) hcut (by omega) hactual]
  split_ifs with h5
  · rfl
  · rfl

/-- Where the length field is not read, `decode` does not return. -/
lemma decode_eq_error (h : ¬ d.Readable) {q : IOBufQueue}
    (hend : d.lengthFieldEndOffset_.toNat ≤ q.flat.length) (hq : q.flat.length < 2 ^ 63) :
    ∃ fault, d.decode q = .error fault := by
  obtain ⟨fault, hfault⟩ := getUnadjustedFrameLength_error h hq
  refine ⟨fault, ?_⟩
  rw [decode, IOBufQueue.chainLength_eq, if_neg (by omega), hfault]
  rfl

/-! ### What `decode` should do -/

variable (d) in
/-- A call by the exact numbers: it waits for the length field and for the frame, reports
the lengths beyond the limits, and otherwise takes the frame off, of which it delivers
what is not stripped. -/
structure ExactDecode (q : IOBufQueue) : Prop where
  waits_field : q.flat.length < d.fieldEnd → d.decode q = .ok .more
  tooSmall : d.fieldEnd ≤ q.flat.length →
    ((∃ q', d.decode q = .ok (.exception .tooSmall q')) ↔ d.total q.flat < d.fieldEnd)
  tooLarge : d.fieldEnd ≤ q.flat.length →
    ((∃ q', d.decode q = .ok (.exception (.tooLarge d.maxFrameLength_) q'))
      ↔ d.maxFrameLength_.toNat < d.total q.flat)
  waits_frame : d.fieldEnd ≤ q.flat.length → d.fieldEnd ≤ d.total q.flat →
    d.total q.flat ≤ d.maxFrameLength_.toNat → q.flat.length < d.total q.flat →
    d.decode q = .ok .more
  consumes : d.fieldEnd ≤ q.flat.length → d.fieldEnd ≤ d.total q.flat →
    d.total q.flat ≤ d.maxFrameLength_.toNat → d.total q.flat ≤ q.flat.length →
    d.total q.flat < d.initialBytesToStrip_.toNat →
    ∃ e q', d.decode q = .ok (.exception e q') ∧
      q'.flat = q.flat.drop (d.total q.flat).toNat
  delivers : d.fieldEnd ≤ q.flat.length → d.fieldEnd ≤ d.total q.flat →
    d.total q.flat ≤ d.maxFrameLength_.toNat → d.total q.flat ≤ q.flat.length →
    d.initialBytesToStrip_.toNat ≤ d.total q.flat →
    ∃ result q', d.decode q = .ok (.frame result q') ∧
      result.chain = (q.flat.take (d.total q.flat).toNat).drop d.initialBytesToStrip_.toNat ∧
      q'.flat = q.flat.drop (d.total q.flat).toNat

variable (d) in
/-- The headers on which the sums come out right: no length field is there yet; no sum
wraps, no limit excludes the other and the frame is not longer than an `int` can say; or
the frame is too large, and still is when a sum has wrapped. -/
inductive ExactHeader (bs : Bytes) : Prop
  | short (h : bs.length < d.lengthFieldEndOffset_.toNat)
  | unwrapped (readable : d.Readable) (field : d.fieldEnd ≤ bs.length)
      (sum32 : 0 ≤ d.lengthAdjustment_.toInt + d.fieldEnd ∧
        d.lengthAdjustment_.toInt + d.fieldEnd < 2 ^ 32)
      (sum64 : d.total bs < 2 ^ 64)
      (limits : d.fieldEnd ≤ d.total bs ∨ d.total bs ≤ d.maxFrameLength_.toNat)
      (cut : d.fieldEnd ≤ d.total bs → d.total bs ≤ d.maxFrameLength_.toNat →
        d.total bs ≤ bs.length → d.initialBytesToStrip_.toNat ≤ d.total bs →
        d.total bs - d.initialBytesToStrip_.toNat < 2 ^ 31)
  | wrapped (readable : d.Readable) (field : d.fieldEnd ≤ bs.length)
      (sum32 : 0 ≤ d.lengthAdjustment_.toInt + d.fieldEnd ∧
        d.lengthAdjustment_.toInt + d.fieldEnd < 2 ^ 32)
      (large : 2 ^ 64 + d.fieldEnd ≤ d.total bs ∧
        2 ^ 64 + d.maxFrameLength_.toNat < d.total bs)
  | borrowed (readable : d.Readable) (field : d.fieldEnd ≤ bs.length)
      (sum32 : d.lengthAdjustment_.toInt + d.fieldEnd < 0)
      (large : d.fieldEnd ≤ d.total bs ∧ d.maxFrameLength_.toNat < d.total bs)
      (sum64 : d.total bs + 2 ^ 32 < 2 ^ 64 ∨ 2 ^ 64 + d.fieldEnd ≤ d.total bs + 2 ^ 32 ∧
        2 ^ 64 + d.maxFrameLength_.toNat < d.total bs + 2 ^ 32)
  | carried (readable : d.Readable) (field : d.fieldEnd ≤ bs.length)
      (sum32 : 2 ^ 32 ≤ d.lengthAdjustment_.toInt + d.fieldEnd)
      (large : d.fieldEnd + 2 ^ 32 ≤ d.total bs ∧
        d.maxFrameLength_.toNat + 2 ^ 32 < d.total bs)
      (sum64 : d.total bs < 2 ^ 64 + 2 ^ 32)

/-! ### When `decode` does that -/

lemma fieldEnd_mod (d : LengthFieldBasedFrameDecoder) :
    d.lengthFieldEndOffset_.toNat ≤ d.fieldEnd := by
  rw [lengthFieldEndOffset_, UInt32.toNat_add, fieldEnd]
  exact Nat.mod_le _ _

/-- The computed length as an integer. -/
lemma frameLength_eq (bs : Bytes) :
    (d.frameLength bs : ℤ)
      = (d.rawLength bs + (d.lengthAdjustment_.toInt + d.fieldEnd) % 2 ^ 32) % 2 ^ 64 := by
  rw [frameLength]
  omega

lemma decodeFrame_tooSmall {q : IOBufQueue} {n : ℕ} :
    (∃ q', d.decodeFrame q n = .ok (.exception .tooSmall q')) ↔ n < d.fieldEnd := by
  rw [decodeFrame]
  split_ifs with h1 <;> simp [h1]

lemma decodeFrame_tooLarge {q : IOBufQueue} {n : ℕ} :
    (∃ q', d.decodeFrame q n = .ok (.exception (.tooLarge d.maxFrameLength_) q'))
      ↔ d.fieldEnd ≤ n ∧ d.maxFrameLength_.toNat < n := by
  rw [decodeFrame]
  by_cases h1 : n < d.fieldEnd
  · rw [if_pos h1]
    exact iff_of_false (by simp) (by omega)
  by_cases h2 : d.maxFrameLength_.toNat < n
  · rw [if_neg h1, if_pos h2]
    exact iff_of_true ⟨_, rfl⟩ (by omega)
  · rw [if_neg h1, if_neg h2]
    refine iff_of_false ?_ (by omega)
    split_ifs <;> simp

/-- A frame that is complete and not too long is delivered. -/
lemma decodeFrame_frame {q : IOBufQueue} {n : ℕ} (hsmall : d.fieldEnd ≤ n)
    (hlarge : n ≤ d.maxFrameLength_.toNat) (hwhole : n ≤ q.flat.length)
    (hstrip : d.initialBytesToStrip_.toNat ≤ n) (hcut : n - d.initialBytesToStrip_.toNat < 2 ^ 31) :
    ∃ result q', d.decodeFrame q n = .ok (.frame result q') ∧
      result.chain = (q.flat.take n).drop d.initialBytesToStrip_.toNat ∧
      q'.flat = q.flat.drop n := by
  rw [decodeFrame, if_neg (by omega), if_neg (by omega), if_neg (by omega), if_neg (by omega),
    if_neg (by omega)]
  refine ⟨_, _, rfl, ?_, ?_⟩
  · rw [IOBufQueue.chain_take, Rope.flat_drop, List.drop_take]
  · rw [Rope.flat_drop, Rope.flat_drop, List.drop_drop]
    congr 1
    omega

/-- And only such a frame is. -/
lemma of_decodeFrame_frame {q q' : IOBufQueue} {n : ℕ} {result : IOBuf}
    (h : d.decodeFrame q n = .ok (.frame result q')) :
    n ≤ q.flat.length ∧ n - d.initialBytesToStrip_.toNat < 2 ^ 31 ∧ q'.flat = q.flat.drop n := by
  rw [decodeFrame] at h
  split_ifs at h with h1 h2 h3 h4 h5
  -- only the last branch hands out a frame
  case neg =>
    obtain ⟨-, rfl⟩ := Decoded.frame.inj (Except.ok.inj h)
    refine ⟨by omega, by omega, ?_⟩
    rw [Rope.flat_drop, Rope.flat_drop, List.drop_drop]
    congr 1
    omega
  all_goals cases h

/-- A computed length that is the exact one, within limits that make sense. -/
lemma Readable.exactDecode_of_eq (h : d.Readable) {q : IOBufQueue}
    (hend : d.fieldEnd ≤ q.flat.length) (hn : (d.frameLength q.flat : ℤ) = d.total q.flat)
    (hlimits : d.fieldEnd ≤ d.total q.flat ∨ d.total q.flat ≤ d.maxFrameLength_.toNat)
    (hcut : d.fieldEnd ≤ d.total q.flat → d.total q.flat ≤ d.maxFrameLength_.toNat →
      d.total q.flat ≤ q.flat.length → d.initialBytesToStrip_.toNat ≤ d.total q.flat →
      d.total q.flat - d.initialBytesToStrip_.toNat < 2 ^ 31) : ExactDecode d q := by
  have hdecode := h.decode_eq hend fun h1 h2 h3 h4 =>
    .inr (by have := hcut (by omega) (by omega) (by omega) (by omega); omega)
  rw [← hn] at hlimits hcut
  constructor
  case waits_field => exact fun hshort => absurd hend (by omega)
  case tooSmall =>
    intro _
    rw [hdecode, decodeFrame_tooSmall, ← hn]
    omega
  case tooLarge =>
    intro _
    rw [hdecode, decodeFrame_tooLarge, ← hn]
    omega
  case waits_frame =>
    rw [← hn]
    intro _ hlow hhigh hshort
    rw [hdecode, decodeFrame, if_neg (by omega), if_neg (by omega), if_pos (by omega)]
  case consumes =>
    rw [← hn, Int.toNat_natCast]
    intro _ hlow hhigh hwhole hstrip
    rw [hdecode, decodeFrame, if_neg (by omega), if_neg (by omega), if_neg (by omega),
      if_pos (by omega)]
    exact ⟨_, _, rfl, Rope.flat_drop _ _⟩
  case delivers =>
    rw [← hn, Int.toNat_natCast]
    intro _ hlow hhigh hwhole hstrip
    have hlong := hcut hlow hhigh hwhole hstrip
    rw [hdecode]
    exact decodeFrame_frame (by omega) (by omega) (by omega) (by omega) (by omega)

/-- A computed length that is too large, as the exact one is. -/
lemma Readable.exactDecode_of_large (h : d.Readable) {q : IOBufQueue}
    (hend : d.fieldEnd ≤ q.flat.length)
    (hn : d.fieldEnd ≤ d.frameLength q.flat ∧ d.maxFrameLength_.toNat < d.frameLength q.flat)
    (hlarge : d.fieldEnd ≤ d.total q.flat ∧ d.maxFrameLength_.toNat < d.total q.flat) :
    ExactDecode d q := by
  have hdecode := h.decode_eq hend fun _ h2 _ _ => absurd hn.2 (by omega)
  constructor
  case waits_field => exact fun hshort => absurd hend (by omega)
  case tooSmall =>
    intro _
    rw [hdecode, decodeFrame_tooSmall]
    omega
  case tooLarge =>
    intro _
    rw [hdecode, decodeFrame_tooLarge]
    omega
  all_goals
    intro _ _ hhigh
    omega

/-- The headers on which the sums come out right are enough. -/
lemma exactDecode_of_exactHeader {q : IOBufQueue} (h : ExactHeader d q.flat) : ExactDecode d q := by
  cases h with
  | short hshort =>
      have hle := d.fieldEnd_mod
      have hmore : d.decode q = .ok .more := by
        rw [decode, IOBufQueue.chainLength_eq, if_pos hshort]
        rfl
      constructor
      case waits_field => exact fun _ => hmore
      all_goals
        intro hend
        omega
  | unwrapped readable field sum32 sum64 limits cut =>
      have hn := frameLength_eq (d := d) q.flat
      have hraw := readable.rawLength_lt q.flat
      refine readable.exactDecode_of_eq field ?_ limits cut
      rw [total] at sum64 ⊢
      omega
  | wrapped readable field sum32 large =>
      have hn := frameLength_eq (d := d) q.flat
      have hraw := readable.rawLength_lt q.flat
      refine readable.exactDecode_of_large field ?_ ⟨by omega, by omega⟩
      rw [total] at large
      omega
  | borrowed readable field sum32 large sum64 =>
      have hn := frameLength_eq (d := d) q.flat
      have hraw := readable.rawLength_lt q.flat
      have hadj := d.lengthAdjustment_.le_toInt
      refine readable.exactDecode_of_large field ?_ large
      rw [total] at large sum64
      omega
  | carried readable field sum32 large sum64 =>
      have hn := frameLength_eq (d := d) q.flat
      have hraw := readable.rawLength_lt q.flat
      have hadj := d.lengthAdjustment_.toInt_lt
      have hoff := readable.offset
      have hlen := readable.length_le
      have hfe : d.fieldEnd = d.lengthFieldOffset_.toNat + d.lengthFieldLength_.toNat := rfl
      refine readable.exactDecode_of_large field ?_ ⟨by omega, by omega⟩
      rw [total] at large sum64
      omega

/-- A call by the exact numbers returns. -/
lemma ExactDecode.returns {q : IOBufQueue} (h : ExactDecode d q) : ∃ out, d.decode q = .ok out := by
  by_cases hend : d.fieldEnd ≤ q.flat.length
  · by_cases hsmall : d.total q.flat < d.fieldEnd
    · obtain ⟨q', hq'⟩ := (h.tooSmall hend).mpr hsmall
      exact ⟨_, hq'⟩
    by_cases hlarge : d.maxFrameLength_.toNat < d.total q.flat
    · obtain ⟨q', hq'⟩ := (h.tooLarge hend).mpr hlarge
      exact ⟨_, hq'⟩
    by_cases hwait : q.flat.length < d.total q.flat
    · exact ⟨_, h.waits_frame hend (by omega) (by omega) hwait⟩
    by_cases hstrip : d.total q.flat < d.initialBytesToStrip_.toNat
    · obtain ⟨e, q', hq', -⟩ := h.consumes hend (by omega) (by omega) (by omega) hstrip
      exact ⟨_, hq'⟩
    · obtain ⟨result, q', hq', -⟩ := h.delivers hend (by omega) (by omega) (by omega) (by omega)
      exact ⟨_, hq'⟩
  · exact ⟨_, h.waits_field (by omega)⟩

/-- The length field of a call by the exact numbers is read, once it is there. -/
lemma ExactDecode.readable {q : IOBufQueue} (h : ExactDecode d q)
    (hend : d.lengthFieldEndOffset_.toNat ≤ q.flat.length) (hq : q.flat.length < 2 ^ 63) :
    d.Readable := by
  by_contra hunreadable
  obtain ⟨out, hout⟩ := h.returns
  obtain ⟨fault, hfault⟩ := decode_eq_error hunreadable hend hq
  rw [hfault] at hout
  cases hout

/-- And so the header is one on which the sums come out right. -/
lemma ExactDecode.exactHeader {q : IOBufQueue} (h : ExactDecode d q)
    (hq : q.flat.length < 2 ^ 63) : ExactHeader d q.flat := by
  by_cases hshort : q.flat.length < d.lengthFieldEndOffset_.toNat
  · exact .short hshort
  have readable := h.readable (by omega) hq
  have hend : d.fieldEnd ≤ q.flat.length := by
    rw [← readable.fieldEnd_eq]
    omega
  have hdecode := readable.decode_eq hend fun _ _ _ _ => .inl hq
  have hsmall := h.tooSmall hend
  have hlarge := h.tooLarge hend
  rw [hdecode, decodeFrame_tooSmall] at hsmall
  rw [hdecode, decodeFrame_tooLarge] at hlarge
  have hn := frameLength_eq (d := d) q.flat
  have hraw := readable.rawLength_lt q.flat
  have hlow := d.lengthAdjustment_.le_toInt
  have hhigh := d.lengthAdjustment_.toInt_lt
  have hmax := d.maxFrameLength_.toNat_lt
  have hoff := readable.offset
  have hlen := readable.length_le
  have hfe : d.fieldEnd = d.lengthFieldOffset_.toNat + d.lengthFieldLength_.toNat := rfl
  have htotal : d.total q.flat = d.rawLength q.flat + d.lengthAdjustment_.toInt + d.fieldEnd := rfl
  by_cases hneg : d.lengthAdjustment_.toInt + d.fieldEnd < 0
  · exact .borrowed readable hend hneg ⟨by omega, by omega⟩ (by omega)
  by_cases hover : 2 ^ 32 ≤ d.lengthAdjustment_.toInt + d.fieldEnd
  · exact .carried readable hend hover ⟨by omega, by omega⟩ (by omega)
  by_cases hwrap : 2 ^ 64 ≤ d.total q.flat
  · exact .wrapped readable hend ⟨by omega, by omega⟩ ⟨by omega, by omega⟩
  refine .unwrapped readable hend ⟨by omega, by omega⟩ (by omega) (by omega) ?_
  intro h1 h2 h3 h4
  by_contra hlong
  obtain ⟨result, q', hframe, -⟩ := h.delivers hend h1 h2 h3 h4
  rw [hdecode] at hframe
  obtain ⟨-, hcut, -⟩ := of_decodeFrame_frame hframe
  omega

/-- **The length arithmetic** of `decode` is exact on a queue exactly when its header is
one on which the sums come out right. -/
theorem exactDecode_iff (d : LengthFieldBasedFrameDecoder) (q : IOBufQueue)
    (hq : q.flat.length < 2 ^ 63) : ExactDecode d q ↔ ExactHeader d q.flat :=
  ⟨fun h => h.exactHeader hq, exactDecode_of_exactHeader⟩

/-! ### Two examples of the documentation -/

/-- Two octets at offset 1 in the middle of a header of four octets. -/
def middleField : LengthFieldBasedFrameDecoder where
  lengthFieldLength_ := 2
  maxFrameLength_ := 4294967295
  lengthFieldOffset_ := 1
  lengthAdjustment_ := 1
  initialBytesToStrip_ := 3
  networkByteOrder_ := true
  maxFrameLength_pos := by decide
  lengthFieldOffset_le := by decide

/-- Three octets at the end of a header of five octets. -/
def threeOctetField : LengthFieldBasedFrameDecoder where
  lengthFieldLength_ := 3
  maxFrameLength_ := 4294967295
  lengthFieldOffset_ := 2
  lengthAdjustment_ := 0
  initialBytesToStrip_ := 0
  networkByteOrder_ := true
  maxFrameLength_pos := by decide
  lengthFieldOffset_le := by decide

/-- The frame of the first example, decoded as documented. -/
theorem exactDecode_middleField :
    ExactDecode middleField
      ⟨[[0xCA, 0x00, 0x0C, 0xFE] ++ Bytes.ofString "HELLO, WORLD"], by simp⟩ := by
  have hreadable : middleField.Readable := ⟨.inr (.inl rfl), by decide⟩
  exact (exactDecode_iff middleField _ (by decide)).mpr (.unwrapped hreadable (by decide)
    (by decide) (by decide) (.inl (by decide)) fun _ _ _ _ => by decide)

/-- No case of the `switch` reads the length field of the second one. -/
theorem threeOctetField_not_exact :
    ¬ ExactDecode threeOctetField
      ⟨[[0xCA, 0xFE, 0x00, 0x00, 0x0C] ++ Bytes.ofString "HELLO, WORLD"], by simp⟩ := by
  intro h
  have hlength := (h.readable (by decide) (by decide)).length
  revert hlength
  decide

end LengthFieldBasedFrameDecoder

end LittleB
