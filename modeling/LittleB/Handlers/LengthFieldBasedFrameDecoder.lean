import LittleB.Folly

/-!
`libsrc/handlers/LengthFieldBasedFrameDecoder.h` and `.cpp`: the decoder that cuts
a stream into frames by a length field, and the loop of wangle's
`ByteToMessageDecoder` around it.

* `LengthFieldBasedFrameDecoder`: the configuration; a value carries what the
  constructor checks;
* `getUnadjustedFrameLength`, `decode`: the two functions of the source, the
  arithmetic in the widths the source computes it in;
* `ByteToMessageDecoder.read`, `ByteToMessageDecoder.calls`: one read of the
  socket, `decode` being called until it returns false, and the queues it is
  called on;
* `Connection.read`, `Connection.calls`: the reads of a connection, one after the
  other.
-/

namespace LittleB

/-! ### The decoder -/

/-- A number with 32 bits as an `int`. -/
lemma toInt_toInt32 (x : UInt32) :
    x.toInt32.toInt = if x.toNat < 2 ^ 31 then (x.toNat : ℤ) else x.toNat - 2 ^ 32 := by
  change x.toBitVec.toInt = _
  rw [BitVec.toInt_eq_toNat_cond]
  change (if 2 * x.toNat < 2 ^ 32 then _ else _) = _
  by_cases h : x.toNat < 2 ^ 31
  · rw [if_pos h, if_pos (by omega)]
    rfl
  · rw [if_neg h, if_neg (by omega)]
    norm_num

/-- The exceptions `decode` hands to `fireReadException`. -/
inductive FrameException where
  | tooSmall
  | tooLarge (maxFrameLength : UInt32)
  | stripTooLarge
  deriving DecidableEq, Repr

/-- The text of the `std::runtime_error`. -/
def FrameException.what : FrameException → String
  | tooSmall => "Frame too small"
  | tooLarge maxFrameLength => "Frame larger than " ++ toString maxFrameLength.toNat
  | stripTooLarge => "InitialBytesToSkip larger than frame"

/-- The configuration of the decoder; the two `CHECK`s of the constructor are
fields of it. -/
structure LengthFieldBasedFrameDecoder where
  lengthFieldLength_ : UInt32
  maxFrameLength_ : UInt32
  lengthFieldOffset_ : UInt32
  lengthAdjustment_ : Int32
  initialBytesToStrip_ : UInt32
  networkByteOrder_ : Bool
  maxFrameLength_pos : 0 < maxFrameLength_
  lengthFieldOffset_le : lengthFieldOffset_ ≤ maxFrameLength_ - lengthFieldLength_

/-- What a call of `decode` does: it waits for more (false, nothing fired), it
fires an exception (false), or it hands out a frame (true). -/
inductive Decoded where
  | more
  | exception (e : FrameException) (buf : IOBufQueue)
  | frame (result : IOBuf) (buf : IOBufQueue)

namespace LengthFieldBasedFrameDecoder

variable (d : LengthFieldBasedFrameDecoder)

/-- The sum wraps in 32 bits. -/
def lengthFieldEndOffset_ : UInt32 := d.lengthFieldOffset_ + d.lengthFieldLength_

/-- An `int` argument used as a `size_t`. -/
def sizeOfInt (n : Int32) : ℕ := n.toInt64.toUInt64.toNat

/-- A negative `int` wraps in 64 bits. -/
lemma sizeOfInt_eq (n : Int32) : (sizeOfInt n : ℤ) = n.toInt % 2 ^ 64 := by
  have hwide : n.toInt64.toInt = n.toInt := Int32.toInt_toInt64 n
  have hlt := n.toInt64.toBitVec.isLt
  change n.toInt64.toBitVec.toInt = _ at hwide
  rw [BitVec.toInt_eq_toNat_cond] at hwide
  change (n.toInt64.toBitVec.toNat : ℤ) = _
  split_ifs at hwide with hpos <;> omega

/-- A small `int` is the `size_t` of the same value. -/
lemma sizeOfInt_toInt32 {x : UInt32} (h : x.toNat < 2 ^ 31) : sizeOfInt x.toInt32 = x.toNat := by
  have hsize := sizeOfInt_eq x.toInt32
  rw [toInt_toInt32, if_pos h] at hsize
  omega

/-- A large one, which is negative, is a `size_t` close to the largest. -/
lemma sizeOfInt_toInt32_of_ge {x : UInt32} (h : 2 ^ 31 ≤ x.toNat) :
    sizeOfInt x.toInt32 = x.toNat + (2 ^ 64 - 2 ^ 32) := by
  have hlt := x.toNat_lt
  have hsize := sizeOfInt_eq x.toInt32
  rw [toInt_toInt32, if_neg (by omega)] at hsize
  omega

/-- The length field: `length` octets at `offset`.  There is no case for other
lengths, so that `frameLength` stays unassigned there. -/
def getUnadjustedFrameLength (buf : IOBufQueue) (offset length : Int32)
    (networkByteOrder : Bool) : Except Fault UInt64 := do
  let c ← Cursor.skip buf.flat (sizeOfInt offset)
  if length = 1 ∨ length = 2 ∨ length = 4 ∨ length = 8 then
    let field ← Cursor.read c (sizeOfInt length)
    if networkByteOrder then
      return UInt64.ofNat (Bytes.ofBE field)
    else
      return UInt64.ofNat (Bytes.ofLE field)
  else
    .error .uninitialized

/-- One call of `decode` on the queue. -/
def decode (buf : IOBufQueue) : Except Fault Decoded := do
  -- discarding too long frame
  if IOBufQueue.chainLength buf < d.lengthFieldEndOffset_.toNat then
    return .more
  let unadjusted ← getUnadjustedFrameLength buf d.lengthFieldOffset_.toInt32
    d.lengthFieldLength_.toInt32 d.networkByteOrder_
  -- the right summand is computed in `uint32_t` and then widened
  let frameLength := unadjusted + (d.lengthAdjustment_.toUInt32 + d.lengthFieldEndOffset_).toUInt64
  if frameLength < d.lengthFieldEndOffset_.toUInt64 then
    let buf ← IOBufQueue.trimStart buf d.lengthFieldEndOffset_.toNat
    return .exception .tooSmall buf
  if frameLength > d.maxFrameLength_.toUInt64 then
    return .exception (.tooLarge d.maxFrameLength_)
      (IOBufQueue.trimStartAtMost buf frameLength.toNat)
  if IOBufQueue.chainLength buf < frameLength.toNat then
    return .more
  if d.initialBytesToStrip_.toUInt64 > frameLength then
    let buf ← IOBufQueue.trimStart buf frameLength.toNat
    return .exception .stripTooLarge buf
  let buf ← IOBufQueue.trimStart buf d.initialBytesToStrip_.toNat
  let actualFrameLength := (frameLength - d.initialBytesToStrip_.toUInt64).toUInt32.toInt32
  let (result, buf) ← IOBufQueue.split buf (sizeOfInt actualFrameLength)
  return .frame result buf

end LengthFieldBasedFrameDecoder

/-! ### The decoder base class -/

/-- What a decoder sends up the pipeline: a frame, as the next handlers made of
it, or an exception through `fireReadException`. -/
inductive Fired (E : Type) where
  | read (e : E)
  | readException (e : FrameException)
  deriving DecidableEq, Repr

namespace ByteToMessageDecoder

variable {E : Type} (decode : IOBufQueue → Except Fault Decoded) (fireRead : IOBuf → Except Fault E)

/-- One read: `decode` is called until it returns false, and every frame is handed
to the next handler before the next call.  The fuel bounds the number of calls. -/
def read : ℕ → IOBufQueue → Except Fault (List (Fired E) × IOBufQueue)
  | 0, _ => .error .diverges
  | fuel + 1, q => do
      match ← decode q with
      | .more => return ([], q)
      | .exception e q' => return ([.readException e], q')
      | .frame result q' =>
          let e ← fireRead result
          let (fired, q'') ← read fuel q'
          return (.read e :: fired, q'')

/-- The queues on which `decode` is called during one read. -/
def calls : ℕ → IOBufQueue → List IOBufQueue
  | 0, _ => []
  | fuel + 1, q =>
      q :: match decode q with
        | .ok (.frame result q') =>
            match fireRead result with
            | .ok _ => calls fuel q'
            | .error _ => []
        | _ => []

end ByteToMessageDecoder

/-! ### The reads of a connection -/

/-- One read of the socket: the octets, and whether they went into a segment of
their own or into the free room behind the last one. -/
structure SocketRead where
  fresh : Bool
  bytes : Bytes
  deriving DecidableEq, Repr

/-- The octets of a sequence of reads. -/
def received (reads : List SocketRead) : Bytes := reads.flatMap SocketRead.bytes

@[simp] lemma received_nil : received [] = [] := rfl

@[simp] lemma received_cons (r : SocketRead) (rs : List SocketRead) :
    received (r :: rs) = r.bytes ++ received rs := rfl

namespace Connection

variable {E : Type} (decode : IOBufQueue → Except Fault Decoded) (fireRead : IOBuf → Except Fault E)

/-- The reads of a connection, each appended to the queue before the decoder is
run on it. -/
def read (fuel : ℕ) :
    List SocketRead → IOBufQueue → Except Fault (List (Fired E) × IOBufQueue)
  | [], q => return ([], q)
  | r :: rs, q => do
      let (fired, q') ← ByteToMessageDecoder.read decode fireRead fuel (q.push r.fresh r.bytes)
      let (fired', q'') ← read fuel rs q'
      return (fired ++ fired', q'')

/-- The queues on which `decode` is called, each with the reads still to come. -/
def calls (fuel : ℕ) : List SocketRead → IOBufQueue → List (IOBufQueue × List SocketRead)
  | [], _ => []
  | r :: rs, q =>
      (ByteToMessageDecoder.calls decode fireRead fuel (q.push r.fresh r.bytes)).map (·, rs) ++
        match ByteToMessageDecoder.read decode fireRead fuel (q.push r.fresh r.bytes) with
        | .ok (_, q') => calls fuel rs q'
        | .error _ => []

end Connection

end LittleB
