import LittleB.Handlers.LengthFieldBasedFrameDecoder

/-!
`libsrc/handlers/LengthFieldPrepender.h` and `.cpp`: the encoder that puts a length
field in front of what is sent.

* `LengthFieldPrepender`: the configuration; a value carries what the constructor
  checks;
* `LengthFieldPrepender.length`, `field`, `write`: the length in the widths the source
  computes it in, its octets, and the function of the source.
-/

namespace LittleB

/-- What keeps `write` from returning: the exceptions it throws, and the overflow of an
`int`, which the language does not define. -/
inductive PrependFault where
  | negative
  | doesNotFit
  | invalidLengthFieldLength
  | overflow
  deriving DecidableEq, Repr

/-- The text of the `std::runtime_error`. -/
def PrependFault.what : PrependFault → Option String
  | negative => some "Length field < 0"
  | doesNotFit => some "length does not fit byte"
  | invalidLengthFieldLength => some "Invalid lengthFieldLength"
  | overflow => none

/-- The configuration of the encoder; the `CHECK` of the constructor is a field of
it. -/
structure LengthFieldPrepender where
  lengthFieldLength_ : Int32
  lengthAdjustment_ : Int32
  lengthIncludesLengthField_ : Bool
  networkByteOrder_ : Bool
  lengthFieldLength_mem :
    lengthFieldLength_ = 1 ∨ lengthFieldLength_ = 2 ∨ lengthFieldLength_ = 4 ∨
      lengthFieldLength_ = 8

namespace LengthFieldPrepender

variable (p : LengthFieldPrepender)

/-- The value of the length field: the first sum is a `size_t` and is narrowed to an
`int`, the second one is a sum of `int`s. -/
def length (buf : IOBuf) : Except PrependFault Int32 :=
  let length := (p.lengthAdjustment_.toInt64.toUInt64
    + UInt64.ofNat buf.computeChainDataLength).toUInt32.toInt32
  if p.lengthIncludesLengthField_ then
    if length.toInt + p.lengthFieldLength_.toInt < 2 ^ 31 then .ok (length + p.lengthFieldLength_)
    else .error .overflow
  else .ok length

/-- The length field in `k` octets. -/
def field (k : ℕ) (length : Int32) : Bytes :=
  let octets := Bytes.toLE k (LengthFieldBasedFrameDecoder.sizeOfInt length)
  if p.networkByteOrder_ then octets.reverse else octets

/-- `write`: the field is chained in front of the buffer, which is not copied. -/
def write (buf : IOBuf) : Except PrependFault IOBuf := do
  let length ← p.length buf
  if length < 0 then
    .error .negative
  let len ←
    if p.lengthFieldLength_ = 1 then
      if length ≥ 256 then .error .doesNotFit else .ok (p.field 1 length)
    else if p.lengthFieldLength_ = 2 then
      if length ≥ 65536 then .error .doesNotFit else .ok (p.field 2 length)
    else if p.lengthFieldLength_ = 4 then .ok (p.field 4 length)
    else if p.lengthFieldLength_ = 8 then .ok (p.field 8 length)
    else .error .invalidLengthFieldLength
  return ⟨len, buf.data :: buf.next⟩

end LengthFieldPrepender

end LittleB
