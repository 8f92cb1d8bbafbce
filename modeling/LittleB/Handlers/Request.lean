import LittleB.Folly
import LittleB.Protobuf

/-!
`libsrc/handlers/opcode_inject_handler.cpp` and `cmd_message_serialize_handler.cpp`
on the way in, with `libsrc/data_manager/pb_reflection_manager.h` and `.cpp`: from
a frame to a request message.

* `OpcodeInjectHandler.read`: the opcode off the front of the frame;
* `PbReflectionManager`: the prototypes of the registered commands;
* `CmdMessageSerializeHandler.read`: the message parsed from the rest;
* `inbound`: the two handlers in the order of the pipeline.
-/

namespace LittleB

/-- `libsrc/common_def.h`. -/
def OPCODE_SIZE : ℕ := 2

namespace OpcodeInjectHandler

/-- `read`: the opcode is read through a cursor on the whole chain, and dropped
from the first segment. -/
def read (msg : IOBuf) : Except Fault (UInt32 × IOBuf) := do
  if OPCODE_SIZE = 4 then
    let cmd_id ← Cursor.read msg.chain 4
    let msg ← msg.trimStart 4
    return (UInt32.ofNat (Bytes.ofLE cmd_id), msg)
  else
    let cmd_id ← Cursor.read msg.chain 2
    let msg ← msg.trimStart 2
    return ((UInt16.ofNat (Bytes.ofLE cmd_id)).toUInt32, msg)

end OpcodeInjectHandler

/-- The request prototype of a registered command, as what parsing into a new
message of its type gives; `M` is the type of all messages. -/
structure MethodData (M : Type) where
  ParseFromArray : Bytes → Bool × M

/-- The prototypes of the registered commands. -/
structure PbReflectionManager (M : Type) where
  reflection_data_ : UInt32 → Option (MethodData M)

namespace PbReflectionManager

variable {M : Type}

def IsValidCmd (reg : PbReflectionManager M) (cmd_id : UInt32) : Bool :=
  (reg.reflection_data_ cmd_id).isSome

end PbReflectionManager

/-- What becomes of a frame: nothing for a command that is not registered, else
`fireReadEOF` when the octets `parsed` do not parse, and `fireRead` when they do. -/
inductive Incoming (M : Type) where
  | invalid (cmd_id : UInt32)
  | readEOF (cmd_id : UInt32) (parsed : Bytes)
  | read (cmd_id : UInt32) (parsed : Bytes) (pb : M)
  deriving DecidableEq, Repr

namespace CmdMessageSerializeHandler

variable {M : Type}

/-- The message with the given octets under the prototype of a command. -/
def parse (cmd_id : UInt32) (data : MethodData M) (bs : Bytes) : Incoming M :=
  match data.ParseFromArray bs with
  | (false, _) => .readEOF cmd_id bs
  | (true, pb) => .read cmd_id bs pb

/-- `read`: `data()` and `length()` are those of the first segment. -/
def read (reflection_manager_ : PbReflectionManager M) (msg : UInt32 × IOBuf) : Incoming M :=
  match reflection_manager_.reflection_data_ msg.1 with
  | none => .invalid msg.1
  | some data => parse msg.1 data msg.2.data

lemma parse_of_ok {cmd_id : UInt32} {data : MethodData M} {bs : Bytes} {pb : M}
    (h : data.ParseFromArray bs = (true, pb)) : parse cmd_id data bs = .read cmd_id bs pb := by
  rw [parse, h]

/-- The octets a message was parsed from. -/
lemma parse_inj {cmd_id : UInt32} {data : MethodData M} {bs bs' : Bytes}
    (h : parse cmd_id data bs = parse cmd_id data bs') : bs = bs' := by
  rw [parse, parse] at h
  split at h <;> split at h <;> cases h <;> rfl

end CmdMessageSerializeHandler

/-- From a frame to what the handlers behind `CmdMessageSerializeHandler` see. -/
def inbound {M : Type} (reg : PbReflectionManager M) (msg : IOBuf) : Except Fault (Incoming M) := do
  let msg ← OpcodeInjectHandler.read msg
  return CmdMessageSerializeHandler.read reg msg

/-! ### The opcode -/

/-- The command a frame asks for. -/
def opcode (bs : Bytes) : UInt32 := (UInt16.ofNat (Bytes.ofLE (bs.take 2))).toUInt32

/-- The opcode handler in closed form: a short frame throws, a short first segment
breaks the precondition of `trimStart`. -/
lemma OpcodeInjectHandler.read_eq (msg : IOBuf) :
    read msg = if msg.chain.length < 2 then .error .out_of_range
      else if msg.length < 2 then .error .trimStart_precondition
      else .ok (opcode msg.chain, { msg with data := msg.data.drop 2 }) := by
  rw [read, if_neg (by decide), Cursor.read, IOBuf.trimStart]
  by_cases hshort : msg.chain.length < 2
  · rw [if_pos hshort, if_neg (by omega)]
    rfl
  rw [if_neg hshort, if_pos (by omega)]
  by_cases hfirst : msg.length < 2
  · rw [if_pos hfirst, if_neg (by omega)]
    rfl
  · rw [if_neg hfirst, if_pos (by omega)]
    rfl

/-- When a frame becomes a message. -/
lemma inbound_eq {M : Type} (reg : PbReflectionManager M) (msg : IOBuf) :
    inbound reg msg = if msg.chain.length < 2 then .error .out_of_range
      else if msg.length < 2 then .error .trimStart_precondition
      else .ok (CmdMessageSerializeHandler.read reg
        (opcode msg.chain, { msg with data := msg.data.drop 2 })) := by
  rw [inbound, OpcodeInjectHandler.read_eq]
  split_ifs <;> rfl

end LittleB
