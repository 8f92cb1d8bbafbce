import LittleB.Commands

/-!
`libsrc/handlers/cmd_message_serialize_handler.cpp` and `opcode_inject_handler.cpp` on
the way out: from a response message to the octets in front of which the length is put.

* `CmdMessageSerializeHandler.write`: the message serialized into a buffer;
* `OpcodeInjectHandler.write`: the command of the response in front of it;
* `chain_write`: the two handlers in the order of the pipeline.
-/

namespace LittleB

variable {C : MessageClasses}

/-- What a message is serialized to. -/
def Message.SerializeToArray (m : Message C) : Bytes := C.SerializeToArray m.type m.value

/-- `write`. -/
def CmdMessageSerializeHandler.write (msg : UInt32 × Message C) : UInt32 × IOBuf :=
  (msg.1, .single msg.2.SerializeToArray)

/-- `write`: the response to the command `n` has the number `n + 1`; its octets are
chained in front of the message. -/
def OpcodeInjectHandler.write (msg : UInt32 × IOBuf) : IOBuf :=
  let opcode_buf :=
    if OPCODE_SIZE = 4 then Bytes.toLE 4 (msg.1 + 1).toNat
    else Bytes.toLE 2 (msg.1 + 1).toUInt16.toNat
  ⟨opcode_buf, msg.2.data :: msg.2.next⟩

/-- The octets of a response behind its length field. -/
def responseBody (cmd_id : UInt32) (body : Bytes) : Bytes :=
  Bytes.toLE 2 (cmd_id + 1).toUInt16.toNat ++ body

@[simp] lemma responseBody_length (cmd_id : UInt32) (body : Bytes) :
    (responseBody cmd_id body).length = 2 + body.length := by
  rw [responseBody, List.length_append, Bytes.toLE_length]

lemma chain_write (msg : UInt32 × Message C) :
    (OpcodeInjectHandler.write (CmdMessageSerializeHandler.write msg)).chain
      = responseBody msg.1 msg.2.SerializeToArray := by
  change Bytes.toLE 2 (msg.1 + 1).toUInt16.toNat ++ [msg.2.SerializeToArray].flatten = _
  rw [List.flatten_singleton, responseBody]

end LittleB
