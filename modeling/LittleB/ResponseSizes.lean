import LittleB.Pipeline.Exchange
import LittleB.TaskErrors

/-!
How long the responses are, and which of them can be sent.

* `packedSize`, `numberSize`, `textSize`: the sizes of the values on the wire;
  `Response.size`: the size of a response from its fields, `Codecs.Sized`: codecs that
  serialize responses to that many octets, `wire_sized`;
* `querySize`, `querySize_bounds`, `size_ofTaskInfo`: the answer to a query; `size_le`: every
  other response fits a frame;
* `Sendable`, `sendable_iff`: a response that the handlers write; `outbound_doesNotFit`: one
  that is too long for its length field.
-/

namespace LittleB

open Wire

/-! ### Sizes -/

/-- The octets of packed numbers. -/
def packedSize (ns : List Int32) : ℕ := (ns.map fun n => (varint (ofInt32 n)).length).sum

lemma length_packed (ns : List Int32) :
    ((ns.map ofInt32).flatMap varint).length = packedSize ns := by
  rw [List.length_flatMap, List.map_map]
  rfl

/-- A number takes at most ten octets. -/
lemma packedSize_le (ns : List Int32) : packedSize ns ≤ 10 * ns.length := by
  have hle : packedSize ns ≤ (ns.map fun _ => 10).sum :=
    List.sum_le_sum fun n _ => length_varint_le (ofInt32_lt n)
  rw [List.map_const', List.sum_replicate, smul_eq_mul, mul_comm] at hle
  exact hle

/-- A negative number takes ten. -/
lemma packedSize_of_neg {ns : List Int32} (h : ∀ n ∈ ns, n < 0) :
    10 * ns.length ≤ packedSize ns := by
  have hle : (ns.map fun _ => 10).sum ≤ packedSize ns := by
    refine List.sum_le_sum fun n hn => ?_
    by_contra hlt
    have hshort : ofInt32 n < 128 ^ 9 := (length_varint_le_iff (by norm_num)).mp (by omega)
    have hlong := le_ofInt32 (h n hn)
    omega
  rw [List.map_const', List.sum_replicate, smul_eq_mul, mul_comm] at hle
  exact hle

/-- More numbers take more octets. -/
lemma packedSize_le_of_subset {ms ns : List Int32} (hnodup : ms.Nodup) (h : ms ⊆ ns) :
    packedSize ms ≤ packedSize ns := by
  obtain ⟨ls, hperm, hsub⟩ := hnodup.subperm h
  calc packedSize ms = packedSize ls := ((hperm.map _).sum_eq).symm
    _ ≤ packedSize ns := (hsub.map _).sum_le_sum fun _ _ => Nat.zero_le _

/-- The octets of a field with a number, `tag` of them for its tag; zero is not written. -/
def numberSize (tag : ℕ) (n : Int32) : ℕ := if n ≠ 0 then tag + (varint (ofInt32 n)).length else 0

/-- The octets of a field with a text. -/
def textSize (tag : ℕ) (s : String) : ℕ :=
  if s ≠ "" then tag + ((varint (Bytes.ofString s).length).length + (Bytes.ofString s).length)
  else 0

/-- The octets of a field with packed numbers, one of them for its tag. -/
def packedFieldSize (ns : List Int32) : ℕ :=
  if ns ≠ [] then 1 + ((varint (packedSize ns)).length + packedSize ns) else 0

/-- The octets of a coordinate. -/
def coordinateSize (d : Double) : ℕ := if d ≠ .finite 0 then 9 else 0

/-- The octets of the fields that every response has. -/
def statusSize (rpcid error : Int32) (message : String) : ℕ :=
  numberSize 2 rpcid + (numberSize 2 error + textSize 2 message)

lemma numberSize_le (tag : ℕ) (n : Int32) : numberSize tag n ≤ tag + 10 := by
  have hvarint : (varint (ofInt32 n)).length ≤ 10 := length_varint_le (ofInt32_lt n)
  rw [numberSize]
  split_ifs <;> omega

lemma textSize_le (tag : ℕ) {s : String} (h : (Bytes.ofString s).length < 128) :
    textSize tag s ≤ tag + 128 := by
  have hvarint : (varint (Bytes.ofString s).length).length ≤ 1 :=
    (length_varint_le_iff (by norm_num)).mpr (by omega)
  rw [textSize]
  split_ifs <;> omega

lemma packedSize_le_field (ns : List Int32) : packedSize ns ≤ packedFieldSize ns := by
  rw [packedFieldSize]
  split_ifs with hns
  · omega
  · rw [not_not.mp hns]
    exact le_rfl

/-- The length of packed numbers takes as many octets as it has groups. -/
lemma packedFieldSize_le {ns : List Int32} {k : ℕ} (hk : 0 < k) (h : packedSize ns < 128 ^ k) :
    packedFieldSize ns ≤ packedSize ns + k + 1 := by
  have hlength : (varint (packedSize ns)).length ≤ k := (length_varint_le_iff hk).mpr h
  rw [packedFieldSize]
  split_ifs <;> omega

lemma statusSize_le (rpcid error : Int32) {message : String}
    (h : (Bytes.ofString message).length < 128) : statusSize rpcid error message ≤ 154 := by
  have hrpcid := numberSize_le 2 rpcid
  have herror := numberSize_le 2 error
  have hmessage := textSize_le 2 h
  rw [statusSize]
  omega

/-- The octets of a response: what the encoding of its class takes, field by field. -/
def Response.size : Response → ℕ
  | LOGIN m => numberSize 1 m.gid +
      ((if m.is_returning_visitor then 2 else 0) + statusSize m.rpcid m.error m.message)
  | REGISTER m => numberSize 1 m.gid + statusSize m.rpcid m.error m.message
  | QUERY_TASK m => packedFieldSize m.done_tasks +
      (coordinateSize m.position_x +
        (coordinateSize m.position_y + statusSize m.rpcid m.error m.message))
  | UPDATE_TASK m => statusSize m.rpcid m.error m.message
  | ERASE_ROLE m => statusSize m.rpcid m.error m.message

/-- Codecs that serialize a response to the octets that its fields take. -/
def Codecs.Sized (codecs : Codecs) : Prop :=
  ∀ response : Response, (response.message codecs).SerializeToArray.length = response.size

/-! ### The sizes on the wire -/

lemma size_number {number tag : ℕ} (htag : (varint (number * 8)).length = tag) (n : Int32) :
    size (written (n ≠ 0) ⟨number, .varint (ofInt32 n)⟩) = numberSize tag n := by
  rw [size_written, numberSize, ← htag]
  simp only [Field.encode, Payload.encode, Payload.wireType, List.length_append, Nat.add_zero]

lemma size_packed_one (ns : List Int32) : size (packed 1 ns) = packedFieldSize ns := by
  have htag : (varint (1 * 8 + 2)).length = 1 := rfl
  rw [packed, size_written, packedFieldSize]
  simp only [Field.encode, Payload.encode, Payload.wireType, List.length_append, length_packed,
    htag]

lemma size_coordinate {number : ℕ} (htag : (varint (number * 8 + 1)).length = 1) (d : Double) :
    size (written (d ≠ .finite 0) (d.field number)) = coordinateSize d := by
  rw [size_written, coordinateSize]
  simp only [Double.field, Field.encode, Payload.encode, Payload.wireType, List.length_append,
    htag, Bytes.toLE_length]

lemma size_statusFields (rpcid error : Int32) (message : String) :
    size (statusFields rpcid error message) = statusSize rpcid error message := by
  have hrpcid : size (written (rpcid ≠ 0) ⟨90, .varint (ofInt32 rpcid)⟩) = numberSize 2 rpcid :=
    size_number rfl rpcid
  have herror : size (written (error ≠ 0) ⟨91, .varint (ofInt32 error)⟩) = numberSize 2 error :=
    size_number rfl error
  have htag : (varint (92 * 8 + 2)).length = 2 := rfl
  have hmessage : size (written (message ≠ "") ⟨92, .bytes (Bytes.ofString message)⟩)
      = textSize 2 message := by
    rw [size_written, textSize]
    simp only [Field.encode, Payload.encode, Payload.wireType, List.length_append, htag]
  rw [statusFields, size_append, size_append, hrpcid, herror, hmessage, statusSize]

/-- The formats of the wire have these sizes. -/
theorem wire_sized : Codecs.wire.Sized := by
  have hgid (n : Int32) : size (written (n ≠ 0) ⟨1, .varint (ofInt32 n)⟩) = numberSize 1 n :=
    size_number rfl n
  intro response
  cases response with
  | LOGIN m =>
      have hvisitor : (Field.encode ⟨2, .varint 1⟩).length = 2 := rfl
      change size m.fields = _
      rw [LoginRsp.fields, size_append, size_append, hgid, size_written, hvisitor,
        size_statusFields, Response.size]
  | REGISTER m =>
      change size m.fields = _
      rw [RegisterRsp.fields, size_append, hgid, size_statusFields, Response.size]
  | QUERY_TASK m =>
      change size m.fields = _
      rw [TaskQueryRsp.fields, size_append, size_append, size_append, size_packed_one,
        size_coordinate rfl, size_coordinate rfl, size_statusFields, Response.size]
  | UPDATE_TASK m => exact size_statusFields m.rpcid m.error m.message
  | ERASE_ROLE m => exact size_statusFields m.rpcid m.error m.message

/-! ### The sizes of the answers -/

/-- The octets of the answer to a query that shows ids and a position. -/
def querySize (rpcid : Int32) (ids : List Int32) (position_x position_y : Int32) : ℕ :=
  packedFieldSize ids + ((if position_x ≠ 0 then 9 else 0) +
    ((if position_y ≠ 0 then 9 else 0) + statusSize rpcid 0 "SUCCEED"))

lemma querySize_bounds (rpcid : Int32) (ids : List Int32) (position_x position_y : Int32)
    (h : packedSize ids < 128 ^ 3) :
    packedSize ids ≤ querySize rpcid ids position_x position_y ∧
      querySize rpcid ids position_x position_y ≤ packedSize ids + 44 := by
  have hlower := packedSize_le_field ids
  have hupper := packedFieldSize_le (by norm_num) h
  have hrpcid := numberSize_le 2 rpcid
  have herror : numberSize 2 0 = 0 := rfl
  have hmessage : textSize 2 "SUCCEED" = 10 := by decide
  rw [querySize, statusSize, herror, hmessage]
  split_ifs <;> omega

/-- A query that finds a record. -/
lemma size_ofTaskInfo (rpcid : Int32) (info : DBTaskInfo) :
    (Response.QUERY_TASK (.ofTaskInfo rpcid info)).size
      = querySize rpcid info.doneTasks info.position_x info.position_y := by
  have hcoordinate (n : Int32) : coordinateSize (.ofInt32 n) = if n ≠ 0 then 9 else 0 := by
    simp only [coordinateSize, ne_eq, show Double.ofInt32 n = .finite 0 ↔ n = 0 from
      Double.ofInt32_inj (n := 0)]
  rw [querySize, ← hcoordinate, ← hcoordinate]
  rfl

/-- A query that finds no record. -/
lemma size_failure (rpcid : Int32) :
    (Response.QUERY_TASK (.failure rpcid)).size ≤ 65533 := by
  have hstatus : statusSize rpcid ErrorCode.UNKOWN_EORROR.number "UNKOWN_EORROR" ≤ 154 :=
    statusSize_le _ _ (by decide)
  change 0 + (0 + (0 + statusSize rpcid ErrorCode.UNKOWN_EORROR.number "UNKOWN_EORROR")) ≤ 65533
  omega

/-- **Sizes**: the responses to all requests but queries are short. -/
lemma size_le {request : Request} {response : Response} (h : Answers request response)
    (hquery : ∀ req, request ≠ .QUERY_TASK req) : response.size ≤ 65533 := by
  cases h with
  | query_failure req => exact absurd rfl (hquery req)
  | query req info => exact absurd rfl (hquery req)
  | login req ret visitor =>
      have hstatus : statusSize req.rpcid ret.number (LoginRsp.ErrorCode_Name ret) ≤ 154 :=
        statusSize_le _ _ (by cases ret <;> decide)
      change 0 + (_ + statusSize req.rpcid ret.number (LoginRsp.ErrorCode_Name ret)) ≤ 65533
      split_ifs <;> omega
  | register req ret =>
      have hstatus : statusSize req.rpcid ret.number (RegisterRsp.ErrorCode_Name ret) ≤ 154 :=
        statusSize_le _ _ (by cases ret <;> decide)
      change 0 + statusSize req.rpcid ret.number (RegisterRsp.ErrorCode_Name ret) ≤ 65533
      omega
  | update req ret | erase req ret =>
      have hstatus : statusSize req.rpcid ret.number (ErrorCode_Name ret) ≤ 154 :=
        statusSize_le _ _ (by cases ret <;> decide)
      change statusSize req.rpcid ret.number (ErrorCode_Name ret) ≤ 65533
      omega

/-! ### Which responses can be sent -/

variable {codecs : Codecs}

/-- The handlers write a response, and two octets can express its length with its
command. -/
structure Sendable (codecs : Codecs) (e : Request × Response) : Prop where
  written : ∃ buf, outbound codecs (e.1.cmd_id, e.2.message codecs) = .ok buf
  fits : (e.2.message codecs).SerializeToArray.length + 2 < 65536

lemma Sendable.length_le {e : Request × Response} (h : Sendable codecs e) :
    (e.2.message codecs).SerializeToArray.length ≤ 65533 := by
  have hfits := h.fits
  omega

lemma sendable_iff (hsized : codecs.Sized) (e : Request × Response) :
    Sendable codecs e ↔ e.2.size ≤ 65533 := by
  rw [← hsized e.2]
  constructor
  · exact Sendable.length_le
  · intro h
    obtain ⟨buf, hbuf, -⟩ : ∃ buf, outbound codecs (e.1.cmd_id, e.2.message codecs) = .ok buf ∧ _ :=
      outbound_ok codecs h
    exact ⟨⟨buf, hbuf⟩, by omega⟩

/-- What does not fit the length field is thrown at. -/
lemma outbound_doesNotFit (hsized : codecs.Sized) {cmd_id : UInt32} {response : Response}
    (hlong : 65533 < response.size) (hshort : response.size < 2 ^ 31 - 2) :
    outbound codecs (cmd_id, response.message codecs) = .error .doesNotFit := by
  have hlength : (OpcodeInjectHandler.write (CmdMessageSerializeHandler.write
      (cmd_id, response.message codecs))).chain.length = 2 + response.size := by
    rw [chain_write, responseBody_length, hsized]
  rw [outbound, write_server, hlength, Nat.mod_eq_of_lt (by omega), if_neg (by omega),
    if_pos (by omega)]

end LittleB
