import LittleB.Doubles
import LittleB.Pipeline.Exchange

/-!
Requests and responses behind the wire.

* `Format.RoundTrips`: a message that is parsed as it was serialized;
* `wellFormed_packed`, `foldFields_packed`, `foldFields_statusFields`: the fields that
  several messages have in common;
* `LoginReq.roundTrips`, …, `LoginRsp.roundTrips`, …: the messages on the wire;
* `MessageClass.Typed`, `Codecs.RoundTrips`: codecs that parse every message as they
  serialize it, `wire_roundTrips`;
* `Request.body`, `requestOf_body`: a request in a frame, as a client sends it;
* `responseOf`, `responseOf_responseBody`: a response out of a frame, as a client reads it.
-/

namespace LittleB

open Wire

/-- A message that is parsed as it was serialized. -/
def Format.RoundTrips {M : Type} (format : Format M) (m : M) : Prop :=
  format.ParseFromArray (format.SerializeToArray m) = (true, m)

/-- Fields that fold to the message they are of. -/
lemma Format.RoundTrips.of_fold {M : Type} {format : Format M} {m : M}
    (hwf : ∀ f ∈ format.fields m, f.WellFormed)
    (hfold : foldFields format.merge format.empty (format.fields m) = (true, m)) :
    format.RoundTrips m := (format.parse_serialize hwf).trans hfold

/-! ### Common fields -/

section Fields

variable {M : Type} {merge : M → Field → Option M}

/-- The fields of two lists. -/
lemma wellFormed_append {fs gs : List Field} (hfs : ∀ f ∈ fs, f.WellFormed)
    (hgs : ∀ f ∈ gs, f.WellFormed) : ∀ f ∈ fs ++ gs, f.WellFormed :=
  List.forall_mem_append.mpr ⟨hfs, hgs⟩

variable {number : ℕ} (hnumber : 0 < number ∧ number < 2 ^ 29)

include hnumber

/-- A number that is written unless it is zero. -/
lemma wellFormed_number (n : Int32) :
    ∀ f ∈ written (n ≠ 0) ⟨number, .varint (ofInt32 n)⟩, f.WellFormed :=
  wellFormed_of_mem_written (wellFormed_int32 hnumber n)

/-- A text that is written unless it is empty. -/
lemma wellFormed_text (s : String) :
    ∀ f ∈ written (s ≠ "") ⟨number, .bytes (Bytes.ofString s)⟩, f.WellFormed :=
  wellFormed_of_mem_written (wellFormed_bytes hnumber _)

lemma wellFormed_packed (ns : List Int32) : ∀ f ∈ packed number ns, f.WellFormed :=
  wellFormed_of_mem_written (wellFormed_bytes hnumber _)

lemma wellFormed_coordinate (d : Double) :
    ∀ f ∈ written (d ≠ .finite 0) (d.field number), f.WellFormed :=
  wellFormed_of_mem_written ⟨hnumber.1, hnumber.2, Bytes.toLE_length 8 d.bits⟩

omit hnumber

lemma wellFormed_statusFields (rpcid error : Int32) (message : String) :
    ∀ f ∈ statusFields rpcid error message, f.WellFormed :=
  wellFormed_append (wellFormed_number (by decide) rpcid)
    (wellFormed_append (wellFormed_number (by decide) error)
      (wellFormed_text (by decide) message))

/-- Fields one behind the other. -/
lemma foldFields_trans {m m' m'' : M} {fs gs : List Field}
    (hfs : foldFields merge m fs = (true, m')) (hgs : foldFields merge m' gs = (true, m'')) :
    foldFields merge m (fs ++ gs) = (true, m'') := (foldFields_append hfs).trans hgs

/-- A number that is set by its field. -/
lemma foldFields_int32 (set : Int32 → M) {number : ℕ} {n : Int32}
    (h : ∀ k, merge (set 0) ⟨number, .varint k⟩ = some (set (toInt32 k))) :
    foldFields merge (set 0) (written (n ≠ 0) ⟨number, .varint (ofInt32 n)⟩) = (true, set n) := by
  refine foldFields_written (fun _ => ?_) fun hn => by rw [not_not.mp hn]
  rw [h, toInt32_ofInt32]

/-- A text that is set by its field. -/
lemma foldFields_string (set : String → M) {number : ℕ} {s : String}
    (h : ∀ bs, merge (set "") ⟨number, .bytes bs⟩ = (toString? bs).map set) :
    foldFields merge (set "") (written (s ≠ "") ⟨number, .bytes (Bytes.ofString s)⟩)
      = (true, set s) := by
  refine foldFields_written (fun _ => ?_) fun hs => by rw [not_not.mp hs]
  rw [h, toString?_ofString, Option.map_some]

/-- A coordinate that is set by its field. -/
lemma foldFields_coordinate (set : Double → M) {number : ℕ} {d : Double} (hd : d.Is)
    (h : ∀ bs, merge (set (.finite 0)) ⟨number, .fixed64 bs⟩
      = some (set (.ofBits (Bytes.ofLE bs)))) :
    foldFields merge (set (.finite 0)) (written (d ≠ .finite 0) (d.field number))
      = (true, set d) := by
  refine foldFields_written (fun _ => ?_) fun hd => by rw [not_not.mp hd]
  rw [Double.field, h, hd.ofBits_ofLE]

/-- Numbers that are added by their packed field. -/
lemma foldFields_packed (set : List Int32 → M) {number : ℕ} {ns : List Int32}
    (h : ∀ bs, merge (set []) ⟨number, .bytes bs⟩
      = (readPacked bs).map fun ks => set (ks.map toInt32)) :
    foldFields merge (set []) (packed number ns) = (true, set ns) := by
  refine foldFields_written (fun _ => ?_) fun hns => by rw [not_not.mp hns]
  have hpacked := congrArg (Option.map set) (readPacked_ofInt32 ns)
  rw [Option.map_map, Option.map_some] at hpacked
  rw [h]
  exact hpacked

/-- The fields that every response has. -/
lemma foldFields_statusFields (set : Int32 → Int32 → String → M) (rpcid error : Int32)
    (message : String)
    (hrpcid : ∀ k, merge (set 0 0 "") ⟨90, .varint k⟩ = some (set (toInt32 k) 0 ""))
    (herror : ∀ k, merge (set rpcid 0 "") ⟨91, .varint k⟩ = some (set rpcid (toInt32 k) ""))
    (hmessage : ∀ bs, merge (set rpcid error "") ⟨92, .bytes bs⟩
      = (toString? bs).map (set rpcid error)) :
    foldFields merge (set 0 0 "") (statusFields rpcid error message)
      = (true, set rpcid error message) := by
  refine foldFields_trans (foldFields_int32 (fun n => set n 0 "") hrpcid) ?_
  refine foldFields_trans (foldFields_int32 (fun n => set rpcid n "") herror) ?_
  exact foldFields_string (set rpcid error) hmessage

end Fields

/-! ### Requests -/

lemma LoginReq.roundTrips (m : LoginReq) : LoginReq.format.RoundTrips m :=
  .of_fold m.fields_wellFormed m.foldFields_fields

lemma RegisterReq.roundTrips (m : RegisterReq) : RegisterReq.format.RoundTrips m := by
  obtain ⟨rpcid, account, password⟩ := m
  refine .of_fold (wellFormed_append (wellFormed_text (by decide) account)
    (wellFormed_append (wellFormed_text (by decide) password)
      (wellFormed_number (by decide) rpcid))) ?_
  refine foldFields_trans (foldFields_string (fun s => RegisterReq.mk 0 s "") fun _ => rfl) ?_
  refine foldFields_trans (foldFields_string (RegisterReq.mk 0 account) fun _ => rfl) ?_
  exact foldFields_int32 (fun n => RegisterReq.mk n account password) fun _ => rfl

lemma TaskQueryReq.roundTrips (m : TaskQueryReq) : TaskQueryReq.format.RoundTrips m :=
  .of_fold (wellFormed_number (by decide) m.rpcid) (foldFields_int32 TaskQueryReq.mk fun _ => rfl)

lemma EraseRoleReq.roundTrips (m : EraseRoleReq) : EraseRoleReq.format.RoundTrips m :=
  .of_fold (wellFormed_number (by decide) m.rpcid) (foldFields_int32 EraseRoleReq.mk fun _ => rfl)

lemma TaskUpdateReq.roundTrips {m : TaskUpdateReq} (hx : m.position_x.Is) (hy : m.position_y.Is) :
    TaskUpdateReq.format.RoundTrips m := by
  obtain ⟨rpcid, finished_task_ids, position_x, position_y⟩ := m
  refine .of_fold (wellFormed_append (wellFormed_packed (by decide) finished_task_ids)
    (wellFormed_append (wellFormed_coordinate (by decide) position_x)
      (wellFormed_append (wellFormed_coordinate (by decide) position_y)
        (wellFormed_number (by decide) rpcid)))) ?_
  refine foldFields_trans (foldFields_packed
    (fun ns => TaskUpdateReq.mk 0 ns (.finite 0) (.finite 0)) fun _ => rfl) ?_
  refine foldFields_trans (foldFields_coordinate
    (fun d => TaskUpdateReq.mk 0 finished_task_ids d (.finite 0)) hx fun _ => rfl) ?_
  refine foldFields_trans (foldFields_coordinate
    (TaskUpdateReq.mk 0 finished_task_ids position_x) hy fun _ => rfl) ?_
  exact foldFields_int32 (fun n => TaskUpdateReq.mk n finished_task_ids position_x position_y)
    fun _ => rfl

/-! ### Responses -/

lemma LoginRsp.roundTrips (m : LoginRsp) : LoginRsp.format.RoundTrips m := by
  obtain ⟨rpcid, error, message, gid, is_returning_visitor⟩ := m
  refine .of_fold (wellFormed_append (wellFormed_number (by decide) gid)
    (wellFormed_append (wellFormed_of_mem_written (wellFormed_true (by decide)))
      (wellFormed_statusFields _ _ _))) ?_
  have hvisitor : foldFields merge { gid } (written is_returning_visitor ⟨2, .varint 1⟩)
      = (true, { gid, is_returning_visitor }) := by
    refine foldFields_written (fun h => ?_) fun h => ?_
    · rw [h]
      rfl
    · rw [Bool.eq_false_iff.mpr h]
  refine foldFields_trans (foldFields_int32 (fun n => LoginRsp.mk 0 0 "" n false)
    fun _ => rfl) ?_
  refine foldFields_trans hvisitor ?_
  exact foldFields_statusFields (fun n e s => LoginRsp.mk n e s gid is_returning_visitor) rpcid
    error message (fun _ => rfl) (fun _ => rfl) fun _ => rfl

lemma RegisterRsp.roundTrips (m : RegisterRsp) : RegisterRsp.format.RoundTrips m := by
  obtain ⟨rpcid, error, message, gid⟩ := m
  refine .of_fold (wellFormed_append (wellFormed_number (by decide) gid)
    (wellFormed_statusFields _ _ _)) ?_
  refine foldFields_trans (foldFields_int32 (RegisterRsp.mk 0 0 "") fun _ => rfl) ?_
  exact foldFields_statusFields (fun n e s => RegisterRsp.mk n e s gid) rpcid error message
    (fun _ => rfl) (fun _ => rfl) fun _ => rfl

lemma EraseRoleRsp.roundTrips (m : EraseRoleRsp) : EraseRoleRsp.format.RoundTrips m :=
  .of_fold (wellFormed_statusFields _ _ _)
    (foldFields_statusFields EraseRoleRsp.mk _ _ _ (fun _ => rfl) (fun _ => rfl) fun _ => rfl)

lemma TaskUpdateRsp.roundTrips (m : TaskUpdateRsp) : TaskUpdateRsp.format.RoundTrips m :=
  .of_fold (wellFormed_statusFields _ _ _)
    (foldFields_statusFields TaskUpdateRsp.mk _ _ _ (fun _ => rfl) (fun _ => rfl) fun _ => rfl)

lemma TaskQueryRsp.roundTrips {m : TaskQueryRsp} (hx : m.position_x.Is) (hy : m.position_y.Is) :
    TaskQueryRsp.format.RoundTrips m := by
  obtain ⟨rpcid, error, message, done_tasks, position_x, position_y⟩ := m
  refine .of_fold (wellFormed_append (wellFormed_packed (by decide) done_tasks)
    (wellFormed_append (wellFormed_coordinate (by decide) position_x)
      (wellFormed_append (wellFormed_coordinate (by decide) position_y)
        (wellFormed_statusFields _ _ _)))) ?_
  refine foldFields_trans (foldFields_packed
    (fun ns => TaskQueryRsp.mk 0 0 "" ns (.finite 0) (.finite 0)) fun _ => rfl) ?_
  refine foldFields_trans (foldFields_coordinate
    (fun d => TaskQueryRsp.mk 0 0 "" done_tasks d (.finite 0)) hx fun _ => rfl) ?_
  refine foldFields_trans (foldFields_coordinate
    (TaskQueryRsp.mk 0 0 "" done_tasks position_x) hy fun _ => rfl) ?_
  exact foldFields_statusFields
    (fun n e s => TaskQueryRsp.mk n e s done_tasks position_x position_y) rpcid error message
    (fun _ => rfl) (fun _ => rfl) fun _ => rfl

/-! ### Codecs -/

/-- The coordinates of a message are `double`s. -/
def MessageClass.Typed (c : MessageClass) : c.Msg → Prop :=
  match c with
  | TaskUpdateReq => fun m => m.position_x.Is ∧ m.position_y.Is
  | TaskQueryRsp => fun m => m.position_x.Is ∧ m.position_y.Is
  | _ => fun _ => True

/-- Codecs that parse every message as it was serialized. -/
def Codecs.RoundTrips (codecs : Codecs) : Prop :=
  ∀ (c : MessageClass) (m : c.Msg), c.Typed m →
    codecs.ParseFromArray c (codecs.SerializeToArray c m) = (true, m)

/-- The formats of the wire are such codecs. -/
theorem wire_roundTrips : Codecs.wire.RoundTrips := by
  intro c m h
  cases c with
  | LoginReq => exact LittleB.LoginReq.roundTrips m
  | LoginRsp => exact LittleB.LoginRsp.roundTrips m
  | RegisterReq => exact LittleB.RegisterReq.roundTrips m
  | RegisterRsp => exact LittleB.RegisterRsp.roundTrips m
  | TaskQueryReq => exact LittleB.TaskQueryReq.roundTrips m
  | TaskQueryRsp => exact LittleB.TaskQueryRsp.roundTrips h.1 h.2
  | TaskUpdateReq => exact LittleB.TaskUpdateReq.roundTrips h.1 h.2
  | TaskUpdateRsp => exact LittleB.TaskUpdateRsp.roundTrips m
  | EraseRoleReq => exact LittleB.EraseRoleReq.roundTrips m
  | EraseRoleRsp => exact LittleB.EraseRoleRsp.roundTrips m

/-! ### Frames -/

variable {codecs : Codecs}

/-- The command of a frame that starts with it. -/
lemma opcode_toLE {n : ℕ} (h : n < 256 ^ 2) (bs : Bytes) :
    opcode (Bytes.toLE 2 n ++ bs) = (UInt16.ofNat n).toUInt32 := by
  rw [opcode, List.take_left' (Bytes.toLE_length 2 n), Bytes.ofLE_toLE h]

namespace Request

/-- The octets of a request behind its length field: its command and the message. -/
def body (codecs : Codecs) (request : Request) : Bytes :=
  Bytes.toLE 2 request.cmd_id.toNat ++ (request.message codecs).SerializeToArray

/-- The coordinates of a request are `double`s. -/
def Typed : Request → Prop
  | UPDATE_TASK req => req.position_x.Is ∧ req.position_y.Is
  | _ => True

@[simp] lemma drop_body (request : Request) :
    (request.body codecs).drop 2 = (request.message codecs).SerializeToArray :=
  List.drop_left' (Bytes.toLE_length 2 _)

@[simp] lemma opcode_body (request : Request) :
    opcode (request.body codecs) = request.cmd_id := by
  have hlt : request.cmd_id.toNat < 256 ^ 2 := by cases request <;> simp [cmd_id]
  rw [body, opcode_toLE hlt]
  cases request <;> rfl

lemma two_le_length_body (request : Request) : 2 ≤ (request.body codecs).length := by
  rw [body, List.length_append, Bytes.toLE_length]
  omega

end Request

/-- A message is parsed as the request of its class. -/
lemma parsed_serialized (hcodecs : codecs.RoundTrips) {c : MessageClass} {req : c.Msg}
    (h : c.Typed req) (request : c.Msg → Request) :
    parsed codecs c request (codecs.SerializeToArray c req) = some (request req) := by
  rw [parsed, hcodecs c req h]

/-- **Requests** are found in the frames they are sent in. -/
theorem requestOf_body (hcodecs : codecs.RoundTrips) {request : Request} (h : request.Typed) :
    requestOf codecs (request.body codecs) = some request := by
  rw [requestOf, request.opcode_body, request.drop_body]
  cases request with
  | LOGIN req => exact parsed_serialized hcodecs (c := .LoginReq) trivial .LOGIN
  | REGISTER req => exact parsed_serialized hcodecs (c := .RegisterReq) trivial .REGISTER
  | QUERY_TASK req => exact parsed_serialized hcodecs (c := .TaskQueryReq) trivial .QUERY_TASK
  | UPDATE_TASK req => exact parsed_serialized hcodecs (c := .TaskUpdateReq) h .UPDATE_TASK
  | ERASE_ROLE req => exact parsed_serialized hcodecs (c := .EraseRoleReq) trivial .ERASE_ROLE

/-- A response of a class, when the octets parse. -/
def answered (codecs : Codecs) (c : MessageClass) (response : c.Msg → Response) (bs : Bytes) :
    Option Response :=
  match codecs.ParseFromArray c bs with
  | (true, rsp) => some (response rsp)
  | (false, _) => none

/-- The response in a frame: the first two octets are the number behind its command, and the
others parse as the response to that command. -/
def responseOf (codecs : Codecs) (f : Bytes) : Option Response :=
  if opcode f = CmdID.LOGIN + 1 then answered codecs .LoginRsp .LOGIN (f.drop 2)
  else if opcode f = CmdID.REGISTER + 1 then answered codecs .RegisterRsp .REGISTER (f.drop 2)
  else if opcode f = CmdID.QUERY_TASK + 1 then
    answered codecs .TaskQueryRsp .QUERY_TASK (f.drop 2)
  else if opcode f = CmdID.UPDATE_TASK + 1 then
    answered codecs .TaskUpdateRsp .UPDATE_TASK (f.drop 2)
  else if opcode f = CmdID.ERASE_ROLE + 1 then
    answered codecs .EraseRoleRsp .ERASE_ROLE (f.drop 2)
  else none

lemma answered_serialized (hcodecs : codecs.RoundTrips) {c : MessageClass} {rsp : c.Msg}
    (h : c.Typed rsp) (response : c.Msg → Response) :
    answered codecs c response (codecs.SerializeToArray c rsp) = some (response rsp) := by
  rw [answered, hcodecs c rsp h]

/-- The number of the response to a request. -/
lemma opcode_responseBody (request : Request) (bs : Bytes) :
    opcode (responseBody request.cmd_id bs) = request.cmd_id + 1 := by
  rw [responseBody, opcode_toLE (UInt16.toNat_lt _)]
  cases request <;> rfl

lemma drop_responseBody (cmd_id : UInt32) (bs : Bytes) : (responseBody cmd_id bs).drop 2 = bs :=
  List.drop_left' (Bytes.toLE_length 2 _)

/-- **Responses** are found in the frames they are sent in. -/
theorem responseOf_responseBody (hcodecs : codecs.RoundTrips) {request : Request}
    {response : Response} (h : Answers request response) :
    responseOf codecs (responseBody request.cmd_id (response.message codecs).SerializeToArray)
      = some response := by
  rw [responseOf, opcode_responseBody, drop_responseBody]
  cases h with
  | login req ret visitor =>
      exact answered_serialized hcodecs (c := .LoginRsp) trivial .LOGIN
  | register req ret =>
      exact answered_serialized hcodecs (c := .RegisterRsp) trivial .REGISTER
  | query_failure req =>
      exact answered_serialized hcodecs (c := .TaskQueryRsp) ⟨Double.is_zero, Double.is_zero⟩
        .QUERY_TASK
  | query req info =>
      exact answered_serialized hcodecs (c := .TaskQueryRsp)
        ⟨Double.is_ofInt32 info.position_x, Double.is_ofInt32 info.position_y⟩ .QUERY_TASK
  | update req ret =>
      exact answered_serialized hcodecs (c := .TaskUpdateRsp) trivial .UPDATE_TASK
  | erase req ret =>
      exact answered_serialized hcodecs (c := .EraseRoleRsp) trivial .ERASE_ROLE

end LittleB
