import LittleB.Messages
import LittleB.Foundations.Wire

/-!
What the server relies on of the protobuf runtime, and the wire format that
provides it for the two records kept in the database.

* `PbCodec`: `SerializeToString` and `ParseFromArray` of a message type, with the
  law that a serialized message is parsed back, up to what the type leaves open;
* `Env`: the codecs of the records and the conversions the language leaves open,
  the parameter of everything below;
* `RoleInfo.codec`, `LoginReq.codec`, `DBTaskInfo.codec`, `Env.wire`: the codecs
  over the wire format.
-/

namespace LittleB

/-- The codec of a message type.  `ParseFromArray` returns whether it succeeded
and the message as far as it was parsed; `same` is equality of messages as far as
the type determines it. -/
structure PbCodec (M : Type) (same : M → M → Prop) where
  SerializeToString : M → Bytes
  ParseFromArray : Bytes → Bool × M
  parse_serialize : ∀ m, (ParseFromArray (SerializeToString m)).1 = true ∧
    same (ParseFromArray (SerializeToString m)).2 m

/-- The surroundings of the server that are not its own code. -/
structure Env where
  roleInfo : PbCodec RoleInfo (· = ·)
  dbTaskInfo : PbCodec DBTaskInfo DBTaskInfo.Same
  /-- A `double` out of range converted to an `int32_t`. -/
  outOfRange : Double → Int32

/-- A message type without maps is parsed back as it was. -/
lemma PbCodec.parse_serialize_eq {M : Type} (codec : PbCodec M (· = ·)) (m : M) :
    codec.ParseFromArray (codec.SerializeToString m) = (true, m) := by
  obtain ⟨h1, h2⟩ := codec.parse_serialize m
  exact Prod.ext h1 h2

namespace Env

variable (env : Env)

/-- A serialized role is parsed back. -/
@[simp] lemma parse_role (role : RoleInfo) :
    env.roleInfo.ParseFromArray (env.roleInfo.SerializeToString role) = (true, role) :=
  env.roleInfo.parse_serialize_eq role

/-- A serialized task record is parsed back with the same finished ids. -/
@[simp] lemma finished_parse_taskInfo (info : DBTaskInfo) :
    (env.dbTaskInfo.ParseFromArray (env.dbTaskInfo.SerializeToString info)).2.finished
      = info.finished :=
  (env.dbTaskInfo.parse_serialize info).2.finished_eq

end Env

open Wire

/-! ### `RoleInfo` -/

namespace TaskProgress

/-- A scalar field is written when it differs from its default. -/
def fields (m : TaskProgress) : List Field :=
  written (m.main_task_id ≠ 0) ⟨1, .varint (ofInt32 m.main_task_id)⟩

/-- Fields of another number or type are skipped. -/
def merge (m : TaskProgress) : Field → Option TaskProgress
  | ⟨1, .varint n⟩ => some { m with main_task_id := toInt32 n }
  | _ => some m

lemma fields_wellFormed (m : TaskProgress) : ∀ f ∈ m.fields, f.WellFormed :=
  wellFormed_of_mem_written (wellFormed_int32 (by decide) _)

lemma foldFields_fields (m : TaskProgress) : foldFields merge {} m.fields = (true, m) := by
  obtain ⟨main_task_id⟩ := m
  rw [fields]
  by_cases h : main_task_id = 0 <;> simp [written, h, foldFields, merge]

end TaskProgress

namespace BasicInfo

def fields (m : BasicInfo) : List Field :=
  written (m.player_id ≠ 0) ⟨1, .varint (ofInt32 m.player_id)⟩ ++
    (written m.is_returning_visitor ⟨2, .varint 1⟩ ++
      written (m.username ≠ "") ⟨3, .bytes (Bytes.ofString m.username)⟩)

def merge (m : BasicInfo) : Field → Option BasicInfo
  | ⟨1, .varint n⟩ => some { m with player_id := toInt32 n }
  | ⟨2, .varint n⟩ => some { m with is_returning_visitor := n != 0 }
  | ⟨3, .bytes bs⟩ => (toString? bs).map fun s => { m with username := s }
  | _ => some m

lemma fields_wellFormed (m : BasicInfo) : ∀ f ∈ m.fields, f.WellFormed := by
  rw [fields, List.forall_mem_append, List.forall_mem_append]
  exact ⟨wellFormed_of_mem_written (wellFormed_int32 (by decide) _),
    wellFormed_of_mem_written (wellFormed_true (by decide)),
    wellFormed_of_mem_written (wellFormed_bytes (by decide) _)⟩

lemma foldFields_fields (m : BasicInfo) : foldFields merge {} m.fields = (true, m) := by
  obtain ⟨player_id, visitor, username⟩ := m
  rw [fields]
  by_cases h1 : player_id = 0 <;> cases visitor <;> by_cases h3 : username = "" <;>
    simp [written, h1, h3, foldFields, merge]

end BasicInfo

namespace RoleInfo

def fields (m : RoleInfo) : List Field :=
  (m.basic_info_.toList.map fun b => ⟨1, .bytes (b.fields.flatMap Field.encode)⟩) ++
    (m.progress_.toList.map fun p => ⟨2, .bytes (p.fields.flatMap Field.encode)⟩)

/-- A submessage is merged into the one already there. -/
def merge (m : RoleInfo) : Field → Option RoleInfo
  | ⟨1, .bytes bs⟩ =>
      match parseMessage BasicInfo.merge m.basic_info bs with
      | (true, b) => some { m with basic_info_ := some b }
      | (false, _) => none
  | ⟨2, .bytes bs⟩ =>
      match parseMessage TaskProgress.merge (m.progress_.getD {}) bs with
      | (true, p) => some { m with progress_ := some p }
      | (false, _) => none
  | _ => some m

lemma fields_wellFormed (m : RoleInfo) : ∀ f ∈ m.fields, f.WellFormed := by
  intro f hf
  rw [fields, List.mem_append, List.mem_map, List.mem_map] at hf
  rcases hf with ⟨b, -, rfl⟩ | ⟨p, -, rfl⟩
  · exact wellFormed_bytes (by decide) _
  · exact wellFormed_bytes (by decide) _

lemma foldFields_fields (m : RoleInfo) : foldFields merge {} m.fields = (true, m) := by
  obtain ⟨basic_info_, progress_⟩ := m
  have hbasic (b : BasicInfo) : parseMessage BasicInfo.merge {} (b.fields.flatMap Field.encode)
      = (true, b) := by
    rw [parseMessage_flatMap _ _ b.fields_wellFormed, b.foldFields_fields]
  have hprogress (p : TaskProgress) :
      parseMessage TaskProgress.merge {} (p.fields.flatMap Field.encode) = (true, p) := by
    rw [parseMessage_flatMap _ _ p.fields_wellFormed, p.foldFields_fields]
  rw [fields]
  cases basic_info_ <;> cases progress_ <;>
    simp [foldFields, merge, basic_info, hbasic, hprogress]

/-- The wire format of a role. -/
def codec : PbCodec RoleInfo (· = ·) where
  SerializeToString m := m.fields.flatMap Field.encode
  ParseFromArray := parseMessage merge {}
  parse_serialize m := by
    rw [parseMessage_flatMap _ _ m.fields_wellFormed, m.foldFields_fields]
    exact ⟨rfl, rfl⟩

end RoleInfo

/-! ### `LoginReq` -/

namespace LoginReq

def fields (m : LoginReq) : List Field :=
  written (m.account ≠ "") ⟨1, .bytes (Bytes.ofString m.account)⟩ ++
    (written (m.password ≠ "") ⟨2, .bytes (Bytes.ofString m.password)⟩ ++
      written (m.rpcid ≠ 0) ⟨90, .varint (ofInt32 m.rpcid)⟩)

def merge (m : LoginReq) : Field → Option LoginReq
  | ⟨1, .bytes bs⟩ => (toString? bs).map fun s => { m with account := s }
  | ⟨2, .bytes bs⟩ => (toString? bs).map fun s => { m with password := s }
  | ⟨90, .varint n⟩ => some { m with rpcid := toInt32 n }
  | _ => some m

lemma fields_wellFormed (m : LoginReq) : ∀ f ∈ m.fields, f.WellFormed := by
  rw [fields, List.forall_mem_append, List.forall_mem_append]
  exact ⟨wellFormed_of_mem_written (wellFormed_bytes (by decide) _),
    wellFormed_of_mem_written (wellFormed_bytes (by decide) _),
    wellFormed_of_mem_written (wellFormed_int32 (by decide) _)⟩

lemma foldFields_fields (m : LoginReq) : foldFields merge {} m.fields = (true, m) := by
  obtain ⟨rpcid, account, password⟩ := m
  rw [fields]
  by_cases h1 : account = "" <;> by_cases h2 : password = "" <;> by_cases h3 : rpcid = 0 <;>
    simp [written, h1, h2, h3, foldFields, merge]

/-- The wire format of a login request. -/
def codec : PbCodec LoginReq (· = ·) where
  SerializeToString m := m.fields.flatMap Field.encode
  ParseFromArray := parseMessage merge {}
  parse_serialize m := by
    rw [parseMessage_flatMap _ _ m.fields_wellFormed, m.foldFields_fields]
    exact ⟨rfl, rfl⟩

end LoginReq

/-! ### `DBTaskInfo` -/

namespace DBTaskInfo

/-- The fields of one entry of a map. -/
def entryFields (t : Int32) (s : ProgressState) : List Field :=
  [⟨1, .varint (ofInt32 t)⟩, ⟨2, .varint (ofInt32 s.number)⟩]

/-- An entry is a message of its own, with a key and a value. -/
def mergeEntry (e : Int32 × ProgressState) : Field → Option (Int32 × ProgressState)
  | ⟨1, .varint n⟩ => some (toInt32 n, e.2)
  | ⟨2, .varint n⟩ => some (e.1, .ofNumber (toInt32 n))
  | _ => some e

def entry (t : Int32) (s : ProgressState) : Field :=
  ⟨1, .bytes ((entryFields t s).flatMap Field.encode)⟩

def fields (m : DBTaskInfo) : List Field :=
  (m.tasks.entries.map fun e => entry e.1 e.2) ++
    (written (m.position_x ≠ 0) ⟨2, .varint (ofInt32 m.position_x)⟩ ++
      written (m.position_y ≠ 0) ⟨3, .varint (ofInt32 m.position_y)⟩)

def merge (m : DBTaskInfo) : Field → Option DBTaskInfo
  | ⟨1, .bytes bs⟩ =>
      match parseMessage mergeEntry (0, .NOT_EXIST) bs with
      | (true, e) => some { m with tasks := m.tasks.insert e.1 e.2 }
      | (false, _) => none
  | ⟨2, .varint n⟩ => some { m with position_x := toInt32 n }
  | ⟨3, .varint n⟩ => some { m with position_y := toInt32 n }
  | _ => some m

lemma fields_wellFormed (m : DBTaskInfo) : ∀ f ∈ m.fields, f.WellFormed := by
  rw [fields, List.forall_mem_append, List.forall_mem_append]
  refine ⟨fun f hf => ?_, wellFormed_of_mem_written (wellFormed_int32 (by decide) _),
    wellFormed_of_mem_written (wellFormed_int32 (by decide) _)⟩
  obtain ⟨e, -, rfl⟩ := List.mem_map.mp hf
  exact wellFormed_bytes (by decide) _

lemma merge_entry (m : DBTaskInfo) (t : Int32) (s : ProgressState) :
    merge m (entry t s) = some { m with tasks := m.tasks.insert t s } := by
  have hentry : parseMessage mergeEntry (0, .NOT_EXIST) ((entryFields t s).flatMap Field.encode)
      = (true, (t, s)) := by
    rw [parseMessage_flatMap]
    · simp only [entryFields, foldFields, mergeEntry, toInt32_ofInt32,
        ProgressState.ofNumber_number]
    · intro f hf
      simp only [entryFields, List.mem_cons, List.not_mem_nil, or_false] at hf
      rcases hf with rfl | rfl
      · exact wellFormed_int32 (by decide) t
      · exact wellFormed_int32 (by decide) s.number
  rw [entry, merge, hentry]

/-- The map a parser builds from the entries of a map. -/
def rebuild (tasks : TaskMap) (es : List (Sigma fun _ : Int32 => ProgressState)) : TaskMap :=
  es.foldl (fun tasks e => tasks.insert e.1 e.2) tasks

/-- Entries are merged one by one, the later ones winning. -/
lemma foldFields_entries (m : DBTaskInfo) (es : List (Sigma fun _ : Int32 => ProgressState)) :
    foldFields merge m (es.map fun e => entry e.1 e.2)
      = (true, { m with tasks := rebuild m.tasks es }) := by
  induction es generalizing m with
  | nil => rfl
  | cons e es ih =>
      rw [List.map_cons, foldFields_cons (merge_entry m e.1 e.2), ih]
      rfl

lemma foldFields_positions (tasks : TaskMap) (x y : Int32) :
    foldFields merge { tasks := tasks }
        (written (x ≠ 0) ⟨2, .varint (ofInt32 x)⟩ ++ written (y ≠ 0) ⟨3, .varint (ofInt32 y)⟩)
      = (true, { tasks := tasks, position_x := x, position_y := y }) := by
  by_cases hx : x = 0 <;> by_cases hy : y = 0 <;> simp [written, hx, hy, foldFields, merge]

/-- Everything comes back, the map rebuilt from its entries. -/
lemma foldFields_fields (m : DBTaskInfo) :
    foldFields merge {} m.fields = (true, { m with tasks := rebuild ∅ m.tasks.entries }) := by
  rw [fields, foldFields_append (foldFields_entries {} m.tasks.entries), foldFields_positions]

/-- Inserting entries with distinct keys puts them over what is there. -/
lemma lookup_rebuild {es : List (Sigma fun _ : Int32 => ProgressState)} (hes : es.NodupKeys)
    (tasks : TaskMap) (t : Int32) :
    (rebuild tasks es).lookup t = (es.dlookup t).or (tasks.lookup t) := by
  induction es generalizing tasks with
  | nil => rfl
  | cons e es ih =>
      obtain ⟨hnotin, hnodup⟩ := List.nodupKeys_cons.mp hes
      change (rebuild (tasks.insert e.1 e.2) es).lookup t = _
      rw [ih hnodup]
      by_cases ht : t = e.1
      · subst ht
        have hnone : es.dlookup e.1 = none := List.dlookup_eq_none.mpr hnotin
        rw [hnone, List.dlookup_cons_eq, AList.lookup_insert]
        rfl
      · rw [List.dlookup_cons_ne _ _ ht, AList.lookup_insert_ne ht]

/-- The wire format of a task record; its entries come back in another order. -/
def codec : PbCodec DBTaskInfo Same where
  SerializeToString m := m.fields.flatMap Field.encode
  ParseFromArray := parseMessage merge {}
  parse_serialize m := by
    rw [parseMessage_flatMap _ _ m.fields_wellFormed, foldFields_fields]
    refine ⟨rfl, fun t => ?_, rfl, rfl⟩
    rw [lookup_rebuild m.tasks.nodupKeys, AList.lookup_empty, Option.or_none]
    rfl

end DBTaskInfo

/-- The environment over the wire format, with zero for the undefined conversions. -/
def Env.wire : Env where
  roleInfo := RoleInfo.codec
  dbTaskInfo := DBTaskInfo.codec
  outOfRange := fun _ => 0

end LittleB
