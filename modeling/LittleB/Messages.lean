import LittleB.Foundations.Bytes
import Mathlib.Data.List.AList

/-!
The messages of `libsrc/proto` and `minigame_server/proto`.

* `RoleInfo` with `BasicInfo` and `TaskProgress`: the record of an account;
* `DBTaskInfo`: the task record of a player, a map from task ids to
  `ProgressState`, `TaskMap.assign` its assignment; `DBTaskInfo.Same` compares two of
  them as maps, since protobuf keeps the entries of a map in no particular order,
  `finished` is the set of the finished ids;
* `LoginReq`, `LoginRsp`, `RegisterReq`, …: the requests and responses, each
  response with its `ErrorCode`;
* `Double`: the floating point numbers of the positions.

The `string` fields of proto3 hold valid UTF-8, so they are `String`s here.
-/

namespace LittleB

/-! ### `role.proto` -/

structure TaskProgress where
  main_task_id : Int32 := 0
  deriving DecidableEq, Repr

structure BasicInfo where
  player_id : Int32 := 0
  is_returning_visitor : Bool := false
  username : String := ""
  deriving DecidableEq, Repr

/-- The two submessages, each of which may be unset. -/
structure RoleInfo where
  basic_info_ : Option BasicInfo := none
  progress_ : Option TaskProgress := none
  deriving DecidableEq, Repr

namespace RoleInfo

/-- An unset submessage reads as the default one. -/
def basic_info (role : RoleInfo) : BasicInfo := role.basic_info_.getD {}

/-- Reading through `mutable_basic_info` sets the submessage. -/
def mutable_basic_info (role : RoleInfo) (f : BasicInfo → BasicInfo) : RoleInfo :=
  { role with basic_info_ := some (f role.basic_info) }

def clear_basic_info (role : RoleInfo) : RoleInfo := { role with basic_info_ := none }

def clear_progress (role : RoleInfo) : RoleInfo := { role with progress_ := none }

/-- A role with both submessages cleared is the empty one. -/
@[simp] lemma clear_progress_clear_basic_info (role : RoleInfo) :
    role.clear_basic_info.clear_progress = {} := rfl

end RoleInfo

/-! ### `task_db.proto` -/

/-- The state of a task; an enumeration of proto3 keeps the numbers it does not
know. -/
inductive ProgressState where
  | NOT_EXIST
  | START
  | FINISH
  | unrecognized (n : Int32) (h : n ≠ 0 ∧ n ≠ 1 ∧ n ≠ 2)
  deriving DecidableEq, Repr

namespace ProgressState

/-- The number on the wire. -/
def number : ProgressState → Int32
  | NOT_EXIST => 0
  | START => 1
  | FINISH => 2
  | unrecognized n _ => n

/-- The state with a number. -/
def ofNumber (n : Int32) : ProgressState :=
  if h0 : n = 0 then NOT_EXIST
  else if h1 : n = 1 then START
  else if h2 : n = 2 then FINISH
  else unrecognized n ⟨h0, h1, h2⟩

@[simp] lemma ofNumber_number (s : ProgressState) : ofNumber s.number = s := by
  cases s with
  | NOT_EXIST => rfl
  | START => rfl
  | FINISH => rfl
  | unrecognized n h => rw [number, ofNumber, dif_neg h.1, dif_neg h.2.1, dif_neg h.2.2]

end ProgressState

/-- A protobuf map from task ids to states. -/
abbrev TaskMap := AList fun _ : Int32 => ProgressState

namespace TaskMap

/-- `task_map[id] = state`: an entry that is there is overwritten where it stands. -/
def assign (tasks : TaskMap) (id : Int32) (state : ProgressState) : TaskMap :=
  if id ∈ tasks then tasks.replace id state else tasks.insert id state

/-- The entries of a map. -/
abbrev Entries := List (Sigma fun _ : Int32 => ProgressState)

lemma dlookup_cons (key : Int32) (value : ProgressState) (es : Entries) (t : Int32) :
    List.dlookup t (⟨key, value⟩ :: es : Entries)
      = if t = key then some value else es.dlookup t := by
  by_cases ht : t = key
  · rw [if_pos ht, ht]
    exact List.dlookup_cons_eq (β := fun _ : Int32 => ProgressState) es key value
  · rw [if_neg ht]
    exact List.dlookup_cons_ne (β := fun _ : Int32 => ProgressState) es ⟨key, value⟩ ht

/-- The entries with one of them overwritten. -/
lemma dlookup_kreplace {id : Int32} (state : ProgressState) {es : Entries} (hid : id ∈ es.keys)
    (t : Int32) :
    (es.kreplace id state).dlookup t = if t = id then some state else es.dlookup t := by
  induction es with
  | nil => cases hid
  | cons e es ih =>
      obtain ⟨key, value⟩ := e
      by_cases hkey : id = key
      · subst hkey
        have hhere : List.kreplace id state (⟨id, value⟩ :: es : Entries) = ⟨id, state⟩ :: es :=
          List.lookmap_cons_some _ _ (if_pos rfl)
        rw [hhere, dlookup_cons, dlookup_cons]
        split_ifs <;> rfl
      · have hlater : List.kreplace id state (⟨key, value⟩ :: es : Entries)
            = ⟨key, value⟩ :: es.kreplace id state := List.lookmap_cons_none _ _ (if_neg hkey)
        have hrest : id ∈ es.keys := by
          rw [List.keys_cons, List.mem_cons] at hid
          exact hid.resolve_left hkey
        rw [hlater, dlookup_cons, dlookup_cons, ih hrest]
        by_cases ht : t = key
        · rw [if_pos ht, if_pos ht, if_neg (ht ▸ Ne.symm hkey)]
        · rw [if_neg ht, if_neg ht]

/-- What is assigned is found, and the rest stays. -/
lemma lookup_assign (tasks : TaskMap) (id : Int32) (state : ProgressState) (t : Int32) :
    (tasks.assign id state).lookup t = if t = id then some state else tasks.lookup t := by
  rw [assign]
  split_ifs with hid ht ht
  · exact (dlookup_kreplace state hid t).trans (if_pos ht)
  · exact (dlookup_kreplace state hid t).trans (if_neg ht)
  · rw [ht, AList.lookup_insert]
  · exact AList.lookup_insert_ne ht

/-- Assigning what is there changes nothing. -/
lemma assign_self {tasks : TaskMap} {id : Int32} {state : ProgressState}
    (h : tasks.lookup id = some state) : tasks.assign id state = tasks := by
  have hmem : id ∈ tasks := AList.lookup_isSome.mp (by rw [h]; rfl)
  rw [assign, if_pos hmem]
  exact AList.ext (List.kreplace_self tasks.nodupKeys (AList.mem_lookup_iff.mp h))

end TaskMap

structure DBTaskInfo where
  tasks : TaskMap := ∅
  position_x : Int32 := 0
  position_y : Int32 := 0
  deriving DecidableEq

namespace DBTaskInfo

/-- The same message up to the order in which the map keeps its entries. -/
def Same (a b : DBTaskInfo) : Prop :=
  (∀ t, a.tasks.lookup t = b.tasks.lookup t) ∧ a.position_x = b.position_x ∧
    a.position_y = b.position_y

/-- The ids marked `FINISH`. -/
def finished (info : DBTaskInfo) : Set Int32 :=
  {t | info.tasks.lookup t = some ProgressState.FINISH}

@[simp] lemma mem_finished {info : DBTaskInfo} {t : Int32} :
    t ∈ info.finished ↔ info.tasks.lookup t = some ProgressState.FINISH := Iff.rfl

@[simp] lemma finished_empty : ({} : DBTaskInfo).finished = ∅ := by
  ext t
  simp

lemma Same.finished_eq {a b : DBTaskInfo} (h : Same a b) : a.finished = b.finished := by
  ext t
  rw [mem_finished, mem_finished, h.1 t]

end DBTaskInfo

/-! ### `login.proto` -/

structure LoginReq where
  rpcid : Int32 := 0
  account : String := ""
  password : String := ""
  deriving DecidableEq, Repr

inductive LoginRsp.ErrorCode where
  | SUCCEED
  | UNKOWN_EORROR
  | LOGIN_PASSWORD_WRONG
  | LOGIN_NOT_REGISTERED
  deriving DecidableEq, Repr

def LoginRsp.ErrorCode.number : LoginRsp.ErrorCode → Int32
  | SUCCEED => 0
  | UNKOWN_EORROR => 200001
  | LOGIN_PASSWORD_WRONG => 200002
  | LOGIN_NOT_REGISTERED => 200003

@[simp] lemma LoginRsp.ErrorCode.number_inj {a b : LoginRsp.ErrorCode} :
    a.number = b.number ↔ a = b := by
  cases a <;> cases b <;> simp [number]

def LoginRsp.ErrorCode_Name : LoginRsp.ErrorCode → String
  | .SUCCEED => "SUCCEED"
  | .UNKOWN_EORROR => "UNKOWN_EORROR"
  | .LOGIN_PASSWORD_WRONG => "LOGIN_PASSWORD_WRONG"
  | .LOGIN_NOT_REGISTERED => "LOGIN_NOT_REGISTERED"

structure LoginRsp where
  rpcid : Int32 := 0
  error : Int32 := 0
  message : String := ""
  gid : Int32 := 0
  is_returning_visitor : Bool := false
  deriving DecidableEq, Repr

/-! ### `register.proto` -/

structure RegisterReq where
  rpcid : Int32 := 0
  account : String := ""
  password : String := ""
  deriving DecidableEq, Repr

inductive RegisterRsp.ErrorCode where
  | SUCCEED
  | UNKOWN_EORROR
  | ACCOUNT_ALREADY_EXIST
  deriving DecidableEq, Repr

def RegisterRsp.ErrorCode.number : RegisterRsp.ErrorCode → Int32
  | SUCCEED => 0
  | UNKOWN_EORROR => 200001
  | ACCOUNT_ALREADY_EXIST => 200002

@[simp] lemma RegisterRsp.ErrorCode.number_inj {a b : RegisterRsp.ErrorCode} :
    a.number = b.number ↔ a = b := by
  cases a <;> cases b <;> simp [number]

def RegisterRsp.ErrorCode_Name : RegisterRsp.ErrorCode → String
  | .SUCCEED => "SUCCEED"
  | .UNKOWN_EORROR => "UNKOWN_EORROR"
  | .ACCOUNT_ALREADY_EXIST => "ACCOUNT_ALREADY_EXIST"

structure RegisterRsp where
  rpcid : Int32 := 0
  error : Int32 := 0
  message : String := ""
  gid : Int32 := 0
  deriving DecidableEq, Repr

/-! ### `erase_role.proto` and `task_progress.proto` -/

/-- The error codes that `EraseRoleRsp`, `TaskQueryRsp` and `TaskUpdateRsp` each
declare. -/
inductive ErrorCode where
  | SUCCEED
  | UNKOWN_EORROR
  deriving DecidableEq, Repr

def ErrorCode.number : ErrorCode → Int32
  | SUCCEED => 0
  | UNKOWN_EORROR => 200001

@[simp] lemma ErrorCode.number_inj {a b : ErrorCode} : a.number = b.number ↔ a = b := by
  cases a <;> cases b <;> simp [number]

def ErrorCode_Name : ErrorCode → String
  | .SUCCEED => "SUCCEED"
  | .UNKOWN_EORROR => "UNKOWN_EORROR"

abbrev EraseRoleRsp.ErrorCode := LittleB.ErrorCode

abbrev TaskQueryRsp.ErrorCode := LittleB.ErrorCode

abbrev TaskUpdateRsp.ErrorCode := LittleB.ErrorCode

structure EraseRoleReq where
  rpcid : Int32 := 0
  deriving DecidableEq, Repr

structure EraseRoleRsp where
  rpcid : Int32 := 0
  error : Int32 := 0
  message : String := ""
  deriving DecidableEq, Repr

/-- A `double`. -/
inductive Double where
  | finite (q : ℚ)
  | infinite (negative : Bool)
  | nan
  deriving DecidableEq, Repr

namespace Double

/-- An `int32` as a `double`, which is exact. -/
def ofInt32 (n : Int32) : Double := finite n.toInt

/-- The integer next to a rational number on the side of zero. -/
def truncate (q : ℚ) : ℤ := if 0 ≤ q then ⌊q⌋ else ⌈q⌉

/-- A `double` converted to an `int32`: truncated, when that is in range; `other`
stands for the values the language does not define. -/
def toInt32 (other : Double → Int32) : Double → Int32
  | finite q =>
      if -2 ^ 31 ≤ truncate q ∧ truncate q < 2 ^ 31 then Int32.ofInt (truncate q)
      else other (finite q)
  | d => other d

end Double

structure TaskQueryReq where
  rpcid : Int32 := 0
  deriving DecidableEq, Repr

structure TaskQueryRsp where
  rpcid : Int32 := 0
  error : Int32 := 0
  message : String := ""
  done_tasks : List Int32 := []
  position_x : Double := .finite 0
  position_y : Double := .finite 0
  deriving DecidableEq, Repr

structure TaskUpdateReq where
  rpcid : Int32 := 0
  finished_task_ids : List Int32 := []
  position_x : Double := .finite 0
  position_y : Double := .finite 0
  deriving DecidableEq, Repr

structure TaskUpdateRsp where
  rpcid : Int32 := 0
  error : Int32 := 0
  message : String := ""
  deriving DecidableEq, Repr

end LittleB
