import LittleB.Protobuf
import LittleB.Redis

/-!
`libsrc/data_manager/roleinfo_manager.cpp` and
`minigame_server/data_manager/task_data_manager.cpp`: the records of accounts and
players, between the store and the messages.

* `RoleinfoManager`: the roles of the connections in memory, with `AddRole`,
  `RemoveRole`, `GetRole` and `SetRole`;
* `RoleinfoManager.PullRoleInfoFromDB`, `RoleinfoManager.PushRoleToDB`: the role
  record of an account, with `run_PullRoleInfoFromDB` and `run_PushRoleToDB`;
  `storedRole` is the role a store holds for an account, with `storedRole_congr` and
  `storedRole_update_role`, `pulledRole` the one a pull yields;
* `TaskDataManager`: the cache of task records and its operations, with
  `run_PullTaskInfoFromDB` and `PushTaskInfoToDB_put`; `storedTaskInfo` is
  the task record a store holds for a player, `taskinfoReply` what reading it is
  answered.
-/

namespace LittleB

variable (env : Env)

/-! ### Roles -/

/-- A role in memory, and for the record the account it was pulled for, which the
code does not keep. -/
structure Session where
  username : String
  role : RoleInfo
  deriving DecidableEq, Repr

/-- The roles in memory by the address of the peer. -/
structure RoleinfoManager (Addr : Type) where
  roles_ : Addr → Option Session

namespace RoleinfoManager

section Sessions

variable {Addr : Type} [DecidableEq Addr]

/-- The manager as it is constructed. -/
def empty : RoleinfoManager Addr := ⟨fun _ => none⟩

/-- `AddRole`: an address that has a role keeps it. -/
def AddRole (self : RoleinfoManager Addr) (remote_address : Addr) (session : Session) :
    Bool × RoleinfoManager Addr :=
  match self.roles_ remote_address with
  | some _ => (false, self)
  | none => (true, ⟨Function.update self.roles_ remote_address (some session)⟩)

/-- `RemoveRole`, which no handler calls. -/
def RemoveRole (self : RoleinfoManager Addr) (remote_address : Addr) :
    Bool × RoleinfoManager Addr :=
  ((self.roles_ remote_address).isSome, ⟨Function.update self.roles_ remote_address none⟩)

/-- `GetRole`: none for the null pointer. -/
def GetRole (self : RoleinfoManager Addr) (remote_address : Addr) : Option RoleInfo :=
  (self.roles_ remote_address).map Session.role

/-- The manager after a service has changed the role of an address, which it shares
with the manager. -/
def SetRole (self : RoleinfoManager Addr) (remote_address : Addr) (role : RoleInfo) :
    RoleinfoManager Addr :=
  ⟨Function.update self.roles_ remote_address
    ((self.roles_ remote_address).map fun session => { session with role := role })⟩

lemma AddRole_bound {self : RoleinfoManager Addr} {addr : Addr} (h : self.roles_ addr ≠ none)
    (session : Session) : (self.AddRole addr session).2 = self := by
  rw [AddRole]
  cases hs : self.roles_ addr with
  | none => exact absurd hs h
  | some bound => rfl

lemma AddRole_unbound {self : RoleinfoManager Addr} {addr : Addr} (h : self.roles_ addr = none)
    (session : Session) :
    (self.AddRole addr session).2.roles_ = Function.update self.roles_ addr (some session) := by
  rw [AddRole, h]

/-- A login touches the role of its own address only. -/
lemma AddRole_of_ne (self : RoleinfoManager Addr) {addr a : Addr} (h : a ≠ addr)
    (session : Session) : (self.AddRole addr session).2.roles_ a = self.roles_ a := by
  rw [AddRole]
  cases self.roles_ addr with
  | none => exact Function.update_of_ne h _ _
  | some bound => rfl

lemma SetRole_of_ne (self : RoleinfoManager Addr) {addr a : Addr} (h : a ≠ addr)
    (role : RoleInfo) : (self.SetRole addr role).roles_ a = self.roles_ a :=
  Function.update_of_ne h _ _

/-- A service cannot give a role to an address without one. -/
lemma SetRole_unbound {self : RoleinfoManager Addr} {addr : Addr} (h : self.roles_ addr = none)
    (role : RoleInfo) : (self.SetRole addr role).roles_ addr = none := by
  change Function.update self.roles_ addr _ addr = none
  rw [Function.update_self, h]
  rfl

/-- The account whose role an address has. -/
def boundTo (self : RoleinfoManager Addr) (addr : Addr) : Option String :=
  (self.roles_ addr).map Session.username

/-- A service changes the role of an address, not whose role it is. -/
@[simp] lemma boundTo_SetRole (self : RoleinfoManager Addr) (addr : Addr) (role : RoleInfo) :
    (self.SetRole addr role).boundTo = self.boundTo := by
  funext a
  change (Function.update self.roles_ addr _ a).map Session.username = (self.roles_ a).map _
  by_cases ha : a = addr
  · rw [ha, Function.update_self, Option.map_map]
    rfl
  · rw [Function.update_of_ne ha]

/-- What `AddRole` can do to the accounts of the addresses. -/
lemma boundTo_AddRole (self : RoleinfoManager Addr) {addr a : Addr} {session : Session}
    {username : String} (h : (self.AddRole addr session).2.boundTo a = some username) :
    self.boundTo a = some username ∨
      self.roles_ addr = none ∧ a = addr ∧ username = session.username := by
  by_cases hfree : self.roles_ addr = none
  · rw [boundTo, AddRole_unbound hfree] at h
    by_cases ha : a = addr
    · rw [ha, Function.update_self] at h
      exact .inr ⟨hfree, ha, (Option.some_inj.mp h).symm⟩
    · rw [Function.update_of_ne ha] at h
      exact .inl h
  · rw [AddRole_bound hfree] at h
    exact .inl h

end Sessions

/-- `PullRoleInfoFromDB`: none for the null pointer. -/
def PullRoleInfoFromDB (username : String) : Prog RedisSig (Option RoleInfo) := do
  let reply ← RedisCommand (.get (role_key username))
  if reply.type ≠ .REDIS_REPLY_STRING then
    return none
  match env.roleInfo.ParseFromArray reply.str with
  | (false, _) => return none
  | (true, role) => return some role

/-- `PushRoleToDB`: the key is that of the user name inside the role. -/
def PushRoleToDB (role : RoleInfo) : Prog RedisSig Bool := do
  let buf := env.roleInfo.SerializeToString role
  let reply ← RedisCommand (.set (role_key role.basic_info.username) buf)
  if reply.type ≠ .REDIS_REPLY_STATUS then
    return false
  return true

end RoleinfoManager

/-- The role that a stored string decodes to. -/
def decodeRole (value : Bytes) : Option RoleInfo :=
  match env.roleInfo.ParseFromArray value with
  | (false, _) => none
  | (true, role) => some role

/-- The role the store holds for an account. -/
def storedRole (db : Bytes → Option Bytes) (username : String) : Option RoleInfo :=
  (db (role_key username)).bind (decodeRole env)

@[simp] lemma decodeRole_serialize (role : RoleInfo) :
    decodeRole env (env.roleInfo.SerializeToString role) = some role := by
  rw [decodeRole, env.parse_role]

variable {env} in
/-- Accounts that are the same C string have the same record. -/
lemma storedRole_congr {u v : String} (h : c_str u = c_str v) (db : Bytes → Option Bytes) :
    storedRole env db u = storedRole env db v := by
  rw [storedRole, storedRole, role_key_inj.mpr h]

variable {env} in
/-- The records behind the write of a role. -/
lemma storedRole_update_role (db : Bytes → Option Bytes) (role : RoleInfo) (u v : String) :
    storedRole env (Function.update db (role_key v) (some (env.roleInfo.SerializeToString role))) u
      = if c_str u = c_str v then some role else storedRole env db u := by
  rw [storedRole]
  by_cases hu : c_str u = c_str v
  · rw [if_pos hu, role_key_inj.mpr hu, Function.update_self, Option.bind_some,
      decodeRole_serialize]
  · rw [if_neg hu, Function.update_of_ne (role_key_inj.not.mpr hu), storedRole]

variable {env} in
/-- The records behind the write of something else. -/
lemma storedRole_update_of_ne (db : Bytes → Option Bytes) {key : Bytes} (value : Option Bytes)
    {u : String} (h : role_key u ≠ key) :
    storedRole env (Function.update db key value) u = storedRole env db u := by
  rw [storedRole, Function.update_of_ne h, storedRole]

section Runs

variable {r : Redis}

/-- A pull that is answered gives the stored role. -/
lemma run_PullRoleInfoFromDB (h : r.outcome 0 = .ok) (username : String) :
    (RoleinfoManager.PullRoleInfoFromDB env username).run Redis.exec r
      = (storedRole env r.db username, ⟨r.db, r.later⟩) := by
  rw [RoleinfoManager.PullRoleInfoFromDB, Redis.run_bind, Redis.exec_ok h, storedRole]
  cases hdb : r.db (role_key username) with
  | none => rw [Redis.perform_get_none hdb]; rfl
  | some value =>
      rw [Redis.perform_get_some hdb, Option.bind_some, decodeRole]
      change Prog.run Redis.exec (match env.roleInfo.ParseFromArray value with
        | (false, _) => Prog.ret none
        | (true, role) => Prog.ret (some role)) _ = _
      split <;> rfl

/-- A pull that is answered with an error gives no role. -/
lemma run_PullRoleInfoFromDB_error {str : Bytes} (h : r.outcome 0 = .error str)
    (username : String) :
    (RoleinfoManager.PullRoleInfoFromDB env username).run Redis.exec r
      = (none, ⟨r.db, r.later⟩) := by
  rw [RoleinfoManager.PullRoleInfoFromDB, Redis.run_bind, Redis.exec_error h]
  rfl

/-- The role a pull yields: the stored one, when the store answers. -/
def pulledRole (r : Redis) (username : String) : Option RoleInfo :=
  if r.outcome 0 = .ok then storedRole env r.db username else none

/-- A pull does not change the store. -/
lemma run_PullRoleInfoFromDB_pulled (r : Redis) (username : String) :
    (RoleinfoManager.PullRoleInfoFromDB env username).run Redis.exec r
      = (pulledRole env r username, ⟨r.db, r.later⟩) := by
  rw [pulledRole]
  cases h0 : r.outcome 0 with
  | ok => rw [run_PullRoleInfoFromDB env h0, if_pos rfl]
  | error str => rw [run_PullRoleInfoFromDB_error env h0, if_neg (by simp)]

/-- A push that is answered stores the role under its own user name. -/
lemma run_PushRoleToDB (h : r.outcome 0 = .ok) (role : RoleInfo) :
    (RoleinfoManager.PushRoleToDB env role).run Redis.exec r
      = (true, ⟨Function.update r.db (role_key role.basic_info.username)
          (some (env.roleInfo.SerializeToString role)), r.later⟩) := by
  rw [RoleinfoManager.PushRoleToDB, Redis.run_bind, Redis.exec_ok h]
  rfl

/-- A push that is answered with an error stores nothing. -/
lemma run_PushRoleToDB_error {str : Bytes} (h : r.outcome 0 = .error str) (role : RoleInfo) :
    (RoleinfoManager.PushRoleToDB env role).run Redis.exec r
      = (false, ⟨r.db, r.later⟩) := by
  rw [RoleinfoManager.PushRoleToDB, Redis.run_bind, Redis.exec_error h]
  rfl

end Runs

/-! ### Task records -/

/-- The task records in memory. -/
structure TaskDataManager where
  task_infos_ : Int32 → Option DBTaskInfo

namespace TaskDataManager

/-- The manager as it is constructed. -/
def empty : TaskDataManager := ⟨fun _ => none⟩

def TaskInfoExist (self : TaskDataManager) (gid : Int32) : Bool := (self.task_infos_ gid).isSome

/-- The manager with a record put in place of the one of a player. -/
def put (self : TaskDataManager) (gid : Int32) (info : DBTaskInfo) : TaskDataManager :=
  ⟨Function.update self.task_infos_ gid (some info)⟩

/-- `PullTaskInfoFromDB`: false both for a player without a record and for one
whose record is in memory already; the result of parsing is not looked at. -/
def PullTaskInfoFromDB (self : TaskDataManager) (gid : Int32) :
    Prog RedisSig (Bool × TaskDataManager) := do
  let reply ← RedisCommand (.get (taskinfo_key gid))
  if reply.type = .REDIS_REPLY_NIL then
    return (false, self)
  let task_info := (env.dbTaskInfo.ParseFromArray reply.str).2
  if self.TaskInfoExist gid then
    return (false, self)
  return (true, self.put gid task_info)

/-- `PushTaskInfoToDB`. -/
def PushTaskInfoToDB (self : TaskDataManager) (gid : Int32) : Prog RedisSig Bool := do
  match self.task_infos_ gid with
  | none => return false
  | some info =>
      let reply ← RedisCommand (.set (taskinfo_key gid) (env.dbTaskInfo.SerializeToString info))
      if reply.type ≠ .REDIS_REPLY_STATUS then
        return false
      return true

/-- `GetTaskInfo`: a record that is not there is created. -/
def GetTaskInfo (self : TaskDataManager) (gid : Int32) : DBTaskInfo × TaskDataManager :=
  match self.task_infos_ gid with
  | some info => (info, self)
  | none => ({}, self.put gid {})

@[simp] lemma TaskInfoExist_empty (gid : Int32) : empty.TaskInfoExist gid = false := rfl

@[simp] lemma task_infos_put (self : TaskDataManager) (gid : Int32) (info : DBTaskInfo) :
    (self.put gid info).task_infos_ gid = some info := Function.update_self _ _ _

@[simp] lemma put_put (self : TaskDataManager) (gid : Int32) (info info' : DBTaskInfo) :
    (self.put gid info).put gid info' = self.put gid info' := by
  rw [put, put, put, Function.update_idem]

@[simp] lemma GetTaskInfo_put (self : TaskDataManager) (gid : Int32) (info : DBTaskInfo) :
    (self.put gid info).GetTaskInfo gid = (info, self.put gid info) := by
  rw [GetTaskInfo, task_infos_put]

@[simp] lemma GetTaskInfo_empty (gid : Int32) :
    empty.GetTaskInfo gid = ({}, empty.put gid {}) := rfl

/-- The push of a record in the cache is one command. -/
lemma PushTaskInfoToDB_put (self : TaskDataManager) (gid : Int32) (info : DBTaskInfo) :
    (self.put gid info).PushTaskInfoToDB env gid =
      RedisCommand (.set (taskinfo_key gid) (env.dbTaskInfo.SerializeToString info)) >>=
        fun reply => Prog.ret (decide (reply.type = .REDIS_REPLY_STATUS)) := by
  rw [PushTaskInfoToDB, task_infos_put]
  refine congrArg (RedisCommand _ >>= ·) (funext fun reply => ?_)
  by_cases h : reply.type = .REDIS_REPLY_STATUS <;> simp [h]

end TaskDataManager

/-- The task record the store holds for a player, as far as it can be parsed. -/
def storedTaskInfo (db : Bytes → Option Bytes) (gid : Int32) : Option DBTaskInfo :=
  (db (taskinfo_key gid)).map fun value => (env.dbTaskInfo.ParseFromArray value).2

/-- What reading the record of a player is answered. -/
def taskinfoReply (r : Redis) (gid : Int32) : Reply := (Redis.exec (.get (taskinfo_key gid)) r).1

/-- A pull of a record that is not in the cache: false when the store has none, else what
the reply parses to is in the cache, an error text like a record. -/
lemma run_PullTaskInfoFromDB {self : TaskDataManager} {gid : Int32}
    (h : self.TaskInfoExist gid = false) (r : Redis) :
    (self.PullTaskInfoFromDB env gid).run Redis.exec r
      = (if (taskinfoReply r gid).type = .REDIS_REPLY_NIL then (false, self)
          else (true, self.put gid (env.dbTaskInfo.ParseFromArray (taskinfoReply r gid).str).2),
        ⟨r.db, r.later⟩) := by
  rw [TaskDataManager.PullTaskInfoFromDB, Redis.run_bind, Redis.exec_get_snd, taskinfoReply]
  by_cases hnil : (Redis.exec (.get (taskinfo_key gid)) r).1.type = .REDIS_REPLY_NIL
  · rw [if_pos hnil, if_pos hnil]
    rfl
  · simp only [if_neg hnil, h, Bool.false_eq_true, if_false]
    rfl

end LittleB
