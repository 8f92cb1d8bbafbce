import LittleB.DataManager

/-!
The services: `libsrc/login_service/minigame_login_service.cpp`,
`minigame_register_service.cpp` and `minigame_server/service`.

* `MinigameFakeLoginService`, `MinigameRegisterService`: log in and register;
* `EraseRoleService`: clears the session's role and pushes it;
* `TaskUpdateService`, `TaskQueryService`: each holds its own copy of the manager
  it was constructed from;
* `Request`, `Response`, `Request.cmd_id`: what the commands of the server are
  about;
* `SyncServiceClassDecorator`, `RunSyncService`: a service constructed for one
  request, and the services by command as `main` registers them.

A role passed by reference is returned where a service changes it.
-/

namespace LittleB

open Bytes

variable (env : Env)

/-! ### Login and registration -/

/-- The response with an error code. -/
def LoginRsp.answer (rpcid : Int32) (ret : LoginRsp.ErrorCode) (is_returning_visitor : Bool) :
    LoginRsp :=
  { rpcid := rpcid, error := ret.number, message := LoginRsp.ErrorCode_Name ret,
    is_returning_visitor := is_returning_visitor }

/-- `MinigameFakeLoginService::operator()`: the password sent is compared with the
stored one up to its first zero octet. -/
def MinigameFakeLoginService (request : LoginReq) : Prog RedisSig LoginRsp := do
  let reply ← RedisCommand (.get (password_key request.account))
  if reply.type ≠ .REDIS_REPLY_STRING then
    return .answer request.rpcid .LOGIN_NOT_REGISTERED false
  if ofString request.password ≠ cstr reply.str then
    return .answer request.rpcid .LOGIN_PASSWORD_WRONG false
  match ← RoleinfoManager.PullRoleInfoFromDB env request.account with
  | none => return .answer request.rpcid .UNKOWN_EORROR false
  | some role_ptr =>
      if ¬ role_ptr.basic_info.is_returning_visitor then
        let role_ptr := role_ptr.mutable_basic_info fun b => { b with is_returning_visitor := true }
        -- the result of the push is not looked at
        let _ ← RoleinfoManager.PushRoleToDB env role_ptr
        return .answer request.rpcid .SUCCEED false
      else
        return .answer request.rpcid .SUCCEED true

/-- The response with an error code. -/
def RegisterRsp.answer (rpcid : Int32) (ret : RegisterRsp.ErrorCode) : RegisterRsp :=
  { rpcid := rpcid, error := ret.number, message := RegisterRsp.ErrorCode_Name ret }

/-- The record of a new account. -/
def initialRole (username : String) (gid : Int32) : RoleInfo :=
  { basic_info_ := some { player_id := gid, username := username } }

/-- `MinigameRegisterService::operator()`: the counter is narrowed to an `int`. -/
def MinigameRegisterService (request : RegisterReq) : Prog RedisSig RegisterRsp := do
  let reply ← RedisCommand (.get (password_key request.account))
  if reply.type ≠ .REDIS_REPLY_NIL then
    return .answer request.rpcid .ACCOUNT_ALREADY_EXIST
  let reply ← RedisCommand (.set (password_key request.account) (c_str request.password))
  if reply.type ≠ .REDIS_REPLY_STATUS then
    return .answer request.rpcid .UNKOWN_EORROR
  let reply ← RedisCommand (.incr gid_key)
  if reply.type ≠ .REDIS_REPLY_INTEGER then
    return .answer request.rpcid .UNKOWN_EORROR
  let gid := reply.integer'.toInt32
  let role_buf := env.roleInfo.SerializeToString (initialRole request.account gid)
  let reply ← RedisCommand (.set (role_key request.account) role_buf)
  if reply.type = .REDIS_REPLY_STATUS then
    return .answer request.rpcid .SUCCEED
  else
    return .answer request.rpcid .UNKOWN_EORROR

/-! ### Erasing a role -/

def EraseRoleRsp.answer (rpcid : Int32) (ret : EraseRoleRsp.ErrorCode) : EraseRoleRsp :=
  { rpcid := rpcid, error := ret.number, message := ErrorCode_Name ret }

/-- `EraseRoleService::operator()`: the role is cleared, and then pushed. -/
def EraseRoleService (role : RoleInfo) (request : EraseRoleReq) :
    Prog RedisSig (EraseRoleRsp × RoleInfo) := do
  let role := role.clear_basic_info
  let role := role.clear_progress
  if ¬ (← RoleinfoManager.PushRoleToDB env role) then
    return (.answer request.rpcid .UNKOWN_EORROR, role)
  return (.answer request.rpcid .SUCCEED, role)

/-! ### Tasks -/

def TaskUpdateRsp.answer (rpcid : Int32) (ret : TaskUpdateRsp.ErrorCode) : TaskUpdateRsp :=
  { rpcid := rpcid, error := ret.number, message := ErrorCode_Name ret }

/-- The record with further tasks finished and a new position. -/
def DBTaskInfo.update (info : DBTaskInfo) (request : TaskUpdateReq) : DBTaskInfo :=
  { tasks := request.finished_task_ids.foldl
      (fun task_map finish_task_id => TaskMap.assign task_map finish_task_id .FINISH) info.tasks
    position_x := request.position_x.toInt32 env.outOfRange
    position_y := request.position_y.toInt32 env.outOfRange }

/-- The service of one update, with its own manager. -/
structure TaskUpdateService where
  task_data_manager_ : TaskDataManager

/-- `TaskUpdateService::operator()`: neither the pull nor the push is checked. -/
def TaskUpdateService.call (self : TaskUpdateService) (role : RoleInfo) (request : TaskUpdateReq) :
    Prog RedisSig (TaskUpdateRsp × TaskUpdateService) := do
  let gid := role.basic_info.player_id
  let manager ←
    if self.task_data_manager_.TaskInfoExist gid then
      pure self.task_data_manager_
    else do
      let pulled ← self.task_data_manager_.PullTaskInfoFromDB env gid
      pure pulled.2
  let (task_info, manager) := manager.GetTaskInfo gid
  let manager := manager.put gid (task_info.update env request)
  let _ ← manager.PushTaskInfoToDB env gid
  return (.answer request.rpcid .SUCCEED, ⟨manager⟩)

/-- The ids marked `FINISH`, in the order of the map. -/
def DBTaskInfo.doneTasks (info : DBTaskInfo) : List Int32 :=
  (info.tasks.entries.filter fun item => item.2 = .FINISH).map Sigma.fst

def TaskQueryRsp.failure (rpcid : Int32) : TaskQueryRsp :=
  { rpcid := rpcid, error := ErrorCode.UNKOWN_EORROR.number
    message := ErrorCode_Name .UNKOWN_EORROR }

def TaskQueryRsp.ofTaskInfo (rpcid : Int32) (info : DBTaskInfo) : TaskQueryRsp :=
  { rpcid := rpcid, error := ErrorCode.SUCCEED.number, message := ErrorCode_Name .SUCCEED
    done_tasks := info.doneTasks
    position_x := .ofInt32 info.position_x, position_y := .ofInt32 info.position_y }

/-- The service of one query, with its own manager. -/
structure TaskQueryService where
  task_data_manager_ : TaskDataManager

/-- `TaskQueryService::operator()`. -/
def TaskQueryService.call (self : TaskQueryService) (role : RoleInfo) (request : TaskQueryReq) :
    Prog RedisSig (TaskQueryRsp × TaskQueryService) := do
  let gid := role.basic_info.player_id
  let (pulled, manager) ← self.task_data_manager_.PullTaskInfoFromDB env gid
  if ¬ pulled then
    return (.failure request.rpcid, ⟨manager⟩)
  let (taskinfo, manager) := manager.GetTaskInfo gid
  return (.ofTaskInfo request.rpcid taskinfo, ⟨manager⟩)

/-! ### Commands -/

/-- A command of the server with its request message. -/
inductive Request where
  | LOGIN (req : LoginReq)
  | REGISTER (req : RegisterReq)
  | QUERY_TASK (req : TaskQueryReq)
  | UPDATE_TASK (req : TaskUpdateReq)
  | ERASE_ROLE (req : EraseRoleReq)
  deriving DecidableEq, Repr

/-- `libsrc/proto/cmd_id.proto`. -/
def Request.cmd_id : Request → UInt32
  | LOGIN _ => 101
  | REGISTER _ => 103
  | QUERY_TASK _ => 105
  | UPDATE_TASK _ => 107
  | ERASE_ROLE _ => 109

/-- A response message. -/
inductive Response where
  | LOGIN (rsp : LoginRsp)
  | REGISTER (rsp : RegisterRsp)
  | QUERY_TASK (rsp : TaskQueryRsp)
  | UPDATE_TASK (rsp : TaskUpdateRsp)
  | ERASE_ROLE (rsp : EraseRoleRsp)
  deriving DecidableEq, Repr

/-- `SyncServiceClassDecorator`: a service is constructed from the shared `args` for
one request, and is gone after it. -/
def SyncServiceClassDecorator {Args T Req Rsp : Type} (construct : Args → T)
    (call : T → RoleInfo → Req → Prog RedisSig (Rsp × T)) (args : Args) (role : RoleInfo)
    (req : Req) : Prog RedisSig Rsp := do
  let sync_service := construct args
  let (derived_rsp, _) ← call sync_service role req
  return derived_rsp

/-- `RunSyncService` on the commands `main` registers, over one shared manager; the
role is returned as the service leaves it. -/
def RunSyncService (task_manager : TaskDataManager) (role : RoleInfo) :
    Request → Prog RedisSig (Response × RoleInfo)
  | .LOGIN req => do
      let rsp ← MinigameFakeLoginService env req
      return (.LOGIN rsp, role)
  | .REGISTER req => do
      let rsp ← MinigameRegisterService env req
      return (.REGISTER rsp, role)
  | .QUERY_TASK req => do
      let rsp ← SyncServiceClassDecorator TaskQueryService.mk (TaskQueryService.call env)
        task_manager role req
      return (.QUERY_TASK rsp, role)
  | .UPDATE_TASK req => do
      let rsp ← SyncServiceClassDecorator TaskUpdateService.mk (TaskUpdateService.call env)
        task_manager role req
      return (.UPDATE_TASK rsp, role)
  | .ERASE_ROLE req => do
      let (rsp, role) ← EraseRoleService env role req
      return (.ERASE_ROLE rsp, role)

end LittleB
