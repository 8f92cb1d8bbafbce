import LittleB.Commands
import LittleB.Formats
import LittleB.Service

/-!
The commands of `minigame_server/minigame_sever_main.cpp`: the message classes of the
server and the services that `main` registers.

* `MessageClass`, `Codecs`: the ten classes, with how they are parsed and serialized;
  `Codecs.wire` are the formats of the wire;
* `Request.message`, `Response.message`: a request and a response as messages of their
  classes;
* `main.registrations`: the calls of `main`, with the classes of the services;
* `main.managers`, `main.registerAll_registrations`: the managers they leave.
-/

namespace LittleB

variable (env : Env)

/-! ### Message classes -/

/-- The classes of the requests and the responses. -/
inductive MessageClass where
  | LoginReq
  | LoginRsp
  | RegisterReq
  | RegisterRsp
  | TaskQueryReq
  | TaskQueryRsp
  | TaskUpdateReq
  | TaskUpdateRsp
  | EraseRoleReq
  | EraseRoleRsp
  deriving DecidableEq

/-- The messages of a class. -/
abbrev MessageClass.Msg : MessageClass → Type
  | LoginReq => LittleB.LoginReq
  | LoginRsp => LittleB.LoginRsp
  | RegisterReq => LittleB.RegisterReq
  | RegisterRsp => LittleB.RegisterRsp
  | TaskQueryReq => LittleB.TaskQueryReq
  | TaskQueryRsp => LittleB.TaskQueryRsp
  | TaskUpdateReq => LittleB.TaskUpdateReq
  | TaskUpdateRsp => LittleB.TaskUpdateRsp
  | EraseRoleReq => LittleB.EraseRoleReq
  | EraseRoleRsp => LittleB.EraseRoleRsp

/-- `ParseFromArray` and `SerializeToArray` of the classes. -/
structure Codecs where
  ParseFromArray : (c : MessageClass) → Bytes → Bool × c.Msg
  SerializeToArray : (c : MessageClass) → c.Msg → Bytes

/-- The classes, with their codecs. -/
abbrev Codecs.classes (codecs : Codecs) : MessageClasses where
  Class := MessageClass
  Msg := MessageClass.Msg
  ParseFromArray := codecs.ParseFromArray
  SerializeToArray := codecs.SerializeToArray

/-- The format of a class on the wire. -/
def MessageClass.format : (c : MessageClass) → Format c.Msg
  | LoginReq => LittleB.LoginReq.format
  | LoginRsp => LittleB.LoginRsp.format
  | RegisterReq => LittleB.RegisterReq.format
  | RegisterRsp => LittleB.RegisterRsp.format
  | TaskQueryReq => LittleB.TaskQueryReq.format
  | TaskQueryRsp => LittleB.TaskQueryRsp.format
  | TaskUpdateReq => LittleB.TaskUpdateReq.format
  | TaskUpdateRsp => LittleB.TaskUpdateRsp.format
  | EraseRoleReq => LittleB.EraseRoleReq.format
  | EraseRoleRsp => LittleB.EraseRoleRsp.format

/-- The codecs of the wire. -/
def Codecs.wire : Codecs where
  ParseFromArray c := c.format.ParseFromArray
  SerializeToArray c := c.format.SerializeToArray

/-- The message of a request. -/
def Request.message (codecs : Codecs) : Request → Message codecs.classes
  | LOGIN req => ⟨.LoginReq, req⟩
  | REGISTER req => ⟨.RegisterReq, req⟩
  | QUERY_TASK req => ⟨.TaskQueryReq, req⟩
  | UPDATE_TASK req => ⟨.TaskUpdateReq, req⟩
  | ERASE_ROLE req => ⟨.EraseRoleReq, req⟩

/-- The message of a response. -/
def Response.message (codecs : Codecs) : Response → Message codecs.classes
  | LOGIN rsp => ⟨.LoginRsp, rsp⟩
  | REGISTER rsp => ⟨.RegisterRsp, rsp⟩
  | QUERY_TASK rsp => ⟨.TaskQueryRsp, rsp⟩
  | UPDATE_TASK rsp => ⟨.TaskUpdateRsp, rsp⟩
  | ERASE_ROLE rsp => ⟨.EraseRoleRsp, rsp⟩

/-! ### The registrations of `main` -/

namespace CmdID

abbrev LOGIN : UInt32 := 101

abbrev REGISTER : UInt32 := 103

abbrev QUERY_TASK : UInt32 := 105

abbrev UPDATE_TASK : UInt32 := 107

abbrev ERASE_ROLE : UInt32 := 109

end CmdID

namespace main

variable (codecs : Codecs)

/-- `MinigameFakeLoginService`, which leaves the role it is given alone. -/
def loginService : SyncService codecs.classes (Prog RedisSig) where
  RequestType := .LoginReq
  ResponseType := .LoginRsp
  call role req := do
    let rsp ← MinigameFakeLoginService env req
    return (rsp, role)

def registerService : SyncService codecs.classes (Prog RedisSig) where
  RequestType := .RegisterReq
  ResponseType := .RegisterRsp
  call role req := do
    let rsp ← MinigameRegisterService env req
    return (rsp, role)

/-- `TaskQueryService`, constructed from the task manager of `main`. -/
def queryService : SyncService codecs.classes (Prog RedisSig) where
  RequestType := .TaskQueryReq
  ResponseType := .TaskQueryRsp
  call role req := do
    let rsp ← SyncServiceClassDecorator TaskQueryService.mk (TaskQueryService.call env) .empty role
      req
    return (rsp, role)

def updateService : SyncService codecs.classes (Prog RedisSig) where
  RequestType := .TaskUpdateReq
  ResponseType := .TaskUpdateRsp
  call role req := do
    let rsp ← SyncServiceClassDecorator TaskUpdateService.mk (TaskUpdateService.call env) .empty
      role req
    return (rsp, role)

def eraseService : SyncService codecs.classes (Prog RedisSig) where
  RequestType := .EraseRoleReq
  ResponseType := .EraseRoleRsp
  call := EraseRoleService env

/-- The services that `main` registers, all of them synchronous. -/
def registrations : List (Registration codecs.classes (Prog RedisSig) Id) :=
  [.sync CmdID.LOGIN (loginService env codecs),
    .sync CmdID.REGISTER (registerService env codecs),
    .sync CmdID.QUERY_TASK (queryService env codecs),
    .sync CmdID.UPDATE_TASK (updateService env codecs),
    .sync CmdID.ERASE_ROLE (eraseService env codecs)]

/-- The managers behind the registrations. -/
def managers : Managers codecs.classes (Prog RedisSig) Id :=
  (registrations env codecs).foldl Managers.add .empty

/-- No `assert` stops the registrations. -/
lemma registerAll_registrations :
    Managers.registerAll false (registrations env codecs) .empty
      = .ok (managers env codecs) := rfl

end main

end LittleB
