import LittleB.Foundations.Run
import LittleB.Service

/-!
`libsrc/handlers/role_inject_handler.cpp` and the service behind it.

* `RoleInjectHandler.read`: one request of a connection, answered; `handedOn` tells
  the requests it hands to the next handler, `handedRole` the role it hands on with
  them; `transportInactive`, `readEOF`: the end of a connection;
* `Server`, `Server.step`: the roles in memory and the store, with the requests
  answered so far; one more request from some address;
* `step_LOGIN`, `step_REGISTER`, `step_handedOn`, `roles_step_of_ne`: what a step does
  to the roles of the addresses.

The services the requests reach are constructed over the task manager of `main`,
which they copy, so it stays empty.
-/

namespace LittleB

variable (env : Env) {Addr : Type} [DecidableEq Addr]

/-- `RoleInjectHandler::read`, with the service it leads to: a login pulls the role
and binds it to the address before the login service is asked. -/
def RoleInjectHandler.read (role_manager_ : RoleinfoManager Addr) (addr : Addr) :
    Request → Prog RedisSig (Response × RoleinfoManager Addr)
  | .LOGIN req => do
      let role_ptr ← RoleinfoManager.PullRoleInfoFromDB env req.account
      let role_manager_ := match role_ptr with
        | some role => (role_manager_.AddRole addr ⟨req.account, role⟩).2
        | none => role_manager_
      let rsp ← MinigameFakeLoginService env req
      return (.LOGIN rsp, role_manager_)
  | .REGISTER req => do
      let rsp ← MinigameRegisterService env req
      return (.REGISTER rsp, role_manager_)
  | request => do
      let role := (role_manager_.GetRole addr).getD {}
      let (rsp, role) ← RunSyncService env .empty role request
      return (rsp, role_manager_.SetRole addr role)

/-- The requests that `read` does not answer itself. -/
def Request.handedOn : Request → Bool
  | LOGIN _ | REGISTER _ => false
  | QUERY_TASK _ | UPDATE_TASK _ | ERASE_ROLE _ => true

namespace RoleInjectHandler

/-- The role a request is handed on with: that of the address, an empty one where
there is none. -/
def handedRole (role_manager_ : RoleinfoManager Addr) (addr : Addr) : RoleInfo :=
  (role_manager_.GetRole addr).getD {}

/-- `transportInactive`: the event is passed on. -/
def transportInactive (role_manager_ : RoleinfoManager Addr) (_addr : Addr) :
    RoleinfoManager Addr := role_manager_

/-- `readEOF` is that of the base class, which passes the event on. -/
def readEOF (role_manager_ : RoleinfoManager Addr) (_addr : Addr) : RoleinfoManager Addr :=
  role_manager_

omit [DecidableEq Addr] in
lemma handedRole_unbound {role_manager_ : RoleinfoManager Addr} {addr : Addr}
    (h : role_manager_.roles_ addr = none) : handedRole role_manager_ addr = {} := by
  rw [handedRole, RoleinfoManager.GetRole, h]
  rfl

/-- A request that is handed on goes to its service, with the role of the address. -/
lemma read_handedOn {request : Request} (h : request.handedOn)
    (role_manager_ : RoleinfoManager Addr) (addr : Addr) :
    read env role_manager_ addr request
      = RunSyncService env .empty (handedRole role_manager_ addr) request >>= fun out =>
          Prog.ret (out.1, role_manager_.SetRole addr out.2) := by
  cases request with
  | LOGIN req => exact absurd h Bool.false_ne_true
  | REGISTER req => exact absurd h Bool.false_ne_true
  | QUERY_TASK req => rfl
  | UPDATE_TASK req => rfl
  | ERASE_ROLE req => rfl

end RoleInjectHandler

/-- The server between two requests, with the log of the requests answered so far,
the last one first. -/
structure Server (Addr : Type) where
  role_manager_ : RoleinfoManager Addr
  redis : Redis
  log : List (Addr × Request × Response)

/-- The player id an address plays with. -/
def playerId (S : Server Addr) (addr : Addr) : Int32 :=
  (RoleInjectHandler.handedRole S.role_manager_ addr).basic_info.player_id

namespace Server

/-- The server as it starts, over a store. -/
def start (redis : Redis) : Server Addr := ⟨.empty, redis, []⟩

/-- One request from one address. -/
def step (S : Server Addr) (input : Addr × Request) : Server Addr :=
  let out := (RoleInjectHandler.read env S.role_manager_ input.1 input.2).run Redis.exec S.redis
  ⟨out.1.2, out.2, (input.1, input.2, out.1.1) :: S.log⟩

/-- The requests of any addresses, one after the other. -/
def run (inputs : List (Addr × Request)) (S : Server Addr) : Server Addr :=
  inputs.foldl (step env) S

variable (S : Server Addr)

/-- The store as the login service finds it, behind the pull of the handler. -/
def behindPull : Redis := ⟨S.redis.db, S.redis.later⟩

/-- The answer of the login service. -/
def loginAnswer (req : LoginReq) : LoginRsp :=
  ((MinigameFakeLoginService env req).run Redis.exec S.behindPull).1

/-- The roles in memory behind the pull of the handler. -/
def boundByPull (addr : Addr) (req : LoginReq) : RoleinfoManager Addr :=
  match pulledRole env S.redis req.account with
  | some role => (S.role_manager_.AddRole addr ⟨req.account, role⟩).2
  | none => S.role_manager_

/-- What a login does: the role is bound as soon as it is pulled, whatever the
answer. -/
lemma step_LOGIN (addr : Addr) (req : LoginReq) :
    (S.step env (addr, .LOGIN req)).role_manager_ = S.boundByPull env addr req ∧
      (S.step env (addr, .LOGIN req)).log
        = (addr, .LOGIN req, .LOGIN (S.loginAnswer env req)) :: S.log := by
  simp only [step, RoleInjectHandler.read, Prog.run_bind, run_PullRoleInfoFromDB_pulled]
  exact ⟨rfl, rfl⟩

/-- The store behind a login is the one the login service leaves. -/
lemma redis_step_LOGIN (addr : Addr) (req : LoginReq) :
    (S.step env (addr, .LOGIN req)).redis
      = ((MinigameFakeLoginService env req).run Redis.exec S.behindPull).2 := by
  simp only [step, RoleInjectHandler.read, Prog.run_bind, run_PullRoleInfoFromDB_pulled]
  rfl

/-- A login from an address without a role binds the role it pulls. -/
lemma roles_step_LOGIN_unbound {addr : Addr} {req : LoginReq} {role : RoleInfo}
    (hfree : S.role_manager_.roles_ addr = none)
    (hrole : pulledRole env S.redis req.account = some role) :
    (S.step env (addr, .LOGIN req)).role_manager_.roles_ addr = some ⟨req.account, role⟩ := by
  rw [(S.step_LOGIN env addr req).1, boundByPull, hrole]
  change (S.role_manager_.AddRole addr _).2.roles_ addr = _
  rw [RoleinfoManager.AddRole_unbound hfree, Function.update_self]

/-- A login from an address with a role leaves the roles as they are. -/
lemma role_manager_step_LOGIN_bound {addr : Addr} {req : LoginReq}
    (hbound : S.role_manager_.roles_ addr ≠ none) :
    (S.step env (addr, .LOGIN req)).role_manager_ = S.role_manager_ := by
  rw [(S.step_LOGIN env addr req).1, boundByPull]
  cases pulledRole env S.redis req.account with
  | none => rfl
  | some role => exact RoleinfoManager.AddRole_bound hbound _

/-- The log grows by the request that is answered. -/
lemma log_step (input : Addr × Request) :
    ∃ rsp, (S.step env input).log = (input.1, input.2, rsp) :: S.log := ⟨_, rfl⟩

/-- The answer of the registration service. -/
def registerAnswer (req : RegisterReq) : RegisterRsp :=
  ((MinigameRegisterService env req).run Redis.exec S.redis).1

/-- What a registration does: the roles in memory stay. -/
lemma step_REGISTER (addr : Addr) (req : RegisterReq) :
    S.step env (addr, .REGISTER req) =
      ⟨S.role_manager_, ((MinigameRegisterService env req).run Redis.exec S.redis).2,
        (addr, .REGISTER req, .REGISTER (S.registerAnswer env req)) :: S.log⟩ := by
  rw [step, RoleInjectHandler.read]
  simp only [Prog.run_bind]
  rfl

/-- What a request that is handed on does: its service is run with the role of the
address, and leaves that role changed. -/
lemma step_handedOn {request : Request} (h : request.handedOn) (addr : Addr) :
    S.step env (addr, request) =
      let out := (RunSyncService env .empty
        (RoleInjectHandler.handedRole S.role_manager_ addr) request).run Redis.exec S.redis
      ⟨S.role_manager_.SetRole addr out.1.2, out.2, (addr, request, out.1.1) :: S.log⟩ := by
  rw [step]
  simp only [RoleInjectHandler.read_handedOn env h, Prog.run_bind, Prog.run_ret]

/-- Requests of other addresses leave the role of an address as it is. -/
lemma roles_step_of_ne {a addr : Addr} (h : a ≠ addr) (request : Request) :
    (S.step env (addr, request)).role_manager_.roles_ a = S.role_manager_.roles_ a := by
  cases request with
  | LOGIN req =>
      rw [(S.step_LOGIN env addr req).1, boundByPull]
      cases pulledRole env S.redis req.account with
      | none => rfl
      | some role => exact S.role_manager_.AddRole_of_ne h _
  | REGISTER req => rw [step_REGISTER]
  | QUERY_TASK req | UPDATE_TASK req | ERASE_ROLE req =>
      rw [step_handedOn env S rfl]
      exact S.role_manager_.SetRole_of_ne h _

/-- An address gets a role by a login only. -/
lemma roles_step_unbound {addr : Addr} (hfree : S.role_manager_.roles_ addr = none)
    {request : Request} (h : ∀ req, request ≠ .LOGIN req) :
    (S.step env (addr, request)).role_manager_.roles_ addr = none := by
  cases request with
  | LOGIN req => exact absurd rfl (h req)
  | REGISTER req => rw [step_REGISTER, hfree]
  | QUERY_TASK req | UPDATE_TASK req | ERASE_ROLE req =>
      rw [step_handedOn env S rfl]
      exact RoleinfoManager.SetRole_unbound hfree _

variable {S} in
/-- A working store goes on working. -/
lemma working_step (h : S.redis.Working) (input : Addr × Request) :
    (S.step env input).redis.Working := h.run _

variable {S} in
lemma working_run (h : S.redis.Working) (inputs : List (Addr × Request)) :
    (S.run env inputs).redis.Working := by
  induction inputs generalizing S with
  | nil => exact h
  | cons input inputs ih => exact ih (working_step env h input)

/-- Other requests leave the accounts of the addresses as they are. -/
lemma boundTo_step {addr : Addr} {request : Request} (h : ∀ req, request ≠ .LOGIN req) :
    (S.step env (addr, request)).role_manager_.boundTo = S.role_manager_.boundTo := by
  cases request with
  | LOGIN req => exact absurd rfl (h req)
  | REGISTER req => rw [step_REGISTER]
  | QUERY_TASK req | UPDATE_TASK req | ERASE_ROLE req =>
      rw [step_handedOn env S rfl]
      exact S.role_manager_.boundTo_SetRole addr _

end Server

end LittleB
