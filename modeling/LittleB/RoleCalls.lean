import LittleB.Records

/-!
Logins, registrations and erasures over one store, their commands interleaved.

* `RoleRequest`, `roleCalls`: the requests that write role records, and the calls of
  `RoleInjectHandler::read` for any number of them;
* `LoginPoint`, `ErasePoint`, `RoleCall`: where such a call stands, with
  `RoleCall.describes`;
* `LoginMove`, `RoleMove`, `role_move`: what one command of a call does to a working store,
  and `RoleMove.records` to the role records; `RoleStep`, `role_step_cases`: the same for the
  calls together;
* `LookedUp`, `Traced`, `Traced.step`, `Traced.run`: every call goes about its own request,
  and the log tells the logins that have looked their password up;
* `PullsRole`, `Traced.pullsRole_iff`, `answered_LOGIN_iff`: what can be seen of a call from
  outside.
-/

namespace LittleB

open Bytes

variable (env : Env)

/-! ### The calls -/

/-- A request that writes role records. -/
inductive RoleRequest where
  | LOGIN (req : LoginReq)
  | REGISTER (req : RegisterReq)
  | ERASE_ROLE (req : EraseRoleReq)
  deriving DecidableEq, Repr

def RoleRequest.request : RoleRequest → Request
  | LOGIN req => .LOGIN req
  | REGISTER req => .REGISTER req
  | ERASE_ROLE req => .ERASE_ROLE req

/-- The calls of `RoleInjectHandler::read` over one store, none of which has issued a
command yet.  The roles in memory are those that the call finds; no answer depends on
them. -/
def roleCalls {ι Addr : Type} [DecidableEq Addr] (role_manager_ : ι → RoleinfoManager Addr)
    (addr : ι → Addr) (request : ι → RoleRequest) (r : Redis) :
    Pool RedisSig ι (Prog RedisSig Response) Redis :=
  { proc := fun i => Prod.fst <$>
      RoleInjectHandler.read env (role_manager_ i) (addr i) (request i).request
    state := r
    log := [] }

/-! ### Pulls and pushes as single commands -/

namespace RoleinfoManager

/-- The role in the reply to a pull. -/
def pulledFrom (reply : Reply) : Option RoleInfo :=
  if reply.type ≠ .REDIS_REPLY_STRING then none else decodeRole env reply.str

lemma PullRoleInfoFromDB_bind {α : Type} (username : String)
    (f : Option RoleInfo → Prog RedisSig α) :
    (PullRoleInfoFromDB env username >>= f)
      = RedisCommand (.get (role_key username)) >>= fun reply => f (pulledFrom env reply) := by
  rw [PullRoleInfoFromDB, Prog.bind_bind]
  refine congrArg (RedisCommand _ >>= ·) (funext fun reply => ?_)
  rw [pulledFrom, decodeRole]
  by_cases h : reply.type ≠ .REDIS_REPLY_STRING
  · rw [if_pos h, if_pos h]
    rfl
  · rw [if_neg h, if_neg h]
    cases env.roleInfo.ParseFromArray reply.str with
    | mk parsed role => cases parsed <;> rfl

/-- A push whose result is not looked at. -/
lemma PushRoleToDB_bind {α : Type} (role : RoleInfo) (p : Prog RedisSig α) :
    (PushRoleToDB env role >>= fun _ => p)
      = RedisCommand (.set (role_key role.basic_info.username)
          (env.roleInfo.SerializeToString role)) >>= fun _ => p := by
  rw [PushRoleToDB, Prog.bind_bind]
  refine congrArg (RedisCommand _ >>= ·) (funext fun reply => ?_)
  by_cases h : reply.type ≠ .REDIS_REPLY_STATUS
  · rw [if_pos h]
    rfl
  · rw [if_neg h]
    rfl

/-- What a pull from a working store yields. -/
lemma pulledFrom_get (db : Bytes → Option Bytes) (username : String) :
    pulledFrom env (Redis.perform (.get (role_key username)) db).1
      = storedRole env db username := by
  rw [storedRole]
  cases h : db (role_key username) with
  | none => rw [Redis.perform_get_none h]; rfl
  | some value => rw [Redis.perform_get_some h]; rfl

end RoleinfoManager

/-! ### The control points of a login -/

/-- Where a login stands: before the pull of the handler, before one of the three
commands of the service, or answered. -/
inductive LoginPoint where
  | handlerPull
  | lookup
  | pull
  | push (role : RoleInfo)
  | answered (rsp : LoginRsp)
  deriving DecidableEq

namespace LoginPoint

/-- Where a pull leads. -/
def pulled (request : LoginReq) : Option RoleInfo → LoginPoint
  | none => answered (.answer request.rpcid .UNKOWN_EORROR false)
  | some role_ptr =>
      if ¬ role_ptr.basic_info.is_returning_visitor then push role_ptr.visited
      else answered (.answer request.rpcid .SUCCEED true)

/-- The command issued at a point, and where its reply leads. -/
def next (request : LoginReq) : LoginPoint → View RedisSig LoginRsp LoginPoint
  | handlerPull => .ask (.get (role_key request.account)) fun _ => lookup
  | lookup => .ask (.get (password_key request.account)) fun reply : Reply =>
      if reply.type ≠ .REDIS_REPLY_STRING then
        answered (.answer request.rpcid .LOGIN_NOT_REGISTERED false)
      else if ofString request.password ≠ cstr reply.str then
        answered (.answer request.rpcid .LOGIN_PASSWORD_WRONG false)
      else pull
  | pull => .ask (.get (role_key request.account)) fun reply : Reply =>
      pulled request (RoleinfoManager.pulledFrom env reply)
  | push role => .ask (.set (role_key role.basic_info.username)
      (env.roleInfo.SerializeToString role)) fun _ =>
        answered (.answer request.rpcid .SUCCEED false)
  | answered rsp => .done rsp

/-- What is left of `MinigameFakeLoginService` when the password is right. -/
def afterLookup (request : LoginReq) : Prog RedisSig LoginRsp := do
  match ← RoleinfoManager.PullRoleInfoFromDB env request.account with
  | none => return .answer request.rpcid .UNKOWN_EORROR false
  | some role_ptr =>
      if ¬ role_ptr.basic_info.is_returning_visitor then
        let role_ptr := role_ptr.mutable_basic_info fun b => { b with is_returning_visitor := true }
        let _ ← RoleinfoManager.PushRoleToDB env role_ptr
        return .answer request.rpcid .SUCCEED false
      else
        return .answer request.rpcid .SUCCEED true

/-- What is left of a login at a point. -/
def prog (request : LoginReq) : LoginPoint → Prog RedisSig LoginRsp
  | handlerPull => do
      let _ ← RoleinfoManager.PullRoleInfoFromDB env request.account
      MinigameFakeLoginService env request
  | lookup => MinigameFakeLoginService env request
  | pull => afterLookup env request
  | push role => do
      let _ ← RoleinfoManager.PushRoleToDB env role
      return .answer request.rpcid .SUCCEED false
  | answered rsp => return rsp

/-- The points describe the login. -/
lemma describes (request : LoginReq) : Describes (next env request) (prog env request) := by
  intro p
  cases p with
  | answered rsp => rfl
  | handlerPull => rw [prog, RoleinfoManager.PullRoleInfoFromDB_bind]; rfl
  | push role => rw [prog, RoleinfoManager.PushRoleToDB_bind]; rfl
  | lookup =>
      rw [prog, MinigameFakeLoginService, view_RedisCommand_bind, next, View.map]
      refine congrArg _ (funext fun reply => ?_)
      rw [apply_ite (prog env request), apply_ite (prog env request)]
      rfl
  | pull =>
      rw [prog, afterLookup, RoleinfoManager.PullRoleInfoFromDB_bind, view_RedisCommand_bind, next,
        View.map]
      refine congrArg _ (funext fun reply => ?_)
      cases RoleinfoManager.pulledFrom env reply with
      | none => rfl
      | some role =>
          rw [pulled, apply_ite (prog env request)]
          rfl

end LoginPoint

/-- One command of a login over a working store: from a point to the next one, with the
store behind it. -/
inductive LoginMove (request : LoginReq) (db : Bytes → Option Bytes) :
    LoginPoint → Command → LoginPoint → (Bytes → Option Bytes) → Prop
  | handlerPull : LoginMove request db .handlerPull (.get (role_key request.account)) .lookup db
  | unregistered (h : db (password_key request.account) = none) :
      LoginMove request db .lookup (.get (password_key request.account))
        (.answered (.answer request.rpcid .LOGIN_NOT_REGISTERED false)) db
  | wrong (value : Bytes) (h : db (password_key request.account) = some value) :
      LoginMove request db .lookup (.get (password_key request.account))
        (.answered (.answer request.rpcid .LOGIN_PASSWORD_WRONG false)) db
  | found (value : Bytes) (h : db (password_key request.account) = some value) :
      LoginMove request db .lookup (.get (password_key request.account)) .pull db
  | roleless (h : storedRole env db request.account = none) :
      LoginMove request db .pull (.get (role_key request.account))
        (.answered (.answer request.rpcid .UNKOWN_EORROR false)) db
  | first (role : RoleInfo) (h : storedRole env db request.account = some role)
      (hmark : role.basic_info.is_returning_visitor = false) :
      LoginMove request db .pull (.get (role_key request.account)) (.push role.visited) db
  | returning (role : RoleInfo) (h : storedRole env db request.account = some role)
      (hmark : role.basic_info.is_returning_visitor = true) :
      LoginMove request db .pull (.get (role_key request.account))
        (.answered (.answer request.rpcid .SUCCEED true)) db
  | push (role : RoleInfo) :
      LoginMove request db (.push role)
        (.set (role_key role.basic_info.username) (env.roleInfo.SerializeToString role))
        (.answered (.answer request.rpcid .SUCCEED false))
        (Function.update db (role_key role.basic_info.username)
          (some (env.roleInfo.SerializeToString role)))

/-- Every command of a login is one of these moves. -/
lemma login_move {request : LoginReq} {p : LoginPoint} {c : Command} {k : Reply → LoginPoint}
    (hp : LoginPoint.next env request p = .ask c k) (db : Bytes → Option Bytes) :
    LoginMove env request db p c (k (Redis.perform c db).1) (Redis.perform c db).2 := by
  cases p with
  | answered rsp => cases hp
  | handlerPull =>
      cases hp
      rw [Redis.perform_get_snd]
      exact .handlerPull
  | push role =>
      cases hp
      exact .push role
  | lookup =>
      cases hp
      cases hdb : db (password_key request.account) with
      | none =>
          rw [Redis.perform_get_none hdb]
          exact .unregistered hdb
      | some value =>
          rw [Redis.perform_get_some hdb]
          change LoginMove env request db _ _ (if ofString request.password ≠ cstr value then _
            else _) db
          split_ifs
          · exact .wrong value hdb
          · exact .found value hdb
  | pull =>
      cases hp
      change LoginMove env request db _ _ (LoginPoint.pulled request (RoleinfoManager.pulledFrom
        env (Redis.perform (.get (role_key request.account)) db).1)) _
      rw [Redis.perform_get_snd, RoleinfoManager.pulledFrom_get]
      cases hrole : storedRole env db request.account with
      | none => exact .roleless hrole
      | some role =>
          rw [LoginPoint.pulled]
          cases hmark : role.basic_info.is_returning_visitor with
          | false => exact .first role hrole hmark
          | true => exact .returning role hrole hmark

/-! ### The control points of an erasure -/

/-- Where an erasure stands: before its only command, or answered. -/
inductive ErasePoint where
  | start
  | answered (rsp : EraseRoleRsp)
  deriving DecidableEq

namespace ErasePoint

/-- The command issued at a point, and where its reply leads: whatever the role, a cleared
one is pushed. -/
def next (request : EraseRoleReq) : ErasePoint → View RedisSig EraseRoleRsp ErasePoint
  | start => .ask (.set (role_key "") (env.roleInfo.SerializeToString {})) fun reply : Reply =>
      if reply.type ≠ .REDIS_REPLY_STATUS then answered (.answer request.rpcid .UNKOWN_EORROR)
      else answered (.answer request.rpcid .SUCCEED)
  | answered rsp => .done rsp

/-- What is left of an erasure at a point. -/
def prog (request : EraseRoleReq) : ErasePoint → Prog RedisSig EraseRoleRsp
  | start => Prod.fst <$> EraseRoleService env {} request
  | answered rsp => return rsp

end ErasePoint

/-- The answer of an erasure does not depend on the role it erases. -/
lemma EraseRoleService_answer (role : RoleInfo) (request : EraseRoleReq) :
    Prod.fst <$> EraseRoleService env role request
      = RedisCommand (.set (role_key "") (env.roleInfo.SerializeToString {})) >>= fun reply =>
          if reply.type ≠ .REDIS_REPLY_STATUS then
            Prog.ret (.answer request.rpcid .UNKOWN_EORROR)
          else Prog.ret (.answer request.rpcid .SUCCEED) := by
  rw [EraseRoleService, RoleInfo.clear_progress_clear_basic_info, RoleinfoManager.PushRoleToDB,
    Prog.bind_bind, Prog.map_bind]
  refine congrArg (RedisCommand _ >>= ·) (funext fun reply => ?_)
  by_cases h : reply.type ≠ .REDIS_REPLY_STATUS
  · rw [if_pos h, if_pos h]
    rfl
  · rw [if_neg h, if_neg h]
    rfl

/-- The points describe the erasure. -/
lemma ErasePoint.describes (request : EraseRoleReq) :
    Describes (next env request) (prog env request) := by
  intro p
  cases p with
  | answered rsp => rfl
  | start =>
      rw [prog, EraseRoleService_answer, view_RedisCommand_bind, next, View.map]
      refine congrArg _ (funext fun reply => ?_)
      rw [apply_ite (prog env request)]
      rfl

/-! ### The control points of a call -/

/-- Where a call stands in the service of its request. -/
inductive RoleCall where
  | login (req : LoginReq) (p : LoginPoint)
  | register (req : RegisterReq) (p : RegisterPoint)
  | erase (req : EraseRoleReq) (p : ErasePoint)

namespace RoleCall

/-- A call that has not issued a command yet. -/
def start : RoleRequest → RoleCall
  | .LOGIN req => login req .handlerPull
  | .REGISTER req => register req .start
  | .ERASE_ROLE req => erase req .start

/-- A login starts with the pull of the handler. -/
lemma point_of_start {request : RoleRequest} {req : LoginReq} {p : LoginPoint}
    (h : start request = login req p) : p = .handlerPull := by
  cases request with
  | LOGIN req => cases h; rfl
  | REGISTER req => cases h
  | ERASE_ROLE req => cases h

/-- The request of a call. -/
def request : RoleCall → RoleRequest
  | login req _ => .LOGIN req
  | register req _ => .REGISTER req
  | erase req _ => .ERASE_ROLE req

/-- The command issued at a point, and where its reply leads. -/
def next : RoleCall → View RedisSig Response RoleCall
  | login req p => ((LoginPoint.next env req p).answer Response.LOGIN).map (login req)
  | register req p => ((RegisterPoint.next env req p).answer Response.REGISTER).map (register req)
  | erase req p => ((ErasePoint.next env req p).answer Response.ERASE_ROLE).map (erase req)

/-- What is left of a call at a point. -/
def prog : RoleCall → Prog RedisSig Response
  | login req p => Response.LOGIN <$> LoginPoint.prog env req p
  | register req p => Response.REGISTER <$> RegisterPoint.prog env req p
  | erase req p => Response.ERASE_ROLE <$> ErasePoint.prog env req p

/-- The points describe the calls. -/
lemma describes : Describes (next env) (prog env) := by
  intro call
  cases call with
  | login req p =>
      exact (LoginPoint.describes env req).answer Response.LOGIN (login req) (fun _ => rfl) p
  | register req p =>
      exact (RegisterPoint.describes env req).answer Response.REGISTER (register req)
        (fun _ => rfl) p
  | erase req p =>
      exact (ErasePoint.describes env req).answer Response.ERASE_ROLE (erase req) (fun _ => rfl) p

/-- A call is at its first point before it has issued a command. -/
lemma prog_start {Addr : Type} [DecidableEq Addr] (role_manager_ : RoleinfoManager Addr)
    (addr : Addr) (request : RoleRequest) :
    Prod.fst <$> RoleInjectHandler.read env role_manager_ addr request.request
      = prog env (start request) := by
  cases request with
  | LOGIN req =>
      rw [RoleRequest.request, RoleInjectHandler.read, Prog.map_bind]
      rw [start, prog, LoginPoint.prog, Prog.map_bind]
      refine congrArg (RoleinfoManager.PullRoleInfoFromDB env req.account >>= ·)
        (funext fun role_ptr => ?_)
      exact Prog.map_bind _ _ _
  | REGISTER req =>
      rw [RoleRequest.request, RoleInjectHandler.read, Prog.map_bind]
      rfl
  | ERASE_ROLE req =>
      have hanswer (role : RoleInfo) :
          Prod.fst <$> (RunSyncService env .empty role (.ERASE_ROLE req) >>= fun out =>
              Prog.ret (out.1, role_manager_.SetRole addr out.2))
            = Response.ERASE_ROLE <$> (Prod.fst <$> EraseRoleService env role req) := by
        rw [RunSyncService, Prog.bind_bind, Prog.map_bind]
        exact (Prog.map_bind Response.ERASE_ROLE (EraseRoleService env role req)
          fun out => Prog.ret out.1).symm
      rw [RoleRequest.request, RoleInjectHandler.read_handedOn env rfl, hanswer,
        EraseRoleService_answer, start, prog, ErasePoint.prog, EraseRoleService_answer]

end RoleCall

/-- One command of a call over a working store: from a point to the next one, with the
store behind it. -/
inductive RoleMove (db : Bytes → Option Bytes) :
    RoleCall → Command → RoleCall → (Bytes → Option Bytes) → Prop
  | login {req : LoginReq} {p p' : LoginPoint} {c : Command} {db' : Bytes → Option Bytes}
      (h : LoginMove env req db p c p' db') : RoleMove db (.login req p) c (.login req p') db'
  | register {req : RegisterReq} {p p' : RegisterPoint} {c : Command} {reply : Reply} {r' : Redis}
      (h : RegisterMove env req (.working db) p c reply p' r') :
      RoleMove db (.register req p) c (.register req p') r'.db
  | erase (req : EraseRoleReq) :
      RoleMove db (.erase req .start) (.set (role_key "") (env.roleInfo.SerializeToString {}))
        (.erase req (.answered (.answer req.rpcid .SUCCEED)))
        (Function.update db (role_key "") (some (env.roleInfo.SerializeToString {})))

/-- Every command of a call is one of these moves. -/
lemma role_move {p : RoleCall} {c : Command} {k : Reply → RoleCall}
    (hp : RoleCall.next env p = .ask c k) (db : Bytes → Option Bytes) :
    RoleMove env db p c (k (Redis.perform c db).1) (Redis.perform c db).2 := by
  cases p with
  | login req p =>
      rw [RoleCall.next] at hp
      cases hq : LoginPoint.next env req p with
      | done rsp => rw [hq] at hp; cases hp
      | ask c' k' =>
          rw [hq] at hp
          cases hp
          exact .login (login_move env hq db)
  | register req p =>
      rw [RoleCall.next] at hp
      cases hq : RegisterPoint.next env req p with
      | done rsp => rw [hq] at hp; cases hp
      | ask c' k' =>
          rw [hq] at hp
          cases hp
          have hmove := register_move env hq (.working db)
          rw [Redis.exec_working] at hmove
          exact .register hmove
  | erase req p =>
      cases p with
      | answered rsp => cases hp
      | start =>
          cases hp
          exact .erase req

/-- The role that a call at a point is about to store, under the name inside it. -/
inductive RoleCall.Stores : RoleCall → RoleInfo → Prop
  | push (req : LoginReq) (role : RoleInfo) : Stores (.login req (.push role)) role
  | storeRole (req : RegisterReq) (gid : Int32) :
      Stores (.register req (.storeRole gid)) (initialRole req.account gid)
  | erase (req : EraseRoleReq) : Stores (.erase req .start) {}

/-- What a command does to the role records: nothing, or it stores one. -/
lemma RoleMove.records {db db' : Bytes → Option Bytes} {p p' : RoleCall} {c : Command}
    (h : RoleMove env db p c p' db') :
    ((∀ u value, c ≠ .set (role_key u) value) ∧
      ∀ u, storedRole env db' u = storedRole env db u) ∨
    ∃ role, p.Stores role ∧
      c = .set (role_key role.basic_info.username) (env.roleInfo.SerializeToString role) ∧
      ∀ u, storedRole env db' u
        = if c_str u = c_str role.basic_info.username then some role else storedRole env db u := by
  cases h with
  | @login req p p' c db' h =>
      cases h with
      | push role =>
          exact .inr ⟨role, .push req role, rfl, fun u => storedRole_update_role db role u _⟩
      | _ => exact .inl ⟨by simp, fun u => rfl⟩
  | @register req p p' c reply r' h =>
      cases h with
      | refused | new | uncounted => exact .inl ⟨by simp, fun u => rfl⟩
      | unstored reply h0 | roleless gid reply h0 => exact absurd rfl h0
      | password =>
          refine .inl ⟨fun u value heq => ?_, fun u => ?_⟩
          · exact password_key_ne_role_key _ _ (Command.set.inj heq).1
          · exact storedRole_update_of_ne db _ (password_key_ne_role_key _ u).symm
      | counted =>
          exact .inl ⟨by simp, fun u => storedRole_update_of_ne db _ (role_key_ne_gid_key u)⟩
      | role gid =>
          exact .inr ⟨initialRole req.account gid, .storeRole req gid, rfl,
            fun u => storedRole_update_role db (initialRole req.account gid) u req.account⟩
  | erase req => exact .inr ⟨{}, .erase req, rfl, fun u => storedRole_update_role db {} u ""⟩

/-! ### Steps of the calls -/

section Steps

variable {ι : Type}

/-- The calls at their first points. -/
def rolePoints (request : ι → RoleRequest) (r : Redis) : Pool RedisSig ι RoleCall Redis :=
  { proc := fun i => .start (request i), state := r, log := [] }

lemma roleCalls_eq_map {Addr : Type} [DecidableEq Addr]
    (role_manager_ : ι → RoleinfoManager Addr) (addr : ι → Addr) (request : ι → RoleRequest)
    (r : Redis) :
    roleCalls env role_manager_ addr request r
      = (rolePoints request r).map fun _ => RoleCall.prog env := by
  rw [roleCalls, Pool.map]
  exact congrArg (fun proc => Pool.mk proc r []) (funext fun i => RoleCall.prog_start env _ _ _)

/-- The call `i` executes one command. -/
structure RoleStep (i : ι) (P : Pool RedisSig ι RoleCall Redis) (c : Command)
    (P' : Pool RedisSig ι RoleCall Redis) : Prop where
  next : (RoleCall.next env (P.proc i)).next = some c
  move : RoleMove env P.state.db (P.proc i) c (P'.proc i) P'.state.db
  other : ∀ j, j ≠ i → P'.proc j = P.proc j
  working : P'.state.Working
  log : P'.log = (i, ⟨c, (Redis.perform c P.state.db).1⟩) :: P.log

/-- What a step over a working store can do: nothing, or one move of one call. -/
lemma role_step_cases [DecidableEq ι] {P : Pool RedisSig ι RoleCall Redis}
    (hw : P.state.Working) (i : ι) :
    ((RoleCall.next env (P.proc i)).next = none ∧
      P.step (fun _ => RoleCall.next env) Redis.exec i = P) ∨
    ∃ c, RoleStep env i P c (P.step (fun _ => RoleCall.next env) Redis.exec i) := by
  rcases P.step_cases (fun _ => RoleCall.next env) Redis.exec i with
    hdone | ⟨c, k, hv, hself, hother, hstate, hlog⟩
  · exact .inl hdone
  refine .inr ⟨c, ?_⟩
  generalize P.step (fun _ => RoleCall.next env) Redis.exec i = P' at hself hother hstate hlog ⊢
  rw [hw.eq_working, Redis.exec_working] at hself hstate hlog
  have hmove := role_move env hv P.state.db
  rw [← hself] at hmove
  have hdb : P'.state.db = (Redis.perform c P.state.db).2 := by rw [hstate]; rfl
  rw [← hdb] at hmove
  refine ⟨by rw [hv]; rfl, hmove, hother, ?_, hlog⟩
  rw [hstate]
  exact fun _ => rfl

/-! ### What the log tells of a login -/

/-- The call `i` has looked the password of the account up. -/
def LookedUp (log : List (ι × (_ : Command) × Reply)) (i : ι) (account : String) : Prop :=
  ∃ reply, (i, ⟨.get (password_key account), reply⟩) ∈ log

/-- The points behind the lookup of the password. -/
def LoginPoint.BehindLookup : LoginPoint → Prop
  | handlerPull | lookup => False
  | pull | push _ | answered _ => True

lemma lookedUp_cons {i j : ι} {c : Command} {reply : Reply}
    {log : List (ι × (_ : Command) × Reply)} {account : String} :
    LookedUp ((i, ⟨c, reply⟩) :: log) j account
      ↔ (j = i ∧ c = .get (password_key account)) ∨ LookedUp log j account := by
  constructor
  · rintro ⟨reply', hmem⟩
    rcases List.mem_cons.mp hmem with heq | hold
    · cases heq
      exact .inl ⟨rfl, rfl⟩
    · exact .inr ⟨reply', hold⟩
  · rintro (⟨rfl, rfl⟩ | ⟨reply', hold⟩)
    · exact ⟨reply, List.mem_cons_self⟩
    · exact ⟨reply', List.mem_cons_of_mem _ hold⟩

variable {env}

/-- A login gets behind the lookup by looking up. -/
lemma LoginMove.behindLookup {request : LoginReq} {db db' : Bytes → Option Bytes}
    {p p' : LoginPoint} {c : Command} (h : LoginMove env request db p c p' db') :
    p'.BehindLookup ↔ c = .get (password_key request.account) ∨ p.BehindLookup := by
  cases h with
  | handlerPull =>
      refine iff_of_false id ?_
      rintro (heq | hbehind)
      · exact password_key_ne_role_key _ _ (Command.get.inj heq).symm
      · exact hbehind
  | unregistered | wrong | found => exact iff_of_true trivial (.inl rfl)
  | roleless | first | returning | push => exact iff_of_true trivial (.inr trivial)

/-- Every call goes about its own request, and the log tells the logins that have looked
their password up. -/
structure Traced (request : ι → RoleRequest) (P : Pool RedisSig ι RoleCall Redis) : Prop where
  working : P.state.Working
  asked : ∀ i, (P.proc i).request = request i
  lookedUp : ∀ i req p, P.proc i = .login req p →
    (LookedUp P.log i req.account ↔ p.BehindLookup)

variable {request : ι → RoleRequest} {P P' : Pool RedisSig ι RoleCall Redis} {i : ι} {c : Command}

lemma traced_start {r : Redis} (hw : r.Working) : Traced request (rolePoints request r) := by
  refine ⟨hw, fun i => ?_, fun i req p hp => ?_⟩
  · change (RoleCall.start (request i)).request = request i
    cases request i <;> rfl
  · obtain rfl := RoleCall.point_of_start hp
    exact iff_of_false (fun ⟨reply, hmem⟩ => List.not_mem_nil hmem) id

/-- A call does not change its request. -/
lemma RoleMove.request_eq {db db' : Bytes → Option Bytes} {p p' : RoleCall}
    (h : RoleMove env db p c p' db') : p'.request = p.request := by
  cases h with
  | login h => rfl
  | register h => rfl
  | erase req => rfl

/-- **The step**: every command keeps the calls traced. -/
lemma Traced.step (hT : Traced request P) (h : RoleStep env i P c P') : Traced request P' := by
  constructor
  case working => exact h.working
  case asked =>
    intro j
    by_cases hj : j = i
    · rw [hj, h.move.request_eq, hT.asked i]
    · rw [h.other j hj, hT.asked j]
  case lookedUp =>
    intro j req p' hp'
    rw [h.log, lookedUp_cons]
    by_cases hj : j = i
    · subst hj
      have hmove := h.move
      rw [hp'] at hmove
      generalize hp : P.proc j = call at hmove
      cases hmove with
      | login hl => rw [hl.behindLookup, hT.lookedUp j req _ hp, and_iff_right rfl]
    · rw [h.other j hj] at hp'
      rw [hT.lookedUp j req p' hp']
      exact or_iff_right fun heq => hj heq.1

/-- Only a pull leads to a push: of the record that is there, with the mark. -/
lemma RoleMove.to_push {db db' : Bytes → Option Bytes} {p : RoleCall} {req : LoginReq}
    {role : RoleInfo} (h : RoleMove env db p c (.login req (.push role)) db') :
    p = .login req .pull ∧ db' = db ∧ ∃ stored, storedRole env db req.account = some stored ∧
      stored.basic_info.is_returning_visitor = false ∧ role = stored.visited := by
  cases h with
  | login h =>
      cases h with
      | first stored hstored hmark => exact ⟨rfl, rfl, stored, hstored, hmark, rfl⟩

/-! ### The calls from outside -/

/-- The call `i` is a login that has looked the password up and is about to pull the
role. -/
def PullsRole (request : ι → RoleRequest) (i : ι)
    (P : Pool RedisSig ι (Prog RedisSig Response) Redis) (req : LoginReq) : Prop :=
  request i = .LOGIN req ∧ LookedUp P.log i req.account ∧
    nextCommand P i = some (.get (role_key req.account))

lemma describes_roleCalls : ∀ _ : ι, Describes (RoleCall.next env) (RoleCall.prog env) :=
  fun _ => RoleCall.describes env

lemma RoleStep.nextCommand_eq (h : RoleStep env i P c P') :
    nextCommand (P.map fun _ => RoleCall.prog env) i = some c := by
  rw [nextCommand_map describes_roleCalls, h.next]

/-- From outside a login that is about to pull the role is told apart. -/
lemma Traced.pullsRole_iff (hT : Traced request P) {req : LoginReq} :
    PullsRole request i (P.map fun _ => RoleCall.prog env) req ↔ P.proc i = .login req .pull := by
  have hasked := hT.asked i
  rw [PullsRole, nextCommand_map describes_roleCalls]
  change (_ ∧ LookedUp P.log i req.account ∧ _) ↔ _
  constructor
  · rintro ⟨hr, hlog, hnext⟩
    rw [hr] at hasked
    cases hp : P.proc i with
    | login req' p =>
        rw [hp] at hasked hnext
        cases hasked
        have hbehind := (hT.lookedUp i req p hp).mp hlog
        cases p with
        | handlerPull | lookup => exact absurd hbehind id
        | pull => rfl
        | push role => cases hnext
        | answered rsp => cases hnext
    | register req' p => rw [hp] at hasked; cases hasked
    | erase req' p => rw [hp] at hasked; cases hasked
  · intro hp
    rw [hp] at hasked ⊢
    exact ⟨hasked.symm, (hT.lookedUp i req .pull hp).mpr trivial, rfl⟩

/-- A login has been answered where its point says so. -/
lemma answered_LOGIN_iff {rsp : LoginRsp} :
    (P.map fun _ => RoleCall.prog env).proc i = .ret (.LOGIN rsp)
      ↔ ∃ req, P.proc i = .login req (.answered rsp) := by
  change RoleCall.prog env (P.proc i) = _ ↔ _
  rw [(RoleCall.describes env).eq_ret_iff]
  constructor
  · intro hdone
    cases hp : P.proc i with
    | login req p =>
        rw [hp] at hdone
        cases p with
        | answered rsp' =>
            cases hdone
            exact ⟨req, rfl⟩
        | handlerPull | lookup | pull | push role => cases hdone
    | register req p =>
        rw [hp] at hdone
        cases p <;> cases hdone
    | erase req p =>
        rw [hp] at hdone
        cases p <;> cases hdone
  · rintro ⟨req, hp⟩
    rw [hp]
    rfl

variable (env) in
/-- The run lemma. -/
lemma Traced.run [DecidableEq ι] (hT : Traced request P) (sched : List ι) :
    Traced request (P.run (fun _ => RoleCall.next env) Redis.exec sched) := by
  induction sched generalizing P with
  | nil => exact hT
  | cons i sched ih =>
      have hnext : Traced request (P.step (fun _ => RoleCall.next env) Redis.exec i) := by
        rcases role_step_cases env hT.working i with ⟨-, hstep⟩ | ⟨c, hstep⟩
        · rw [hstep]
          exact hT
        · exact hT.step hstep
      exact ih hnext

end Steps

end LittleB
