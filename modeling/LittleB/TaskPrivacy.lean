import LittleB.Answers
import LittleB.LoggedIn
import LittleB.PlayerIds

/-!
The task record of an account against the updates of the others.

* `Redis.AgreeOff`: stores that differ under one key at most; `MinigameFakeLoginService_asks`
  and the like: the commands of a login and an erasure are about other keys than those of
  the task records;
* `SessionRequest`, `SessionCall`, `Server.play`: the requests of a session, each with what
  becomes of its commands;
* `AgreeOff.play`, `AgreeOff.playAll`: a task record that is different does not spread;
* `KeepsIds`, `ownIds_play`: when the sessions of an account keep to the ids of the account;
* `tasks_private`: then no query depends on an update of another account.
-/

namespace LittleB

open Bytes

variable {env : Env} {Addr : Type} [DecidableEq Addr]

/-! ### Stores that differ under one key -/

/-- The key a command is about. -/
def Command.key : Command → Bytes
  | get key => key
  | set key _ => key
  | incr key => key

namespace Redis

/-- The stores are the same but for one key. -/
structure AgreeOff (key : Bytes) (r r' : Redis) : Prop where
  db : ∀ k, k ≠ key → r.db k = r'.db k
  outcome : r.outcome = r'.outcome

variable {key : Bytes} {r r' : Redis}

/-- Writing the same value keeps the stores so. -/
lemma AgreeOff.update (h : AgreeOff key r r') (k : Bytes) (value : Option Bytes) :
    ∀ k', k' ≠ key → Function.update r.db k value k' = Function.update r'.db k value k' := by
  intro k' hk'
  by_cases hkk : k' = k
  · rw [hkk, Function.update_self, Function.update_self]
  · rw [Function.update_of_ne hkk, Function.update_of_ne hkk, h.db k' hk']

/-- A command about another key cannot tell the stores apart. -/
lemma AgreeOff.perform (h : AgreeOff key r r') {c : Command} (hc : c.key ≠ key) :
    (perform c r.db).1 = (perform c r'.db).1 ∧
      ∀ k, k ≠ key → (perform c r.db).2 k = (perform c r'.db).2 k := by
  cases c with
  | get k =>
      have hk : r.db k = r'.db k := h.db k hc
      refine ⟨?_, fun k' hk' => ?_⟩
      · simp only [Redis.perform, hk]
        cases r'.db k with
        | none => rfl
        | some value => rfl
      · rw [perform_get_snd, perform_get_snd, h.db k' hk']
  | set k value => exact ⟨rfl, h.update k _⟩
  | incr k =>
      have hk : incremented r.db k = incremented r'.db k := by
        rw [incremented, incremented, h.db k hc]
      cases hn : incremented r'.db k with
      | none =>
          rw [perform_incr_none hn, perform_incr_none (hk.trans hn)]
          exact ⟨rfl, h.db⟩
      | some n =>
          rw [perform_incr_some hn, perform_incr_some (hk.trans hn)]
          exact ⟨rfl, h.update k _⟩

lemma AgreeOff.exec (h : AgreeOff key r r') {c : Command} (hc : c.key ≠ key) :
    (exec c r).1 = (exec c r').1 ∧ AgreeOff key (exec c r).2 (exec c r').2 := by
  have hlater : r.later = r'.later := funext fun n => congrFun h.outcome (n + 1)
  cases h0 : r.outcome 0 with
  | ok =>
      obtain ⟨hreply, hdb⟩ := h.perform hc
      rw [exec_ok h0, exec_ok (h.outcome ▸ h0)]
      exact ⟨hreply, hdb, hlater⟩
  | error str =>
      rw [exec_error h0, exec_error (h.outcome ▸ h0)]
      exact ⟨rfl, h.db, hlater⟩

/-- A program whose commands are about other keys cannot tell them apart either. -/
lemma AgreeOff.run {α : Type} {p : Prog RedisSig α} (hp : p.Asks fun c : Command => c.key ≠ key)
    (h : AgreeOff key r r') :
    (p.run Redis.exec r).1 = (p.run Redis.exec r').1 ∧
      AgreeOff key (p.run Redis.exec r).2 (p.run Redis.exec r').2 :=
  hp.run_related (fun _ hc _ _ hst => hst.exec hc) h

end Redis

/-! ### The commands of the requests -/

/-- A request of a player who is registered. -/
inductive SessionRequest where
  | LOGIN (req : LoginReq)
  | UPDATE_TASK (req : TaskUpdateReq)
  | QUERY_TASK (req : TaskQueryReq)
  | ERASE_ROLE (req : EraseRoleReq)

def SessionRequest.request : SessionRequest → Request
  | LOGIN req => .LOGIN req
  | UPDATE_TASK req => .UPDATE_TASK req
  | QUERY_TASK req => .QUERY_TASK req
  | ERASE_ROLE req => .ERASE_ROLE req

/-- The requests about the task record of the player. -/
def SessionRequest.isTask : SessionRequest → Bool
  | LOGIN _ | ERASE_ROLE _ => false
  | UPDATE_TASK _ | QUERY_TASK _ => true

section Asks

variable (env) (g : Int32)

lemma PullRoleInfoFromDB_asks (username : String) :
    (RoleinfoManager.PullRoleInfoFromDB env username).Asks
      fun c : Command => c.key ≠ taskinfo_key g := by
  refine ⟨(taskinfo_key_ne_role_key g username).symm, fun reply => ?_⟩
  refine Prog.Asks.ite trivial ?_
  cases env.roleInfo.ParseFromArray reply.str with
  | mk parsed role =>
      cases parsed with
      | false => trivial
      | true => trivial

lemma PushRoleToDB_asks (role : RoleInfo) :
    (RoleinfoManager.PushRoleToDB env role).Asks fun c : Command => c.key ≠ taskinfo_key g :=
  ⟨(taskinfo_key_ne_role_key g _).symm, fun _ => Prog.Asks.ite trivial trivial⟩

lemma MinigameFakeLoginService_asks (req : LoginReq) :
    (MinigameFakeLoginService env req).Asks fun c : Command => c.key ≠ taskinfo_key g := by
  refine ⟨(taskinfo_key_ne_password_key g _).symm, fun reply => ?_⟩
  refine Prog.Asks.ite trivial (Prog.Asks.ite trivial ?_)
  refine (PullRoleInfoFromDB_asks env g req.account).bind fun role_ptr => ?_
  cases role_ptr with
  | none => trivial
  | some role =>
      refine Prog.Asks.ite ?_ trivial
      exact (PushRoleToDB_asks env g _).bind fun _ => trivial

lemma EraseRoleService_asks (role : RoleInfo) (req : EraseRoleReq) :
    (EraseRoleService env role req).Asks fun c : Command => c.key ≠ taskinfo_key g :=
  (PushRoleToDB_asks env g _).bind fun _ => Prog.Asks.ite trivial trivial

variable {g} {gid : Int32} (hgid : gid ≠ g)

include hgid

lemma PullTaskInfoFromDB_asks (self : TaskDataManager) :
    (self.PullTaskInfoFromDB env gid).Asks fun c : Command => c.key ≠ taskinfo_key g :=
  ⟨taskinfo_key_inj.not.mpr hgid, fun _ =>
    Prog.Asks.ite trivial (Prog.Asks.ite (q := Prog.ret _) trivial trivial)⟩

lemma PushTaskInfoToDB_asks (self : TaskDataManager) :
    (self.PushTaskInfoToDB env gid).Asks fun c : Command => c.key ≠ taskinfo_key g := by
  rw [TaskDataManager.PushTaskInfoToDB]
  cases self.task_infos_ gid with
  | none => trivial
  | some info =>
      exact ⟨taskinfo_key_inj.not.mpr hgid, fun _ => Prog.Asks.ite trivial trivial⟩

omit hgid

lemma TaskUpdateService.call_asks (self : TaskUpdateService) {role : RoleInfo}
    (hrole : role.basic_info.player_id ≠ g) (req : TaskUpdateReq) :
    (self.call env role req).Asks fun c : Command => c.key ≠ taskinfo_key g := by
  rw [TaskUpdateService.call]
  refine Prog.Asks.ite ?_ ?_
  · refine Prog.Asks.bind (p := Prog.ret _) trivial fun manager => ?_
    exact (PushTaskInfoToDB_asks env hrole _).bind fun _ => trivial
  · refine (PullTaskInfoFromDB_asks env hrole _).bind fun pulled => ?_
    refine Prog.Asks.bind (p := Prog.ret _) trivial fun manager => ?_
    exact (PushTaskInfoToDB_asks env hrole _).bind fun _ => trivial

lemma TaskQueryService.call_asks (self : TaskQueryService) {role : RoleInfo}
    (hrole : role.basic_info.player_id ≠ g) (req : TaskQueryReq) :
    (self.call env role req).Asks fun c : Command => c.key ≠ taskinfo_key g := by
  rw [TaskQueryService.call]
  exact (PullTaskInfoFromDB_asks env hrole _).bind fun _ => Prog.Asks.ite trivial trivial

/-- The commands of a request, unless it is about the task record of this player. -/
lemma read_asks (role_manager_ : RoleinfoManager Addr) (addr : Addr) (request : SessionRequest)
    (hrole : request.isTask →
      (RoleInjectHandler.handedRole role_manager_ addr).basic_info.player_id ≠ g) :
    (RoleInjectHandler.read env role_manager_ addr request.request).Asks
      fun c : Command => c.key ≠ taskinfo_key g := by
  cases request with
  | LOGIN req =>
      refine (PullRoleInfoFromDB_asks env g req.account).bind fun role_ptr => ?_
      exact (MinigameFakeLoginService_asks env g req).bind fun _ => trivial
  | UPDATE_TASK req =>
      refine (((TaskUpdateService.call_asks env _ (hrole rfl) req).bind fun _ => ?_).bind
        fun _ => ?_).bind fun _ => ?_
      all_goals trivial
  | QUERY_TASK req =>
      refine (((TaskQueryService.call_asks env _ (hrole rfl) req).bind fun _ => ?_).bind
        fun _ => ?_).bind fun _ => ?_
      all_goals trivial
  | ERASE_ROLE req =>
      refine ((EraseRoleService_asks env g _ req).bind fun _ => ?_).bind fun _ => ?_
      all_goals trivial

end Asks

/-! ### Calls -/

/-- A request from an address, and what becomes of the commands issued for it. -/
structure SessionCall (Addr : Type) where
  addr : Addr
  request : SessionRequest
  outcome : ℕ → Outcome

namespace Server

variable (env)

/-- The server in front of a call, the store treating its commands as the call says. -/
def before (S : Server Addr) (call : SessionCall Addr) : Server Addr :=
  { S with redis := ⟨S.redis.db, call.outcome⟩ }

/-- The server answers one call. -/
def play (S : Server Addr) (call : SessionCall Addr) : Server Addr :=
  (S.before call).step env (call.addr, call.request.request)

/-- The response to it. -/
def played (S : Server Addr) (call : SessionCall Addr) : Response :=
  (S.before call).answer env (call.addr, call.request.request)

/-- The calls, one after the other. -/
def playAll (calls : List (SessionCall Addr)) (S : Server Addr) : Server Addr :=
  calls.foldl (play env) S

end Server

/-! ### A task record that is different -/

/-- The servers are the same but for the task record of a player and the logs. -/
structure AgreeOff (g : Int32) (S T : Server Addr) : Prop where
  roles : S.role_manager_ = T.role_manager_
  db : ∀ key, key ≠ taskinfo_key g → S.redis.db key = T.redis.db key

section AgreeOff

variable {g : Int32} {S T : Server Addr}

omit [DecidableEq Addr] in
lemma AgreeOff.before (h : AgreeOff g S T) (call : SessionCall Addr) :
    Redis.AgreeOff (taskinfo_key g) (S.before call).redis (T.before call).redis := ⟨h.db, rfl⟩

variable (env) in
/-- A task request leaves the roles alone, and every key but the task record. -/
lemma play_task {call : SessionCall Addr} (h : call.request.isTask) :
    (S.play env call).role_manager_ = S.role_manager_ ∧
      ∀ key, key ≠ taskinfo_key (playerId S call.addr) →
        (S.play env call).redis.db key = S.redis.db key := by
  obtain ⟨addr, request, outcome⟩ := call
  rw [Server.play]
  cases request with
  | LOGIN req => cases h
  | ERASE_ROLE req => cases h
  | UPDATE_TASK req =>
      change (Server.step env _ (addr, .UPDATE_TASK req)).role_manager_ = _ ∧ ∀ key, _ →
        (Server.step env _ (addr, .UPDATE_TASK req)).redis.db key = _
      simp only [Server.step_handedOn env _ (show (Request.UPDATE_TASK req).handedOn from rfl),
        run_UPDATE_TASK_reply]
      refine ⟨SetRole_handedRole _ _, fun key hkey => ?_⟩
      rw [Redis.exec_set_db]
      split_ifs
      · exact Function.update_of_ne hkey _ _
      · rfl
  | QUERY_TASK req =>
      change (Server.step env _ (addr, .QUERY_TASK req)).role_manager_ = _ ∧ ∀ key, _ →
        (Server.step env _ (addr, .QUERY_TASK req)).redis.db key = _
      simp only [Server.step_handedOn env _ (show (Request.QUERY_TASK req).handedOn from rfl),
        run_QUERY_TASK_reply]
      exact ⟨SetRole_handedRole _ _, fun _ _ => rfl⟩

/-- A request that is not about the record that is different is answered the same. -/
lemma AgreeOff.play_other (h : AgreeOff g S T) {call : SessionCall Addr}
    (hid : call.request.isTask → playerId S call.addr ≠ g) :
    AgreeOff g (S.play env call) (T.play env call) ∧ S.played env call = T.played env call := by
  obtain ⟨rolesS, redisS, logS⟩ := S
  obtain ⟨rolesT, redisT, logT⟩ := T
  obtain rfl : rolesS = rolesT := h.roles
  obtain ⟨hout, hredis⟩ := (h.before call).run (read_asks env rolesS call.addr call.request hid)
  exact ⟨⟨congrArg Prod.snd hout, hredis.db⟩, congrArg Prod.fst hout⟩

/-- **The step**: a task record that is different does not spread. -/
lemma AgreeOff.play (h : AgreeOff g S T) (call : SessionCall Addr) :
    AgreeOff g (S.play env call) (T.play env call) := by
  by_cases hid : call.request.isTask → playerId S call.addr ≠ g
  · exact (h.play_other hid).1
  · -- a task request of the player reads and writes that record only
    obtain ⟨htask, hg⟩ := Classical.not_imp.mp hid
    rw [not_not] at hg
    have hg' : playerId T call.addr = g := by rw [← hg, playerId, playerId, h.roles]
    obtain ⟨hrolesS, hdbS⟩ := play_task env (S := S) htask
    obtain ⟨hrolesT, hdbT⟩ := play_task env (S := T) htask
    rw [hg] at hdbS
    rw [hg'] at hdbT
    refine ⟨by rw [hrolesS, hrolesT, h.roles], fun key hkey => ?_⟩
    rw [hdbS key hkey, hdbT key hkey, h.db key hkey]

end AgreeOff

/-! ### The ids of an account -/

section Ids

variable (env)

/-- Distinct accounts have distinct player ids, none of them zero. -/
structure DistinctIds (db : Bytes → Option Bytes) : Prop where
  nonzero : ∀ u i, storedId env db u = some i → i ≠ 0
  distinct : ∀ u v i, storedId env db u = some i → storedId env db v = some i → c_str u = c_str v

/-- The ids the sessions of an account may have: the one of the account at the start, and
for the account `z` the one of an empty role. -/
def OwnId (z : Bytes) (db : Bytes → Option Bytes) (u : String) (i : Int32) : Prop :=
  storedId env db u = some i ∨ (i = 0 ∧ c_str u = z)

/-- When a login keeps the sessions to the ids of their accounts. -/
structure LoginKeepsIds (z : Bytes) (db : Bytes → Option Bytes) (S : Server Addr) (addr : Addr)
    (req : LoginReq) : Prop where
  /-- A record that is pushed has the name of the account. -/
  named : Accepts env S.behindPull req → ∀ role,
    storedRole env S.redis.db req.account = some role →
    role.basic_info.is_returning_visitor = false →
    c_str role.basic_info.username = c_str req.account
  /-- A role that the address has already is one of the account. -/
  bound : Accepts env S.behindPull req → ∀ role, S.role_manager_.GetRole addr = some role →
    OwnId env z db req.account role.basic_info.player_id
  /-- An address without a role gets one, which is not empty. -/
  fresh : Accepts env S.behindPull req → S.role_manager_.GetRole addr = none →
    c_str req.account ≠ z →
    ∃ role, pulledRole env S.redis req.account = some role ∧ role.basic_info.player_id ≠ 0
  /-- Nor does it get the one of another account than it has logged in to. -/
  binds : S.role_manager_.GetRole addr = none → pulledRole env S.redis req.account ≠ none →
    ∀ u, LoggedIn S addr u → c_str u = c_str req.account

/-- When a request keeps the sessions to the ids of their accounts: an erasure is from the
account `z`, or from an address that has not logged in. -/
def KeepsIds (z : Bytes) (db : Bytes → Option Bytes) (call : SessionCall Addr)
    (S : Server Addr) : Prop :=
  match call.request with
  | .LOGIN req => LoginKeepsIds env z db (S.before call) call.addr req
  | .ERASE_ROLE _ => ∀ u, LoggedIn S call.addr u → c_str u = z
  | _ => True

/-- The sessions and the records are at the ids of their accounts. -/
structure OwnIds (z : Bytes) (db : Bytes → Option Bytes) (S : Server Addr) : Prop where
  session : ∀ addr u, LoggedIn S addr u → OwnId env z db u (playerId S addr)
  stored : ∀ u role, storedRole env S.redis.db u = some role →
    storedId env db u = some role.basic_info.player_id ∨
      (c_str u = [] ∧ role.basic_info.player_id = 0)

variable {env} {z : Bytes} {db : Bytes → Option Bytes} {S : Server Addr}

/-- Accounts with an id in common are the same C string. -/
lemma OwnId.name_eq (hids : DistinctIds env db) {u v : String} {i : Int32}
    (hu : OwnId env z db u i) (hv : OwnId env z db v i) : c_str u = c_str v := by
  rcases hu with hu | ⟨hzero, hu⟩
  · rcases hv with hv | ⟨hzero, -⟩
    · exact hids.distinct u v i hu hv
    · exact absurd hzero (hids.nonzero u i hu)
  · rcases hv with hv | ⟨-, hv⟩
    · exact absurd hzero (hids.nonzero v i hv)
    · exact hu.trans hv.symm

lemma OwnId.congr {u v : String} {i : Int32} (h : c_str u = c_str v)
    (hu : OwnId env z db u i) : OwnId env z db v i := by
  rw [OwnId, ← h, ← storedId_congr h]
  exact hu

omit [DecidableEq Addr] in
/-- An address without a role plays with the id zero. -/
lemma playerId_eq_zero {addr : Addr} (h : S.role_manager_.GetRole addr = none) :
    playerId S addr = 0 := by
  rw [playerId, RoleInjectHandler.handedRole, h]
  rfl

omit [DecidableEq Addr] in
lemma playerId_eq {addr : Addr} {role : RoleInfo} (h : S.role_manager_.GetRole addr = some role) :
    playerId S addr = role.basic_info.player_id := by
  rw [playerId, RoleInjectHandler.handedRole, h]
  rfl

omit [DecidableEq Addr] in
/-- A role that is pulled for a session is one of its account. -/
lemma OwnIds.pulled (h : OwnIds env z db S) {account : String} {role : RoleInfo}
    (hpulled : pulledRole env S.redis account = some role)
    (hzero : c_str account ≠ z → role.basic_info.player_id ≠ 0) :
    OwnId env z db account role.basic_info.player_id := by
  rcases h.stored account role ((pulledRole_eq_some env).mp hpulled).2 with hid | ⟨-, hid⟩
  · exact .inl hid
  · exact .inr ⟨hid, not_not.mp fun hz => hzero hz hid⟩

/-- A login that meets its condition keeps the session of its address to its account. -/
lemma ownId_step_LOGIN (hids : DistinctIds env db) (h : OwnIds env z db S) {addr : Addr}
    {req : LoginReq} (hkeeps : LoginKeepsIds env z db S addr req) {u : String}
    (hu : LoggedIn (S.step env (addr, .LOGIN req)) addr u) :
    OwnId env z db u (playerId (S.step env (addr, .LOGIN req)) addr) := by
  have hafter : (S.step env (addr, .LOGIN req)).role_manager_.GetRole addr
      = (S.role_manager_.GetRole addr).or (pulledRole env S.redis req.account) :=
    getRole_step_LOGIN addr req
  have hcases := (loggedIn_step_LOGIN addr addr req u).mp hu
  cases hrole : S.role_manager_.GetRole addr with
  | some role =>
      -- the role stays
      rw [hrole] at hafter
      rw [playerId_eq hafter]
      rcases hcases with hold | ⟨-, rfl, haccepts⟩
      · rw [← playerId_eq hrole]
        exact h.session addr u hold
      · exact hkeeps.bound haccepts role hrole
  | none =>
      rw [hrole, Option.none_or] at hafter
      -- an address that has logged in without a role belongs to `z`
      have hzero (hold : LoggedIn S addr u) : c_str u = z := by
        have hown := h.session addr u hold
        rw [playerId_eq_zero hrole] at hown
        rcases hown with hid | ⟨-, hz⟩
        · exact absurd rfl (hids.nonzero u 0 hid)
        · exact hz
      cases hpulled : pulledRole env S.redis req.account with
      | none =>
          rw [playerId_eq_zero (hafter.trans hpulled)]
          rcases hcases with hold | ⟨-, rfl, haccepts⟩
          · exact .inr ⟨rfl, hzero hold⟩
          · refine .inr ⟨rfl, not_not.mp fun hz => ?_⟩
            obtain ⟨role, hsome, -⟩ := hkeeps.fresh haccepts hrole hz
            cases hpulled.symm.trans hsome
      | some role =>
          rw [playerId_eq (hafter.trans hpulled)]
          rcases hcases with hold | ⟨-, rfl, haccepts⟩
          · have hname := hkeeps.binds hrole (by rw [hpulled]; exact Option.some_ne_none _) u hold
            exact (h.pulled hpulled fun hz => absurd (hname ▸ hzero hold) hz).congr hname.symm
          · refine h.pulled hpulled fun hz => ?_
            obtain ⟨role', hsome, hid⟩ := hkeeps.fresh haccepts hrole hz
            obtain rfl := Option.some.inj (hpulled.symm.trans hsome)
            exact hid

/-- A login that meets its condition keeps the ids. -/
lemma ownIds_step_LOGIN (hids : DistinctIds env db) (h : OwnIds env z db S) {addr : Addr}
    {req : LoginReq} (hkeeps : LoginKeepsIds env z db S addr req) :
    OwnIds env z db (S.step env (addr, .LOGIN req)) := by
  constructor
  · intro a u hu
    by_cases ha : a = addr
    · subst ha
      exact ownId_step_LOGIN hids h hkeeps hu
    · have hold := ((loggedIn_step_LOGIN addr a req u).mp hu).resolve_right fun hnew => ha hnew.1
      rw [playerId, RoleInjectHandler.handedRole, getRole_step_of_ne ha]
      exact h.session a u hold
  · intro u role hrole
    by_cases haccepts : Accepts env S.behindPull req
    · obtain ⟨stored, hstored⟩ := Option.ne_none_iff_exists'.mp haccepts.role
      have hstored' : storedRole env S.redis.db req.account = some stored := hstored
      rw [db_step_LOGIN_of_accepts haccepts hstored', storedRole_markedStore_of_name] at hrole
      split_ifs at hrole with hpush
      · have hname : c_str u = c_str req.account :=
          hpush.2.trans (hkeeps.named haccepts stored hstored' hpush.1.1)
        obtain rfl := Option.some.inj hrole
        rw [storedId_congr hname, hname]
        exact h.stored req.account stored hstored'
      · exact h.stored u role hrole
    · rw [db_step_LOGIN_of_not_accepts haccepts] at hrole
      exact h.stored u role hrole

variable (env) in
/-- The role behind an erasure has the id zero. -/
lemma playerId_step_ERASE_ROLE (addr : Addr) (req : EraseRoleReq) :
    playerId (S.step env (addr, .ERASE_ROLE req)) addr = 0 := by
  rw [playerId, RoleInjectHandler.handedRole, (step_ERASE_ROLE addr req).1, getRole_SetRole,
    if_pos rfl]
  cases S.role_manager_.GetRole addr with
  | none => rfl
  | some role => rfl

/-- An erasure of the account `z` does. -/
lemma ownIds_step_ERASE_ROLE (h : OwnIds env z db S) {addr : Addr} (req : EraseRoleReq)
    (hz : ∀ u, LoggedIn S addr u → c_str u = z) :
    OwnIds env z db (S.step env (addr, .ERASE_ROLE req)) := by
  obtain ⟨hroles, hstored⟩ := @step_ERASE_ROLE env Addr _ S addr req
  constructor
  · intro a u hu
    rw [loggedIn_step (fun req' heq => by cases heq)] at hu
    by_cases ha : a = addr
    · subst ha
      exact .inr ⟨playerId_step_ERASE_ROLE env a req, hz u hu⟩
    · rw [playerId, RoleInjectHandler.handedRole, getRole_step_of_ne ha]
      exact h.session a u hu
  · intro u role hrole
    rw [hstored] at hrole
    split_ifs at hrole with hname
    · obtain rfl := Option.some.inj hrole
      exact .inr ⟨hname.2, rfl⟩
    · exact h.stored u role hrole

/-- So does a task request. -/
lemma ownIds_play_task (h : OwnIds env z db S) {call : SessionCall Addr}
    (htask : call.request.isTask) : OwnIds env z db (S.play env call) := by
  obtain ⟨hroles, hdb⟩ := play_task env (S := S) htask
  have hlogin (req : LoginReq) : call.request.request ≠ .LOGIN req := by
    intro heq
    cases hreq : call.request with
    | LOGIN req' => rw [hreq] at htask; cases htask
    | UPDATE_TASK _ | QUERY_TASK _ | ERASE_ROLE _ => rw [hreq] at heq; cases heq
  constructor
  · intro a u hu
    have hold : LoggedIn S a u := (loggedIn_step (S := S.before call) hlogin call.addr a u).mp hu
    rw [playerId, hroles]
    exact h.session a u hold
  · intro u role hrole
    rw [storedRole, hdb _ (taskinfo_key_ne_role_key _ u).symm] at hrole
    exact h.stored u role hrole

/-- **The step**: a request that meets its condition keeps the ids. -/
lemma ownIds_play (hids : DistinctIds env db) {call : SessionCall Addr}
    (hkeeps : KeepsIds env z db call S) (h : OwnIds env z db S) :
    OwnIds env z db (S.play env call) := by
  have hbefore : OwnIds env z db (S.before call) := ⟨h.session, h.stored⟩
  obtain ⟨addr, request, outcome⟩ := call
  cases request with
  | LOGIN req => exact ownIds_step_LOGIN hids hbefore hkeeps
  | ERASE_ROLE req => exact ownIds_step_ERASE_ROLE hbefore req hkeeps
  | UPDATE_TASK req => exact ownIds_play_task h rfl
  | QUERY_TASK req => exact ownIds_play_task h rfl

omit [DecidableEq Addr] in
lemma ownIds_start (redis : Redis) (hdb : redis.db = db) :
    OwnIds env z db (.start redis : Server Addr) := by
  refine ⟨fun addr u hu => absurd hu (not_loggedIn_start redis addr u), fun u role hrole => .inl ?_⟩
  have hrole' : storedRole env db u = some role := hdb ▸ hrole
  rw [storedId, hrole']
  rfl

end Ids

/-! ### Privacy -/

/-- The run without one update answers a query the same: the update is of an address that
is logged in as `v`, the query of one that is logged in as another account `u`. -/
def TasksPrivate (env : Env) (db : Bytes → Option Bytes) (calls : List (SessionCall Addr)) :
    Prop :=
  ∀ earlier later rest : List (SessionCall Addr), ∀ update query : SessionCall Addr,
    calls = earlier ++ update :: (later ++ query :: rest) →
    (∃ req, update.request = .UPDATE_TASK req) → (∃ req, query.request = .QUERY_TASK req) →
    ∀ u v, c_str u ≠ c_str v →
      LoggedIn (Server.playAll env earlier (.start (.working db))) update.addr v →
      LoggedIn (Server.playAll env (earlier ++ update :: later) (.start (.working db)))
        query.addr u →
      (Server.playAll env (earlier ++ update :: later) (.start (.working db))).played env query
        = (Server.playAll env (earlier ++ later) (.start (.working db))).played env query

variable {g : Int32} {z : Bytes} {db : Bytes → Option Bytes}

/-- **The run** of two servers that are the same but for one task record. -/
lemma AgreeOff.playAll {S T : Server Addr} (h : AgreeOff g S T) (calls : List (SessionCall Addr)) :
    AgreeOff g (S.playAll env calls) (T.playAll env calls) := by
  induction calls generalizing S T with
  | nil => exact h
  | cons call calls ih => exact ih (h.play call)

/-- **Private task records**: over a store in which distinct accounts have distinct player
ids, none of them zero, no query depends on an update of another account, in every run in
which each request keeps the sessions to the ids of their accounts. -/
theorem tasks_private (hids : DistinctIds env db) (z : Bytes) (calls : List (SessionCall Addr))
    (hkeeps : Run.Guarded (Server.play env) (KeepsIds env z db) calls (.start (.working db))) :
    TasksPrivate env db calls := by
  rintro earlier later rest update query rfl ⟨upd, hupdate⟩ ⟨qry, hquery⟩ u v hne hv hu
  rw [← List.cons_append, ← List.append_assoc, Run.guarded_append] at hkeeps
  have hown (calls : List (SessionCall Addr))
      (hguarded : Run.Guarded (Server.play env) (KeepsIds env z db) calls (.start (.working db))) :
      OwnIds env z db (Server.playAll env calls (.start (.working db))) :=
    hguarded.invariant (fun call S hcall h => ownIds_play hids hcall h) (ownIds_start _ rfl)
  have hearlier := hown earlier (Run.guarded_append.mp hkeeps.1).1
  have hlater := hown _ hkeeps.1
  -- the update is of a player that the query is not of
  have hid : playerId (Server.playAll env (earlier ++ update :: later) (.start (.working db)))
      query.addr ≠ playerId (Server.playAll env earlier (.start (.working db))) update.addr := by
    intro heq
    have hown' := hlater.session query.addr u hu
    rw [heq] at hown'
    exact hne (hown'.name_eq hids (hearlier.session update.addr v hv))
  have hfull : Server.playAll env (earlier ++ update :: later) (.start (.working db))
      = ((Server.playAll env earlier (.start (.working db))).play env update).playAll env later :=
    List.foldl_append
  have hwithout : Server.playAll env (earlier ++ later) (.start (.working db))
      = (Server.playAll env earlier (.start (.working db))).playAll env later :=
    List.foldl_append
  obtain ⟨hroles, hdb⟩ := play_task env (S := Server.playAll env earlier (.start (.working db)))
    (show update.request.isTask by rw [hupdate]; rfl)
  have hdiffer : AgreeOff (playerId (Server.playAll env earlier (.start (.working db))) update.addr)
      ((Server.playAll env earlier (.start (.working db))).play env update)
      (Server.playAll env earlier (.start (.working db))) := ⟨hroles, hdb⟩
  rw [hfull] at hid
  rw [hfull, hwithout]
  exact ((hdiffer.playAll later).play_other fun _ => hid).2

/-! ### Two accounts -/

/-- A call over a store that executes every command. -/
def SessionCall.working (addr : Addr) (request : SessionRequest) : SessionCall Addr :=
  ⟨addr, request, fun _ => .ok⟩

section Returning

variable {S : Server Addr} {req : LoginReq} {role : RoleInfo}
  (hrole : storedRole env S.redis.db req.account = some role)
  (hvisited : role.basic_info.is_returning_visitor = true)

include hrole hvisited

/-- A login to an account that has been visited before leaves the store alone. -/
lemma play_LOGIN_returning (haccepts : Accepts env (.working S.redis.db) req) (addr : Addr) :
    (S.play env (.working addr (.LOGIN req))).redis.db = S.redis.db ∧
      LoggedIn (S.play env (.working addr (.LOGIN req))) addr req.account ∧
      (S.play env (.working addr (.LOGIN req))).role_manager_.GetRole addr
        = (S.role_manager_.GetRole addr).or (some role) := by
  have hpulled : pulledRole env (S.before (.working addr (.LOGIN req))).redis req.account
      = some role := (pulledRole_eq_some env).mpr ⟨rfl, hrole⟩
  refine ⟨?_, (loggedIn_step_LOGIN addr addr req _).mpr (.inr ⟨rfl, rfl, haccepts⟩), ?_⟩
  · have hdb := db_step_LOGIN_of_accepts (S := S.before (.working addr (.LOGIN req))) haccepts
      hrole addr
    refine hdb.trans (if_neg fun h => ?_)
    rw [hvisited] at h
    cases h.1
  · rw [← hpulled]
    exact getRole_step_LOGIN addr req

omit [DecidableEq Addr] in
/-- From a new address it keeps to the ids, unless its own is zero. -/
lemma keepsIds_LOGIN_returning (hid : role.basic_info.player_id ≠ 0) {addr : Addr}
    (hfree : S.role_manager_.GetRole addr = none) (hnobody : ∀ u, ¬ LoggedIn S addr u) :
    KeepsIds env z db (.working addr (.LOGIN req)) S := by
  have hpulled : pulledRole env (S.before (.working addr (.LOGIN req))).redis req.account
      = some role := (pulledRole_eq_some env).mpr ⟨rfl, hrole⟩
  refine ⟨fun _ role' hrole' hfirst => ?_, fun _ role' hbound => ?_,
    fun _ _ _ => ⟨role, hpulled, hid⟩, fun _ _ u hu => absurd hu (hnobody u)⟩
  · obtain rfl := Option.some.inj (hrole.symm.trans hrole')
    cases hvisited.symm.trans hfirst
  · cases hfree.symm.trans hbound

end Returning

/-- What a query over a working store is told. -/
lemma played_QUERY_TASK (S : Server Addr) (addr : Addr) (req : TaskQueryReq) :
    S.played env (.working addr (.QUERY_TASK req))
      = .QUERY_TASK (match storedTaskInfo env S.redis.db (playerId S addr) with
          | none => .failure req.rpcid
          | some info => .ofTaskInfo req.rpcid info) := by
  change ((RoleInjectHandler.read env S.role_manager_ addr (.QUERY_TASK req)).run Redis.exec
    (.working S.redis.db)).1.1 = _
  simp only [RoleInjectHandler.read_handedOn env (show (Request.QUERY_TASK req).handedOn from rfl),
    Prog.run_bind, Prog.run_ret, run_QUERY_TASK]
  rfl

/-- An update is seen by a query with the same player id, where there was no record. -/
lemma update_seen {S : Server Addr} {a b : Addr} (hid : playerId S b = playerId S a)
    (hnone : S.redis.db (taskinfo_key (playerId S a)) = none) (upd : TaskUpdateReq)
    (qry : TaskQueryReq) :
    (S.play env (.working a (.UPDATE_TASK upd))).played env (.working b (.QUERY_TASK qry))
      ≠ S.played env (.working b (.QUERY_TASK qry)) := by
  have hroles : (S.play env (.working a (.UPDATE_TASK upd))).role_manager_ = S.role_manager_ :=
    (play_task env rfl).1
  have hid' : playerId (S.play env (.working a (.UPDATE_TASK upd))) b = playerId S a := by
    rw [playerId, hroles]
    exact hid
  have hdb : (S.play env (.working a (.UPDATE_TASK upd))).redis.db (taskinfo_key (playerId S a))
      = some (env.dbTaskInfo.SerializeToString
          (updatedInfo env S.redis.db (playerId S a) upd)) := by
    change (Server.step env (S.before _) (a, .UPDATE_TASK upd)).redis.db _ = _
    simp only [Server.step_handedOn env _ (show (Request.UPDATE_TASK upd).handedOn from rfl)]
    change ((RunSyncService env .empty _ (.UPDATE_TASK upd)).run Redis.exec
      (.working S.redis.db)).2.db _ = _
    rw [run_UPDATE_TASK]
    exact Function.update_self _ _ _
  rw [played_QUERY_TASK, played_QUERY_TASK, hid', hid, storedTaskInfo, storedTaskInfo, hnone, hdb]
  intro heq
  have herror : ErrorCode.SUCCEED.number = ErrorCode.UNKOWN_EORROR.number :=
    congrArg TaskQueryRsp.error (Response.QUERY_TASK.inj heq)
  exact absurd herror (by decide)

lemma storedId_twoAccounts (u : String) : storedId Env.wire twoAccounts u
    = if c_str u = c_str "b" then some 2 else if c_str u = c_str "a" then some 1 else none := by
  obtain ⟨hroleA, hroleB⟩ := storedRole_twoAccounts
  split_ifs with hb ha
  · rw [storedId_congr hb, storedId, hroleB]
    rfl
  · rw [storedId_congr ha, storedId, hroleA]
    rfl
  · rw [storedId, twoAccounts, (withReturning_of_ne hb _ _ _).2, (withReturning_of_ne ha _ _ _).2]
    rfl

lemma distinctIds_twoAccounts : DistinctIds Env.wire twoAccounts := by
  constructor
  · intro u i hu
    rw [storedId_twoAccounts] at hu
    split_ifs at hu with hb ha
    · rw [← Option.some.inj hu]
      decide
    · rw [← Option.some.inj hu]
      decide
  · intro u v i hu hv
    rw [storedId_twoAccounts] at hu hv
    split_ifs at hu hv with hub hvb hva hua hvb' hva'
    · exact hub.trans hvb.symm
    · exact absurd (Option.some.inj (hu.trans hv.symm)) (by decide)
    · exact absurd (Option.some.inj (hu.trans hv.symm)) (by decide)
    · exact hua.trans hva'.symm

/-- The address 0 has logged in to `a`, -/
def oneLogin : Server ℕ :=
  (Server.start (.working twoAccounts)).play Env.wire
    (.working 0 (.LOGIN { account := "a", password := "p" }))

/-- and the address 1 to `b`. -/
def twoLogins : Server ℕ :=
  oneLogin.play Env.wire (.working 1 (.LOGIN { account := "b", password := "q" }))

/-- The first of the two logins. -/
lemma oneLogin_spec : oneLogin.redis.db = twoAccounts ∧ LoggedIn oneLogin 0 "a" ∧
    (∀ u, ¬ LoggedIn oneLogin 1 u) ∧ oneLogin.role_manager_.GetRole 1 = none := by
  obtain ⟨hdb, hlogged, -⟩ := play_LOGIN_returning (S := .start (.working twoAccounts))
    storedRole_twoAccounts.1 rfl (accepts_twoAccounts (r := .working twoAccounts) (fun _ => rfl)
      rfl).1 (0 : ℕ)
  refine ⟨hdb, hlogged, fun u hu => ?_, ?_⟩
  · rcases (loggedIn_step_LOGIN 0 1 { account := "a", password := "p" } u).mp hu with
      hstart | ⟨haddr, -⟩
    · exact not_loggedIn_start (.working twoAccounts) 1 u hstart
    · cases haddr
  · exact getRole_step_of_ne (a := 1) Nat.one_ne_zero _

lemma twoLogins_spec :
    twoLogins.redis.db = twoAccounts ∧ LoggedIn twoLogins 0 "a" ∧ LoggedIn twoLogins 1 "b" := by
  obtain ⟨hdb, hzero, -, -⟩ := oneLogin_spec
  obtain ⟨hdb', hone, -⟩ := play_LOGIN_returning (S := oneLogin)
    (by rw [hdb]; exact storedRole_twoAccounts.2) rfl
    (accepts_twoAccounts (r := .working oneLogin.redis.db) (fun _ => rfl) hdb).2 1
  exact ⟨hdb'.trans hdb, (loggedIn_step_LOGIN 1 0 _ "a").mpr (.inl hzero), hone⟩

/-- The two accounts log in, one of them does a task and the other asks. -/
theorem tasks_private_two_accounts :
    DistinctIds Env.wire twoAccounts ∧
      TasksPrivate Env.wire twoAccounts
        [.working (0 : ℕ) (.LOGIN { account := "a", password := "p" }),
          .working 1 (.LOGIN { account := "b", password := "q" }),
          .working 1 (.UPDATE_TASK { finished_task_ids := [3] }), .working 0 (.QUERY_TASK {})] := by
  obtain ⟨hdb, -, hnobody, hfree⟩ := oneLogin_spec
  refine ⟨distinctIds_twoAccounts, tasks_private distinctIds_twoAccounts [] _ ⟨?_, ?_, trivial,
    trivial, trivial⟩⟩
  · exact keepsIds_LOGIN_returning (S := .start (.working twoAccounts)) storedRole_twoAccounts.1
      rfl (by decide) rfl fun u => not_loggedIn_start _ 0 u
  · exact keepsIds_LOGIN_returning (S := oneLogin) (by rw [hdb]; exact storedRole_twoAccounts.2)
      rfl (by decide) hfree hnobody

/-- Behind the two logins both roles are erased. -/
def twoErasures : Server ℕ :=
  (twoLogins.play Env.wire (.working 0 (.ERASE_ROLE {}))).play Env.wire
    (.working 1 (.ERASE_ROLE {}))

lemma twoErasures_spec : LoggedIn twoErasures 0 "a" ∧ LoggedIn twoErasures 1 "b" ∧
    playerId twoErasures 0 = 0 ∧ playerId twoErasures 1 = 0 ∧
    twoErasures.redis.db (taskinfo_key 0) = none := by
  obtain ⟨hdb, hzero, hone⟩ := twoLogins_spec
  have hlogged (S : Server ℕ) (a addr : ℕ) (u : String) (hu : LoggedIn S addr u) :
      LoggedIn (S.play Env.wire (.working a (.ERASE_ROLE {}))) addr u :=
    (loggedIn_step (S := S.before (.working a (.ERASE_ROLE {}))) (fun req heq => by cases heq) a
      addr u).mpr hu
  have htask (S : Server ℕ) (a : ℕ) :
      (S.play Env.wire (.working a (.ERASE_ROLE {}))).redis.db (taskinfo_key 0)
        = S.redis.db (taskinfo_key 0) :=
    db_step_taskinfo (S := S.before (.working a (.ERASE_ROLE {}))) (fun req heq => by cases heq) a 0
  refine ⟨hlogged _ 1 0 "a" (hlogged _ 0 0 "a" hzero), hlogged _ 1 1 "b" (hlogged _ 0 1 "b" hone),
    ?_, playerId_step_ERASE_ROLE Env.wire 1 {}, ?_⟩
  · have hkept : twoErasures.role_manager_.GetRole 0
        = (twoLogins.play Env.wire (.working 0 (.ERASE_ROLE {}))).role_manager_.GetRole 0 :=
      getRole_step_of_ne (a := 0) Nat.zero_ne_one _
    rw [playerId, RoleInjectHandler.handedRole, hkept]
    exact playerId_step_ERASE_ROLE Env.wire (S := twoLogins.before _) 0 {}
  · rw [twoErasures, htask, htask, hdb, twoAccounts, withReturning,
      Function.update_of_ne (taskinfo_key_ne_role_key _ _),
      Function.update_of_ne (taskinfo_key_ne_password_key _ _), withReturning,
      Function.update_of_ne (taskinfo_key_ne_role_key _ _),
      Function.update_of_ne (taskinfo_key_ne_password_key _ _)]

/-- The two accounts log in and erase their roles: now they share the task record of the
player with the id zero. -/
theorem erased_roles_share_tasks :
    ¬ TasksPrivate Env.wire twoAccounts
      [.working (0 : ℕ) (.LOGIN { account := "a", password := "p" }),
        .working 1 (.LOGIN { account := "b", password := "q" }),
        .working 0 (.ERASE_ROLE {}), .working 1 (.ERASE_ROLE {}),
        .working 1 (.UPDATE_TASK { finished_task_ids := [3] }), .working 0 (.QUERY_TASK {})] := by
  intro hprivate
  obtain ⟨hzero, hone, hidzero, hidone, hnone⟩ := twoErasures_spec
  have hupdated : LoggedIn (twoErasures.play Env.wire
      (.working 1 (.UPDATE_TASK { finished_task_ids := [3] }))) 0 "a" :=
    (loggedIn_step (S := twoErasures.before _) (fun req heq => by cases heq) 1 0 "a").mpr hzero
  have hsame := hprivate
    [.working 0 (.LOGIN { account := "a", password := "p" }),
      .working 1 (.LOGIN { account := "b", password := "q" }), .working 0 (.ERASE_ROLE {}),
      .working 1 (.ERASE_ROLE {})] [] [] _ _ rfl ⟨_, rfl⟩ ⟨_, rfl⟩ "a" "b" (by decide) hone hupdated
  exact update_seen (hidzero.trans hidone.symm) (by rw [hidone, hnone]) _ _ hsame

end LittleB
