import LittleB.Records
import LittleB.SessionRole

/-!
Which addresses have logged in, and what the role of an address becomes.

* `LoggedIn`: a login from an address to an account has been let in, with `loggedIn_step`
  and `loggedIn_step_LOGIN`;
* `getRole_step_LOGIN`: an address keeps its role when it logs in, or gets the pulled one;
* `step_ERASE_ROLE`, `getRole_SetRole`: what an erasure does.
-/

namespace LittleB

open Bytes

variable {env : Env} {Addr : Type} [DecidableEq Addr]

/-! ### Logins -/

/-- A login from the address to the account has been answered `SUCCEED`. -/
def LoggedIn (S : Server Addr) (addr : Addr) (account : String) : Prop :=
  ∃ req rsp, (addr, Request.LOGIN req, Response.LOGIN rsp) ∈ S.log ∧ req.account = account ∧
    rsp.error = LoginRsp.ErrorCode.SUCCEED.number

omit [DecidableEq Addr] in
/-- At the start nobody has logged in. -/
lemma not_loggedIn_start (r : Redis) (addr : Addr) (u : String) :
    ¬ LoggedIn (.start r : Server Addr) addr u :=
  fun ⟨_, _, hmem, _⟩ => absurd hmem List.not_mem_nil

variable {S : Server Addr}

/-- A request that is no login leaves the logins as they are. -/
lemma loggedIn_step {request : Request} (h : ∀ req, request ≠ .LOGIN req) (a addr : Addr)
    (u : String) : LoggedIn (S.step env (a, request)) addr u ↔ LoggedIn S addr u := by
  obtain ⟨rsp', hlog⟩ := S.log_step env (a, request)
  refine exists_congr fun req => exists_congr fun rsp => and_congr_left fun _ => ?_
  rw [hlog, List.mem_cons]
  refine or_iff_right fun heq => ?_
  simp only [Prod.mk.injEq] at heq
  exact h req heq.2.1.symm

/-- A login that is let in is one more. -/
lemma loggedIn_step_LOGIN (a addr : Addr) (req : LoginReq) (u : String) :
    LoggedIn (S.step env (a, .LOGIN req)) addr u
      ↔ LoggedIn S addr u ∨ (addr = a ∧ req.account = u ∧ Accepts env S.behindPull req) := by
  have hsucceed : (S.loginAnswer env req).error = LoginRsp.ErrorCode.SUCCEED.number
      ↔ Accepts env S.behindPull req := login_succeed_iff env req _
  rw [LoggedIn, (S.step_LOGIN env a req).2]
  constructor
  · rintro ⟨req', rsp, hmem, hname, herror⟩
    rcases List.mem_cons.mp hmem with hnew | hold
    · simp only [Prod.mk.injEq, Request.LOGIN.injEq, Response.LOGIN.injEq] at hnew
      obtain ⟨rfl, rfl, rfl⟩ := hnew
      exact .inr ⟨rfl, hname, hsucceed.mp herror⟩
    · exact .inl ⟨req', rsp, hold, hname, herror⟩
  · rintro (⟨req', rsp, hold, hname, herror⟩ | ⟨rfl, hname, haccepts⟩)
    · exact ⟨req', rsp, List.mem_cons_of_mem _ hold, hname, herror⟩
    · exact ⟨req, _, List.mem_cons_self, hname, hsucceed.mpr haccepts⟩

/-! ### The roles of the addresses -/

/-- The role of the address of a login: it keeps the one it has, else it gets the one that
the handler pulls. -/
lemma getRole_step_LOGIN (a : Addr) (req : LoginReq) :
    (S.step env (a, .LOGIN req)).role_manager_.GetRole a
      = (S.role_manager_.GetRole a).or (pulledRole env S.redis req.account) := by
  rw [RoleinfoManager.GetRole, RoleinfoManager.GetRole]
  cases hbound : S.role_manager_.roles_ a with
  | some session =>
      rw [S.role_manager_step_LOGIN_bound env (by rw [hbound]; exact Option.some_ne_none _), hbound]
      rfl
  | none =>
      cases hrole : pulledRole env S.redis req.account with
      | some role =>
          rw [S.roles_step_LOGIN_unbound env hbound hrole]
          rfl
      | none =>
          rw [(S.step_LOGIN env a req).1, Server.boundByPull, hrole, hbound]
          rfl

/-- A request of another address leaves the role of an address alone. -/
lemma getRole_step_of_ne {a addr : Addr} (h : a ≠ addr) (request : Request) :
    (S.step env (addr, request)).role_manager_.GetRole a = S.role_manager_.GetRole a := by
  rw [RoleinfoManager.GetRole, RoleinfoManager.GetRole, S.roles_step_of_ne env h]

/-- So does a request of any address that is neither a login nor an erasure. -/
lemma getRole_step_of_not_endsSession {a addr : Addr} {request : Request}
    (h : ¬ EndsSession a (addr, request)) :
    (S.step env (addr, request)).role_manager_.GetRole a = S.role_manager_.GetRole a := by
  rw [RoleinfoManager.GetRole, RoleinfoManager.GetRole, roles_step_of_not_endsSession env h]

lemma getRole_SetRole (self : RoleinfoManager Addr) (a addr : Addr) (role : RoleInfo) :
    (self.SetRole a role).GetRole addr
      = if addr = a then (self.GetRole a).map fun _ => role else self.GetRole addr := by
  rw [RoleinfoManager.GetRole]
  split_ifs with haddr
  · change (Function.update self.roles_ a _ addr).map Session.role = _
    rw [haddr, Function.update_self, Option.map_map, RoleinfoManager.GetRole, Option.map_map]
    rfl
  · rw [self.SetRole_of_ne haddr, RoleinfoManager.GetRole]

/-- What an erasure does: the role of its address becomes empty, and so does the record
without a name when the store answers. -/
lemma step_ERASE_ROLE (a : Addr) (req : EraseRoleReq) :
    (S.step env (a, .ERASE_ROLE req)).role_manager_ = S.role_manager_.SetRole a {} ∧
      ∀ u, storedRole env (S.step env (a, .ERASE_ROLE req)).redis.db u
        = if S.redis.outcome 0 = .ok ∧ c_str u = [] then some {}
          else storedRole env S.redis.db u := by
  have hnameless : c_str "" = [] := rfl
  rw [S.step_handedOn env (show (Request.ERASE_ROLE req).handedOn from rfl)]
  cases h0 : S.redis.outcome 0 with
  | ok =>
      simp only [RunSyncService, Prog.run_bind, run_EraseRoleService env h0]
      refine ⟨rfl, fun u => ?_⟩
      change storedRole env (Function.update S.redis.db (role_key "") _) u = _
      rw [storedRole_update_role, hnameless]
      exact if_congr (and_iff_right trivial).symm rfl rfl
  | error str =>
      simp only [RunSyncService, Prog.run_bind, run_EraseRoleService_error env h0]
      refine ⟨rfl, fun u => ?_⟩
      rw [if_neg fun h => by cases h.1]
      rfl

end LittleB
