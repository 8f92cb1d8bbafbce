import LittleB.Handlers.RoleInjectHandler

/-!
Who may play with which role.

* `LoginExit`, `LoginEnd`, `login_end`: the four ways `MinigameFakeLoginService`
  ends, without and with the store it leaves; `login_succeed_iff` says when it lets an
  account in;
* `Authenticated`: an address has the role of an account only behind a login to the
  account from that address that was answered `SUCCEED`;
* `RefusalBindsNothing`, `PullsOnlyAccepted`, `sessions_authenticated`: the handler
  binds before it checks, so a run is safe only when every role it is about to bind
  belongs to a login that will be let in.
-/

namespace LittleB

open Bytes

variable (env : Env)

/-! ### The exits of a login -/

/-- How a login ends. -/
inductive LoginExit (req : LoginReq) (r : Redis) : LoginRsp → Prop
  /-- The account has no password, or the store did not say. -/
  | unregistered (h : r.outcome 0 = .ok → r.db (password_key req.account) = none) :
      LoginExit req r (.answer req.rpcid .LOGIN_NOT_REGISTERED false)
  | wrong (value : Bytes) (h0 : r.outcome 0 = .ok)
      (hdb : r.db (password_key req.account) = some value)
      (hne : ofString req.password ≠ cstr value) :
      LoginExit req r (.answer req.rpcid .LOGIN_PASSWORD_WRONG false)
  /-- The password is right and there is no role, or the store did not say. -/
  | roleless (value : Bytes) (h0 : r.outcome 0 = .ok)
      (hdb : r.db (password_key req.account) = some value)
      (heq : ofString req.password = cstr value)
      (h1 : r.outcome 1 = .ok → storedRole env r.db req.account = none) :
      LoginExit req r (.answer req.rpcid .UNKOWN_EORROR false)
  | accepted (value : Bytes) (role : RoleInfo) (h0 : r.outcome 0 = .ok)
      (hdb : r.db (password_key req.account) = some value)
      (heq : ofString req.password = cstr value) (h1 : r.outcome 1 = .ok)
      (hrole : storedRole env r.db req.account = some role) :
      LoginExit req r (.answer req.rpcid .SUCCEED role.basic_info.is_returning_visitor)

/-- A pull yields a role when the store answers with one. -/
lemma pulledRole_eq_some {r : Redis} {username : String} {role : RoleInfo} :
    pulledRole env r username = some role
      ↔ r.outcome 0 = .ok ∧ storedRole env r.db username = some role := by
  rw [pulledRole]
  by_cases h0 : r.outcome 0 = .ok
  · rw [if_pos h0]
    exact (and_iff_right h0).symm
  · rw [if_neg h0]
    exact iff_of_false (by simp) fun h => h0 h.1

/-- The role with the mark of a login that has been let in. -/
def RoleInfo.visited (role : RoleInfo) : RoleInfo :=
  role.mutable_basic_info fun b => { b with is_returning_visitor := true }

/-- The store behind a login that has been let in with a role: a first login marks the
role and pushes it. -/
def markedStore (r : Redis) (role : RoleInfo) : Bytes → Option Bytes :=
  if role.basic_info.is_returning_visitor = false ∧ r.outcome 2 = .ok then
    Function.update r.db (role_key role.basic_info.username)
      (some (env.roleInfo.SerializeToString role.visited))
  else r.db

/-- How a login ends: the response and the store it leaves. -/
inductive LoginEnd (req : LoginReq) (r : Redis) : LoginRsp → (Bytes → Option Bytes) → Prop
  | unregistered (h : r.outcome 0 = .ok → r.db (password_key req.account) = none) :
      LoginEnd req r (.answer req.rpcid .LOGIN_NOT_REGISTERED false) r.db
  | wrong (value : Bytes) (h0 : r.outcome 0 = .ok)
      (hdb : r.db (password_key req.account) = some value)
      (hne : ofString req.password ≠ cstr value) :
      LoginEnd req r (.answer req.rpcid .LOGIN_PASSWORD_WRONG false) r.db
  | roleless (value : Bytes) (h0 : r.outcome 0 = .ok)
      (hdb : r.db (password_key req.account) = some value)
      (heq : ofString req.password = cstr value)
      (h1 : r.outcome 1 = .ok → storedRole env r.db req.account = none) :
      LoginEnd req r (.answer req.rpcid .UNKOWN_EORROR false) r.db
  | accepted (value : Bytes) (role : RoleInfo) (h0 : r.outcome 0 = .ok)
      (hdb : r.db (password_key req.account) = some value)
      (heq : ofString req.password = cstr value) (h1 : r.outcome 1 = .ok)
      (hrole : storedRole env r.db req.account = some role) :
      LoginEnd req r (.answer req.rpcid .SUCCEED role.basic_info.is_returning_visitor)
        (markedStore env r role)

/-- The ends behind the password check. -/
lemma login_end_pull {req : LoginReq} {r : Redis} {value : Bytes} (h0 : r.outcome 0 = .ok)
    (hdb : r.db (password_key req.account) = some value)
    (heq : ofString req.password = cstr value) :
    LoginEnd env req r ((MinigameFakeLoginService env req).run Redis.exec r).1
      ((MinigameFakeLoginService env req).run Redis.exec r).2.db := by
  rw [MinigameFakeLoginService, Redis.run_bind, Redis.exec_ok h0, Redis.perform_get_some hdb]
  simp only [Reply.type, Reply.str, heq, ne_eq, not_true_eq_false, if_false, Prog.run_bind,
    run_PullRoleInfoFromDB_pulled]
  cases hrole : pulledRole env ⟨r.db, r.later⟩ req.account with
  | none =>
      refine .roleless value h0 hdb heq fun h1 => ?_
      rw [pulledRole] at hrole
      exact (if_pos h1).symm.trans hrole
  | some role =>
      obtain ⟨h1, hstored⟩ := (pulledRole_eq_some env).mp hrole
      have haccepted := LoginEnd.accepted value role h0 hdb heq h1 hstored
      rw [markedStore] at haccepted
      cases hvisitor : role.basic_info.is_returning_visitor with
      | true =>
          rw [hvisitor, if_neg fun h => Bool.noConfusion h.1] at haccepted
          simp only [hvisitor, not_true_eq_false, if_false]
          exact haccepted
      | false =>
          rw [hvisitor] at haccepted
          simp only [hvisitor, Bool.false_eq_true, not_false_eq_true, if_true, Prog.run_bind]
          cases h2 : r.outcome 2 with
          | ok =>
              rw [run_PushRoleToDB env h2]
              rw [if_pos ⟨rfl, h2⟩] at haccepted
              exact haccepted
          | error str =>
              rw [run_PushRoleToDB_error env h2]
              rw [h2, if_neg fun h => by cases h.2] at haccepted
              exact haccepted

/-- **The ends**: a login ends in one of these four ways. -/
theorem login_end (req : LoginReq) (r : Redis) :
    LoginEnd env req r ((MinigameFakeLoginService env req).run Redis.exec r).1
      ((MinigameFakeLoginService env req).run Redis.exec r).2.db := by
  cases h0 : r.outcome 0 with
  | error str =>
      rw [MinigameFakeLoginService, Redis.run_bind, Redis.exec_error h0]
      exact .unregistered fun h => by rw [h0] at h; cases h
  | ok =>
      cases hdb : r.db (password_key req.account) with
      | none =>
          rw [MinigameFakeLoginService, Redis.run_bind, Redis.exec_ok h0,
            Redis.perform_get_none hdb]
          exact .unregistered fun _ => hdb
      | some value =>
          by_cases heq : ofString req.password = cstr value
          · exact login_end_pull env h0 hdb heq
          · rw [MinigameFakeLoginService, Redis.run_bind, Redis.exec_ok h0,
              Redis.perform_get_some hdb]
            simp only [Reply.type, Reply.str, ne_eq, not_true_eq_false, if_false, heq,
              not_false_eq_true, if_true]
            exact .wrong value h0 hdb heq

/-- The response of a login ends in one of four ways. -/
lemma login_exit (req : LoginReq) (r : Redis) :
    LoginExit env req r ((MinigameFakeLoginService env req).run Redis.exec r).1 := by
  have hend := login_end env req r
  generalize ((MinigameFakeLoginService env req).run Redis.exec r).1 = rsp at hend ⊢
  generalize ((MinigameFakeLoginService env req).run Redis.exec r).2.db = db at hend
  cases hend with
  | unregistered h => exact .unregistered h
  | wrong value h0 hdb hne => exact .wrong value h0 hdb hne
  | roleless value h0 hdb heq h1 => exact .roleless value h0 hdb heq h1
  | accepted value role h0 hdb heq h1 hrole => exact .accepted value role h0 hdb heq h1 hrole

/-- The store lets a login in: it answers both questions of the login service, with
the password sent and with a role. -/
structure Accepts (r : Redis) (req : LoginReq) : Prop where
  asked : r.outcome 0 = .ok
  password : (r.db (password_key req.account)).map cstr = some (ofString req.password)
  pulled : r.outcome 1 = .ok
  role : storedRole env r.db req.account ≠ none

/-- A login is answered `SUCCEED` exactly when the store lets it in. -/
theorem login_succeed_iff (req : LoginReq) (r : Redis) :
    ((MinigameFakeLoginService env req).run Redis.exec r).1.error
        = LoginRsp.ErrorCode.SUCCEED.number
      ↔ Accepts env r req := by
  have hexit := login_exit env req r
  generalize ((MinigameFakeLoginService env req).run Redis.exec r).1 = rsp at hexit ⊢
  cases hexit with
  | unregistered h =>
      refine iff_of_false (by simp [LoginRsp.answer]) fun ha => ?_
      have hpassword := ha.password
      rw [h ha.asked] at hpassword
      cases hpassword
  | wrong value h0 hdb hne =>
      refine iff_of_false (by simp [LoginRsp.answer]) fun ha => ?_
      have hpassword := ha.password
      rw [hdb] at hpassword
      exact hne (Option.some_inj.mp hpassword).symm
  | roleless value h0 hdb heq h1 =>
      exact iff_of_false (by simp [LoginRsp.answer]) fun ha =>
        ha.role (h1 ha.pulled)
  | accepted value role h0 hdb heq h1 hrole =>
      refine iff_of_true rfl ⟨h0, ?_, h1, by rw [hrole]; simp⟩
      rw [hdb, heq]
      rfl

/-- How a login that is let in ends. -/
lemma login_end_accepts {req : LoginReq} {r : Redis} {role : RoleInfo} (h : Accepts env r req)
    (hrole : storedRole env r.db req.account = some role) :
    ((MinigameFakeLoginService env req).run Redis.exec r).1
        = .answer req.rpcid .SUCCEED role.basic_info.is_returning_visitor ∧
      ((MinigameFakeLoginService env req).run Redis.exec r).2.db = markedStore env r role := by
  have hsucceed := (login_succeed_iff env req r).mpr h
  have hend := login_end env req r
  generalize ((MinigameFakeLoginService env req).run Redis.exec r).1 = rsp at hend hsucceed ⊢
  generalize ((MinigameFakeLoginService env req).run Redis.exec r).2.db = db at hend ⊢
  cases hend with
  | unregistered _ => exact absurd hsucceed (by simp [LoginRsp.answer])
  | wrong _ _ _ _ => exact absurd hsucceed (by simp [LoginRsp.answer])
  | roleless _ _ _ _ _ => exact absurd hsucceed (by simp [LoginRsp.answer])
  | accepted value role' _ _ _ _ hrole' =>
      obtain rfl : role = role' := Option.some_inj.mp (hrole.symm.trans hrole')
      exact ⟨rfl, rfl⟩

/-! ### Runs of the server -/

section Server

variable {Addr : Type} [DecidableEq Addr]

/-- An address has the role of an account only when a login to the account from that
address has been answered `SUCCEED`. -/
def Authenticated (S : Server Addr) : Prop :=
  ∀ addr username, S.role_manager_.boundTo addr = some username →
    ∃ req rsp, (addr, Request.LOGIN req, Response.LOGIN rsp) ∈ S.log ∧ req.account = username ∧
      rsp.error = LoginRsp.ErrorCode.SUCCEED.number

/-- A login that is not answered `SUCCEED` leaves the roles in memory as they are. -/
def RefusalBindsNothing (input : Addr × Request) (S : Server Addr) : Prop :=
  ∀ req, input.2 = .LOGIN req →
    (S.loginAnswer env req).error ≠ LoginRsp.ErrorCode.SUCCEED.number →
    (S.step env input).role_manager_.roles_ = S.role_manager_.roles_

/-- A login from an address without a role, to an account whose role can be pulled,
will be let in. -/
def PullsOnlyAccepted (input : Addr × Request) (S : Server Addr) : Prop :=
  ∀ req, input.2 = .LOGIN req → S.role_manager_.roles_ input.1 = none →
    pulledRole env S.redis req.account ≠ none → Accepts env S.behindPull req

/-- One step: a refused login binds nothing exactly when what it is about to bind
belongs to a login that will be let in. -/
lemma refusalBindsNothing_iff (input : Addr × Request) (S : Server Addr) :
    PullsOnlyAccepted env input S ↔ RefusalBindsNothing env input S := by
  obtain ⟨addr, request⟩ := input
  refine forall_congr' fun req => imp_congr_right fun hreq => ?_
  change request = .LOGIN req at hreq
  subst hreq
  rw [(S.step_LOGIN env addr req).1, Server.boundByPull]
  simp only [Server.loginAnswer, ne_eq, login_succeed_iff]
  cases hrole : pulledRole env S.redis req.account with
  | none => exact iff_of_true (fun _ h => absurd rfl h) fun _ => rfl
  | some role =>
      by_cases hfree : S.role_manager_.roles_ addr = none
      · have hbinds : (S.role_manager_.AddRole addr ⟨req.account, role⟩).2.roles_
            ≠ S.role_manager_.roles_ := by
          intro hsame
          have haddr := congrFun hsame addr
          rw [RoleinfoManager.AddRole_unbound hfree, Function.update_self, hfree] at haddr
          cases haddr
        refine ⟨fun h hrefused => absurd (h hfree (by simp)) hrefused, fun h _ _ => ?_⟩
        exact not_not.mp fun hrefused => hbinds (h hrefused)
      · exact iff_of_true (fun h => absurd h hfree) fun _ =>
          congrArg RoleinfoManager.roles_ (RoleinfoManager.AddRole_bound hfree _)

/-- A login from an address without a role binds the role it pulls. -/
lemma boundTo_step_LOGIN {S : Server Addr} {addr : Addr} {req : LoginReq} {role : RoleInfo}
    (hfree : S.role_manager_.roles_ addr = none)
    (hrole : pulledRole env S.redis req.account = some role) :
    (S.step env (addr, .LOGIN req)).role_manager_.boundTo addr = some req.account := by
  rw [RoleinfoManager.boundTo, S.roles_step_LOGIN_unbound env hfree hrole]
  rfl

/-- The step keeps the addresses authenticated. -/
lemma authenticated_step {input : Addr × Request} {S : Server Addr}
    (h : PullsOnlyAccepted env input S) (hS : Authenticated S) :
    Authenticated (S.step env input) := by
  intro addr username hbound
  obtain ⟨rsp', hlog⟩ := S.log_step env input
  -- what was bound before is still authenticated by the longer log
  have hold : S.role_manager_.boundTo addr = some username →
      ∃ req rsp, (addr, Request.LOGIN req, Response.LOGIN rsp) ∈ (S.step env input).log ∧
        req.account = username ∧ rsp.error = LoginRsp.ErrorCode.SUCCEED.number := by
    intro hb
    obtain ⟨req, rsp, hmem, hrest⟩ := hS addr username hb
    refine ⟨req, rsp, ?_, hrest⟩
    rw [hlog]
    exact List.mem_cons_of_mem _ hmem
  by_cases hlogin : ∃ req, input.2 = .LOGIN req
  · obtain ⟨req, hreq⟩ := hlogin
    obtain ⟨a, request⟩ := input
    change request = .LOGIN req at hreq
    subst hreq
    obtain ⟨hroles, hlog'⟩ := S.step_LOGIN env a req
    rw [hroles, Server.boundByPull] at hbound
    cases hrole : pulledRole env S.redis req.account with
    | none =>
        rw [hrole] at hbound
        exact hold hbound
    | some role =>
        rw [hrole] at hbound
        rcases S.role_manager_.boundTo_AddRole hbound with hb | ⟨hfree, haddr, husername⟩
        · exact hold hb
        · have haccepted := h req rfl hfree (by rw [hrole]; simp)
          refine ⟨req, S.loginAnswer env req, ?_, husername.symm,
            (login_succeed_iff env req S.behindPull).mpr haccepted⟩
          rw [hlog', haddr]
          exact List.mem_cons_self
  · have hsame : (S.step env input).role_manager_.boundTo = S.role_manager_.boundTo :=
      S.boundTo_step env fun req hreq => hlogin ⟨req, hreq⟩
    rw [hsame] at hbound
    exact hold hbound

/-- **Authentication**: in a run of requests from any addresses, a refused login
binds nothing at any step exactly when every role that is about to be bound belongs
to a login that will be let in; and then every address with a role has logged in to
its account. -/
theorem sessions_authenticated (inputs : List (Addr × Request)) (redis : Redis) :
    (Run.Guarded (Server.step env) (PullsOnlyAccepted env) inputs (.start redis)
      ↔ Run.Guarded (Server.step env) (RefusalBindsNothing env) inputs (.start redis)) ∧
    (Run.Guarded (Server.step env) (PullsOnlyAccepted env) inputs (.start redis) →
      Authenticated (Server.run env inputs (.start redis))) := by
  refine ⟨Run.Guarded.congr fun input S => refusalBindsNothing_iff env input S, fun hg => ?_⟩
  refine hg.invariant (fun input S h hS => authenticated_step env h hS) ?_
  intro addr username hbound
  cases hbound

end Server

/-- The strings of a store with an account `a`, its password `p` and its role. -/
def oneAccount : Bytes → Option Bytes :=
  Function.update
    (Function.update (fun _ => none) (password_key "a") (some (ofString "p")))
    (role_key "a") (some (Env.wire.roleInfo.SerializeToString (initialRole "a" 1)))

lemma oneAccount_password : oneAccount (password_key "a") = some (ofString "p") := by
  rw [oneAccount, Function.update_of_ne (password_key_ne_role_key _ _), Function.update_self]

lemma pulledRole_oneAccount :
    pulledRole Env.wire (.working oneAccount) "a" = some (initialRole "a" 1) := by
  refine (pulledRole_eq_some Env.wire).mpr ⟨rfl, ?_⟩
  exact (storedRole_update_role _ (initialRole "a" 1) "a" "a").trans (if_pos rfl)

/-- The store lets the account in with its password. -/
lemma accepts_oneAccount :
    Accepts Env.wire (.working oneAccount) { account := "a", password := "p" } where
  asked := rfl
  password := by
    change (oneAccount (password_key "a")).map cstr = _
    rw [oneAccount_password]
    decide
  pulled := rfl
  role := fun hnone => by
    have hrole := (pulledRole_eq_some Env.wire).mp pulledRole_oneAccount
    exact absurd (hrole.2.symm.trans hnone) (by simp)

/-- With the right password the address has the role and is authenticated. -/
theorem sessions_authenticated_login :
    (Server.run Env.wire [((0 : ℕ), .LOGIN { account := "a", password := "p" })]
      (.start (.working oneAccount))).role_manager_.boundTo 0 = some "a" ∧
    Authenticated (Server.run Env.wire [((0 : ℕ), .LOGIN { account := "a", password := "p" })]
      (.start (.working oneAccount))) := by
  refine ⟨boundTo_step_LOGIN Env.wire rfl pulledRole_oneAccount,
    (sessions_authenticated Env.wire _ (.working oneAccount)).2 ⟨fun req hreq _ _ => ?_, trivial⟩⟩
  cases hreq
  exact accepts_oneAccount

/-- With a wrong password the login is refused, and the address has the role. -/
theorem login_wrong_password_binds :
    ¬ Authenticated (Server.run Env.wire [((0 : ℕ), .LOGIN { account := "a", password := "x" })]
      (.start (.working oneAccount))) := by
  intro hauth
  have hbound : (Server.step Env.wire (.start (.working oneAccount))
      ((0 : ℕ), .LOGIN { account := "a", password := "x" })).role_manager_.boundTo 0 = some "a" :=
    boundTo_step_LOGIN Env.wire rfl pulledRole_oneAccount
  obtain ⟨req, rsp, hmem, -, hs⟩ := hauth 0 "a" hbound
  -- the only login of the log is the one with the wrong password
  have hlog := (Server.step_LOGIN Env.wire (.start (.working oneAccount)) (0 : ℕ)
    { account := "a", password := "x" }).2
  have hanswer : rsp = ((MinigameFakeLoginService Env.wire { account := "a", password := "x" }).run
      Redis.exec (.working oneAccount)).1 := by
    have hentry := List.mem_singleton.mp (hlog ▸ hmem)
    simp only [Prod.mk.injEq, Response.LOGIN.injEq] at hentry
    exact hentry.2.2
  rw [hanswer, login_succeed_iff] at hs
  have hpassword : (oneAccount (password_key "a")).map cstr = some (ofString "x") := hs.password
  rw [oneAccount_password] at hpassword
  exact absurd hpassword (by decide)

end LittleB
