import LittleB.Sessions
import LittleB.Tasks

/-!
Which role a session plays with.

* `EndsSession`: the requests of an address that may change its role;
  `roles_step_of_not_endsSession`, `roles_run_of_not_endsSession`: all others keep it;
* `login_selects_iff`: behind a login that was let in, the requests of the address are
  executed with the role of the account exactly when the address had no role before,
  or that very one, since `AddRole` does not replace a role;
* `twoAccounts`, `second_login_keeps_role`: the second login of an address.
-/

namespace LittleB

open Bytes

variable (env : Env) {Addr : Type} [DecidableEq Addr]

/-! ### What keeps the role of an address -/

/-- A login or an erasure by the address. -/
def EndsSession (addr : Addr) (input : Addr × Request) : Prop :=
  input.1 = addr ∧ ((∃ req, input.2 = .LOGIN req) ∨ ∃ req, input.2 = .ERASE_ROLE req)

/-- Handing back the role that was handed on changes nothing. -/
lemma SetRole_handedRole (self : RoleinfoManager Addr) (addr : Addr) :
    self.SetRole addr (RoleInjectHandler.handedRole self addr) = self := by
  rw [RoleinfoManager.SetRole, RoleInjectHandler.handedRole, RoleinfoManager.GetRole]
  cases hrole : self.roles_ addr with
  | none => rw [Option.map_none, ← hrole, Function.update_eq_self]
  | some session =>
      have hsame : (some session).map (fun s : Session =>
          { s with role := ((some session).map Session.role).getD {} }) = self.roles_ addr := by
        rw [hrole]
        rfl
      rw [hsame, Function.update_eq_self]

/-- **The step**: a request that does not end the session keeps the role. -/
lemma roles_step_of_not_endsSession {S : Server Addr} {addr : Addr} {input : Addr × Request}
    (h : ¬ EndsSession addr input) :
    (S.step env input).role_manager_.roles_ addr = S.role_manager_.roles_ addr := by
  obtain ⟨a, request⟩ := input
  by_cases haddr : addr = a
  · subst haddr
    cases request with
    | LOGIN req => exact absurd ⟨rfl, .inl ⟨req, rfl⟩⟩ h
    | ERASE_ROLE req => exact absurd ⟨rfl, .inr ⟨req, rfl⟩⟩ h
    | REGISTER req => rw [Server.step_REGISTER]
    | QUERY_TASK req =>
        simp only [Server.step_handedOn env S (show (Request.QUERY_TASK req).handedOn from rfl),
          run_QUERY_TASK_reply, SetRole_handedRole]
    | UPDATE_TASK req =>
        simp only [Server.step_handedOn env S (show (Request.UPDATE_TASK req).handedOn from rfl),
          run_UPDATE_TASK_reply, SetRole_handedRole]
  · exact S.roles_step_of_ne env haddr request

/-- The run lemma: nor do any number of such requests. -/
lemma roles_run_of_not_endsSession {S : Server Addr} {addr : Addr}
    {inputs : List (Addr × Request)} (h : ∀ input ∈ inputs, ¬ EndsSession addr input) :
    (S.run env inputs).role_manager_.roles_ addr = S.role_manager_.roles_ addr := by
  induction inputs generalizing S with
  | nil => rfl
  | cons input inputs ih =>
      have hrest := ih (S := S.step env input) fun i hi => h i (List.mem_cons_of_mem _ hi)
      exact hrest.trans (roles_step_of_not_endsSession env (h input List.mem_cons_self))

/-! ### The role behind a login -/

/-- The request that follows is handed on with the role of the account, whatever
requests that do not end the session are in between. -/
def PlaysWith (S : Server Addr) (addr : Addr) (role : RoleInfo) : Prop :=
  ∀ between, (∀ input ∈ between, ¬ EndsSession addr input) →
    RoleInjectHandler.handedRole (S.run env between).role_manager_ addr = role

lemma playsWith_iff {S : Server Addr} {addr : Addr} {role : RoleInfo} :
    PlaysWith env S addr role ↔ RoleInjectHandler.handedRole S.role_manager_ addr = role := by
  refine ⟨fun h => h [] (by simp), fun h between hbetween => ?_⟩
  have hroles := roles_run_of_not_endsSession env (S := S) hbetween
  rw [← h, RoleInjectHandler.handedRole, RoleInjectHandler.handedRole, RoleinfoManager.GetRole,
    RoleinfoManager.GetRole, hroles]

/-- **Logins and sessions**: in a run over a working store, a login that is answered
`SUCCEED` finds the role of its account in the store, and every later request of the
address, up to its next login or erasure, is executed with that role exactly when the
address had no role when it logged in, or had that one already. -/
theorem login_selects_iff (earlier : List (Addr × Request)) (db : Bytes → Option Bytes)
    (addr : Addr) (req : LoginReq)
    (hsucceed : ((Server.run env earlier (.start (.working db))).loginAnswer env req).error
      = LoginRsp.ErrorCode.SUCCEED.number) :
    ∃ role, storedRole env (Server.run env earlier (.start (.working db))).redis.db req.account
        = some role ∧
      (PlaysWith env ((Server.run env earlier (.start (.working db))).step env
          (addr, .LOGIN req)) addr role
        ↔ (Server.run env earlier (.start (.working db))).role_manager_.roles_ addr = none ∨
          (Server.run env earlier (.start (.working db))).role_manager_.GetRole addr
            = some role) := by
  have hw : (Server.run env earlier (.start (.working db) : Server Addr)).redis.Working :=
    Server.working_run env (fun n => rfl) earlier
  generalize Server.run env earlier (.start (.working db)) = S at hsucceed hw ⊢
  have haccepts := (login_succeed_iff env req S.behindPull).mp hsucceed
  obtain ⟨role, hrole⟩ := Option.ne_none_iff_exists'.mp haccepts.role
  have hpulled : pulledRole env S.redis req.account = some role :=
    (pulledRole_eq_some env).mpr ⟨hw 0, hrole⟩
  refine ⟨role, hrole, ?_⟩
  rw [playsWith_iff, RoleInjectHandler.handedRole]
  cases hbound : S.role_manager_.roles_ addr with
  | none =>
      refine iff_of_true ?_ (.inl rfl)
      rw [RoleinfoManager.GetRole, S.roles_step_LOGIN_unbound env hbound hpulled]
      rfl
  | some session =>
      have hkept : (S.step env (addr, .LOGIN req)).role_manager_ = S.role_manager_ :=
        S.role_manager_step_LOGIN_bound env (by rw [hbound]; simp)
      rw [hkept, RoleinfoManager.GetRole, hbound]
      simp

/-- The first login of an address. -/
theorem login_selects_first_login :
    ((Server.run Env.wire [] (.start (.working oneAccount) : Server ℕ)).loginAnswer Env.wire
        { account := "a", password := "p" }).error = LoginRsp.ErrorCode.SUCCEED.number ∧
      ∃ role, storedRole Env.wire oneAccount "a" = some role ∧
        (PlaysWith Env.wire ((Server.run Env.wire [] (.start (.working oneAccount))).step Env.wire
            ((0 : ℕ), .LOGIN { account := "a", password := "p" })) 0 role
          ↔ (Server.run Env.wire [] (.start (.working oneAccount))).role_manager_.roles_ (0 : ℕ)
              = none ∨
            (Server.run Env.wire [] (.start (.working oneAccount))).role_manager_.GetRole (0 : ℕ)
              = some role) := by
  have hsucceed := (login_succeed_iff Env.wire _ _).mpr accepts_oneAccount
  exact ⟨hsucceed, login_selects_iff Env.wire [] oneAccount (0 : ℕ)
    { account := "a", password := "p" } hsucceed⟩

/-! ### The second login of an address -/

/-- A store with one more account, which has been visited before. -/
def withReturning (username password : String) (gid : Int32) (db : Bytes → Option Bytes) :
    Bytes → Option Bytes :=
  Function.update (Function.update db (password_key username) (some (c_str password)))
    (role_key username)
    (some (Env.wire.roleInfo.SerializeToString (initialRole username gid).visited))

lemma withReturning_password (username password : String) (gid : Int32)
    (db : Bytes → Option Bytes) :
    withReturning username password gid db (password_key username) = some (c_str password) := by
  rw [withReturning, Function.update_of_ne (password_key_ne_role_key _ _), Function.update_self]

lemma storedRole_withReturning (username password : String) (gid : Int32)
    (db : Bytes → Option Bytes) :
    storedRole Env.wire (withReturning username password gid db) username
      = some (initialRole username gid).visited := by
  rw [withReturning, storedRole_update_role, if_pos rfl]

/-- Other accounts are as before. -/
lemma withReturning_of_ne {u username : String} (h : c_str u ≠ c_str username) (password : String)
    (gid : Int32) (db : Bytes → Option Bytes) :
    withReturning username password gid db (password_key u) = db (password_key u) ∧
      storedRole Env.wire (withReturning username password gid db) u
        = storedRole Env.wire db u := by
  rw [withReturning]
  constructor
  · rw [Function.update_of_ne (password_key_ne_role_key _ _),
      Function.update_of_ne (password_key_inj.not.mpr h)]
  · rw [storedRole_update_role, if_neg h,
      storedRole_update_of_ne _ _ (password_key_ne_role_key _ _).symm]

/-- The accounts `a` with the password `p` and `b` with the password `q`. -/
def twoAccounts : Bytes → Option Bytes :=
  withReturning "b" "q" 2 (withReturning "a" "p" 1 fun _ => none)

lemma accepts_twoAccounts {r : Redis} (hw : r.Working) (hdb : r.db = twoAccounts) :
    Accepts Env.wire r { account := "a", password := "p" } ∧
      Accepts Env.wire r { account := "b", password := "q" } := by
  have hne : c_str "a" ≠ c_str "b" := by decide
  have hothers := withReturning_of_ne hne "q" 2 (withReturning "a" "p" 1 fun _ => none)
  refine ⟨⟨hw 0, ?_, hw 1, ?_⟩, ⟨hw 0, ?_, hw 1, ?_⟩⟩
  · rw [hdb, twoAccounts, hothers.1, withReturning_password]
    decide
  · rw [hdb, twoAccounts, hothers.2, storedRole_withReturning]
    exact Option.some_ne_none _
  · rw [hdb, twoAccounts, withReturning_password]
    decide
  · rw [hdb, twoAccounts, storedRole_withReturning]
    exact Option.some_ne_none _

lemma storedRole_twoAccounts :
    storedRole Env.wire twoAccounts "a" = some (initialRole "a" 1).visited ∧
      storedRole Env.wire twoAccounts "b" = some (initialRole "b" 2).visited := by
  have hne : c_str "a" ≠ c_str "b" := by decide
  rw [twoAccounts, (withReturning_of_ne hne _ _ _).2, storedRole_withReturning,
    storedRole_withReturning]
  exact ⟨rfl, rfl⟩

/-- An address logs in to `a` and then to `b`, both answered `SUCCEED`, and goes on
with the role of `a`. -/
theorem second_login_keeps_role :
    ((Server.run Env.wire [((0 : ℕ), .LOGIN { account := "a", password := "p" })]
        (.start (.working twoAccounts))).loginAnswer Env.wire
          { account := "b", password := "q" }).error = LoginRsp.ErrorCode.SUCCEED.number ∧
      storedRole Env.wire (Server.run Env.wire
          [((0 : ℕ), .LOGIN { account := "a", password := "p" })]
          (.start (.working twoAccounts))).redis.db "b" = some (initialRole "b" 2).visited ∧
      ¬ PlaysWith Env.wire ((Server.run Env.wire
          [((0 : ℕ), .LOGIN { account := "a", password := "p" })]
          (.start (.working twoAccounts))).step Env.wire
            (0, .LOGIN { account := "b", password := "q" })) 0 (initialRole "b" 2).visited := by
  obtain ⟨hroleA, hroleB⟩ := storedRole_twoAccounts
  change ((Server.step Env.wire (.start (.working twoAccounts)) ((0 : ℕ), _)).loginAnswer
    Env.wire _).error = _ ∧ storedRole Env.wire (Server.step Env.wire _ _).redis.db "b" = _ ∧
    ¬ PlaysWith Env.wire (Server.step Env.wire (Server.step Env.wire _ _) _) 0 _
  have hbound : (Server.step Env.wire (.start (.working twoAccounts))
      ((0 : ℕ), .LOGIN { account := "a", password := "p" })).role_manager_.roles_ 0
        = some ⟨"a", (initialRole "a" 1).visited⟩ :=
    Server.roles_step_LOGIN_unbound Env.wire _ rfl ((pulledRole_eq_some Env.wire).mpr ⟨rfl, hroleA⟩)
  -- the role of `a` is marked already, so its login stores nothing
  have hdb : (Server.step Env.wire (.start (.working twoAccounts))
      ((0 : ℕ), .LOGIN { account := "a", password := "p" })).redis.db = twoAccounts := by
    have hlogin := accepts_twoAccounts (r := .working twoAccounts) (fun n => rfl) rfl
    rw [Server.redis_step_LOGIN]
    exact (login_end_accepts Env.wire hlogin.1 hroleA).2.trans
      (if_neg fun h => Bool.noConfusion h.1)
  have hw : (Server.step Env.wire (.start (.working twoAccounts))
      ((0 : ℕ), .LOGIN { account := "a", password := "p" })).redis.Working :=
    Server.working_step Env.wire (fun n => rfl) _
  generalize Server.step Env.wire (.start (.working twoAccounts))
    ((0 : ℕ), .LOGIN { account := "a", password := "p" }) = S at hbound hdb hw ⊢
  have hlogin := accepts_twoAccounts (r := S.behindPull) (fun n => hw (n + 1)) hdb
  refine ⟨(login_succeed_iff Env.wire _ _).mpr hlogin.2, by rw [hdb, hroleB], ?_⟩
  have hkept : (S.step Env.wire (0, .LOGIN { account := "b", password := "q" })).role_manager_
      = S.role_manager_ := S.role_manager_step_LOGIN_bound Env.wire (by rw [hbound]; simp)
  rw [playsWith_iff, hkept, RoleInjectHandler.handedRole, RoleinfoManager.GetRole, hbound]
  decide

end LittleB
