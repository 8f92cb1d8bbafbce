import LittleB.LoggedIn

/-!
The roles of the sessions against the records in the store.

* `Settled`: the accounts that have been logged in to have a password and a record;
* `CacheAgrees`: an address that has logged in to an account holds the role that is stored
  for the account;
* `KeepsAgreement`: when a login and an erasure keep that;
* `cacheAgrees_iff`: a run agrees all along exactly when every step of it does, and then
  the push of a session's role changes no record of its account;
* `first_login_disagrees`: the first login of an account marks the stored record only.
-/

namespace LittleB

open Bytes

variable (env : Env) {Addr : Type} [DecidableEq Addr]

/-! ### The accounts that have been logged in to -/

/-- What holds of the accounts that have been logged in to: they have a password and a
record, which no request takes away. -/
structure Settled (S : Server Addr) : Prop where
  working : S.redis.Working
  password : ∀ addr u, LoggedIn S addr u → S.redis.db (password_key u) ≠ none
  role : ∀ addr u, LoggedIn S addr u → storedRole env S.redis.db u ≠ none

variable {env} {S : Server Addr}

/-- A login over a working store. -/
lemma loggedIn_step_LOGIN_working (hw : S.redis.Working) (a addr : Addr) (req : LoginReq)
    (u : String) :
    LoggedIn (S.step env (a, .LOGIN req)) addr u
      ↔ LoggedIn S addr u ∨
        (addr = a ∧ req.account = u ∧ Accepts env (.working S.redis.db) req) := by
  rw [loggedIn_step_LOGIN, Server.behindPull_eq hw]

/-- Every request keeps the accounts settled. -/
lemma Settled.step (h : Settled env S) (input : Addr × Request) :
    Settled env (S.step env input) := by
  obtain ⟨a, request⟩ := input
  -- a login adds an account that the store has let in, the other requests none
  have hold (addr : Addr) (u : String) (hu : LoggedIn (S.step env (a, request)) addr u) :
      S.redis.db (password_key u) ≠ none ∧ storedRole env S.redis.db u ≠ none := by
    by_cases hlogin : ∃ req, request = .LOGIN req
    · obtain ⟨req, rfl⟩ := hlogin
      rcases (loggedIn_step_LOGIN_working h.working a addr req u).mp hu with hu | ⟨-, rfl, haccepts⟩
      · exact ⟨h.password addr u hu, h.role addr u hu⟩
      · refine ⟨fun hnone => ?_, haccepts.role⟩
        have hpassword : (S.redis.db (password_key req.account)).map cstr = _ := haccepts.password
        rw [hnone] at hpassword
        cases hpassword
    · have hu' := (loggedIn_step (fun req heq => hlogin ⟨req, heq⟩) a addr u).mp hu
      exact ⟨h.password addr u hu', h.role addr u hu'⟩
  refine ⟨S.working_step env h.working _, fun addr u hu => ?_,
    fun addr u hu => storedRole_step env (hold addr u hu).2 a request⟩
  obtain ⟨value, hvalue⟩ := Option.ne_none_iff_exists'.mp (hold addr u hu).1
  rw [password_step env hvalue]
  exact Option.some_ne_none _

omit [DecidableEq Addr] in
lemma settled_start (db : Bytes → Option Bytes) :
    Settled env (.start (.working db) : Server Addr) :=
  ⟨fun _ => rfl, fun addr u hu => absurd hu (not_loggedIn_start _ addr u),
    fun addr u hu => absurd hu (not_loggedIn_start _ addr u)⟩

/-! ### Agreement -/

variable (env) in
/-- The sessions agree with the store: an address that has logged in to an account holds
the role that is stored for it. -/
def CacheAgrees (S : Server Addr) : Prop :=
  ∀ addr u, LoggedIn S addr u → S.role_manager_.GetRole addr = storedRole env S.redis.db u

/-- When a login that is let in, to an account with this record, keeps the agreement.  A
record without the mark is pushed with it under the name inside, and the sessions that
are about this name must have been that far. -/
structure LoginAgrees (S : Server Addr) (addr : Addr) (account : String) (role : RoleInfo) :
    Prop where
  own : if role.basic_info.is_returning_visitor = false ∧
      c_str account = c_str role.basic_info.username
    then S.role_manager_.GetRole addr = some role.visited
    else ∀ held, S.role_manager_.GetRole addr = some held → held = role
  others : role.basic_info.is_returning_visitor = false → ∀ a u, LoggedIn S a u →
    c_str u = c_str role.basic_info.username → S.role_manager_.GetRole a = some role.visited

/-- When an erasure by an address keeps the agreement: it empties the session of the
address and the record without a name, and nothing else is changed by one of them only. -/
def EraseAgrees (S : Server Addr) (addr : Addr) : Prop :=
  ∀ a u, LoggedIn S a u → (a = addr ↔ c_str u ≠ []) → S.role_manager_.GetRole a = some {}

variable (env) in
/-- When a request keeps the agreement. -/
def KeepsAgreement (input : Addr × Request) (S : Server Addr) : Prop :=
  match input.2 with
  | .LOGIN req => ∀ role, Accepts env (.working S.redis.db) req →
      storedRole env S.redis.db req.account = some role → LoginAgrees S input.1 req.account role
  | .ERASE_ROLE _ => EraseAgrees S input.1
  | _ => True

/-! ### One request -/

/-- A role without the mark is not the marked one. -/
lemma or_some_eq_visited {held : Option RoleInfo} {role : RoleInfo}
    (h : role.basic_info.is_returning_visitor = false) :
    held = some role.visited ↔ held.or (some role) = some role.visited := by
  cases held with
  | some _ => rfl
  | none =>
      refine iff_of_false (fun heq => by cases heq) fun heq => ?_
      have hsame : role = role.visited := Option.some.inj heq
      rw [hsame, RoleInfo.visited_is_returning_visitor] at h
      cases h

lemma or_some_eq_some {held : Option RoleInfo} {role : RoleInfo} :
    (∀ r, held = some r → r = role) ↔ held.or (some role) = some role := by
  cases held with
  | some r => exact ⟨fun h => congrArg some (h r rfl), fun h _ heq =>
      (Option.some.inj heq).symm.trans (Option.some.inj h)⟩
  | none => exact iff_of_true (fun _ heq => by cases heq) rfl

/-- A login over a working store hands its address the stored role, unless it has one. -/
lemma getRole_step_LOGIN_working (hw : S.redis.Working) (a : Addr) (req : LoginReq) :
    (S.step env (a, .LOGIN req)).role_manager_.GetRole a
      = (S.role_manager_.GetRole a).or (storedRole env S.redis.db req.account) := by
  have hpulled : pulledRole env S.redis req.account = storedRole env S.redis.db req.account :=
    if_pos (hw 0)
  rw [getRole_step_LOGIN, hpulled]

/-- An address that has logged in keeps its role when it logs in again. -/
lemma getRole_step_LOGIN_of_loggedIn (h : Settled env S) (hagrees : CacheAgrees env S)
    {addr : Addr} {u : String} (hu : LoggedIn S addr u) (a : Addr) (req : LoginReq) :
    (S.step env (a, .LOGIN req)).role_manager_.GetRole addr = S.role_manager_.GetRole addr := by
  by_cases haddr : addr = a
  · subst haddr
    obtain ⟨role, hrole⟩ := Option.ne_none_iff_exists'.mp (h.role addr u hu)
    rw [getRole_step_LOGIN_working h.working, hagrees addr u hu, hrole]
    rfl
  · exact getRole_step_of_ne haddr _

/-- A login that is let in keeps the agreement exactly under its condition. -/
lemma loginAgrees_iff (h : Settled env S) (hagrees : CacheAgrees env S) (a : Addr) {req : LoginReq}
    {role : RoleInfo} (haccepts : Accepts env (.working S.redis.db) req)
    (hrole : storedRole env S.redis.db req.account = some role) :
    LoginAgrees S a req.account role ↔ CacheAgrees env (S.step env (a, .LOGIN req)) := by
  have hlogged (addr : Addr) (u : String) : LoggedIn (S.step env (a, .LOGIN req)) addr u
      ↔ LoggedIn S addr u ∨
        (addr = a ∧ req.account = u ∧ Accepts env (.working S.redis.db) req) :=
    loggedIn_step_LOGIN_working h.working a addr req u
  have hstored (u : String) : storedRole env (S.step env (a, .LOGIN req)).redis.db u
      = if role.basic_info.is_returning_visitor = false ∧
          c_str u = c_str role.basic_info.username then some role.visited
        else storedRole env S.redis.db u := by
    have hanswered : (Redis.working S.redis.db).outcome 2 = .ok := rfl
    rw [db_step_LOGIN_accepted h.working haccepts hrole, storedRole_markedStore_of_name]
    simp only [hanswered, and_true]
    rfl
  have hown : (if role.basic_info.is_returning_visitor = false ∧
        c_str req.account = c_str role.basic_info.username
      then S.role_manager_.GetRole a = some role.visited
      else ∀ held, S.role_manager_.GetRole a = some held → held = role)
      ↔ (S.step env (a, .LOGIN req)).role_manager_.GetRole a
        = storedRole env (S.step env (a, .LOGIN req)).redis.db req.account := by
    rw [getRole_step_LOGIN_working h.working, hstored, hrole]
    split_ifs with hpush
    · exact or_some_eq_visited hpush.1
    · exact or_some_eq_some
  have hold (addr : Addr) (u : String) (hu : LoggedIn S addr u) :
      (role.basic_info.is_returning_visitor = false → c_str u = c_str role.basic_info.username →
          S.role_manager_.GetRole addr = some role.visited)
        ↔ (S.step env (a, .LOGIN req)).role_manager_.GetRole addr
          = storedRole env (S.step env (a, .LOGIN req)).redis.db u := by
    rw [getRole_step_LOGIN_of_loggedIn h hagrees hu, hstored, ← and_imp]
    split_ifs with hpush
    · exact forall_prop_of_true hpush
    · exact iff_of_true (fun hpush' => absurd hpush' hpush) (hagrees addr u hu)
  constructor
  · rintro ⟨hown', hothers⟩ addr u hu
    rcases (hlogged addr u).mp hu with hu | ⟨rfl, rfl, -⟩
    · exact (hold addr u hu).mp fun hfirst => hothers hfirst addr u hu
    · exact hown.mp hown'
  · intro hafter
    refine ⟨hown.mpr (hafter a req.account ((hlogged _ _).mpr (.inr ⟨rfl, rfl, haccepts⟩))), ?_⟩
    exact fun hfirst addr u hu => (hold addr u hu).mpr (hafter addr u ((hlogged _ _).mpr (.inl hu)))
      hfirst

/-- An erasure keeps the agreement exactly under its condition. -/
lemma eraseAgrees_iff (h : Settled env S) (hagrees : CacheAgrees env S) (a : Addr)
    (req : EraseRoleReq) :
    EraseAgrees S a ↔ CacheAgrees env (S.step env (a, .ERASE_ROLE req)) := by
  obtain ⟨hroles, hstored⟩ := @step_ERASE_ROLE env Addr _ S a req
  refine forall_congr' fun addr => forall_congr' fun u => ?_
  rw [loggedIn_step (fun req' => by exact fun heq => by cases heq)]
  refine imp_congr_right fun hu => ?_
  have hagree := hagrees addr u hu
  obtain ⟨role, hrole⟩ := Option.ne_none_iff_exists'.mp (h.role addr u hu)
  rw [hrole] at hagree
  simp only [h.working 0, true_and] at hstored
  rw [hroles, getRole_SetRole, hstored, hrole, hagree]
  by_cases haddr : addr = a
  · subst haddr
    rw [if_pos rfl, hagree]
    by_cases hname : c_str u = []
    · rw [if_pos hname]
      exact iff_of_true (fun hiff => absurd hname (hiff.mp rfl)) rfl
    · rw [if_neg hname]
      exact ⟨fun himp => (himp (iff_of_true rfl hname)).symm, fun heq _ => heq.symm⟩
  · rw [if_neg haddr]
    by_cases hname : c_str u = []
    · rw [if_pos hname]
      exact ⟨fun himp => himp (iff_of_false haddr (not_not_intro hname)), fun heq _ => heq⟩
    · rw [if_neg hname]
      exact iff_of_true (fun hiff => absurd (hiff.mpr hname) haddr) rfl

/-- A registration keeps the agreement: an account that has been logged in to is known. -/
lemma cacheAgrees_step_REGISTER (h : Settled env S) (hagrees : CacheAgrees env S) (a : Addr)
    (req : RegisterReq) : CacheAgrees env (S.step env (a, .REGISTER req)) := by
  intro addr u hu
  rw [loggedIn_step (fun req' heq => by cases heq)] at hu
  have hrole : storedRole env (S.step env (a, .REGISTER req)).redis.db u
      = storedRole env S.redis.db u := by
    by_cases hname : c_str u = c_str req.account
    · rw [db_step_REGISTER_known (password_key_inj.mpr hname ▸ h.password addr u hu)]
    · rcases (step_written env S a (.REGISTER req) (role_key u)).role_cases with
        hkept | ⟨role, -, hu', haccount⟩
      · rw [storedRole, storedRole, hkept]
      · have haccount' : role.basic_info.username = req.account := haccount
        rw [haccount'] at hu'
        exact absurd hu' hname
  rw [hrole, S.step_REGISTER]
  exact hagrees addr u hu

/-- The task requests keep the agreement. -/
lemma cacheAgrees_step_task (hagrees : CacheAgrees env S) (a : Addr) {request : Request}
    (h : ∀ addr, ¬ EndsSession addr (a, request))
    (hrole : ∀ role, ¬ RoleOf env S.redis.db request role) :
    CacheAgrees env (S.step env (a, request)) := by
  intro addr u hu
  rw [loggedIn_step (fun req heq => h a ⟨rfl, .inl ⟨req, heq⟩⟩)] at hu
  rw [getRole_step_of_not_endsSession (h addr), storedRole]
  rcases (step_written env S a request (role_key u)).role_cases with hkept | ⟨role, -, -, hof⟩
  · rw [hkept]
    exact hagrees addr u hu
  · exact absurd hof (hrole role)

/-- **The step**: a request keeps the agreement exactly under its condition. -/
lemma keepsAgreement_iff (h : Settled env S) (hagrees : CacheAgrees env S)
    (input : Addr × Request) : KeepsAgreement env input S ↔ CacheAgrees env (S.step env input) := by
  obtain ⟨a, request⟩ := input
  cases request with
  | LOGIN req =>
      constructor
      · intro hkeeps
        by_cases haccepts : Accepts env (.working S.redis.db) req
        · obtain ⟨role, hrole⟩ := Option.ne_none_iff_exists'.mp haccepts.role
          exact (loginAgrees_iff h hagrees a haccepts hrole).mp (hkeeps role haccepts hrole)
        · intro addr u hu
          rcases (loggedIn_step_LOGIN_working h.working a addr req u).mp hu with
            hu | ⟨-, -, haccepts'⟩
          · rw [getRole_step_LOGIN_of_loggedIn h hagrees hu,
              db_step_LOGIN_refused h.working haccepts]
            exact hagrees addr u hu
          · exact absurd haccepts' haccepts
      · intro hafter role haccepts hrole
        exact (loginAgrees_iff h hagrees a haccepts hrole).mpr hafter
  | ERASE_ROLE req => exact eraseAgrees_iff h hagrees a req
  | REGISTER req => exact iff_of_true trivial (cacheAgrees_step_REGISTER h hagrees a req)
  | QUERY_TASK req =>
      refine iff_of_true trivial (cacheAgrees_step_task hagrees a ?_ fun role => id)
      rintro addr ⟨-, ⟨req', heq⟩ | ⟨req', heq⟩⟩ <;> cases heq
  | UPDATE_TASK req =>
      refine iff_of_true trivial (cacheAgrees_step_task hagrees a ?_ fun role => id)
      rintro addr ⟨-, ⟨req', heq⟩ | ⟨req', heq⟩⟩ <;> cases heq

/-! ### Runs -/

variable (env) in
/-- The push of a session's role changes nothing in the records of the accounts its
address has logged in to. -/
def PushKeeps (S : Server Addr) : Prop :=
  ∀ addr u role, LoggedIn S addr u → S.role_manager_.GetRole addr = some role →
    storedRole env ((RoleinfoManager.PushRoleToDB env role).run Redis.exec S.redis).2.db u
      = storedRole env S.redis.db u

omit [DecidableEq Addr] in
/-- Where the sessions agree with the store a push has nothing to change. -/
lemma CacheAgrees.pushKeeps (hagrees : CacheAgrees env S) (hw : S.redis.Working) :
    PushKeeps env S := by
  intro addr u role hu hheld
  have hrole : storedRole env S.redis.db u = some role := (hagrees addr u hu).symm.trans hheld
  rw [run_PushRoleToDB env (hw 0)]
  change storedRole env (Function.update S.redis.db _ _) u = _
  rw [storedRole_update_role]
  split_ifs with hname
  · exact hrole.symm
  · rfl

lemma settled_run (db : Bytes → Option Bytes) (inputs : List (Addr × Request)) :
    Settled env (Server.run env inputs (.start (.working db))) := by
  have hrun (S : Server Addr) (h : Settled env S) : Settled env (Server.run env inputs S) := by
    induction inputs generalizing S with
    | nil => exact h
    | cons input inputs ih => exact ih _ (h.step input)
  exact hrun _ (settled_start db)

variable (env)

/-- **Session cache and store**: in a run from any addresses over a working store, the role
of every address that has logged in to an account is the stored one in every state between
two requests, so that a push of it changes nothing there, exactly when every request of
the run meets its condition. -/
theorem cacheAgrees_iff (db : Bytes → Option Bytes) (inputs : List (Addr × Request)) :
    Run.Guarded (Server.step env) (KeepsAgreement env) inputs (.start (.working db))
      ↔ ∀ earlier later, inputs = earlier ++ later →
          CacheAgrees env (Server.run env earlier (.start (.working db))) ∧
            PushKeeps env (Server.run env earlier (.start (.working db))) := by
  rw [Run.guarded_iff_forall_of_invariant (J := Settled env) (I := CacheAgrees env)
    (fun input S hset => hset.step input)
    (fun input S hset hagrees => keepsAgreement_iff hset hagrees input) (settled_start db)
    (fun addr u hu => absurd hu (not_loggedIn_start _ addr u))]
  refine forall_congr' fun earlier => forall_congr' fun later => imp_congr_right fun _ => ?_
  exact (and_iff_left_of_imp fun h => h.pushKeeps (settled_run db earlier).working).symm

variable {env} in
/-- The first login of an account, from an address without a role, leaves the session
behind the store. -/
lemma not_cacheAgrees_first_login (h : Settled env S) (hagrees : CacheAgrees env S) {a : Addr}
    {req : LoginReq} {role : RoleInfo} (haccepts : Accepts env (.working S.redis.db) req)
    (hrole : storedRole env S.redis.db req.account = some role)
    (hfirst : role.basic_info.is_returning_visitor = false)
    (hname : c_str req.account = c_str role.basic_info.username)
    (hfree : S.role_manager_.GetRole a = none) :
    ¬ CacheAgrees env (S.step env (a, .LOGIN req)) := by
  rw [← loginAgrees_iff h hagrees a haccepts hrole]
  intro hlogin
  have hown := hlogin.own
  rw [if_pos ⟨hfirst, hname⟩, hfree] at hown
  cases hown

/-- An account is registered and logs in: its session is not marked as visited, its
record is. -/
theorem first_login_disagrees :
    ¬ CacheAgrees Env.wire (Server.run Env.wire
      [((0 : ℕ), .REGISTER { account := "a", password := "p" }),
        (0, .LOGIN { account := "a", password := "p" })] (.start (.working fun _ => none))) := by
  have hstart : Settled Env.wire (.start (.working fun _ => none) : Server ℕ) := settled_start _
  have hnobody : CacheAgrees Env.wire (.start (.working fun _ => none) : Server ℕ) :=
    fun addr u hu => absurd hu (not_loggedIn_start _ addr u)
  have hdb : (Server.step Env.wire (.start (.working fun _ => none))
        ((0 : ℕ), .REGISTER { account := "a", password := "p" })).redis.db
      = registered Env.wire { account := "a", password := "p" } 1 fun _ => none :=
    db_step_REGISTER_new (fun _ => rfl) rfl rfl 0
  have hpassword := registered_password Env.wire { account := "a", password := "p" } 1 fun _ => none
  have hrole := storedRole_registered Env.wire { account := "a", password := "p" } 1 fun _ => none
  rw [← hdb] at hpassword hrole
  have haccepts : Accepts Env.wire (.working (Server.step Env.wire
      (.start (.working fun _ => none))
        ((0 : ℕ), .REGISTER { account := "a", password := "p" })).redis.db)
      { account := "a", password := "p" } := by
    refine ⟨rfl, (congrArg (Option.map cstr) hpassword).trans (by decide), rfl, fun hnone => ?_⟩
    cases hrole.symm.trans hnone
  exact not_cacheAgrees_first_login (hstart.step _) (cacheAgrees_step_REGISTER hstart hnobody 0 _)
    haccepts hrole rfl rfl rfl

end LittleB
