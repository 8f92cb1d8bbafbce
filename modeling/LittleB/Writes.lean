import LittleB.EraseRole
import LittleB.Registration
import LittleB.Sessions
import LittleB.Tasks

/-!
What one request can do to the store.

* `Written`: the ways a request can leave a key, with what it writes there;
* `step_written`: every request leaves every key in one of these ways,
  `db_step_taskinfo` most of them the task records;
* `Written.password_cases`, `Written.role_cases`, `Written.gid_cases`: what that is for the
  keys of each family.
-/

namespace LittleB

open Bytes

variable (env : Env) {Addr : Type} [DecidableEq Addr]

/-- How a request leaves the value under a key. -/
inductive Written (db : Bytes → Option Bytes) (key : Bytes) : Request → Option Bytes → Prop
  | kept (request : Request) : Written db key request (db key)
  /-- The password of an account that had none. -/
  | password (req : RegisterReq) (hkey : key = password_key req.account) (hnew : db key = none) :
      Written db key (.REGISTER req) (some (c_str req.password))
  | counter (req : RegisterReq) (gid : Int64) (hkey : key = gid_key)
      (hgid : Redis.incremented db gid_key = some gid) :
      Written db key (.REGISTER req) (some (decimal gid.toInt))
  | role (req : RegisterReq) (gid : Int32) (hkey : key = role_key req.account) :
      Written db key (.REGISTER req)
        (some (env.roleInfo.SerializeToString (initialRole req.account gid)))
  /-- The role of the account, under the name inside it. -/
  | visited (req : LoginReq) (role : RoleInfo) (hrole : storedRole env db req.account = some role)
      (hkey : key = role_key role.basic_info.username) :
      Written db key (.LOGIN req) (some (env.roleInfo.SerializeToString role.visited))
  | task (req : TaskUpdateReq) (gid : Int32) (info : DBTaskInfo) (hkey : key = taskinfo_key gid) :
      Written db key (.UPDATE_TASK req) (some (env.dbTaskInfo.SerializeToString info))
  | erased (req : EraseRoleReq) (hkey : key = role_key "") :
      Written db key (.ERASE_ROLE req) (some (env.roleInfo.SerializeToString {}))

variable {env} in
/-- One key written over a store in which the key looked at was left in one of these ways. -/
lemma Written.update {db db' : Bytes → Option Bytes} {key written value : Bytes}
    {request : Request} (hkept : Written env db key request (db' key))
    (hwritten : key = written → Written env db key request (some value)) :
    Written env db key request (Function.update db' written (some value) key) := by
  by_cases hkey : key = written
  · rw [hkey, Function.update_self, ← hkey]
    exact hwritten hkey
  · rw [Function.update_of_ne hkey]
    exact hkept

lemma written_LOGIN (req : LoginReq) (r : Redis) (key : Bytes) :
    Written env r.db key (.LOGIN req)
      (((MinigameFakeLoginService env req).run Redis.exec r).2.db key) := by
  have hend := login_end env req r
  generalize ((MinigameFakeLoginService env req).run Redis.exec r).1 = rsp at hend
  generalize ((MinigameFakeLoginService env req).run Redis.exec r).2.db = db at hend ⊢
  cases hend with
  | unregistered _ => exact .kept _
  | wrong _ _ _ _ => exact .kept _
  | roleless _ _ _ _ _ => exact .kept _
  | accepted value role _ _ _ _ hrole =>
      rw [markedStore]
      split_ifs
      · exact .update (.kept _) (.visited req role hrole)
      · exact .kept _

lemma written_REGISTER (req : RegisterReq) (r : Redis) (key : Bytes) :
    Written env r.db key (.REGISTER req)
      (((MinigameRegisterService env req).run Redis.exec r).2.db key) := by
  have hpassword (hnew : r.db (password_key req.account) = none) :
      Written env r.db key (.REGISTER req) (withPassword req r.db key) :=
    .update (.kept _) fun hkey => .password req hkey (hkey ▸ hnew)
  have hcounter (hnew : r.db (password_key req.account) = none) {gid : Int64}
      (hgid : Redis.incremented r.db gid_key = some gid) :
      Written env r.db key (.REGISTER req)
        (Function.update (withPassword req r.db) gid_key (some (decimal gid.toInt)) key) :=
    .update (hpassword hnew) fun hkey => .counter req gid hkey hgid
  have hend := register_end env req r
  generalize ((MinigameRegisterService env req).run Redis.exec r).1 = rsp at hend
  generalize ((MinigameRegisterService env req).run Redis.exec r).2.db = db at hend ⊢
  cases hend with
  | refused _ => exact .kept _
  | unstored _ _ _ => exact .kept _
  | uncounted _ hnew _ _ => exact hpassword hnew
  | roleless gid _ hnew _ _ hgid _ => exact hcounter hnew hgid
  | stored gid _ hnew _ _ hgid _ => exact .update (hcounter hnew hgid) (.role req gid.toInt32)

/-- **What a request can do**: it leaves every key in one of the ways of `Written`. -/
theorem step_written (S : Server Addr) (addr : Addr) (request : Request) (key : Bytes) :
    Written env S.redis.db key request ((S.step env (addr, request)).redis.db key) := by
  cases request with
  | LOGIN req =>
      rw [S.redis_step_LOGIN]
      exact written_LOGIN env req S.behindPull key
  | REGISTER req =>
      rw [S.step_REGISTER]
      exact written_REGISTER env req S.redis key
  | QUERY_TASK req =>
      simp only [S.step_handedOn env (show (Request.QUERY_TASK req).handedOn from rfl),
        run_QUERY_TASK_reply]
      exact .kept _
  | UPDATE_TASK req =>
      simp only [S.step_handedOn env (show (Request.UPDATE_TASK req).handedOn from rfl),
        run_UPDATE_TASK_reply, Redis.exec_set_db]
      split_ifs
      · exact .update (.kept _) (.task req _ _)
      · exact .kept _
  | ERASE_ROLE req =>
      simp only [S.step_handedOn env (show (Request.ERASE_ROLE req).handedOn from rfl),
        run_ERASE_ROLE_db, Redis.exec_set_db]
      split_ifs
      · exact .update (.kept _) (.erased req)
      · exact .kept _

variable {env} in
/-- A request that is no update leaves the task records alone. -/
lemma db_step_taskinfo {S : Server Addr} {request : Request}
    (h : ∀ req, request ≠ .UPDATE_TASK req) (addr : Addr) (g : Int32) :
    (S.step env (addr, request)).redis.db (taskinfo_key g) = S.redis.db (taskinfo_key g) := by
  have hwritten := step_written env S addr request (taskinfo_key g)
  generalize (S.step env (addr, request)).redis.db (taskinfo_key g) = after at hwritten ⊢
  cases hwritten with
  | kept _ => rfl
  | password _ hkey _ => exact absurd hkey (taskinfo_key_ne_password_key _ _)
  | counter _ _ hkey _ => exact absurd hkey (taskinfo_key_ne_gid_key _)
  | role _ _ hkey => exact absurd hkey (taskinfo_key_ne_role_key _ _)
  | visited _ _ _ hkey => exact absurd hkey (taskinfo_key_ne_role_key _ _)
  | task req _ _ _ => exact absurd rfl (h req)
  | erased _ hkey => exact absurd hkey (taskinfo_key_ne_role_key _ _)

/-! ### The families of keys -/

section Families

variable {env} {db : Bytes → Option Bytes} {username : String} {request : Request}
  {after : Option Bytes}

/-- A password is written by a registration, and once. -/
lemma Written.password_cases (h : Written env db (password_key username) request after) :
    after = db (password_key username) ∨
      ∃ req, request = .REGISTER req ∧ c_str username = c_str req.account ∧
        db (password_key username) = none := by
  cases h with
  | kept _ => exact .inl rfl
  | password req hkey hnew => exact .inr ⟨req, rfl, password_key_inj.mp hkey, hnew⟩
  | counter _ _ hkey _ => exact absurd hkey (password_key_ne_gid_key _)
  | role _ _ hkey => exact absurd hkey (password_key_ne_role_key _ _)
  | visited _ _ _ hkey => exact absurd hkey (password_key_ne_role_key _ _)
  | task _ _ _ hkey => exact absurd hkey.symm (taskinfo_key_ne_password_key _ _)
  | erased _ hkey => exact absurd hkey (password_key_ne_role_key _ _)

/-- Whose role a request writes: of the account it registers, of the account it logs in,
and an erasure the empty one. -/
def RoleOf (env : Env) (db : Bytes → Option Bytes) (request : Request) (role : RoleInfo) :
    Prop :=
  match request with
  | .REGISTER req => role.basic_info.username = req.account
  | .LOGIN req => ∃ stored, storedRole env db req.account = some stored ∧ role = stored.visited
  | .ERASE_ROLE _ => role = {}
  | _ => False

/-- A role is written under the name inside it. -/
lemma Written.role_cases (h : Written env db (role_key username) request after) :
    after = db (role_key username) ∨
      ∃ role, after = some (env.roleInfo.SerializeToString role) ∧
        c_str username = c_str role.basic_info.username ∧ RoleOf env db request role := by
  cases h with
  | kept _ => exact .inl rfl
  | password _ hkey _ => exact absurd hkey.symm (password_key_ne_role_key _ _)
  | counter _ _ hkey _ => exact absurd hkey (role_key_ne_gid_key _)
  | role req gid hkey => exact .inr ⟨initialRole req.account gid, rfl, role_key_inj.mp hkey, rfl⟩
  | visited req role hrole hkey =>
      exact .inr ⟨role.visited, rfl, role_key_inj.mp hkey, role, hrole, rfl⟩
  | task _ _ _ hkey => exact absurd hkey.symm (taskinfo_key_ne_role_key _ _)
  | erased _ hkey => exact .inr ⟨{}, rfl, role_key_inj.mp hkey, rfl⟩

/-- The counter is incremented or left alone. -/
lemma Written.gid_cases (h : Written env db gid_key request after) :
    after = db gid_key ∨
      ∃ gid : Int64, Redis.incremented db gid_key = some gid ∧
        after = some (decimal gid.toInt) := by
  cases h with
  | kept _ => exact .inl rfl
  | password _ hkey _ => exact absurd hkey.symm (password_key_ne_gid_key _)
  | counter _ gid _ hgid => exact .inr ⟨gid, hgid, rfl⟩
  | role _ _ hkey => exact absurd hkey.symm (role_key_ne_gid_key _)
  | visited _ _ _ hkey => exact absurd hkey.symm (role_key_ne_gid_key _)
  | task _ _ _ hkey => exact absurd hkey.symm (taskinfo_key_ne_gid_key _)
  | erased _ hkey => exact absurd hkey.symm (role_key_ne_gid_key _)

end Families

end LittleB
