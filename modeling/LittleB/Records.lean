import LittleB.Writes

/-!
The role records of a working store, one request after the other.

* `RoleInfo.visited_eq_self`: a role that carries the mark of a login already;
* `NamedRecords`, `namedRecords_step`: every record lies under the name inside it, which
  every request keeps;
* `password_step`, `storedRole_step`: what is there stays there;
* `db_step_LOGIN_of_accepts`, `storedRole_markedStore_of_name`: what a login does to the
  records;
* `db_step_REGISTER_known`, `db_step_REGISTER_new`: what a registration does.
-/

namespace LittleB

open Bytes

variable (env : Env) {Addr : Type} [DecidableEq Addr]

/-! ### The mark of a login -/

namespace RoleInfo

/-- A role that carries the mark is not changed by another login. -/
lemma visited_eq_self {role : RoleInfo} (h : role.basic_info.is_returning_visitor = true) :
    role.visited = role := by
  obtain ⟨basic, progress⟩ := role
  cases basic with
  | none => exact absurd h Bool.false_ne_true
  | some b =>
      obtain ⟨id, returning, name⟩ := b
      obtain rfl : returning = true := h
      rfl

@[simp] lemma visited_player_id (role : RoleInfo) :
    role.visited.basic_info.player_id = role.basic_info.player_id := rfl

@[simp] lemma visited_username (role : RoleInfo) :
    role.visited.basic_info.username = role.basic_info.username := rfl

@[simp] lemma visited_is_returning_visitor (role : RoleInfo) :
    role.visited.basic_info.is_returning_visitor = true := rfl

end RoleInfo

/-! ### What stays -/

/-- A password that is there stays. -/
lemma password_step {S : Server Addr} {username : String} {value : Bytes}
    (h : S.redis.db (password_key username) = some value) (addr : Addr) (request : Request) :
    (S.step env (addr, request)).redis.db (password_key username) = some value := by
  rcases (step_written env S addr request (password_key username)).password_cases with
    hkept | ⟨req, -, -, hnew⟩
  · rw [hkept, h]
  · exact absurd (h.symm.trans hnew) (by simp)

/-- A role that is there is replaced by roles only. -/
lemma storedRole_step {S : Server Addr} {username : String}
    (h : storedRole env S.redis.db username ≠ none) (addr : Addr) (request : Request) :
    storedRole env (S.step env (addr, request)).redis.db username ≠ none := by
  rcases (step_written env S addr request (role_key username)).role_cases with
    hkept | ⟨role, hrole, -, -⟩
  · rw [storedRole, hkept]
    exact h
  · rw [storedRole, hrole, Option.bind_some, decodeRole_serialize]
    exact Option.some_ne_none role

/-! ### Names -/

/-- Every record lies under the name inside it. -/
def NamedRecords (db : Bytes → Option Bytes) : Prop :=
  ∀ u role, storedRole env db u = some role → c_str role.basic_info.username = c_str u

lemma namedRecords_empty : NamedRecords env fun _ => none := by
  intro u role hrole
  cases hrole

variable {env}

/-- Every request keeps the records under their names. -/
lemma namedRecords_step {S : Server Addr} (h : NamedRecords env S.redis.db)
    (input : Addr × Request) : NamedRecords env (S.step env input).redis.db := by
  intro u role hrole
  rw [storedRole] at hrole
  rcases (step_written env S input.1 input.2 (role_key u)).role_cases with
    hkept | ⟨written, hnew, hname, -⟩
  · rw [hkept] at hrole
    exact h u role hrole
  · rw [hnew, Option.bind_some, decodeRole_serialize] at hrole
    obtain rfl := Option.some.inj hrole
    exact hname.symm

/-! ### Logins -/

omit [DecidableEq Addr] in
lemma Server.behindPull_eq {S : Server Addr} (hw : S.redis.Working) :
    S.behindPull = .working S.redis.db := by
  rw [Server.behindPull]
  exact Redis.ext rfl (funext fun n => hw (n + 1))

/-- The roles behind a login: the marked one is pushed under the name inside it. -/
lemma storedRole_markedStore_of_name (r : Redis) (role : RoleInfo) (u : String) :
    storedRole env (markedStore env r role) u
      = if (role.basic_info.is_returning_visitor = false ∧ r.outcome 2 = .ok) ∧
            c_str u = c_str role.basic_info.username then
          some role.visited
        else storedRole env r.db u := by
  rw [markedStore]
  by_cases hpush : role.basic_info.is_returning_visitor = false ∧ r.outcome 2 = .ok
  · rw [if_pos hpush, storedRole_update_role]
    exact if_congr (and_iff_right hpush).symm rfl rfl
  · rw [if_neg hpush, if_neg fun h => hpush h.1]

/-- The same, where the record lies under its name. -/
lemma storedRole_markedStore {db : Bytes → Option Bytes} {account : String} {role : RoleInfo}
    (hname : c_str role.basic_info.username = c_str account)
    (hrole : storedRole env db account = some role) (u : String) :
    storedRole env (markedStore env (.working db) role) u
      = if c_str u = c_str account then some role.visited else storedRole env db u := by
  have hdb : (Redis.working db).db = db := rfl
  rw [storedRole_markedStore_of_name, hname, hdb]
  by_cases hu : c_str u = c_str account
  · rw [if_pos hu, storedRole_congr hu db, hrole]
    by_cases hfirst : role.basic_info.is_returning_visitor = false
    · rw [if_pos ⟨⟨hfirst, rfl⟩, hu⟩]
    · rw [if_neg fun h => hfirst h.1.1, RoleInfo.visited_eq_self (Bool.not_eq_false _ ▸ hfirst)]
  · rw [if_neg hu, if_neg fun h => hu h.2]

/-- A login writes roles only. -/
lemma markedStore_of_ne {key : Bytes} (hkey : ∀ u, key ≠ role_key u) (r : Redis)
    (role : RoleInfo) : markedStore env r role key = r.db key := by
  rw [markedStore]
  split_ifs with hpush
  · exact Function.update_of_ne (hkey _) _ _
  · rfl

variable {S : Server Addr}

/-- A login that is not let in leaves the store as it is. -/
lemma db_step_LOGIN_of_not_accepts {req : LoginReq} (h : ¬ Accepts env S.behindPull req)
    (addr : Addr) : (S.step env (addr, .LOGIN req)).redis.db = S.redis.db := by
  rw [S.redis_step_LOGIN]
  have hsucceed := (login_succeed_iff env req S.behindPull).not.mpr h
  have hend := login_end env req S.behindPull
  generalize ((MinigameFakeLoginService env req).run Redis.exec S.behindPull).1 = rsp
    at hend hsucceed
  generalize ((MinigameFakeLoginService env req).run Redis.exec S.behindPull).2.db = db
    at hend ⊢
  cases hend with
  | unregistered _ => rfl
  | wrong _ _ _ _ => rfl
  | roleless _ _ _ _ _ => rfl
  | accepted _ _ _ _ _ _ _ => exact absurd rfl hsucceed

/-- A login that is let in marks the role of its account. -/
lemma db_step_LOGIN_of_accepts {req : LoginReq} {role : RoleInfo}
    (h : Accepts env S.behindPull req)
    (hrole : storedRole env S.redis.db req.account = some role) (addr : Addr) :
    (S.step env (addr, .LOGIN req)).redis.db = markedStore env S.behindPull role := by
  rw [S.redis_step_LOGIN]
  exact (login_end_accepts env h hrole).2

lemma db_step_LOGIN_refused (hw : S.redis.Working) {req : LoginReq}
    (h : ¬ Accepts env (.working S.redis.db) req) (addr : Addr) :
    (S.step env (addr, .LOGIN req)).redis.db = S.redis.db := by
  rw [← Server.behindPull_eq hw] at h
  exact db_step_LOGIN_of_not_accepts h addr

lemma db_step_LOGIN_accepted (hw : S.redis.Working) {req : LoginReq} {role : RoleInfo}
    (h : Accepts env (.working S.redis.db) req)
    (hrole : storedRole env S.redis.db req.account = some role) (addr : Addr) :
    (S.step env (addr, .LOGIN req)).redis.db = markedStore env (.working S.redis.db) role := by
  rw [← Server.behindPull_eq hw] at h ⊢
  exact db_step_LOGIN_of_accepts h hrole addr

/-- A login leaves what is no role as it is. -/
lemma db_step_LOGIN_of_ne {key : Bytes} (hkey : ∀ u, key ≠ role_key u) (addr : Addr)
    (req : LoginReq) : (S.step env (addr, .LOGIN req)).redis.db key = S.redis.db key := by
  have hwritten := step_written env S addr (.LOGIN req) key
  generalize (S.step env (addr, .LOGIN req)).redis.db key = after at hwritten ⊢
  cases hwritten with
  | kept _ => rfl
  | visited _ role _ hrole => exact absurd hrole (hkey _)

/-! ### Registrations -/

/-- A registration of a name with a password leaves the store as it is. -/
lemma db_step_REGISTER_known {req : RegisterReq} (h : S.redis.db (password_key req.account) ≠ none)
    (addr : Addr) : (S.step env (addr, .REGISTER req)).redis.db = S.redis.db := by
  rw [S.step_REGISTER]
  have hend := register_end env req S.redis
  generalize ((MinigameRegisterService env req).run Redis.exec S.redis).1 = rsp at hend
  change ((MinigameRegisterService env req).run Redis.exec S.redis).2.db = _
  generalize ((MinigameRegisterService env req).run Redis.exec S.redis).2.db = db at hend ⊢
  cases hend with
  | refused _ => rfl
  | unstored _ hnew _ => exact absurd hnew h
  | uncounted _ hnew _ _ => exact absurd hnew h
  | roleless _ _ hnew _ _ _ _ => exact absurd hnew h
  | stored _ _ hnew _ _ _ _ => exact absurd hnew h

/-- A registration of a new name goes through, while the counter has room. -/
lemma db_step_REGISTER_new (hw : S.redis.Working) {req : RegisterReq} {gid : Int64}
    (hnew : S.redis.db (password_key req.account) = none)
    (hgid : Redis.incremented S.redis.db gid_key = some gid) (addr : Addr) :
    (S.step env (addr, .REGISTER req)).redis.db = registered env req gid S.redis.db := by
  rw [S.step_REGISTER]
  have hend := register_end env req S.redis
  generalize ((MinigameRegisterService env req).run Redis.exec S.redis).1 = rsp at hend
  change ((MinigameRegisterService env req).run Redis.exec S.redis).2.db = _
  generalize ((MinigameRegisterService env req).run Redis.exec S.redis).2.db = db at hend ⊢
  cases hend with
  | refused h => exact absurd hnew (h (hw 0))
  | unstored _ _ h1 => exact absurd (hw 1) h1
  | uncounted _ _ _ h2 =>
      rcases h2 with h2 | hnone
      · exact absurd (hw 2) h2
      · rw [hgid] at hnone
        cases hnone
  | roleless _ _ _ _ _ _ h3 => exact absurd (hw 3) h3
  | stored gid' _ _ _ _ hgid' _ =>
      obtain rfl := Option.some.inj (hgid.symm.trans hgid')
      rfl

end LittleB
