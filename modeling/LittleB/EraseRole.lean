import LittleB.Service

/-!
Erasing a role.

* `run_EraseRoleService`: whose record the service writes;
* `ErasesRole`, `erasesRole_iff`: the record of the session's account is erased and
  no other key is touched, which is so only in the cases listed.
-/

namespace LittleB

variable (env : Env)

/-- The role is cleared before it is pushed, so it is pushed under the empty user
name. -/
lemma run_EraseRoleService {r : Redis} (h : r.outcome 0 = .ok) (role : RoleInfo)
    (request : EraseRoleReq) :
    (EraseRoleService env role request).run Redis.exec r
      = ((.answer request.rpcid .SUCCEED, {}),
          ⟨Function.update r.db (role_key "") (some (env.roleInfo.SerializeToString {})),
            r.later⟩) := by
  rw [EraseRoleService, Prog.run_bind, RoleInfo.clear_progress_clear_basic_info,
    run_PushRoleToDB env h]
  rfl

lemma run_EraseRoleService_error {r : Redis} {str : Bytes} (h : r.outcome 0 = .error str)
    (role : RoleInfo) (request : EraseRoleReq) :
    (EraseRoleService env role request).run Redis.exec r
      = ((.answer request.rpcid .UNKOWN_EORROR, {}), ⟨r.db, r.later⟩) := by
  rw [EraseRoleService, Prog.run_bind, RoleInfo.clear_progress_clear_basic_info,
    run_PushRoleToDB_error env h]
  rfl

/-- An erasure writes one key, whatever the role. -/
lemma run_ERASE_ROLE_db (role : RoleInfo) (request : EraseRoleReq) (r : Redis) :
    ((RunSyncService env .empty role (.ERASE_ROLE request)).run Redis.exec r).2.db
      = (Redis.exec (.set (role_key "") (env.roleInfo.SerializeToString {})) r).2.db := by
  rw [RunSyncService, Prog.run_bind, Redis.exec_set_db]
  cases h0 : r.outcome 0 with
  | ok => rw [run_EraseRoleService env h0, if_pos rfl]; rfl
  | error str => rw [run_EraseRoleService_error env h0, if_neg (by simp)]; rfl

/-- An erasure of the role of `username` does what it is for: when it is answered
`SUCCEED`, a pull of the role yields none or a cleared one, and every other key of
the store is as it was. -/
def ErasesRole (username : String) (r : Redis) (rsp : EraseRoleRsp)
    (db : Bytes → Option Bytes) : Prop :=
  rsp.error = ErrorCode.SUCCEED.number →
    (((RoleinfoManager.PullRoleInfoFromDB env username).run Redis.exec (.working db)).1 = none ∨
      ((RoleinfoManager.PullRoleInfoFromDB env username).run Redis.exec (.working db)).1
        = some {}) ∧
    ∀ key, key ≠ role_key username → db key = r.db key

/-- Nothing is left to erase: the store holds no role of the account or a cleared
one, and under the key without a name it holds a cleared role. -/
def NothingToErase (username : String) (db : Bytes → Option Bytes) : Prop :=
  (storedRole env db username = none ∨ storedRole env db username = some {}) ∧
    db (role_key "") = some (env.roleInfo.SerializeToString {})

/-- **Erasing a role**: the service erases the role of its session's account, and
nothing else, exactly when the store refuses the command, the account's name is the
empty C string, or nothing is left to erase. -/
theorem erasesRole_iff (role : RoleInfo) (request : EraseRoleReq) (r : Redis) :
    ErasesRole env role.basic_info.username r
        ((EraseRoleService env role request).run Redis.exec r).1.1
        ((EraseRoleService env role request).run Redis.exec r).2.db
      ↔ r.outcome 0 ≠ .ok ∨ c_str role.basic_info.username = [] ∨
        NothingToErase env role.basic_info.username r.db := by
  generalize role.basic_info.username = username
  cases h0 : r.outcome 0 with
  | error str =>
      rw [run_EraseRoleService_error env h0]
      refine iff_of_true (fun hs => ?_) (.inl (by simp))
      exact absurd hs (by simp [EraseRoleRsp.answer])
  | ok =>
      rw [run_EraseRoleService env h0]
      simp only [ErasesRole, run_PullRoleInfoFromDB env (r := .working _) rfl, ne_eq,
        not_true_eq_false, false_or]
      have hempty : c_str username = [] ↔ role_key username = role_key "" := by
        rw [role_key_inj]
        rfl
      have hanswer : (EraseRoleRsp.answer request.rpcid .SUCCEED).error
          = ErrorCode.SUCCEED.number := rfl
      rw [hempty, NothingToErase]
      by_cases hkey : role_key username = role_key ""
      · -- the key written is the key of the account
        refine iff_of_true (fun _ => ⟨.inr ?_, fun key hne => ?_⟩) (.inl hkey)
        · exact (storedRole_update_role r.db {} username "").trans (if_pos (role_key_inj.mp hkey))
        · exact Function.update_of_ne (by rwa [← hkey]) _ _
      · have hsame : storedRole env (Function.update r.db (role_key "")
            (some (env.roleInfo.SerializeToString {}))) username
              = storedRole env r.db username := storedRole_update_of_ne r.db _ hkey
        constructor
        · intro herases
          obtain ⟨hgone, hrest⟩ := herases hanswer
          have hnameless := hrest (role_key "") (Ne.symm hkey)
          rw [Function.update_self] at hnameless
          exact .inr ⟨hsame ▸ hgone, hnameless.symm⟩
        · rintro (heq | ⟨hgone, hnameless⟩) _
          · exact absurd heq hkey
          · refine ⟨?_, fun key _ => ?_⟩
            · rw [← hsame] at hgone
              exact hgone
            · by_cases hk : key = role_key ""
              · rw [hk, Function.update_self, hnameless]
              · exact Function.update_of_ne hk _ _

/-- The role that `prepareAndCheck` of `minigame_sever_main.cpp` stores. -/
def seededRole : RoleInfo :=
  { basic_info_ := some { player_id := 31, username := "hello" }
    progress_ := some { main_task_id := 99 } }

/-- The store with that role. -/
def seededStore : Redis :=
  .working (Function.update (fun _ => none) (role_key "hello")
    (some (Env.wire.roleInfo.SerializeToString seededRole)))

/-- The session of that account erases its role, is answered `SUCCEED`, and the
record is still there. -/
theorem erase_seeded_role :
    ¬ ErasesRole Env.wire seededRole.basic_info.username seededStore
      ((EraseRoleService Env.wire seededRole {}).run Redis.exec seededStore).1.1
      ((EraseRoleService Env.wire seededRole {}).run Redis.exec seededStore).2.db := by
  intro herases
  rw [run_EraseRoleService Env.wire rfl] at herases
  obtain ⟨hgone, -⟩ := herases rfl
  have hne : role_key "hello" ≠ role_key "" := by decide
  have hstored : storedRole Env.wire (Function.update seededStore.db (role_key "")
      (some (Env.wire.roleInfo.SerializeToString {}))) "hello" = some seededRole :=
    calc storedRole Env.wire (Function.update seededStore.db (role_key "")
            (some (Env.wire.roleInfo.SerializeToString {}))) "hello"
        = storedRole Env.wire seededStore.db "hello" := storedRole_update_of_ne _ _ hne
      _ = some seededRole :=
          (storedRole_update_role _ seededRole "hello" "hello").trans (if_pos rfl)
  have hpull : ((RoleinfoManager.PullRoleInfoFromDB Env.wire "hello").run Redis.exec
      (.working (Function.update seededStore.db (role_key "")
        (some (Env.wire.roleInfo.SerializeToString {}))))).1 = some seededRole := by
    rw [run_PullRoleInfoFromDB Env.wire rfl]
    exact hstored
  rcases hgone with hnone | hcleared
  · exact absurd (hpull.symm.trans hnone) (by simp)
  · exact absurd (hpull.symm.trans hcleared) (by decide)

end LittleB
