import LittleB.TaskErrors

/-!
What an update of tasks leaves in the store.

* `TaskUpdate`, `TaskUpdate_answer`, `TaskUpdate_db`: an update over any manager, whatever
  the store answers;
* `Durable`, `durable_iff`: an answer `SUCCEED` does not mean that the record is
  stored, since the outcome of the write is not looked at;
* `latestUpdate`, `position_roundTrip_iff`: a query answers the position of the latest
  update with the fractions cut off.
-/

namespace LittleB

open Bytes

variable (env : Env)

/-! ### Acknowledged updates -/

/-- The record an update goes on with: the one in memory, or what the read yields. -/
def cachedInfo (task_manager : TaskDataManager) (gid : Int32) (r : Redis) : DBTaskInfo :=
  (task_manager.task_infos_ gid).getD (UpdatePoint.pulledInfo env (taskinfoReply r gid))

/-- The number of the command that writes the record: a record in memory is not read. -/
def recordWrite (task_manager : TaskDataManager) (gid : Int32) : ℕ :=
  if task_manager.TaskInfoExist gid then 0 else 1

/-- The service of an update, constructed over a manager. -/
abbrev TaskUpdate (task_manager : TaskDataManager) (role : RoleInfo) (request : TaskUpdateReq) :
    Prog RedisSig TaskUpdateRsp :=
  SyncServiceClassDecorator TaskUpdateService.mk (TaskUpdateService.call env) task_manager role
    request

/-- An update of a record in memory is one command. -/
lemma run_TaskUpdateService_cached {task_manager : TaskDataManager} {role : RoleInfo}
    {info : DBTaskInfo} (hinfo : task_manager.task_infos_ role.basic_info.player_id = some info)
    (request : TaskUpdateReq) (r : Redis) :
    (TaskUpdate env task_manager role request).run Redis.exec r
      = (.answer request.rpcid .SUCCEED,
          (Redis.exec (.set (taskinfo_key role.basic_info.player_id)
            (env.dbTaskInfo.SerializeToString (info.update env request))) r).2) := by
  have hexist : task_manager.TaskInfoExist role.basic_info.player_id = true := by
    rw [TaskDataManager.TaskInfoExist, hinfo]
    rfl
  have hget : task_manager.GetTaskInfo role.basic_info.player_id = (info, task_manager) := by
    rw [TaskDataManager.GetTaskInfo, hinfo]
  simp only [TaskUpdate, SyncServiceClassDecorator, TaskUpdateService.call, hexist, if_true, hget,
    Prog.pure_eq, Prog.ret_bind, TaskDataManager.PushTaskInfoToDB_put]
  rfl

/-- An update of a record that is not in memory reads it first. -/
lemma run_TaskUpdateService_pulled {task_manager : TaskDataManager} {role : RoleInfo}
    (hinfo : task_manager.task_infos_ role.basic_info.player_id = none)
    (request : TaskUpdateReq) (r : Redis) :
    (TaskUpdate env task_manager role request).run Redis.exec r
      = (.answer request.rpcid .SUCCEED,
          (Redis.exec (.set (taskinfo_key role.basic_info.player_id)
            (env.dbTaskInfo.SerializeToString ((UpdatePoint.pulledInfo env
              (taskinfoReply r role.basic_info.player_id)).update env request)))
            ⟨r.db, r.later⟩).2) := by
  have hexist : task_manager.TaskInfoExist role.basic_info.player_id = false := by
    rw [TaskDataManager.TaskInfoExist, hinfo]
    rfl
  have hget : task_manager.GetTaskInfo role.basic_info.player_id
      = ({}, task_manager.put role.basic_info.player_id {}) := by
    rw [TaskDataManager.GetTaskInfo, hinfo]
  simp only [TaskUpdate, SyncServiceClassDecorator, TaskUpdateService.call, hexist,
    Bool.false_eq_true, if_false, Prog.run_bind, run_PullTaskInfoFromDB env hexist]
  by_cases hnil : (taskinfoReply r role.basic_info.player_id).type = .REDIS_REPLY_NIL
  · have hpulled : UpdatePoint.pulledInfo env (taskinfoReply r role.basic_info.player_id) = {} :=
      if_pos hnil
    rw [hpulled]
    simp only [hnil, if_true, Prog.pure_eq, Prog.run_ret, hget, TaskDataManager.put_put,
      TaskDataManager.PushTaskInfoToDB_put]
    rfl
  · have hpulled : UpdatePoint.pulledInfo env (taskinfoReply r role.basic_info.player_id)
        = (env.dbTaskInfo.ParseFromArray (taskinfoReply r role.basic_info.player_id).str).2 :=
      if_neg hnil
    rw [hpulled]
    simp only [hnil, if_false, Prog.pure_eq, Prog.run_ret, TaskDataManager.GetTaskInfo_put,
      TaskDataManager.put_put, TaskDataManager.PushTaskInfoToDB_put]
    rfl

/-- The response to an update is `SUCCEED`, whatever the store answers. -/
lemma TaskUpdate_answer (task_manager : TaskDataManager) (role : RoleInfo)
    (request : TaskUpdateReq) (r : Redis) :
    ((TaskUpdate env task_manager role request).run Redis.exec r).1
      = .answer request.rpcid .SUCCEED := by
  cases hinfo : task_manager.task_infos_ role.basic_info.player_id with
  | none => rw [run_TaskUpdateService_pulled env hinfo]
  | some info => rw [run_TaskUpdateService_cached env hinfo]

/-- The store behind an update: the record with the request merged in, when the write is
executed. -/
lemma TaskUpdate_db (task_manager : TaskDataManager) (role : RoleInfo) (request : TaskUpdateReq)
    (r : Redis) :
    ((TaskUpdate env task_manager role request).run Redis.exec r).2.db
      = if r.outcome (recordWrite task_manager role.basic_info.player_id) = .ok then
          Function.update r.db (taskinfo_key role.basic_info.player_id)
            (some (env.dbTaskInfo.SerializeToString
              ((cachedInfo env task_manager role.basic_info.player_id r).update env request)))
        else r.db := by
  cases hinfo : task_manager.task_infos_ role.basic_info.player_id with
  | none =>
      have hwrite : recordWrite task_manager role.basic_info.player_id = 1 := by
        rw [recordWrite, TaskDataManager.TaskInfoExist, hinfo]
        rfl
      rw [run_TaskUpdateService_pulled env hinfo, Redis.exec_set_db, hwrite, cachedInfo, hinfo]
      rfl
  | some info =>
      have hwrite : recordWrite task_manager role.basic_info.player_id = 0 := by
        rw [recordWrite, TaskDataManager.TaskInfoExist, hinfo]
        rfl
      rw [run_TaskUpdateService_cached env hinfo, Redis.exec_set_db, hwrite, cachedInfo, hinfo]
      rfl

/-- An update answered `SUCCEED` marks the tasks of the request in the stored record, and
an update whose record is not stored is answered with an error. -/
structure Durable (task_manager : TaskDataManager) (role : RoleInfo) (request : TaskUpdateReq)
    (r : Redis) : Prop where
  marked : ((TaskUpdate env task_manager role request).run Redis.exec r).1.error
      = ErrorCode.SUCCEED.number →
    ∀ t ∈ request.finished_task_ids,
      t ∈ storedFinished env ((TaskUpdate env task_manager role request).run Redis.exec r).2.db
        role.basic_info.player_id
  refused : r.outcome (recordWrite task_manager role.basic_info.player_id) ≠ .ok →
    ((TaskUpdate env task_manager role request).run Redis.exec r).1.error
      ≠ ErrorCode.SUCCEED.number

/-- What the stored record marks behind an update. -/
lemma storedFinished_TaskUpdate (task_manager : TaskDataManager) (role : RoleInfo)
    (request : TaskUpdateReq) (r : Redis) :
    storedFinished env ((TaskUpdate env task_manager role request).run Redis.exec r).2.db
        role.basic_info.player_id
      = if r.outcome (recordWrite task_manager role.basic_info.player_id) = .ok then
          (cachedInfo env task_manager role.basic_info.player_id r).finished
            ∪ {t | t ∈ request.finished_task_ids}
        else storedFinished env r.db role.basic_info.player_id := by
  rw [TaskUpdate_db]
  split_ifs with hok
  · rw [storedFinished_update, DBTaskInfo.finished_update]
  · rfl

/-- **Acknowledged updates** are durable exactly when the command that writes the record
is executed: over any manager, store and request the answer is `SUCCEED`. -/
theorem durable_iff (task_manager : TaskDataManager) (role : RoleInfo) (request : TaskUpdateReq)
    (r : Redis) :
    Durable env task_manager role request r
      ↔ r.outcome (recordWrite task_manager role.basic_info.player_id) = .ok := by
  have hanswer := congrArg TaskUpdateRsp.error (TaskUpdate_answer env task_manager role request r)
  constructor
  · intro hdurable
    by_contra hrefused
    exact hdurable.refused hrefused hanswer
  · intro hok
    refine ⟨fun _ t ht => ?_, fun hrefused => absurd hok hrefused⟩
    rw [storedFinished_TaskUpdate, if_pos hok]
    exact .inr ht

/-- The write is answered with an error: the task is not in the store, and the answer is
`SUCCEED`. -/
theorem refused_update_acknowledged :
    ¬ Durable Env.wire .empty {} { finished_task_ids := [3] } ⟨fun _ => none, failsAt 1⟩ := by
  intro hdurable
  have hmarked := hdurable.marked (congrArg TaskUpdateRsp.error (TaskUpdate_answer _ _ _ _ _)) 3
    (List.mem_singleton_self 3)
  rw [storedFinished_TaskUpdate, if_neg fun h => Outcome.noConfusion h] at hmarked
  rw [storedFinished, storedTaskInfo, Option.map_none, Option.getD_none,
    DBTaskInfo.finished_empty] at hmarked
  exact hmarked

/-! ### Positions -/

/-- A number that an `int32` holds exactly. -/
def FitsInt32 (q : ℚ) : Prop := ∃ n : ℤ, q = n ∧ -2 ^ 31 ≤ n ∧ n < 2 ^ 31

@[simp] lemma Double.truncate_intCast (n : ℤ) : truncate n = n := by
  rw [truncate, Int.floor_intCast, Int.ceil_intCast, ite_self]

/-- A number goes through an `int32` unchanged exactly when that holds it. -/
lemma Double.ofInt32_toInt32 (other : Double → Int32) (q : ℚ) :
    ofInt32 ((finite q).toInt32 other) = finite q ↔ FitsInt32 q := by
  constructor
  · intro heq
    have hq : (((finite q).toInt32 other).toInt : ℚ) = q := finite.inj heq
    exact ⟨_, hq.symm, Int32.le_toInt _, Int32.toInt_lt _⟩
  · rintro ⟨n, rfl, hlow, hhigh⟩
    have hn : (finite n).toInt32 other = Int32.ofInt n := by
      rw [toInt32, truncate_intCast, if_pos ⟨hlow, hhigh⟩]
    have hround : (Int32.ofInt n).toInt = n := Int32.toInt_ofInt_of_le hlow hhigh
    rw [hn, ofInt32, hround]

/-- The latest update of every player. -/
abbrev LatestUpdate := Int32 → Option TaskUpdateReq

/-- What a request does to the latest updates. -/
def LatestUpdate.apply (m : LatestUpdate) : TaskCall → LatestUpdate
  | .update role request => Function.update m role.basic_info.player_id (some request)
  | .query _ _ => m

/-- The latest update of a player in a run. -/
def latestUpdate (calls : List TaskCall) : LatestUpdate :=
  calls.foldl LatestUpdate.apply fun _ => none

/-- The record of a player holds the position of an update, as far as an `int32` does. -/
def HoldsPosition (info : DBTaskInfo) (request : TaskUpdateReq) : Prop :=
  info.position_x = request.position_x.toInt32 env.outOfRange ∧
    info.position_y = request.position_y.toInt32 env.outOfRange

/-- The store holds the positions of the latest updates. -/
def StoresPositions (db : Bytes → Option Bytes) (m : LatestUpdate) : Prop :=
  ∀ g request, m g = some request →
    ∃ info, storedTaskInfo env db g = some info ∧ HoldsPosition env info request

/-- An updated record holds the position, also when it has been stored and read back. -/
lemma holdsPosition_update (info : DBTaskInfo) (request : TaskUpdateReq) :
    HoldsPosition env (env.dbTaskInfo.ParseFromArray
      (env.dbTaskInfo.SerializeToString (info.update env request))).2 request := by
  obtain ⟨-, hx, hy⟩ := (env.dbTaskInfo.parse_serialize (info.update env request)).2
  exact ⟨hx, hy⟩

/-- One request keeps the positions of the latest updates in the store. -/
lemma storesPositions_step {db : Bytes → Option Bytes} {m : LatestUpdate}
    (h : StoresPositions env db m) (c : TaskCall) :
    ∃ db', ((RunSyncService env .empty c.role c.request).run Redis.exec (.working db)).2
        = .working db' ∧ StoresPositions env db' (m.apply c) := by
  cases c with
  | query role request =>
      refine ⟨db, ?_, h⟩
      rw [TaskCall.role, TaskCall.request, run_QUERY_TASK]
  | update role request =>
      refine ⟨_, by rw [TaskCall.role, TaskCall.request, run_UPDATE_TASK], fun g latest hg => ?_⟩
      rw [LatestUpdate.apply] at hg
      by_cases hgid : g = role.basic_info.player_id
      · subst hgid
        rw [Function.update_self] at hg
        obtain rfl := Option.some.inj hg
        rw [storedTaskInfo, Function.update_self, Option.map_some]
        exact ⟨_, rfl, holdsPosition_update env _ _⟩
      · rw [Function.update_of_ne hgid] at hg
        rw [storedTaskInfo, Function.update_of_ne (taskinfo_key_inj.not.mpr hgid)]
        exact h g latest hg

/-- The run lemma: any requests keep the positions of the latest updates in the store. -/
lemma storesPositions_run (calls : List TaskCall) {db : Bytes → Option Bytes} {m : LatestUpdate}
    (h : StoresPositions env db m) :
    ∃ db', (runTasks env .empty calls (.working db)).2 = .working db' ∧
      StoresPositions env db' (calls.foldl LatestUpdate.apply m) := by
  induction calls generalizing db m with
  | nil => exact ⟨db, rfl, h⟩
  | cons c calls ih =>
      obtain ⟨db₁, hrun, h₁⟩ := storesPositions_step env h c
      obtain ⟨db₂, hrest, h₂⟩ := ih h₁
      refine ⟨db₂, ?_, h₂⟩
      rw [runTasks]
      simp only [hrun, hrest]

/-- A query behind an update of the player is answered with the position of the latest one,
as far as an `int32` holds it. -/
lemma query_latestUpdate (db : Bytes → Option Bytes) {earlier : List TaskCall}
    (rest : List TaskCall) {role : RoleInfo} (request : TaskQueryReq) {latest : TaskUpdateReq}
    (hlatest : latestUpdate earlier role.basic_info.player_id = some latest) :
    ∃ rsp, (runTasks env .empty (earlier ++ .query role request :: rest)
          (.working db)).1[earlier.length]? = some (.QUERY_TASK rsp) ∧
      rsp.error = ErrorCode.SUCCEED.number ∧
      rsp.position_x = .ofInt32 (latest.position_x.toInt32 env.outOfRange) ∧
      rsp.position_y = .ofInt32 (latest.position_y.toInt32 env.outOfRange) := by
  have h0 : StoresPositions env db fun _ => none := fun g latest hg => by cases hg
  obtain ⟨db', hrun, hstores⟩ := storesPositions_run env earlier h0
  obtain ⟨info, hinfo, hposx, hposy⟩ := hstores _ _ hlatest
  rw [getElem?_runTasks, hrun, TaskCall.role, TaskCall.request, run_QUERY_TASK]
  simp only [hinfo]
  exact ⟨_, rfl, rfl, congrArg Double.ofInt32 hposx, congrArg Double.ofInt32 hposy⟩

/-- **Positions**: behind an update of the player with a finite position, a query is
answered `SUCCEED`, and with the position of the latest update exactly when both
coordinates are integers in the range of an `int32`. -/
theorem position_roundTrip_iff (db : Bytes → Option Bytes) (earlier rest : List TaskCall)
    (role : RoleInfo) (request : TaskQueryReq) (latest : TaskUpdateReq) (x y : ℚ)
    (hlatest : latestUpdate earlier role.basic_info.player_id = some latest)
    (hx : latest.position_x = .finite x) (hy : latest.position_y = .finite y) :
    ∃ rsp, (runTasks env .empty (earlier ++ .query role request :: rest)
          (.working db)).1[earlier.length]? = some (.QUERY_TASK rsp) ∧
      rsp.error = ErrorCode.SUCCEED.number ∧
      (rsp.position_x = latest.position_x ∧ rsp.position_y = latest.position_y
        ↔ FitsInt32 x ∧ FitsInt32 y) := by
  obtain ⟨rsp, hrsp, hsucceed, hposx, hposy⟩ := query_latestUpdate env db rest request hlatest
  refine ⟨rsp, hrsp, hsucceed, and_congr ?_ ?_⟩
  · rw [hposx, hx, Double.ofInt32_toInt32]
  · rw [hposy, hy, Double.ofInt32_toInt32]

/-- A position of integers, behind updates of two players. -/
theorem position_roundTrip_integers :
    ∃ rsp, (runTasks Env.wire .empty ([.update {} { position_x := .finite 3 },
          .update { basic_info_ := some { player_id := 7 } } {}] ++ .query {} {} :: [])
          (.working fun _ => none)).1[2]? = some (.QUERY_TASK rsp) ∧
      rsp.error = ErrorCode.SUCCEED.number ∧
      (rsp.position_x = .finite 3 ∧ rsp.position_y = .finite 0 ↔ FitsInt32 3 ∧ FitsInt32 0) :=
  position_roundTrip_iff Env.wire (fun _ => none) [.update {} { position_x := .finite 3 },
    .update { basic_info_ := some { player_id := 7 } } {}] [] {} {}
    { position_x := .finite 3 } 3 0 rfl rfl rfl

/-- The half of a unit is cut off. -/
theorem position_half_truncated :
    ∃ rsp, (runTasks Env.wire .empty [.update {} { position_x := .finite (1 / 2) }, .query {} {}]
          (.working fun _ => none)).1[1]? = some (.QUERY_TASK rsp) ∧
      rsp.error = ErrorCode.SUCCEED.number ∧ rsp.position_x ≠ .finite (1 / 2) := by
  have hlatest : latestUpdate [.update {} { position_x := .finite (1 / 2) }]
      ({} : RoleInfo).basic_info.player_id = some { position_x := .finite (1 / 2) } := rfl
  obtain ⟨rsp, hrsp, hsucceed, hposx, -⟩ :=
    query_latestUpdate Env.wire (fun _ => none) [] {} hlatest
  refine ⟨rsp, hrsp, hsucceed, fun hhalf => ?_⟩
  have hfits : FitsInt32 (1 / 2) := (Double.ofInt32_toInt32 _ _).mp (hposx.symm.trans hhalf)
  obtain ⟨n, hn, -, -⟩ := hfits
  have htwo : (1 : ℚ) = (2 * n : ℤ) := by
    push_cast
    linarith
  have hodd : (1 : ℤ) = 2 * n := by exact_mod_cast htwo
  omega

end LittleB
