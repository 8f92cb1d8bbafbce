import LittleB.Service

/-!
The task services, one request after the other.

* `finished_update`, `mem_doneTasks`, `doneTasks_nodup`: what an update adds to a
  record and what a query reads from it;
* `run_UPDATE_TASK_reply`, `run_QUERY_TASK_reply`: one request, whatever the store
  answers; `run_UPDATE_TASK`, `run_QUERY_TASK`: one request in a working store;
* `storedFinished`: the tasks the stored record of a player marks `FINISH`;
* `Progress`, `Progress.apply`: the abstract map, the set of the finished tasks of
  every player that has ever updated, and what a request does to it; `Refines`
  connects a store to it;
* `runTasks`, `query_refines`: runs of requests, in which queries answer what the
  abstract map says.
-/

namespace LittleB

variable (env : Env)

/-! ### Task records -/

namespace DBTaskInfo

lemma lookup_foldl_finish (ids : List Int32) (tasks : TaskMap) (t : Int32) :
    (ids.foldl (fun tasks id => TaskMap.assign tasks id .FINISH) tasks).lookup t
      = if t ∈ ids then some .FINISH else tasks.lookup t := by
  induction ids generalizing tasks with
  | nil => simp
  | cons id ids ih =>
      rw [List.foldl_cons, ih, TaskMap.lookup_assign]
      by_cases hids : t ∈ ids
      · rw [if_pos hids, if_pos (List.mem_cons_of_mem _ hids)]
      rw [if_neg hids]
      by_cases ht : t = id
      · rw [if_pos ht, ht, if_pos List.mem_cons_self]
      · rw [if_neg ht, if_neg (by simp [ht, hids])]

/-- An update finishes the tasks of the request and none else. -/
lemma finished_update (info : DBTaskInfo) (request : TaskUpdateReq) :
    (info.update env request).finished = info.finished ∪ {t | t ∈ request.finished_task_ids} := by
  ext t
  rw [Set.mem_union, mem_finished, mem_finished, Set.mem_ofPred_eq, update, lookup_foldl_finish]
  by_cases h : t ∈ request.finished_task_ids
  · simp [h]
  · simp [h]

/-- A query reads the finished tasks. -/
lemma mem_doneTasks (info : DBTaskInfo) (t : Int32) : t ∈ info.doneTasks ↔ t ∈ info.finished := by
  rw [doneTasks, List.mem_map, mem_finished]
  constructor
  · rintro ⟨⟨id, s⟩, hmem, rfl⟩
    obtain ⟨hentry, hfinish⟩ := List.mem_filter.mp hmem
    obtain rfl : s = .FINISH := by simpa using hfinish
    exact (List.mem_dlookup_iff info.tasks.nodupKeys).mpr hentry
  · intro hlookup
    have hentry : Sigma.mk t ProgressState.FINISH ∈ info.tasks.entries :=
      (List.mem_dlookup_iff info.tasks.nodupKeys).mp hlookup
    exact ⟨_, List.mem_filter.mpr ⟨hentry, by simp⟩, rfl⟩

/-- A query reads every task once. -/
lemma doneTasks_nodup (info : DBTaskInfo) : info.doneTasks.Nodup := by
  have hsub : (info.tasks.entries.filter fun item => item.2 = .FINISH).Sublist info.tasks.entries :=
    List.filter_sublist
  exact info.tasks.nodupKeys.sublist hsub

end DBTaskInfo

/-! ### The control points of an update -/

/-- Where an update stands: before its read, before its write, or answered. -/
inductive UpdatePoint where
  | start
  | push (info : DBTaskInfo)
  | answered (rsp : TaskUpdateRsp)

namespace UpdatePoint

/-- The record an update goes on with after its read. -/
def pulledInfo (reply : Reply) : DBTaskInfo :=
  if reply.type = .REDIS_REPLY_NIL then {} else (env.dbTaskInfo.ParseFromArray reply.str).2

/-- The command issued at a point, and where its reply leads. -/
def next (role : RoleInfo) (request : TaskUpdateReq) :
    UpdatePoint → View RedisSig TaskUpdateRsp UpdatePoint
  | start => .ask (.get (taskinfo_key role.basic_info.player_id)) fun reply : Reply =>
      push ((pulledInfo env reply).update env request)
  | push info =>
      .ask (.set (taskinfo_key role.basic_info.player_id) (env.dbTaskInfo.SerializeToString info))
        fun _ => answered (.answer request.rpcid .SUCCEED)
  | answered rsp => .done rsp

/-- What is left of the service at a point. -/
def prog (role : RoleInfo) (request : TaskUpdateReq) : UpdatePoint → Prog RedisSig TaskUpdateRsp
  | start => SyncServiceClassDecorator TaskUpdateService.mk (TaskUpdateService.call env) .empty role
      request
  | push info => do
      let _ ← RedisCommand (.set (taskinfo_key role.basic_info.player_id)
        (env.dbTaskInfo.SerializeToString info))
      return .answer request.rpcid .SUCCEED
  | answered rsp => return rsp

/-- The points describe the service, constructed over an empty manager. -/
lemma describes (role : RoleInfo) (request : TaskUpdateReq) :
    Describes (next env role request) (prog env role request) := by
  intro p
  cases p with
  | answered rsp => rfl
  | push info => rfl
  | start =>
      refine congrArg (View.ask _) (funext fun reply => ?_)
      change Reply at reply
      change _ = prog env role request (push _)
      rw [prog, pulledInfo]
      by_cases hnil : reply.type = .REDIS_REPLY_NIL
      · simp only [hnil, if_true, Prog.bind, Prog.pure_eq, Prog.ret_bind,
          TaskDataManager.GetTaskInfo_empty, TaskDataManager.put_put,
          TaskDataManager.PushTaskInfoToDB_put]
        rfl
      · simp only [hnil, TaskDataManager.TaskInfoExist_empty, Bool.false_eq_true, if_false,
          Prog.bind, Prog.pure_eq, Prog.ret_bind, TaskDataManager.GetTaskInfo_put,
          TaskDataManager.put_put, TaskDataManager.PushTaskInfoToDB_put]
        rfl

end UpdatePoint

/-! ### One request -/

/-- The record an update goes on with is the stored one, or an empty one. -/
lemma pulledInfo_get (db : Bytes → Option Bytes) (gid : Int32) :
    UpdatePoint.pulledInfo env (Redis.perform (.get (taskinfo_key gid)) db).1
      = (storedTaskInfo env db gid).getD {} := by
  rw [storedTaskInfo, UpdatePoint.pulledInfo]
  cases hdb : db (taskinfo_key gid) with
  | none => rw [Redis.perform_get_none hdb]; rfl
  | some value => rw [Redis.perform_get_some hdb]; rfl

/-- The record of a player with an update merged in. -/
def updatedInfo (db : Bytes → Option Bytes) (gid : Int32) (request : TaskUpdateReq) : DBTaskInfo :=
  ((storedTaskInfo env db gid).getD {}).update env request

/-- One command of an update in a working store: the read, after which the request is
merged into the record, and the write. -/
inductive UpdateMove (gid : Int32) (request : TaskUpdateReq) (db : Bytes → Option Bytes) :
    UpdatePoint → Command → UpdatePoint → (Bytes → Option Bytes) → Prop
  | pull : UpdateMove gid request db .start (.get (taskinfo_key gid))
      (.push (updatedInfo env db gid request)) db
  | store (info : DBTaskInfo) : UpdateMove gid request db (.push info)
      (.set (taskinfo_key gid) (env.dbTaskInfo.SerializeToString info))
      (.answered (.answer request.rpcid .SUCCEED))
      (Function.update db (taskinfo_key gid) (some (env.dbTaskInfo.SerializeToString info)))

/-- Every command of an update is one of these moves. -/
lemma update_move {role : RoleInfo} {request : TaskUpdateReq} {p : UpdatePoint} {c : Command}
    {k : Reply → UpdatePoint} (hp : UpdatePoint.next env role request p = .ask c k)
    (db : Bytes → Option Bytes) :
    UpdateMove env role.basic_info.player_id request db p c (k (Redis.perform c db).1)
      (Redis.perform c db).2 := by
  cases p with
  | answered rsp => cases hp
  | start =>
      cases hp
      have hpulled := pulledInfo_get env db role.basic_info.player_id
      rw [Redis.perform_get_snd]
      simp only [hpulled]
      exact .pull
  | push info =>
      cases hp
      exact .store info

/-- An update over an empty cache: what the read was answered goes back with the
request merged in. -/
lemma run_UPDATE_TASK_reply (r : Redis) (role : RoleInfo) (request : TaskUpdateReq) :
    (RunSyncService env .empty role (.UPDATE_TASK request)).run Redis.exec r
      = ((.UPDATE_TASK (.answer request.rpcid .SUCCEED), role),
          (Redis.exec (.set (taskinfo_key role.basic_info.player_id)
            (env.dbTaskInfo.SerializeToString ((UpdatePoint.pulledInfo env
              (taskinfoReply r role.basic_info.player_id)).update env request)))
            ⟨r.db, r.later⟩).2) := by
  have hpoints := UpdatePoint.describes env role request
  change Prog.run Redis.exec (UpdatePoint.prog env role request .start >>= _) _ = _
  rw [Prog.run_bind, hpoints.run_ask Redis.exec rfl, Redis.exec_get_snd,
    hpoints.run_ask Redis.exec rfl]
  rfl

/-- A query over an empty cache: what the read was answered, as far as it parses. -/
lemma run_QUERY_TASK_reply (r : Redis) (role : RoleInfo) (request : TaskQueryReq) :
    (RunSyncService env .empty role (.QUERY_TASK request)).run Redis.exec r
      = ((.QUERY_TASK
            (if (taskinfoReply r role.basic_info.player_id).type = .REDIS_REPLY_NIL then
              .failure request.rpcid
            else .ofTaskInfo request.rpcid
              (env.dbTaskInfo.ParseFromArray
                (taskinfoReply r role.basic_info.player_id).str).2), role),
          ⟨r.db, r.later⟩) := by
  simp only [RunSyncService, SyncServiceClassDecorator, TaskQueryService.call, Prog.run_bind]
  rw [run_PullTaskInfoFromDB env (TaskDataManager.TaskInfoExist_empty _)]
  by_cases hnil : (taskinfoReply r role.basic_info.player_id).type = .REDIS_REPLY_NIL
  · simp only [hnil, if_true]
    rfl
  · simp only [hnil, if_false, TaskDataManager.GetTaskInfo_put]
    rfl

/-- In a working store an update stores the record with the request merged in. -/
lemma run_UPDATE_TASK (db : Bytes → Option Bytes) (role : RoleInfo) (request : TaskUpdateReq) :
    (RunSyncService env .empty role (.UPDATE_TASK request)).run Redis.exec (.working db)
      = ((.UPDATE_TASK (.answer request.rpcid .SUCCEED), role),
          .working (Function.update db (taskinfo_key role.basic_info.player_id)
            (some (env.dbTaskInfo.SerializeToString
              (updatedInfo env db role.basic_info.player_id request))))) := by
  rw [run_UPDATE_TASK_reply, taskinfoReply, Redis.exec_working, pulledInfo_get]
  rfl

/-- In a working store a query answers what is stored. -/
lemma run_QUERY_TASK (db : Bytes → Option Bytes) (role : RoleInfo) (request : TaskQueryReq) :
    (RunSyncService env .empty role (.QUERY_TASK request)).run Redis.exec (.working db)
      = ((.QUERY_TASK (match storedTaskInfo env db role.basic_info.player_id with
            | none => .failure request.rpcid
            | some info => .ofTaskInfo request.rpcid info), role), .working db) := by
  rw [run_QUERY_TASK_reply, taskinfoReply, Redis.exec_working, storedTaskInfo]
  cases hdb : db (taskinfo_key role.basic_info.player_id) with
  | none => rw [Redis.perform_get_none hdb]; rfl
  | some value => rw [Redis.perform_get_some hdb]; rfl

/-- The record stored by an update has the finished tasks of the one before and of
the request; the records of other players stay. -/
lemma map_finished_update (db : Bytes → Option Bytes) (gid g : Int32) (info : DBTaskInfo) :
    (storedTaskInfo env (Function.update db (taskinfo_key gid)
        (some (env.dbTaskInfo.SerializeToString info))) g).map DBTaskInfo.finished
      = Function.update (fun g => (storedTaskInfo env db g).map DBTaskInfo.finished) gid
          (some info.finished) g := by
  by_cases hg : g = gid
  · subst hg
    rw [storedTaskInfo, Function.update_self, Function.update_self, Option.map_some,
      Option.map_some, env.finished_parse_taskInfo]
  · rw [storedTaskInfo, Function.update_of_ne (taskinfo_key_inj.not.mpr hg),
      Function.update_of_ne hg, storedTaskInfo]

/-- The tasks that the stored record of a player marks `FINISH`. -/
def storedFinished (db : Bytes → Option Bytes) (gid : Int32) : Set Int32 :=
  ((storedTaskInfo env db gid).getD {}).finished

/-- A record is read back as it was stored. -/
lemma storedFinished_update (db : Bytes → Option Bytes) (gid : Int32) (info : DBTaskInfo) :
    storedFinished env (Function.update db (taskinfo_key gid)
      (some (env.dbTaskInfo.SerializeToString info))) gid = info.finished := by
  rw [storedFinished, storedTaskInfo, Function.update_self, Option.map_some, Option.getD_some,
    env.finished_parse_taskInfo]

/-! ### The abstract map -/

/-- The finished tasks of every player that has ever updated. -/
abbrev Progress := Int32 → Option (Set Int32)

/-- A request of a player, with the role its session holds. -/
inductive TaskCall where
  | update (role : RoleInfo) (request : TaskUpdateReq)
  | query (role : RoleInfo) (request : TaskQueryReq)

namespace TaskCall

def role : TaskCall → RoleInfo
  | update role _ => role
  | query role _ => role

def request : TaskCall → Request
  | update _ request => .UPDATE_TASK request
  | query _ request => .QUERY_TASK request

/-- The call is an update by the player `g`. -/
def UpdatesFor (g : Int32) : TaskCall → Prop
  | update role _ => role.basic_info.player_id = g
  | query _ _ => False

/-- The call is an update by the player `g` that finishes the task `t`. -/
def Finishes (g t : Int32) : TaskCall → Prop
  | update role request => role.basic_info.player_id = g ∧ t ∈ request.finished_task_ids
  | query _ _ => False

end TaskCall

/-- What a request does to the abstract map. -/
def Progress.apply (m : Progress) : TaskCall → Progress
  | .update role request => Function.update m role.basic_info.player_id
      (some ((m role.basic_info.player_id).getD ∅ ∪ {t | t ∈ request.finished_task_ids}))
  | .query _ _ => m

/-- The store holds what the abstract map says. -/
def Refines (db : Bytes → Option Bytes) (m : Progress) : Prop :=
  ∀ g, (storedTaskInfo env db g).map DBTaskInfo.finished = m g

/-- Players of the abstract map: those who have updated. -/
lemma foldl_apply_ne_none (calls : List TaskCall) (m : Progress) (g : Int32) :
    calls.foldl Progress.apply m g ≠ none ↔ m g ≠ none ∨ ∃ c ∈ calls, c.UpdatesFor g := by
  induction calls generalizing m with
  | nil => simp
  | cons c calls ih =>
      rw [List.foldl_cons, ih, List.exists_mem_cons_iff, ← or_assoc]
      refine or_congr_left ?_
      cases c with
      | query role request => simp [Progress.apply, TaskCall.UpdatesFor]
      | update role request =>
          rw [Progress.apply, TaskCall.UpdatesFor]
          by_cases hg : g = role.basic_info.player_id
          · subst hg
            simp
          · rw [Function.update_of_ne hg]
            simp [Ne.symm hg]

/-- Tasks of the abstract map: those an update has finished. -/
lemma mem_foldl_apply (calls : List TaskCall) (m : Progress) (g t : Int32) :
    t ∈ (calls.foldl Progress.apply m g).getD ∅
      ↔ t ∈ (m g).getD ∅ ∨ ∃ c ∈ calls, c.Finishes g t := by
  induction calls generalizing m with
  | nil => simp
  | cons c calls ih =>
      rw [List.foldl_cons, ih, List.exists_mem_cons_iff, ← or_assoc]
      refine or_congr_left ?_
      cases c with
      | query role request => simp [Progress.apply, TaskCall.Finishes]
      | update role request =>
          rw [Progress.apply, TaskCall.Finishes]
          by_cases hg : g = role.basic_info.player_id
          · subst hg
            simp
          · rw [Function.update_of_ne hg]
            simp [Ne.symm hg]

/-! ### Runs -/

/-- A run of requests, each dispatched over one shared manager. -/
def runTasks (task_manager : TaskDataManager) : List TaskCall → Redis → List Response × Redis
  | [], r => ([], r)
  | c :: calls, r =>
      let out := (RunSyncService env task_manager c.role c.request).run Redis.exec r
      let rest := runTasks task_manager calls out.2
      (out.1.1 :: rest.1, rest.2)

/-- **The step**: a request does to the store what it does to the abstract map. -/
lemma refines_step {db : Bytes → Option Bytes} {m : Progress} (h : Refines env db m)
    (c : TaskCall) :
    ∃ db', ((RunSyncService env .empty c.role c.request).run Redis.exec (.working db)).2
        = .working db' ∧ Refines env db' (m.apply c) := by
  cases c with
  | query role request =>
      refine ⟨db, ?_, h⟩
      rw [TaskCall.role, TaskCall.request, run_QUERY_TASK]
  | update role request =>
      refine ⟨_, by rw [TaskCall.role, TaskCall.request, run_UPDATE_TASK], fun g => ?_⟩
      have hold : ((storedTaskInfo env db role.basic_info.player_id).getD {}).finished
          = (m role.basic_info.player_id).getD ∅ := by
        rw [← h]
        cases storedTaskInfo env db role.basic_info.player_id with
        | none => exact DBTaskInfo.finished_empty
        | some info => rfl
      rw [map_finished_update, updatedInfo, DBTaskInfo.finished_update, hold, Progress.apply,
        show (fun g => (storedTaskInfo env db g).map DBTaskInfo.finished) = m from funext h]

/-- The run lemma: after any requests the store still refines the abstract map. -/
lemma refines_run (calls : List TaskCall) {db : Bytes → Option Bytes} {m : Progress}
    (h : Refines env db m) :
    ∃ db', (runTasks env .empty calls (.working db)).2 = .working db' ∧
      Refines env db' (calls.foldl Progress.apply m) := by
  induction calls generalizing db m with
  | nil => exact ⟨db, rfl, h⟩
  | cons c calls ih =>
      obtain ⟨db₁, hrun, h₁⟩ := refines_step env h c
      obtain ⟨db₂, hrest, h₂⟩ := ih h₁
      refine ⟨db₂, ?_, h₂⟩
      rw [runTasks]
      simp only [hrun, hrest]

/-- The response to a request in the middle of a run. -/
lemma getElem?_runTasks (task_manager : TaskDataManager) (earlier rest : List TaskCall)
    (c : TaskCall) (r : Redis) :
    (runTasks env task_manager (earlier ++ c :: rest) r).1[earlier.length]?
      = some ((RunSyncService env task_manager c.role c.request).run Redis.exec
          (runTasks env task_manager earlier r).2).1.1 := by
  induction earlier generalizing r with
  | nil => rfl
  | cons d earlier ih =>
      rw [List.cons_append, runTasks, List.length_cons, runTasks]
      simp only [List.getElem?_cons_succ, ih]

/-- **Task progress**: in a run of updates and queries over one shared manager, from
a store without task records, a query of the player `g` is answered `SUCCEED`
exactly when `g` has updated before, and then lists the tasks that the earlier
updates of `g` have finished, each of them once. -/
theorem query_refines (db : Bytes → Option Bytes) (hdb : ∀ g, db (taskinfo_key g) = none)
    (earlier rest : List TaskCall) (role : RoleInfo) (request : TaskQueryReq) :
    ∃ rsp, (runTasks env .empty (earlier ++ .query role request :: rest)
          (.working db)).1[earlier.length]? = some (.QUERY_TASK rsp) ∧
      (rsp.error = ErrorCode.SUCCEED.number
        ↔ ∃ c ∈ earlier, c.UpdatesFor role.basic_info.player_id) ∧
      (rsp.error = ErrorCode.SUCCEED.number → rsp.done_tasks.Nodup ∧
        ∀ t, t ∈ rsp.done_tasks ↔ ∃ c ∈ earlier, c.Finishes role.basic_info.player_id t) := by
  have h0 : Refines env db fun _ => none := fun g => by rw [storedTaskInfo, hdb g]; rfl
  obtain ⟨db', hrun, href⟩ := refines_run env earlier h0
  have hg := href role.basic_info.player_id
  have hplayers := foldl_apply_ne_none earlier (fun _ => none) role.basic_info.player_id
  have htasks := mem_foldl_apply earlier (fun _ => none) role.basic_info.player_id
  rw [getElem?_runTasks, hrun, TaskCall.role, TaskCall.request, run_QUERY_TASK]
  cases hstored : storedTaskInfo env db' role.basic_info.player_id with
  | none =>
      rw [hstored, Option.map_none] at hg
      refine ⟨_, rfl, ?_, fun hs => absurd hs (by simp [TaskQueryRsp.failure])⟩
      have hnone : ¬ ∃ c ∈ earlier, c.UpdatesFor role.basic_info.player_id :=
        fun hex => hplayers.mpr (.inr hex) hg.symm
      exact iff_of_false (by simp [TaskQueryRsp.failure]) hnone
  | some info =>
      rw [hstored, Option.map_some] at hg
      refine ⟨_, rfl, iff_of_true rfl ?_, fun _ => ⟨info.doneTasks_nodup, fun t => ?_⟩⟩
      · rcases hplayers.mp (by rw [← hg]; simp) with hnone | hex
        · exact absurd rfl hnone
        · exact hex
      · change t ∈ info.doneTasks ↔ _
        have ht := htasks t
        rw [← hg, Option.getD_some] at ht
        rw [info.mem_doneTasks, ht]
        simp

/-- The second query of a player behind one of its updates. -/
theorem query_refines_second_query :
    (∀ g, (fun _ => none : Bytes → Option Bytes) (taskinfo_key g) = none) ∧
    ∃ rsp, (runTasks Env.wire .empty
          ([.update {} { finished_task_ids := [3, 4] }, .query {} {}] ++ .query {} {} :: [])
          (.working fun _ => none)).1[2]? = some (.QUERY_TASK rsp) ∧
      (rsp.error = ErrorCode.SUCCEED.number
        ↔ ∃ c ∈ [TaskCall.update {} { finished_task_ids := [3, 4] }, .query {} {}],
          c.UpdatesFor 0) ∧
      (rsp.error = ErrorCode.SUCCEED.number → rsp.done_tasks.Nodup ∧
        ∀ t, t ∈ rsp.done_tasks
          ↔ ∃ c ∈ [TaskCall.update {} { finished_task_ids := [3, 4] }, .query {} {}],
            c.Finishes 0 t) :=
  ⟨fun _ => rfl, query_refines Env.wire (fun _ => none) (fun _ => rfl)
    [.update {} { finished_task_ids := [3, 4] }, .query {} {}] [] {} {}⟩

end LittleB
