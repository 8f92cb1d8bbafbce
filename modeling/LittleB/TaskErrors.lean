import LittleB.Tasks

/-!
What the task services make of a read that fails.

* `parsedTaskInfo`: the record of a player, when the stored string parses to the end;
* `KeepsProgress`, `AnswersStored`: an update loses no finished task, and a query is
  answered `SUCCEED` only with what is stored;
* `failed_reads_iff`: the pull tells a missing record from others and nothing else, so
  both are at the mercy of the text of an error.
-/

namespace LittleB

open Bytes

variable (env : Env)

/-! ### What is stored -/

/-- The record of a player, when the stored string parses to the end. -/
def parsedTaskInfo (db : Bytes → Option Bytes) (gid : Int32) : Option DBTaskInfo :=
  (db (taskinfo_key gid)).bind fun value =>
    if (env.dbTaskInfo.ParseFromArray value).1 then some (env.dbTaskInfo.ParseFromArray value).2
    else none

lemma storedFinished_of_parsedTaskInfo {db : Bytes → Option Bytes} {gid : Int32} {info : DBTaskInfo}
    (h : parsedTaskInfo env db gid = some info) : storedFinished env db gid = info.finished := by
  obtain ⟨value, hdb, hvalue⟩ := Option.bind_eq_some_iff.mp h
  split_ifs at hvalue
  rw [storedFinished, storedTaskInfo, hdb, Option.map_some, Option.getD_some,
    Option.some.inj hvalue]

/-- A response shows the contents of a record. -/
structure TaskQueryRsp.Shows (rsp : TaskQueryRsp) (info : DBTaskInfo) : Prop where
  done_tasks : ∀ t, t ∈ rsp.done_tasks ↔ t ∈ info.finished
  position_x : rsp.position_x = .ofInt32 info.position_x
  position_y : rsp.position_y = .ofInt32 info.position_y

/-- Two records with the same contents. -/
def DBTaskInfo.SameContents (a b : DBTaskInfo) : Prop :=
  a.finished = b.finished ∧ a.position_x = b.position_x ∧ a.position_y = b.position_y

lemma Double.ofInt32_inj {m n : Int32} : Double.ofInt32 m = Double.ofInt32 n ↔ m = n := by
  rw [ofInt32, ofInt32, finite.injEq, Int.cast_inj, Int32.toInt_inj]

/-- The response made from one record shows another one with the same contents. -/
lemma shows_ofTaskInfo_iff (rpcid : Int32) (a b : DBTaskInfo) :
    (TaskQueryRsp.ofTaskInfo rpcid a).Shows b ↔ a.SameContents b := by
  have hmem (t : Int32) : t ∈ (TaskQueryRsp.ofTaskInfo rpcid a).done_tasks ↔ t ∈ a.finished :=
    a.mem_doneTasks t
  constructor
  · rintro ⟨hdone, hx, hy⟩
    refine ⟨Set.ext fun t => (hmem t).symm.trans (hdone t), ?_, ?_⟩
    · exact Double.ofInt32_inj.mp hx
    · exact Double.ofInt32_inj.mp hy
  · rintro ⟨hfinished, hx, hy⟩
    refine ⟨fun t => (hmem t).trans (by rw [hfinished]), ?_, ?_⟩
    · exact Double.ofInt32_inj.mpr hx
    · exact Double.ofInt32_inj.mpr hy

/-! ### Updates -/

/-- Every task of the player that was marked finished still is after the update. -/
def KeepsProgress (role : RoleInfo) (request : TaskUpdateReq) (r : Redis) : Prop :=
  storedFinished env r.db role.basic_info.player_id
    ⊆ storedFinished env
        ((RunSyncService env .empty role (.UPDATE_TASK request)).run Redis.exec r).2.db
        role.basic_info.player_id

/-- When the read is answered with an error and the write is not, every task marked
finished is one of the request or of what the text of the error parses to. -/
def ErrorKeepsProgress (gid : Int32) (request : TaskUpdateReq) (r : Redis) : Prop :=
  ∀ str, r.outcome 0 = .error str → r.outcome 1 = .ok →
    storedFinished env r.db gid
      ⊆ (env.dbTaskInfo.ParseFromArray str).2.finished ∪ {t | t ∈ request.finished_task_ids}

/-- The tasks finished behind an update. -/
lemma storedFinished_UPDATE_TASK (role : RoleInfo) (request : TaskUpdateReq) (r : Redis) :
    storedFinished env
        ((RunSyncService env .empty role (.UPDATE_TASK request)).run Redis.exec r).2.db
        role.basic_info.player_id
      = if r.outcome 1 = .ok then
          (UpdatePoint.pulledInfo env (taskinfoReply r role.basic_info.player_id)).finished
            ∪ {t | t ∈ request.finished_task_ids}
        else storedFinished env r.db role.basic_info.player_id := by
  rw [run_UPDATE_TASK_reply, Redis.exec_set_db]
  change storedFinished env (if r.outcome 1 = .ok then _ else _) _ = _
  split_ifs with h1
  · rw [storedFinished_update, DBTaskInfo.finished_update]
  · rfl

lemma keepsProgress_iff (role : RoleInfo) (request : TaskUpdateReq) (r : Redis) :
    KeepsProgress env role request r
      ↔ ErrorKeepsProgress env role.basic_info.player_id request r := by
  rw [KeepsProgress, storedFinished_UPDATE_TASK, ErrorKeepsProgress]
  by_cases h1 : r.outcome 1 = .ok
  · rw [if_pos h1]
    cases h0 : r.outcome 0 with
    | error str =>
        rw [taskinfoReply, Redis.exec_error h0]
        simp [h1, UpdatePoint.pulledInfo, Reply.type, Reply.str]
    | ok =>
        rw [taskinfoReply, Redis.exec_ok h0, pulledInfo_get]
        exact iff_of_true Set.subset_union_left fun str hstr => absurd hstr (by simp)
  · rw [if_neg h1]
    exact iff_of_true Set.Subset.rfl fun str _ h => absurd h h1

/-! ### Queries -/

/-- A query that is answered `SUCCEED` shows the record that is stored. -/
def AnswersStored (role : RoleInfo) (request : TaskQueryReq) (r : Redis) : Prop :=
  ∀ rsp, ((RunSyncService env .empty role (.QUERY_TASK request)).run Redis.exec r).1.1
      = .QUERY_TASK rsp → rsp.error = ErrorCode.SUCCEED.number →
    ∃ info, parsedTaskInfo env r.db role.basic_info.player_id = some info ∧ rsp.Shows info

/-- A read that is executed finds no record or one that parses; the text of an error
parses to the contents of the record that is stored. -/
structure ReadsRecord (gid : Int32) (r : Redis) : Prop where
  executed : r.outcome 0 = .ok → r.db (taskinfo_key gid) ≠ none →
    parsedTaskInfo env r.db gid ≠ none
  failed : ∀ str, r.outcome 0 = .error str → ∃ info, parsedTaskInfo env r.db gid = some info ∧
    (env.dbTaskInfo.ParseFromArray str).2.SameContents info

/-- What a query answered with the contents of `info` has to find in the store. -/
lemma answersStored_ofTaskInfo {role : RoleInfo} {request : TaskQueryReq} {r : Redis}
    {info : DBTaskInfo}
    (hrun : ((RunSyncService env .empty role (.QUERY_TASK request)).run Redis.exec r).1.1
      = .QUERY_TASK (.ofTaskInfo request.rpcid info)) :
    AnswersStored env role request r
      ↔ ∃ stored, parsedTaskInfo env r.db role.basic_info.player_id = some stored ∧
          info.SameContents stored := by
  rw [AnswersStored, hrun]
  constructor
  · intro h
    obtain ⟨stored, hstored, hshows⟩ := h _ rfl rfl
    exact ⟨stored, hstored, (shows_ofTaskInfo_iff _ _ _).mp hshows⟩
  · rintro ⟨stored, hstored, hsame⟩ rsp hrsp -
    obtain rfl := Response.QUERY_TASK.inj hrsp
    exact ⟨stored, hstored, (shows_ofTaskInfo_iff _ _ _).mpr hsame⟩

/-- The query of a record that is read. -/
lemma answersStored_of_some {role : RoleInfo} {request : TaskQueryReq} {r : Redis} {value : Bytes}
    (h0 : r.outcome 0 = .ok) (hdb : r.db (taskinfo_key role.basic_info.player_id) = some value) :
    AnswersStored env role request r
      ↔ parsedTaskInfo env r.db role.basic_info.player_id ≠ none := by
  have hreply : taskinfoReply r role.basic_info.player_id = .string value := by
    rw [taskinfoReply, Redis.exec_ok h0, Redis.perform_get_some hdb]
  have hrun := congrArg (fun out => out.1.1) (run_QUERY_TASK_reply env r role request)
  rw [hreply, if_neg (by simp [Reply.type])] at hrun
  rw [answersStored_ofTaskInfo env hrun]
  constructor
  · intro h
    obtain ⟨stored, hstored, -⟩ := h
    rw [hstored]
    exact Option.some_ne_none stored
  · intro hne
    have hparsed : parsedTaskInfo env r.db role.basic_info.player_id
        = if (env.dbTaskInfo.ParseFromArray value).1 then
            some (env.dbTaskInfo.ParseFromArray value).2 else none := by
      rw [parsedTaskInfo, hdb, Option.bind_some]
    rw [hparsed] at hne ⊢
    split_ifs at hne ⊢ with hok
    · exact ⟨_, rfl, rfl, rfl, rfl⟩
    · exact absurd rfl hne

/-- The query of a player without a record. -/
lemma answersStored_of_none {role : RoleInfo} {request : TaskQueryReq} {r : Redis}
    (h0 : r.outcome 0 = .ok) (hdb : r.db (taskinfo_key role.basic_info.player_id) = none) :
    AnswersStored env role request r := by
  have hreply : taskinfoReply r role.basic_info.player_id = .nil := by
    rw [taskinfoReply, Redis.exec_ok h0, Redis.perform_get_none hdb]
  have hrun := congrArg (fun out => out.1.1) (run_QUERY_TASK_reply env r role request)
  have hnil : Reply.nil.type = .REDIS_REPLY_NIL := rfl
  rw [hreply, if_pos hnil] at hrun
  intro rsp hrsp hsucceed
  obtain rfl := Response.QUERY_TASK.inj (hrun.symm.trans hrsp)
  exact absurd hsucceed (by simp [TaskQueryRsp.failure])

lemma answersStored_iff (role : RoleInfo) (request : TaskQueryReq) (r : Redis) :
    AnswersStored env role request r ↔ ReadsRecord env role.basic_info.player_id r := by
  cases h0 : r.outcome 0 with
  | error str =>
      have hreply : taskinfoReply r role.basic_info.player_id = .error str := by
        rw [taskinfoReply, Redis.exec_error h0]
      have hrun := congrArg (fun out => out.1.1) (run_QUERY_TASK_reply env r role request)
      rw [hreply, if_neg (by simp [Reply.type])] at hrun
      rw [answersStored_ofTaskInfo env hrun]
      refine ⟨fun h => ⟨fun hok => absurd (h0.symm.trans hok) (by simp), fun str' hstr' => ?_⟩,
        fun h => h.failed str h0⟩
      obtain rfl := Outcome.error.inj (h0.symm.trans hstr')
      exact h
  | ok =>
      have hfailed (str : Bytes) : r.outcome 0 ≠ .error str := by rw [h0]; simp
      cases hdb : r.db (taskinfo_key role.basic_info.player_id) with
      | none =>
          exact iff_of_true (answersStored_of_none env h0 hdb)
            ⟨fun _ hne => absurd hdb hne, fun str hstr => absurd hstr (hfailed str)⟩
      | some value =>
          rw [answersStored_of_some env h0 hdb]
          refine ⟨fun hne => ⟨fun _ _ => hne, fun str hstr => absurd hstr (hfailed str)⟩,
            fun h => h.executed h0 ?_⟩
          rw [hdb]
          simp

/-- **Failed reads**: an update keeps every finished task exactly when a read that
fails before a write that does not fails harmlessly; a query answered `SUCCEED` shows the
stored record exactly when the record parses, or the text of the error does and to the
same contents. -/
theorem failed_reads_iff (role : RoleInfo) (update : TaskUpdateReq) (query : TaskQueryReq)
    (r : Redis) :
    (KeepsProgress env role update r
      ↔ ErrorKeepsProgress env role.basic_info.player_id update r) ∧
    (AnswersStored env role query r ↔ ReadsRecord env role.basic_info.player_id r) :=
  ⟨keepsProgress_iff env role update r, answersStored_iff env role query r⟩

/-- A record with one finished task. -/
def finishedTask : Bytes → Option Bytes :=
  Function.update (fun _ => none) (taskinfo_key 0)
    (some (Env.wire.dbTaskInfo.SerializeToString
      { tasks := (∅ : TaskMap).insert 3 .FINISH }))

lemma storedFinished_finishedTask : storedFinished Env.wire finishedTask 0 = {3} := by
  rw [finishedTask, storedFinished_update]
  ext t
  rw [DBTaskInfo.mem_finished, Set.mem_singleton_iff]
  by_cases ht : t = 3
  · rw [ht, AList.lookup_insert]
    exact iff_of_true rfl rfl
  · rw [AList.lookup_insert_ne ht, AList.lookup_empty]
    exact iff_of_false (by simp) ht

/-- The read is answered with an error and the write is executed: the finished task is
gone, and a query is answered `SUCCEED` without it. -/
theorem failed_read_loses_progress :
    ¬ KeepsProgress Env.wire {} {} ⟨finishedTask, failsAt 0⟩ ∧
      ¬ AnswersStored Env.wire {} {} ⟨finishedTask, failsAt 0⟩ := by
  have hnothing : (Env.wire.dbTaskInfo.ParseFromArray (ofString "ERR")).2.finished = ∅ := by
    have hparse : (Env.wire.dbTaskInfo.ParseFromArray (ofString "ERR")).2 = {} :=
      Wire.parseMessage_of_readField_none _ _ (by decide)
    rw [hparse, DBTaskInfo.finished_empty]
  constructor
  · rw [keepsProgress_iff]
    intro hkeeps
    have hsub : storedFinished Env.wire finishedTask 0 ⊆ _ := hkeeps (ofString "ERR") rfl rfl
    rw [hnothing, storedFinished_finishedTask] at hsub
    exact absurd (hsub rfl) (by simp)
  · rw [answersStored_iff]
    intro hreads
    obtain ⟨info, hinfo, hsame, -⟩ := hreads.failed (ofString "ERR") rfl
    have hstored := storedFinished_of_parsedTaskInfo Env.wire hinfo
    change storedFinished Env.wire finishedTask 0 = _ at hstored
    rw [storedFinished_finishedTask, ← hsame, hnothing] at hstored
    exact absurd hstored (by simp)

end LittleB
