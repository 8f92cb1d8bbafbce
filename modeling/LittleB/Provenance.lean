import LittleB.Linearizable

/-!
Where finished tasks come from, over any number of connections.

* `serve_asks`: the commands a request can issue;
* `serve_keeps_unfinished`: what a request does to a task that it does not finish;
* `finished_was_requested`: **no invention**: a task that a record marks finished, or that a
  query lists, was finished at the start or by an update of that player.
-/

namespace LittleB

variable {env : Env} {Addr : Type}

/-! ### The commands of a request -/

/-- **The commands of a request**: reads and writes of the passwords and the records of
accounts, the next id, and for a task request a read and a write of the record of its
player. -/
lemma serve_asks {P : Command → Prop} (session : Option Session) (request : Request)
    (hget : ∀ u, P (.get (password_key u)) ∧ P (.get (role_key u)))
    (hset : ∀ u value, P (.set (password_key u) value) ∧ P (.set (role_key u) value))
    (hincr : P (.incr gid_key))
    (htask : request.isTask = true →
      P (.get (sessionKey session)) ∧ ∀ value, P (.set (sessionKey session) value)) :
    (RoleInjectHandler.serve env session request).Asks P := by
  have hpull (u : String) : (RoleinfoManager.PullRoleInfoFromDB env u).Asks P := by
    refine ⟨(hget u).2, fun reply => Prog.Asks.ite trivial ?_⟩
    cases env.roleInfo.ParseFromArray reply.str with
    | mk parsed role => cases parsed <;> trivial
  have hpush (role : RoleInfo) : (RoleinfoManager.PushRoleToDB env role).Asks P :=
    ⟨(hset _ _).2, fun _ => Prog.Asks.ite trivial trivial⟩
  cases request with
  | LOGIN req =>
      rw [RoleInjectHandler.serve_LOGIN]
      refine (hpull _).bind fun _ => Prog.Asks.bind ?_ fun _ => trivial
      refine ⟨(hget _).1, fun reply => Prog.Asks.ite trivial (Prog.Asks.ite trivial ?_)⟩
      refine (hpull _).bind fun role_ptr => ?_
      cases role_ptr with
      | none => trivial
      | some role => exact Prog.Asks.ite ((hpush _).bind fun _ => trivial) trivial
  | REGISTER req =>
      rw [RoleInjectHandler.serve_REGISTER]
      refine Prog.Asks.bind ?_ fun _ => trivial
      refine ⟨(hget _).1, fun found => Prog.Asks.ite trivial ?_⟩
      refine ⟨(hset _ _).1, fun password => Prog.Asks.ite trivial ?_⟩
      refine ⟨hincr, fun counter => Prog.Asks.ite trivial ?_⟩
      exact ⟨(hset _ _).2, fun role => Prog.Asks.ite trivial trivial⟩
  | QUERY_TASK req =>
      rw [serve_QUERY_TASK]
      exact ⟨(htask rfl).1, fun _ => trivial⟩
  | UPDATE_TASK req =>
      rw [serve_UPDATE_TASK]
      exact ⟨(htask rfl).1, fun _ => ⟨(htask rfl).2 _, fun _ => trivial⟩⟩
  | ERASE_ROLE req =>
      rw [RoleInjectHandler.serve_handedOn env rfl]
      refine Prog.Asks.bind (Prog.Asks.bind ?_ fun _ => trivial) fun _ => trivial
      exact (hpush _).bind fun _ => Prog.Asks.ite trivial trivial

/-- The commands of a request that is not about tasks are about other keys. -/
lemma serve_asks_key_ne (g : Int32) (session : Option Session) {request : Request}
    (h : request.isTask = false) :
    (RoleInjectHandler.serve env session request).Asks
      fun c : Command => c.key ≠ taskinfo_key g := by
  refine serve_asks session request (fun u => ⟨?_, ?_⟩) (fun u _ => ⟨?_, ?_⟩) ?_ fun htask => ?_
  · exact (taskinfo_key_ne_password_key g u).symm
  · exact (taskinfo_key_ne_role_key g u).symm
  · exact (taskinfo_key_ne_password_key g u).symm
  · exact (taskinfo_key_ne_role_key g u).symm
  · exact (taskinfo_key_ne_gid_key g).symm
  · rw [h] at htask
    cases htask

/-- A command about another key leaves the value under a key as it is. -/
lemma execute_of_key_ne {c : Command} {key : Bytes} (h : c.key ≠ key) (outcome : Outcome)
    (db : Bytes → Option Bytes) : (Redis.execute outcome c db).2 key = db key := by
  cases outcome with
  | error str => rfl
  | ok =>
      rw [Redis.execute_ok, Redis.perform_eq_apply]
      exact Function.update_of_ne h.symm _ _

/-- A read leaves the store as it is. -/
lemma execute_get_snd (outcome : Outcome) (key : Bytes) (db : Bytes → Option Bytes) :
    (Redis.execute outcome (.get key) db).2 = db := by
  cases outcome with
  | error str => rfl
  | ok => rw [Redis.execute_ok, Redis.perform_get_snd]

/-! ### A task that is not finished -/

/-- The task is in the record of the player. -/
lemma storedFinished_congr {db db' : Bytes → Option Bytes} {g : Int32}
    (h : db' (taskinfo_key g) = db (taskinfo_key g)) :
    storedFinished env db' g = storedFinished env db g := by
  rw [storedFinished, storedFinished, storedTaskInfo, storedTaskInfo, h]

/-- The replies to a connection do not parse to a record with the task. -/
def ErrorsWithout (env : Env) (t : Int32) (outcome : Outcome) : Prop :=
  ∀ str, outcome = .error str → t ∉ (env.dbTaskInfo.ParseFromArray str).2.finished

/-- What a reply to the read of a record without the task parses to. -/
lemma pulled_unfinished {g t : Int32} {outcome : Outcome} {db : Bytes → Option Bytes}
    (houtcome : ErrorsWithout env t outcome) (hdb : t ∉ storedFinished env db g) :
    t ∉ (UpdatePoint.pulledInfo env
      (Redis.execute outcome (.get (taskinfo_key g)) db).1).finished := by
  cases outcome with
  | error str => exact houtcome str rfl
  | ok =>
      rw [Redis.execute_ok, pulledInfo_get]
      exact hdb

/-- A query does not list the task. -/
lemma query_keeps_unfinished {g t : Int32} (session : Option Session) (req : TaskQueryReq) :
    (RoleInjectHandler.serve env session (.QUERY_TASK req)).Keeps Redis.execute
      (fun _ outcome _ => ErrorsWithout env t outcome) (fun db => t ∉ storedFinished env db g)
      fun out => (sessionRole session).basic_info.player_id = g →
        ∀ rsp, out.1 = .QUERY_TASK rsp → t ∉ rsp.done_tasks := by
  rw [serve_QUERY_TASK]
  intro outcome db houtcome hdb
  rw [execute_get_snd]
  refine ⟨hdb, fun hplayer rsp hrsp => ?_⟩
  have hpulled := pulled_unfinished houtcome hdb
  rw [← hplayer] at hpulled
  change (Response.QUERY_TASK (ite _ _ _)) = _ at hrsp
  obtain rfl := Response.QUERY_TASK.inj hrsp
  change t ∉ (UpdatePoint.pulledInfo env
    (Redis.execute outcome (.get (sessionKey session)) db).1).finished at hpulled
  rw [UpdatePoint.pulledInfo] at hpulled
  split_ifs at hpulled ⊢ with hnil
  · exact List.not_mem_nil
  · exact (DBTaskInfo.mem_doneTasks _ t).not.mpr hpulled

/-- An update that does not finish the task for the player leaves it unfinished. -/
lemma update_keeps_unfinished {g t : Int32} (session : Option Session) (req : TaskUpdateReq)
    (hids : (sessionRole session).basic_info.player_id = g → t ∉ req.finished_task_ids) :
    (RoleInjectHandler.serve env session (.UPDATE_TASK req)).Keeps Redis.execute
      (fun _ outcome _ => ErrorsWithout env t outcome) (fun db => t ∉ storedFinished env db g)
      fun out => (sessionRole session).basic_info.player_id = g →
        ∀ rsp, out.1 = .QUERY_TASK rsp → t ∉ rsp.done_tasks := by
  rw [serve_UPDATE_TASK]
  intro outcome db houtcome hdb
  rw [execute_get_snd]
  refine ⟨hdb, fun outcome' db' _ hdb' => ⟨?_, fun _ rsp hrsp => by cases hrsp⟩⟩
  by_cases hplayer : (sessionRole session).basic_info.player_id = g
  · cases outcome' with
    | error str => exact hdb'
    | ok =>
        have hpulled := pulled_unfinished houtcome hdb
        rw [← hplayer] at hpulled ⊢
        change t ∉ storedFinished env (Function.update db' (sessionKey session) _) _
        rw [sessionKey, storedFinished_update, DBTaskInfo.finished_update]
        exact fun ht => ht.elim hpulled (hids hplayer)
  · have hkey : Command.key (.set (sessionKey session) (env.dbTaskInfo.SerializeToString
        ((UpdatePoint.pulledInfo env (Redis.execute outcome
          (.get (sessionKey session)) db).1).update env req))) ≠ taskinfo_key g :=
      taskinfo_key_inj.not.mpr hplayer
    have hsame := (storedFinished_congr (execute_of_key_ne hkey outcome' db') :
      storedFinished env _ g = storedFinished env db' g)
    exact fun ht => hdb' (hsame ▸ ht)

/-- **The step**: a request that does not finish the task for the player leaves it unfinished
at each of its commands, and does not list it. -/
lemma serve_keeps_unfinished {g t : Int32} (session : Option Session) (request : Request)
    (hrequest : ∀ req, request = .UPDATE_TASK req →
      (sessionRole session).basic_info.player_id = g → t ∉ req.finished_task_ids) :
    (RoleInjectHandler.serve env session request).Keeps Redis.execute
      (fun _ outcome _ => ErrorsWithout env t outcome) (fun db => t ∉ storedFinished env db g)
      fun out => (sessionRole session).basic_info.player_id = g →
        ∀ rsp, out.1 = .QUERY_TASK rsp → t ∉ rsp.done_tasks := by
  have hother (htask : request.isTask = false)
      (hquery : ∀ rsp, ¬ Answers request (.QUERY_TASK rsp)) :
      (RoleInjectHandler.serve env session request).Keeps Redis.execute
        (fun _ outcome _ => ErrorsWithout env t outcome) (fun db => t ∉ storedFinished env db g)
        fun out => (sessionRole session).basic_info.player_id = g →
          ∀ rsp, out.1 = .QUERY_TASK rsp → t ∉ rsp.done_tasks := by
    refine Prog.Keeps.of_asks (fun c outcome db hkey _ hdb => ?_)
      (serve_asks_key_ne g session htask)
      ((RoleInjectHandler.serve_answers env session request).mono ?_)
    · rwa [storedFinished_congr (execute_of_key_ne hkey outcome db)]
    · rintro out hanswers - rsp hrsp
      exact absurd (hrsp ▸ hanswers) (hquery rsp)
  cases request with
  | QUERY_TASK req => exact query_keeps_unfinished session req
  | UPDATE_TASK req => exact update_keeps_unfinished session req (hrequest req rfl)
  | LOGIN req | REGISTER req | ERASE_ROLE req => exact hother rfl fun rsp h => by cases h

/-- **No invention**: however the requests of any connections are interleaved, and whatever
commands fail, a task that the record of a player marks finished was finished there at the
start, or is listed by an update that a connection with that player has sent; and so is a
task that a query of the player is answered.  Only the texts of error replies must not parse
to records that finish the task, which the services do not check. -/
theorem finished_was_requested [DecidableEq Addr] (env : Env)
    (role_manager_ : RoleinfoManager Addr) (db : Bytes → Option Bytes)
    (moves : List (Threads.Move Addr)) (g t : Int32)
    (herrors : ∀ e ∈ (Threads.run env moves (.start role_manager_ db)).executed,
      ErrorsWithout env t e.choice)
    (hfinished : t ∈ storedFinished env (Threads.run env moves (.start role_manager_ db)).shared g ∨
      ∃ a ∈ (Threads.run env moves (.start role_manager_ db)).answered, playerOf a = g ∧
        ∃ rsp, a.response = .QUERY_TASK rsp ∧ t ∈ rsp.done_tasks) :
    t ∈ storedFinished env db g ∨
      ∃ call session req,
        Clients.Called (Threads.run env moves (.start role_manager_ db)) call session
          (.UPDATE_TASK req) ∧
        (sessionRole session).basic_info.player_id = g ∧ t ∈ req.finished_task_ids := by
  by_contra hnot
  push Not at hnot
  obtain ⟨hstart, hcalls⟩ := hnot
  have hserve (addr : Addr) (n : ℕ) (session : Option Session) (request : Request) (_ : True)
      (hrequest : ∀ req, request = .UPDATE_TASK req →
        (sessionRole session).basic_info.player_id = g → t ∉ req.finished_task_ids) :
      (RoleInjectHandler.serve env session request).Keeps Redis.execute
        (fun _ outcome _ => ErrorsWithout env t outcome) (fun db => t ∉ storedFinished env db g)
        fun out => True ∧ ((sessionRole session).basic_info.player_id = g →
          ∀ rsp, out.1 = .QUERY_TASK rsp → t ∉ rsp.done_tasks) :=
    (serve_keeps_unfinished session request hrequest).mono fun out h => ⟨trivial, h⟩
  have hkept : Clients.Kept Redis.execute (fun _ _ outcome _ => ErrorsWithout env t outcome)
      (fun db => t ∉ storedFinished env db g) (fun _ _ => True)
      (fun _ session _ response => (sessionRole session).basic_info.player_id = g →
        ∀ rsp, response = .QUERY_TASK rsp → t ∉ rsp.done_tasks)
      (Threads.start role_manager_ db) := Clients.kept_start hstart fun _ => trivial
  have hrequests : ∀ call session request,
      Clients.Called (Threads.run env moves (.start role_manager_ db)) call session request →
      ∀ req, request = .UPDATE_TASK req →
        (sessionRole session).basic_info.player_id = g → t ∉ req.finished_task_ids := by
    rintro call session request hcalled req rfl hplayer
    exact hcalls call session req hcalled hplayer
  have hrun := hkept.run (E := fun _ _ outcome _ => ErrorsWithout env t outcome) hserve hrequests
    herrors
  rcases hfinished with hstored | ⟨a, ha, hplayer, rsp, hrsp, hmem⟩
  · exact hrun.shared hstored
  · exact hrun.answered a ha hplayer rsp hrsp hmem

/-- The task that the query above is answered. -/
theorem finished_was_requested_by_update :
    ((∀ e ∈ updateDuringQuery.executed, ErrorsWithout Env.wire 7 e.choice) ∧
      ∃ a ∈ updateDuringQuery.answered, playerOf a = 0 ∧
        ∃ rsp, a.response = .QUERY_TASK rsp ∧ 7 ∈ rsp.done_tasks) ∧
    ((7 : Int32) ∈ storedFinished Env.wire (fun _ => none) 0 ∨
      ∃ call session req, Clients.Called updateDuringQuery call session (.UPDATE_TASK req) ∧
        (sessionRole session).basic_info.player_id = 0 ∧ 7 ∈ req.finished_task_ids) := by
  have herrors : ∀ e ∈ updateDuringQuery.executed, ErrorsWithout Env.wire 7 e.choice := by
    rw [updateDuringQuery_executed]
    simp [ErrorsWithout]
  have hlisted : ∃ a ∈ updateDuringQuery.answered, playerOf a = 0 ∧
      ∃ rsp, a.response = .QUERY_TASK rsp ∧ (7 : Int32) ∈ rsp.done_tasks := by
    refine ⟨_, List.mem_cons_self, rfl, _, rfl, ?_⟩
    change (7 : Int32) ∈ (Env.wire.dbTaskInfo.ParseFromArray (Env.wire.dbTaskInfo.SerializeToString
      (({} : DBTaskInfo).update Env.wire { finished_task_ids := [7] }))).2.doneTasks
    rw [DBTaskInfo.mem_doneTasks, Env.finished_parse_taskInfo, DBTaskInfo.finished_update]
    exact Set.mem_union_right _ (List.mem_singleton_self 7)
  exact ⟨⟨herrors, hlisted⟩, finished_was_requested Env.wire ⟨fun _ => none⟩ (fun _ => none)
    _ 0 7 herrors (.inr hlisted)⟩

end LittleB
