import LittleB.EraseRole
import LittleB.Sessions
import LittleB.Tasks

/-!
What a peer that has not logged in can change.

* `Unauthenticated`: no login of the address has been answered `SUCCEED`;
* `ReadOnly`: the requests that such an address has handed on change no key;
* `DBTaskInfo.Marks`, `MarkedAlready`: the tasks of an update are finished already, in the
  record and in the store, `stored_update_iff`;
* `unauthenticated_readOnly`: the handler substitutes an empty role and hands the
  request on, so in a run they are read-only when what they write is refused or has
  been marked already, and only then where the updates' reads are executed.
-/

namespace LittleB

variable (env : Env) {Addr : Type} [DecidableEq Addr]

/-- No login from the address has been answered `SUCCEED`. -/
def Unauthenticated (S : Server Addr) (addr : Addr) : Prop :=
  ¬ ∃ req rsp, (addr, Request.LOGIN req, Response.LOGIN rsp) ∈ S.log ∧
    rsp.error = LoginRsp.ErrorCode.SUCCEED.number

/-- A request that is handed on for an address that has not logged in changes no
key. -/
def ReadOnly (input : Addr × Request) (S : Server Addr) : Prop :=
  Unauthenticated S input.1 → input.2.handedOn → (S.step env input).redis.db = S.redis.db

/-- A record marks the tasks of an update finished and has its position. -/
structure DBTaskInfo.Marks (info : DBTaskInfo) (request : TaskUpdateReq) : Prop where
  finished : ∀ t ∈ request.finished_task_ids, t ∈ info.finished
  position_x : info.position_x = request.position_x.toInt32 env.outOfRange
  position_y : info.position_y = request.position_y.toInt32 env.outOfRange

/-- The store has a record of the player that marks the tasks of an update and its position,
in the octets that the record is serialized to. -/
def MarkedAlready (db : Bytes → Option Bytes) (gid : Int32) (request : TaskUpdateReq) : Prop :=
  ∃ value, db (taskinfo_key gid) = some value ∧
    (env.dbTaskInfo.ParseFromArray value).2.Marks env request ∧
    env.dbTaskInfo.SerializeToString (env.dbTaskInfo.ParseFromArray value).2 = value

/-- The store refuses what the request writes with the role `role`, or an update is marked
already in the record that it reads; an erasure finds a serialized empty role under the key
without a name. -/
def NothingToWrite (r : Redis) (role : RoleInfo) : Request → Prop
  | .UPDATE_TASK request =>
      r.outcome 1 = .ok → r.outcome 0 = .ok ∧
        MarkedAlready env r.db role.basic_info.player_id request
  | .ERASE_ROLE _ =>
      r.outcome 0 = .ok → r.db (role_key "") = some (env.roleInfo.SerializeToString {})
  | _ => True

/-- A request of an address that has not logged in finds nothing to write. -/
def UnauthenticatedWritesNothing (input : Addr × Request) (S : Server Addr) : Prop :=
  Unauthenticated S input.1 →
    NothingToWrite env S.redis (RoleInjectHandler.handedRole S.role_manager_ input.1) input.2

/-- A write leaves the store as it is exactly when it is refused or changes nothing. -/
lemma exec_set_db_eq_iff (key value : Bytes) (r : Redis) :
    (Redis.exec (.set key value) r).2.db = r.db ↔ (r.outcome 0 = .ok → r.db key = some value) := by
  rw [Redis.exec_set_db]
  split_ifs with h0
  · rw [Function.update_eq_self_iff]
    exact ⟨fun h _ => h.symm, fun h => (h h0).symm⟩
  · exact iff_of_true rfl fun h => absurd h h0

/-- The read of an update is executed. -/
def ReadExecuted (input : Addr × Request) (S : Server Addr) : Prop :=
  ∀ request, input.2 = .UPDATE_TASK request → S.redis.outcome 0 = .ok

/-! ### Updates that are marked already -/

lemma foldl_assign_finish {ids : List Int32} {tasks : TaskMap}
    (h : ∀ t ∈ ids, tasks.lookup t = some .FINISH) :
    ids.foldl (fun tasks id => TaskMap.assign tasks id .FINISH) tasks = tasks := by
  induction ids with
  | nil => rfl
  | cons id ids ih =>
      rw [List.foldl_cons, TaskMap.assign_self (h id List.mem_cons_self)]
      exact ih fun t ht => h t (List.mem_cons_of_mem _ ht)

namespace DBTaskInfo

variable {env} {info : DBTaskInfo} {request : TaskUpdateReq}

/-- An update of a record that marks it already changes nothing. -/
lemma Marks.update_eq (h : info.Marks env request) : info.update env request = info := by
  obtain ⟨tasks, position_x, position_y⟩ := info
  rw [update, foldl_assign_finish h.finished, ← h.position_x, ← h.position_y]

/-- A record that an update changes to the same contents marks it already. -/
lemma Marks.of_same (h : Same info (info.update env request)) : info.Marks env request := by
  refine ⟨fun t ht => ?_, h.2.1, h.2.2⟩
  rw [h.finished_eq, finished_update]
  exact .inr ht

end DBTaskInfo

/-- Behind a read that is executed, an update finds what it writes in the store exactly when
it is marked already. -/
lemma stored_update_iff {r : Redis} (h0 : r.outcome 0 = .ok) (gid : Int32)
    (request : TaskUpdateReq) :
    r.db (taskinfo_key gid) = some (env.dbTaskInfo.SerializeToString
        ((UpdatePoint.pulledInfo env (taskinfoReply r gid)).update env request))
      ↔ MarkedAlready env r.db gid request := by
  have hpulled : UpdatePoint.pulledInfo env (taskinfoReply r gid)
      = (storedTaskInfo env r.db gid).getD {} := by
    rw [taskinfoReply, Redis.exec_ok h0, pulledInfo_get]
  rw [hpulled, storedTaskInfo]
  constructor
  · intro hstored
    have hsame := (env.dbTaskInfo.parse_serialize
      ((((r.db (taskinfo_key gid)).map fun value =>
        (env.dbTaskInfo.ParseFromArray value).2).getD {}).update env request)).2
    cases hdb : r.db (taskinfo_key gid) with
    | none =>
        rw [hdb] at hstored
        cases hstored
    | some value =>
        rw [hdb, Option.map_some, Option.getD_some] at hstored hsame
        rw [← Option.some.inj hstored] at hsame
        have hmarks := DBTaskInfo.Marks.of_same hsame
        rw [hmarks.update_eq] at hstored
        exact ⟨value, hdb, hmarks, (Option.some.inj hstored).symm⟩
  · rintro ⟨value, hdb, hmarks, hvalue⟩
    rw [hdb, Option.map_some, Option.getD_some, hmarks.update_eq, hvalue]

/-! ### Requests and runs -/

/-- What decides whether a request changes the store. -/
lemma db_step_eq_iff {request : Request} (h : request.handedOn) (S : Server Addr) (addr : Addr)
    (hread : ReadExecuted (addr, request) S) :
    (S.step env (addr, request)).redis.db = S.redis.db
      ↔ NothingToWrite env S.redis (RoleInjectHandler.handedRole S.role_manager_ addr)
        request := by
  rw [S.step_handedOn env h]
  generalize RoleInjectHandler.handedRole S.role_manager_ addr = role
  cases request with
  | LOGIN req => exact absurd h Bool.false_ne_true
  | REGISTER req => exact absurd h Bool.false_ne_true
  | QUERY_TASK req =>
      simp only [run_QUERY_TASK_reply]
      exact iff_of_true trivial trivial
  | UPDATE_TASK req =>
      have h0 : S.redis.outcome 0 = .ok := hread req rfl
      simp only [run_UPDATE_TASK_reply]
      refine (exec_set_db_eq_iff _ _ ⟨S.redis.db, S.redis.later⟩).trans ?_
      refine imp_congr_right fun _ => ?_
      exact (stored_update_iff env h0 role.basic_info.player_id req).trans
        (and_iff_right h0).symm
  | ERASE_ROLE req =>
      simp only [run_ERASE_ROLE_db]
      exact exec_set_db_eq_iff _ _ S.redis

/-- **The step**: a request with nothing to write leaves the store as it is. -/
lemma db_step_of_nothingToWrite {request : Request} (h : request.handedOn) (S : Server Addr)
    (addr : Addr)
    (hnothing : NothingToWrite env S.redis (RoleInjectHandler.handedRole S.role_manager_ addr)
      request) :
    (S.step env (addr, request)).redis.db = S.redis.db := by
  by_cases hread : ReadExecuted (addr, request) S
  · exact (db_step_eq_iff env h S addr hread).mpr hnothing
  · -- the read is answered with an error, so the write is as well
    rw [ReadExecuted] at hread
    push Not at hread
    obtain ⟨req, rfl, h0⟩ := hread
    have h1 : S.redis.outcome 1 ≠ .ok := fun h1 => h0 (hnothing h1).1
    rw [S.step_handedOn env h]
    simp only [run_UPDATE_TASK_reply, Redis.exec_set_db]
    exact if_neg h1

/-- **Read-only peers**: in a run, the requests of addresses without a login that was
answered `SUCCEED` change no key when each of them finds what it writes refused or marked
already; and where the reads of the updates are executed, they change none only then. -/
theorem unauthenticated_readOnly (inputs : List (Addr × Request)) (redis : Redis) :
    (Run.Guarded (Server.step env) (UnauthenticatedWritesNothing env) inputs (.start redis) →
      Run.Guarded (Server.step env) (ReadOnly env) inputs (.start redis)) ∧
    (Run.Guarded (Server.step env) ReadExecuted inputs (.start redis) →
      Run.Guarded (Server.step env) (ReadOnly env) inputs (.start redis) →
      Run.Guarded (Server.step env) (UnauthenticatedWritesNothing env) inputs
        (.start redis)) := by
  constructor
  · intro hnothing
    refine hnothing.mono fun input S h hnobody hhanded => ?_
    exact db_step_of_nothingToWrite env hhanded S input.1 (h hnobody)
  · refine Run.Guarded.imp fun input S hread hreadOnly hnobody => ?_
    obtain ⟨addr, request⟩ := input
    cases hhanded : request.handedOn with
    | true => exact (db_step_eq_iff env hhanded S addr hread).mp (hreadOnly hnobody hhanded)
    | false =>
        cases request with
        | LOGIN req => trivial
        | REGISTER req => trivial
        | QUERY_TASK req | UPDATE_TASK req | ERASE_ROLE req => cases hhanded

/-- The store behind an update of task 3 for the player 0. -/
def taskThreeMarked : Bytes → Option Bytes :=
  Function.update (fun _ => none) (taskinfo_key 0) (some (Env.wire.dbTaskInfo.SerializeToString
    (({} : DBTaskInfo).update Env.wire { finished_task_ids := [3] })))

/-- A peer that has never logged in sends the same update again, and nothing changes. -/
theorem unauthenticated_readOnly_marked :
    Run.Guarded (Server.step Env.wire) (UnauthenticatedWritesNothing Env.wire)
        [((0 : ℕ), .UPDATE_TASK { finished_task_ids := [3] })] (.start (.working taskThreeMarked)) ∧
      Run.Guarded (Server.step Env.wire) (ReadOnly Env.wire)
        [((0 : ℕ), .UPDATE_TASK { finished_task_ids := [3] })]
        (.start (.working taskThreeMarked)) := by
  have hmarked : MarkedAlready Env.wire taskThreeMarked 0 { finished_task_ids := [3] } := by
    refine ⟨_, Function.update_self _ _ _, ⟨fun t ht => ?_, ?_, ?_⟩, ?_⟩
    · obtain rfl := List.mem_singleton.mp ht
      rw [DBTaskInfo.mem_finished]
      decide +kernel
    all_goals decide +kernel
  have hnothing : Run.Guarded (Server.step Env.wire) (UnauthenticatedWritesNothing Env.wire)
      [((0 : ℕ), .UPDATE_TASK { finished_task_ids := [3] })]
      (.start (.working taskThreeMarked)) := ⟨fun _ _ => ⟨rfl, hmarked⟩, trivial⟩
  exact ⟨hnothing, (unauthenticated_readOnly Env.wire _ (.working taskThreeMarked)).1 hnothing⟩

/-- A peer that has never logged in sends an update to a server with an empty store,
and a task record appears. -/
theorem unauthenticated_update_writes :
    ¬ Run.Guarded (Server.step Env.wire) (ReadOnly Env.wire)
      [((0 : ℕ), .UPDATE_TASK { finished_task_ids := [3] })]
      (.start (.working fun _ => none)) := by
  rintro ⟨hreadOnly, -⟩
  have hnobody : Unauthenticated (.start (.working fun _ => none)) (0 : ℕ) := by
    rintro ⟨req, rsp, hmem, -⟩
    cases hmem
  have hnothing := (db_step_eq_iff Env.wire rfl _ _ fun _ _ => rfl).mp (hreadOnly hnobody rfl)
  obtain ⟨-, value, hvalue, -⟩ := hnothing rfl
  cases hvalue

end LittleB
