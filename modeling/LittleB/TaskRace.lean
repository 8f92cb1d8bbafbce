import LittleB.Tasks

/-!
Any number of updates of one player's task record, their commands interleaved.

* `updates`: the calls, none of which has issued a command yet;
* `Kept`: the invariant, no finished task has been lost, and a record about to be
  written has everything the stored one has;
* `updates_kept`: schedules whose steps all read apart; `updates_lost`: one that
  does not.
-/

namespace LittleB

variable {ι : Type} (env : Env)

/-- The calls of `TaskUpdateService`, each dispatched over the same manager. -/
def updates (role : ι → RoleInfo) (request : ι → TaskUpdateReq) (r : Redis) :
    Pool RedisSig ι (Prog RedisSig TaskUpdateRsp) Redis :=
  { proc := fun i => SyncServiceClassDecorator TaskUpdateService.mk (TaskUpdateService.call env)
      .empty (role i) (request i)
    state := r
    log := [] }

/-- The call `i` has been answered `SUCCEED`. -/
def UpdateSucceeded (P : Pool RedisSig ι (Prog RedisSig TaskUpdateRsp) Redis) (i : ι) : Prop :=
  ∃ rsp, P.proc i = .ret rsp ∧ rsp.error = ErrorCode.SUCCEED.number

/-! ### The invariant -/

/-- No finished task has been lost since the store was `db`. -/
structure Kept (gid : Int32) (request : ι → TaskUpdateReq) (db : Bytes → Option Bytes)
    (P : Pool RedisSig ι UpdatePoint Redis) : Prop where
  working : P.state.Working
  old : storedFinished env db gid ⊆ storedFinished env P.state.db gid
  answered : ∀ i rsp, P.proc i = .answered rsp →
    ∀ t ∈ (request i).finished_task_ids, t ∈ storedFinished env P.state.db gid
  pushing : ∀ i info, P.proc i = .push info →
    storedFinished env P.state.db gid ⊆ info.finished ∧
      ∀ t ∈ (request i).finished_task_ids, t ∈ info.finished
  alone : ∀ i j info info', P.proc i = .push info → P.proc j = .push info' → i = j

section Runs

variable {role : ι → RoleInfo} {request : ι → TaskUpdateReq} {gid : Int32}

/-- The calls at their control points. -/
def updatePoints (r : Redis) : Pool RedisSig ι UpdatePoint Redis :=
  { proc := fun _ => .start, state := r, log := [] }

lemma describes_updates (role : ι → RoleInfo) (request : ι → TaskUpdateReq) (i : ι) :
    Describes (UpdatePoint.next env (role i) (request i))
      (UpdatePoint.prog env (role i) (request i)) :=
  UpdatePoint.describes env (role i) (request i)

variable [DecidableEq ι]

variable {db : Bytes → Option Bytes} {i : ι} {P P' : Pool RedisSig ι UpdatePoint Redis}

omit [DecidableEq ι] in
/-- A read keeps the invariant while no other call is about to write. -/
lemma Kept.pull (hI : Kept env gid request db P) (hother : ∀ j, j ≠ i → P'.proc j = P.proc j)
    (hself : P'.proc i = .push (updatedInfo env P.state.db gid (request i)))
    (hdb : P'.state.db = P.state.db) (hworking : P'.state.Working)
    (hfree : ∀ j, j ≠ i → ∀ info, P.proc j ≠ .push info) : Kept env gid request db P' := by
  have hnone : ∀ j info, P'.proc j = .push info → j = i := by
    intro j info hpush
    by_contra hj
    rw [hother j hj] at hpush
    exact hfree j hj info hpush
  constructor
  case working => exact hworking
  case old =>
    rw [hdb]
    exact hI.old
  case answered =>
    intro j rsp hans
    have hj : j ≠ i := by
      rintro rfl
      rw [hself] at hans
      cases hans
    rw [hother j hj] at hans
    rw [hdb]
    exact hI.answered j rsp hans
  case pushing =>
    intro j info hpush
    obtain rfl := hnone j info hpush
    rw [hself] at hpush
    cases hpush
    rw [hdb, updatedInfo, DBTaskInfo.finished_update]
    exact ⟨Set.subset_union_left, fun t ht => Set.mem_union_right _ ht⟩
  case alone =>
    intro j l info info' hj hl
    exact (hnone j info hj).trans (hnone l info' hl).symm

/-- A write keeps the invariant: the record written has everything the stored one
had. -/
lemma Kept.store (hI : Kept env gid request db P) (hother : ∀ j, j ≠ i → P'.proc j = P.proc j)
    {info : DBTaskInfo} (hpush : P.proc i = .push info) {rsp : TaskUpdateRsp}
    (hself : P'.proc i = .answered rsp)
    (hdb : P'.state.db = Function.update P.state.db (taskinfo_key gid)
      (some (env.dbTaskInfo.SerializeToString info)))
    (hworking : P'.state.Working) : Kept env gid request db P' := by
  obtain ⟨hmore, hids⟩ := hI.pushing i info hpush
  have hnew : storedFinished env P'.state.db gid = info.finished := by
    rw [hdb, storedFinished_update]
  have hnone : ∀ j info', P'.proc j ≠ .push info' := by
    intro j info' hpush'
    by_cases hj : j = i
    · rw [hj, hself] at hpush'
      cases hpush'
    · rw [hother j hj] at hpush'
      exact hj (hI.alone j i info' info hpush' hpush)
  constructor
  case working => exact hworking
  case old =>
    rw [hnew]
    exact hI.old.trans hmore
  case answered =>
    intro j rsp' hans
    rw [hnew]
    by_cases hj : j = i
    · rw [hj]
      exact hids
    · rw [hother j hj] at hans
      exact fun t ht => hmore (hI.answered j rsp' hans t ht)
  case pushing => exact fun j info' hpush' => absurd hpush' (hnone j info')
  case alone => exact fun j l info₁ info₂ hj _ => absurd hj (hnone j info₁)

/-- **The step**: a command that reads apart keeps the invariant. -/
lemma kept_step (hgid : ∀ i, (role i).basic_info.player_id = gid)
    (hapart : ReadsApart i (P.map fun i => UpdatePoint.prog env (role i) (request i)))
    (hI : Kept env gid request db P) :
    Kept env gid request db
      (P.step (fun i => UpdatePoint.next env (role i) (request i)) Redis.exec i) := by
  rcases P.step_cases (fun i => UpdatePoint.next env (role i) (request i)) Redis.exec i with
    ⟨-, hstep⟩ | ⟨c, k, hv, hself, hother, hstate, -⟩
  · rw [hstep]
    exact hI
  generalize P.step (fun i => UpdatePoint.next env (role i) (request i)) Redis.exec i = P'
    at hself hother hstate ⊢
  rw [hI.working.eq_working, Redis.exec_working] at hself hstate
  have hmove := update_move env hv P.state.db
  rw [hgid i, ← hself] at hmove
  have hdb : P'.state.db = (Redis.perform c P.state.db).2 := by rw [hstate]; rfl
  have hworking : P'.state.Working := by
    rw [hstate]
    exact fun _ => rfl
  rw [← hdb] at hmove
  generalize hp : P.proc i = p at hmove
  generalize hp' : P'.proc i = p' at hmove
  generalize hd : P'.state.db = d at hmove
  cases hmove with
  | pull =>
      refine hI.pull env hother hp' hd hworking fun j hj info hpush => ?_
      -- another call that is about to write does so to the key that is read
      refine hapart (taskinfo_key gid) ?_ j hj (env.dbTaskInfo.SerializeToString info) ?_
      · rw [nextCommand_map (describes_updates env role request), hp, ← hgid i]
        rfl
      · rw [nextCommand_map (describes_updates env role request), hpush, ← hgid j]
        rfl
  | store info => exact hI.store env hother hp hp' hd hworking

/-- **No lost update**: in every schedule in which the record is not read between
another update's read and its write of it, the record keeps every task that was
finished in it, and has every task of every update that has been answered
`SUCCEED`. -/
theorem updates_kept (role : ι → RoleInfo) (request : ι → TaskUpdateReq) (gid : Int32)
    (hgid : ∀ i, (role i).basic_info.player_id = gid) (db : Bytes → Option Bytes) (sched : List ι)
    (hapart : ReadsApartAlong sched (updates env role request (.working db))) :
    storedFinished env db gid ⊆ storedFinished env
        (runCalls sched (updates env role request (.working db))).state.db gid ∧
      ∀ i, UpdateSucceeded (runCalls sched (updates env role request (.working db))) i →
        ∀ t ∈ (request i).finished_task_ids, t ∈ storedFinished env
          (runCalls sched (updates env role request (.working db))).state.db gid := by
  have hstart : Kept env gid request db (updatePoints (.working db)) := by
    refine ⟨fun _ => rfl, subset_rfl, fun i rsp hans => ?_, fun i info hpush => ?_,
      fun i j info info' hpush => ?_⟩
    · cases hans
    · cases hpush
    · cases hpush
  obtain ⟨P, hrun, hI⟩ := runCalls_invariant (describes_updates env role request)
    (fun i P => kept_step env hgid) hapart hstart
  rw [show runCalls sched (updates env role request (.working db)) = _ from hrun]
  refine ⟨hI.old, fun i hi => ?_⟩
  obtain ⟨rsp, hret, -⟩ := hi
  change UpdatePoint.prog env (role i) (request i) (P.proc i) = .ret rsp at hret
  cases hp : P.proc i with
  | answered rsp' => exact hI.answered i rsp' hp
  | start => rw [hp] at hret; cases hret
  | push info => rw [hp] at hret; cases hret

end Runs

/-- Two updates of one player, each finishing a task of its own. -/
def twoUpdates (b : Bool) : TaskUpdateReq :=
  { finished_task_ids := if b then [1] else [2] }

/-- One update after the other. -/
theorem updates_one_after_the_other :
    ((∀ b : Bool, ((fun _ => {}) b : RoleInfo).basic_info.player_id = 0) ∧
      ReadsApartAlong [true, true, false, false]
        (updates Env.wire (fun _ => {}) twoUpdates (.working fun _ => none))) ∧
    (storedFinished Env.wire (fun _ => none) 0 ⊆ storedFinished Env.wire
        (runCalls [true, true, false, false]
          (updates Env.wire (fun _ => {}) twoUpdates (.working fun _ => none))).state.db 0 ∧
      ∀ i, UpdateSucceeded (runCalls [true, true, false, false]
          (updates Env.wire (fun _ => {}) twoUpdates (.working fun _ => none))) i →
        ∀ t ∈ (twoUpdates i).finished_task_ids, t ∈ storedFinished Env.wire
          (runCalls [true, true, false, false]
            (updates Env.wire (fun _ => {}) twoUpdates (.working fun _ => none))).state.db 0) := by
  have hapart : ReadsApartAlong [true, true, false, false]
      (updates Env.wire (fun _ => {}) twoUpdates (.working fun _ => none)) := by
    refine ⟨?_, ?_, ?_, ?_, trivial⟩
    all_goals
      intro key _ j hj value
      cases j
      · first | exact absurd rfl hj | exact fun h => nomatch h
      · first | exact absurd rfl hj | exact fun h => nomatch h
  exact ⟨⟨fun _ => rfl, hapart⟩, updates_kept Env.wire (fun _ => {}) twoUpdates 0 (fun _ => rfl)
    (fun _ => none) _ hapart⟩

/-- Both updates read the record before either writes it: both are answered
`SUCCEED`, and the task of the first one is gone. -/
theorem updates_lost :
    ¬ ((∀ i, UpdateSucceeded (runCalls [true, false, true, false]
          (updates Env.wire (fun _ => {}) twoUpdates (.working fun _ => none))) i) →
      storedFinished Env.wire (fun _ => none) 0 ⊆ storedFinished Env.wire
          (runCalls [true, false, true, false]
            (updates Env.wire (fun _ => {}) twoUpdates (.working fun _ => none))).state.db 0 ∧
        ∀ i, ∀ t ∈ (twoUpdates i).finished_task_ids, t ∈ storedFinished Env.wire
          (runCalls [true, false, true, false]
            (updates Env.wire (fun _ => {}) twoUpdates (.working fun _ => none))).state.db 0) := by
  intro hkept
  have hall : ∀ i, UpdateSucceeded (runCalls [true, false, true, false]
      (updates Env.wire (fun _ => {}) twoUpdates (.working fun _ => none))) i := by
    intro i
    cases i
    · exact ⟨.answer 0 .SUCCEED, rfl, rfl⟩
    · exact ⟨.answer 0 .SUCCEED, rfl, rfl⟩
  -- the second write is that of an update that has not seen the first
  have hdb : (runCalls [true, false, true, false]
      (updates Env.wire (fun _ => {}) twoUpdates (.working fun _ => none))).state.db
        = Function.update
            (Function.update (fun _ => none) (taskinfo_key 0) (some
              (Env.wire.dbTaskInfo.SerializeToString
                (({} : DBTaskInfo).update Env.wire (twoUpdates true)))))
            (taskinfo_key 0) (some (Env.wire.dbTaskInfo.SerializeToString
              (({} : DBTaskInfo).update Env.wire (twoUpdates false)))) := rfl
  have hlost := (hkept hall).2 true 1 (by decide)
  rw [hdb, storedFinished_update, DBTaskInfo.finished_update, DBTaskInfo.finished_empty,
    Set.empty_union] at hlost
  exact absurd hlost (by decide)

end LittleB
