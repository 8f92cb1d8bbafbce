import LittleB.Handlers.RoleInjectHandler

/-!
What the services answer, on every branch: the responses of the services of
`libsrc/login_service` and `minigame_server/service`, whatever the store replies.

* `Request.rpcid`, `Response.rpcid`, `Response.cmd_id`: what a request and its response
  have in common;
* `Answers`: the responses a request can be given, `Answers.rpcid_eq`, `Answers.cmd_id_eq`;
* `MinigameFakeLoginService_answers`, …: each service, `RoleInjectHandler.read_answers`:
  all of them.
-/

namespace LittleB

variable (env : Env)

/-- The number a client gives a request. -/
def Request.rpcid : Request → Int32
  | LOGIN req => req.rpcid
  | REGISTER req => req.rpcid
  | QUERY_TASK req => req.rpcid
  | UPDATE_TASK req => req.rpcid
  | ERASE_ROLE req => req.rpcid

def Response.rpcid : Response → Int32
  | LOGIN rsp => rsp.rpcid
  | REGISTER rsp => rsp.rpcid
  | QUERY_TASK rsp => rsp.rpcid
  | UPDATE_TASK rsp => rsp.rpcid
  | ERASE_ROLE rsp => rsp.rpcid

/-- The command a response belongs to. -/
def Response.cmd_id : Response → UInt32
  | LOGIN _ => 101
  | REGISTER _ => 103
  | QUERY_TASK _ => 105
  | UPDATE_TASK _ => 107
  | ERASE_ROLE _ => 109

/-- The responses to a request. -/
inductive Answers : Request → Response → Prop
  | login (req : LoginReq) (ret : LoginRsp.ErrorCode) (is_returning_visitor : Bool) :
      Answers (.LOGIN req) (.LOGIN (.answer req.rpcid ret is_returning_visitor))
  | register (req : RegisterReq) (ret : RegisterRsp.ErrorCode) :
      Answers (.REGISTER req) (.REGISTER (.answer req.rpcid ret))
  | query_failure (req : TaskQueryReq) :
      Answers (.QUERY_TASK req) (.QUERY_TASK (.failure req.rpcid))
  | query (req : TaskQueryReq) (info : DBTaskInfo) :
      Answers (.QUERY_TASK req) (.QUERY_TASK (.ofTaskInfo req.rpcid info))
  | update (req : TaskUpdateReq) (ret : TaskUpdateRsp.ErrorCode) :
      Answers (.UPDATE_TASK req) (.UPDATE_TASK (.answer req.rpcid ret))
  | erase (req : EraseRoleReq) (ret : EraseRoleRsp.ErrorCode) :
      Answers (.ERASE_ROLE req) (.ERASE_ROLE (.answer req.rpcid ret))

namespace Answers

variable {request : Request} {response : Response}

/-- Every response carries the number of its request. -/
lemma rpcid_eq (h : Answers request response) : response.rpcid = request.rpcid := by
  cases h with
  | login req ret visitor => rfl
  | register req ret => rfl
  | query_failure req => rfl
  | query req info => rfl
  | update req ret => rfl
  | erase req ret => rfl

/-- Every response belongs to the command of its request. -/
lemma cmd_id_eq (h : Answers request response) : response.cmd_id = request.cmd_id := by
  cases h with
  | login req ret visitor => rfl
  | register req ret => rfl
  | query_failure req => rfl
  | query req info => rfl
  | update req ret => rfl
  | erase req ret => rfl

end Answers

/-! ### The services -/

lemma MinigameFakeLoginService_answers (req : LoginReq) :
    (MinigameFakeLoginService env req).Ensures fun rsp => Answers (.LOGIN req) (.LOGIN rsp) := by
  rw [MinigameFakeLoginService]
  intro reply
  refine Prog.Ensures.ite (fun _ => .login req .LOGIN_NOT_REGISTERED false) fun _ => ?_
  refine Prog.Ensures.ite (fun _ => .login req .LOGIN_PASSWORD_WRONG false) fun _ => ?_
  refine (Prog.ensures_true _).bind fun role_ptr _ => ?_
  cases role_ptr with
  | none => exact .login req .UNKOWN_EORROR false
  | some role =>
      refine Prog.Ensures.ite (fun _ => ?_) fun _ => .login req .SUCCEED true
      exact (Prog.ensures_true _).bind fun pushed _ => .login req .SUCCEED false

lemma MinigameRegisterService_answers (req : RegisterReq) :
    (MinigameRegisterService env req).Ensures fun rsp =>
      Answers (.REGISTER req) (.REGISTER rsp) := by
  rw [MinigameRegisterService]
  intro found
  refine Prog.Ensures.ite (fun _ => .register req .ACCOUNT_ALREADY_EXIST) fun _ => ?_
  intro password
  refine Prog.Ensures.ite (fun _ => .register req .UNKOWN_EORROR) fun _ => ?_
  intro counter
  refine Prog.Ensures.ite (fun _ => .register req .UNKOWN_EORROR) fun _ => ?_
  intro role
  exact Prog.Ensures.ite (fun _ => .register req .SUCCEED) fun _ => .register req .UNKOWN_EORROR

lemma EraseRoleService_answers (role : RoleInfo) (req : EraseRoleReq) :
    (EraseRoleService env role req).Ensures fun out =>
      Answers (.ERASE_ROLE req) (.ERASE_ROLE out.1) := by
  rw [EraseRoleService]
  refine (Prog.ensures_true _).bind fun pushed _ => ?_
  exact Prog.Ensures.ite (fun _ => .erase req .UNKOWN_EORROR) fun _ => .erase req .SUCCEED

lemma TaskUpdateService.call_answers (self : TaskUpdateService) (role : RoleInfo)
    (req : TaskUpdateReq) :
    (self.call env role req).Ensures fun out =>
      Answers (.UPDATE_TASK req) (.UPDATE_TASK out.1) := by
  rw [TaskUpdateService.call]
  refine Prog.Ensures.ite (fun _ => ?_) fun _ => ?_
  · refine (Prog.ensures_true _).bind fun manager _ => ?_
    exact (Prog.ensures_true _).bind fun pushed _ => .update req .SUCCEED
  · refine (Prog.ensures_true _).bind fun pulled _ => ?_
    refine (Prog.ensures_true _).bind fun manager _ => ?_
    exact (Prog.ensures_true _).bind fun pushed _ => .update req .SUCCEED

lemma TaskQueryService.call_answers (self : TaskQueryService) (role : RoleInfo)
    (req : TaskQueryReq) :
    (self.call env role req).Ensures fun out => Answers (.QUERY_TASK req) (.QUERY_TASK out.1) := by
  rw [TaskQueryService.call]
  refine (Prog.ensures_true _).bind fun pulled _ => ?_
  exact Prog.Ensures.ite (fun _ => .query_failure req) fun _ => .query req _

/-- Every service answers its request. -/
lemma RunSyncService_answers (task_manager : TaskDataManager) (role : RoleInfo)
    (request : Request) :
    (RunSyncService env task_manager role request).Ensures fun out => Answers request out.1 := by
  cases request with
  | LOGIN req => exact (MinigameFakeLoginService_answers env req).bind fun rsp h => h
  | REGISTER req => exact (MinigameRegisterService_answers env req).bind fun rsp h => h
  | QUERY_TASK req =>
      rw [RunSyncService, SyncServiceClassDecorator]
      refine Prog.Ensures.bind ?_ fun rsp (h : Answers _ (.QUERY_TASK rsp)) => h
      exact (TaskQueryService.call_answers env _ role req).bind fun out h => h
  | UPDATE_TASK req =>
      rw [RunSyncService, SyncServiceClassDecorator]
      refine Prog.Ensures.bind ?_ fun rsp (h : Answers _ (.UPDATE_TASK rsp)) => h
      exact (TaskUpdateService.call_answers env _ role req).bind fun out h => h
  | ERASE_ROLE req => exact (EraseRoleService_answers env role req).bind fun out h => h

/-- **Answers**: a request that reaches the services is answered by a response of its
own command, whatever the store replies. -/
theorem RoleInjectHandler.read_answers {Addr : Type} [DecidableEq Addr]
    (role_manager_ : RoleinfoManager Addr) (addr : Addr) (request : Request) :
    (RoleInjectHandler.read env role_manager_ addr request).Ensures fun out =>
      Answers request out.1 := by
  cases request with
  | LOGIN req =>
      refine (Prog.ensures_true _).bind fun role_ptr _ => ?_
      exact (MinigameFakeLoginService_answers env req).bind fun rsp h => h
  | REGISTER req => exact (MinigameRegisterService_answers env req).bind fun rsp h => h
  | QUERY_TASK req | UPDATE_TASK req | ERASE_ROLE req =>
      rw [RoleInjectHandler.read_handedOn env rfl]
      exact (RunSyncService_answers env _ _ _).bind fun out h => h

namespace Server

variable {Addr : Type} [DecidableEq Addr]

/-- The response a server gives to a request from an address. -/
def answer (S : Server Addr) (input : Addr × Request) : Response :=
  ((RoleInjectHandler.read env S.role_manager_ input.1 input.2).run Redis.exec S.redis).1.1

lemma log_step_answer (S : Server Addr) (input : Addr × Request) :
    (S.step env input).log = (input.1, input.2, S.answer env input) :: S.log := rfl

lemma answers_answer (S : Server Addr) (input : Addr × Request) :
    Answers input.2 (S.answer env input) :=
  (RoleInjectHandler.read_answers env S.role_manager_ input.1 input.2).run Redis.exec S.redis

variable {S : Server Addr}

/-- The log of a server holds answers only. -/
lemma answers_run (h : ∀ e ∈ S.log, Answers e.2.1 e.2.2) (inputs : List (Addr × Request)) :
    ∀ e ∈ (S.run env inputs).log, Answers e.2.1 e.2.2 := by
  induction inputs generalizing S with
  | nil => exact h
  | cons input inputs ih =>
      refine ih fun e he => ?_
      rcases List.mem_cons.mp he with rfl | hearlier
      · exact answers_answer env S input
      · exact h e hearlier

/-- The log only grows. -/
lemma log_subset_run (inputs : List (Addr × Request)) : S.log ⊆ (S.run env inputs).log := by
  induction inputs generalizing S with
  | nil => exact List.Subset.refl _
  | cons input inputs ih =>
      intro e he
      exact ih (S := S.step env input) (List.mem_cons_of_mem _ he)

/-- The requests of the log, in their order. -/
lemma requests_run (inputs : List (Addr × Request)) :
    (S.run env inputs).log.reverse.map (fun e => (e.1, e.2.1))
      = S.log.reverse.map (fun e => (e.1, e.2.1)) ++ inputs := by
  induction inputs generalizing S with
  | nil => rw [List.append_nil]; rfl
  | cons input inputs ih =>
      have hrest := ih (S := S.step env input)
      obtain ⟨rsp, hlog⟩ := S.log_step env input
      rw [hlog, List.reverse_cons, List.map_append, List.append_assoc] at hrest
      exact hrest

end Server

end LittleB
