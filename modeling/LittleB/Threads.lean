import LittleB.Answers
import LittleB.Foundations.Keeping

/-!
The server as it runs: connections served by the threads of `main`'s `ServerBootstrap`, one
thread a connection, their commands to the one store interleaved.

* `Redis.execute`: one command with its outcome, `exec_eq_execute`;
* `RoleInjectHandler.serve`: a request of a connection with the role of its address; `read`
  changes no other role, `read_eq_serve`;
* `Threads`, `Threads.start`, `Threads.run`: the connections as clients of the store;
* `serve_within`, `serve_answers`: a request issues four commands at most, and is answered;
* `answered_after_receive`: **every connection is answered**, whatever the others do.

The handlers read `roles_` without its lock while others insert; the map itself is taken to
hold one entry an address.
-/

namespace LittleB

variable (env : Env)

/-! ### Commands of several threads -/

namespace Redis

/-- One command with its outcome, `redis_lock_` being held. -/
def execute (outcome : Outcome) : Semantics RedisSig (Bytes → Option Bytes) :=
  fun (c : Command) db =>
    match outcome with
    | .ok => perform c db
    | .error str => (.error str, db)

@[simp] lemma execute_ok (c : Command) (db : Bytes → Option Bytes) :
    execute .ok c db = perform c db := rfl

@[simp] lemma execute_error (str : Bytes) (c : Command) (db : Bytes → Option Bytes) :
    execute (.error str) c db = (.error str, db) := rfl

/-- A store executes a command with the first outcome to come. -/
lemma exec_eq_execute (c : Command) (r : Redis) :
    exec c r = ((execute (r.outcome 0) c r.db).1, ⟨(execute (r.outcome 0) c r.db).2, r.later⟩) := by
  cases h : r.outcome 0 with
  | ok => rw [exec_ok h, execute_ok]
  | error str => rw [exec_error h, execute_error]

end Redis

/-! ### One connection -/

namespace RoleInjectHandler

/-- `read`, as far as the connection itself is concerned: the role of its address before
and after. -/
def serve (session : Option Session) (request : Request) :
    Prog RedisSig (Response × Option Session) :=
  (fun out => (out.1, out.2.roles_ ())) <$>
    read env (⟨fun _ => session⟩ : RoleinfoManager Unit) () request

lemma serve_LOGIN (session : Option Session) (req : LoginReq) :
    serve env session (.LOGIN req)
      = RoleinfoManager.PullRoleInfoFromDB env req.account >>= fun role_ptr =>
          MinigameFakeLoginService env req >>= fun rsp =>
            Prog.ret (.LOGIN rsp, session <|> role_ptr.map fun role => ⟨req.account, role⟩) := by
  rw [serve, read, Prog.map_bind]
  refine congrArg (_ >>= ·) (funext fun role_ptr => ?_)
  rw [Prog.map_bind]
  refine congrArg (_ >>= ·) (funext fun rsp => congrArg (fun s => Prog.ret (_, s)) ?_)
  cases role_ptr with
  | none => cases session <;> rfl
  | some role =>
      cases session with
      | none =>
          change Function.update (fun _ : Unit => (none : Option Session)) () _ () = _
          rw [Function.update_self]
          rfl
      | some session => rfl

lemma serve_REGISTER (session : Option Session) (req : RegisterReq) :
    serve env session (.REGISTER req)
      = MinigameRegisterService env req >>= fun rsp => Prog.ret (.REGISTER rsp, session) := by
  rw [serve, read, Prog.map_bind]
  rfl

lemma serve_handedOn {request : Request} (h : request.handedOn) (session : Option Session) :
    serve env session request
      = RunSyncService env .empty ((session.map Session.role).getD {}) request >>= fun out =>
          Prog.ret (out.1, session.map fun s => { s with role := out.2 }) := by
  rw [serve, read_handedOn env h, Prog.map_bind]
  refine congrArg (_ >>= ·) (funext fun out => congrArg (fun s => Prog.ret (_, s)) ?_)
  change Function.update (fun _ : Unit => session) () (session.map _) () = _
  rw [Function.update_self]

variable {Addr : Type} [DecidableEq Addr]

/-- **One role**: a request reads and changes the role of its own address only. -/
theorem read_eq_serve (role_manager_ : RoleinfoManager Addr) (addr : Addr) (request : Request) :
    read env role_manager_ addr request
      = serve env (role_manager_.roles_ addr) request >>= fun out =>
          Prog.ret (out.1, ⟨Function.update role_manager_.roles_ addr out.2⟩) := by
  cases request with
  | LOGIN req =>
      rw [serve_LOGIN, read, Prog.bind_bind]
      refine congrArg (_ >>= ·) (funext fun role_ptr => ?_)
      rw [Prog.bind_bind]
      refine congrArg (_ >>= ·) (funext fun rsp => congrArg (fun m => Prog.ret (_, m)) ?_)
      cases hbound : role_manager_.roles_ addr with
      | none =>
          cases role_ptr with
          | none =>
              change role_manager_ = ⟨Function.update role_manager_.roles_ addr none⟩
              rw [← hbound, Function.update_eq_self]
          | some role =>
              change (role_manager_.AddRole addr _).2 = _
              rw [RoleinfoManager.AddRole, hbound]
              rfl
      | some session =>
          have hself : (⟨Function.update role_manager_.roles_ addr (some session)⟩ :
              RoleinfoManager Addr) = role_manager_ := by
            rw [← hbound, Function.update_eq_self]
          cases role_ptr with
          | none => exact hself.symm
          | some role =>
              change (role_manager_.AddRole addr _).2 = _
              rw [RoleinfoManager.AddRole_bound (by simp [hbound])]
              exact hself.symm
  | REGISTER req =>
      rw [serve_REGISTER, read, Prog.bind_bind]
      refine congrArg (_ >>= ·) (funext fun rsp => congrArg (fun m => Prog.ret (_, m)) ?_)
      change role_manager_ = ⟨Function.update role_manager_.roles_ addr (role_manager_.roles_ addr)⟩
      rw [Function.update_eq_self]
  | QUERY_TASK req | UPDATE_TASK req | ERASE_ROLE req =>
      rw [serve_handedOn env rfl, read_handedOn env rfl, Prog.bind_bind]
      rfl

/-- A request is answered by a response of its own command. -/
lemma serve_answers (session : Option Session) (request : Request) :
    (serve env session request).Ensures fun out => Answers request out.1 :=
  (read_answers env _ () request).bind fun _ h => h

end RoleInjectHandler

/-! ### How many commands a request issues -/

lemma RoleinfoManager.PullRoleInfoFromDB_within (username : String) :
    (RoleinfoManager.PullRoleInfoFromDB env username).Within 1 := by
  rw [RoleinfoManager.PullRoleInfoFromDB]
  refine fun reply => Prog.Within.ite (Prog.within_ret 0 _) ?_
  split <;> exact Prog.within_ret 0 _

lemma RoleinfoManager.PushRoleToDB_within (role : RoleInfo) :
    (RoleinfoManager.PushRoleToDB env role).Within 1 :=
  fun _ => Prog.Within.ite (Prog.within_ret 0 _) (Prog.within_ret 0 _)

lemma MinigameFakeLoginService_within (req : LoginReq) :
    (MinigameFakeLoginService env req).Within 3 := by
  rw [MinigameFakeLoginService]
  refine fun reply => Prog.Within.ite (Prog.within_ret 2 _) ?_
  refine Prog.Within.ite (Prog.within_ret 2 _) ?_
  refine (RoleinfoManager.PullRoleInfoFromDB_within env _).bind (n := 1) fun role_ptr => ?_
  cases role_ptr with
  | none => exact Prog.within_ret 1 _
  | some role =>
      refine Prog.Within.ite ?_ (Prog.within_ret 1 _)
      exact (RoleinfoManager.PushRoleToDB_within env _).bind (n := 0) fun _ => Prog.within_ret 0 _

lemma MinigameRegisterService_within (req : RegisterReq) :
    (MinigameRegisterService env req).Within 4 := by
  rw [MinigameRegisterService]
  refine fun password => Prog.Within.ite (Prog.within_ret 3 _) ?_
  refine fun stored => Prog.Within.ite (Prog.within_ret 2 _) ?_
  refine fun counter => Prog.Within.ite (Prog.within_ret 1 _) ?_
  exact fun role => Prog.Within.ite (Prog.within_ret 0 _) (Prog.within_ret 0 _)

lemma TaskDataManager.PullTaskInfoFromDB_within (self : TaskDataManager) (gid : Int32) :
    (self.PullTaskInfoFromDB env gid).Within 1 := by
  rw [TaskDataManager.PullTaskInfoFromDB]
  refine fun reply => Prog.Within.ite (Prog.within_ret 0 _) ?_
  exact Prog.Within.ite (Prog.within_ret 0 _) (Prog.within_ret 0 _)

lemma TaskDataManager.PushTaskInfoToDB_within (self : TaskDataManager) (gid : Int32) :
    (self.PushTaskInfoToDB env gid).Within 1 := by
  rw [TaskDataManager.PushTaskInfoToDB]
  cases self.task_infos_ gid with
  | none => exact Prog.within_ret 1 _
  | some info => exact fun _ => Prog.Within.ite (Prog.within_ret 0 _) (Prog.within_ret 0 _)

lemma TaskUpdateService.call_within (self : TaskUpdateService) (role : RoleInfo)
    (req : TaskUpdateReq) : (self.call env role req).Within 2 := by
  have hpush (manager : TaskDataManager) (gid : Int32) :
      (manager.PushTaskInfoToDB env gid >>= fun _ =>
        Prog.ret (TaskUpdateRsp.answer req.rpcid .SUCCEED,
          (⟨manager⟩ : TaskUpdateService))).Within 1 :=
    (manager.PushTaskInfoToDB_within env gid).bind (n := 0) fun _ => Prog.within_ret 0 _
  rw [TaskUpdateService.call]
  refine Prog.Within.ite ((hpush _ _).mono (Nat.le_succ 1)) ?_
  exact (self.task_data_manager_.PullTaskInfoFromDB_within env _).bind (n := 1)
    fun pulled => hpush _ _

lemma TaskQueryService.call_within (self : TaskQueryService) (role : RoleInfo)
    (req : TaskQueryReq) : (self.call env role req).Within 1 := by
  rw [TaskQueryService.call]
  refine (self.task_data_manager_.PullTaskInfoFromDB_within env _).bind (n := 0) fun pulled => ?_
  exact Prog.Within.ite (Prog.within_ret 0 _) (Prog.within_ret 0 _)

lemma EraseRoleService_within (role : RoleInfo) (req : EraseRoleReq) :
    (EraseRoleService env role req).Within 1 := by
  rw [EraseRoleService]
  refine (RoleinfoManager.PushRoleToDB_within env _).bind (n := 0) fun pushed => ?_
  exact Prog.Within.ite (Prog.within_ret 0 _) (Prog.within_ret 0 _)

/-- The commands a request issues at most. -/
def Request.commands : Request → ℕ
  | LOGIN _ => 4
  | REGISTER _ => 4
  | QUERY_TASK _ => 1
  | UPDATE_TASK _ => 2
  | ERASE_ROLE _ => 1

/-- Every service issues so many commands at most, whatever it is replied. -/
lemma RunSyncService_within (task_manager : TaskDataManager) (role : RoleInfo)
    (request : Request) :
    (RunSyncService env task_manager role request).Within request.commands := by
  cases request with
  | LOGIN req =>
      exact ((MinigameFakeLoginService_within env req).bind (n := 0)
        fun rsp => Prog.within_ret 0 _).mono (Nat.le_succ 3)
  | REGISTER req =>
      exact (MinigameRegisterService_within env req).bind (n := 0) fun rsp => Prog.within_ret 0 _
  | QUERY_TASK req =>
      exact ((TaskQueryService.call_within env _ role req).bind (n := 0)
        fun out => Prog.within_ret 0 out.1).bind (n := 0) fun rsp => Prog.within_ret 0 _
  | UPDATE_TASK req =>
      exact ((TaskUpdateService.call_within env _ role req).bind (n := 0)
        fun out => Prog.within_ret 0 out.1).bind (n := 0) fun rsp => Prog.within_ret 0 _
  | ERASE_ROLE req =>
      exact (EraseRoleService_within env role req).bind (n := 0) fun out => Prog.within_ret 0 _

lemma RoleInjectHandler.serve_within (session : Option Session) (request : Request) :
    (RoleInjectHandler.serve env session request).Within request.commands := by
  have hhanded (h : request.handedOn) :
      (RoleInjectHandler.serve env session request).Within request.commands := by
    rw [serve_handedOn env h]
    exact (RunSyncService_within env _ _ request).bind (n := 0) fun out => Prog.within_ret 0 _
  cases request with
  | LOGIN req =>
      rw [serve_LOGIN]
      refine (RoleinfoManager.PullRoleInfoFromDB_within env _).bind (n := 3) fun role_ptr => ?_
      exact (MinigameFakeLoginService_within env req).bind (n := 0) fun rsp => Prog.within_ret 0 _
  | REGISTER req =>
      rw [serve_REGISTER]
      exact (MinigameRegisterService_within env req).bind (n := 0) fun rsp => Prog.within_ret 0 _
  | QUERY_TASK req | UPDATE_TASK req | ERASE_ROLE req => exact hhanded rfl

/-! ### All connections -/

section Threads

variable {Addr : Type}

/-- The connections of the server, each with the role of its address. -/
abbrev Threads (Addr : Type) :=
  Clients RedisSig Addr (Option Session) Request Response (Bytes → Option Bytes) Outcome

/-- What can happen on the connections. -/
abbrev Threads.Move (Addr : Type) := Clients.Move Addr Request Outcome

/-- The server with these roles in memory, over a store. -/
def Threads.start (role_manager_ : RoleinfoManager Addr) (db : Bytes → Option Bytes) :
    Threads Addr := Clients.start role_manager_.roles_ db

variable [DecidableEq Addr]

/-- The server after some moves. -/
def Threads.run (moves : List (Threads.Move Addr)) (T : Threads Addr) : Threads Addr :=
  Clients.run (fun _ => RoleInjectHandler.serve env) Redis.execute T moves

lemma Threads.sound_run (role_manager_ : RoleinfoManager Addr) (db : Bytes → Option Bytes)
    (moves : List (Threads.Move Addr)) :
    Clients.Sound (fun _ => RoleInjectHandler.serve env) Redis.execute
      (Threads.start role_manager_ db) (Threads.run env moves (.start role_manager_ db)) :=
  Clients.sound_run _ _ role_manager_.roles_ db moves

/-- The answers of a server answer their requests. -/
lemma Threads.answers_run (role_manager_ : RoleinfoManager Addr) (db : Bytes → Option Bytes)
    (moves : List (Threads.Move Addr)) :
    ∀ a ∈ (Threads.run env moves (.start role_manager_ db)).answered,
      Answers a.request a.response := by
  have hserve (addr : Addr) (n : ℕ) (session : Option Session) (request : Request) (_ : True)
      (_ : True) : (RoleInjectHandler.serve env session request).Keeps Redis.execute
        (fun _ _ _ => True) (fun _ => True) fun out => True ∧ Answers request out.1 :=
    Prog.Keeps.of_asks (fun _ _ _ _ _ h => h) (Prog.asks_true _)
      ((RoleInjectHandler.serve_answers env session request).mono fun _ h => ⟨trivial, h⟩)
  have hstart : Clients.Kept Redis.execute (fun _ _ _ _ => True) (fun _ => True) (fun _ _ => True)
      (fun _ _ request response => Answers request response) (Threads.start role_manager_ db) :=
    Clients.kept_start trivial fun _ => trivial
  exact (hstart.run hserve (fun _ _ _ _ => trivial) fun _ _ => trivial).answered

/-- **Every connection is answered**: a request received while its connection is idle is
answered after four turns of the connection's own thread, or as many as it has commands, by
a response of its own command, whatever the store replies and whatever the other connections
do in between. -/
theorem answered_after_receive (role_manager_ : RoleinfoManager Addr) (db : Bytes → Option Bytes)
    (before moves : List (Threads.Move Addr)) (addr : Addr) (request : Request)
    (hidle : (Threads.run env before (.start role_manager_ db)).running addr = none)
    (hmoves : request.commands ≤ moves.countP fun m => m.isCommandOf addr) :
    ∃ a ∈ (Threads.run env (before ++ .receive addr request :: (moves ++ [.answer addr]))
        (.start role_manager_ db)).answered,
      a.call = (addr, (Threads.run env before (.start role_manager_ db)).turn addr) ∧
        a.request = request ∧ Answers request a.response := by
  have hanswers := Threads.answers_run env role_manager_ db
    (before ++ .receive addr request :: (moves ++ [.answer addr]))
  rw [Threads.run, Clients.run, List.foldl_append, List.foldl_cons] at hanswers ⊢
  generalize hT : Threads.run env before (.start role_manager_ db) = T at hidle hanswers ⊢
  have hbegin : T.step (fun _ => RoleInjectHandler.serve env) Redis.execute (.receive addr request)
      = T.begin (fun _ => RoleInjectHandler.serve env) addr request := by
    simp only [Clients.step, hidle]
  obtain ⟨a, ha, hcall, hrequest⟩ := Clients.answered_of_turns
    (fun _ => RoleInjectHandler.serve env) Redis.execute
    (Clients.running_begin_self (C := T) (fun _ => RoleInjectHandler.serve env))
    (RoleInjectHandler.serve_within env (T.own addr) request) hmoves
  rw [← hbegin] at ha
  rw [Threads.run, Clients.run] at hT
  rw [hT] at hanswers ⊢
  exact ⟨a, ha, hcall, hrequest, hrequest ▸ hanswers a ha⟩

/-- A login while another connection updates. -/
theorem answered_after_receive_login :
    ((Threads.run Env.wire [.receive true (.UPDATE_TASK {})]
        (.start (⟨fun _ => none⟩ : RoleinfoManager Bool) fun _ => none)).running false = none ∧
      (Request.LOGIN {}).commands ≤ List.countP (fun m => Clients.Move.isCommandOf false m)
        ([.command false .ok, .command true .ok, .command false .ok, .command false .ok,
          .command false .ok] : List (Threads.Move Bool))) ∧
    ∃ a ∈ (Threads.run Env.wire ([.receive true (.UPDATE_TASK {})] ++
        .receive false (.LOGIN {}) ::
          ([.command false .ok, .command true .ok, .command false .ok, .command false .ok,
            .command false .ok] ++ [.answer false]))
        (.start (⟨fun _ => none⟩ : RoleinfoManager Bool) fun _ => none)).answered,
      a.call = (false, (Threads.run Env.wire [.receive true (.UPDATE_TASK {})]
        (.start (⟨fun _ => none⟩ : RoleinfoManager Bool) fun _ => none)).turn false) ∧
        a.request = .LOGIN {} ∧ Answers (.LOGIN {}) a.response :=
  ⟨⟨rfl, by decide⟩, answered_after_receive Env.wire _ _ _ _ _ _ rfl (by decide)⟩

end Threads

end LittleB
