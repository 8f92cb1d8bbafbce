import LittleB.Answers
import LittleB.Handlers.CommandDistributor
import LittleB.Handlers.Response
import LittleB.Pipeline.Encoder
import LittleB.Pipeline.Inbound

/-!
The whole pipeline of `newPipeline` behind the decoder, with the services that `main`
registers: frames in, frames out.

* `outbound`: the handlers a response passes on its way to the socket;
* `RoleInjectHandler.receive`: the function of the source, on messages, with
  `CommandDistributor` behind it;
* `Backend`, `Backend.read`: the server with what it has written so far; one more frame
  from some address, which stops at the first exception or failing `assert`;
* `ReceivesAsRead`, `receivesAsRead`: `receive` against the typed model;
* `requestOf`: what a frame asks for; `Backend.Simulates`: the frames and the requests
  in step, `read_of_none`, `read_of_some`;
* `one_response_per_request`: what is written, for every sequence of frames.
-/

namespace LittleB

variable (env : Env) (codecs : Codecs) {Addr : Type} [DecidableEq Addr]

/-! ### The handlers -/

/-- A response on its way from the service to the socket. -/
def outbound (msg : UInt32 × Message codecs.classes) : Except PrependFault IOBuf :=
  newPipeline.prepender.write (OpcodeInjectHandler.write (CmdMessageSerializeHandler.write msg))

/-- `RoleInjectHandler::read` on a message, with `CommandDistributor::read` behind it: the
response, if there is one, and the roles.  The null pointer of a failed cast is
dereferenced. -/
def RoleInjectHandler.receive (command_manager_ : CommandManager codecs.classes (Prog RedisSig) Id)
    (role_manager_ : RoleinfoManager Addr) (addr : Addr) (cmd_id : UInt32)
    (msg : Message codecs.classes) :
    Except Abort
      (Prog RedisSig (Option (UInt32 × Message codecs.classes) × RoleinfoManager Addr)) :=
  if cmd_id = CmdID.LOGIN then
    match msg.dynamic_pointer_cast .LoginReq with
    | none => .error .undefined
    | some req => .ok do
        let role_ptr ← RoleinfoManager.PullRoleInfoFromDB env req.account
        let role_manager_ := match role_ptr with
          | some role => (role_manager_.AddRole addr ⟨req.account, role⟩).2
          | none => role_manager_
        let rsp ← MinigameFakeLoginService env req
        return (some (cmd_id, ⟨.LoginRsp, rsp⟩), role_manager_)
  else if cmd_id = CmdID.REGISTER then
    match msg.dynamic_pointer_cast .RegisterReq with
    | none => .error .undefined
    | some req => .ok do
        let rsp ← MinigameRegisterService env req
        return (some (cmd_id, ⟨.RegisterRsp, rsp⟩), role_manager_)
  else do
    let role := handedRole role_manager_ addr
    match ← CommandDistributor.read false command_manager_ cmd_id role msg with
    | .invalid _ => return .ret (none, role_manager_)
    | .sync response | .async response =>
        return (fun out => (some out.1, role_manager_.SetRole addr out.2)) <$> response

/-- What keeps the pipeline from taking the next frame. -/
inductive Stop where
  | inbound (fault : Fault)
  | abort (abort : Abort)
  | outbound (fault : PrependFault)

/-- The server with what it has written to each address, the last first. -/
structure Backend (Addr : Type) where
  role_manager_ : RoleinfoManager Addr
  redis : Redis
  written : List (Addr × Bytes)

namespace Backend

/-- The server as it starts, over a store. -/
def start (redis : Redis) : Backend Addr := ⟨.empty, redis, []⟩

/-- A message that was parsed goes to its service, and the response back to the socket. -/
def receive (B : Backend Addr) (addr : Addr) (cmd_id : UInt32) (pb : Message codecs.classes) :
    Except Stop (Backend Addr) :=
  match RoleInjectHandler.receive env codecs (main.managers env codecs).register_manager
      B.role_manager_ addr cmd_id pb with
  | .error e => .error (.abort e)
  | .ok handled =>
      let out := handled.run Redis.exec B.redis
      match out.1.1 with
      | none => .ok ⟨out.1.2, out.2, B.written⟩
      | some response =>
          match outbound codecs response with
          | .error e => .error (.outbound e)
          | .ok buf => .ok ⟨out.1.2, out.2, (addr, buf.chain) :: B.written⟩

/-- One frame from one address. -/
def read (B : Backend Addr) (input : Addr × IOBuf) : Except Stop (Backend Addr) :=
  match LittleB.inbound (main.managers env codecs).reflection_manager input.2 with
  | .error e => .error (.inbound e)
  | .ok (.invalid _) => .ok B
  | .ok (.readEOF _ _) =>
      .ok { B with role_manager_ := RoleInjectHandler.readEOF B.role_manager_ input.1 }
  | .ok (.read cmd_id _ pb) => B.receive env codecs input.1 cmd_id pb

/-- Frames from any addresses, one after the other. -/
def readAll : List (Addr × IOBuf) → Backend Addr → Except Stop (Backend Addr)
  | [], B => .ok B
  | input :: inputs, B => do
      let B ← B.read env codecs input
      readAll inputs B

/-- What has been written to an address. -/
def writtenTo (B : Backend Addr) (addr : Addr) : Bytes :=
  (B.written.reverse.filter fun e => e.1 = addr).flatMap Prod.snd

end Backend

/-! ### What a frame asks for -/

/-- A request of a class, when the octets parse. -/
def parsed (c : MessageClass) (request : c.Msg → Request) (bs : Bytes) : Option Request :=
  match codecs.ParseFromArray c bs with
  | (true, req) => some (request req)
  | (false, _) => none

/-- The request of a frame: the first two octets are its command, and the others parse
as the request of that command. -/
def requestOf (f : Bytes) : Option Request :=
  if opcode f = CmdID.LOGIN then parsed codecs .LoginReq .LOGIN (f.drop 2)
  else if opcode f = CmdID.REGISTER then parsed codecs .RegisterReq .REGISTER (f.drop 2)
  else if opcode f = CmdID.QUERY_TASK then parsed codecs .TaskQueryReq .QUERY_TASK (f.drop 2)
  else if opcode f = CmdID.UPDATE_TASK then parsed codecs .TaskUpdateReq .UPDATE_TASK (f.drop 2)
  else if opcode f = CmdID.ERASE_ROLE then parsed codecs .EraseRoleReq .ERASE_ROLE (f.drop 2)
  else none

/-- The requests of frames, each from its address. -/
def requestsOf (frames : List (Addr × Bytes)) : List (Addr × Request) :=
  frames.filterMap fun f => (requestOf codecs f.2).map fun request => (f.1, request)

/-- What becomes of a frame: it is read as its request, and dropped when it has none. -/
inductive Takes : Incoming (Message codecs.classes) → Option Request → Prop
  | invalid (cmd_id : UInt32) : Takes (.invalid cmd_id) none
  | readEOF (cmd_id : UInt32) (bs : Bytes) : Takes (.readEOF cmd_id bs) none
  | read (request : Request) (bs : Bytes) :
      Takes (.read request.cmd_id bs (request.message codecs)) (some request)

/-- A body under the prototype of its class. -/
lemma takes_parsed (c : MessageClass) (request : c.Msg → Request) {cmd_id : UInt32}
    (h : ∀ req, (request req).cmd_id = cmd_id ∧ (request req).message codecs = ⟨c, req⟩)
    (bs : Bytes) :
    Takes codecs (CmdMessageSerializeHandler.parse cmd_id (codecs.classes.prototype c) bs)
      (parsed codecs c request bs) := by
  have hproto : (codecs.classes.prototype c).ParseFromArray bs
      = ((codecs.ParseFromArray c bs).1, ⟨c, (codecs.ParseFromArray c bs).2⟩) := rfl
  rw [CmdMessageSerializeHandler.parse, parsed, hproto]
  cases codecs.ParseFromArray c bs with
  | mk ok req =>
      cases ok with
      | false => exact .readEOF cmd_id bs
      | true =>
          have hread : Takes codecs (.read (request req).cmd_id bs ((request req).message codecs))
              (some (request req)) := .read (request req) bs
          rw [(h req).1, (h req).2] at hread
          exact hread

/-- The prototypes of `main`, by command. -/
lemma reflection_data_managers (cmd_id : UInt32) :
    (main.managers env codecs).reflection_manager.reflection_data_ cmd_id
      = if cmd_id = CmdID.LOGIN then some (codecs.classes.prototype .LoginReq)
        else if cmd_id = CmdID.REGISTER then some (codecs.classes.prototype .RegisterReq)
        else if cmd_id = CmdID.QUERY_TASK then some (codecs.classes.prototype .TaskQueryReq)
        else if cmd_id = CmdID.UPDATE_TASK then some (codecs.classes.prototype .TaskUpdateReq)
        else if cmd_id = CmdID.ERASE_ROLE then some (codecs.classes.prototype .EraseRoleReq)
        else none := by
  change Function.update (Function.update (Function.update (Function.update (Function.update
    (fun _ => none) _ _) _ _) _ _) _ _) _ _ cmd_id = _
  split_ifs with h1 h2 h3 h4 h5
  · subst h1
    rfl
  · subst h2
    rfl
  · subst h3
    rfl
  · subst h4
    rfl
  · subst h5
    rfl
  · refine (Function.update_of_ne h5 _ _).trans ((Function.update_of_ne h4 _ _).trans ?_)
    refine (Function.update_of_ne h3 _ _).trans ((Function.update_of_ne h2 _ _).trans ?_)
    exact Function.update_of_ne h1 _ _

/-- The frames that `main`'s registrations admit are those with a request. -/
lemma takes_requestOf (f : Bytes) :
    Takes codecs (requested (main.managers env codecs).reflection_manager f)
      (requestOf codecs f) := by
  rw [requested, requestOf, reflection_data_managers]
  generalize opcode f = cmd_id
  split_ifs with h1 h2 h3 h4 h5
  · subst h1
    exact takes_parsed codecs .LoginReq .LOGIN (fun req => ⟨rfl, rfl⟩) _
  · subst h2
    exact takes_parsed codecs .RegisterReq .REGISTER (fun req => ⟨rfl, rfl⟩) _
  · subst h3
    exact takes_parsed codecs .TaskQueryReq .QUERY_TASK (fun req => ⟨rfl, rfl⟩) _
  · subst h4
    exact takes_parsed codecs .TaskUpdateReq .UPDATE_TASK (fun req => ⟨rfl, rfl⟩) _
  · subst h5
    exact takes_parsed codecs .EraseRoleReq .ERASE_ROLE (fun req => ⟨rfl, rfl⟩) _
  · exact .invalid cmd_id

/-! ### One request -/

/-- What the handlers do with a request is what the typed model of them does. -/
def ReceivesAsRead (role_manager_ : RoleinfoManager Addr) (addr : Addr) (request : Request) :
    Prop :=
  ∃ handled, RoleInjectHandler.receive env codecs (main.managers env codecs).register_manager
      role_manager_ addr request.cmd_id (request.message codecs) = .ok handled ∧
    ∀ redis, handled.run Redis.exec redis =
      let out := (RoleInjectHandler.read env role_manager_ addr request).run Redis.exec redis
      ((some (request.cmd_id, out.1.1.message codecs), out.1.2), out.2)

/-- A request that `RoleInjectHandler` does not answer itself is given to the service of
its command, with the role of the address. -/
lemma receivesAsRead_handedOn (role_manager_ : RoleinfoManager Addr) (addr : Addr)
    {request : Request} (h : request.handedOn) (T : SyncService codecs.classes (Prog RedisSig))
    (hT : (main.managers env codecs).register_manager.sync_services_ request.cmd_id
      = some T.decorated)
    (req : T.RequestType.Msg) (hreq : request.message codecs = ⟨T.RequestType, req⟩)
    (hcall : ∀ role redis,
      let out := (T.call role req).run Redis.exec redis
      let out' := (RunSyncService env .empty role request).run Redis.exec redis
      (⟨T.ResponseType, out.1.1⟩, out.1.2, out.2) = (out'.1.1.message codecs, out'.1.2, out'.2)) :
    ReceivesAsRead env codecs role_manager_ addr request := by
  have hlogin : request.cmd_id ≠ CmdID.LOGIN ∧ request.cmd_id ≠ CmdID.REGISTER := by
    cases request with
    | LOGIN req => exact absurd h Bool.false_ne_true
    | REGISTER req => exact absurd h Bool.false_ne_true
    | QUERY_TASK req | UPDATE_TASK req | ERASE_ROLE req =>
        simp [Request.cmd_id, CmdID.LOGIN, CmdID.REGISTER]
  have hread := CommandDistributor.read_sync hT
    (RoleInjectHandler.handedRole role_manager_ addr) req
  rw [ReceivesAsRead, RoleInjectHandler.receive, if_neg hlogin.1, if_neg hlogin.2, hreq]
  simp only [hread]
  refine ⟨_, rfl, fun redis => ?_⟩
  obtain ⟨hrsp, hrole, hredis⟩ : _ ∧ _ ∧ _ := by
    simpa only [Prod.mk.injEq] using hcall (RoleInjectHandler.handedRole role_manager_ addr) redis
  simp only [Prog.run_map, RoleInjectHandler.read_handedOn env h, Prog.run_bind, Prog.run_ret]
  rw [hrsp, hrole, hredis]

/-- The handlers answer a request as the typed model of them does. -/
lemma receivesAsRead (role_manager_ : RoleinfoManager Addr) (addr : Addr) (request : Request) :
    ReceivesAsRead env codecs role_manager_ addr request := by
  cases request with
  | LOGIN req =>
      refine ⟨_, rfl, fun redis => ?_⟩
      simp only [RoleInjectHandler.read, Prog.run_bind]
      rfl
  | REGISTER req =>
      refine ⟨_, rfl, fun redis => ?_⟩
      simp only [RoleInjectHandler.read, Prog.run_bind]
      rfl
  | QUERY_TASK req =>
      refine receivesAsRead_handedOn env codecs role_manager_ addr rfl
        (main.queryService env codecs) rfl req rfl fun role redis => ?_
      simp only [main.queryService, RunSyncService, Prog.run_bind]
      rfl
  | UPDATE_TASK req =>
      refine receivesAsRead_handedOn env codecs role_manager_ addr rfl
        (main.updateService env codecs) rfl req rfl fun role redis => ?_
      simp only [main.updateService, RunSyncService, Prog.run_bind]
      rfl
  | ERASE_ROLE req =>
      refine receivesAsRead_handedOn env codecs role_manager_ addr rfl
        (main.eraseService env codecs) rfl req rfl fun role redis => ?_
      simp only [main.eraseService, RunSyncService, Prog.run_bind]
      rfl

/-! ### What is written -/

/-- The frame of a response: its length, the number of the request's command plus one,
and the serialized message. -/
def answerFrame (e : Request × Response) : Bytes :=
  let b := (e.2.message codecs).SerializeToArray
  Bytes.toLE 2 (2 + b.length) ++ (Bytes.toLE 2 (e.1.cmd_id + 1).toUInt16.toNat ++ b)

/-- A response of up to 65533 octets gets through the handlers. -/
lemma outbound_ok {request : Request} {response : Response}
    (h : (response.message codecs).SerializeToArray.length ≤ 65533) :
    ∃ buf, outbound codecs (request.cmd_id, response.message codecs) = .ok buf ∧
      buf.chain = answerFrame codecs (request, response) := by
  have hchain := chain_write (request.cmd_id, response.message codecs)
  have hfits : (OpcodeInjectHandler.write (CmdMessageSerializeHandler.write
      (request.cmd_id, response.message codecs))).chain.length < 65536 := by
    rw [hchain, responseBody_length]
    change 2 + (response.message codecs).SerializeToArray.length < 65536
    omega
  obtain ⟨buf, hbuf, hframe⟩ := write_of_lt hfits
  refine ⟨buf, hbuf, ?_⟩
  rw [hframe, hchain, frame, Framer.lengthPrefix, responseBody_length]
  rfl

/-- The backend and the server of the typed model in step. -/
structure Backend.Simulates (B : Backend Addr) (S : Server Addr) : Prop where
  role_manager_ : B.role_manager_ = S.role_manager_
  redis : B.redis = S.redis
  written : B.written = S.log.map fun e => (e.1, answerFrame codecs e.2)

namespace Backend

variable {B : Backend Addr} {S : Server Addr} {addr : Addr} {f : Bytes}

/-- A frame without a request leaves everything as it is. -/
lemma read_of_none (hlong : 2 ≤ f.length) (h : requestOf codecs f = none) :
    B.read env codecs (addr, .single f) = .ok B := by
  have htakes := takes_requestOf env codecs f
  rw [h] at htakes
  rw [read, inbound_single _ hlong]
  generalize requested (main.managers env codecs).reflection_manager f = incoming at htakes ⊢
  cases htakes with
  | invalid cmd_id => rfl
  | readEOF cmd_id bs => rfl

/-- **The step**: a frame with a request is answered by one frame. -/
lemma read_of_some {request : Request} (hlong : 2 ≤ f.length)
    (h : requestOf codecs f = some request) (hsim : B.Simulates codecs S)
    (hsize : ∀ e ∈ (S.step env (addr, request)).log,
      (e.2.2.message codecs).SerializeToArray.length ≤ 65533) :
    ∃ B', B.read env codecs (addr, .single f) = .ok B' ∧
      B'.Simulates codecs (S.step env (addr, request)) := by
  have htakes := takes_requestOf env codecs f
  rw [h] at htakes
  rw [read, inbound_single _ hlong]
  generalize requested (main.managers env codecs).reflection_manager f = incoming at htakes ⊢
  cases htakes with
  | read request bs =>
      obtain ⟨handled, hhandled, hrun⟩ := receivesAsRead env codecs S.role_manager_ addr request
      obtain ⟨buf, hbuf, hframe⟩ : ∃ buf, outbound codecs (request.cmd_id,
          Response.message codecs ((RoleInjectHandler.read env S.role_manager_ addr request).run
            Redis.exec S.redis).1.1) = .ok buf ∧ _ :=
        outbound_ok codecs (hsize _ (List.mem_cons_self ..))
      refine ⟨⟨(S.step env (addr, request)).role_manager_, (S.step env (addr, request)).redis,
        (addr, buf.chain) :: B.written⟩, ?_, rfl, rfl, ?_⟩
      · change B.receive env codecs addr request.cmd_id (request.message codecs) = _
        rw [receive, hsim.role_manager_, hsim.redis, hhandled]
        simp only [hrun, hbuf]
        rfl
      · rw [hframe, hsim.written]
        rfl

/-- **The run**: the frames with a request are answered one by one. -/
lemma readAll_simulates (frames : List (Addr × Bytes)) (hlong : ∀ f ∈ frames, 2 ≤ f.2.length)
    (hsim : B.Simulates codecs S)
    (hsize : ∀ e ∈ (S.run env (requestsOf codecs frames)).log,
      (e.2.2.message codecs).SerializeToArray.length ≤ 65533) :
    ∃ B', readAll env codecs (frames.map fun f => (f.1, .single f.2)) B = .ok B' ∧
      B'.Simulates codecs (S.run env (requestsOf codecs frames)) := by
  induction frames generalizing B S with
  | nil => exact ⟨B, rfl, hsim⟩
  | cons f frames ih =>
      obtain ⟨addr, f⟩ := f
      obtain ⟨hfirst, hothers⟩ := List.forall_mem_cons.mp hlong
      rw [List.map_cons, readAll]
      cases hrequest : requestOf codecs f with
      | none =>
          have hskip : requestsOf codecs ((addr, f) :: frames) = requestsOf codecs frames := by
            rw [requestsOf, List.filterMap_cons_none]
            · rfl
            · rw [hrequest]
              rfl
          rw [hskip] at hsize ⊢
          rw [read_of_none env codecs hfirst hrequest]
          exact ih hothers hsim hsize
      | some request =>
          have htake : requestsOf codecs ((addr, f) :: frames)
              = (addr, request) :: requestsOf codecs frames := by
            rw [requestsOf, List.filterMap_cons_some]
            · rfl
            · rw [hrequest]
              rfl
          rw [htake] at hsize ⊢
          have hnow : ∀ e ∈ (S.step env (addr, request)).log,
              (e.2.2.message codecs).SerializeToArray.length ≤ 65533 :=
            fun e he => hsize e (Server.log_subset_run env (requestsOf codecs frames) he)
          obtain ⟨B', hread, hsim'⟩ := read_of_some env codecs hfirst hrequest hsim hnow
          rw [hread]
          exact ih hothers hsim' hsize

end Backend

/-- **One response per request, in order**: for frames of at least two octets, from any
addresses and in one segment each, nothing stops the pipeline as long as no response is
longer than 65533 octets; what is written to an address is one frame for each frame from
it that has a request, and these frames are answered as if the others had not come. -/
theorem one_response_per_request (frames : List (Addr × Bytes)) (redis : Redis)
    (hlong : ∀ f ∈ frames, 2 ≤ f.2.length)
    (hsize : ∀ e ∈ (Server.run env (requestsOf codecs frames) (.start redis)).log,
      (e.2.2.message codecs).SerializeToArray.length ≤ 65533) :
    ∃ B, Backend.readAll env codecs (frames.map fun f => (f.1, .single f.2)) (.start redis)
        = .ok B ∧
      B.Simulates codecs (Server.run env (requestsOf codecs frames) (.start redis)) ∧
      let log := (Server.run env (requestsOf codecs frames) (.start redis)).log.reverse
      log.map (fun e => (e.1, e.2.1)) = requestsOf codecs frames ∧
      (∀ e ∈ log, e.2.2.cmd_id = e.2.1.cmd_id ∧ e.2.2.rpcid = e.2.1.rpcid) ∧
      ∀ addr, B.writtenTo addr
        = (log.filter fun e => e.1 = addr).flatMap fun e => answerFrame codecs e.2 := by
  have hstart : (Backend.start redis : Backend Addr).Simulates codecs (.start redis) :=
    ⟨rfl, rfl, rfl⟩
  obtain ⟨B, hread, hsim⟩ := Backend.readAll_simulates env codecs frames hlong hstart hsize
  refine ⟨B, hread, hsim, ?_, fun e he => ?_, fun addr => ?_⟩
  · exact Server.requests_run env (requestsOf codecs frames)
  · have hanswers : Answers e.2.1 e.2.2 :=
      Server.answers_run env (fun e h => by cases h) _ e (List.mem_reverse.mp he)
    exact ⟨hanswers.cmd_id_eq, hanswers.rpcid_eq⟩
  · rw [Backend.writtenTo, hsim.written, ← List.map_reverse, List.filter_map, List.flatMap_map]
    rfl

/-- A login request without a body, and a frame of a command that is not registered. -/
def twoFrames : List (ℕ × Bytes) := [(0, [101, 0]), (0, [1, 0, 5])]

lemma requestsOf_twoFrames : requestsOf .wire twoFrames = [(0, .LOGIN {})] := by
  have hparse : Codecs.wire.ParseFromArray .LoginReq [] = (true, {}) :=
    LoginReq.codec.parse_serialize_eq {}
  have hlogin : requestOf .wire [101, 0] = some (.LOGIN {}) := by
    change parsed _ .LoginReq .LOGIN [] = _
    rw [parsed, hparse]
  have hother : requestOf .wire [1, 0, 5] = none := rfl
  simp [requestsOf, twoFrames, hlogin, hother]

/-- Of the two frames the first is answered. -/
theorem one_response_per_request_login :
    ∃ B, Backend.readAll Env.wire .wire (twoFrames.map fun f => (f.1, .single f.2))
        (.start (.working fun _ => none)) = .ok B ∧
      B.writtenTo 0
        = answerFrame .wire (.LOGIN {}, .LOGIN (.answer 0 .LOGIN_NOT_REGISTERED false)) := by
  have hlog : (Server.run Env.wire (requestsOf .wire twoFrames)
      (.start (.working fun _ => none))).log
        = [(0, .LOGIN {}, .LOGIN (.answer 0 .LOGIN_NOT_REGISTERED false))] := by
    rw [requestsOf_twoFrames]
    rfl
  have hlong : ∀ f ∈ twoFrames, 2 ≤ f.2.length := by decide
  obtain ⟨B, hread, -, -, -, hwritten⟩ := one_response_per_request Env.wire .wire twoFrames
    (.working fun _ => none) hlong (by rw [hlog]; decide)
  refine ⟨B, hread, ?_⟩
  rw [hwritten, hlog]
  exact List.append_nil _

end LittleB
