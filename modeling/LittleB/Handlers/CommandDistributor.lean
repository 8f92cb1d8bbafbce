import LittleB.Registered

/-!
`libsrc/handlers/command_dispatcher.h` and `.cpp`: a request to the service of its
command, and why it always finds one.

* `Dispatched`, `CommandDistributor.read`: what becomes of a request;
* `RegistriesAgree`, `registries_agree`: the two registries after any registrations;
  `InStep.served`: a request that is forwarded gets past every check of the way to its
  service.
-/

namespace LittleB

variable {C : MessageClasses} [DecidableEq C.Class] {F Future : Type → Type} [Functor F]
  [Functor Future]

/-- What becomes of a request: nothing but a log line for an invalid command, else a
response that is written when the service returns, or when what it promises is there. -/
inductive Dispatched (C : MessageClasses) (F Future : Type → Type) where
  | invalid (cmd_id : UInt32)
  | sync (response : F ((UInt32 × Message C) × RoleInfo))
  | async (response : F (Future (UInt32 × Message C) × RoleInfo))

/-- `read`. -/
def CommandDistributor.read (NDEBUG : Bool) (command_manager_ : CommandManager C F Future)
    (cmd_id : UInt32) (role : RoleInfo) (request : Message C) :
    Except Abort (Dispatched C F Future) := do
  Abort.assert NDEBUG (command_manager_.IsValidCmd cmd_id)
  if command_manager_.IsSyncCmd cmd_id then
    if ¬ command_manager_.IsValidCmd cmd_id then
      return .invalid cmd_id
    let response_ptr ← command_manager_.RunSyncService NDEBUG cmd_id role request
    return .sync ((fun out => ((cmd_id, out.1), out.2)) <$> response_ptr)
  else if command_manager_.IsAsyncCmd cmd_id then
    let rsp_future ← command_manager_.RunAsyncService NDEBUG cmd_id role request
    return .async ((fun out => (Prod.mk cmd_id <$> out.1, out.2)) <$> rsp_future)
  else
    return .invalid cmd_id

namespace CommandDistributor

variable {command_manager_ : CommandManager C F Future} {cmd_id : UInt32}

/-- A request of the class a synchronous service expects reaches it. -/
lemma read_sync {T : SyncService C F}
    (h : command_manager_.sync_services_ cmd_id = some T.decorated) (role : RoleInfo)
    (req : C.Msg T.RequestType) :
    read false command_manager_ cmd_id role ⟨T.RequestType, req⟩
      = .ok (.sync ((fun out => ((cmd_id, out.1), out.2)) <$>
          (fun out => (⟨T.ResponseType, out.1⟩, out.2)) <$> T.call role req)) := by
  have hsync : command_manager_.IsSyncCmd cmd_id = true := by
    rw [CommandManager.IsSyncCmd, h]
    rfl
  have hvalid : command_manager_.IsValidCmd cmd_id = true := by
    rw [CommandManager.IsValidCmd, hsync, Bool.true_or]
  have hrun : command_manager_.RunSyncService false cmd_id role ⟨T.RequestType, req⟩
      = T.decorated role ⟨T.RequestType, req⟩ := by
    rw [CommandManager.RunSyncService, h]
    rfl
  rw [read, hvalid, hsync, hrun, SyncService.decorated_self]
  rfl

/-- A request of the class an asynchronous service expects reaches it. -/
lemma read_async {T : AsyncService C F Future}
    (hnone : command_manager_.sync_services_ cmd_id = none)
    (h : command_manager_.async_services_ cmd_id = some T.decorated) (role : RoleInfo)
    (req : C.Msg T.RequestType) :
    read false command_manager_ cmd_id role ⟨T.RequestType, req⟩
      = .ok (.async ((fun out => (Prod.mk cmd_id <$> out.1, out.2)) <$>
          (fun out => (Message.mk T.ResponseType <$> out.1, out.2)) <$> T.call role req)) := by
  have hsync : command_manager_.IsSyncCmd cmd_id = false := by
    rw [CommandManager.IsSyncCmd, hnone]
    rfl
  have hasync : command_manager_.IsAsyncCmd cmd_id = true := by
    rw [CommandManager.IsAsyncCmd, h]
    rfl
  have hvalid : command_manager_.IsValidCmd cmd_id = true := by
    rw [CommandManager.IsValidCmd, hasync, Bool.or_true]
  have hrun : command_manager_.RunAsyncService false cmd_id role ⟨T.RequestType, req⟩
      = T.decorated role ⟨T.RequestType, req⟩ := by
    rw [CommandManager.RunAsyncService, h]
    rfl
  rw [read, hvalid, hsync, hasync, hrun, AsyncService.decorated_self]
  rfl

end CommandDistributor

/-- What the two registries know of each other behind some calls, and what becomes of
the requests that are forwarded. -/
structure RegistriesAgree (calls : List (Registration C F Future)) (M : Managers C F Future) :
    Prop where
  /-- The ids of the prototypes are those of the services. -/
  ids : ∀ cmd_id, M.reflection_manager.IsValidCmd cmd_id ↔
    M.register_manager.IsSyncCmd cmd_id ∨ M.register_manager.IsAsyncCmd cmd_id
  /-- No id has services of both kinds. -/
  disjoint : ∀ cmd_id,
    ¬ (M.register_manager.IsSyncCmd cmd_id ∧ M.register_manager.IsAsyncCmd cmd_id)
  /-- A synchronous service comes from a call, and so does the prototype beside it. -/
  sync_prototype : ∀ cmd_id service, M.register_manager.sync_services_ cmd_id = some service →
    ∃ T, .sync cmd_id T ∈ calls ∧ service = T.decorated ∧
      M.reflection_manager.reflection_data_ cmd_id = some (C.prototype T.RequestType)
  /-- An asynchronous service likewise. -/
  async_prototype : ∀ cmd_id service, M.register_manager.async_services_ cmd_id = some service →
    ∃ T, .async cmd_id T ∈ calls ∧ service = T.decorated ∧
      M.reflection_manager.reflection_data_ cmd_id = some (C.prototype T.RequestType)
  /-- A request that is forwarded, with whatever role, gets past the `assert`s, the check
  of its command and the cast of the decorator. -/
  served : ∀ msg cmd_id parsed pb role,
    CmdMessageSerializeHandler.read M.reflection_manager msg = .read cmd_id parsed pb →
      ∃ out, CommandDistributor.read false M.register_manager cmd_id role pb = .ok out ∧
        ∀ invalid, out ≠ .invalid invalid

/-- A message that is forwarded was parsed under a prototype. -/
lemma CmdMessageSerializeHandler.of_read {M : Type} {reg : PbReflectionManager M}
    {msg : UInt32 × IOBuf} {cmd_id : UInt32} {parsed : Bytes} {pb : M}
    (h : CmdMessageSerializeHandler.read reg msg = .read cmd_id parsed pb) :
    ∃ data, reg.reflection_data_ cmd_id = some data ∧ data.ParseFromArray parsed = (true, pb) := by
  rw [CmdMessageSerializeHandler.read] at h
  cases hdata : reg.reflection_data_ msg.1 with
  | none => rw [hdata] at h; cases h
  | some data =>
      rw [hdata] at h
      change CmdMessageSerializeHandler.parse msg.1 data msg.2.data = _ at h
      rw [CmdMessageSerializeHandler.parse] at h
      split at h
      · cases h
      · next hparse =>
        obtain ⟨rfl, rfl, rfl⟩ := Incoming.read.inj h
        exact ⟨data, hdata, hparse⟩

/-- Registries in step serve what they forward. -/
lemma InStep.served {calls : List (Registration C F Future)} {M : Managers C F Future}
    (h : InStep calls M) {msg : UInt32 × IOBuf} {cmd_id : UInt32} {parsed : Bytes}
    {pb : Message C} (role : RoleInfo)
    (hread : CmdMessageSerializeHandler.read M.reflection_manager msg = .read cmd_id parsed pb) :
    ∃ out, CommandDistributor.read false M.register_manager cmd_id role pb = .ok out ∧
      ∀ invalid, out ≠ .invalid invalid := by
  obtain ⟨data, hdata, hparse⟩ := CmdMessageSerializeHandler.of_read hread
  have hentry := h cmd_id
  rw [hdata] at hentry
  generalize hs : M.register_manager.sync_services_ cmd_id = sync at hentry
  generalize ha : M.register_manager.async_services_ cmd_id = async at hentry
  cases hentry with
  | sync T hmem =>
      obtain ⟨req, rfl⟩ := type_of_parse hparse
      exact ⟨_, CommandDistributor.read_sync hs role req, fun _ heq => by cases heq⟩
  | async T hmem =>
      obtain ⟨req, rfl⟩ := type_of_parse hparse
      exact ⟨_, CommandDistributor.read_async hs ha role req, fun _ heq => by cases heq⟩

/-- **The registries**: behind any calls of `RegisterSyncCommand` and
`RegisterAsyncCommand` that no `assert` stops, they agree. -/
theorem registries_agree (calls : List (Registration C F Future)) (M : Managers C F Future)
    (h : Managers.registerAll false calls .empty = .ok M) : RegistriesAgree calls M := by
  have hstep : InStep calls M := inStep_empty.registerAll (List.Subset.refl calls) h
  constructor
  case ids => exact fun cmd_id => (hstep cmd_id).ids
  case disjoint => exact fun cmd_id => (hstep cmd_id).disjoint
  case sync_prototype =>
    intro cmd_id service hservice
    have hentry := hstep cmd_id
    rw [hservice] at hentry
    exact hentry.sync_prototype
  case async_prototype =>
    intro cmd_id service hservice
    have hentry := hstep cmd_id
    rw [hservice] at hentry
    exact hentry.async_prototype
  case served => exact fun msg cmd_id parsed pb role hread => hstep.served role hread

/-- The registrations of `main`. -/
theorem registries_agree_main :
    Managers.registerAll false (main.registrations Env.wire .wire) .empty
        = .ok (main.managers Env.wire .wire) ∧
      RegistriesAgree (main.registrations Env.wire .wire) (main.managers Env.wire .wire) :=
  ⟨main.registerAll_registrations Env.wire .wire,
    registries_agree (main.registrations Env.wire .wire) (main.managers Env.wire .wire)
      (main.registerAll_registrations Env.wire .wire)⟩

end LittleB
