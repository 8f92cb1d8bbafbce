import LittleB.Handlers.Request
import LittleB.Messages

/-!
`libsrc/register_helper.h`, `libsrc/data_manager/command_manager.h` and `.cpp` and the
registering half of `pb_reflection_manager.cpp`: the two registries of commands.

* `MessageClasses`, `Message`: the generated message classes, and a message of one of
  them behind its base class, with `dynamic_cast`;
* `SyncService`, `AsyncService`: the classes of services, which the decorators turn into
  what `CommandManager` stores;
* `CommandManager`, `PbReflectionManager.AddReflection`: the registries;
* `Managers.RegisterSyncCommand`, `RegisterAsyncCommand`, `registerAll`: calls that
  register services at both;
* `InStep`: what the registries know of each other, `InStep.registerAll`.

An `assert` is there unless the build defines `NDEBUG`, the parameter of what follows.
-/

namespace LittleB

/-- What keeps a call from returning. -/
inductive Abort where
  /-- An `assert` that fails. -/
  | assertion
  /-- `std::bad_cast`, thrown by a `dynamic_cast` of a reference. -/
  | bad_cast
  /-- The end of a map, or the null pointer, is dereferenced. -/
  | undefined
  deriving DecidableEq, Repr

/-- An `assert`. -/
def Abort.assert (NDEBUG cond : Bool) : Except Abort Unit :=
  if NDEBUG || cond then .ok () else .error .assertion

/-- `insert` and `emplace` of a `std::map`: a key that is there keeps its value. -/
def StdMap.insert {K V : Type} [DecidableEq K] (map : K → Option V) (k : K) (v : V) :
    Bool × (K → Option V) :=
  match map k with
  | some _ => (false, map)
  | none => (true, Function.update map k (some v))

lemma StdMap.insert_of_none {K V : Type} [DecidableEq K] {map : K → Option V} {k : K}
    (h : map k = none) (v : V) :
    StdMap.insert map k v = (true, Function.update map k (some v)) := by
  rw [StdMap.insert, h]

/-! ### Messages and services -/

/-- The generated classes of messages. -/
structure MessageClasses where
  Class : Type
  Msg : Class → Type
  ParseFromArray : (c : Class) → Bytes → Bool × Msg c
  SerializeToArray : (c : Class) → Msg c → Bytes

/-- A `google::protobuf::Message`, with the class it is of. -/
structure Message (C : MessageClasses) where
  type : C.Class
  value : C.Msg type

/-- The prototype of a class: what parsing into a new message of it gives. -/
def MessageClasses.prototype (C : MessageClasses) (c : C.Class) : MethodData (Message C) where
  ParseFromArray bs := ((C.ParseFromArray c bs).1, ⟨c, (C.ParseFromArray c bs).2⟩)

variable {C : MessageClasses}

/-- `dynamic_cast` of a message to a reference to one of a class. -/
def Message.dynamic_cast [DecidableEq C.Class] (m : Message C) (c : C.Class) :
    Except Abort (C.Msg c) :=
  if h : m.type = c then .ok (h ▸ m.value) else .error .bad_cast

/-- `boost::dynamic_pointer_cast`: none for the null pointer. -/
def Message.dynamic_pointer_cast [DecidableEq C.Class] (m : Message C) (c : C.Class) :
    Option (C.Msg c) :=
  if h : m.type = c then some (h ▸ m.value) else none

/-- A message has the class of the prototype it is parsed under. -/
lemma type_of_parse {c : C.Class} {bs : Bytes} {pb : Message C}
    (h : (C.prototype c).ParseFromArray bs = (true, pb)) : ∃ value, pb = ⟨c, value⟩ :=
  ⟨_, (congrArg Prod.snd h).symm⟩

@[simp] lemma Message.dynamic_cast_self [DecidableEq C.Class] (c : C.Class) (value : C.Msg c) :
    (Message.mk c value : Message C).dynamic_cast c = .ok value := by
  rw [Message.dynamic_cast, dif_pos rfl]

@[simp] lemma Message.dynamic_pointer_cast_self [DecidableEq C.Class] (c : C.Class)
    (value : C.Msg c) : (Message.mk c value : Message C).dynamic_pointer_cast c = some value := by
  rw [Message.dynamic_pointer_cast, dif_pos rfl]

/-- A class derived from `SyncServiceInterface`, with the arguments it is constructed
from.  A call returns the role as it leaves it; `F` is what a call may do besides. -/
structure SyncService (C : MessageClasses) (F : Type → Type) where
  RequestType : C.Class
  ResponseType : C.Class
  call : RoleInfo → C.Msg RequestType → F (C.Msg ResponseType × RoleInfo)

/-- A class derived from `AsyncServiceInterface`. -/
structure AsyncService (C : MessageClasses) (F Future : Type → Type) where
  RequestType : C.Class
  ResponseType : C.Class
  call : RoleInfo → C.Msg RequestType → F (Future (C.Msg ResponseType) × RoleInfo)

/-- `InternalSyncServiceType`. -/
abbrev InternalSyncServiceType (C : MessageClasses) (F : Type → Type) : Type :=
  RoleInfo → Message C → Except Abort (F (Message C × RoleInfo))

/-- `InternalAsyncServiceType`. -/
abbrev InternalAsyncServiceType (C : MessageClasses) (F Future : Type → Type) : Type :=
  RoleInfo → Message C → Except Abort (F (Future (Message C) × RoleInfo))

variable {F Future : Type → Type}

/-- `SyncServiceClassDecorator`: the request is cast to its class, the response to the
base class. -/
def SyncService.decorated [DecidableEq C.Class] [Functor F] (T : SyncService C F) :
    InternalSyncServiceType C F := fun role req => do
  let derived_req ← req.dynamic_cast T.RequestType
  return (fun out => (⟨T.ResponseType, out.1⟩, out.2)) <$> T.call role derived_req

/-- `AsyncServiceClassDecorator`. -/
def AsyncService.decorated [DecidableEq C.Class] [Functor F] [Functor Future]
    (T : AsyncService C F Future) : InternalAsyncServiceType C F Future := fun role req => do
  let derived_req ← req.dynamic_cast T.RequestType
  return (fun out => (Message.mk T.ResponseType <$> out.1, out.2)) <$> T.call role derived_req

section Decorated

variable [DecidableEq C.Class] [Functor F] [Functor Future]

/-- A service that is given a request of its class is called. -/
lemma SyncService.decorated_self (T : SyncService C F) (role : RoleInfo)
    (req : C.Msg T.RequestType) :
    T.decorated role ⟨T.RequestType, req⟩
      = .ok ((fun out => (⟨T.ResponseType, out.1⟩, out.2)) <$> T.call role req) := by
  rw [SyncService.decorated, Message.dynamic_cast_self]
  rfl

lemma AsyncService.decorated_self (T : AsyncService C F Future) (role : RoleInfo)
    (req : C.Msg T.RequestType) :
    T.decorated role ⟨T.RequestType, req⟩
      = .ok ((fun out => (Message.mk T.ResponseType <$> out.1, out.2)) <$> T.call role req) := by
  rw [AsyncService.decorated, Message.dynamic_cast_self]
  rfl

end Decorated

/-! ### The registries -/

/-- The services by command. -/
structure CommandManager (C : MessageClasses) (F Future : Type → Type) where
  sync_services_ : UInt32 → Option (InternalSyncServiceType C F)
  async_services_ : UInt32 → Option (InternalAsyncServiceType C F Future)

variable (NDEBUG : Bool)

namespace CommandManager

variable (self : CommandManager C F Future)

def IsSyncCmd (cmd_id : UInt32) : Bool := (self.sync_services_ cmd_id).isSome

def IsAsyncCmd (cmd_id : UInt32) : Bool := (self.async_services_ cmd_id).isSome

def IsValidCmd (cmd_id : UInt32) : Bool := self.IsSyncCmd cmd_id || self.IsAsyncCmd cmd_id

def RegisterSyncCmd (cmd_id : UInt32) (func : InternalSyncServiceType C F) :
    Except Abort (Bool × CommandManager C F Future) := do
  Abort.assert NDEBUG (!self.IsValidCmd cmd_id)
  let ret := StdMap.insert self.sync_services_ cmd_id func
  return (ret.1, { self with sync_services_ := ret.2 })

def RegisterAsyncCmd (cmd_id : UInt32) (func : InternalAsyncServiceType C F Future) :
    Except Abort (Bool × CommandManager C F Future) := do
  Abort.assert NDEBUG (!self.IsValidCmd cmd_id)
  let ret := StdMap.insert self.async_services_ cmd_id func
  return (ret.1, { self with async_services_ := ret.2 })

/-- `RunSyncService`: without the `assert` the end of the map is dereferenced. -/
def RunSyncService (cmd_id : UInt32) (role : RoleInfo) (request : Message C) :
    Except Abort (F (Message C × RoleInfo)) := do
  Abort.assert NDEBUG (self.sync_services_ cmd_id).isSome
  match self.sync_services_ cmd_id with
  | none => .error .undefined
  | some sync_service => sync_service role request

def RunAsyncService (cmd_id : UInt32) (role : RoleInfo) (request : Message C) :
    Except Abort (F (Future (Message C) × RoleInfo)) := do
  Abort.assert NDEBUG (self.async_services_ cmd_id).isSome
  match self.async_services_ cmd_id with
  | none => .error .undefined
  | some async_service => async_service role request

variable {self} in
lemma isValidCmd_eq_false {cmd_id : UInt32} :
    self.IsValidCmd cmd_id = false ↔
      self.sync_services_ cmd_id = none ∧ self.async_services_ cmd_id = none := by
  rw [IsValidCmd, Bool.or_eq_false_iff, IsSyncCmd, IsAsyncCmd, Option.isSome_eq_false_iff,
    Option.isSome_eq_false_iff, Option.isNone_iff_eq_none, Option.isNone_iff_eq_none]

/-- With its `assert`, a registration either aborts or adds its service. -/
lemma RegisterSyncCmd_eq (cmd_id : UInt32) (func : InternalSyncServiceType C F) :
    self.RegisterSyncCmd false cmd_id func =
      if self.IsValidCmd cmd_id then .error .assertion
      else .ok (true, { self with
        sync_services_ := Function.update self.sync_services_ cmd_id (some func) }) := by
  rw [RegisterSyncCmd]
  cases hvalid : self.IsValidCmd cmd_id with
  | true => rfl
  | false =>
      rw [StdMap.insert_of_none (isValidCmd_eq_false.mp hvalid).1]
      rfl

lemma RegisterAsyncCmd_eq (cmd_id : UInt32) (func : InternalAsyncServiceType C F Future) :
    self.RegisterAsyncCmd false cmd_id func =
      if self.IsValidCmd cmd_id then .error .assertion
      else .ok (true, { self with
        async_services_ := Function.update self.async_services_ cmd_id (some func) }) := by
  rw [RegisterAsyncCmd]
  cases hvalid : self.IsValidCmd cmd_id with
  | true => rfl
  | false =>
      rw [StdMap.insert_of_none (isValidCmd_eq_false.mp hvalid).2]
      rfl

end CommandManager

/-- `AddReflection`, with the prototype of the request. -/
def PbReflectionManager.AddReflection {M : Type} (self : PbReflectionManager M) (cmd_id : UInt32)
    (request : MethodData M) : Except Abort (Bool × PbReflectionManager M) := do
  Abort.assert NDEBUG (!self.IsValidCmd cmd_id)
  let ret := StdMap.insert self.reflection_data_ cmd_id request
  return (ret.1, ⟨ret.2⟩)

lemma PbReflectionManager.AddReflection_eq {M : Type} (self : PbReflectionManager M)
    (cmd_id : UInt32) (request : MethodData M) :
    self.AddReflection false cmd_id request =
      if self.IsValidCmd cmd_id then .error .assertion
      else .ok (true, ⟨Function.update self.reflection_data_ cmd_id (some request)⟩) := by
  rw [PbReflectionManager.AddReflection]
  cases hvalid : self.IsValidCmd cmd_id with
  | true => rfl
  | false =>
      have hnone : self.reflection_data_ cmd_id = none := by
        rw [← Option.isNone_iff_eq_none, ← Option.isSome_eq_false_iff]
        exact hvalid
      rw [StdMap.insert_of_none hnone]
      rfl

/-- A `CommandManager` and a `PbReflectionManager`. -/
structure Managers (C : MessageClasses) (F Future : Type → Type) where
  register_manager : CommandManager C F Future
  reflection_manager : PbReflectionManager (Message C)

namespace Managers

variable (M : Managers C F Future)

/-- The managers as they are constructed. -/
def empty : Managers C F Future := ⟨⟨fun _ => none, fun _ => none⟩, ⟨fun _ => none⟩⟩

/-- What `RegisterSyncCommand` and `RegisterAsyncCommand` do with the outcome of the
registration: the prototypes are added only when the service has been. -/
def RegisterCommand (registration : Except Abort (Bool × CommandManager C F Future))
    (cmd_id : UInt32) (RequestType : C.Class) : Except Abort (Bool × Managers C F Future) := do
  let (registered, register_manager) ← registration
  if ¬ registered then
    return (false, { M with register_manager })
  let (added, reflection_manager) ←
    M.reflection_manager.AddReflection NDEBUG cmd_id (C.prototype RequestType)
  return (added, { register_manager, reflection_manager })

/-- A registration that aborts for a known command, with the prototype behind it. -/
lemma RegisterCommand_eq (cmd_id : UInt32) (RequestType : C.Class)
    (register_manager : CommandManager C F Future) :
    M.RegisterCommand false (if M.register_manager.IsValidCmd cmd_id then .error .assertion
        else .ok (true, register_manager)) cmd_id RequestType =
      if M.register_manager.IsValidCmd cmd_id || M.reflection_manager.IsValidCmd cmd_id
      then .error .assertion
      else .ok (true, { register_manager, reflection_manager :=
        ⟨Function.update M.reflection_manager.reflection_data_ cmd_id
          (some (C.prototype RequestType))⟩ }) := by
  rw [RegisterCommand, PbReflectionManager.AddReflection_eq]
  cases M.register_manager.IsValidCmd cmd_id with
  | true => rfl
  | false =>
      cases M.reflection_manager.IsValidCmd cmd_id with
      | true => rfl
      | false => rfl

variable [DecidableEq C.Class] [Functor F] [Functor Future]

def RegisterSyncCommand (cmd_id : UInt32) (T : SyncService C F) :
    Except Abort (Bool × Managers C F Future) :=
  M.RegisterCommand NDEBUG (M.register_manager.RegisterSyncCmd NDEBUG cmd_id T.decorated) cmd_id
    T.RequestType

def RegisterAsyncCommand (cmd_id : UInt32) (T : AsyncService C F Future) :
    Except Abort (Bool × Managers C F Future) :=
  M.RegisterCommand NDEBUG (M.register_manager.RegisterAsyncCmd NDEBUG cmd_id T.decorated) cmd_id
    T.RequestType

end Managers

/-- One call that registers a service. -/
inductive Registration (C : MessageClasses) (F Future : Type → Type) where
  | sync (cmd_id : UInt32) (T : SyncService C F)
  | async (cmd_id : UInt32) (T : AsyncService C F Future)

variable [DecidableEq C.Class] [Functor F] [Functor Future]

namespace Managers

def register (M : Managers C F Future) :
    Registration C F Future → Except Abort (Bool × Managers C F Future)
  | .sync cmd_id T => M.RegisterSyncCommand NDEBUG cmd_id T
  | .async cmd_id T => M.RegisterAsyncCommand NDEBUG cmd_id T

/-- Calls one after the other, whatever they return. -/
def registerAll : List (Registration C F Future) → Managers C F Future →
    Except Abort (Managers C F Future)
  | [], M => .ok M
  | call :: calls, M => do
      let (_, M) ← M.register NDEBUG call
      registerAll calls M

end Managers

/-! ### What a call does -/

/-- The command of a call. -/
def Registration.cmd_id : Registration C F Future → UInt32
  | .sync cmd_id _ => cmd_id
  | .async cmd_id _ => cmd_id

/-- The prototype a call adds. -/
def Registration.prototype : Registration C F Future → MethodData (Message C)
  | .sync _ T => C.prototype T.RequestType
  | .async _ T => C.prototype T.RequestType

/-- The services with that of a call added. -/
def CommandManager.add (self : CommandManager C F Future) :
    Registration C F Future → CommandManager C F Future
  | .sync cmd_id T =>
      { self with
        sync_services_ := Function.update self.sync_services_ cmd_id (some T.decorated) }
  | .async cmd_id T =>
      { self with
        async_services_ := Function.update self.async_services_ cmd_id (some T.decorated) }

namespace Managers

variable (M : Managers C F Future)

/-- The managers with the service of a call added. -/
def add (call : Registration C F Future) : Managers C F Future where
  register_manager := M.register_manager.add call
  reflection_manager :=
    ⟨Function.update M.reflection_manager.reflection_data_ call.cmd_id (some call.prototype)⟩

/-- **The step**: a call is stopped by an `assert` when one of the managers knows its
command, and else adds its service at both. -/
lemma register_eq (call : Registration C F Future) :
    M.register false call =
      if M.register_manager.IsValidCmd call.cmd_id || M.reflection_manager.IsValidCmd call.cmd_id
      then .error .assertion else .ok (true, M.add call) := by
  cases call with
  | sync cmd_id T =>
      rw [register, RegisterSyncCommand, CommandManager.RegisterSyncCmd_eq, RegisterCommand_eq]
      rfl
  | async cmd_id T =>
      rw [register, RegisterAsyncCommand, CommandManager.RegisterAsyncCmd_eq, RegisterCommand_eq]
      rfl

end Managers

/-! ### What the registries know of each other -/

/-- What the two registries hold for a command behind some calls: nothing, or the
service of one of them and the prototype of its request. -/
inductive Entry (calls : List (Registration C F Future)) (cmd_id : UInt32) :
    Option (InternalSyncServiceType C F) → Option (InternalAsyncServiceType C F Future) →
      Option (MethodData (Message C)) → Prop
  | unknown : Entry calls cmd_id none none none
  | sync (T : SyncService C F) (h : .sync cmd_id T ∈ calls) :
      Entry calls cmd_id (some T.decorated) none (some (C.prototype T.RequestType))
  | async (T : AsyncService C F Future) (h : .async cmd_id T ∈ calls) :
      Entry calls cmd_id none (some T.decorated) (some (C.prototype T.RequestType))

namespace Entry

variable {calls : List (Registration C F Future)} {cmd_id : UInt32}
  {sync : Option (InternalSyncServiceType C F)}
  {async : Option (InternalAsyncServiceType C F Future)} {data : Option (MethodData (Message C))}

lemma ids (h : Entry calls cmd_id sync async data) :
    data.isSome ↔ sync.isSome ∨ async.isSome := by
  cases h with
  | unknown => simp
  | sync T hmem => simp
  | async T hmem => simp

lemma disjoint (h : Entry calls cmd_id sync async data) : ¬ (sync.isSome ∧ async.isSome) := by
  cases h with
  | unknown => simp
  | sync T hmem => simp
  | async T hmem => simp

lemma sync_prototype {service : InternalSyncServiceType C F}
    (h : Entry calls cmd_id (some service) async data) :
    ∃ T, .sync cmd_id T ∈ calls ∧ service = T.decorated ∧
      data = some (C.prototype T.RequestType) := by
  cases h with
  | sync T hmem => exact ⟨T, hmem, rfl, rfl⟩

lemma async_prototype {service : InternalAsyncServiceType C F Future}
    (h : Entry calls cmd_id sync (some service) data) :
    ∃ T, .async cmd_id T ∈ calls ∧ service = T.decorated ∧
      data = some (C.prototype T.RequestType) := by
  cases h with
  | async T hmem => exact ⟨T, hmem, rfl, rfl⟩

end Entry

/-- The registries are in step. -/
def InStep (calls : List (Registration C F Future)) (M : Managers C F Future) : Prop :=
  ∀ cmd_id, Entry calls cmd_id (M.register_manager.sync_services_ cmd_id)
    (M.register_manager.async_services_ cmd_id) (M.reflection_manager.reflection_data_ cmd_id)

variable {calls : List (Registration C F Future)} {M M' : Managers C F Future}

lemma inStep_empty : InStep calls (.empty : Managers C F Future) := fun _ => .unknown

/-- A call for a command without a service keeps the registries in step. -/
lemma InStep.add (h : InStep calls M) {call : Registration C F Future} (hmem : call ∈ calls)
    (hnew : M.register_manager.IsValidCmd call.cmd_id = false) : InStep calls (M.add call) := by
  intro cmd_id
  obtain ⟨hsync, hasync⟩ := CommandManager.isValidCmd_eq_false.mp hnew
  cases call with
  | sync call_id T =>
      change Entry calls cmd_id (Function.update M.register_manager.sync_services_ call_id _ cmd_id)
        (M.register_manager.async_services_ cmd_id)
        (Function.update M.reflection_manager.reflection_data_ call_id _ cmd_id)
      by_cases hid : cmd_id = call_id
      · subst hid
        rw [Function.update_self, Function.update_self, show M.register_manager.async_services_
          cmd_id = none from hasync]
        exact .sync T hmem
      · rw [Function.update_of_ne hid, Function.update_of_ne hid]
        exact h cmd_id
  | async call_id T =>
      change Entry calls cmd_id (M.register_manager.sync_services_ cmd_id)
        (Function.update M.register_manager.async_services_ call_id _ cmd_id)
        (Function.update M.reflection_manager.reflection_data_ call_id _ cmd_id)
      by_cases hid : cmd_id = call_id
      · subst hid
        rw [Function.update_self, Function.update_self, show M.register_manager.sync_services_
          cmd_id = none from hsync]
        exact .async T hmem
      · rw [Function.update_of_ne hid, Function.update_of_ne hid]
        exact h cmd_id

/-- **The run**: calls that no `assert` stops keep the registries in step. -/
lemma InStep.registerAll {later : List (Registration C F Future)} (hlater : later ⊆ calls)
    (h : InStep calls M) (hrun : Managers.registerAll false later M = .ok M') :
    InStep calls M' := by
  induction later generalizing M with
  | nil =>
      obtain rfl : M = M' := Except.ok.inj hrun
      exact h
  | cons call later ih =>
      obtain ⟨hmem, hrest⟩ := List.cons_subset.mp hlater
      rw [Managers.registerAll, Managers.register_eq] at hrun
      split_ifs at hrun with hknown
      · cases hrun
      · rw [Bool.not_eq_true, Bool.or_eq_false_iff] at hknown
        exact ih hrest (h.add hmem hknown.1) hrun

end LittleB
