import LittleB.Handlers.CommandDistributor

/-!
Registrations that return false, in a build that defines `NDEBUG`.

* `CommandManager.Holds`: the map of a call's own kind knows its command;
* `Managers.register_NDEBUG`: what a call does without the `assert`s;
* `SameIds`: the reflection map knows the commands of both other maps, which every call
  keeps;
* `Unchanged`, `rejection_unchanged_iff`: when a call that returns false changes nothing.
-/

namespace LittleB

variable {C : MessageClasses} [DecidableEq C.Class] {F Future : Type → Type} [Functor F]
  [Functor Future]

/-! ### What a call does without `assert`s -/

lemma StdMap.insert_of_isSome {K V : Type} [DecidableEq K] {map : K → Option V} {k : K}
    (h : (map k).isSome) (v : V) : StdMap.insert map k v = (false, map) := by
  obtain ⟨old, hold⟩ := Option.isSome_iff_exists.mp h
  rw [StdMap.insert, hold]

lemma StdMap.insert_of_isSome_eq_false {K V : Type} [DecidableEq K] {map : K → Option V} {k : K}
    (h : (map k).isSome = false) (v : V) :
    StdMap.insert map k v = (true, Function.update map k (some v)) :=
  insert_of_none (Option.not_isSome_iff_eq_none.mp (by rw [h]; exact Bool.false_ne_true)) v

namespace CommandManager

variable (self : CommandManager C F Future)

/-- The services of a call's own kind know its command. -/
def Holds : Registration C F Future → Bool
  | .sync cmd_id _ => self.IsSyncCmd cmd_id
  | .async cmd_id _ => self.IsAsyncCmd cmd_id

/-- The commands behind an added service. -/
lemma isValidCmd_add (call : Registration C F Future) (cmd_id : UInt32) :
    (self.add call).IsValidCmd cmd_id = (cmd_id == call.cmd_id || self.IsValidCmd cmd_id) := by
  by_cases hid : cmd_id = call.cmd_id
  · subst hid
    rw [BEq.rfl, Bool.true_or]
    cases call with
    | sync call_id T => simp [IsValidCmd, IsSyncCmd, add, Registration.cmd_id]
    | async call_id T => simp [IsValidCmd, IsAsyncCmd, add, Registration.cmd_id]
  · rw [beq_eq_false_iff_ne.mpr hid, Bool.false_or]
    cases call with
    | sync call_id T =>
        have hne : cmd_id ≠ call_id := hid
        change ((Function.update self.sync_services_ call_id _ cmd_id).isSome || _) = _
        rw [Function.update_of_ne hne]
        rfl
    | async call_id T =>
        have hne : cmd_id ≠ call_id := hid
        change (_ || (Function.update self.async_services_ call_id _ cmd_id).isSome) = _
        rw [Function.update_of_ne hne]
        rfl

/-- A service that is added is new to the map of its kind. -/
lemma add_ne {call : Registration C F Future} (h : self.Holds call = false) :
    ¬ ((self.add call).sync_services_ = self.sync_services_ ∧
      (self.add call).async_services_ = self.async_services_) := by
  rintro ⟨hsync, hasync⟩
  cases call with
  | sync cmd_id T =>
      have hsame : Function.update self.sync_services_ cmd_id (some T.decorated) cmd_id
        = self.sync_services_ cmd_id := congrFun hsync cmd_id
      rw [Function.update_self] at hsame
      rw [Holds, IsSyncCmd, ← hsame] at h
      exact Bool.noConfusion h
  | async cmd_id T =>
      have hsame : Function.update self.async_services_ cmd_id (some T.decorated) cmd_id
        = self.async_services_ cmd_id := congrFun hasync cmd_id
      rw [Function.update_self] at hsame
      rw [Holds, IsAsyncCmd, ← hsame] at h
      exact Bool.noConfusion h

end CommandManager

namespace Managers

variable (M : Managers C F Future)

omit [DecidableEq C.Class] [Functor F] [Functor Future] in
/-- Without `assert`s the prototypes of a command that has some are rejected, with the
service added. -/
lemma RegisterCommand_NDEBUG (cmd_id : UInt32) (RequestType : C.Class)
    (register_manager : CommandManager C F Future) :
    M.RegisterCommand true (.ok (true, register_manager)) cmd_id RequestType
      = if M.reflection_manager.IsValidCmd cmd_id then .ok (false, { M with register_manager })
        else .ok (true, { register_manager, reflection_manager :=
          ⟨Function.update M.reflection_manager.reflection_data_ cmd_id
            (some (C.prototype RequestType))⟩ }) := by
  cases hvalid : M.reflection_manager.IsValidCmd cmd_id with
  | true =>
      rw [RegisterCommand, PbReflectionManager.AddReflection, StdMap.insert_of_isSome hvalid]
      rfl
  | false =>
      rw [RegisterCommand, PbReflectionManager.AddReflection,
        StdMap.insert_of_isSome_eq_false hvalid]
      rfl

/-- **The step** without `assert`s: a call is rejected without effect when the map of its
own kind knows the command; when only the reflection map does, it is rejected with its
service added. -/
lemma register_NDEBUG (call : Registration C F Future) :
    M.register true call =
      if M.register_manager.Holds call then .ok (false, M)
      else if M.reflection_manager.IsValidCmd call.cmd_id then
        .ok (false, { M with register_manager := M.register_manager.add call })
      else .ok (true, M.add call) := by
  cases call with
  | sync cmd_id T =>
      rw [register, RegisterSyncCommand, CommandManager.RegisterSyncCmd, CommandManager.Holds]
      cases hheld : M.register_manager.IsSyncCmd cmd_id with
      | true =>
          rw [StdMap.insert_of_isSome hheld]
          rfl
      | false =>
          rw [StdMap.insert_of_isSome_eq_false hheld]
          exact M.RegisterCommand_NDEBUG cmd_id T.RequestType _
  | async cmd_id T =>
      rw [register, RegisterAsyncCommand, CommandManager.RegisterAsyncCmd, CommandManager.Holds]
      cases hheld : M.register_manager.IsAsyncCmd cmd_id with
      | true =>
          rw [StdMap.insert_of_isSome hheld]
          rfl
      | false =>
          rw [StdMap.insert_of_isSome_eq_false hheld]
          exact M.RegisterCommand_NDEBUG cmd_id T.RequestType _

/-! ### The ids of the maps -/

/-- The reflection map knows the commands with a service of either kind. -/
def SameIds : Prop :=
  ∀ cmd_id, M.reflection_manager.IsValidCmd cmd_id = M.register_manager.IsValidCmd cmd_id

omit [DecidableEq C.Class] [Functor F] [Functor Future] in
lemma sameIds_empty : (empty : Managers C F Future).SameIds := fun _ => rfl

variable {M} {M' : Managers C F Future}

/-- A call keeps the ids the same, whatever it returns. -/
lemma SameIds.register (h : M.SameIds) {call : Registration C F Future} {ret : Bool}
    (hcall : M.register true call = .ok (ret, M')) : M'.SameIds := by
  rw [register_NDEBUG] at hcall
  split_ifs at hcall with hheld hknown
  · obtain ⟨-, rfl⟩ := Prod.mk.inj (Except.ok.inj hcall)
    exact h
  · obtain ⟨-, rfl⟩ := Prod.mk.inj (Except.ok.inj hcall)
    intro cmd_id
    rw [CommandManager.isValidCmd_add, ← h cmd_id]
    by_cases hid : cmd_id = call.cmd_id
    · rw [hid, hknown, Bool.or_true]
    · rw [beq_eq_false_iff_ne.mpr hid, Bool.false_or]
  · obtain ⟨-, rfl⟩ := Prod.mk.inj (Except.ok.inj hcall)
    intro cmd_id
    change (Function.update M.reflection_manager.reflection_data_ _ _ cmd_id).isSome
      = (M.register_manager.add call).IsValidCmd cmd_id
    rw [CommandManager.isValidCmd_add, ← h cmd_id]
    by_cases hid : cmd_id = call.cmd_id
    · rw [hid, Function.update_self, BEq.rfl, Bool.true_or]
      rfl
    · rw [beq_eq_false_iff_ne.mpr hid, Bool.false_or, Function.update_of_ne hid]
      rfl

/-- Any calls keep the ids the same. -/
lemma SameIds.registerAll {calls : List (Registration C F Future)} (h : M.SameIds)
    (hrun : registerAll true calls M = .ok M') : M'.SameIds := by
  induction calls generalizing M with
  | nil =>
      obtain rfl : M = M' := Except.ok.inj hrun
      exact h
  | cons call calls ih =>
      rw [Managers.registerAll] at hrun
      cases hcall : M.register true call with
      | error abort =>
          rw [hcall] at hrun
          cases hrun
      | ok out =>
          rw [hcall] at hrun
          exact ih (h.register hcall) hrun

end Managers

/-! ### Rejected calls -/

/-- The three maps are the same, and so is which service runs for a request of any
command. -/
structure Managers.Unchanged (M M' : Managers C F Future) : Prop where
  sync : M'.register_manager.sync_services_ = M.register_manager.sync_services_
  async : M'.register_manager.async_services_ = M.register_manager.async_services_
  reflection : M'.reflection_manager.reflection_data_ = M.reflection_manager.reflection_data_
  dispatched : ∀ cmd_id role request,
    CommandDistributor.read true M'.register_manager cmd_id role request
      = CommandDistributor.read true M.register_manager cmd_id role request

/-- A call that returns false changes nothing. -/
def RejectsCleanly (M : Managers C F Future) (call : Registration C F Future) : Prop :=
  ∀ M', M.register true call = .ok (false, M') → M.Unchanged M'

/-- A call for a command of the other kind only is rejected and changes a map. -/
lemma not_rejectsCleanly {M : Managers C F Future} {call : Registration C F Future}
    (hheld : M.register_manager.Holds call = false)
    (hknown : M.reflection_manager.IsValidCmd call.cmd_id = true) : ¬ RejectsCleanly M call := by
  intro hclean
  have hcall := M.register_NDEBUG call
  rw [hheld, hknown, if_neg Bool.false_ne_true, if_pos rfl] at hcall
  have hunchanged := hclean _ hcall
  exact M.register_manager.add_ne hheld ⟨hunchanged.sync, hunchanged.async⟩

/-- **Rejected registrations**: behind any calls of a build without `assert`s, a further
call changes nothing when it returns false exactly when its command has a service of the
call's own kind, or no service. -/
theorem rejection_unchanged_iff (calls : List (Registration C F Future)) (M : Managers C F Future)
    (h : Managers.registerAll true calls .empty = .ok M) (call : Registration C F Future) :
    RejectsCleanly M call
      ↔ M.register_manager.Holds call ∨ ¬ M.register_manager.IsValidCmd call.cmd_id := by
  have hids := Managers.sameIds_empty.registerAll h call.cmd_id
  constructor
  · intro hclean
    by_contra hother
    push Not at hother
    obtain ⟨hheld, hvalid⟩ := hother
    exact not_rejectsCleanly (Bool.not_eq_true _ ▸ hheld) (hids.trans hvalid) hclean
  · intro hkind M' hcall
    rw [Managers.register_NDEBUG] at hcall
    split_ifs at hcall with hheld hknown
    · obtain ⟨-, rfl⟩ := Prod.mk.inj (Except.ok.inj hcall)
      exact ⟨rfl, rfl, rfl, fun _ _ _ => rfl⟩
    · rcases hkind with hown | hnone
      · exact absurd hown hheld
      · exact absurd (hids.symm.trans hknown) hnone
    · cases hcall

/-- A second registration of the login command of `main` returns false. -/
theorem rejection_unchanged_login :
    RejectsCleanly (main.managers Env.wire .wire)
      (.sync CmdID.LOGIN (main.eraseService Env.wire .wire)) :=
  (rejection_unchanged_iff (main.registrations Env.wire .wire) (main.managers Env.wire .wire) rfl
    (.sync CmdID.LOGIN (main.eraseService Env.wire .wire))).mpr (.inl rfl)

/-- An asynchronous service for the login command of `main` is rejected, and added. -/
theorem rejected_async_login_added :
    Managers.registerAll true (main.registrations Env.wire .wire) .empty
        = .ok (main.managers Env.wire .wire) ∧
      ¬ RejectsCleanly (main.managers Env.wire .wire) (.async CmdID.LOGIN
        ⟨.LoginReq, .LoginRsp, fun role _ => return (({} : LoginRsp), role)⟩) :=
  ⟨rfl, not_rejectsCleanly rfl rfl⟩

end LittleB
