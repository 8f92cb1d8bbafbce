import LittleB.RoleCalls

/-!
The logins of one account, their commands interleaved with those of registrations and
erasures.

* `FirstTold`: a login of the account has been told that it is the first;
* `LoginStored`, `KeepsFirstVisit`: the condition on a step, no login pulls a record without
  the mark of a visit that another login is about to mark, and nobody writes a new record
  over one that a login has marked;
* `Visited`, `Visited.step`: the invariant, at most one login pushes or has been told, and
  the record it has pushed carries the mark;
* `first_visit_once`: schedules whose steps all meet the condition; `first_visit_twice`: one
  that does not.
-/

namespace LittleB

open Bytes

variable {ι : Type} (env : Env)

/-! ### Being told of a first visit -/

section Property

variable (request : ι → RoleRequest) (account : String)

/-- The call `i` is a login of the account that has been answered `SUCCEED` and told that it
is the first. -/
def FirstTold (P : Pool RedisSig ι (Prog RedisSig Response) Redis) (i : ι) : Prop :=
  ∃ req rsp, request i = .LOGIN req ∧ c_str req.account = c_str account ∧
    P.proc i = .ret (.LOGIN rsp) ∧ rsp.error = LoginRsp.ErrorCode.SUCCEED.number ∧
    rsp.is_returning_visitor = false

/-- A login of the account has stored the role record. -/
def LoginStored (log : List (ι × (_ : Command) × Reply)) : Prop :=
  ∃ j req value reply, request j = .LOGIN req ∧ c_str req.account = c_str account ∧
    (j, ⟨.set (role_key account) value, reply⟩) ∈ log

/-- The command the call `i` is about to issue keeps the first visit of the account to one
login.

* `pull`: a login that has looked the password up does not pull a record without the mark
  that another login of the account is about to write;
* `reset`: a registration or an erasure does not write the record when a login of the
  account has. -/
structure KeepsFirstVisit (i : ι) (P : Pool RedisSig ι (Prog RedisSig Response) Redis) :
    Prop where
  pull : ∀ req, PullsRole request i P req → c_str req.account = c_str account →
    ∀ role, storedRole env P.state.db account = some role →
      role.basic_info.is_returning_visitor = false →
      ∀ j, j ≠ i → ∀ other, request j = .LOGIN other → c_str other.account = c_str account →
        ∀ key value, nextCommand P j ≠ some (.set key value)
  reset : (∀ req, request i ≠ .LOGIN req) →
    ∀ value, nextCommand P i = some (.set (role_key account) value) →
      ¬ LoginStored request account P.log

end Property

/-! ### The invariant -/

namespace RoleCall

variable (account : String)

/-- A login of the account that is about to push the record. -/
def Pushing : RoleCall → Prop
  | login req (.push _) => c_str req.account = c_str account
  | _ => False

/-- A login of the account that has been told that it is the first. -/
def Told : RoleCall → Prop
  | login req (.answered rsp) => c_str req.account = c_str account ∧
      rsp.error = LoginRsp.ErrorCode.SUCCEED.number ∧ rsp.is_returning_visitor = false
  | _ => False

variable {account}

lemma pushing_iff {call : RoleCall} :
    call.Pushing account
      ↔ ∃ req role, call = login req (.push role) ∧ c_str req.account = c_str account := by
  constructor
  · intro h
    cases call with
    | register req p => exact absurd h id
    | erase req p => exact absurd h id
    | login req p =>
        cases p with
        | push role => exact ⟨req, role, rfl, h⟩
        | handlerPull | lookup | pull | answered => exact absurd h id
  · rintro ⟨req, role, rfl, h⟩
    exact h

lemma told_answer {req : LoginReq} {rpcid : Int32} {ret : LoginRsp.ErrorCode} {returning : Bool} :
    (login req (.answered (.answer rpcid ret returning))).Told account
      ↔ c_str req.account = c_str account ∧ ret = .SUCCEED ∧ returning = false :=
  and_congr_right fun _ => and_congr_left fun _ => LoginRsp.ErrorCode.number_inj

end RoleCall

/-- The record of the account lies under its name, every record about to be pushed carries
the mark, and at most one login pushes or has been told that it is the first: the record
carries the mark from then on. -/
structure Visited (request : ι → RoleRequest) (account : String)
    (P : Pool RedisSig ι RoleCall Redis) : Prop where
  traced : Traced request P
  named : ∀ role, storedRole env P.state.db account = some role →
    c_str role.basic_info.username = c_str account
  pushing : ∀ i req role, P.proc i = .login req (.push role) →
    role.basic_info.is_returning_visitor = true ∧
      (c_str req.account = c_str account → c_str role.basic_info.username = c_str account)
  told : ∀ i, (P.proc i).Told account → LoginStored request account P.log
  marked : LoginStored request account P.log →
    ∃ role, storedRole env P.state.db account = some role ∧
      role.basic_info.is_returning_visitor = true
  alone : ∀ i j, (P.proc i).Pushing account ∨ (P.proc i).Told account →
    (P.proc j).Pushing account ∨ (P.proc j).Told account → i = j

section Moves

variable {env} {db db' : Bytes → Option Bytes} {p p' : RoleCall} {c : Command} {account : String}

/-- Only a push leads to an answer that tells of a first visit. -/
lemma RoleMove.told (h : RoleMove env db p c p' db') (htold : p'.Told account) :
    ∃ req role, p = .login req (.push role) ∧ c_str req.account = c_str account ∧
      ∃ value, c = .set (role_key role.basic_info.username) value := by
  cases h with
  | register h => exact absurd htold id
  | erase req => exact absurd htold id
  | @login req p p' c db' h =>
      cases h with
      | handlerPull | found | first => exact absurd htold id
      | unregistered | wrong | roleless =>
          exact absurd (RoleCall.told_answer.mp htold).2.1 (by simp)
      | returning => exact absurd (RoleCall.told_answer.mp htold).2.2 (by simp)
      | push role => exact ⟨req, role, rfl, htold.1, _, rfl⟩

/-- The record of the account behind a command: as it was, or the one that a login pushes,
or one that a registration or an erasure puts in its place. -/
lemma RoleMove.storedRole_cases (h : RoleMove env db p c p' db') (account : String) :
    storedRole env db' account = storedRole env db account ∨
    (∃ req role, p = .login req (.push role) ∧
      c_str role.basic_info.username = c_str account ∧
      storedRole env db' account = some role) ∨
    (∀ req, p.request ≠ .LOGIN req) ∧ (∃ value, c = .set (role_key account) value) ∧
      ∃ role, storedRole env db' account = some role ∧
        c_str role.basic_info.username = c_str account := by
  rcases h.records with ⟨-, hkept⟩ | ⟨role, hstores, hc, hrecords⟩
  · exact .inl (hkept account)
  by_cases hname : c_str account = c_str role.basic_info.username
  swap
  · exact .inl ((hrecords account).trans (if_neg hname))
  have hrole := (hrecords account).trans (if_pos hname)
  rw [role_key_inj.mpr hname.symm] at hc
  cases hstores with
  | push req role => exact .inr (.inl ⟨req, role, rfl, hname.symm, hrole⟩)
  | storeRole req gid =>
      exact .inr (.inr ⟨fun _ => RoleRequest.noConfusion, ⟨_, hc⟩, _, hrole, hname.symm⟩)
  | erase req =>
      exact .inr (.inr ⟨fun _ => RoleRequest.noConfusion, ⟨_, hc⟩, _, hrole, hname.symm⟩)

/-- A login that writes the record of the account pushes it. -/
lemma RoleMove.login_set (h : RoleMove env db p c p' db') {req : LoginReq}
    (hr : p.request = .LOGIN req) {value : Bytes} (hc : c = .set (role_key account) value) :
    ∃ role, p = .login req (.push role) ∧ storedRole env db' account = some role := by
  cases h with
  | register h => cases hr
  | erase req => cases hr
  | login h =>
      cases hr
      cases h with
      | push role =>
          have hname := role_key_inj.mp (Command.set.inj hc).1
          exact ⟨role, rfl, (storedRole_update_role db role _ _).trans (if_pos hname.symm)⟩
      | _ => cases hc

end Moves

/-! ### Every command -/

section Steps

variable {env} {request : ι → RoleRequest} {account : String}
  {P P' : Pool RedisSig ι RoleCall Redis} {i : ι} {c : Command}

lemma loginStored_cons {reply : Reply} {log : List (ι × (_ : Command) × Reply)} :
    LoginStored request account ((i, ⟨c, reply⟩) :: log)
      ↔ (∃ req value, request i = .LOGIN req ∧ c_str req.account = c_str account ∧
          c = .set (role_key account) value) ∨ LoginStored request account log := by
  constructor
  · rintro ⟨j, req, value, reply', hr, hkey, hmem⟩
    rcases List.mem_cons.mp hmem with heq | hold
    · cases heq
      exact .inl ⟨req, value, hr, hkey, rfl⟩
    · exact .inr ⟨j, req, value, reply', hr, hkey, hold⟩
  · rintro (⟨req, value, hr, hkey, rfl⟩ | ⟨j, req, value, reply', hr, hkey, hold⟩)
    · exact ⟨i, req, value, reply, hr, hkey, List.mem_cons_self⟩
    · exact ⟨j, req, value, reply', hr, hkey, List.mem_cons_of_mem _ hold⟩

lemma visited_start {r : Redis} (hw : r.Working)
    (hnamed : ∀ role, storedRole env r.db account = some role →
      c_str role.basic_info.username = c_str account) :
    Visited env request account (rolePoints request r) := by
  have hfirst (j : ι) : ¬ (((rolePoints request r).proc j).Pushing account ∨
      ((rolePoints request r).proc j).Told account) := by
    change ¬ ((RoleCall.start (request j)).Pushing account ∨
      (RoleCall.start (request j)).Told account)
    cases request j <;> exact not_or_intro id id
  constructor
  case traced => exact traced_start hw
  case named => exact hnamed
  case pushing =>
    intro j req role hp
    cases RoleCall.point_of_start hp
  case told => exact fun j hj => absurd (.inr hj) (hfirst j)
  case marked => exact fun ⟨_, _, _, _, _, _, hmem⟩ => absurd hmem List.not_mem_nil
  case alone => exact fun j k hj _ => absurd hj (hfirst j)

/-- From outside a call has been told where its point says so. -/
lemma Traced.firstTold_iff (hT : Traced request P) :
    FirstTold request account (P.map fun _ => RoleCall.prog env) i
      ↔ (P.proc i).Told account := by
  have hasked := hT.asked i
  constructor
  · rintro ⟨req, rsp, hr, hkey, hret, hs, hfirst⟩
    obtain ⟨req', hp⟩ := answered_LOGIN_iff.mp hret
    rw [hp, hr] at hasked
    cases hasked
    rw [hp]
    exact ⟨hkey, hs, hfirst⟩
  · intro htold
    cases hp : P.proc i with
    | register req p => rw [hp] at htold; exact absurd htold id
    | erase req p => rw [hp] at htold; exact absurd htold id
    | login req p =>
        rw [hp] at htold hasked
        cases p with
        | answered rsp =>
            exact ⟨req, rsp, hasked.symm, htold.1, answered_LOGIN_iff.mpr ⟨req, hp⟩, htold.2⟩
        | handlerPull | lookup | pull | push => exact absurd htold id

variable (hV : Visited env request account P)
  (hok : KeepsFirstVisit env request account i (P.map fun _ => RoleCall.prog env))
  (h : RoleStep env i P c P')

include hV h

/-- A login that tells of a first visit has stored the record. -/
lemma Visited.told_step {j : ι} (hj : (P'.proc j).Told account) :
    LoginStored request account P'.log := by
  rw [h.log, loginStored_cons]
  by_cases hji : j = i
  · subst hji
    obtain ⟨req, role, hp, hkey, value, hc⟩ := h.move.told hj
    have hasked := hV.traced.asked j
    rw [hp] at hasked
    refine .inl ⟨req, value, hasked.symm, hkey, ?_⟩
    rw [hc, role_key_inj.mpr ((hV.pushing j req role hp).2 hkey)]
  · rw [h.other j hji] at hj
    exact .inr (hV.told j hj)

include hok

/-- The record that a login has stored carries the mark. -/
lemma Visited.marked_step (hstored : LoginStored request account P'.log) :
    ∃ role, storedRole env P'.state.db account = some role ∧
      role.basic_info.is_returning_visitor = true := by
  rw [h.log, loginStored_cons] at hstored
  rcases hstored with ⟨req, value, hr, hkey, hc⟩ | hold
  · obtain ⟨role, hp, hrole⟩ := h.move.login_set ((hV.traced.asked i).trans hr) hc
    exact ⟨role, hrole, (hV.pushing i req role hp).1⟩
  · rcases h.move.storedRole_cases account with hkept | ⟨req, role, hp, -, hrole⟩ |
      ⟨hother, ⟨value, hc⟩, -⟩
    · rw [hkept]
      exact hV.marked hold
    · exact ⟨role, hrole, (hV.pushing i req role hp).1⟩
    · -- the record is not replaced once a login has stored it
      rw [hV.traced.asked i] at hother
      exact absurd hold (hok.reset hother value (hc ▸ h.nextCommand_eq))

/-- While a login of the account pushes or has been told that it is the first, no other one
gets there. -/
lemma Visited.not_first {j : ι} (hj : j ≠ i)
    (hfirst : (P.proc j).Pushing account ∨ (P.proc j).Told account) :
    ¬ ((P'.proc i).Pushing account ∨ (P'.proc i).Told account) := by
  rintro (hpushing | htold)
  · -- the call has just pulled a record without the mark
    obtain ⟨req, role, hp', hkey⟩ := RoleCall.pushing_iff.mp hpushing
    have hmove := h.move
    rw [hp'] at hmove
    obtain ⟨hp, -, stored, hrole, hmark, -⟩ := hmove.to_push
    rw [storedRole_congr hkey] at hrole
    rcases hfirst with hother | htold
    · obtain ⟨other, pushed, hpj, hkeyj⟩ := RoleCall.pushing_iff.mp hother
      have hasked := hV.traced.asked j
      rw [hpj] at hasked
      refine hok.pull req (hV.traced.pullsRole_iff.mpr hp) hkey stored hrole hmark j hj other
        hasked.symm hkeyj (role_key pushed.basic_info.username)
        (env.roleInfo.SerializeToString pushed) ?_
      rw [nextCommand_map describes_roleCalls, hpj]
      rfl
    · obtain ⟨marked, hmarked, hmark'⟩ := hV.marked (hV.told j htold)
      cases hmarked.symm.trans hrole
      rw [hmark'] at hmark
      cases hmark
  · obtain ⟨req, role, hp, hkey, -⟩ := h.move.told htold
    have hi : (P.proc i).Pushing account := by
      rw [hp]
      exact hkey
    exact hj (hV.alone j i hfirst (.inl hi))

/-- **The step**: every command under the condition keeps the invariant. -/
lemma Visited.step : Visited env request account P' := by
  constructor
  case traced => exact hV.traced.step h
  case named =>
    intro role hrole
    rcases h.move.storedRole_cases account with hkept | ⟨req, pushed, -, hname, hstored⟩ |
      ⟨-, -, written, hstored, hname⟩
    · rw [hkept] at hrole
      exact hV.named role hrole
    · cases hstored.symm.trans hrole
      exact hname
    · cases hstored.symm.trans hrole
      exact hname
  case pushing =>
    intro j req role hp
    by_cases hji : j = i
    · subst hji
      have hmove := h.move
      rw [hp] at hmove
      obtain ⟨-, -, stored, hrole, -, rfl⟩ := hmove.to_push
      refine ⟨rfl, fun hkey => ?_⟩
      exact hV.named stored (storedRole_congr hkey P.state.db ▸ hrole)
    · rw [h.other j hji] at hp
      exact hV.pushing j req role hp
  case told => exact fun j hj => hV.told_step h hj
  case marked => exact hV.marked_step hok h
  case alone =>
    intro j k hj hk
    by_cases hji : j = i <;> by_cases hki : k = i
    · rw [hji, hki]
    · subst hji
      rw [h.other k hki] at hk
      exact absurd hj (hV.not_first hok h hki hk)
    · subst hki
      rw [h.other j hji] at hj
      exact absurd hk (hV.not_first hok h hji hj)
    · rw [h.other j hji] at hj
      rw [h.other k hki] at hk
      exact hV.alone j k hj hk

end Steps

/-! ### Every schedule -/

/-- Every command of the schedule keeps the first visit of the account to one login. -/
abbrev KeepsFirstVisitAlong [DecidableEq ι] (request : ι → RoleRequest) (account : String)
    (sched : List ι) (P : Pool RedisSig ι (Prog RedisSig Response) Redis) : Prop :=
  Pool.Guarded (fun _ p => p.view) Redis.exec (KeepsFirstVisit env request account) sched P

/-- **One first visit**: over a working store in which the record of an account, if there is
one, lies under its name, in every schedule of any number of logins, registrations and
erasures whose commands keep the first visit of the account to one login, at most one login
of the account is answered `SUCCEED` and told that it is the first. -/
theorem first_visit_once [DecidableEq ι] {Addr : Type} [DecidableEq Addr]
    (role_manager_ : ι → RoleinfoManager Addr) (addr : ι → Addr) (request : ι → RoleRequest)
    (r : Redis) (hw : r.Working) (account : String)
    (hnamed : ∀ role, storedRole env r.db account = some role →
      c_str role.basic_info.username = c_str account)
    (sched : List ι)
    (hkeeps : KeepsFirstVisitAlong env request account sched
      (roleCalls env role_manager_ addr request r)) :
    ∀ i j, FirstTold request account
        (runCalls sched (roleCalls env role_manager_ addr request r)) i →
      FirstTold request account
        (runCalls sched (roleCalls env role_manager_ addr request r)) j → i = j := by
  rw [roleCalls_eq_map] at hkeeps ⊢
  have hstep (i : ι) (P : Pool RedisSig ι RoleCall Redis)
      (hok : KeepsFirstVisit env request account i (P.map fun _ => RoleCall.prog env))
      (hV : Visited env request account P) :
      Visited env request account (P.step (fun _ => RoleCall.next env) Redis.exec i) := by
    rcases role_step_cases env hV.traced.working i with ⟨-, hdone⟩ | ⟨c, hmove⟩
    · rw [hdone]
      exact hV
    · exact hV.step hok hmove
  obtain ⟨P, hrun, hV⟩ := Pool.run_guarded Redis.exec describes_roleCalls hstep hkeeps
    (visited_start hw hnamed)
  rw [show runCalls sched _ = _ from hrun]
  intro i j hi hj
  exact hV.alone i j (.inr (hV.traced.firstTold_iff.mp hi)) (.inr (hV.traced.firstTold_iff.mp hj))

/-! ### Two logins -/

section TwoLogins

variable {env} [DecidableEq ι] {request : ι → RoleRequest} {account : String}
  {P : Pool RedisSig ι RoleCall Redis} {i j : ι} {req : LoginReq} {role : RoleInfo}

/-- A pull of a record without the mark. -/
lemma step_pull_first (hw : P.state.Working) (hp : P.proc i = .login req .pull)
    (hrole : storedRole env P.state.db req.account = some role)
    (hmark : role.basic_info.is_returning_visitor = false) :
    ∃ c, RoleStep env i P c (P.step (fun _ => RoleCall.next env) Redis.exec i) ∧
      (P.step (fun _ => RoleCall.next env) Redis.exec i).proc i = .login req (.push role.visited)
      := by
  rcases role_step_cases env hw i with ⟨hdone, -⟩ | ⟨c, hstep⟩
  · rw [hp] at hdone
    cases hdone
  refine ⟨c, hstep, ?_⟩
  have hmove := hstep.move
  rw [hp] at hmove
  generalize (P.step (fun _ => RoleCall.next env) Redis.exec i).proc i = p' at hmove ⊢
  generalize (P.step (fun _ => RoleCall.next env) Redis.exec i).state.db = db' at hmove
  cases hmove with
  | login hl =>
      cases hl with
      | first stored hstored => cases hstored.symm.trans hrole; rfl
      | roleless hnone => cases hnone.symm.trans hrole
      | returning stored hstored hmark' =>
          cases hstored.symm.trans hrole
          cases hmark.symm.trans hmark'

variable (env) in
/-- A push, whose result is not looked at. -/
lemma step_push (hw : P.state.Working) (hp : P.proc i = .login req (.push role)) :
    ∃ c, RoleStep env i P c (P.step (fun _ => RoleCall.next env) Redis.exec i) ∧
      (P.step (fun _ => RoleCall.next env) Redis.exec i).proc i
        = .login req (.answered (.answer req.rpcid .SUCCEED false)) := by
  rcases role_step_cases env hw i with ⟨hdone, -⟩ | ⟨c, hstep⟩
  · rw [hp] at hdone
    cases hdone
  refine ⟨c, hstep, ?_⟩
  have hmove := hstep.move
  rw [hp] at hmove
  generalize (P.step (fun _ => RoleCall.next env) Redis.exec i).proc i = p' at hmove ⊢
  generalize (P.step (fun _ => RoleCall.next env) Redis.exec i).state.db = db' at hmove
  cases hmove with
  | login hl =>
      cases hl with
      | push role => rfl

/-- Two logins that both pull the record without the mark are both told that they are the
first. -/
lemma Traced.both_told (hT : Traced request P) (hij : i ≠ j) {other : LoginReq}
    (hi : P.proc i = .login req .pull) (hj : P.proc j = .login other .pull)
    (hkey : c_str req.account = c_str account) (hkey' : c_str other.account = c_str account)
    (hrole : storedRole env P.state.db account = some role)
    (hmark : role.basic_info.is_returning_visitor = false) :
    FirstTold request account ((P.run (fun _ => RoleCall.next env) Redis.exec [i, j, i, j]).map
        fun _ => RoleCall.prog env) i ∧
      FirstTold request account ((P.run (fun _ => RoleCall.next env) Redis.exec [i, j, i, j]).map
        fun _ => RoleCall.prog env) j := by
  have hT' := hT.run env [i, j, i, j]
  -- both pull
  obtain ⟨c₁, h₁, hi₁⟩ := step_pull_first hT.working hi (storedRole_congr hkey _ ▸ hrole) hmark
  have hj₁ := (h₁.other j hij.symm).trans hj
  have hpull := h₁.move
  rw [hi₁] at hpull
  rw [← hpull.to_push.2.1] at hrole
  obtain ⟨c₂, h₂, hj₂⟩ := step_pull_first h₁.working hj₁ (storedRole_congr hkey' _ ▸ hrole) hmark
  have hi₂ := (h₂.other i hij).trans hi₁
  -- and then both push
  obtain ⟨c₃, h₃, hi₃⟩ := step_push env h₂.working hi₂
  have hj₃ := (h₃.other j hij.symm).trans hj₂
  obtain ⟨c₄, h₄, hj₄⟩ := step_push env h₃.working hj₃
  have hi₄ := (h₄.other i hij).trans hi₃
  rw [hT'.firstTold_iff, hT'.firstTold_iff]
  constructor
  · refine Eq.mpr (congrArg (RoleCall.Told account) hi₄) ?_
    exact RoleCall.told_answer.mpr ⟨hkey, rfl, rfl⟩
  · refine Eq.mpr (congrArg (RoleCall.Told account) hj₄) ?_
    exact RoleCall.told_answer.mpr ⟨hkey', rfl, rfl⟩

omit [DecidableEq ι] in
/-- A login keeps the first visit to itself while no other call is about to write. -/
lemma keepsFirstVisit_of_reading (hr : request i = .LOGIN req)
    (hreading : ∀ j, j ≠ i → ∀ key value,
      (RoleCall.next env (P.proc j)).next ≠ some (.set key value)) :
    KeepsFirstVisit env request account i (P.map fun _ => RoleCall.prog env) := by
  constructor
  case pull =>
    intro _ _ _ _ _ _ j hj _ _ _ key value
    rw [nextCommand_map describes_roleCalls]
    exact hreading j hj key value
  case reset => exact fun hother => absurd hr (hother req)

/-- So does a login that runs alone. -/
lemma guarded_replicate (hr : request i = .LOGIN req) (n : ℕ)
    (hreading : ∀ j, j ≠ i → ∀ key value,
      (RoleCall.next env (P.proc j)).next ≠ some (.set key value)) :
    Pool.Guarded (fun _ => RoleCall.next env) Redis.exec
      (fun i P => KeepsFirstVisit env request account i (P.map fun _ => RoleCall.prog env))
      (List.replicate n i) P := by
  induction n generalizing P with
  | zero => trivial
  | succ n ih =>
      have hnext (j : ι) (hj : j ≠ i) (key value : Bytes) : (RoleCall.next env
          ((P.step (fun _ => RoleCall.next env) Redis.exec i).proc j)).next
            ≠ some (.set key value) := by
        rw [Pool.step_proc_of_ne _ _ hj]
        exact hreading j hj key value
      exact ⟨keepsFirstVisit_of_reading hr hreading, ih hnext⟩

end TwoLogins

/-- Two logins of one account. -/
def sameLogins (_ : Bool) : RoleRequest := .LOGIN { account := "a", password := "p" }

/-- A store in which the account is registered. -/
def registeredStore : Redis :=
  .working (registered Env.wire { account := "a", password := "p" } 1 fun _ => none)

/-- The record of the account there. -/
lemma storedRole_registeredStore :
    storedRole Env.wire registeredStore.db "a" = some (initialRole "a" 1) :=
  storedRole_registered Env.wire _ _ _

/-- The first login runs alone, and has been answered when the second one starts. -/
lemma keepsFirstVisitAlong_sameLogins : KeepsFirstVisitAlong Env.wire sameLogins "a"
    [true, true, true, true, false, false, false]
    (roleCalls Env.wire (fun _ => .empty) (fun _ => (0 : ℕ)) sameLogins registeredStore) := by
  rw [KeepsFirstVisitAlong, roleCalls_eq_map, Pool.guarded_map Redis.exec describes_roleCalls]
  have hlogin (b : Bool) : sameLogins b = .LOGIN { account := "a", password := "p" } := rfl
  change Pool.Guarded _ _ _ (List.replicate 4 true ++ List.replicate 3 false) _
  rw [Pool.Guarded, Run.guarded_append]
  refine ⟨guarded_replicate (hlogin true) 4 fun j hj key value hset => ?_,
    guarded_replicate (hlogin false) 3 fun j hj key value hset => ?_⟩
  · cases j with
    | true => exact hj rfl
    | false => cases hset
  · cases j with
    | false => exact hj rfl
    | true =>
        obtain ⟨c, hpull, hpoint⟩ : ∃ c, RoleStep Env.wire true
            ((rolePoints sameLogins registeredStore).run (fun _ => RoleCall.next Env.wire)
              Redis.exec [true, true]) c _ ∧ _ :=
          step_pull_first (fun _ => rfl) rfl storedRole_registeredStore rfl
        obtain ⟨c', -, hanswered⟩ := step_push Env.wire hpull.working hpoint
        have hdone := congrArg (fun p => (RoleCall.next Env.wire p).next) hanswered
        cases hdone.symm.trans hset

/-- One login after the other. -/
theorem first_visit_one_after_the_other :
    (registeredStore.Working ∧
      (∀ role, storedRole Env.wire registeredStore.db "a" = some role →
        c_str role.basic_info.username = c_str "a") ∧
      KeepsFirstVisitAlong Env.wire sameLogins "a" [true, true, true, true, false, false, false]
        (roleCalls Env.wire (fun _ => .empty) (fun _ => (0 : ℕ)) sameLogins registeredStore)) ∧
    ∀ i j, FirstTold sameLogins "a" (runCalls [true, true, true, true, false, false, false]
        (roleCalls Env.wire (fun _ => .empty) (fun _ => (0 : ℕ)) sameLogins registeredStore)) i →
      FirstTold sameLogins "a" (runCalls [true, true, true, true, false, false, false]
        (roleCalls Env.wire (fun _ => .empty) (fun _ => (0 : ℕ)) sameLogins registeredStore)) j →
      i = j := by
  have hnamed : ∀ role, storedRole Env.wire registeredStore.db "a" = some role →
      c_str role.basic_info.username = c_str "a" := by
    intro role hstored
    cases storedRole_registeredStore.symm.trans hstored
    rfl
  exact ⟨⟨fun _ => rfl, hnamed, keepsFirstVisitAlong_sameLogins⟩,
    first_visit_once Env.wire (fun _ => .empty) (fun _ => (0 : ℕ)) sameLogins registeredStore
      (fun _ => rfl) "a" hnamed _ keepsFirstVisitAlong_sameLogins⟩

/-- Both logins pull the record before either pushes it: both are answered `SUCCEED` and told
that they are the first. -/
theorem first_visit_twice :
    ¬ ∀ i j, FirstTold sameLogins "a" (runCalls [true, true, false, false, true, false, true, false]
        (roleCalls Env.wire (fun _ => .empty) (fun _ => (0 : ℕ)) sameLogins registeredStore)) i →
      FirstTold sameLogins "a" (runCalls [true, true, false, false, true, false, true, false]
        (roleCalls Env.wire (fun _ => .empty) (fun _ => (0 : ℕ)) sameLogins registeredStore)) j →
      i = j := by
  intro honce
  rw [roleCalls_eq_map, runCalls, Pool.run_map Redis.exec describes_roleCalls] at honce
  have hT : Traced sameLogins ((rolePoints sameLogins registeredStore).run
      (fun _ => RoleCall.next Env.wire) Redis.exec [true, true, false, false]) :=
    (traced_start fun _ => rfl).run Env.wire _
  obtain ⟨htrue, hfalse⟩ : FirstTold sameLogins "a" _ true ∧ FirstTold sameLogins "a" _ false :=
    hT.both_told Bool.false_ne_true.symm rfl rfl rfl rfl storedRole_registeredStore rfl
  exact Bool.false_ne_true (honce true false htrue hfalse).symm

end LittleB
