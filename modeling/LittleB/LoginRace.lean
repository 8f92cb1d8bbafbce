import LittleB.Isolation
import LittleB.RoleCalls

/-!
Any number of logins and registrations over an empty store, their commands interleaved.

* `RoleCreated`, `PullsCreated`: a registration has stored the role record of an account,
  and a login waits for that before it pulls the role;
* `SeesWhole`: no login is answered `UNKOWN_EORROR`, and none misses the role of an account
  whose password it has read;
* `Created`, `Created.step`: the invariant, a role record is there exactly for the accounts
  for which a registration has stored one;
* `sees_whole_iff`: logins see whole accounts exactly in the schedules in which they pull
  behind the registration; `login_sees_half_account`: one in which a login does not.
-/

namespace LittleB

open Bytes

variable {ι : Type} (env : Env)

/-! ### What a login sees -/

/-- The request of an account among those that write role records. -/
def AccountRequest.roleRequest : AccountRequest → RoleRequest
  | LOGIN req => .LOGIN req
  | REGISTER req => .REGISTER req

section Property

variable (request : ι → RoleRequest)

/-- The command of a registration that stores the role record of the account. -/
def CreatesRole (request : RoleRequest) (c : Command) (account : String) : Prop :=
  ∃ req value, request = .REGISTER req ∧ c_str req.account = c_str account ∧
    c = .set (role_key req.account) value

/-- A registration has stored the role record of the account. -/
def RoleCreated (log : List (ι × (_ : Command) × Reply)) (account : String) : Prop :=
  ∃ j c reply, CreatesRole (request j) c account ∧ (j, ⟨c, reply⟩) ∈ log

/-- When the call `i` is a login that has looked the password up and is about to pull the
role, a registration has stored the role record of the account. -/
def PullsCreated (i : ι) (P : Pool RedisSig ι (Prog RedisSig Response) Redis) : Prop :=
  ∀ req, PullsRole request i P req → RoleCreated request P.log req.account

/-- No login has seen half an account: none has been answered `UNKOWN_EORROR`, and where one
has looked the password up and then read the role record, the record was there. -/
structure SeesWhole (P : Pool RedisSig ι (Prog RedisSig Response) Redis) : Prop where
  answered : ∀ i rsp, P.proc i = .ret (.LOGIN rsp) →
    rsp.error ≠ LoginRsp.ErrorCode.UNKOWN_EORROR.number
  read : ∀ i req, request i = .LOGIN req → ∀ front back, P.log = front ++ back →
    LookedUp back i req.account → ∀ reply, (i, ⟨.get (role_key req.account), reply⟩) ∈ front →
      RoleinfoManager.pulledFrom env reply ≠ none

end Property

/-! ### The invariant -/

/-- A role record is there exactly for the accounts for which a registration has stored one,
and under its name; records are pushed for such accounts only. -/
structure Created (request : ι → RoleRequest) (P : Pool RedisSig ι RoleCall Redis) : Prop where
  traced : Traced request P
  named : NamedRecords env P.state.db
  created : ∀ u, storedRole env P.state.db u ≠ none ↔ RoleCreated request P.log u
  pushing : ∀ i req role, P.proc i = .login req (.push role) →
    storedRole env P.state.db role.basic_info.username ≠ none

section Moves

variable {env} {db db' : Bytes → Option Bytes} {p p' : RoleCall} {c : Command}

lemma roleCreated_cons {request : ι → RoleRequest} {i : ι} {reply : Reply}
    {log : List (ι × (_ : Command) × Reply)} {account : String} :
    RoleCreated request ((i, ⟨c, reply⟩) :: log) account
      ↔ CreatesRole (request i) c account ∨ RoleCreated request log account := by
  constructor
  · rintro ⟨j, c', reply', hcreates, hmem⟩
    rcases List.mem_cons.mp hmem with heq | hold
    · cases heq
      exact .inl hcreates
    · exact .inr ⟨j, c', reply', hcreates, hold⟩
  · rintro (hcreates | ⟨j, c', reply', hcreates, hold⟩)
    · exact ⟨i, c, reply, hcreates, List.mem_cons_self⟩
    · exact ⟨j, c', reply', hcreates, List.mem_cons_of_mem _ hold⟩

/-- Only a write of a role record creates one. -/
lemma not_createsRole {request : RoleRequest} (h : ∀ u value, c ≠ .set (role_key u) value)
    (account : String) : ¬ CreatesRole request c account :=
  fun ⟨_, value, _, _, hc⟩ => h _ value hc

/-- The records behind a command of a login or a registration: there is one more where a
registration stores it. -/
lemma RoleMove.storedRole_iff (h : RoleMove env db p c p' db')
    (hpush : ∀ req role, p = .login req (.push role) →
      storedRole env db role.basic_info.username ≠ none)
    (herase : ∀ req, p.request ≠ .ERASE_ROLE req) (u : String) :
    storedRole env db' u ≠ none ↔ CreatesRole p.request c u ∨ storedRole env db u ≠ none := by
  rcases h.records with ⟨hc, hkept⟩ | ⟨role, hstores, rfl, hrecords⟩
  · rw [or_iff_right (not_createsRole hc u), hkept]
  rw [hrecords]
  cases hstores with
  | push req role =>
      have hlogin : ¬ CreatesRole (.LOGIN req) (.set (role_key role.basic_info.username)
          (env.roleInfo.SerializeToString role)) u :=
        fun ⟨_, _, hr, _⟩ => RoleRequest.noConfusion hr
      rw [RoleCall.request, or_iff_right hlogin]
      by_cases hu : c_str u = c_str role.basic_info.username
      · rw [if_pos hu, storedRole_congr hu]
        exact iff_of_true (Option.some_ne_none role) (hpush _ role rfl)
      · rw [if_neg hu]
  | storeRole req gid =>
      have hcreates {value : Bytes} : CreatesRole (.REGISTER req)
          (.set (role_key (initialRole req.account gid).basic_info.username) value) u
            ↔ c_str req.account = c_str u :=
        ⟨fun ⟨_, _, hr, hkey, _⟩ => RoleRequest.REGISTER.inj hr ▸ hkey,
          fun hkey => ⟨req, _, rfl, hkey, rfl⟩⟩
      change (if c_str u = c_str req.account then _ else _) ≠ none ↔ _
      rw [RoleCall.request, hcreates]
      by_cases hu : c_str u = c_str req.account
      · rw [if_pos hu]
        exact iff_of_true (Option.some_ne_none _) (.inl hu.symm)
      · rw [if_neg hu]
        exact (or_iff_right fun heq => hu heq.symm).symm
  | erase req => exact absurd rfl (herase req)

/-- Every command keeps the records under their names. -/
lemma RoleMove.named (h : RoleMove env db p c p' db') (hnamed : NamedRecords env db) :
    NamedRecords env db' := by
  intro u stored hu
  rcases h.records with ⟨-, hkept⟩ | ⟨role, -, -, hrecords⟩
  · exact hnamed u stored (hkept u ▸ hu)
  · rw [hrecords] at hu
    split_ifs at hu with hname
    · cases hu
      exact hname.symm
    · exact hnamed u stored hu

end Moves

/-! ### Every command -/

section Steps

variable {env} {request : ι → RoleRequest} {P P' : Pool RedisSig ι RoleCall Redis} {i : ι}
  {c : Command}

lemma created_start : Created env request (rolePoints request (.working fun _ => none)) := by
  refine ⟨traced_start fun _ => rfl, namedRecords_empty env, fun u => ?_, fun j req role hp => ?_⟩
  · exact iff_of_false (not_not_intro rfl) fun ⟨_, _, _, _, hmem⟩ => List.not_mem_nil hmem
  · cases RoleCall.point_of_start hp

lemma seesWhole_start (r : Redis) :
    SeesWhole env request ((rolePoints request r).map fun _ => RoleCall.prog env) := by
  constructor
  case answered =>
    intro i rsp hret
    obtain ⟨req, hp⟩ := answered_LOGIN_iff.mp hret
    cases RoleCall.point_of_start hp
  case read =>
    intro i req _ front back hlog _ reply hmem
    rw [(List.append_eq_nil_iff.mp hlog.symm).1] at hmem
    exact absurd hmem List.not_mem_nil

/-- **The step**: every command of a login or a registration keeps the invariant. -/
lemma Created.step (hC : Created env request P) (herase : ∀ i req, request i ≠ .ERASE_ROLE req)
    (h : RoleStep env i P c P') : Created env request P' := by
  have hstored (u : String) : storedRole env P'.state.db u ≠ none
      ↔ CreatesRole (request i) c u ∨ storedRole env P.state.db u ≠ none := by
    have hmove := h.move.storedRole_iff (hC.pushing i) (hC.traced.asked i ▸ herase i) u
    rwa [hC.traced.asked i] at hmove
  constructor
  case traced => exact hC.traced.step h
  case named => exact h.move.named hC.named
  case created =>
    intro u
    rw [hstored, hC.created, h.log, roleCreated_cons]
  case pushing =>
    intro j req role hp
    refine (hstored _).mpr (.inr ?_)
    by_cases hji : j = i
    · subst hji
      have hmove := h.move
      rw [hp] at hmove
      obtain ⟨-, -, stored, hrole, -, rfl⟩ := hmove.to_push
      rw [RoleInfo.visited_username, storedRole_congr (hC.named _ stored hrole), hrole]
      exact Option.some_ne_none stored
    · rw [h.other j hji] at hp
      exact hC.pushing j req role hp

/-- What the condition says of the store: the role is there when a login pulls it. -/
lemma Created.pullsCreated_iff (hC : Created env request P) :
    PullsCreated request i (P.map fun _ => RoleCall.prog env)
      ↔ ∀ req, P.proc i = .login req .pull → storedRole env P.state.db req.account ≠ none :=
  forall_congr' fun req => imp_congr hC.traced.pullsRole_iff (hC.created req.account).symm

/-- A login that finds the role it pulls goes on seeing whole accounts. -/
lemma Created.seesWhole_step (hC : Created env request P)
    (hsees : SeesWhole env request (P.map fun _ => RoleCall.prog env))
    (hpull : ∀ req, P.proc i = .login req .pull → storedRole env P.state.db req.account ≠ none)
    (h : RoleStep env i P c P') : SeesWhole env request (P'.map fun _ => RoleCall.prog env) := by
  constructor
  case answered =>
    intro j rsp hret
    obtain ⟨req, hp'⟩ := answered_LOGIN_iff.mp hret
    by_cases hj : j = i
    · subst hj
      have hmove := h.move
      rw [hp'] at hmove
      generalize hp : P.proc j = p at hmove
      generalize P'.state.db = db' at hmove
      cases hmove with
      | login hl =>
          cases hl with
          | roleless hnone => exact absurd hnone (hpull req hp)
          | unregistered | wrong | returning | push =>
              simp [LoginRsp.answer]
    · rw [h.other j hj] at hp'
      exact hsees.answered j rsp (answered_LOGIN_iff.mpr ⟨req, hp'⟩)
  case read =>
    intro j req hr front back hlog hlooked reply hmem
    change P'.log = front ++ back at hlog
    rw [h.log] at hlog
    cases front with
    | nil => exact absurd hmem List.not_mem_nil
    | cons entry front =>
        obtain ⟨rfl, hrest⟩ := List.cons_eq_cons.mp hlog
        rcases List.mem_cons.mp hmem with heq | hold
        · -- the record is read by this command, behind the lookup
          cases heq
          obtain ⟨found, hfound⟩ := hlooked
          have hpoint := hC.traced.pullsRole_iff.mp ⟨hr,
            ⟨found, hrest ▸ List.mem_append_right front hfound⟩, h.nextCommand_eq⟩
          rw [RoleinfoManager.pulledFrom_get]
          exact hpull req hpoint
        · exact hsees.read j req hr front back hrest hlooked reply hold

/-- A login that does not find the role it pulls is answered `UNKOWN_EORROR`. -/
lemma not_seesWhole_of_roleless (h : RoleStep env i P c P') {req : LoginReq}
    (hp : P.proc i = .login req .pull) (hnone : storedRole env P.state.db req.account = none) :
    ¬ SeesWhole env request (P'.map fun _ => RoleCall.prog env) := by
  intro hsees
  have hmove := h.move
  rw [hp] at hmove
  generalize hp' : P'.proc i = p' at hmove
  generalize P'.state.db = db' at hmove
  cases hmove with
  | login hl =>
      cases hl with
      | roleless => exact hsees.answered i _ (answered_LOGIN_iff.mpr ⟨req, hp'⟩) rfl
      | first stored hstored => cases hnone.symm.trans hstored
      | returning stored hstored => cases hnone.symm.trans hstored

/-- **One command**: logins go on seeing whole accounts exactly when the login that is about
to pull has waited for the registration. -/
lemma Created.seesWhole_iff (hC : Created env request P)
    (hsees : SeesWhole env request (P.map fun _ => RoleCall.prog env))
    (h : RoleStep env i P c P') :
    PullsCreated request i (P.map fun _ => RoleCall.prog env)
      ↔ SeesWhole env request (P'.map fun _ => RoleCall.prog env) := by
  rw [hC.pullsCreated_iff]
  constructor
  · exact fun hpull => hC.seesWhole_step hsees hpull h
  · exact fun hsees' req hp hnone => not_seesWhole_of_roleless h hp hnone hsees'

end Steps

/-! ### Every schedule -/

/-- The calls of registrations and logins over an empty store that executes every command. -/
abbrev accountCalls {Addr : Type} [DecidableEq Addr] (role_manager_ : ι → RoleinfoManager Addr)
    (addr : ι → Addr) (request : ι → AccountRequest) :
    Pool RedisSig ι (Prog RedisSig Response) Redis :=
  roleCalls env role_manager_ addr (fun i => (request i).roleRequest) (.working fun _ => none)

/-- Every login of the schedule pulls behind the registration of its account. -/
abbrev PullsCreatedAlong [DecidableEq ι] (request : ι → RoleRequest) (sched : List ι)
    (P : Pool RedisSig ι (Prog RedisSig Response) Redis) : Prop :=
  Pool.Guarded (fun _ p => p.view) Redis.exec (PullsCreated request) sched P

/-- The run lemma, at the control points. -/
lemma pullsCreated_iff_seesWhole [DecidableEq ι] {request : ι → RoleRequest}
    (herase : ∀ i req, request i ≠ .ERASE_ROLE req) (sched : List ι) :
    PullsCreatedAlong request sched
        ((rolePoints request (.working fun _ => none)).map fun _ => RoleCall.prog env)
      ↔ ∀ earlier later, sched = earlier ++ later → SeesWhole env request
          (runCalls earlier
            ((rolePoints request (.working fun _ => none)).map fun _ => RoleCall.prog env)) := by
  rw [PullsCreatedAlong, Pool.guarded_map Redis.exec describes_roleCalls]
  refine (Run.guarded_iff_forall_of_invariant (J := Created env request)
    (I := fun P => SeesWhole env request (P.map fun _ => RoleCall.prog env)) ?_ ?_ created_start
    (seesWhole_start _)).trans ?_
  · intro i P hC
    rcases role_step_cases env hC.traced.working i with ⟨-, hstep⟩ | ⟨c, hstep⟩
    · rw [hstep]
      exact hC
    · exact hC.step herase hstep
  · intro i P hC hsees
    rcases role_step_cases env hC.traced.working i with ⟨hdone, hstep⟩ | ⟨c, hstep⟩
    · rw [hstep]
      refine iff_of_true (fun req hpulls => ?_) hsees
      rw [hC.traced.pullsRole_iff.mp hpulls] at hdone
      cases hdone
    · exact hC.seesWhole_iff hsees hstep
  · refine forall_congr' fun earlier => forall_congr' fun later => imp_congr_right fun _ => ?_
    rw [runCalls, Pool.run_map Redis.exec describes_roleCalls]
    exact Iff.rfl

/-- **Whole accounts**: over an empty store, in every schedule of any number of logins and
registrations, no login ever sees half an account, exactly when every login that has found
the password pulls the role behind the command of a registration that has stored it. -/
theorem sees_whole_iff [DecidableEq ι] {Addr : Type} [DecidableEq Addr]
    (role_manager_ : ι → RoleinfoManager Addr) (addr : ι → Addr) (request : ι → AccountRequest)
    (sched : List ι) :
    PullsCreatedAlong (fun i => (request i).roleRequest) sched
        (accountCalls env role_manager_ addr request)
      ↔ ∀ earlier later, sched = earlier ++ later →
          SeesWhole env (fun i => (request i).roleRequest)
            (runCalls earlier (accountCalls env role_manager_ addr request)) := by
  rw [accountCalls, roleCalls_eq_map]
  refine pullsCreated_iff_seesWhole env (fun i req => ?_) sched
  cases request i <;> exact RoleRequest.noConfusion

/-- A registration and a login with the password that is registered. -/
def registerAndLogin : Bool → AccountRequest
  | true => .REGISTER { account := "a", password := "p" }
  | false => .LOGIN { account := "a", password := "p" }

/-- The login comes when the registration has stored the password and nothing else: it is
answered `UNKOWN_EORROR`. -/
theorem login_sees_half_account :
    ¬ ∀ earlier later, [true, true, false, false, false] = earlier ++ later →
      SeesWhole Env.wire (fun b => (registerAndLogin b).roleRequest)
        (runCalls earlier
          (accountCalls Env.wire (fun _ => .empty) (fun _ => (0 : ℕ)) registerAndLogin)) := by
  intro hsees
  have hanswer : (runCalls [true, true, false, false, false]
      (accountCalls Env.wire (fun _ => .empty) (fun _ => (0 : ℕ)) registerAndLogin)).proc false
        = .ret (.LOGIN (.answer 0 .UNKOWN_EORROR false)) := rfl
  exact (hsees _ [] rfl).answered false _ hanswer rfl

end LittleB
