import LittleB.Registration

/-!
Any number of registrations over one store, their commands interleaved.

* `registrations`: the calls, none of which has issued a command yet;
* `Succeeded`: a call has been answered `SUCCEED`;
* `Local`, `Exclusive`: the invariant, what every call has stored where it stands,
  and that at most one call stands behind the lookup of an account;
* `registration_exclusive`: schedules whose steps all meet the condition;
  `registration_race`: one that does not.
-/

namespace LittleB

open Bytes

variable {ι : Type} (env : Env)

/-! ### Concurrent registrations -/

/-- The calls of `MinigameRegisterService` over one store. -/
def registrations (request : ι → RegisterReq) (r : Redis) :
    Pool RedisSig ι (Prog RedisSig RegisterRsp) Redis :=
  { proc := fun i => MinigameRegisterService env (request i), state := r, log := [] }

/-- The call `i` has been answered `SUCCEED`. -/
def Succeeded (P : Pool RedisSig ι (Prog RedisSig RegisterRsp) Redis) (i : ι) : Prop :=
  ∃ rsp, P.proc i = .ret rsp ∧ rsp.error = RegisterRsp.ErrorCode.SUCCEED.number

/-! ### The invariant -/

section Invariant

variable (request : ι → RegisterReq)

/-- The points at which a call has taken the account: its lookup has said that the
account is new, and it has not been answered with an error. -/
def Claims : RegisterPoint → Prop
  | .start => False
  | .setPassword => True
  | .nextId => True
  | .storeRole _ => True
  | .answered rsp => rsp.error = RegisterRsp.ErrorCode.SUCCEED.number

/-- The call `i` has been given the number `gid` by the counter. -/
def Counted (log : List (ι × (_ : Command) × Reply)) (i : ι) (gid : Int64) : Prop :=
  (i, ⟨.incr gid_key, .integer gid⟩) ∈ log

/-- What a call has stored where it stands. -/
def Local (i : ι) (db : Bytes → Option Bytes) (log : List (ι × (_ : Command) × Reply)) :
    RegisterPoint → Prop
  | .start => True
  | .setPassword => db (password_key (request i).account) = none
  | .nextId => db (password_key (request i).account) = some (c_str (request i).password)
  | .storeRole gid =>
      db (password_key (request i).account) = some (c_str (request i).password) ∧
        ∃ n, Counted log i n ∧ n.toInt32 = gid
  | .answered rsp => rsp.error = RegisterRsp.ErrorCode.SUCCEED.number →
      db (password_key (request i).account) = some (c_str (request i).password) ∧
        ∃ n, Counted log i n ∧ db (role_key (request i).account)
          = some (env.roleInfo.SerializeToString (initialRole (request i).account n.toInt32))

/-- At most one call has taken an account, and every call has stored what it should
have. -/
structure Exclusive (P : Pool RedisSig ι RegisterPoint Redis) : Prop where
  claims : ∀ i j, c_str (request i).account = c_str (request j).account →
    Claims (P.proc i) → Claims (P.proc j) → i = j
  stored : ∀ i, Local env request i P.state.db P.log (P.proc i)

variable {env request}

/-- An error answer gives an account up. -/
lemma not_claims_answer {rpcid : Int32} {ret : RegisterRsp.ErrorCode} (h : ret ≠ .SUCCEED) :
    ¬ Claims (.answered (.answer rpcid ret)) := by
  intro hs
  exact h (RegisterRsp.ErrorCode.number_inj.mp hs)

/-- A call that has not taken an account has nothing to keep. -/
lemma local_of_not_claims {i : ι} {db : Bytes → Option Bytes}
    {log : List (ι × (_ : Command) × Reply)} {p : RegisterPoint} (h : ¬ Claims p) :
    Local env request i db log p := by
  cases p with
  | start => trivial
  | setPassword => exact absurd trivial h
  | nextId => exact absurd trivial h
  | storeRole gid => exact absurd trivial h
  | answered rsp => exact fun hs => absurd hs h

/-- What a call has stored stays while its two keys do. -/
lemma Local.frame {i : ι} {db db' : Bytes → Option Bytes}
    {log : List (ι × (_ : Command) × Reply)} {p : RegisterPoint} (entry : ι × (_ : Command) × Reply)
    (hpassword : db' (password_key (request i).account) = db (password_key (request i).account))
    (hrole : db' (role_key (request i).account) = db (role_key (request i).account))
    (h : Local env request i db log p) : Local env request i db' (entry :: log) p := by
  cases p with
  | start => trivial
  | setPassword => exact hpassword.trans h
  | nextId => exact hpassword.trans h
  | storeRole gid =>
      obtain ⟨hdb, n, hn, hgid⟩ := h
      exact ⟨hpassword.trans hdb, n, List.mem_cons_of_mem _ hn, hgid⟩
  | answered rsp =>
      intro hs
      obtain ⟨hdb, n, hn, hdb'⟩ := h hs
      exact ⟨hpassword.trans hdb, n, List.mem_cons_of_mem _ hn, hrole.trans hdb'⟩

/-- A call that has written its password still stands by it. -/
lemma Local.password {i : ι} {db : Bytes → Option Bytes}
    {log : List (ι × (_ : Command) × Reply)} {p : RegisterPoint} (hc : Claims p)
    (hp : p ≠ .setPassword) (h : Local env request i db log p) :
    db (password_key (request i).account) ≠ none := by
  cases p with
  | start => exact absurd hc id
  | setPassword => exact absurd rfl hp
  | nextId => rw [show _ = some _ from h]; simp
  | storeRole gid => rw [h.1]; simp
  | answered rsp => rw [(h hc).1]; simp

end Invariant

/-! ### What one command does -/

section Moves

variable {env} {request : RegisterReq} {r r' : Redis} {p p' : RegisterPoint} {c : Command}
  {reply : Reply}

/-- A registration writes its own two keys and the counter. -/
lemma RegisterMove.frame (h : RegisterMove env request r p c reply p' r') {key : Bytes}
    (hpassword : key ≠ password_key request.account) (hrole : key ≠ role_key request.account)
    (hgid : key ≠ gid_key) : r'.db key = r.db key := by
  cases h with
  | password => exact Function.update_of_ne hpassword _ _
  | counted => exact Function.update_of_ne hgid _ _
  | role => exact Function.update_of_ne hrole _ _
  | _ => rfl

/-- Only the lookup takes an account. -/
lemma RegisterMove.claims (h : RegisterMove env request r p c reply p' r') (hp' : Claims p') :
    Claims p ∨ (p = .start ∧ p' = .setPassword ∧ r.db (password_key request.account) = none ∧
      c = .get (password_key request.account)) := by
  cases h with
  | refused => exact absurd hp' (not_claims_answer (by simp))
  | new h0 hnew => exact .inr ⟨rfl, rfl, hnew, rfl⟩
  | unstored => exact .inl trivial
  | password => exact .inl trivial
  | uncounted => exact .inl trivial
  | counted => exact .inl trivial
  | roleless => exact .inl trivial
  | role => exact .inl trivial

/-- Before the account is taken nothing is written. -/
lemma RegisterMove.db_of_not_claims (h : RegisterMove env request r p c reply p' r')
    (hp : ¬ Claims p) : r'.db = r.db := by
  cases h with
  | refused => rfl
  | new => rfl
  | _ => exact absurd trivial hp

/-- A command leaves its call with what it should have stored. -/
lemma RegisterMove.local {request : ι → RegisterReq} {i : ι}
    {log : List (ι × (_ : Command) × Reply)}
    (h : RegisterMove env (request i) r p c reply p' r')
    (hl : Local env request i r.db log p) :
    Local env request i r'.db ((i, ⟨c, reply⟩) :: log) p' := by
  cases h with
  | refused | unstored | uncounted | roleless =>
      exact local_of_not_claims (not_claims_answer (by simp))
  | new h0 hnew => exact hnew
  | password => exact Function.update_self _ _ _
  | counted gid =>
      refine ⟨?_, gid, List.mem_cons_self, rfl⟩
      have hkeep : Function.update r.db gid_key (some (decimal gid.toInt))
          (password_key (request i).account) = r.db (password_key (request i).account) :=
        Function.update_of_ne (password_key_ne_gid_key _) _ _
      exact hkeep.trans hl
  | role gid =>
      intro _
      obtain ⟨hdb, n, hn, rfl⟩ := hl
      refine ⟨?_, n, List.mem_cons_of_mem _ hn, Function.update_self _ _ _⟩
      have hkeep (role : RoleInfo) : Function.update r.db (role_key (request i).account)
          (some (env.roleInfo.SerializeToString role)) (password_key (request i).account)
            = r.db (password_key (request i).account) :=
        Function.update_of_ne (password_key_ne_role_key _ _) _ _
      exact (hkeep (initialRole (request i).account n.toInt32)).trans hdb

end Moves

/-! ### Every schedule that reads apart -/

section Runs

variable {request : ι → RegisterReq}

/-- The calls at their control points. -/
def registrationPoints (r : Redis) : Pool RedisSig ι RegisterPoint Redis :=
  { proc := fun _ => .start, state := r, log := [] }

lemma describes_calls (request : ι → RegisterReq) (i : ι) :
    Describes (RegisterPoint.next env (request i)) (RegisterPoint.prog env (request i)) :=
  RegisterPoint.describes env (request i)

variable [DecidableEq ι]

variable {i : ι} {P : Pool RedisSig ι RegisterPoint Redis}

omit [DecidableEq ι] in
/-- A call has its account to itself behind a command that reads apart: nobody who has the
account was there before, and nobody is about to take it. -/
lemma Exclusive.not_claims
    (hapart : ReadsApart i (P.map fun i => RegisterPoint.prog env (request i)))
    (hI : Exclusive env request P) {p' : RegisterPoint} {r' : Redis} {c : Command} {reply : Reply}
    {k : Reply → RegisterPoint}
    (hv : RegisterPoint.next env (request i) (P.proc i) = .ask c k)
    (hmove : RegisterMove env (request i) P.state (P.proc i) c reply p' r') {j : ι} (hj : j ≠ i)
    (hkey : c_str (request j).account = c_str (request i).account) (hcj : Claims (P.proc j)) :
    ¬ Claims p' := by
  intro hci
  rcases hmove.claims hci with hcp | ⟨hstart, hpoint, hnew, hget⟩
  · exact hj (hI.claims j i hkey hcj hcp)
  · by_cases hset : P.proc j = .setPassword
    · have hnext : nextCommand (P.map fun i => RegisterPoint.prog env (request i)) i
          = some (.get (password_key (request i).account)) := by
        rw [nextCommand_map (describes_calls env request), hv, ← hget]
        rfl
      refine hapart _ hnext j hj (c_str (request j).password) ?_
      rw [nextCommand_map (describes_calls env request), hset, ← password_key_inj.mpr hkey]
      rfl
    · have hsome := (hI.stored j).password hcj hset
      rw [password_key_inj.mpr hkey] at hsome
      exact hsome hnew

omit [DecidableEq ι] in
/-- What another call has stored stays. -/
lemma Exclusive.stored_other (hI : Exclusive env request P) {p' : RegisterPoint} {r' : Redis}
    {c : Command} {reply : Reply}
    (hmove : RegisterMove env (request i) P.state (P.proc i) c reply p' r') {j : ι} (hj : j ≠ i) :
    Local env request j r'.db ((i, ⟨c, reply⟩) :: P.log) (P.proc j) := by
  by_cases hcj : Claims (P.proc j)
  swap
  · exact local_of_not_claims hcj
  by_cases hkey : c_str (request j).account = c_str (request i).account
  · -- the other call has the account, so this one is still before its lookup
    have hdb := hmove.db_of_not_claims fun hci => hj (hI.claims j i hkey hcj hci)
    exact (hI.stored j).frame _ (by rw [hdb]) (by rw [hdb])
  · refine (hI.stored j).frame _ ?_ ?_
    · exact hmove.frame (password_key_inj.not.mpr hkey) (password_key_ne_role_key _ _)
        (password_key_ne_gid_key _)
    · exact hmove.frame (password_key_ne_role_key _ _).symm (role_key_inj.not.mpr hkey)
        (role_key_ne_gid_key _)

/-- **The step**: a command that reads apart keeps the invariant. -/
lemma exclusive_step (hapart : ReadsApart i (P.map fun i => RegisterPoint.prog env (request i)))
    (hI : Exclusive env request P) :
    Exclusive env request
      (P.step (fun i => RegisterPoint.next env (request i)) Redis.exec i) := by
  rcases P.step_cases (fun i => RegisterPoint.next env (request i)) Redis.exec i with
    ⟨-, hstep⟩ | ⟨c, k, hv, hself, hother, hstate, hlog⟩
  · rw [hstep]
    exact hI
  generalize P.step (fun i => RegisterPoint.next env (request i)) Redis.exec i = P'
    at hself hother hstate hlog ⊢
  have hmove := register_move env hv P.state
  rw [← hself, ← hstate] at hmove
  constructor
  case claims =>
    intro j l hkey hj hl
    by_cases hji : j = i <;> by_cases hli : l = i
    · rw [hji, hli]
    · subst hji
      rw [hother l hli] at hl
      exact absurd hj (hI.not_claims env hapart hv hmove hli hkey.symm hl)
    · subst hli
      rw [hother j hji] at hj
      exact absurd hl (hI.not_claims env hapart hv hmove hji hkey hj)
    · rw [hother j hji] at hj
      rw [hother l hli] at hl
      exact hI.claims j l hkey hj hl
  case stored =>
    intro j
    rw [hlog]
    by_cases hji : j = i
    · subst hji
      exact hmove.local (hI.stored j)
    · rw [hother j hji]
      exact hI.stored_other env hmove hji

/-- **Exclusive registration**: in every schedule in which no key is read between
another call's read and its write of it, at most one registration of an account is
answered `SUCCEED`, and the store holds the password of that call and the role with
the number that call was given. -/
theorem registration_exclusive (request : ι → RegisterReq) (r : Redis) (sched : List ι)
    (hapart : ReadsApartAlong sched (registrations env request r)) :
    (∀ i j, (request i).account = (request j).account →
      Succeeded (runCalls sched (registrations env request r)) i →
      Succeeded (runCalls sched (registrations env request r)) j → i = j) ∧
    ∀ i, Succeeded (runCalls sched (registrations env request r)) i →
      (runCalls sched (registrations env request r)).state.db (password_key (request i).account)
          = some (c_str (request i).password) ∧
        ∃ n, Counted (runCalls sched (registrations env request r)).log i n ∧
          storedRole env (runCalls sched (registrations env request r)).state.db
            (request i).account = some (initialRole (request i).account n.toInt32) := by
  have hstart : Exclusive env request (registrationPoints r) :=
    ⟨fun i j _ hi => absurd hi id, fun _ => trivial⟩
  obtain ⟨P, hrun, hI⟩ := runCalls_invariant (describes_calls env request)
    (fun i P => exclusive_step env) hapart hstart
  rw [show runCalls sched (registrations env request r) = _ from hrun]
  -- a call answered `SUCCEED` is at the point that says so
  have hpoint : ∀ i, Succeeded (P.map fun i => RegisterPoint.prog env (request i)) i →
      ∃ rsp, P.proc i = .answered rsp ∧ rsp.error = RegisterRsp.ErrorCode.SUCCEED.number := by
    rintro i ⟨rsp, hret, hs⟩
    refine ⟨rsp, ?_, hs⟩
    change RegisterPoint.prog env (request i) (P.proc i) = .ret rsp at hret
    cases hp : P.proc i with
    | answered rsp' =>
        rw [hp] at hret
        cases hret
        rfl
    | start => rw [hp] at hret; cases hret
    | setPassword => rw [hp] at hret; cases hret
    | nextId => rw [hp] at hret; cases hret
    | storeRole gid => rw [hp] at hret; cases hret
  refine ⟨fun i j haccount hi hj => ?_, fun i hi => ?_⟩
  · obtain ⟨rsp, hpi, hsi⟩ := hpoint i hi
    obtain ⟨rsp', hpj, hsj⟩ := hpoint j hj
    exact hI.claims i j (by rw [haccount]) (by rw [hpi]; exact hsi) (by rw [hpj]; exact hsj)
  · obtain ⟨rsp, hpi, hsi⟩ := hpoint i hi
    have hstored := hI.stored i
    rw [hpi] at hstored
    obtain ⟨hpassword, n, hn, hrole⟩ := hstored hsi
    refine ⟨hpassword, n, hn, ?_⟩
    change (P.state.db (role_key (request i).account)).bind (decodeRole env) = _
    rw [hrole, Option.bind_some, decodeRole_serialize]

end Runs

/-- Two registrations of one account. -/
def twoRegistrations (b : Bool) : RegisterReq :=
  { account := "a", password := if b then "p" else "q" }

/-- An empty store that executes every command. -/
def emptyStore : Redis := ⟨fun _ => none, fun _ => .ok⟩

/-- One registration after the other. -/
theorem registration_one_after_the_other :
    ReadsApartAlong [true, true, true, true, false]
      (registrations Env.wire twoRegistrations emptyStore) ∧
    ((∀ i j, (twoRegistrations i).account = (twoRegistrations j).account →
      Succeeded (runCalls [true, true, true, true, false]
        (registrations Env.wire twoRegistrations emptyStore)) i →
      Succeeded (runCalls [true, true, true, true, false]
        (registrations Env.wire twoRegistrations emptyStore)) j → i = j) ∧
    ∀ i, Succeeded (runCalls [true, true, true, true, false]
        (registrations Env.wire twoRegistrations emptyStore)) i →
      (runCalls [true, true, true, true, false]
        (registrations Env.wire twoRegistrations emptyStore)).state.db
          (password_key (twoRegistrations i).account)
          = some (c_str (twoRegistrations i).password) ∧
        ∃ n, Counted (runCalls [true, true, true, true, false]
          (registrations Env.wire twoRegistrations emptyStore)).log i n ∧
          storedRole Env.wire (runCalls [true, true, true, true, false]
            (registrations Env.wire twoRegistrations emptyStore)).state.db
            (twoRegistrations i).account
              = some (initialRole (twoRegistrations i).account n.toInt32)) := by
  have hapart : ReadsApartAlong [true, true, true, true, false]
      (registrations Env.wire twoRegistrations emptyStore) := by
    refine ⟨?_, ?_, ?_, ?_, ?_, trivial⟩
    all_goals
      intro key _ j hj value
      cases j
      · first | exact absurd rfl hj | exact fun h => nomatch h
      · first | exact absurd rfl hj | exact fun h => nomatch h
  exact ⟨hapart, registration_exclusive Env.wire twoRegistrations emptyStore _ hapart⟩

/-- Both calls look the account up before either writes: both are answered
`SUCCEED`, and the password of the one that was first is gone. -/
theorem registration_race :
    ¬ ((∀ i j, (twoRegistrations i).account = (twoRegistrations j).account →
        Succeeded (runCalls [true, false, true, false, true, true, false, false]
          (registrations Env.wire twoRegistrations emptyStore)) i →
        Succeeded (runCalls [true, false, true, false, true, true, false, false]
          (registrations Env.wire twoRegistrations emptyStore)) j → i = j) ∧
      ∀ i, Succeeded (runCalls [true, false, true, false, true, true, false, false]
          (registrations Env.wire twoRegistrations emptyStore)) i →
        (runCalls [true, false, true, false, true, true, false, false]
          (registrations Env.wire twoRegistrations emptyStore)).state.db
            (password_key (twoRegistrations i).account)
          = some (c_str (twoRegistrations i).password)) := by
  rintro ⟨honly, -⟩
  have hboth : true = false := honly true false rfl ⟨.answer 0 .SUCCEED, rfl, rfl⟩
    ⟨.answer 0 .SUCCEED, rfl, rfl⟩
  cases hboth

end LittleB
