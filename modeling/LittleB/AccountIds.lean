import LittleB.Isolation
import LittleB.Provenance

/-!
Player ids, over any number of connections.

* `Counts`, `happens_counter`: the numbers that `incr` replies, each larger than the ones
  before it, and as far from the start as there were increments;
* `Issued`: an id is the one a registration was replied; `Owns`: or it was stored at the
  start; `OwnedRecords`, `OwnedSession`: the ids in the store and in memory belong to their
  accounts, `serve_keeps_owned`;
* `account_ids_apart`: **accounts do not share ids**, however their requests are interleaved
  and whatever commands fail.
-/

namespace LittleB

open Bytes

variable {env : Env} {Addr : Type}

/-! ### The counter -/

/-- The command has taken the counter to a number. -/
def Counts (e : Clients.Executed RedisSig Addr Outcome) (n : Int64) : Prop :=
  e.command = Command.incr gid_key ∧ e.reply = Reply.integer n

/-- The command asks for the next number. -/
def asksId (e : Clients.Executed RedisSig Addr Outcome) : Bool :=
  decide ((e.command : Command) = .incr gid_key)

/-- A counter that is incremented stood one before. -/
lemma counter_of_incremented {db : Bytes → Option Bytes} {n : Int64}
    (h : Redis.incremented db gid_key = some n) : counter db = some (n.toInt - 1) := by
  rw [Redis.incremented] at h
  rw [counter]
  cases hdb : db gid_key with
  | none =>
      rw [hdb] at h
      obtain rfl := Option.some_inj.mp h
      rfl
  | some value =>
      rw [hdb] at h
      change ofDecimal value = _
      cases hvalue : ofDecimal value with
      | none => simp [hvalue] at h
      | some m =>
          simp only [hvalue] at h
          split_ifs at h with hrange
          obtain rfl := Option.some_inj.mp h
          rw [Int64.toInt_ofInt_of_le (by omega) (by omega), Int.add_sub_cancel]

/-- A command that does not write the counter leaves it as it is, or takes it one further. -/
lemma executes_counter {e : Clients.Executed RedisSig Addr Outcome} {db db' : Bytes → Option Bytes}
    (h : Clients.Executes Redis.execute db e db')
    (hset : ∀ value, e.command ≠ Command.set gid_key value) :
    (counter db' = counter db ∧ ∀ n, ¬ Counts e n) ∨
      ∃ n, Counts e n ∧ counter db = some (n.toInt - 1) ∧ counter db' = some n.toInt := by
  obtain ⟨addr, number, c, outcome, reply⟩ := e
  have hcounter {db db' : Bytes → Option Bytes} (h : db' gid_key = db gid_key) :
      counter db' = counter db := by rw [counter, counter, h]
  simp only [Clients.Executes] at h
  cases outcome with
  | error str =>
      obtain ⟨rfl, rfl⟩ := Prod.mk.inj h
      exact .inl ⟨rfl, fun n hn => by cases hn.2⟩
  | ok =>
      rw [Redis.execute_ok] at h
      by_cases hkey : Command.key c = gid_key
      · cases c with
        | get key =>
            have hdb := congrArg Prod.snd h
            rw [Redis.perform_get_snd] at hdb
            exact .inl ⟨hcounter (congrFun hdb.symm _), fun n hn => by cases hn.1⟩
        | set key value =>
            change key = gid_key at hkey
            exact absurd rfl (hkey ▸ hset value)
        | incr key =>
            obtain rfl : key = gid_key := hkey
            cases hn : Redis.incremented db gid_key with
            | none =>
                rw [Redis.perform_incr_none hn] at h
                obtain ⟨rfl, rfl⟩ := Prod.mk.inj h
                exact .inl ⟨rfl, fun n hn => by cases hn.2⟩
            | some n =>
                rw [Redis.perform_incr_some hn] at h
                obtain ⟨rfl, rfl⟩ := Prod.mk.inj h
                refine .inr ⟨n, ⟨rfl, rfl⟩, counter_of_incremented hn, ?_⟩
                rw [counter, Function.update_self]
                exact ofDecimal_decimal _
      · have hsame := execute_of_key_ne hkey .ok db
        rw [Redis.execute_ok, h] at hsame
        refine .inl ⟨hcounter hsame, fun n hn => hkey ?_⟩
        rw [show c = Command.incr gid_key from hn.1]
        rfl

/-- **The numbers of a run**: each lies behind the ones before it, and not further behind the
start than there were commands that asked for one. -/
lemma happens_counter {es : List (Clients.Executed RedisSig Addr Outcome)}
    {db db' : Bytes → Option Bytes} {c : ℤ} (h : Happens (Clients.Executes Redis.execute) db es db')
    (hset : ∀ e ∈ es, ∀ value, e.command ≠ Command.set gid_key value) (hc : counter db = some c) :
    (∀ e ∈ es, ∀ n, Counts e n → c < n.toInt ∧ n.toInt ≤ c + es.countP asksId) ∧
      es.Pairwise fun e f => ∀ m n, Counts e m → Counts f n → m.toInt < n.toInt := by
  induction h generalizing c with
  | nil db => exact ⟨fun e he => absurd he List.not_mem_nil, .nil⟩
  | @cons db db₁ db' e es he hes ih =>
      have hlater := fun f hf => hset f (List.mem_cons_of_mem e hf)
      rcases executes_counter he (hset e List.mem_cons_self) with
        ⟨hsame, hnone⟩ | ⟨n, hn, hbefore, hbehind⟩
      · obtain ⟨hrange, hpairs⟩ := ih hlater (hsame.trans hc)
        refine ⟨fun f hf m hm => ?_, List.pairwise_cons.mpr ⟨fun f _ m n hm => ?_, hpairs⟩⟩
        · rcases List.mem_cons.mp hf with rfl | hf
          · exact absurd hm (hnone m)
          · obtain ⟨hlow, hhigh⟩ := hrange f hf m hm
            rw [List.countP_cons]
            exact ⟨hlow, by push_cast; omega⟩
        · exact absurd hm (hnone m)
      · rw [hc] at hbefore
        have hnc : c = n.toInt - 1 := Option.some_inj.mp hbefore
        obtain ⟨hrange, hpairs⟩ := ih hlater hbehind
        have hasks : asksId e = true := decide_eq_true hn.1
        have hself {m : Int64} (hm : Counts e m) : m = n :=
          Reply.integer.inj (hm.2.symm.trans hn.2)
        refine ⟨fun f hf m hm => ?_, List.pairwise_cons.mpr ⟨fun f hf m k hm hk => ?_, hpairs⟩⟩
        · rw [List.countP_cons, if_pos hasks]
          push_cast
          rcases List.mem_cons.mp hf with rfl | hf
          · rw [hself hm]
            omega
          · obtain ⟨hlow, hhigh⟩ := hrange f hf m hm
            omega
        · rw [hself hm]
          exact (hrange f hf k hk).1

/-! ### Whose an id is -/

variable [DecidableEq Addr]

/-- An account has a record with this id. -/
def Held (env : Env) (db : Bytes → Option Bytes) (i : Int32) (u : String) : Prop :=
  ∃ role, storedRole env db u = some role ∧ role.basic_info.player_id = i

/-- A registration of the account was replied this id. -/
def Issued (T : Threads Addr) (i : Int32) (u : String) : Prop :=
  ∃ e ∈ T.executed, ∃ n session req, Counts e n ∧ n.toInt32 = i ∧
    Clients.Called T e.call session (.REGISTER req) ∧ c_str req.account = c_str u

/-- The id belongs to the account: it was stored for it at the start, or issued to it. -/
def Owns (env : Env) (db : Bytes → Option Bytes) (T : Threads Addr) (i : Int32) (u : String) :
    Prop := Held env db i u ∨ Issued T i u

/-- Every record lies under its name, and has an id of that account or none. -/
def OwnedRecords (env : Env) (db₀ : Bytes → Option Bytes) (T : Threads Addr)
    (db : Bytes → Option Bytes) : Prop :=
  ∀ u role, storedRole env db u = some role → c_str role.basic_info.username = c_str u ∧
    (role.basic_info.player_id ≠ 0 → Owns env db₀ T role.basic_info.player_id u)

/-- The role of a connection has an id of its account or none. -/
def OwnedSession (env : Env) (db₀ : Bytes → Option Bytes) (T : Threads Addr)
    (session : Option Session) : Prop :=
  ∀ s, session = some s → s.role.basic_info.player_id ≠ 0 →
    Owns env db₀ T s.role.basic_info.player_id s.username

section Owns

variable {db₀ db : Bytes → Option Bytes} {T : Threads Addr} {i : Int32} {u v : String}

/-- Accounts with one C string have the same ids. -/
lemma Owns.congr (h : Owns env db₀ T i u) (huv : c_str u = c_str v) : Owns env db₀ T i v := by
  rcases h with ⟨role, hrole, hid⟩ | ⟨e, he, n, session, req, hn, hid, hcalled, hname⟩
  · exact .inl ⟨role, storedRole_congr huv db₀ ▸ hrole, hid⟩
  · exact .inr ⟨e, he, n, session, req, hn, hid, hcalled, hname.trans huv⟩

/-- A write of a role under its name keeps the records as they should be. -/
lemma OwnedRecords.write (h : OwnedRecords env db₀ T db) {role : RoleInfo}
    (hid : role.basic_info.player_id ≠ 0 →
      Owns env db₀ T role.basic_info.player_id role.basic_info.username) (outcome : Outcome) :
    OwnedRecords env db₀ T (Redis.execute outcome
      (.set (role_key role.basic_info.username) (env.roleInfo.SerializeToString role)) db).2 := by
  cases outcome with
  | error str => exact h
  | ok =>
      intro w found hfound
      change storedRole env (Function.update db _ _) w = _ at hfound
      rw [storedRole_update_role] at hfound
      split_ifs at hfound with hname
      · obtain rfl := Option.some_inj.mp hfound
        exact ⟨hname.symm, fun hne => (hid hne).congr hname.symm⟩
      · exact h w found hfound

/-- A command about something else does, too. -/
lemma OwnedRecords.other (h : OwnedRecords env db₀ T db) {c : Command}
    (hkey : ∀ w, c.key ≠ role_key w) (outcome : Outcome) :
    OwnedRecords env db₀ T (Redis.execute outcome c db).2 := by
  intro w found hfound
  rw [storedRole, execute_of_key_ne (hkey w) outcome db] at hfound
  exact h w found hfound

end Owns

/-- What a pull gives in a store where every record has a property. -/
lemma PullRoleInfoFromDB_keeps {E : (c : Command) → Outcome → Reply → Prop}
    {I : (Bytes → Option Bytes) → Prop} {P : RoleInfo → Prop} {username : String}
    (h : ∀ db role, I db → storedRole env db username = some role → P role) :
    (RoleinfoManager.PullRoleInfoFromDB env username).Keeps Redis.execute E I
      fun role_ptr => ∀ role, role_ptr = some role → P role := by
  intro outcome db _ hI
  rw [execute_get_snd]
  refine ⟨hI, ?_⟩
  cases outcome with
  | error str => exact fun role hrole => by cases hrole
  | ok =>
      have hstored := h db
      rw [storedRole] at hstored
      rw [Redis.execute_ok]
      cases hdb : db (role_key username) with
      | none =>
          rw [Redis.perform_get_none hdb]
          exact fun role hrole => by cases hrole
      | some value =>
          rw [hdb, Option.bind_some, decodeRole] at hstored
          rw [Redis.perform_get_some hdb]
          cases hparse : env.roleInfo.ParseFromArray value with
          | mk parsed role =>
              rw [hparse] at hstored
              simp only [Prog.bind, Reply.type, Reply.str, hparse]
              cases parsed with
              | false => exact fun role hrole => by cases hrole
              | true =>
                  intro found hfound
                  exact hstored found hI hfound

section Serve

variable {db₀ : Bytes → Option Bytes} {T : Threads Addr}
  {E : (c : Command) → Outcome → Reply → Prop}

/-- What a role may be to be pushed and bound. -/
def OwnedRole (env : Env) (db₀ : Bytes → Option Bytes) (T : Threads Addr) (username : String)
    (role : RoleInfo) : Prop :=
  c_str role.basic_info.username = c_str username ∧
    (role.basic_info.player_id ≠ 0 → Owns env db₀ T role.basic_info.player_id username)

lemma PushRoleToDB_keeps {role : RoleInfo}
    (hid : role.basic_info.player_id ≠ 0 →
      Owns env db₀ T role.basic_info.player_id role.basic_info.username) :
    (RoleinfoManager.PushRoleToDB env role).Keeps Redis.execute E (OwnedRecords env db₀ T)
      fun _ => True :=
  fun outcome _ _ hdb => ⟨hdb.write hid outcome,
    Prog.Keeps.ite (fun _ => trivial) fun _ => trivial⟩

lemma MinigameFakeLoginService_keeps (req : LoginReq) :
    (MinigameFakeLoginService env req).Keeps Redis.execute E (OwnedRecords env db₀ T)
      fun _ => True := by
  rw [MinigameFakeLoginService]
  intro outcome db _ hdb
  refine ⟨by rwa [execute_get_snd], ?_⟩
  refine Prog.Keeps.ite (fun _ => trivial) fun _ => Prog.Keeps.ite (fun _ => trivial) fun _ => ?_
  refine (PullRoleInfoFromDB_keeps (P := OwnedRole env db₀ T req.account)
    fun db role hdb hrole => hdb _ role hrole).bind fun role_ptr howned => ?_
  cases role_ptr with
  | none => trivial
  | some role =>
      obtain ⟨hname, hid⟩ := howned role rfl
      refine Prog.Keeps.ite (fun _ => ?_) fun _ => trivial
      refine (PushRoleToDB_keeps fun hne => ?_).bind fun _ _ => trivial
      exact (hid hne).congr hname.symm

/-- A registration pushes the id it is replied. -/
lemma MinigameRegisterService_keeps (req : RegisterReq)
    (hissued : ∀ outcome n, E (.incr gid_key) outcome (.integer n) →
      Owns env db₀ T n.toInt32 req.account) :
    (MinigameRegisterService env req).Keeps Redis.execute E (OwnedRecords env db₀ T)
      fun _ => True := by
  have hpassword (w : String) : password_key req.account ≠ role_key w :=
    password_key_ne_role_key _ _
  rw [MinigameRegisterService]
  refine fun outcome db _ hdb => ⟨hdb.other (c := .get _) hpassword outcome, ?_⟩
  refine Prog.Keeps.ite (fun _ => trivial) fun _ => ?_
  refine fun outcome db _ hdb => ⟨hdb.other (c := .set _ _) hpassword outcome, ?_⟩
  refine Prog.Keeps.ite (fun _ => trivial) fun _ => ?_
  refine fun outcome db hevent hdb =>
    ⟨hdb.other (c := .incr _) (fun w => (role_key_ne_gid_key w).symm) outcome, ?_⟩
  refine Prog.Keeps.ite (fun _ => trivial) fun hinteger => ?_
  have hinteger := not_not.mp hinteger
  generalize (Redis.execute outcome (.incr gid_key) db).1 = reply at hevent hinteger ⊢
  cases reply with
  | string str => cases hinteger
  | nil => cases hinteger
  | status str => cases hinteger
  | error str => cases hinteger
  | integer n =>
      have hid : (initialRole req.account n.toInt32).basic_info.player_id ≠ 0 →
          Owns env db₀ T n.toInt32 req.account := fun _ => hissued outcome n hevent
      exact fun outcome' db _ hdb => ⟨OwnedRecords.write hdb hid outcome',
        Prog.Keeps.ite (fun _ => trivial) fun _ => trivial⟩

/-- An erasure pushes a role without an id, and leaves one to the connection. -/
lemma EraseRoleService_keeps (role : RoleInfo) (req : EraseRoleReq) :
    (EraseRoleService env role req).Keeps Redis.execute E (OwnedRecords env db₀ T)
      fun out => out.2 = {} := by
  rw [EraseRoleService]
  simp only [RoleInfo.clear_progress_clear_basic_info]
  have hid : ({} : RoleInfo).basic_info.player_id ≠ 0 → Owns env db₀ T 0 "" :=
    fun hne => absurd rfl hne
  refine (PushRoleToDB_keeps hid).bind fun pushed _ => ?_
  exact Prog.Keeps.ite (fun _ => rfl) fun _ => rfl

/-- **The step**: the ids of the store and of the connection belong to their accounts at
every command of a request. -/
lemma serve_keeps_owned {session : Option Session} (request : Request)
    (hsession : OwnedSession env db₀ T session)
    (hissued : ∀ req, request = .REGISTER req → ∀ outcome n,
      E (.incr gid_key) outcome (.integer n) → Owns env db₀ T n.toInt32 req.account) :
    (RoleInjectHandler.serve env session request).Keeps Redis.execute E (OwnedRecords env db₀ T)
      fun out => OwnedSession env db₀ T out.2 := by
  have htaskinfo (w : String) : sessionKey session ≠ role_key w := taskinfo_key_ne_role_key _ w
  cases request with
  | LOGIN req =>
      rw [RoleInjectHandler.serve_LOGIN]
      refine (PullRoleInfoFromDB_keeps (P := OwnedRole env db₀ T req.account)
        fun db role hdb hrole => hdb _ role hrole).bind fun role_ptr howned => ?_
      refine (MinigameFakeLoginService_keeps req).bind fun rsp _ => ?_
      intro s hs
      cases session with
      | some bound => exact hsession s hs
      | none =>
          obtain ⟨role, rfl, rfl⟩ := Option.map_eq_some_iff.mp hs
          exact (howned role rfl).2
  | REGISTER req =>
      rw [RoleInjectHandler.serve_REGISTER]
      exact (MinigameRegisterService_keeps req (hissued req rfl)).bind fun _ _ => hsession
  | QUERY_TASK req =>
      rw [serve_QUERY_TASK]
      exact fun outcome _ _ hdb => ⟨hdb.other (c := .get _) htaskinfo outcome, hsession⟩
  | UPDATE_TASK req =>
      rw [serve_UPDATE_TASK]
      exact fun outcome _ _ hdb => ⟨hdb.other (c := .get _) htaskinfo outcome,
        fun outcome _ _ hdb => ⟨hdb.other (c := .set _ _) htaskinfo outcome, hsession⟩⟩
  | ERASE_ROLE req =>
      rw [RoleInjectHandler.serve_handedOn env rfl]
      refine Prog.Keeps.bind (P := fun out => out.2 = {}) ?_ fun out hout => ?_
      · exact (EraseRoleService_keeps _ req).bind fun out hout => hout
      intro s hs hne
      obtain ⟨s₀, -, rfl⟩ := Option.map_eq_some_iff.mp hs
      exact absurd (congrArg (fun role => (RoleInfo.basic_info role).player_id) hout) hne

end Serve

/-- The commands of a request do not write the counter. -/
lemma serve_asks_no_gid (session : Option Session) (request : Request) :
    (RoleInjectHandler.serve env session request).Asks
      fun c : Command => ∀ value, c ≠ .set gid_key value := by
  have hkey {key value value' : Bytes} (h : key ≠ gid_key) :
      Command.set key value ≠ .set gid_key value' := fun heq => h (Command.set.inj heq).1
  refine serve_asks session request (fun u => ⟨?_, ?_⟩) (fun u _ => ⟨?_, ?_⟩) ?_
    fun htask => ⟨?_, ?_⟩
  · exact fun _ => Command.noConfusion
  · exact fun _ => Command.noConfusion
  · exact fun _ => hkey (password_key_ne_gid_key u)
  · exact fun _ => hkey (role_key_ne_gid_key u)
  · exact fun _ => Command.noConfusion
  · exact fun _ => Command.noConfusion
  · exact fun _ _ => hkey (taskinfo_key_ne_gid_key _)

/-! ### Accounts and their ids -/

/-- An account carries an id: in its record, or in the role of a connection. -/
def Carries (env : Env) (T : Threads Addr) (i : Int32) (u : String) : Prop :=
  Held env T.shared i u ∨
    ∃ addr s, T.own addr = some s ∧ s.username = u ∧ s.role.basic_info.player_id = i

/-- Numbers that are narrowed to one id are the same when they are not far apart. -/
lemma toInt_eq_of_toInt32_eq {m n : Int64} (h : m.toInt32 = n.toInt32)
    (hlow : m.toInt - n.toInt < 2 ^ 32) (hhigh : n.toInt - m.toInt < 2 ^ 32) :
    m.toInt = n.toInt := by
  have hmod := congrArg Int32.toInt h
  rw [Int64.toInt_toInt32, Int64.toInt_toInt32, Int.bmod_def, Int.bmod_def] at hmod
  omega

/-- **The run**: however the requests are interleaved, the ids of the store and of the
connections belong to their accounts. -/
lemma owned_run (env : Env) (db : Bytes → Option Bytes) (moves : List (Threads.Move Addr))
    (hnamed : NamedRecords env db) :
    Clients.Kept Redis.execute
      (fun call c outcome reply => (⟨call.1, call.2, c, outcome, reply⟩ :
        Clients.Executed RedisSig Addr Outcome) ∈
          (Threads.run env moves (.start .empty db)).executed)
      (OwnedRecords env db (Threads.run env moves (.start .empty db)))
      (fun _ => OwnedSession env db (Threads.run env moves (.start .empty db)))
      (fun _ _ _ _ => True) (Threads.run env moves (.start .empty db)) := by
  generalize hT : Threads.run env moves (.start .empty db) = T
  have hserve (addr : Addr) (n : ℕ) (session : Option Session) (request : Request)
      (hsession : OwnedSession env db T session)
      (hcalled : Clients.Called T (addr, n) session request) :
      (RoleInjectHandler.serve env session request).Keeps Redis.execute
        (fun c outcome reply => (⟨addr, n, c, outcome, reply⟩ :
          Clients.Executed RedisSig Addr Outcome) ∈ T.executed)
        (OwnedRecords env db T) fun out => OwnedSession env db T out.2 ∧ True := by
    refine (serve_keeps_owned request hsession ?_).mono fun out h => ⟨h, trivial⟩
    rintro req rfl outcome m hevent
    exact .inr ⟨_, hevent, m, session, req, ⟨rfl, rfl⟩, rfl, hcalled, rfl⟩
  have hstart : OwnedRecords env db T db :=
    fun u role hrole => ⟨hnamed u role hrole, fun _ => .inl ⟨role, hrole, rfl⟩⟩
  have hbegin : Clients.Kept Redis.execute
      (fun call c outcome reply => (⟨call.1, call.2, c, outcome, reply⟩ :
        Clients.Executed RedisSig Addr Outcome) ∈ T.executed)
      (OwnedRecords env db T) (fun _ => OwnedSession env db T) (fun _ _ _ _ => True)
      (Threads.start .empty db) := Clients.kept_start hstart fun addr s hs => by cases hs
  rw [Threads.run] at hT
  have hrun : Clients.Kept _ _ _ _ _ (Clients.run (fun _ => RoleInjectHandler.serve env)
      Redis.execute (Threads.start .empty db) moves) :=
    hbegin.run (A := fun call session request => Clients.Called T call session request) hserve
      (by rw [hT]; exact fun _ _ _ h => h) (by rw [hT]; exact fun _ h => h)
  rwa [hT] at hrun

/-- **Accounts do not share ids**: let the server start over a store in which every record
lies under its name and no two accounts have one id, none of which the counter comes to within
the registrations of the run, fewer than `2 ^ 32`.  Then, however the requests of any
connections are interleaved and whatever commands fail, no two accounts carry one id, neither
in the store nor in the roles of the connections. -/
theorem account_ids_apart (env : Env) (db : Bytes → Option Bytes) (moves : List (Threads.Move Addr))
    {c : ℤ} (hcounter : counter db = some c) (hnamed : NamedRecords env db)
    (hdistinct : ∀ i u v, i ≠ 0 → Held env db i u → Held env db i v → c_str u = c_str v)
    (hroom : (Threads.run env moves (.start .empty db)).executed.countP asksId < 2 ^ 32)
    (hfresh : ∀ i u, i ≠ 0 → Held env db i u → ∀ n : Int64, c < n.toInt →
      n.toInt ≤ c + (Threads.run env moves (.start .empty db)).executed.countP asksId →
        n.toInt32 ≠ i) (i : Int32) (u v : String) (hi : i ≠ 0)
    (hu : Carries env (Threads.run env moves (.start .empty db)) i u)
    (hv : Carries env (Threads.run env moves (.start .empty db)) i v) :
    c_str u = c_str v := by
  have hsound := Threads.sound_run env .empty db moves
  have hkept := owned_run env db moves hnamed
  generalize Threads.run env moves (.start .empty db) = T at *
  obtain ⟨hrange, hsorted⟩ := happens_counter hsound.shared
    (hsound.forall_executed fun _ => serve_asks_no_gid) hcounter
  have howns {w : String} (hw : Carries env T i w) : Owns env db T i w := by
    rcases hw with ⟨role, hrole, rfl⟩ | ⟨addr, s, hs, rfl, rfl⟩
    · exact (hkept.shared w role hrole).2 hi
    · exact hkept.own addr s hs hi
  rcases howns hu, howns hv with ⟨hheld | ⟨e, he, m, s, req, hm, hmi, hcalled, hname⟩,
    hheld' | ⟨f, hf, n, s', req', hn, hni, hcalled', hname'⟩⟩
  · exact hdistinct i u v hi hheld hheld'
  · obtain ⟨hlow, hhigh⟩ := hrange f hf n hn
    exact absurd hni (hfresh i u hi hheld n hlow hhigh)
  · obtain ⟨hlow, hhigh⟩ := hrange e he m hm
    exact absurd hmi (hfresh i v hi hheld' m hlow hhigh)
  · -- both registrations were replied the same number, so they are one
    have hmn : m.toInt = n.toInt := by
      obtain ⟨hlow, hhigh⟩ := hrange e he m hm
      obtain ⟨hlow', hhigh'⟩ := hrange f hf n hn
      exact toInt_eq_of_toInt32_eq (hmi.trans hni.symm) (by omega) (by omega)
    obtain ⟨j, hj⟩ := List.mem_iff_getElem?.mp he
    obtain ⟨k, hk⟩ := List.mem_iff_getElem?.mp hf
    have hjk : j = k := by
      rcases lt_trichotomy j k with hlt | heq | hgt
      · have hless := List.pairwise_iff_forall_sublist.mp hsorted
          (pair_sublist_iff.mpr ⟨j, k, hlt, hj, hk⟩) m n hm hn
        exact absurd hmn hless.ne
      · exact heq
      · have hless := List.pairwise_iff_forall_sublist.mp hsorted
          (pair_sublist_iff.mpr ⟨k, j, hgt, hk, hj⟩) n m hn hm
        exact absurd hmn hless.ne'
    rw [hjk, hk] at hj
    obtain rfl := Option.some_inj.mp hj
    obtain rfl := Request.REGISTER.inj (hsound.called_unique hcalled hcalled')
    exact hname.symm.trans hname'

/-- Two accounts that are registered at the same time. -/
def registrationsAtOnce : List (Threads.Move Bool) :=
  [.receive false (.REGISTER { account := "ann", password := "a" }),
    .receive true (.REGISTER { account := "bob", password := "b" }),
    .command false .ok, .command true .ok, .command false .ok, .command true .ok,
    .command true .ok, .command false .ok, .command true .ok, .command false .ok]

/-- The accounts `a` and `b` with their ids, and the counter that has issued them. -/
def countedAccounts : Bytes → Option Bytes :=
  Function.update twoAccounts gid_key (some (Bytes.ofString "2"))

lemma storedRole_countedAccounts (u : String) :
    storedRole Env.wire countedAccounts u = storedRole Env.wire twoAccounts u :=
  storedRole_update_of_ne _ _ (role_key_ne_gid_key u)

lemma namedRecords_withReturning {db : Bytes → Option Bytes} (h : NamedRecords Env.wire db)
    (username password : String) (gid : Int32) :
    NamedRecords Env.wire (withReturning username password gid db) := by
  intro u role hrole
  by_cases hu : c_str u = c_str username
  · rw [storedRole_congr hu, storedRole_withReturning] at hrole
    obtain rfl := Option.some.inj hrole
    exact hu.symm
  · rw [(withReturning_of_ne hu _ _ _).2] at hrole
    exact h u role hrole

lemma namedRecords_countedAccounts : NamedRecords Env.wire countedAccounts := by
  intro u role hrole
  rw [storedRole_countedAccounts] at hrole
  exact namedRecords_withReturning (namedRecords_withReturning (namedRecords_empty _) "a" "p" 1)
    "b" "q" 2 u role hrole

lemma held_countedAccounts {i : Int32} {u : String} :
    Held Env.wire countedAccounts i u ↔ storedId Env.wire twoAccounts u = some i := by
  rw [Held, storedRole_countedAccounts]
  exact Option.map_eq_some_iff.symm

/-- The ids of the accounts are behind the counter. -/
lemma eq_of_held_countedAccounts {i : Int32} {u : String}
    (h : Held Env.wire countedAccounts i u) : i = 1 ∨ i = 2 := by
  rw [held_countedAccounts, storedId_twoAccounts] at h
  split_ifs at h
  · exact .inr (Option.some.inj h).symm
  · exact .inl (Option.some.inj h).symm

/-- Ann, who comes second to the counter, has the id behind Bob's, and only she: both names
are hers. -/
theorem account_ids_apart_registrations :
    (Carries Env.wire (Threads.run Env.wire registrationsAtOnce (.start .empty countedAccounts))
      4 "ann" ∧ Carries Env.wire
        (Threads.run Env.wire registrationsAtOnce (.start .empty countedAccounts)) 4 "ann\x00e") ∧
      c_str "ann" = c_str "ann\x00e" := by
  have hstored : (storedRole Env.wire (Threads.run Env.wire registrationsAtOnce
      (.start .empty countedAccounts)).shared "ann").map (·.basic_info.player_id) = some 4 := by
    decide +kernel
  have hann : Carries Env.wire
      (Threads.run Env.wire registrationsAtOnce (.start .empty countedAccounts)) 4 "ann" :=
    .inl (Option.map_eq_some_iff.mp hstored)
  have hname : c_str "ann\x00e" = c_str "ann" := by decide
  have hanne : Carries Env.wire
      (Threads.run Env.wire registrationsAtOnce (.start .empty countedAccounts)) 4 "ann\x00e" := by
    refine .inl ?_
    rw [Held, storedRole_congr hname]
    exact Option.map_eq_some_iff.mp hstored
  have hcount : (Threads.run Env.wire registrationsAtOnce
      (.start .empty countedAccounts)).executed.countP asksId = 2 := by
    decide +kernel
  refine ⟨⟨hann, hanne⟩, account_ids_apart Env.wire countedAccounts registrationsAtOnce
    (c := 2) rfl namedRecords_countedAccounts (fun i u v _ hu hv => ?_) (by omega)
    (fun i u _ hu n hlow hhigh hn => ?_) 4 "ann" "ann\x00e" (by decide) hann hanne⟩
  · exact distinctIds_twoAccounts.distinct u v i (held_countedAccounts.mp hu)
      (held_countedAccounts.mp hv)
  · -- the numbers that the run is replied are 3 and 4
    obtain ⟨m, hm, hmi⟩ : ∃ m : Int64, (m.toInt = 1 ∨ m.toInt = 2) ∧ m.toInt32 = i := by
      rcases eq_of_held_countedAccounts hu with rfl | rfl
      · exact ⟨1, .inl rfl, rfl⟩
      · exact ⟨2, .inr rfl, rfl⟩
    have heq := toInt_eq_of_toInt32_eq (hn.trans hmi.symm) (by omega) (by omega)
    omega

end LittleB
