import LittleB.Commands
import LittleB.Isolation
import LittleB.Records

/-!
The ids of the players, which come from `prepareAndCheck` of
`minigame_server/minigame_sever_main.cpp` and from the counter of the registrations.

* `prepareAndCheck`, `main.startup`, `main.server`: the server as `main` starts it;
* `Ledger`: the accounts with their ids in the order in which they came to be, the
  abstract state of a run; `Recorded` connects a store to it;
* `Tracked`: what every request keeps, a ledger until two accounts share an id and the
  two of them from there on;
* `UniqueIds`, `unique_ids_iff`: the ids are unique until the counter reaches the one
  that `prepareAndCheck` has given away.
-/

namespace LittleB

open Bytes

variable (env : Env)

/-! ### The start of the server -/

/-- `prepareAndCheck`: two of its commands are issued inside an `assert`. -/
def prepareAndCheck (NDEBUG : Bool) : Prog RedisSig (Except Abort Unit) := do
  if ¬ NDEBUG then
    let reply ← RedisCommand (.set (password_key "hello") (c_str "world"))
    if reply.type ≠ .REDIS_REPLY_STATUS then
      return .error .assertion
    let _ ← RedisCommand (.set (role_key "hello") (env.roleInfo.SerializeToString seededRole))
  let reply ← RedisCommand (.get (role_key "hello"))
  -- the role that is read is compared with itself
  return Abort.assert NDEBUG (reply.type = .REDIS_REPLY_STRING)

namespace main

/-- What `main` does with the store before it serves: an account of its own is
registered, whatever the answer. -/
def startup (NDEBUG : Bool) : Prog RedisSig (Except Abort Unit) := do
  match ← prepareAndCheck env NDEBUG with
  | .error abort => return .error abort
  | .ok _ =>
      let _ ← MinigameRegisterService env { rpcid := 10, account := "2", password := "2" }
      return .ok ()

/-- The server behind the start over an empty store. -/
def server {Addr : Type} : Server Addr :=
  .start ((startup env false).run Redis.exec (.working fun _ => none)).2

/-- The store with the account of `prepareAndCheck`. -/
def prepared : Bytes → Option Bytes :=
  Function.update (Function.update (fun _ => none) (password_key "hello") (some (c_str "world")))
    (role_key "hello") (some (env.roleInfo.SerializeToString seededRole))

lemma run_prepareAndCheck :
    (prepareAndCheck env false).run Redis.exec (.working fun _ => none)
      = (.ok (), .working (prepared env)) := by
  have hrole : prepared env (role_key "hello") = some (env.roleInfo.SerializeToString seededRole) :=
    Function.update_self _ _ _
  have hget := Redis.exec_working (prepared env) (.get (role_key "hello"))
  rw [Redis.perform_get_some hrole] at hget
  change Prog.run Redis.exec (RedisCommand (.get (role_key "hello")) >>= _)
    (.working (prepared env)) = _
  rw [Redis.run_bind, hget]
  rfl

/-- The server starts as if the account had been registered by a client. -/
lemma server_redis {Addr : Type} [DecidableEq Addr] (addr : Addr) :
    (server env : Server Addr).redis
      = (Server.step env (.start (.working (prepared env)))
          (addr, .REGISTER { rpcid := 10, account := "2", password := "2" })).redis := by
  rw [Server.step_REGISTER, server, startup, Prog.run_bind, run_prepareAndCheck]
  rfl

end main

/-! ### The ledger of the accounts -/

/-- The accounts with their player ids: the one of `prepareAndCheck` and, from the second
place on, the ones that have been registered, each with its place as its id. -/
@[ext] structure Ledger where
  entries : List (String × Int32)
  apart : (entries.map fun e => c_str e.1).Nodup
  prepared : entries[0]? = some ("hello", 31)
  numbered : ∀ (i : ℕ) (e : String × Int32), entries[i]? = some e → i ≠ 0 → e.2 = Int32.ofInt i

namespace Ledger

/-- There is an account with the C string of a name. -/
def Knows (l : Ledger) (u : String) : Prop := c_str u ∈ l.entries.map fun e => c_str e.1

instance (l : Ledger) (u : String) : Decidable (l.Knows u) := inferInstanceAs (Decidable (_ ∈ _))

/-- The ledger before the first registration. -/
def ofPrepared : Ledger where
  entries := [("hello", 31)]
  apart := List.nodup_singleton _
  prepared := rfl
  numbered := by
    intro i e he hi
    obtain ⟨j, rfl⟩ := Nat.exists_eq_succ_of_ne_zero hi
    cases he

/-- The ledger with one more account. -/
def add (l : Ledger) (u : String) (h : ¬ l.Knows u) : Ledger where
  entries := l.entries ++ [(u, Int32.ofInt l.entries.length)]
  apart := by
    rw [List.map_append]
    refine List.nodup_append.mpr ⟨l.apart, List.nodup_singleton _, fun a ha b hb hab => h ?_⟩
    have hb' : b = c_str u := List.mem_singleton.mp hb
    rw [Knows, ← hb', ← hab]
    exact ha
  prepared := by
    have hlt : 0 < l.entries.length := (List.getElem?_eq_some_iff.mp l.prepared).1
    rw [List.getElem?_append_left hlt, l.prepared]
  numbered := by
    intro i e he hi
    by_cases hlt : i < l.entries.length
    · rw [List.getElem?_append_left hlt] at he
      exact l.numbered i e he hi
    · obtain ⟨hlen, -⟩ := List.getElem?_eq_some_iff.mp he
      rw [List.length_append, List.length_singleton] at hlen
      have hi' : i = l.entries.length := by omega
      rw [hi', List.getElem?_append_right le_rfl, Nat.sub_self] at he
      rw [← Option.some.inj he, hi']

/-- What a request does to the ledger. -/
def step (l : Ledger) : AccountRequest → Ledger
  | .LOGIN _ => l
  | .REGISTER req => if h : l.Knows req.account then l else l.add req.account h

/-- The ledger grows by one account at a time. -/
lemma length_step (l : Ledger) (request : AccountRequest) :
    l.entries.length ≤ (l.step request).entries.length ∧
      (l.step request).entries.length ≤ l.entries.length + 1 := by
  cases request with
  | LOGIN req => exact ⟨le_rfl, Nat.le_succ _⟩
  | REGISTER req =>
      rw [step]
      split_ifs with h
      · exact ⟨le_rfl, Nat.le_succ _⟩
      · rw [add, List.length_append]
        exact ⟨Nat.le_add_right _ _, le_rfl⟩

/-! ### How many accounts there are -/

/-- The C strings of the accounts. -/
def names (l : Ledger) : Finset Bytes := (l.entries.map fun e => c_str e.1).toFinset

lemma card_names (l : Ledger) : l.names.card = l.entries.length := by
  rw [names, List.toFinset_card_of_nodup l.apart, List.length_map]

end Ledger

/-- The C string a request registers. -/
def AccountRequest.registers : AccountRequest → Option Bytes
  | LOGIN _ => none
  | REGISTER req => some (c_str req.account)

/-- The C strings that requests register, known or not. -/
def registeredNames (requests : List AccountRequest) : Finset Bytes :=
  (requests.filterMap AccountRequest.registers).toFinset

namespace Ledger

lemma names_step (l : Ledger) (request : AccountRequest) :
    (l.step request).names = l.names ∪ registeredNames [request] := by
  cases request with
  | LOGIN req => exact (Finset.union_empty _).symm
  | REGISTER req =>
      have hone : registeredNames [.REGISTER req] = {c_str req.account} := rfl
      rw [hone, step]
      split_ifs with h
      · exact (Finset.union_eq_left.mpr
          (Finset.singleton_subset_iff.mpr (List.mem_toFinset.mpr h))).symm
      · rw [names, add, List.map_append, List.toFinset_append]
        rfl

lemma names_run (l : Ledger) (requests : List AccountRequest) :
    (requests.foldl step l).names = l.names ∪ registeredNames requests := by
  induction requests generalizing l with
  | nil => exact (Finset.union_empty _).symm
  | cons request requests ih =>
      have hcons : registeredNames (request :: requests)
          = registeredNames [request] ∪ registeredNames requests := by
        rw [registeredNames, registeredNames, registeredNames, ← List.toFinset_append,
          ← List.filterMap_append]
        rfl
      rw [List.foldl_cons, ih, names_step, hcons, Finset.union_assoc]

end Ledger

/-! ### The ids in the store -/

/-- The player id stored for an account. -/
def storedId (db : Bytes → Option Bytes) (u : String) : Option Int32 :=
  (storedRole env db u).map fun role => role.basic_info.player_id

/-- The player ids are unique. -/
def UniqueIds (db : Bytes → Option Bytes) : Prop :=
  ∀ u v i j, c_str u ≠ c_str v → storedId env db u = some i → storedId env db v = some j →
    i ≠ j ∧ i ≠ 0 ∧ j ≠ 0

/-- Two accounts share an id, and both are there to stay. -/
def Collides (db : Bytes → Option Bytes) : Prop :=
  ∃ u v i, c_str u ≠ c_str v ∧ storedId env db u = some i ∧ storedId env db v = some i ∧
    db (password_key u) ≠ none ∧ db (password_key v) ≠ none

/-- A store holds the accounts of a ledger, and the counter stands behind the last one. -/
structure Recorded (l : Ledger) (db : Bytes → Option Bytes) : Prop where
  counter : Redis.incremented db gid_key = some (Int64.ofInt l.entries.length)
  password : ∀ u, db (password_key u) ≠ none ↔ l.Knows u
  held : ∀ e ∈ l.entries, storedId env db e.1 = some e.2
  absent : ∀ u, ¬ l.Knows u → storedId env db u = none

lemma Collides.not_uniqueIds {db : Bytes → Option Bytes} (h : Collides env db) :
    ¬ UniqueIds env db := by
  obtain ⟨u, v, i, hne, hu, hv, -, -⟩ := h
  exact fun hunique => (hunique u v i i hne hu hv).1 rfl

variable {env} {Addr : Type} [DecidableEq Addr]

/-- Names that are the same C string have the same id. -/
lemma storedId_congr {u v : String} (h : c_str u = c_str v) (db : Bytes → Option Bytes) :
    storedId env db u = storedId env db v := by
  rw [storedId, storedId, storedRole_congr h]

/-! ### One request -/

section Step

variable {S : Server Addr}

/-- A login leaves the ids as they are. -/
lemma storedId_step_LOGIN (hw : S.redis.Working) (hnamed : NamedRecords env S.redis.db)
    (addr : Addr) (req : LoginReq) (u : String) :
    storedId env (S.step env (addr, .LOGIN req)).redis.db u = storedId env S.redis.db u := by
  by_cases haccepts : Accepts env (.working S.redis.db) req
  · obtain ⟨role, hrole⟩ := Option.ne_none_iff_exists'.mp haccepts.role
    have hrole' : storedRole env S.redis.db req.account = some role := hrole
    rw [db_step_LOGIN_accepted hw haccepts hrole', storedId,
      storedRole_markedStore (hnamed _ _ hrole') hrole']
    split_ifs with hu
    · rw [storedId_congr hu, storedId, hrole']
      rfl
    · rfl
  · rw [db_step_LOGIN_refused hw haccepts]

/-- A registration of another name leaves an account as it is. -/
lemma storedId_step_REGISTER (addr : Addr) {req : RegisterReq} {u : String}
    (hu : c_str u ≠ c_str req.account) :
    storedId env (S.step env (addr, .REGISTER req)).redis.db u = storedId env S.redis.db u ∧
      (S.step env (addr, .REGISTER req)).redis.db (password_key u)
        = S.redis.db (password_key u) := by
  constructor
  · rcases (step_written env S addr (.REGISTER req) (role_key u)).role_cases with
      hkept | ⟨role, -, hname, haccount⟩
    · rw [storedId, storedId, storedRole, storedRole, hkept]
    · have haccount' : role.basic_info.username = req.account := haccount
      rw [haccount'] at hname
      exact absurd hname hu
  · rcases (step_written env S addr (.REGISTER req) (password_key u)).password_cases with
      hkept | ⟨req', hreq, hname, -⟩
    · exact hkept
    · cases hreq
      exact absurd hname hu

/-- An account with a password keeps it and its id. -/
lemma storedId_step (hw : S.redis.Working) (hnamed : NamedRecords env S.redis.db) {u : String}
    (hu : S.redis.db (password_key u) ≠ none) (addr : Addr) (request : AccountRequest) :
    storedId env (S.step env (addr, request.request)).redis.db u = storedId env S.redis.db u ∧
      (S.step env (addr, request.request)).redis.db (password_key u) ≠ none := by
  cases request with
  | LOGIN req =>
      refine ⟨storedId_step_LOGIN hw hnamed addr req u, ?_⟩
      change (S.step env (addr, .LOGIN req)).redis.db (password_key u) ≠ none
      rw [db_step_LOGIN_of_ne (password_key_ne_role_key u)]
      exact hu
  | REGISTER req =>
      change storedId env (S.step env (addr, .REGISTER req)).redis.db u = _ ∧
        (S.step env (addr, .REGISTER req)).redis.db (password_key u) ≠ none
      by_cases hname : c_str u = c_str req.account
      · rw [password_key_inj.mpr hname] at hu ⊢
        rw [db_step_REGISTER_known hu]
        exact ⟨rfl, hu⟩
      · obtain ⟨hid, hpassword⟩ := storedId_step_REGISTER addr hname
        rw [hpassword]
        exact ⟨hid, hu⟩

/-- A shared id stays shared. -/
lemma Collides.step (h : Collides env S.redis.db) (hw : S.redis.Working)
    (hnamed : NamedRecords env S.redis.db) (addr : Addr) (request : AccountRequest) :
    Collides env (S.step env (addr, request.request)).redis.db := by
  obtain ⟨u, v, i, hne, hu, hv, hpu, hpv⟩ := h
  obtain ⟨hidu, hpu'⟩ := storedId_step hw hnamed hpu addr request
  obtain ⟨hidv, hpv'⟩ := storedId_step hw hnamed hpv addr request
  exact ⟨u, v, i, hne, hidu.trans hu, hidv.trans hv, hpu', hpv'⟩

variable {l : Ledger}

/-- A registration of a new name adds it to the ledger. -/
lemma Recorded.add (h : Recorded env l S.redis.db) (hw : S.redis.Working)
    (hroom : l.entries.length < 2 ^ 62) (addr : Addr) {req : RegisterReq}
    (hnew : ¬ l.Knows req.account) :
    Recorded env (l.add req.account hnew) (S.step env (addr, .REGISTER req)).redis.db := by
  have hpassword : S.redis.db (password_key req.account) = none :=
    not_not.mp ((h.password req.account).not.mpr hnew)
  have hdb : (S.step env (addr, .REGISTER req)).redis.db
      = registered env req (Int64.ofInt l.entries.length) S.redis.db :=
    db_step_REGISTER_new hw hpassword h.counter addr
  have hlength : (l.add req.account hnew).entries.length = l.entries.length + 1 := by
    rw [Ledger.add, List.length_append, List.length_singleton]
  have hknows (u : String) : (l.add req.account hnew).Knows u
      ↔ l.Knows u ∨ c_str u = c_str req.account := by
    rw [Ledger.Knows, Ledger.add, List.map_append, List.mem_append]
    exact or_congr_right List.mem_singleton
  have hother (u : String) (hu : c_str u ≠ c_str req.account) :
      storedId env (S.step env (addr, .REGISTER req)).redis.db u = storedId env S.redis.db u ∧
        (S.step env (addr, .REGISTER req)).redis.db (password_key u)
          = S.redis.db (password_key u) := storedId_step_REGISTER addr hu
  refine ⟨?_, fun u => ?_, fun e he => ?_, fun u hu => ?_⟩
  · have hgid : (Int64.ofInt l.entries.length).toInt = l.entries.length :=
      Int64.toInt_ofInt_of_le (by omega) (by omega)
    rw [hdb, Redis.incremented, registered, Function.update_of_ne (role_key_ne_gid_key _).symm,
      Function.update_self]
    simp only [ofDecimal_decimal]
    rw [hgid, if_pos ⟨by omega, by omega⟩, hlength, Nat.cast_succ]
  · rw [hknows]
    by_cases hu : c_str u = c_str req.account
    · refine iff_of_true ?_ (.inr hu)
      rw [hdb, password_key_inj.mpr hu, registered_password]
      exact Option.some_ne_none _
    · rw [(hother u hu).2, h.password, or_iff_left hu]
  · rcases List.mem_append.mp he with hold | hadded
    · have hknown : l.Knows e.1 := List.mem_map_of_mem hold
      have hne : c_str e.1 ≠ c_str req.account := fun heq => by
        rw [Ledger.Knows, heq] at hknown
        exact hnew hknown
      exact (hother e.1 hne).1.trans (h.held e hold)
    · obtain rfl := List.mem_singleton.mp hadded
      rw [hdb, storedId, storedRole_registered, Int64.toInt32_ofInt]
      rfl
  · rw [hknows, not_or] at hu
    exact (hother u hu.2).1.trans (h.absent u hu.1)

/-- Every request takes the ledger along. -/
lemma Recorded.step (h : Recorded env l S.redis.db) (hw : S.redis.Working)
    (hnamed : NamedRecords env S.redis.db) (hroom : l.entries.length < 2 ^ 62) (addr : Addr)
    (request : AccountRequest) :
    Recorded env (l.step request) (S.step env (addr, request.request)).redis.db := by
  cases request with
  | LOGIN req =>
      have hid := storedId_step_LOGIN hw hnamed addr req
      change Recorded env l (S.step env (addr, .LOGIN req)).redis.db
      refine ⟨?_, fun u => ?_, fun e he => (hid e.1).trans (h.held e he),
        fun u hu => (hid u).trans (h.absent u hu)⟩
      · rw [Redis.incremented, db_step_LOGIN_of_ne fun u => (role_key_ne_gid_key u).symm]
        exact h.counter
      · rw [db_step_LOGIN_of_ne (password_key_ne_role_key u)]
        exact h.password u
  | REGISTER req =>
      change Recorded env (l.step (.REGISTER req)) (S.step env (addr, .REGISTER req)).redis.db
      rw [Ledger.step]
      split_ifs with hknown
      · rw [db_step_REGISTER_known ((h.password _).mpr hknown)]
        exact h
      · exact h.add hw hroom addr hknown

end Step

/-! ### When the ids are unique -/

namespace Ledger

variable {l : Ledger}

/-- Different places hold different C strings. -/
lemma place_inj {p q : ℕ} {e f : String × Int32} (he : l.entries[p]? = some e)
    (hf : l.entries[q]? = some f) (hname : c_str e.1 = c_str f.1) : p = q := by
  have hp : p < (l.entries.map fun e => c_str e.1).length := by
    rw [List.length_map]
    exact (List.getElem?_eq_some_iff.mp he).1
  refine (List.getElem?_inj hp l.apart).mp ?_
  rw [List.getElem?_map, List.getElem?_map, he, hf]
  exact congrArg some hname

/-- The id of a place, as long as the places are numbers of 32 bits. -/
lemma toInt_id {p : ℕ} {e : String × Int32} (he : l.entries[p]? = some e) (hp : p < 2 ^ 31) :
    e.2.toInt = if p = 0 then 31 else p := by
  split_ifs with hzero
  · rw [hzero, l.prepared] at he
    rw [← Option.some.inj he]
    rfl
  · rw [l.numbered p e he hzero]
    exact Int32.toInt_ofInt_of_le (by omega) (by omega)

end Ledger

section Unique

variable {l : Ledger} {db : Bytes → Option Bytes}

/-- A stored id is the one of the account in the ledger. -/
lemma Recorded.entry (h : Recorded env l db) {u : String} {i : Int32}
    (hu : storedId env db u = some i) :
    ∃ (p : ℕ) (e : String × Int32), l.entries[p]? = some e ∧ c_str e.1 = c_str u ∧ e.2 = i := by
  by_cases hknown : l.Knows u
  · obtain ⟨e, hmem, hname⟩ := List.mem_map.mp hknown
    obtain ⟨p, hp⟩ := List.mem_iff_getElem?.mp hmem
    refine ⟨p, e, hp, hname, Option.some.inj ?_⟩
    rw [← h.held e hmem, ← hu]
    exact storedId_congr hname db
  · rw [h.absent u hknown] at hu
    cases hu

/-- Up to thirty-one accounts the ids are unique. -/
lemma Recorded.uniqueIds (h : Recorded env l db) (hlength : l.entries.length ≤ 31) :
    UniqueIds env db := by
  intro u v i j hne hu hv
  obtain ⟨p, e, he, hnamee, rfl⟩ := h.entry hu
  obtain ⟨q, f, hf, hnamef, rfl⟩ := h.entry hv
  have hp := (List.getElem?_eq_some_iff.mp he).1
  have hq := (List.getElem?_eq_some_iff.mp hf).1
  have hide := Ledger.toInt_id he (by omega)
  have hidf := Ledger.toInt_id hf (by omega)
  have hpq : p ≠ q := by
    rintro rfl
    obtain rfl : e = f := Option.some.inj (he.symm.trans hf)
    exact hne (hnamee.symm.trans hnamef)
  simp only [ne_eq, ← Int32.toInt_inj, hide, hidf, Int32.toInt_zero]
  split_ifs
  all_goals omega

/-- The account behind thirty-one others gets the id of the first one. -/
lemma Recorded.collides (h : Recorded env l db) (hlength : 31 < l.entries.length) :
    Collides env db := by
  obtain ⟨e, he⟩ : ∃ e, l.entries[31]? = some e := ⟨_, List.getElem?_eq_getElem hlength⟩
  have hmem := List.mem_of_getElem? he
  have hmem₀ := List.mem_of_getElem? l.prepared
  have hpassword (f : String × Int32) (hf : f ∈ l.entries) : db (password_key f.1) ≠ none :=
    (h.password f.1).mpr (List.mem_map_of_mem hf)
  have hid : e.2 = 31 := l.numbered 31 e he (by norm_num)
  refine ⟨e.1, "hello", 31, fun hname => ?_, hid ▸ h.held e hmem, h.held _ hmem₀,
    hpassword e hmem, hpassword _ hmem₀⟩
  exact absurd (Ledger.place_inj he l.prepared hname) (by norm_num)

end Unique

/-! ### Runs -/

/-- What a run knows of the ids: the whole ledger up to the first shared id, and the
shared one from there on. -/
structure Tracked (env : Env) (l : Ledger) (r : Redis) : Prop where
  working : r.Working
  named : NamedRecords env r.db
  ids : if l.entries.length ≤ 31 then Recorded env l r.db else Collides env r.db

/-- The ids of a run are unique up to thirty-one accounts. -/
lemma Tracked.uniqueIds_iff {l : Ledger} {r : Redis} (h : Tracked env l r) :
    UniqueIds env r.db ↔ l.entries.length ≤ 31 := by
  have hids := h.ids
  split_ifs at hids with hlength
  · exact iff_of_true (hids.uniqueIds hlength) hlength
  · exact iff_of_false hids.not_uniqueIds hlength

/-- **The step**: every request takes the ledger along. -/
lemma Tracked.step {l : Ledger} {S : Server Addr} (h : Tracked env l S.redis) (addr : Addr)
    (request : AccountRequest) :
    Tracked env (l.step request) (S.step env (addr, request.request)).redis := by
  refine ⟨S.working_step env h.working _, namedRecords_step h.named _, ?_⟩
  have hids := h.ids
  obtain ⟨hmono, hsucc⟩ := l.length_step request
  by_cases hlength : l.entries.length ≤ 31
  · rw [if_pos hlength] at hids
    have hrecorded := hids.step h.working h.named (by omega) addr request
    split_ifs with hnext
    · exact hrecorded
    · exact hrecorded.collides (by omega)
  · rw [if_neg hlength] at hids
    rw [if_neg (by omega)]
    exact hids.step h.working h.named addr request

/-- **The run**: any number of requests does. -/
lemma Tracked.run {l : Ledger} {S : Server Addr} (h : Tracked env l S.redis)
    (inputs : List (Addr × AccountRequest)) :
    Tracked env ((inputs.map Prod.snd).foldl Ledger.step l)
      (S.run env (inputs.map fun input => (input.1, input.2.request))).redis := by
  induction inputs generalizing l S with
  | nil => exact h
  | cons input inputs ih => exact ih (h.step input.1 input.2)

namespace main

variable (env)

/-- A password in the prepared store. -/
lemma prepared_password (u : String) :
    prepared env (password_key u) ≠ none ↔ Ledger.ofPrepared.Knows u := by
  have hknows : Ledger.ofPrepared.Knows u ↔ c_str u = c_str "hello" := List.mem_singleton
  rw [hknows, prepared, Function.update_of_ne (password_key_ne_role_key _ _)]
  by_cases hu : c_str u = c_str "hello"
  · rw [password_key_inj.mpr hu, Function.update_self]
    exact iff_of_true (Option.some_ne_none _) hu
  · rw [Function.update_of_ne (password_key_inj.not.mpr hu)]
    exact iff_of_false (fun h => h rfl) hu

/-- A role in the prepared store. -/
lemma storedRole_prepared (u : String) :
    storedRole env (prepared env) u
      = if c_str u = c_str "hello" then some seededRole else none := by
  rw [prepared, storedRole_update_role, storedRole_update_of_ne _ _
    (password_key_ne_role_key _ _).symm]
  rfl

/-- The prepared store holds the account it was prepared with. -/
lemma tracked_prepared : Tracked env .ofPrepared (.working (prepared env)) := by
  refine ⟨fun _ => rfl, fun u role hrole => ?_, ?_⟩
  · change storedRole env (prepared env) u = some role at hrole
    rw [storedRole_prepared] at hrole
    split_ifs at hrole with hu
    obtain rfl := Option.some.inj hrole
    exact hu.symm
  · have hlength : Ledger.ofPrepared.entries.length ≤ 31 := by decide
    rw [if_pos hlength]
    refine ⟨rfl, prepared_password env, fun e he => ?_, fun u hu => ?_⟩
    · obtain rfl := List.mem_singleton.mp he
      change (storedRole env (prepared env) "hello").map _ = _
      rw [storedRole_prepared, if_pos rfl]
      rfl
    · have hne : c_str u ≠ c_str "hello" := fun heq => hu (List.mem_singleton.mpr heq)
      change (storedRole env (prepared env) u).map _ = _
      rw [storedRole_prepared, if_neg hne]
      rfl

/-- The ledger at the start of the server. -/
def ledger : Ledger :=
  Ledger.ofPrepared.step (.REGISTER { rpcid := 10, account := "2", password := "2" })

omit [DecidableEq Addr] in
lemma tracked_server : Tracked env ledger (server env : Server Addr).redis := by
  have hstep := (tracked_prepared env).step (S := .start (.working (prepared env))) ()
    (.REGISTER { rpcid := 10, account := "2", password := "2" })
  change Tracked env ledger (Server.step env (.start (.working (prepared env)))
    ((), .REGISTER { rpcid := 10, account := "2", password := "2" })).redis at hstep
  rw [← server_redis env ()] at hstep
  exact hstep

lemma names_ledger : ledger.names = {c_str "hello", c_str "2"} := by decide

end main

variable (env)

/-- The names that requests register besides those the server starts with. -/
def furtherNames (requests : List AccountRequest) : Finset Bytes :=
  registeredNames requests \ {c_str "hello", c_str "2"}

lemma length_ledger_run (requests : List AccountRequest) :
    (requests.foldl Ledger.step main.ledger).entries.length = 2 + (furtherNames requests).card := by
  have htwo : ({c_str "hello", c_str "2"} : Finset Bytes).card = 2 := by decide
  rw [← Ledger.card_names, Ledger.names_run, main.names_ledger, furtherNames,
    ← Finset.union_sdiff_self_eq_union, Finset.card_union_of_disjoint Finset.disjoint_sdiff, htwo]

/-- **The ids of the players**: behind any run of registrations and logins of a server
that `main` has started over an empty store, any two accounts with a role have different
ids, none of them zero, exactly when the run has registered twenty-nine further names at
most: the next one gets the id that `prepareAndCheck` has given away. -/
theorem unique_ids_iff (inputs : List (Addr × AccountRequest)) :
    UniqueIds env ((main.server env).run env
        (inputs.map fun input => (input.1, input.2.request))).redis.db
      ↔ (furtherNames (inputs.map Prod.snd)).card ≤ 29 := by
  rw [((main.tracked_server env).run inputs).uniqueIds_iff, length_ledger_run]
  omega

/-- Registrations of the thirty names that are one character from `a` on. -/
def thirtyRegistrations : List (ℕ × AccountRequest) :=
  (List.range 30).map fun i => (0, .REGISTER { account := String.singleton (Char.ofNat (97 + i)) })

/-- The thirtieth of them gets the id of `hello`. -/
theorem thirty_registrations_share_id :
    ¬ UniqueIds Env.wire ((main.server Env.wire).run Env.wire
      (thirtyRegistrations.map fun input => (input.1, input.2.request))).redis.db := by
  have hcard : (furtherNames (thirtyRegistrations.map Prod.snd)).card = 30 := by decide
  rw [((main.tracked_server Env.wire).run thirtyRegistrations).uniqueIds_iff, length_ledger_run,
    hcard]
  exact Nat.not_le.mpr (by norm_num)

end LittleB
