import LittleB.Records

/-!
What an account can see of the others.

* `AccountRequest`, `AccountCall`, `Server.serve`: registrations and logins, each with
  what becomes of its commands;
* `Account`: the abstract machine of one account, its password and what can be seen of
  its role, with `login` and `register`;
* `NamedApart`, `HasRoom`: no record of another account has the name of this one, and
  the counter of player ids has room;
* `account_refines`: the server seen from one C string is the abstract machine run on
  the requests with that C string;
* `Unaffected`, `unaffected_iff`: removing the requests of an account changes nothing
  for another one, exactly when their names differ as C strings.
-/

namespace LittleB

open Bytes

variable (env : Env) {Addr : Type} [DecidableEq Addr]

/-! ### Registrations and logins -/

/-- A request that is about an account. -/
inductive AccountRequest where
  | LOGIN (req : LoginReq)
  | REGISTER (req : RegisterReq)
  deriving DecidableEq, Repr

namespace AccountRequest

def account : AccountRequest → String
  | LOGIN req => req.account
  | REGISTER req => req.account

def request : AccountRequest → Request
  | LOGIN req => .LOGIN req
  | REGISTER req => .REGISTER req

end AccountRequest

/-- A request from an address, and what becomes of the commands issued for it. -/
structure AccountCall (Addr : Type) where
  addr : Addr
  request : AccountRequest
  outcome : ℕ → Outcome

/-- The server answers one request, the store treating its commands as it says. -/
def Server.serve (S : Server Addr) (call : AccountCall Addr) : Server Addr :=
  Server.step env { S with redis := ⟨S.redis.db, call.outcome⟩ } (call.addr, call.request.request)

/-- The requests, one after the other. -/
def Server.serveAll (calls : List (AccountCall Addr)) (S : Server Addr) : Server Addr :=
  calls.foldl (Server.serve env) S

/-- What a client is told: the error code, and for a login whether it returns. -/
abbrev Answer := Int32 × Option Bool

def LoginRsp.told (rsp : LoginRsp) : Answer := (rsp.error, some rsp.is_returning_visitor)

def RegisterRsp.told (rsp : RegisterRsp) : Answer := (rsp.error, none)

/-- What the client of an account is told by an entry of the log. -/
def toldAccount : Addr × Request × Response → Option (String × Answer)
  | (_, .LOGIN req, .LOGIN rsp) => some (req.account, rsp.told)
  | (_, .REGISTER req, .REGISTER rsp) => some (req.account, rsp.told)
  | _ => none

/-! ### The abstract machine of one account -/

/-- What can be seen of an account: its password, and of its role the name and the mark
of a visit. -/
@[ext] structure Account where
  password : Option Bytes
  role : Option (String × Bool)
  deriving DecidableEq, Repr

/-- What can be seen of a role. -/
def RoleInfo.seen (role : RoleInfo) : String × Bool :=
  (role.basic_info.username, role.basic_info.is_returning_visitor)

namespace Account

/-- The account `username` of a store. -/
def ofStore (db : Bytes → Option Bytes) (username : String) : Account :=
  ⟨db (password_key username), (storedRole env db username).map RoleInfo.seen⟩

/-- A login, behind the pull of the handler. -/
def login (self : Account) (outcome : ℕ → Outcome) (req : LoginReq) : Answer × Account :=
  match if outcome 0 = .ok then self.password else none with
  | none => (LoginRsp.told (.answer req.rpcid .LOGIN_NOT_REGISTERED false), self)
  | some value =>
      if ofString req.password ≠ cstr value then
        (LoginRsp.told (.answer req.rpcid .LOGIN_PASSWORD_WRONG false), self)
      else
        match if outcome 1 = .ok then self.role else none with
        | none => (LoginRsp.told (.answer req.rpcid .UNKOWN_EORROR false), self)
        | some (name, returning) =>
            (LoginRsp.told (.answer req.rpcid .SUCCEED returning),
              if returning = false ∧ outcome 2 = .ok ∧ c_str name = c_str req.account then
                { self with role := some (name, true) }
              else self)

/-- A registration, the counter having room. -/
def register (self : Account) (outcome : ℕ → Outcome) (req : RegisterReq) : Answer × Account :=
  if ¬ (outcome 0 = .ok ∧ self.password = none) then
    (RegisterRsp.told (.answer req.rpcid .ACCOUNT_ALREADY_EXIST), self)
  else if outcome 1 ≠ .ok then
    (RegisterRsp.told (.answer req.rpcid .UNKOWN_EORROR), self)
  else if ¬ (outcome 2 = .ok ∧ outcome 3 = .ok) then
    (RegisterRsp.told (.answer req.rpcid .UNKOWN_EORROR),
      { self with password := some (c_str req.password) })
  else
    (RegisterRsp.told (.answer req.rpcid .SUCCEED),
      ⟨some (c_str req.password), some (req.account, false)⟩)

/-- A request about the account, the pull of the handler included. -/
def answer (self : Account) (call : AccountCall Addr) : Answer × Account :=
  match call.request with
  | .LOGIN req => self.login (fun n => call.outcome (n + 1)) req
  | .REGISTER req => self.register call.outcome req

/-- One more request, with what was told so far, the last one first. -/
def step (told : Account × List (String × Answer)) (call : AccountCall Addr) :
    Account × List (String × Answer) :=
  ((told.1.answer call).2, (call.request.account, (told.1.answer call).1) :: told.2)

end Account

/-! ### One request -/

/-- Accounts that are the same C string are the same for the store. -/
lemma Account.ofStore_congr {u w : String} (h : c_str w = c_str u) (db : Bytes → Option Bytes) :
    Account.ofStore env db w = Account.ofStore env db u := by
  rw [Account.ofStore, Account.ofStore, storedRole_congr h, password_key_inj.mpr h]

/-- The role of an account behind the push of a marked role. -/
lemma ofStore_markedStore (r : Redis) (role : RoleInfo) (username : String) :
    Account.ofStore env (markedStore env r role) username
      = if role.basic_info.is_returning_visitor = false ∧ r.outcome 2 = .ok ∧
          c_str role.basic_info.username = c_str username then
          { Account.ofStore env r.db username with role := some (role.basic_info.username, true) }
        else Account.ofStore env r.db username := by
  rw [Account.ofStore, storedRole_markedStore_of_name,
    markedStore_of_ne (password_key_ne_role_key username)]
  by_cases hpush : role.basic_info.is_returning_visitor = false ∧ r.outcome 2 = .ok ∧
      c_str role.basic_info.username = c_str username
  · rw [if_pos hpush, if_pos ⟨⟨hpush.1, hpush.2.1⟩, hpush.2.2.symm⟩]
    rfl
  · rw [if_neg hpush, if_neg fun h => hpush ⟨h.1.1, h.1.2, h.2.symm⟩]
    rfl

/-- A login does to the account what it does to the abstract one. -/
lemma login_refines (req : LoginReq) (r : Redis) :
    (((MinigameFakeLoginService env req).run Redis.exec r).1.told,
        Account.ofStore env ((MinigameFakeLoginService env req).run Redis.exec r).2.db req.account)
      = (Account.ofStore env r.db req.account).login r.outcome req := by
  have hend := login_end env req r
  generalize ((MinigameFakeLoginService env req).run Redis.exec r).1 = rsp at hend ⊢
  generalize ((MinigameFakeLoginService env req).run Redis.exec r).2.db = db at hend ⊢
  rw [Account.login]
  cases hend with
  | unregistered h =>
      have hnone : (if r.outcome 0 = .ok then (Account.ofStore env r.db req.account).password
          else none) = none := by
        split_ifs with h0
        · exact h h0
        · rfl
      rw [hnone]
  | wrong value h0 hdb hne =>
      have hvalue : (if r.outcome 0 = .ok then (Account.ofStore env r.db req.account).password
          else none) = some value := (if_pos h0).trans hdb
      rw [hvalue]
      simp only [ne_eq, hne, not_false_eq_true, if_true]
  | roleless value h0 hdb heq h1 =>
      have hvalue : (if r.outcome 0 = .ok then (Account.ofStore env r.db req.account).password
          else none) = some value := (if_pos h0).trans hdb
      have hnone : (if r.outcome 1 = .ok then (Account.ofStore env r.db req.account).role
          else none) = none := by
        split_ifs with hok
        · rw [Account.ofStore, h1 hok]
          rfl
        · rfl
      rw [hvalue]
      simp only [heq, ne_eq, not_true_eq_false, if_false, hnone]
  | accepted value role h0 hdb heq h1 hrole =>
      have hvalue : (if r.outcome 0 = .ok then (Account.ofStore env r.db req.account).password
          else none) = some value := (if_pos h0).trans hdb
      have hseen : (if r.outcome 1 = .ok then (Account.ofStore env r.db req.account).role
          else none) = some role.seen := by
        rw [if_pos h1, Account.ofStore, hrole]
        rfl
      rw [hvalue]
      simp only [heq, ne_eq, not_true_eq_false, if_false, hseen]
      rw [ofStore_markedStore]
      rfl

/-- The account behind the password of a new account. -/
lemma ofStore_withPassword (request : RegisterReq) (db : Bytes → Option Bytes) :
    Account.ofStore env (withPassword request db) request.account
      = { Account.ofStore env db request.account with
          password := some (c_str request.password) } := by
  rw [Account.ofStore, withPassword, Function.update_self,
    storedRole_update_of_ne _ _ (password_key_ne_role_key _ _).symm]
  rfl

/-- The counter is no part of an account. -/
lemma ofStore_update_gid_key (db : Bytes → Option Bytes) (value : Option Bytes)
    (username : String) :
    Account.ofStore env (Function.update db gid_key value) username
      = Account.ofStore env db username := by
  rw [Account.ofStore, Account.ofStore, storedRole_update_of_ne _ _ (role_key_ne_gid_key _),
    Function.update_of_ne (password_key_ne_gid_key _)]

/-- The account behind a registration that has gone through. -/
lemma ofStore_registered (request : RegisterReq) (gid : Int64) (db : Bytes → Option Bytes) :
    Account.ofStore env (registered env request gid db) request.account
      = ⟨some (c_str request.password), some (request.account, false)⟩ := by
  rw [Account.ofStore, registered_password, storedRole_registered]
  rfl

/-- With room in the counter, a registration does to the account what it does to the
abstract one. -/
lemma register_refines (req : RegisterReq) {r : Redis}
    (hroom : Redis.incremented r.db gid_key ≠ none) :
    (((MinigameRegisterService env req).run Redis.exec r).1.told,
        Account.ofStore env ((MinigameRegisterService env req).run Redis.exec r).2.db req.account)
      = (Account.ofStore env r.db req.account).register r.outcome req := by
  have hend := register_end env req r
  generalize ((MinigameRegisterService env req).run Redis.exec r).1 = rsp at hend ⊢
  generalize ((MinigameRegisterService env req).run Redis.exec r).2.db = db at hend ⊢
  rw [Account.register]
  have hpassword : (Account.ofStore env r.db req.account).password
      = r.db (password_key req.account) := rfl
  rw [hpassword]
  cases hend with
  | refused h => rw [if_pos fun hnew => h hnew.1 hnew.2]
  | unstored h0 hnew h1 => rw [if_neg (not_not_intro ⟨h0, hnew⟩), if_pos h1]
  | uncounted h0 hnew h1 h2 =>
      have h2' : r.outcome 2 ≠ .ok := h2.resolve_right hroom
      rw [if_neg (not_not_intro ⟨h0, hnew⟩), if_neg (not_not_intro h1), if_pos fun h => h2' h.1,
        ofStore_withPassword]
  | roleless gid h0 hnew h1 h2 hgid h3 =>
      rw [if_neg (not_not_intro ⟨h0, hnew⟩), if_neg (not_not_intro h1), if_pos fun h => h3 h.2,
        ofStore_update_gid_key, ofStore_withPassword]
  | stored gid h0 hnew h1 h2 hgid h3 =>
      rw [if_neg (not_not_intro ⟨h0, hnew⟩), if_neg (not_not_intro h1),
        if_neg (not_not_intro ⟨h2, h3⟩), ofStore_registered]

/-! ### The other accounts -/

/-- No role stored for another account has the name of this one. -/
def NamedApart (username : String) (db : Bytes → Option Bytes) : Prop :=
  ∀ w, c_str w ≠ c_str username → ∀ role, storedRole env db w = some role →
    c_str role.basic_info.username ≠ c_str username

/-- The number the counter of player ids stands at. -/
def counter (db : Bytes → Option Bytes) : Option ℤ :=
  match db gid_key with
  | none => some 0
  | some value => ofDecimal value

/-- The counter can be incremented `k` times. -/
def HasRoom (db : Bytes → Option Bytes) (k : ℕ) : Prop :=
  ∃ n, counter db = some n ∧ -2 ^ 63 ≤ n ∧ n + k < 2 ^ 63

lemma HasRoom.mono {db : Bytes → Option Bytes} {j k : ℕ} (h : HasRoom db k) (hjk : j ≤ k) :
    HasRoom db j := by
  obtain ⟨n, hn, hlow, hhigh⟩ := h
  exact ⟨n, hn, hlow, by omega⟩

/-- A counter with room is incremented by one. -/
lemma HasRoom.incremented {db : Bytes → Option Bytes} {k : ℕ} (h : HasRoom db (k + 1)) :
    ∃ gid n, Redis.incremented db gid_key = some gid ∧ gid.toInt = n + 1 ∧ -2 ^ 63 ≤ n ∧
      n + (k + 1) < 2 ^ 63 := by
  obtain ⟨n, hn, hlow, hhigh⟩ := h
  push_cast at hhigh
  rw [counter] at hn
  rw [Redis.incremented]
  cases hdb : db gid_key with
  | none =>
      rw [hdb] at hn
      obtain rfl := Option.some.inj hn
      exact ⟨1, 0, rfl, rfl, hlow, hhigh⟩
  | some value =>
      rw [hdb] at hn
      change ofDecimal value = some n at hn
      refine ⟨Int64.ofInt (n + 1), n, ?_, Int64.toInt_ofInt_of_le (by omega) (by omega), hlow,
        hhigh⟩
      simp only [hn]
      rw [if_pos ⟨hlow, by omega⟩]

/-- One request takes the counter one further at most. -/
lemma hasRoom_step {S : Server Addr} {k : ℕ} (h : HasRoom S.redis.db (k + 1)) (addr : Addr)
    (request : Request) : HasRoom (S.step env (addr, request)).redis.db k := by
  obtain ⟨gid, n, hgid, hn, hlow, hhigh⟩ := h.incremented
  rcases (step_written env S addr request gid_key).gid_cases with hkept | ⟨gid', hgid', hnew⟩
  · rw [HasRoom, counter, hkept]
    exact h.mono (Nat.le_succ k)
  · obtain rfl := Option.some_inj.mp (hgid.symm.trans hgid')
    rw [HasRoom, counter, hnew]
    exact ⟨gid.toInt, ofDecimal_decimal _, by omega, by omega⟩

/-- Roles are written under their own names, so the records of other accounts do not
come to have the name of this one. -/
lemma namedApart_step {S : Server Addr} {username : String}
    (h : NamedApart env username S.redis.db) (addr : Addr) (request : Request) :
    NamedApart env username (S.step env (addr, request)).redis.db := by
  intro w hw role hrole
  rw [storedRole] at hrole
  rcases (step_written env S addr request (role_key w)).role_cases with
    hkept | ⟨written, hnew, hname, -⟩
  · rw [hkept] at hrole
    exact h w hw role hrole
  · -- the role that has just been written is the one that is read back
    rw [hnew, Option.bind_some, decodeRole_serialize] at hrole
    obtain rfl := Option.some.inj hrole
    rw [← hname]
    exact hw

/-- A request about another account leaves this one as it is. -/
lemma ofStore_step_of_ne {S : Server Addr} {username : String}
    (h : NamedApart env username S.redis.db) (addr : Addr) {request : AccountRequest}
    (hne : c_str request.account ≠ c_str username) :
    Account.ofStore env (S.step env (addr, request.request)).redis.db username
      = Account.ofStore env S.redis.db username := by
  have hpassword : (S.step env (addr, request.request)).redis.db (password_key username)
      = S.redis.db (password_key username) := by
    rcases (step_written env S addr request.request (password_key username)).password_cases with
      hkept | ⟨req, hreq, hname, -⟩
    · exact hkept
    · cases request <;> cases hreq
      exact absurd hname.symm hne
  have hrole : (S.step env (addr, request.request)).redis.db (role_key username)
      = S.redis.db (role_key username) := by
    rcases (step_written env S addr request.request (role_key username)).role_cases with
      hkept | ⟨role, -, hname, howner⟩
    · exact hkept
    cases request with
    | LOGIN req =>
        obtain ⟨stored, hstored, rfl⟩ := howner
        exact absurd hname.symm (h req.account hne stored hstored)
    | REGISTER req =>
        have haccount : role.basic_info.username = req.account := howner
        rw [haccount] at hname
        exact absurd hname.symm hne
  rw [Account.ofStore, Account.ofStore, storedRole, storedRole, hpassword, hrole]

/-! ### Runs -/

/-- What is told to the client of an account and what becomes of the account is what
the abstract machine says. -/
lemma serve_refines {S : Server Addr} (call : AccountCall Addr)
    (hroom : Redis.incremented S.redis.db gid_key ≠ none) :
    (S.serve env call).log.filterMap toldAccount
        = (call.request.account, ((Account.ofStore env S.redis.db call.request.account).answer
            call).1) :: S.log.filterMap toldAccount ∧
      Account.ofStore env (S.serve env call).redis.db call.request.account
        = ((Account.ofStore env S.redis.db call.request.account).answer call).2 := by
  obtain ⟨addr, request, outcome⟩ := call
  rw [Server.serve]
  cases request with
  | LOGIN req =>
      have hlogin := Prod.ext_iff.mp (login_refines env req
        ⟨S.redis.db, fun n => outcome (n + 1)⟩)
      constructor
      · change (Server.step env _ (addr, .LOGIN req)).log.filterMap toldAccount = _
        rw [(Server.step_LOGIN env _ addr req).2]
        exact congrArg (fun a => (req.account, a) :: S.log.filterMap toldAccount) hlogin.1
      · change Account.ofStore env (Server.step env _ (addr, .LOGIN req)).redis.db req.account = _
        rw [Server.redis_step_LOGIN]
        exact hlogin.2
  | REGISTER req =>
      have hregister := Prod.ext_iff.mp (register_refines env req
        (r := ⟨S.redis.db, outcome⟩) hroom)
      constructor
      · change (Server.step env _ (addr, .REGISTER req)).log.filterMap toldAccount = _
        rw [Server.step_REGISTER]
        exact congrArg (fun a => (req.account, a) :: S.log.filterMap toldAccount) hregister.1
      · change Account.ofStore env (Server.step env _ (addr, .REGISTER req)).redis.db
          req.account = _
        rw [Server.step_REGISTER]
        exact hregister.2

/-- The requests whose account is the same C string. -/
def sameName (username : String) (call : AccountCall Addr) : Bool :=
  c_str call.request.account = c_str username

/-- The server seen from one C string, with `k` requests to come: the account in the
store and what its clients have been told. -/
structure SeenFrom (username : String) (k : ℕ) (S : Server Addr)
    (told : Account × List (String × Answer)) : Prop where
  room : HasRoom S.redis.db k
  apart : NamedApart env username S.redis.db
  account : Account.ofStore env S.redis.db username = told.1
  told : (S.log.filterMap toldAccount).filter (fun e => c_str e.1 = c_str username) = told.2

variable {username : String} {k : ℕ} {S : Server Addr} {told : Account × List (String × Answer)}

/-- Any request keeps the counter and the names in order. -/
lemma SeenFrom.serve (h : SeenFrom env username (k + 1) S told) (call : AccountCall Addr) :
    HasRoom (S.serve env call).redis.db k ∧ NamedApart env username (S.serve env call).redis.db :=
  ⟨hasRoom_step env (S := { S with redis := ⟨S.redis.db, call.outcome⟩ }) h.room _ _,
    namedApart_step env (S := { S with redis := ⟨S.redis.db, call.outcome⟩ }) h.apart _ _⟩

/-- A request with the name takes the abstract machine along. -/
lemma SeenFrom.take {call : AccountCall Addr} (hname : sameName username call = true)
    (h : SeenFrom env username (k + 1) S told) :
    SeenFrom env username k (S.serve env call) (Account.step told call) := by
  have hcstr : c_str call.request.account = c_str username := of_decide_eq_true hname
  obtain ⟨gid, n, hgid, -⟩ := h.room.incremented
  obtain ⟨hlog, haccount⟩ := serve_refines env call (S := S) (by rw [hgid]; simp)
  have hsame := Account.ofStore_congr env hcstr
  rw [hsame, h.account] at hlog
  rw [hsame, hsame, h.account] at haccount
  refine ⟨(h.serve env call).1, (h.serve env call).2, haccount, ?_⟩
  · rw [hlog, List.filter_cons_of_pos (by simpa using hcstr), h.told]
    rfl

/-- A request with another name goes unnoticed. -/
lemma SeenFrom.skip {call : AccountCall Addr} (hname : sameName username call = false)
    (h : SeenFrom env username (k + 1) S told) :
    SeenFrom env username k (S.serve env call) told := by
  have hcstr : c_str call.request.account ≠ c_str username := of_decide_eq_false hname
  obtain ⟨gid, n, hgid, -⟩ := h.room.incremented
  obtain ⟨hlog, -⟩ := serve_refines env call (S := S) (by rw [hgid]; simp)
  refine ⟨(h.serve env call).1, (h.serve env call).2, ?_, ?_⟩
  · rw [← h.account]
    exact ofStore_step_of_ne env (S := { S with redis := ⟨S.redis.db, call.outcome⟩ }) h.apart _
      hcstr
  · rw [hlog, List.filter_cons_of_neg (by simpa using hcstr), h.told]

/-- **One account, one machine**: the server, seen from one C string, is the abstract
machine run on the requests with that C string. -/
theorem account_refines (calls : List (AccountCall Addr))
    (h : SeenFrom env username calls.length S told) :
    SeenFrom env username 0 (S.serveAll env calls)
      ((calls.filter (sameName username)).foldl Account.step told) :=
  Run.simulates_filter (Server.serve env) Account.step (sameName username) (SeenFrom env username)
    (fun _ _ _ _ hname hseen => hseen.take env hname)
    (fun _ _ _ _ hname hseen => hseen.skip env hname) h

/-- What the clients of an account have been told. -/
def toldTo (username : String) (S : Server Addr) : List (String × Answer) :=
  (S.log.filterMap toldAccount).filter fun e => e.1 = username

/-- In a run from a store, the clients of `u` are told the same without the requests
of `v`. -/
def Unaffected (u v : String) (db : Bytes → Option Bytes) (calls : List (AccountCall Addr)) :
    Prop :=
  toldTo u (Server.serveAll env calls (.start (.working db)))
    = toldTo u (Server.serveAll env (calls.filter fun call => call.request.account ≠ v)
        (.start (.working db)))

omit [DecidableEq Addr] in
/-- The clients of an account are told what the clients of its C string are told, among
them. -/
lemma toldTo_eq (h : SeenFrom env username k S told) :
    toldTo username S = told.2.filter fun e => e.1 = username := by
  rw [toldTo, ← h.told, List.filter_filter]
  refine List.filter_congr fun e _ => ?_
  by_cases he : e.1 = username
  · simp [he]
  · simp [he]

omit [DecidableEq Addr] in
/-- The server at its start, seen from a C string. -/
lemma seenFrom_start {db : Bytes → Option Bytes} (hroom : HasRoom db k)
    (hapart : NamedApart env username db) :
    SeenFrom env username k (.start (.working db) : Server Addr)
      (Account.ofStore env db username, []) :=
  ⟨hroom, hapart, rfl, rfl⟩

/-- Removing the requests of another C string changes nothing. -/
lemma unaffected_of_ne {u v : String} (h : c_str u ≠ c_str v) {db : Bytes → Option Bytes}
    {calls : List (AccountCall Addr)} (hapart : NamedApart env u db)
    (hroom : HasRoom db calls.length) : Unaffected env u v db calls := by
  have hkept : (calls.filter fun call => call.request.account ≠ v).filter (sameName u)
      = calls.filter (sameName u) := by
    rw [List.filter_filter]
    refine List.filter_congr fun call _ => ?_
    by_cases hname : c_str call.request.account = c_str u
    · have hv : call.request.account ≠ v := fun heq => h (by rw [← hname, heq])
      simp [sameName, hname, hv]
    · simp [sameName, hname]
  have hfull := account_refines env calls (seenFrom_start env hroom hapart)
  have hreduced := account_refines env (calls.filter fun call => call.request.account ≠ v)
    (seenFrom_start env (hroom.mono (List.length_filter_le _ _)) hapart)
  rw [Unaffected, toldTo_eq env hfull, toldTo_eq env hreduced, hkept]

/-- A registration over a working store. -/
def registerCall (addr : Addr) (account : String) : AccountCall Addr :=
  ⟨addr, .REGISTER { account := account }, fun _ => .ok⟩

lemma namedApart_empty (username : String) : NamedApart env username fun _ => none := by
  intro w _ role hrole
  cases hrole

lemma hasRoom_empty {k : ℕ} (hk : k < 2 ^ 63) : HasRoom (fun _ => none) k :=
  ⟨0, rfl, by norm_num, by omega⟩

/-- When two accounts are the same C string, the registration of one of them refuses
that of the other. -/
lemma not_unaffected_of_eq {u v : String} (hne : u ≠ v) (h : c_str u = c_str v) (addr : Addr) :
    ¬ Unaffected env u v (fun _ => none) [registerCall addr v, registerCall addr u] := by
  have hstart (k : ℕ) (hk : k < 2 ^ 63) :
      SeenFrom env u k (.start (.working fun _ => none) : Server Addr)
        (Account.ofStore env (fun _ => none) u, []) :=
    seenFrom_start env (hasRoom_empty hk) (namedApart_empty env u)
  have hfull := account_refines env [registerCall addr v, registerCall addr u]
    (hstart 2 (by norm_num))
  have hreduced := account_refines env [registerCall addr u] (hstart 1 (by norm_num))
  have hfilter : [registerCall addr v, registerCall addr u].filter
      (fun call => call.request.account ≠ v) = [registerCall addr u] := by
    simp [registerCall, AccountRequest.account, hne]
  have hboth : [registerCall addr v, registerCall addr u].filter (sameName u)
      = [registerCall addr v, registerCall addr u] := by
    simp [registerCall, AccountRequest.account, sameName, h]
  have hone : [registerCall addr u].filter (sameName u) = [registerCall addr u] := by
    simp [registerCall, AccountRequest.account, sameName]
  intro hsame
  rw [Unaffected, hfilter, toldTo_eq env hfull, toldTo_eq env hreduced, hboth, hone] at hsame
  simp [registerCall, Account.step, Account.answer, Account.register, Account.ofStore,
    AccountRequest.account, Ne.symm hne, RegisterRsp.told, RegisterRsp.answer,
    RegisterRsp.ErrorCode.number] at hsame

/-- **Isolation**: for two accounts, removing the requests of the second from a run of
registrations and logins changes nothing of what the clients of the first are told, from
any store whose records of others do not have its name and whose counter has room, exactly
when the two names differ as C strings. -/
theorem unaffected_iff [Inhabited Addr] {u v : String} (hne : u ≠ v) :
    (∀ db (calls : List (AccountCall Addr)), NamedApart env u db → HasRoom db calls.length →
      Unaffected env u v db calls) ↔ c_str u ≠ c_str v := by
  constructor
  · intro h heq
    exact not_unaffected_of_eq env hne heq default
      (h (fun _ => none) _ (namedApart_empty env u) (hasRoom_empty (by norm_num)))
  · intro h db calls hapart hroom
    exact unaffected_of_ne env h hapart hroom

/-- Two accounts without zero characters. -/
theorem unaffected_two_accounts :
    "a" ≠ "b" ∧
    ((∀ db (calls : List (AccountCall ℕ)), NamedApart Env.wire "a" db → HasRoom db calls.length →
      Unaffected Env.wire "a" "b" db calls) ↔ c_str "a" ≠ c_str "b") :=
  ⟨by decide, unaffected_iff Env.wire (by decide)⟩

/-- An account whose name goes on behind a zero character takes the name before it. -/
theorem zero_character_name_taken :
    ¬ Unaffected Env.wire "a" "a\x00b" (fun _ => none)
      [registerCall 0 "a\x00b", registerCall (0 : ℕ) "a"] :=
  not_unaffected_of_eq Env.wire (by decide) (by decide) 0

end LittleB
