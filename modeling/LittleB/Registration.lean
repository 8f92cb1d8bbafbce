import LittleB.Service

/-!
One registration against the store.

* `RegisterEnd`, `register_end`: the five ways `MinigameRegisterService` ends, with
  the store it leaves; `RegisterExit`, `register_exit`: the same seen from the account;
* `AllOrNothing`, `allOrNothing_iff`: an account is registered completely or not at
  all, except when the password has been stored and a later command fails.
-/

namespace LittleB

open Bytes

variable (env : Env)

/-! ### The control points of a registration -/

/-- Where a registration stands: before one of its four commands, or answered. -/
inductive RegisterPoint where
  | start
  | setPassword
  | nextId
  | storeRole (gid : Int32)
  | answered (rsp : RegisterRsp)
  deriving DecidableEq

namespace RegisterPoint

/-- The command issued at a point, and where its reply leads. -/
def next (request : RegisterReq) : RegisterPoint → View RedisSig RegisterRsp RegisterPoint
  | start => .ask (.get (password_key request.account)) fun reply : Reply =>
      if reply.type ≠ .REDIS_REPLY_NIL then
        answered (.answer request.rpcid .ACCOUNT_ALREADY_EXIST)
      else setPassword
  | setPassword =>
      .ask (.set (password_key request.account) (c_str request.password)) fun reply : Reply =>
        if reply.type ≠ .REDIS_REPLY_STATUS then answered (.answer request.rpcid .UNKOWN_EORROR)
        else nextId
  | nextId => .ask (.incr gid_key) fun reply : Reply =>
      if reply.type ≠ .REDIS_REPLY_INTEGER then answered (.answer request.rpcid .UNKOWN_EORROR)
      else storeRole reply.integer'.toInt32
  | storeRole gid =>
      .ask (.set (role_key request.account)
          (env.roleInfo.SerializeToString (initialRole request.account gid))) fun reply : Reply =>
        if reply.type = .REDIS_REPLY_STATUS then answered (.answer request.rpcid .SUCCEED)
        else answered (.answer request.rpcid .UNKOWN_EORROR)
  | answered rsp => .done rsp

/-- What is left of `MinigameRegisterService` with the id of the new player. -/
def afterNextId (request : RegisterReq) (gid : Int32) : Prog RedisSig RegisterRsp := do
  let role_buf := env.roleInfo.SerializeToString (initialRole request.account gid)
  let reply ← RedisCommand (.set (role_key request.account) role_buf)
  if reply.type = .REDIS_REPLY_STATUS then
    return .answer request.rpcid .SUCCEED
  else
    return .answer request.rpcid .UNKOWN_EORROR

/-- What is left of it with the password stored. -/
def afterPassword (request : RegisterReq) : Prog RedisSig RegisterRsp := do
  let reply ← RedisCommand (.incr gid_key)
  if reply.type ≠ .REDIS_REPLY_INTEGER then
    return .answer request.rpcid .UNKOWN_EORROR
  afterNextId env request reply.integer'.toInt32

/-- What is left of it when the account is new. -/
def afterLookup (request : RegisterReq) : Prog RedisSig RegisterRsp := do
  let reply ← RedisCommand (.set (password_key request.account) (c_str request.password))
  if reply.type ≠ .REDIS_REPLY_STATUS then
    return .answer request.rpcid .UNKOWN_EORROR
  afterPassword env request

/-- What is left of `MinigameRegisterService` at a point. -/
def prog (request : RegisterReq) : RegisterPoint → Prog RedisSig RegisterRsp
  | start => MinigameRegisterService env request
  | setPassword => afterLookup env request
  | nextId => afterPassword env request
  | storeRole gid => afterNextId env request gid
  | answered rsp => return rsp

/-- The points describe the service: at each of them the reply is looked at once,
and either branch leads to a point. -/
lemma describes (request : RegisterReq) : Describes (next env request) (prog env request) := by
  intro p
  cases p with
  | answered rsp => rfl
  | start =>
      rw [prog, MinigameRegisterService, view_RedisCommand_bind, next, View.map]
      refine congrArg _ (funext fun reply => ?_)
      rw [apply_ite (prog env request)]
      rfl
  | setPassword =>
      rw [prog, afterLookup, view_RedisCommand_bind, next, View.map]
      refine congrArg _ (funext fun reply => ?_)
      rw [apply_ite (prog env request)]
      rfl
  | nextId =>
      rw [prog, afterPassword, view_RedisCommand_bind, next, View.map]
      refine congrArg _ (funext fun reply => ?_)
      rw [apply_ite (prog env request)]
      rfl
  | storeRole gid =>
      rw [prog, afterNextId, view_RedisCommand_bind, next, View.map]
      refine congrArg _ (funext fun reply => ?_)
      rw [apply_ite (prog env request)]
      rfl

end RegisterPoint

/-- One command of a registration: from a point, over a command and its reply, to
the next point and the store behind it. -/
inductive RegisterMove (request : RegisterReq) (r : Redis) :
    RegisterPoint → Command → Reply → RegisterPoint → Redis → Prop
  | refused (reply : Reply) (h : r.outcome 0 = .ok → r.db (password_key request.account) ≠ none) :
      RegisterMove request r .start (.get (password_key request.account)) reply
        (.answered (.answer request.rpcid .ACCOUNT_ALREADY_EXIST)) ⟨r.db, r.later⟩
  | new (h : r.outcome 0 = .ok) (hnew : r.db (password_key request.account) = none) :
      RegisterMove request r .start (.get (password_key request.account)) .nil .setPassword
        ⟨r.db, r.later⟩
  | unstored (reply : Reply) (h : r.outcome 0 ≠ .ok) :
      RegisterMove request r .setPassword
        (.set (password_key request.account) (c_str request.password)) reply
        (.answered (.answer request.rpcid .UNKOWN_EORROR)) ⟨r.db, r.later⟩
  | password (reply : Reply) (h : r.outcome 0 = .ok) :
      RegisterMove request r .setPassword
        (.set (password_key request.account) (c_str request.password)) reply .nextId
        ⟨Function.update r.db (password_key request.account) (some (c_str request.password)),
          r.later⟩
  | uncounted (reply : Reply)
      (h : r.outcome 0 ≠ .ok ∨ Redis.incremented r.db gid_key = none) :
      RegisterMove request r .nextId (.incr gid_key) reply
        (.answered (.answer request.rpcid .UNKOWN_EORROR)) ⟨r.db, r.later⟩
  | counted (gid : Int64) (h : r.outcome 0 = .ok)
      (hgid : Redis.incremented r.db gid_key = some gid) :
      RegisterMove request r .nextId (.incr gid_key) (.integer gid) (.storeRole gid.toInt32)
        ⟨Function.update r.db gid_key (some (decimal gid.toInt)), r.later⟩
  | roleless (gid : Int32) (reply : Reply) (h : r.outcome 0 ≠ .ok) :
      RegisterMove request r (.storeRole gid)
        (.set (role_key request.account)
          (env.roleInfo.SerializeToString (initialRole request.account gid))) reply
        (.answered (.answer request.rpcid .UNKOWN_EORROR)) ⟨r.db, r.later⟩
  | role (gid : Int32) (reply : Reply) (h : r.outcome 0 = .ok) :
      RegisterMove request r (.storeRole gid)
        (.set (role_key request.account)
          (env.roleInfo.SerializeToString (initialRole request.account gid))) reply
        (.answered (.answer request.rpcid .SUCCEED))
        ⟨Function.update r.db (role_key request.account)
          (some (env.roleInfo.SerializeToString (initialRole request.account gid))), r.later⟩

/-- Every command of a registration is one of these moves. -/
lemma register_move {request : RegisterReq} {p : RegisterPoint} {c : Command}
    {k : Reply → RegisterPoint} (hp : RegisterPoint.next env request p = .ask c k) (r : Redis) :
    RegisterMove env request r p c (Redis.exec c r).1 (k (Redis.exec c r).1)
      (Redis.exec c r).2 := by
  cases p with
  | answered rsp => cases hp
  | start =>
      cases hp
      cases h0 : r.outcome 0 with
      | error str =>
          rw [Redis.exec_error h0]
          exact .refused _ fun h => by rw [h0] at h; cases h
      | ok =>
          rw [Redis.exec_ok h0]
          cases hdb : r.db (password_key request.account) with
          | none => rw [Redis.perform_get_none hdb]; exact .new h0 hdb
          | some value =>
              rw [Redis.perform_get_some hdb]
              exact .refused _ fun _ => by rw [hdb]; simp
  | setPassword =>
      cases hp
      cases h0 : r.outcome 0 with
      | error str => rw [Redis.exec_error h0]; exact .unstored _ (by rw [h0]; simp)
      | ok => rw [Redis.exec_ok h0]; exact .password _ h0
  | nextId =>
      cases hp
      cases h0 : r.outcome 0 with
      | error str => rw [Redis.exec_error h0]; exact .uncounted _ (.inl (by rw [h0]; simp))
      | ok =>
          rw [Redis.exec_ok h0]
          cases hgid : Redis.incremented r.db gid_key with
          | none => rw [Redis.perform_incr_none hgid]; exact .uncounted _ (.inr hgid)
          | some gid => rw [Redis.perform_incr_some hgid]; exact .counted gid h0 hgid
  | storeRole gid =>
      cases hp
      cases h0 : r.outcome 0 with
      | error str => rw [Redis.exec_error h0]; exact .roleless gid _ (by rw [h0]; simp)
      | ok => rw [Redis.exec_ok h0]; exact .role gid _ h0

/-- The first command of a registration that is not answered yet, and the rest. -/
lemma run_move (request : RegisterReq) {p : RegisterPoint} {c : Command} {k : Reply → RegisterPoint}
    (hp : RegisterPoint.next env request p = .ask c k) (r : Redis) :
    ∃ reply p' r', RegisterMove env request r p c reply p' r' ∧
      (RegisterPoint.prog env request p).run Redis.exec r
        = (RegisterPoint.prog env request p').run Redis.exec r' :=
  ⟨_, _, _, register_move env hp r, (RegisterPoint.describes env request).run_ask Redis.exec hp r⟩

/-! ### The exits of a registration -/

/-- The store with the password of a new account and nothing else. -/
def withPassword (request : RegisterReq) (db : Bytes → Option Bytes) : Bytes → Option Bytes :=
  Function.update db (password_key request.account) (some (c_str request.password))

/-- The store after a registration that has gone through. -/
def registered (request : RegisterReq) (gid : Int64) (db : Bytes → Option Bytes) :
    Bytes → Option Bytes :=
  Function.update
    (Function.update (withPassword request db) gid_key (some (decimal gid.toInt)))
    (role_key request.account)
    (some (env.roleInfo.SerializeToString (initialRole request.account gid.toInt32)))

lemma registered_password (request : RegisterReq) (gid : Int64) (db : Bytes → Option Bytes) :
    registered env request gid db (password_key request.account)
      = some (c_str request.password) := by
  rw [registered, Function.update_of_ne (password_key_ne_role_key _ _),
    Function.update_of_ne (password_key_ne_gid_key _), withPassword, Function.update_self]

lemma storedRole_registered (request : RegisterReq) (gid : Int64) (db : Bytes → Option Bytes) :
    storedRole env (registered env request gid db) request.account
      = some (initialRole request.account gid.toInt32) := by
  rw [registered, storedRole_update_role, if_pos rfl]

/-- How a registration ends: the response and the store it leaves. -/
inductive RegisterExit (request : RegisterReq) (r : Redis) :
    RegisterRsp → (Bytes → Option Bytes) → Prop
  /-- The account has a password already, or the store did not say. -/
  | refused (h : r.outcome 0 = .ok → r.db (password_key request.account) ≠ none) :
      RegisterExit request r (.answer request.rpcid .ACCOUNT_ALREADY_EXIST) r.db
  /-- The password could not be stored. -/
  | unstored (h0 : r.outcome 0 = .ok) (hnew : r.db (password_key request.account) = none)
      (h1 : r.outcome 1 ≠ .ok) :
      RegisterExit request r (.answer request.rpcid .UNKOWN_EORROR) r.db
  /-- The password has been stored and no role. -/
  | halfway (db : Bytes → Option Bytes) (h0 : r.outcome 0 = .ok)
      (hnew : r.db (password_key request.account) = none) (h1 : r.outcome 1 = .ok)
      (hfail : r.outcome 2 ≠ .ok ∨ Redis.incremented r.db gid_key = none ∨ r.outcome 3 ≠ .ok)
      (hpassword : db (password_key request.account) = some (c_str request.password))
      (hrest : ∀ key, key ≠ password_key request.account → key ≠ gid_key → db key = r.db key) :
      RegisterExit request r (.answer request.rpcid .UNKOWN_EORROR) db
  /-- Everything has been stored. -/
  | stored (gid : Int64) (h0 : r.outcome 0 = .ok)
      (hnew : r.db (password_key request.account) = none) (h1 : r.outcome 1 = .ok)
      (h2 : r.outcome 2 = .ok) (hgid : Redis.incremented r.db gid_key = some gid)
      (h3 : r.outcome 3 = .ok) :
      RegisterExit request r (.answer request.rpcid .SUCCEED) (registered env request gid r.db)

/-- How a registration ends, with exactly the store it leaves. -/
inductive RegisterEnd (request : RegisterReq) (r : Redis) :
    RegisterRsp → (Bytes → Option Bytes) → Prop
  | refused (h : r.outcome 0 = .ok → r.db (password_key request.account) ≠ none) :
      RegisterEnd request r (.answer request.rpcid .ACCOUNT_ALREADY_EXIST) r.db
  | unstored (h0 : r.outcome 0 = .ok) (hnew : r.db (password_key request.account) = none)
      (h1 : r.outcome 1 ≠ .ok) :
      RegisterEnd request r (.answer request.rpcid .UNKOWN_EORROR) r.db
  | uncounted (h0 : r.outcome 0 = .ok) (hnew : r.db (password_key request.account) = none)
      (h1 : r.outcome 1 = .ok)
      (h2 : r.outcome 2 ≠ .ok ∨ Redis.incremented r.db gid_key = none) :
      RegisterEnd request r (.answer request.rpcid .UNKOWN_EORROR) (withPassword request r.db)
  | roleless (gid : Int64) (h0 : r.outcome 0 = .ok)
      (hnew : r.db (password_key request.account) = none) (h1 : r.outcome 1 = .ok)
      (h2 : r.outcome 2 = .ok) (hgid : Redis.incremented r.db gid_key = some gid)
      (h3 : r.outcome 3 ≠ .ok) :
      RegisterEnd request r (.answer request.rpcid .UNKOWN_EORROR)
        (Function.update (withPassword request r.db) gid_key (some (decimal gid.toInt)))
  | stored (gid : Int64) (h0 : r.outcome 0 = .ok)
      (hnew : r.db (password_key request.account) = none) (h1 : r.outcome 1 = .ok)
      (h2 : r.outcome 2 = .ok) (hgid : Redis.incremented r.db gid_key = some gid)
      (h3 : r.outcome 3 = .ok) :
      RegisterEnd request r (.answer request.rpcid .SUCCEED) (registered env request gid r.db)

/-- The counter does not depend on other keys. -/
lemma Redis.incremented_update (db : Bytes → Option Bytes) {key k : Bytes} (h : k ≠ key)
    (value : Option Bytes) :
    Redis.incremented (Function.update db key value) k = Redis.incremented db k := by
  rw [Redis.incremented, Redis.incremented, Function.update_of_ne h]

/-- The ends behind the counter. -/
lemma register_end_storeRole {request : RegisterReq} {r r' : Redis} {gid : Int64}
    (h0 : r.outcome 0 = .ok) (hnew : r.db (password_key request.account) = none)
    (h1 : r.outcome 1 = .ok) (h2 : r.outcome 2 = .ok)
    (hgid : Redis.incremented r.db gid_key = some gid)
    (hdb : r'.db = Function.update (withPassword request r.db) gid_key (some (decimal gid.toInt)))
    (hout : r'.outcome 0 = r.outcome 3) :
    RegisterEnd env request r
      ((RegisterPoint.prog env request (.storeRole gid.toInt32)).run Redis.exec r').1
      ((RegisterPoint.prog env request (.storeRole gid.toInt32)).run Redis.exec r').2.db := by
  obtain ⟨reply, p, r'', hmove, hrun⟩ := run_move env request (p := .storeRole gid.toInt32) rfl r'
  rw [hrun]
  cases hmove with
  | roleless _ _ h3 =>
      change RegisterEnd env request r _ r'.db
      rw [hdb]
      exact .roleless gid h0 hnew h1 h2 hgid (hout ▸ h3)
  | role _ _ h3 =>
      change RegisterEnd env request r _ (Function.update r'.db _ _)
      rw [hdb]
      exact .stored gid h0 hnew h1 h2 hgid (hout ▸ h3)

/-- The ends behind the password. -/
lemma register_end_nextId {request : RegisterReq} {r r' : Redis} (h0 : r.outcome 0 = .ok)
    (hnew : r.db (password_key request.account) = none) (h1 : r.outcome 1 = .ok)
    (hdb : r'.db = withPassword request r.db) (hout : ∀ n, r'.outcome n = r.outcome (n + 2)) :
    RegisterEnd env request r ((RegisterPoint.prog env request .nextId).run Redis.exec r').1
      ((RegisterPoint.prog env request .nextId).run Redis.exec r').2.db := by
  have hcounter : Redis.incremented r'.db gid_key = Redis.incremented r.db gid_key := by
    rw [hdb, withPassword, Redis.incremented_update _ (password_key_ne_gid_key _).symm]
  obtain ⟨reply, p, r'', hmove, hrun⟩ := run_move env request (p := .nextId) rfl r'
  rw [hrun]
  cases hmove with
  | uncounted _ h2 =>
      rw [hout, hcounter] at h2
      change RegisterEnd env request r _ r'.db
      rw [hdb]
      exact .uncounted h0 hnew h1 h2
  | counted gid h2 hgid =>
      rw [hcounter] at hgid
      exact register_end_storeRole env h0 hnew h1 ((hout 0).symm.trans h2) hgid
        (by rw [hdb]) (hout 1)

/-- **The ends**: a registration ends in one of these five ways. -/
theorem register_end (request : RegisterReq) (r : Redis) :
    RegisterEnd env request r ((MinigameRegisterService env request).run Redis.exec r).1
      ((MinigameRegisterService env request).run Redis.exec r).2.db := by
  change RegisterEnd env request r ((RegisterPoint.prog env request .start).run Redis.exec r).1
    ((RegisterPoint.prog env request .start).run Redis.exec r).2.db
  obtain ⟨reply, p, r₁, hmove, hrun⟩ := run_move env request (p := .start) rfl r
  rw [hrun]
  cases hmove with
  | refused _ h => exact .refused h
  | new h0 hnew =>
      obtain ⟨reply, p, r₂, hmove, hrun⟩ := run_move env request (p := .setPassword) rfl
        ⟨r.db, r.later⟩
      rw [hrun]
      cases hmove with
      | unstored _ h1 => exact .unstored h0 hnew h1
      | password _ h1 => exact register_end_nextId env h0 hnew h1 rfl fun n => rfl

/-- **The exits**: seen from the account, a registration ends in one of four ways. -/
theorem register_exit (request : RegisterReq) (r : Redis) :
    RegisterExit env request r ((MinigameRegisterService env request).run Redis.exec r).1
      ((MinigameRegisterService env request).run Redis.exec r).2.db := by
  have hend := register_end env request r
  generalize ((MinigameRegisterService env request).run Redis.exec r).1 = rsp at hend ⊢
  generalize ((MinigameRegisterService env request).run Redis.exec r).2.db = db at hend ⊢
  have hpassword : withPassword request r.db (password_key request.account)
      = some (c_str request.password) := Function.update_self _ _ _
  cases hend with
  | refused h => exact .refused h
  | unstored h0 hnew h1 => exact .unstored h0 hnew h1
  | uncounted h0 hnew h1 h2 =>
      exact .halfway _ h0 hnew h1 (h2.imp_right .inl) hpassword
        fun key hkey _ => Function.update_of_ne hkey _ _
  | roleless gid h0 hnew h1 h2 hgid h3 =>
      refine .halfway _ h0 hnew h1 (.inr (.inr h3)) ?_ fun key hkey hgidkey => ?_
      · rw [Function.update_of_ne (password_key_ne_gid_key _), hpassword]
      · rw [Function.update_of_ne hgidkey, withPassword, Function.update_of_ne hkey]
  | stored gid h0 hnew h1 h2 hgid h3 => exact .stored gid h0 hnew h1 h2 hgid h3

/-! ### All or nothing -/

/-- A registration is all or nothing: `SUCCEED` with both records of the account in
the store, or both keys as they were, and then a later registration of the account
in a working store goes through. -/
structure AllOrNothing (request : RegisterReq) (r : Redis) (rsp : RegisterRsp)
    (db : Bytes → Option Bytes) : Prop where
  succeed : rsp.error = RegisterRsp.ErrorCode.SUCCEED.number →
    db (password_key request.account) = some (c_str request.password) ∧
      ∃ role, storedRole env db request.account = some role ∧
        role.basic_info.username = request.account
  otherwise : rsp.error ≠ RegisterRsp.ErrorCode.SUCCEED.number →
    db (password_key request.account) = r.db (password_key request.account) ∧
      db (role_key request.account) = r.db (role_key request.account)
  again : rsp.error ≠ RegisterRsp.ErrorCode.SUCCEED.number →
    r.db (password_key request.account) = none →
    ∀ later : Redis, later.Working → Redis.incremented later.db gid_key ≠ none →
      later.db (password_key request.account) = db (password_key request.account) →
      ∀ request' : RegisterReq, request'.account = request.account →
        ((MinigameRegisterService env request').run Redis.exec later).1.error
          = RegisterRsp.ErrorCode.SUCCEED.number

/-- The password has been stored and a later command of the registration fails. -/
def FailsHalfway (request : RegisterReq) (r : Redis) : Prop :=
  r.db (password_key request.account) = none ∧ r.outcome 0 = .ok ∧ r.outcome 1 = .ok ∧
    (r.outcome 2 ≠ .ok ∨ Redis.incremented r.db gid_key = none ∨ r.outcome 3 ≠ .ok)

/-- In a working store a new account is registered. -/
lemma register_working {request : RegisterReq} {r : Redis} (hw : r.Working)
    (hgid : Redis.incremented r.db gid_key ≠ none)
    (hnew : r.db (password_key request.account) = none) :
    ((MinigameRegisterService env request).run Redis.exec r).1.error
      = RegisterRsp.ErrorCode.SUCCEED.number := by
  have hexit := register_exit env request r
  generalize ((MinigameRegisterService env request).run Redis.exec r).1 = rsp at hexit ⊢
  generalize ((MinigameRegisterService env request).run Redis.exec r).2.db = db at hexit
  cases hexit with
  | refused h => exact absurd hnew (h (hw 0))
  | unstored h0 hnew' h1 => exact absurd (hw 1) h1
  | halfway _ h0 hnew' h1 hfail =>
      rcases hfail with h2 | hnone | h3
      · exact absurd (hw 2) h2
      · exact absurd hnone hgid
      · exact absurd (hw 3) h3
  | stored gid => rfl

/-- **All or nothing**: a registration is, exactly when it does not fail behind the
point where the password of a new account has been stored. -/
theorem allOrNothing_iff (request : RegisterReq) (r : Redis) :
    AllOrNothing env request r ((MinigameRegisterService env request).run Redis.exec r).1
        ((MinigameRegisterService env request).run Redis.exec r).2.db
      ↔ ¬ FailsHalfway request r := by
  have hexit := register_exit env request r
  generalize ((MinigameRegisterService env request).run Redis.exec r).1 = rsp at hexit ⊢
  generalize ((MinigameRegisterService env request).run Redis.exec r).2.db = db at hexit ⊢
  have hfailed : RegisterRsp.ErrorCode.UNKOWN_EORROR.number
      ≠ RegisterRsp.ErrorCode.SUCCEED.number := by decide
  have hexists : RegisterRsp.ErrorCode.ACCOUNT_ALREADY_EXIST.number
      ≠ RegisterRsp.ErrorCode.SUCCEED.number := by decide
  cases hexit with
  | refused h =>
      refine iff_of_true ⟨fun hs => absurd hs hexists, fun _ => ⟨rfl, rfl⟩, ?_⟩
        fun ⟨hnone, h0, _⟩ => h h0 hnone
      intro _ hnew later hw hgid hsame request' haccount
      refine register_working env hw hgid ?_
      rw [haccount, hsame, hnew]
  | unstored h0 hnew h1 =>
      refine iff_of_true ⟨fun hs => absurd hs hfailed, fun _ => ⟨rfl, rfl⟩, ?_⟩
        fun ⟨_, _, h1', _⟩ => h1 h1'
      intro _ _ later hw hgid hsame request' haccount
      refine register_working env hw hgid ?_
      rw [haccount, hsame, hnew]
  | halfway _ h0 hnew h1 hfail hpassword hrest =>
      refine iff_of_false (fun hall => ?_) (not_not_intro ⟨hnew, h0, h1, hfail⟩)
      have hsame := (hall.otherwise hfailed).1
      rw [hpassword, hnew] at hsame
      cases hsame
  | stored gid h0 hnew h1 h2 hgid h3 =>
      refine iff_of_true ⟨fun _ => ⟨?_, ?_⟩, fun hne => absurd rfl hne,
        fun hne => absurd rfl hne⟩ ?_
      · exact registered_password env request gid r.db
      · exact ⟨_, storedRole_registered env request gid r.db, rfl⟩
      · rintro ⟨-, -, -, h2' | hnone | h3'⟩
        · exact h2' h2
        · rw [hgid] at hnone
          cases hnone
        · exact h3' h3

/-- An empty store that answers the `incr` with an error: the account is left with
a password and no role. -/
theorem register_failed_incr :
    ¬ AllOrNothing Env.wire { account := "a", password := "p" } ⟨fun _ => none, failsAt 2⟩
      ((MinigameRegisterService Env.wire { account := "a", password := "p" }).run Redis.exec
        ⟨fun _ => none, failsAt 2⟩).1
      ((MinigameRegisterService Env.wire { account := "a", password := "p" }).run Redis.exec
        ⟨fun _ => none, failsAt 2⟩).2.db := by
  intro hall
  have hpassword : ((MinigameRegisterService Env.wire { account := "a", password := "p" }).run
      Redis.exec ⟨fun _ => none, failsAt 2⟩).2.db (password_key "a") = some (c_str "p") := rfl
  have hanswer : ((MinigameRegisterService Env.wire { account := "a", password := "p" }).run
      Redis.exec ⟨fun _ => none, failsAt 2⟩).1 = .answer 0 .UNKOWN_EORROR := rfl
  have hsame := (hall.otherwise (by rw [hanswer]; decide)).1
  rw [hpassword] at hsame
  cases hsame

end LittleB
