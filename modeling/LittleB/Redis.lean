import LittleB.Foundations.Bytes
import LittleB.Foundations.Pool

/-!
The store behind `libsrc/sync_redis_wrapper.h`, as far as the server uses it.

* `Reply`: what the code reads of a `redisReply`;
* `Command`: the commands the server issues, keys and values already formatted;
  `password_key`, `role_key`, `taskinfo_key` and `gid_key` are the keys, the
  account names going through C strings, with `password_key_ne_role_key` and the
  like: the families do not meet;
* `Redis`: the stored strings and, for the commands to come, which of them are
  answered with an error; `Redis.exec` executes one command, `Redis.perform` what
  it does when it is not answered with an error;
* `Working`, `working`: every command from now on is executed; `failsAt`: one of them
  is not;
* `runCalls`: calls that run at the same time, their commands in any order;
  `ReadsApart`: no key is read between another call's read and its write of it, the
  condition on a step that the results about such runs share, and
  `runCalls_invariant` the rule they rest on.

`RedisCommand` holds `redis_lock_` for the length of a command, so a command is one
step.  It asserts that the connection is up; a broken one is not modelled.
-/

namespace LittleB

open Bytes

/-! ### Commands and replies -/

/-- The type of a reply. -/
inductive ReplyType where
  | REDIS_REPLY_STRING
  | REDIS_REPLY_NIL
  | REDIS_REPLY_STATUS
  | REDIS_REPLY_INTEGER
  | REDIS_REPLY_ERROR
  deriving DecidableEq, Repr

/-- A reply of the store. -/
inductive Reply where
  | string (str : Bytes)
  | nil
  | status (str : Bytes)
  | integer (n : Int64)
  | error (str : Bytes)
  deriving DecidableEq, Repr

namespace Reply

def type : Reply → ReplyType
  | string _ => .REDIS_REPLY_STRING
  | nil => .REDIS_REPLY_NIL
  | status _ => .REDIS_REPLY_STATUS
  | integer _ => .REDIS_REPLY_INTEGER
  | error _ => .REDIS_REPLY_ERROR

/-- The octets at `str`, none of them where there is no text. -/
def str : Reply → Bytes
  | string s => s
  | status s => s
  | error s => s
  | nil => []
  | integer _ => []

/-- The field `integer`, zero unless the reply is a number. -/
def integer' : Reply → Int64
  | integer n => n
  | _ => 0

end Reply

/-- The commands of the server. -/
inductive Command where
  | get (key : Bytes)
  | set (key value : Bytes)
  | incr (key : Bytes)
  deriving DecidableEq, Repr

/-- Programs over the store. -/
abbrev RedisSig : Signature := ⟨Command, fun _ => Reply⟩

/-- `SyncRedisWrapper::RedisCommand`. -/
def RedisCommand (c : Command) : Prog RedisSig Reply := Prog.call c

lemma view_RedisCommand_bind {α : Type} (c : Command) (f : Reply → Prog RedisSig α) :
    (RedisCommand c >>= f).view = .ask c f := rfl

/-! ### Keys -/

/-- A text as `%s` formats it. -/
def c_str (s : String) : Bytes := cstr (ofString s)

/-- `__password_%s`. -/
def password_key (username : String) : Bytes := ofString "__password_" ++ c_str username

/-- `__role_%s`. -/
def role_key (username : String) : Bytes := ofString "__role_" ++ c_str username

/-- `__taskinfo_%s`, the number as `std::to_string` writes it. -/
def taskinfo_key (gid : Int32) : Bytes := ofString "__taskinfo_" ++ decimal gid.toInt

/-- The counter of player ids. -/
def gid_key : Bytes := ofString "gid"

/-- Keys that differ in their first three octets differ. -/
lemma key_ne {f g a b : Bytes} (h : 3 ≤ f.length ∧ 3 ≤ g.length ∧ f.take 3 ≠ g.take 3) :
    f ++ a ≠ g ++ b := by
  obtain ⟨hf, hg, hne⟩ := h
  intro heq
  have h3 := congrArg (List.take 3) heq
  rw [List.take_append_of_le_length hf, List.take_append_of_le_length hg] at h3
  exact hne h3

/-- The counter is no key of a family. -/
lemma key_ne_gid_key {f a : Bytes}
    (h : 3 ≤ f.length ∧ 3 ≤ gid_key.length ∧ f.take 3 ≠ gid_key.take 3) : f ++ a ≠ gid_key := by
  have hne : f ++ a ≠ gid_key ++ [] := key_ne h
  rwa [List.append_nil] at hne

lemma password_key_ne_role_key (u v : String) : password_key u ≠ role_key v := key_ne (by decide)

lemma password_key_ne_gid_key (u : String) : password_key u ≠ gid_key := key_ne_gid_key (by decide)

lemma role_key_ne_gid_key (u : String) : role_key u ≠ gid_key := key_ne_gid_key (by decide)

lemma taskinfo_key_ne_password_key (g : Int32) (u : String) : taskinfo_key g ≠ password_key u :=
  key_ne (by decide)

lemma taskinfo_key_ne_role_key (g : Int32) (u : String) : taskinfo_key g ≠ role_key u :=
  key_ne (by decide)

lemma taskinfo_key_ne_gid_key (g : Int32) : taskinfo_key g ≠ gid_key := key_ne_gid_key (by decide)

/-- Accounts share a key exactly when they are the same C string. -/
lemma role_key_inj {u v : String} : role_key u = role_key v ↔ c_str u = c_str v :=
  List.append_right_inj _

lemma password_key_inj {u v : String} : password_key u = password_key v ↔ c_str u = c_str v :=
  List.append_right_inj _

/-- Players do not share keys. -/
lemma taskinfo_key_inj {g h : Int32} : taskinfo_key g = taskinfo_key h ↔ g = h := by
  refine ⟨fun heq => ?_, fun heq => by rw [heq]⟩
  have hdec := (List.append_right_inj _).mp heq
  exact Int32.toInt_inj.mp (decimal_injective hdec)

/-! ### The store -/

/-- Whether a command is executed or answered with an error. -/
inductive Outcome where
  | ok
  | error (str : Bytes)
  deriving DecidableEq, Repr

/-- The stored strings and the outcomes of the commands to come. -/
@[ext] structure Redis where
  db : Bytes → Option Bytes
  outcome : ℕ → Outcome

/-- Only the command with the given number is answered with an error. -/
def failsAt (k : ℕ) : ℕ → Outcome := fun n =>
  if n = k then .error (ofString "ERR") else .ok

namespace Redis

/-- The outcomes behind the next one. -/
def later (r : Redis) : ℕ → Outcome := fun n => r.outcome (n + 1)

/-- The number `incr` stores, when the value under the key is a number and not the
largest one. -/
def incremented (db : Bytes → Option Bytes) (key : Bytes) : Option Int64 :=
  match db key with
  | none => some 1
  | some value =>
      match ofDecimal value with
      | none => none
      | some n => if -2 ^ 63 ≤ n ∧ n + 1 < 2 ^ 63 then some (Int64.ofInt (n + 1)) else none

/-- What a command does and replies when it is executed. -/
def perform (c : Command) (db : Bytes → Option Bytes) : Reply × (Bytes → Option Bytes) :=
  match c with
  | .get key =>
      match db key with
      | none => (.nil, db)
      | some value => (.string value, db)
  | .set key value => (.status (ofString "OK"), Function.update db key (some value))
  | .incr key =>
      match incremented db key with
      | none => (.error (ofString "ERR value is not an integer or out of range"), db)
      | some n => (.integer n, Function.update db key (some (decimal n.toInt)))

/-- One command: its outcome is taken off the front of those to come. -/
def exec : Semantics RedisSig Redis := fun (c : Command) r =>
  match r.outcome 0 with
  | .ok => ((perform c r.db).1, ⟨(perform c r.db).2, r.later⟩)
  | .error str => (.error str, ⟨r.db, r.later⟩)

variable {r : Redis}

/-- Running a program that starts with a command. -/
lemma run_bind {α : Type} (c : Command) (f : Reply → Prog RedisSig α) (r : Redis) :
    (RedisCommand c >>= f).run exec r = (f (exec c r).1).run exec (exec c r).2 := rfl

lemma exec_ok (h : r.outcome 0 = .ok) (c : Command) :
    exec c r = ((perform c r.db).1, ⟨(perform c r.db).2, r.later⟩) := by
  simp only [exec, h]

lemma exec_error {str : Bytes} (h : r.outcome 0 = .error str) (c : Command) :
    exec c r = (.error str, ⟨r.db, r.later⟩) := by
  simp only [exec, h]

@[simp] lemma perform_get_none {db : Bytes → Option Bytes} {key : Bytes} (h : db key = none) :
    perform (.get key) db = (.nil, db) := by
  simp only [perform, h]

@[simp] lemma perform_get_some {db : Bytes → Option Bytes} {key value : Bytes}
    (h : db key = some value) : perform (.get key) db = (.string value, db) := by
  simp only [perform, h]

/-- Reading leaves the store as it is. -/
@[simp] lemma perform_get_snd (db : Bytes → Option Bytes) (key : Bytes) :
    (perform (.get key) db).2 = db := by
  cases h : db key with
  | none => rw [perform_get_none h]
  | some value => rw [perform_get_some h]

/-- A read leaves the store as it is, whatever its outcome. -/
lemma exec_get_snd (key : Bytes) (r : Redis) : (exec (.get key) r).2 = ⟨r.db, r.later⟩ := by
  cases h : r.outcome 0 with
  | ok => rw [exec_ok h, perform_get_snd]
  | error str => rw [exec_error h]

/-- A write that is executed puts the value under the key. -/
lemma exec_set_db (key value : Bytes) (r : Redis) :
    (exec (.set key value) r).2.db
      = if r.outcome 0 = .ok then Function.update r.db key (some value) else r.db := by
  cases h : r.outcome 0 with
  | ok => rw [exec_ok h, if_pos rfl]; rfl
  | error str => rw [exec_error h, if_neg (by simp)]

lemma perform_incr_none {db : Bytes → Option Bytes} {key : Bytes} (h : incremented db key = none) :
    perform (.incr key) db
      = (.error (ofString "ERR value is not an integer or out of range"), db) := by
  simp only [perform, h]

lemma perform_incr_some {db : Bytes → Option Bytes} {key : Bytes} {n : Int64}
    (h : incremented db key = some n) :
    perform (.incr key) db = (.integer n, Function.update db key (some (decimal n.toInt))) := by
  simp only [perform, h]

/-! ### A working store -/

/-- Every command from now on is executed. -/
def Working (r : Redis) : Prop := ∀ n, r.outcome n = .ok

/-- A store that executes every command. -/
def working (db : Bytes → Option Bytes) : Redis := ⟨db, fun _ => .ok⟩

lemma Working.eq_working (h : Working r) : r = working r.db :=
  Redis.ext rfl (funext h)

/-- A store that executes every command goes on doing so. -/
lemma Working.run {α : Type} {r : Redis} (h : Working r) (p : Prog RedisSig α) :
    Working (p.run exec r).2 := by
  induction p generalizing r with
  | ret a => exact h
  | ask c k ih =>
      rw [Prog.run_ask, exec_ok (h 0)]
      exact ih _ fun n => h (n + 1)

lemma exec_working (db : Bytes → Option Bytes) (c : Command) :
    exec c (working db) = ((perform c db).1, working (perform c db).2) :=
  exec_ok rfl c

end Redis

/-! ### Calls that run at the same time -/

section Calls

variable {ι α : Type}

/-- The next command of a call. -/
def nextCommand (P : Pool RedisSig ι (Prog RedisSig α) Redis) (i : ι) : Option Command :=
  (P.proc i).view.next

/-- The command the call `i` is about to issue does not read a key that another
call is about to write. -/
def ReadsApart (i : ι) (P : Pool RedisSig ι (Prog RedisSig α) Redis) : Prop :=
  ∀ key, nextCommand P i = some (.get key) →
    ∀ j, j ≠ i → ∀ value, nextCommand P j ≠ some (.set key value)

variable [DecidableEq ι]

/-- The run of a schedule. -/
abbrev runCalls (sched : List ι) (P : Pool RedisSig ι (Prog RedisSig α) Redis) :
    Pool RedisSig ι (Prog RedisSig α) Redis :=
  P.run (fun _ p => p.view) Redis.exec sched

/-- Every step of the schedule reads apart. -/
abbrev ReadsApartAlong (sched : List ι) (P : Pool RedisSig ι (Prog RedisSig α) Redis) : Prop :=
  Pool.Guarded (fun _ p => p.view) Redis.exec ReadsApart sched P

variable {π : Type} {next : ι → π → View RedisSig α π} {prog : ι → π → Prog RedisSig α}
  (hpoints : ∀ i, Describes (next i) (prog i))

include hpoints

omit [DecidableEq ι] in
/-- The next command of a call is that of its control point. -/
lemma nextCommand_map (P : Pool RedisSig ι π Redis) (i : ι) :
    nextCommand (P.map prog) i = (next i (P.proc i)).next := by
  rw [nextCommand, Pool.map, hpoints i, View.next_map]

/-- What every step that reads apart keeps of the control points, every schedule
whose steps all do keeps of them. -/
theorem runCalls_invariant {I : Pool RedisSig ι π Redis → Prop}
    (hstep : ∀ i P, ReadsApart i (P.map prog) → I P → I (P.step next Redis.exec i))
    {sched : List ι} {P : Pool RedisSig ι π Redis} (hapart : ReadsApartAlong sched (P.map prog))
    (hP : I P) : ∃ P', runCalls sched (P.map prog) = P'.map prog ∧ I P' :=
  Pool.run_guarded Redis.exec hpoints hstep hapart hP

end Calls

end LittleB
