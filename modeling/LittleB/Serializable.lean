import LittleB.Foundations.Serving
import LittleB.TaskPrivacy
import LittleB.Threads

/-!
Connections at the same time against connections one after the other.

* `Command.apply`, `perform_eq_apply`: a command reads and writes the value under its key;
  `Conflicts`: two executed commands about one key, one of which writes; the others change
  places, `swaps_of_not_conflicts`;
* `Redis.answering`: a store with the outcomes to come as a list, `happens_answering`;
* `Server.step_serves`, `run_serves`: requests served with nothing in between are a run of
  `Server`;
* `threads_serializable`: **serializability**; `connection_alone`: **isolation**.
-/

namespace LittleB

variable {env : Env} {Addr : Type}

/-! ### Commands that change places -/

/-- What a command replies to the value under its key, and leaves there. -/
def Command.apply (c : Command) (value : Option Bytes) : Reply × Option Bytes :=
  ((Redis.perform c fun _ => value).1, (Redis.perform c fun _ => value).2 c.key)

/-- The command can change the value under its key. -/
def Command.writes : Command → Bool
  | get _ => false
  | set _ _ | incr _ => true

namespace Redis

/-- A command is about the value under its key. -/
lemma perform_eq_apply (c : Command) (db : Bytes → Option Bytes) :
    perform c db
      = ((c.apply (db c.key)).1, Function.update db c.key (c.apply (db c.key)).2) := by
  cases c with
  | get key =>
      cases h : db key with
      | none => simp [Command.apply, Command.key, perform, h]
      | some value => simp [Command.apply, Command.key, perform, h]
  | set key value => simp [Command.apply, Command.key, perform]
  | incr key =>
      have hkey : Function.update db key (db key) = db := Function.update_eq_self key db
      have hsame : incremented (fun _ => db key) key = incremented db key := rfl
      cases h : incremented db key with
      | none =>
          rw [perform_incr_none h, Command.apply, Command.key,
            perform_incr_none (hsame.trans h), hkey]
      | some n =>
          rw [perform_incr_some h, Command.apply, Command.key,
            perform_incr_some (hsame.trans h)]
          simp

/-- A read leaves the value as it is. -/
lemma apply_of_not_writes {c : Command} (h : c.writes = false) (value : Option Bytes) :
    (c.apply value).2 = value := by
  cases c with
  | get key => cases value <;> rfl
  | set key new => cases h
  | incr key => cases h

end Redis

/-- Two commands that cannot change places: both are executed and about one key, which one
of them can change. -/
def Conflicts (e f : Clients.Executed RedisSig Addr Outcome) : Prop :=
  e.choice = .ok ∧ f.choice = .ok ∧ Command.key e.command = Command.key f.command ∧
    (Command.writes e.command = true ∨ Command.writes f.command = true)

/-- **Commuting commands**: commands that do not conflict change places. -/
lemma swaps_of_not_conflicts {e f : Clients.Executed RedisSig Addr Outcome}
    (h : ¬ Conflicts e f) : Swaps (Clients.Executes Redis.execute) e f := by
  obtain ⟨i, m, c, oc, rc⟩ := e
  obtain ⟨j, n, d, od, rd⟩ := f
  intro db db₁ db' hc hd
  simp only [Clients.Executes] at hc hd ⊢
  cases oc with
  | error str =>
      rw [Redis.execute_error] at hc
      obtain ⟨rfl, rfl⟩ := Prod.mk.inj hc
      exact ⟨db', hd, rfl⟩
  | ok =>
      cases od with
      | error str =>
          rw [Redis.execute_error] at hd
          obtain ⟨rfl, rfl⟩ := Prod.mk.inj hd
          exact ⟨db, rfl, hc⟩
      | ok =>
          rw [Redis.execute_ok, Redis.perform_eq_apply] at hc hd
          obtain ⟨rfl, rfl⟩ := Prod.mk.inj hc
          obtain ⟨rfl, rfl⟩ := Prod.mk.inj hd
          refine ⟨(Redis.perform d db).2, ?_⟩
          rw [Redis.execute_ok, Redis.execute_ok, Redis.perform_eq_apply d,
            Redis.perform_eq_apply c]
          by_cases hkey : Command.key c = Command.key d
          · have hreads : Command.writes c = false ∧ Command.writes d = false := by
              by_contra hwrites
              refine h ⟨rfl, rfl, hkey, ?_⟩
              cases hcw : Command.writes c <;> cases hdw : Command.writes d <;> simp_all
            simp only [Redis.apply_of_not_writes hreads.1, Redis.apply_of_not_writes hreads.2,
              Function.update_eq_self]
            exact ⟨trivial, trivial⟩
          · simp only [Function.update_of_ne hkey, Function.update_of_ne (Ne.symm hkey)]
            exact ⟨trivial, Prod.ext rfl (Function.update_comm (Ne.symm hkey) _ _ _)⟩

/-! ### Requests one after the other -/

/-- A store that answers commands with these outcomes, and executes every one behind them. -/
def Redis.answering (outcomes : List Outcome) (db : Bytes → Option Bytes) : Redis :=
  ⟨db, fun n => outcomes.getD n .ok⟩

lemma Redis.answering_of_ok {outcomes : List Outcome} (h : ∀ outcome ∈ outcomes, outcome = .ok)
    (db : Bytes → Option Bytes) : Redis.answering outcomes db = .working db := by
  refine Redis.ext rfl (funext fun n => ?_)
  change outcomes.getD n .ok = .ok
  rw [List.getD_eq_getElem?_getD]
  cases hn : outcomes[n]? with
  | none => rfl
  | some outcome => exact h outcome (List.mem_of_getElem? hn)

/-- Commands that are executed one behind the other are the commands of such a store. -/
lemma happens_answering {es : List (Clients.Executed RedisSig Addr Outcome)}
    {db db' : Bytes → Option Bytes} (h : Happens (Clients.Executes Redis.execute) db es db')
    (later : List Outcome) :
    Happens (fun r e r' => Redis.exec e.1 r = (e.2, r'))
      (.answering (es.map Clients.Executed.choice ++ later) db)
      (es.map Clients.Executed.event) (.answering later db') := by
  induction h with
  | nil db => exact .nil _
  | @cons db db₁ db' e es he hes ih =>
      refine .cons ?_ ih
      have hexec : Redis.execute e.choice e.command db = (e.reply, db₁) := he
      rw [Redis.exec_eq_execute]
      change ((Redis.execute e.choice e.command db).1,
        (⟨(Redis.execute e.choice e.command db).2, _⟩ : Redis)) = _
      rw [hexec]
      rfl

variable [DecidableEq Addr]

namespace Server

/-- **The step**: a request served with nothing in between is a step of the server. -/
lemma step_serves {S : Server Addr} {later : List Outcome}
    {a : Clients.Answered Addr (Option Session) Request Response}
    {es : List (Clients.Executed RedisSig Addr Outcome)}
    {s' : (Addr → Option Session) × (Bytes → Option Bytes)}
    (h : Clients.Serves (fun _ => RoleInjectHandler.serve env) Redis.execute
      (S.role_manager_.roles_, S.redis.db) (a, es) s')
    (hredis : S.redis = .answering (es.map Clients.Executed.choice ++ later) S.redis.db) :
    S.step env (a.client, a.request)
      = ⟨⟨s'.1⟩, .answering later s'.2, (a.client, a.request, a.response) :: S.log⟩ := by
  have hrun := h.follows.run (happens_answering h.commands later)
  rw [step, RoleInjectHandler.read_eq_serve, Prog.run_bind, hredis, hrun, Prog.run_ret, h.own]
  rfl

/-- **The run**: requests served one after the other are a run of the server. -/
lemma run_serves {calls : List (Clients.Answered Addr (Option Session) Request Response ×
      List (Clients.Executed RedisSig Addr Outcome))}
    {s s' : (Addr → Option Session) × (Bytes → Option Bytes)}
    (h : Happens (Clients.Serves (fun _ => RoleInjectHandler.serve env) Redis.execute) s calls s')
    (log : List (Addr × Request × Response)) :
    Server.run env (calls.map fun call => (call.1.client, call.1.request))
        ⟨⟨s.1⟩, .answering (calls.flatMap fun call => call.2.map Clients.Executed.choice) s.2, log⟩
      = ⟨⟨s'.1⟩, .answering [] s'.2,
          (calls.map fun call => (call.1.client, call.1.request, call.1.response)).reverse
            ++ log⟩ := by
  induction h generalizing log with
  | nil s => rfl
  | @cons s s₁ s' call calls hcall hcalls ih =>
      obtain ⟨a, es⟩ := call
      have hstep := step_serves (S := ⟨⟨s.1⟩, .answering
        (es.map Clients.Executed.choice ++ calls.flatMap fun call =>
          call.2.map Clients.Executed.choice) s.2, log⟩) hcall rfl
      rw [List.map_cons, List.flatMap_cons, Server.run, List.foldl_cons, hstep]
      refine (ih ((a.client, a.request, a.response) :: log)).trans ?_
      rw [List.map_cons, List.reverse_cons, List.append_assoc]
      rfl

end Server

/-! ### Connections at the same time -/

section Threads

variable (env)
variable (role_manager_ : RoleinfoManager Addr) (db : Bytes → Option Bytes)
  (moves : List (Threads.Move Addr))

/-- The server that handles the requests of these answers one after the other, the store
answering every command as it was answered among the others. -/
def Threads.replay (T : Threads Addr)
    (order : List (Clients.Answered Addr (Option Session) Request Response)) : Server Addr :=
  Server.run env (order.map fun a => (a.client, a.request))
    ⟨role_manager_, .answering (order.flatMap fun a =>
      (T.commandsOf a.call).map Clients.Executed.choice) db, []⟩

/-- The log of a server that has given these answers, the last one first. -/
def answerLog (answers : List (Clients.Answered Addr (Option Session) Request Response)) :
    List (Addr × Request × Response) :=
  (answers.map fun a => (a.client, a.request, a.response)).reverse

/-- Requests served with nothing in between are the run of the server that replays them. -/
lemma replay_serves {T : Threads Addr}
    {order : List (Clients.Answered Addr (Option Session) Request Response)}
    {s : (Addr → Option Session) × (Bytes → Option Bytes)}
    (h : Happens (Clients.Serves (fun _ => RoleInjectHandler.serve env) Redis.execute)
      (role_manager_.roles_, db) (order.map fun a => (a, T.commandsOf a.call)) s) :
    Threads.replay env role_manager_ db T order = ⟨⟨s.1⟩, .working s.2, answerLog order⟩ := by
  have hrun := Server.run_serves h []
  rw [List.map_map, List.flatMap_map, List.map_map, List.append_nil] at hrun
  refine hrun.trans ?_
  rw [Redis.answering_of_ok fun outcome h => absurd h List.not_mem_nil]
  rfl

/-- **Serializability**: when the connections have been answered, and an order of their
requests keeps those of every connection and is contradicted by no two commands about one
key of which one writes, then the server that handles the requests one after the other in
this order gives the same answers, and ends with the same roles and the same store. -/
theorem threads_serializable
    (hidle : ∀ addr, (Threads.run env moves (.start role_manager_ db)).running addr = none)
    (order : List (Clients.Answered Addr (Option Session) Request Response))
    (horder : Clients.SerialOrder Conflicts
      (Threads.run env moves (.start role_manager_ db)) order) :
    Threads.replay env role_manager_ db (Threads.run env moves (.start role_manager_ db)) order
      = ⟨⟨(Threads.run env moves (.start role_manager_ db)).own⟩,
          .working (Threads.run env moves (.start role_manager_ db)).shared, answerLog order⟩ := by
  have hserves := horder.serves (fun e f h => swaps_of_not_conflicts h)
    (Threads.sound_run env role_manager_ db moves) hidle
  exact replay_serves env role_manager_ db hserves

/-- A query between the read and the write of an update. -/
def queryDuringUpdate : List (Threads.Move Bool) :=
  [.receive false (.UPDATE_TASK { finished_task_ids := [7] }), .receive true (.QUERY_TASK {}),
    .command false .ok, .command true .ok, .command false .ok, .answer false, .answer true]

/-- The server behind it. -/
def queriedDuringUpdate : Threads Bool :=
  Threads.run Env.wire queryDuringUpdate (.start ⟨fun _ => none⟩ fun _ => none)

/-- The query first. -/
def queryThenUpdate : List (Clients.Answered Bool (Option Session) Request Response) :=
  [⟨true, 0, .QUERY_TASK {}, none, .QUERY_TASK (.failure 0), none⟩,
    ⟨false, 0, .UPDATE_TASK { finished_task_ids := [7] }, none, .UPDATE_TASK (.answer 0 .SUCCEED),
      none⟩]

lemma queriedDuringUpdate_idle : ∀ addr, queriedDuringUpdate.running addr = none := by
  intro addr
  cases addr with
  | false => rfl
  | true => rfl

lemma queriedDuringUpdate_executed : queriedDuringUpdate.executed =
    [⟨false, 0, Command.get (taskinfo_key 0), .ok, .nil⟩,
      ⟨true, 0, Command.get (taskinfo_key 0), .ok, .nil⟩,
      ⟨false, 0, Command.set (taskinfo_key 0) (Env.wire.dbTaskInfo.SerializeToString
        (({} : DBTaskInfo).update Env.wire { finished_task_ids := [7] })), .ok,
        .status (Bytes.ofString "OK")⟩] := rfl

lemma serialOrder_queryThenUpdate :
    Clients.SerialOrder Conflicts queriedDuringUpdate queryThenUpdate := by
  constructor
  case answers =>
    intro addr
    cases addr with
    | false => rfl
    | true => rfl
  case conflicts =>
    rw [queriedDuringUpdate_executed]
    simp [queryThenUpdate, Conflicts, Clients.Executed.call, Clients.Answered.call, Command.writes]

/-- The query is answered as if it came before the update. -/
theorem threads_serializable_query_first :
    ((∀ addr, queriedDuringUpdate.running addr = none) ∧
      Clients.SerialOrder Conflicts queriedDuringUpdate queryThenUpdate) ∧
    Threads.replay Env.wire ⟨fun _ => none⟩ (fun _ => none) queriedDuringUpdate queryThenUpdate
      = ⟨⟨queriedDuringUpdate.own⟩, .working queriedDuringUpdate.shared,
          answerLog queryThenUpdate⟩ :=
  ⟨⟨queriedDuringUpdate_idle, serialOrder_queryThenUpdate⟩,
    threads_serializable Env.wire ⟨fun _ => none⟩ (fun _ => none) queryDuringUpdate
      queriedDuringUpdate_idle queryThenUpdate serialOrder_queryThenUpdate⟩

/-- **Isolation**: a connection whose commands conflict with no earlier command of another
one is answered as if it were alone with the server. -/
theorem connection_alone (addr : Addr)
    (hidle : (Threads.run env moves (.start role_manager_ db)).running addr = none)
    (hothers : (Threads.run env moves (.start role_manager_ db)).executed.Pairwise fun e f =>
      e.client ≠ addr → f.client = addr → ¬ Conflicts e f) :
    (Threads.replay env role_manager_ db (Threads.run env moves (.start role_manager_ db))
        ((Threads.run env moves (.start role_manager_ db)).answersOf addr)).log
      = answerLog ((Threads.run env moves (.start role_manager_ db)).answersOf addr) ∧
    (Threads.replay env role_manager_ db (Threads.run env moves (.start role_manager_ db))
        ((Threads.run env moves (.start role_manager_ db)).answersOf addr)).role_manager_.roles_
      = Function.update role_manager_.roles_ addr
          ((Threads.run env moves (.start role_manager_ db)).own addr) := by
  have hswaps := hothers.imp fun {e f} h he hf => swaps_of_not_conflicts (h he hf)
  obtain ⟨s, hserves⟩ := (Threads.sound_run env role_manager_ db moves).alone hidle hswaps
  rw [replay_serves env role_manager_ db hserves]
  exact ⟨rfl, rfl⟩

/-- The query alone. -/
theorem connection_alone_query :
    (queriedDuringUpdate.running true = none ∧
      queriedDuringUpdate.executed.Pairwise fun e f =>
        e.client ≠ true → f.client = true → ¬ Conflicts e f) ∧
    (Threads.replay Env.wire ⟨fun _ => none⟩ (fun _ => none) queriedDuringUpdate
        (queriedDuringUpdate.answersOf true)).log = answerLog (queriedDuringUpdate.answersOf true) ∧
    (Threads.replay Env.wire ⟨fun _ => none⟩ (fun _ => none) queriedDuringUpdate
        (queriedDuringUpdate.answersOf true)).role_manager_.roles_
      = Function.update (fun _ => none) true (queriedDuringUpdate.own true) := by
  have hothers : queriedDuringUpdate.executed.Pairwise fun e f =>
      e.client ≠ true → f.client = true → ¬ Conflicts e f := by
    rw [queriedDuringUpdate_executed]
    simp [Conflicts, Command.writes]
  exact ⟨⟨rfl, hothers⟩, connection_alone Env.wire ⟨fun _ => none⟩ (fun _ => none)
    queryDuringUpdate true rfl hothers⟩

end Threads

end LittleB
