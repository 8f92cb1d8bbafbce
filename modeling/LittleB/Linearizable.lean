import LittleB.Serializable
import LittleB.Tasks

/-!
Task requests of any number of connections at the same time.

* `serve_UPDATE_TASK`, `serve_QUERY_TASK`: an update is a read and a write of the record of
  its player, a query a read;
* `Undisturbed`: no record is read between another update's read and its write of it;
* `Threads.lastCommand_order`: then the requests come one after the other in the order of
  their last commands;
* `tasks_linearizable`: **linearizability**: every query answers what the updates before it
  in this order have finished.
-/

namespace LittleB

variable {env : Env} {Addr : Type}

/-! ### The commands of a task request -/

/-- The requests about tasks. -/
def Request.isTask : Request → Bool
  | QUERY_TASK _ | UPDATE_TASK _ => true
  | LOGIN _ | REGISTER _ | ERASE_ROLE _ => false

/-- The role a request is handed on with. -/
def sessionRole (session : Option Session) : RoleInfo := (session.map Session.role).getD {}

/-- The key of the task record of a connection. -/
def sessionKey (session : Option Session) : Bytes :=
  taskinfo_key (sessionRole session).basic_info.player_id

lemma session_map_role (session : Option Session) :
    (session.map fun s => { s with role := sessionRole session }) = session := by
  cases session <;> rfl

/-- An update over an empty cache. -/
lemma serve_UPDATE_TASK (session : Option Session) (req : TaskUpdateReq) :
    RoleInjectHandler.serve env session (.UPDATE_TASK req)
      = .ask (.get (sessionKey session)) fun reply =>
          .ask (.set (sessionKey session) (env.dbTaskInfo.SerializeToString
            ((UpdatePoint.pulledInfo env reply).update env req))) fun _ =>
              .ret (.UPDATE_TASK (.answer req.rpcid .SUCCEED), session) := by
  have hpush : UpdatePoint.prog env (sessionRole session) req .start
      = .ask (.get (sessionKey session)) fun reply =>
          UpdatePoint.prog env (sessionRole session) req
            (.push ((UpdatePoint.pulledInfo env reply).update env req)) :=
    (UpdatePoint.describes env (sessionRole session) req).eq_ask rfl
  rw [RoleInjectHandler.serve_handedOn env rfl]
  change (UpdatePoint.prog env (sessionRole session) req .start >>= fun rsp =>
    Prog.ret (Response.UPDATE_TASK rsp, sessionRole session)) >>= _ = _
  rw [hpush]
  refine congrArg (Prog.ask _) (funext fun reply => congrArg (Prog.ask _) (funext fun _ => ?_))
  exact congrArg (fun s => Prog.ret (_, s)) (session_map_role session)

/-- A query over an empty cache. -/
lemma serve_QUERY_TASK (session : Option Session) (req : TaskQueryReq) :
    RoleInjectHandler.serve env session (.QUERY_TASK req)
      = .ask (.get (sessionKey session)) fun reply : Reply =>
          .ret (.QUERY_TASK (if reply.type = .REDIS_REPLY_NIL then .failure req.rpcid
            else .ofTaskInfo req.rpcid (env.dbTaskInfo.ParseFromArray reply.str).2), session) := by
  rw [RoleInjectHandler.serve_handedOn env rfl]
  refine congrArg (Prog.ask _) (funext fun reply => ?_)
  change Reply at reply
  by_cases hnil : reply.type = .REDIS_REPLY_NIL
  · simp only [hnil, if_true, Prog.bind, Prog.pure_eq]
    exact congrArg (fun s => Prog.ret (_, s)) (session_map_role session)
  · simp only [hnil, if_false, TaskDataManager.TaskInfoExist_empty, Bool.false_eq_true, Prog.bind,
      Prog.pure_eq, not_true, TaskDataManager.GetTaskInfo_put]
    exact congrArg (fun s => Prog.ret (_, s)) (session_map_role session)

/-- The commands of an answered task request: a read of one record, and behind it a write of
the same one if it is an update. -/
lemma exists_task_commands {a : Clients.Answered Addr (Option Session) Request Response}
    (htask : a.request.isTask) {es : List (Clients.Executed RedisSig Addr Outcome)}
    (h : (RoleInjectHandler.serve env a.found a.request).Follows
      (es.map Clients.Executed.event) (.ret (a.response, a.left))) :
    ∃ x, x.command = .get (sessionKey a.found) ∧
      (es = [x] ∨ ∃ z value, es = [x, z] ∧ z.command = .set (sessionKey a.found) value) := by
  have hevent {e : Clients.Executed RedisSig Addr Outcome} {c : Command} {r : Reply}
      (he : e.event = ⟨c, r⟩) : e.command = c := congrArg Sigma.fst he
  generalize hrequest : a.request = request at htask h
  cases request with
  | LOGIN req => cases htask
  | REGISTER req => cases htask
  | ERASE_ROLE req => cases htask
  | QUERY_TASK req =>
      rw [serve_QUERY_TASK, Prog.follows_ask_iff] at h
      obtain ⟨r, later, hes, hlater⟩ := h
      obtain ⟨rfl, -⟩ := Prog.follows_ret_iff.mp hlater
      obtain ⟨x, es', rfl, hx, hnil⟩ := List.map_eq_cons_iff.mp hes
      obtain rfl := List.map_eq_nil_iff.mp hnil
      exact ⟨x, hevent hx, .inl rfl⟩
  | UPDATE_TASK req =>
      rw [serve_UPDATE_TASK, Prog.follows_ask_iff] at h
      obtain ⟨r, later, hes, hlater⟩ := h
      obtain ⟨r', later', rfl, hlater'⟩ := Prog.follows_ask_iff.mp hlater
      obtain ⟨rfl, -⟩ := Prog.follows_ret_iff.mp hlater'
      obtain ⟨x, es', rfl, hx, hrest⟩ := List.map_eq_cons_iff.mp hes
      obtain ⟨z, es'', rfl, hz, hnil⟩ := List.map_eq_cons_iff.mp hrest
      obtain rfl := List.map_eq_nil_iff.mp hnil
      exact ⟨x, hevent hx, .inr ⟨z, _, rfl, hevent hz⟩⟩

/-! ### The order of the last commands -/

variable [DecidableEq Addr]

/-- No record is read between the read and the write of it that another call makes. -/
def Undisturbed (T : Threads Addr) : Prop :=
  ∀ (i j k : ℕ) (x y z : Clients.Executed RedisSig Addr Outcome), i < j → j < k →
    T.executed[i]? = some x → T.executed[j]? = some y → T.executed[k]? = some z →
    z.call = x.call → y.call ≠ x.call →
    ∀ key value, x.command = Command.get key → z.command = Command.set key value →
      y.command ≠ Command.get key

namespace Threads

variable {role_manager_ : RoleinfoManager Addr} {T₀ T : Threads Addr}

/-- Two commands of one call are among its commands in their order. -/
lemma sublist_commandsOf {i j : ℕ} {e f : Clients.Executed RedisSig Addr Outcome}
    (hij : i < j) (hi : T.executed[i]? = some e) (hj : T.executed[j]? = some f)
    (hcall : f.call = e.call) : [e, f].Sublist (T.commandsOf e.call) := by
  have hfilter := (pair_sublist_iff.mpr ⟨i, j, hij, hi, hj⟩).filter
    fun x => decide (x.call = e.call)
  rwa [List.filter_eq_self.mpr (by simp [hcall])] at hfilter

/-- The calls of a server that handles task requests only: one read of a record, and behind
it one write of the same record for an update. -/
structure TaskCalls (T : Threads Addr) : Prop where
  shape : ∀ e ∈ T.executed, ∃ key x, x.command = Command.get key ∧
    (T.commandsOf e.call = [x] ∨
      ∃ z value, T.commandsOf e.call = [x, z] ∧ z.command = Command.set key value)

namespace TaskCalls

variable {i j n : ℕ} {e f : Clients.Executed RedisSig Addr Outcome}

/-- Two commands of one call are a read and a write of one record. -/
lemma pair (h : TaskCalls T) (hij : i < j) (hi : T.executed[i]? = some e)
    (hj : T.executed[j]? = some f) (hcall : f.call = e.call) :
    ∃ key value, e.command = Command.get key ∧ f.command = Command.set key value := by
  have hsub := sublist_commandsOf hij hi hj hcall
  obtain ⟨key, x, hx, hone | ⟨z, value, htwo, hz⟩⟩ := h.shape e (List.mem_of_getElem? hi)
  · rw [hone] at hsub
    exact absurd hsub.length_le (by simp)
  · rw [htwo] at hsub
    obtain ⟨rfl, hrest⟩ := List.cons_eq_cons.mp (hsub.eq_of_length rfl)
    obtain ⟨rfl, -⟩ := List.cons_eq_cons.mp hrest
    exact ⟨key, value, hx, hz⟩

/-- A write is the last command of its call. -/
lemma finished_of_writes (h : TaskCalls T) (hn : T.executed[n]? = some e)
    (hwrites : Command.writes e.command = true) : T.finished e.call = n + 1 := by
  obtain ⟨m, f, hm, hcall, hfinished, hle⟩ := Clients.exists_finished hn
  rcases hle.eq_or_lt with rfl | hlt
  · exact hfinished
  · obtain ⟨key, value, hget, -⟩ := h.pair hlt hn hm hcall
    rw [hget] at hwrites
    cases hwrites

/-- A command that is not the last of its call is a read, with the write behind it. -/
lemma exists_write (h : TaskCalls T) (hn : T.executed[n]? = some e)
    (hlast : T.finished e.call ≠ n + 1) :
    ∃ m z key value, n < m ∧ T.executed[m]? = some z ∧ z.call = e.call ∧
      T.finished e.call = m + 1 ∧ e.command = Command.get key ∧
      z.command = Command.set key value := by
  obtain ⟨m, z, hm, hcall, hfinished, hle⟩ := Clients.exists_finished hn
  have hlt : n < m := hle.lt_of_ne fun heq => hlast (heq ▸ hfinished)
  obtain ⟨key, value, hget, hset⟩ := h.pair hlt hn hm hcall
  exact ⟨m, z, key, value, hlt, hm, hcall, hfinished, hget, hset⟩

/-- A write has the read of its record before it. -/
lemma exists_read (h : TaskCalls T) (hn : T.executed[n]? = some e)
    (hwrites : Command.writes e.command = true) :
    ∃ m x key value, m < n ∧ T.executed[m]? = some x ∧ x.call = e.call ∧
      x.command = Command.get key ∧ e.command = Command.set key value := by
  have hmem := List.mem_of_getElem? hn
  have hself : e ∈ T.commandsOf e.call := List.mem_filter.mpr ⟨hmem, by simp⟩
  obtain ⟨key, x, hx, hone | ⟨z, value, htwo, hz⟩⟩ := h.shape e hmem
  · rw [hone] at hself
    obtain rfl := List.mem_singleton.mp hself
    rw [hx] at hwrites
    cases hwrites
  · have hsub : [x, z].Sublist T.executed := htwo ▸ List.filter_sublist
    obtain ⟨m, n', hlt, hm, hn'⟩ := pair_sublist_iff.mp hsub
    have hcalls : ∀ y ∈ [x, z], y.call = e.call := by
      rw [← htwo]
      exact fun y hy => of_decide_eq_true (List.mem_filter.mp hy).2
    have hzlast := h.finished_of_writes hn' (by rw [hz]; rfl)
    rw [hcalls z (by simp), h.finished_of_writes hn hwrites] at hzlast
    obtain rfl : n = n' := Nat.succ.inj hzlast
    rw [hn'] at hn
    obtain rfl := Option.some_inj.mp hn
    exact ⟨m, x, key, value, hlt, hm, hcalls x (by simp), hx, hz⟩

/-- A command that conflicts with a later one of another call belongs to a call that
finishes before the other one. -/
lemma finished_lt (h : TaskCalls T) (hapart : Undisturbed T) (hij : i < j)
    (hi : T.executed[i]? = some e) (hj : T.executed[j]? = some f) (hne : e.call ≠ f.call)
    (hconflict : Conflicts e f) : T.finished e.call < T.finished f.call := by
  obtain ⟨-, -, hkey, hwrites⟩ := hconflict
  by_contra hnot
  have hlt : T.finished f.call < T.finished e.call :=
    (not_lt.mp hnot).lt_of_ne (Clients.finished_ne hj hi hne.symm)
  have hjf := Clients.lt_finished hj
  -- so the first command is a read, and its call writes behind the other call
  obtain ⟨m, z, key, value, him, hm, hzcall, hfinished, hget, hset⟩ :=
    h.exists_write hi (by omega)
  have hfwrites : Command.writes f.command = true := by
    rcases hwrites with he | hf
    · rw [hget] at he
      cases he
    · exact hf
  obtain ⟨l, g, key', value', hlj, hl, hgcall, hgget, hfset⟩ := h.exists_read hj hfwrites
  have hkeys : key = key' := by
    rw [hget, hfset] at hkey
    exact hkey
  subst hkeys
  have hjm : j < m := by
    rw [h.finished_of_writes hj hfwrites, hfinished] at hlt
    omega
  have hgne : g.call ≠ e.call := fun heq => hne (heq.symm.trans hgcall)
  rcases lt_trichotomy l i with hli | rfl | hil
  · exact hapart l i j g e f hli hij hl hi hj hgcall.symm hgne.symm key value' hgget hfset hget
  · rw [hi] at hl
    exact hgne (congrArg Clients.Executed.call (Option.some_inj.mp hl).symm)
  · exact hapart i l m e g z hil (hlj.trans hjm) hi hl hm hzcall hgne key value hget hset hgget

end TaskCalls

/-- The calls of a run that has answered task requests only. -/
lemma taskCalls (h : Clients.Sound (fun _ => RoleInjectHandler.serve env) Redis.execute T₀ T)
    (hidle : ∀ addr, T.running addr = none) (htasks : ∀ a ∈ T.answered, a.request.isTask) :
    TaskCalls T := by
  refine ⟨fun e he => ?_⟩
  obtain ⟨a, ha, hcall⟩ := h.exists_answer he (hidle _)
  have hmem := List.mem_of_mem_filter ha
  obtain ⟨x, hx, hcommands⟩ := exists_task_commands (htasks a hmem) (h.answered a hmem)
  rw [hcall] at hcommands
  exact ⟨_, x, hx, hcommands⟩

/-- An answer to a task request has had a command executed. -/
lemma exists_command (h : Clients.Sound (fun _ => RoleInjectHandler.serve env) Redis.execute T₀ T)
    (htasks : ∀ a ∈ T.answered, a.request.isTask)
    {a : Clients.Answered Addr (Option Session) Request Response} (ha : a ∈ T.answered) :
    ∃ (n : ℕ) (e : Clients.Executed RedisSig Addr Outcome),
      T.executed[n]? = some e ∧ e.call = a.call := by
  obtain ⟨x, -, hcommands⟩ := exists_task_commands (htasks a ha) (h.answered a ha)
  have hmem : x ∈ T.commandsOf a.call := by
    rcases hcommands with hone | ⟨z, value, htwo, -⟩
    · rw [hone]
      exact List.mem_singleton_self x
    · rw [htwo]
      exact List.mem_cons_self
  obtain ⟨hexecuted, hcall⟩ := List.mem_filter.mp hmem
  obtain ⟨n, hn⟩ := List.mem_iff_getElem?.mp hexecuted
  exact ⟨n, x, hn, of_decide_eq_true hcall⟩

/-- An answer that comes before another one finishes before it. -/
lemma finished_lt_of_precedes
    (h : Clients.Sound (fun _ => RoleInjectHandler.serve env) Redis.execute T₀ T)
    (hidle : ∀ addr, T.running addr = none) (htasks : ∀ a ∈ T.answered, a.request.isTask)
    (hapart : Undisturbed T) {a b : Clients.Answered Addr (Option Session) Request Response}
    (hab : Clients.Precedes Conflicts T a b) : T.finished a.call < T.finished b.call := by
  obtain ⟨ha, hb, ⟨hclient, hnumber⟩ | ⟨hne, e, f, hsub, he, hf, hconflict⟩⟩ := hab
  · obtain ⟨m, e, hm, he⟩ := exists_command h htasks ha
    obtain ⟨n, f, hn, hf⟩ := exists_command h htasks hb
    obtain ⟨m', e', hm', he', hlast, -⟩ := Clients.exists_finished hm
    have hlt : m' < n := by
      by_contra hnot
      have hne : n ≠ m' := by
        rintro rfl
        rw [hn] at hm'
        obtain rfl := Option.some_inj.mp hm'
        exact hnumber.ne (congrArg Prod.snd (he.symm.trans (he'.symm.trans hf)))
      have hsorted := List.pairwise_iff_forall_sublist.mp h.sorted
        (pair_sublist_iff.mpr ⟨n, m', (not_lt.mp hnot).lt_of_ne hne, hn, hm'⟩)
      have hfb : f.number = b.number := congrArg Prod.snd hf
      have hea : e'.number = a.number := congrArg Prod.snd (he'.trans he)
      have hfe : f.client = e'.client :=
        (congrArg Prod.fst hf).trans (hclient.symm.trans (congrArg Prod.fst (he'.trans he)).symm)
      have hle := hsorted hfe
      rw [hfb, hea] at hle
      exact hle.not_gt hnumber
    rw [← he, ← hf, hlast]
    exact Nat.succ_le_of_lt hlt |>.trans_lt (Clients.lt_finished hn)
  · obtain ⟨i, j, hij, hi, hj⟩ := pair_sublist_iff.mp hsub
    rw [← he, ← hf]
    refine (taskCalls h hidle htasks).finished_lt hapart hij hi hj ?_ hconflict
    rw [he, hf]
    exact fun heq => hne (congrArg Prod.fst heq)

/-- **The order of the last commands** keeps the requests of every connection, and no two
conflicting commands contradict it. -/
theorem lastCommand_order
    (h : Clients.Sound (fun _ => RoleInjectHandler.serve env) Redis.execute T₀ T)
    (hidle : ∀ addr, T.running addr = none) (htasks : ∀ a ∈ T.answered, a.request.isTask)
    (hapart : Undisturbed T) :
    ∃ order, Clients.SerialOrder Conflicts T order ∧
      order.Pairwise fun a b => T.finished a.call ≤ T.finished b.call := by
  let r (a b : Clients.Answered Addr (Option Session) Request Response) : Prop :=
    T.finished a.call ≤ T.finished b.call
  have htotal : Std.Total r := ⟨fun a b => le_total _ _⟩
  have htrans : IsTrans _ r := ⟨fun a b c => le_trans⟩
  have hsorted := List.pairwise_insertionSort r T.answered
  refine ⟨T.answered.insertionSort r, .of_perm h (T.answered.perm_insertionSort r) ?_, hsorted⟩
  refine hsorted.imp fun {a b} hle => ?_
  exact fun hback => (finished_lt_of_precedes h hidle htasks hapart hback).not_ge hle

end Threads

/-! ### Requests one after the other -/

/-- The call of an answered request, with the role its connection had. -/
def taskCall (a : Clients.Answered Addr (Option Session) Request Response) : TaskCall :=
  match a.request with
  | .UPDATE_TASK req => .update (sessionRole a.found) req
  | .QUERY_TASK req => .query (sessionRole a.found) req
  | _ => .query (sessionRole a.found) {}

omit [DecidableEq Addr] in
lemma taskCall_request {a : Clients.Answered Addr (Option Session) Request Response}
    (h : a.request.isTask) :
    (taskCall a).request = a.request ∧ (taskCall a).role = sessionRole a.found := by
  obtain ⟨addr, number, request, found, response, left⟩ := a
  cases request with
  | LOGIN req => cases h
  | REGISTER req => cases h
  | ERASE_ROLE req => cases h
  | QUERY_TASK req => exact ⟨rfl, rfl⟩
  | UPDATE_TASK req => exact ⟨rfl, rfl⟩

/-- **The step**: a task request served with nothing in between, every command executed, is
answered by its service and does to the store what it does to the abstract map. -/
lemma refines_serves {s s' : (Addr → Option Session) × (Bytes → Option Bytes)} {m : Progress}
    {a : Clients.Answered Addr (Option Session) Request Response}
    {es : List (Clients.Executed RedisSig Addr Outcome)}
    (h : Clients.Serves (fun _ => RoleInjectHandler.serve env) Redis.execute s (a, es) s')
    (htask : a.request.isTask) (hok : ∀ e ∈ es, e.choice = .ok) (hrefines : Refines env s.2 m) :
    Refines env s'.2 (m.apply (taskCall a)) ∧
      a.response = ((RunSyncService env .empty (taskCall a).role (taskCall a).request).run
        Redis.exec (.working s.2)).1.1 := by
  obtain ⟨hrequest, hrole⟩ := taskCall_request htask
  have hrun := h.follows.run (happens_answering h.commands [])
  have houtcomes : ∀ outcome ∈ es.map Clients.Executed.choice ++ [], outcome = .ok := by
    simpa using hok
  have hhanded : a.request.handedOn := by
    generalize a.request = request at htask
    cases request with
    | LOGIN req => cases htask
    | REGISTER req => cases htask
    | ERASE_ROLE req => cases htask
    | QUERY_TASK req => rfl
    | UPDATE_TASK req => rfl
  rw [Redis.answering_of_ok houtcomes, Redis.answering_of_ok (by simp), Prog.run_ret,
    RoleInjectHandler.serve_handedOn env hhanded, Prog.run_bind, Prog.run_ret, ← h.found] at hrun
  rw [hrole, hrequest]
  obtain ⟨db', hdb', hnext⟩ := refines_step env hrefines (taskCall a)
  rw [hrole, hrequest] at hdb'
  obtain ⟨hanswer, hstore⟩ := Prod.mk.inj hrun
  refine ⟨?_, (congrArg Prod.fst hanswer).symm⟩
  rw [sessionRole] at hdb'
  rw [hdb'] at hstore
  have hsame : db' = s'.2 := congrArg Redis.db hstore
  rwa [← hsame]

/-- **The run**: task requests served one after the other do to the store what they do to the
abstract map. -/
lemma refines_happens
    {answers : List (Clients.Answered Addr (Option Session) Request Response)}
    {commands : Clients.Answered Addr (Option Session) Request Response →
      List (Clients.Executed RedisSig Addr Outcome)}
    {s s' : (Addr → Option Session) × (Bytes → Option Bytes)} {m : Progress}
    (h : Happens (Clients.Serves (fun _ => RoleInjectHandler.serve env) Redis.execute) s
      (answers.map fun a => (a, commands a)) s')
    (htasks : ∀ a ∈ answers, a.request.isTask)
    (hok : ∀ a ∈ answers, ∀ e ∈ commands a, e.choice = .ok) (hrefines : Refines env s.2 m) :
    Refines env s'.2 ((answers.map taskCall).foldl Progress.apply m) := by
  induction answers generalizing s m with
  | nil =>
      rw [← h.eq_of_nil]
      exact hrefines
  | cons a answers ih =>
      cases h with
      | cons ha hanswers =>
          obtain ⟨hnext, -⟩ := refines_serves ha (htasks a List.mem_cons_self)
            (hok a List.mem_cons_self) hrefines
          exact ih hanswers (fun b hb => htasks b (List.mem_cons_of_mem a hb))
            (fun b hb => hok b (List.mem_cons_of_mem a hb)) hnext

/-- The abstract map that a store stands for. -/
def storedProgress (env : Env) (db : Bytes → Option Bytes) : Progress :=
  fun g => (storedTaskInfo env db g).map DBTaskInfo.finished

/-- Players of the abstract map behind calls. -/
lemma foldl_storedProgress_ne_none (db : Bytes → Option Bytes) (calls : List TaskCall)
    (g : Int32) :
    calls.foldl Progress.apply (storedProgress env db) g ≠ none
      ↔ db (taskinfo_key g) ≠ none ∨ ∃ c ∈ calls, c.UpdatesFor g := by
  rw [foldl_apply_ne_none, storedProgress, storedTaskInfo]
  simp

/-- Tasks of the abstract map behind calls. -/
lemma mem_foldl_storedProgress (db : Bytes → Option Bytes) (calls : List TaskCall) (g t : Int32) :
    t ∈ (calls.foldl Progress.apply (storedProgress env db) g).getD ∅
      ↔ t ∈ storedFinished env db g ∨ ∃ c ∈ calls, c.Finishes g t := by
  rw [mem_foldl_apply, storedProgress, storedFinished]
  cases storedTaskInfo env db g <;> simp

/-- A query answers what the abstract map says. -/
lemma query_answer {db : Bytes → Option Bytes} {m : Progress} (h : Refines env db m)
    (role : RoleInfo) (req : TaskQueryReq) :
    ∃ rsp, ((RunSyncService env .empty role (.QUERY_TASK req)).run Redis.exec
        (.working db)).1.1 = .QUERY_TASK rsp ∧
      (rsp.error = ErrorCode.SUCCEED.number ↔ m role.basic_info.player_id ≠ none) ∧
      (rsp.error = ErrorCode.SUCCEED.number → rsp.done_tasks.Nodup ∧
        ∀ t, t ∈ rsp.done_tasks ↔ t ∈ (m role.basic_info.player_id).getD ∅) := by
  have hg := h role.basic_info.player_id
  rw [run_QUERY_TASK, ← hg]
  cases storedTaskInfo env db role.basic_info.player_id with
  | none =>
      have hfailure : (TaskQueryRsp.failure req.rpcid).error ≠ ErrorCode.SUCCEED.number := by
        simp [TaskQueryRsp.failure]
      exact ⟨_, rfl, iff_of_false hfailure (by simp), fun hs => absurd hs hfailure⟩
  | some info =>
      exact ⟨_, rfl, iff_of_true rfl (by simp), fun _ => ⟨info.doneTasks_nodup, info.mem_doneTasks⟩⟩

/-- The player of an answered request. -/
def playerOf (a : Clients.Answered Addr (Option Session) Request Response) : Int32 :=
  (sessionRole a.found).basic_info.player_id

/-- **Linearizability**: let any number of connections query and update at the same time, in
a store that executes every command, and let no record be read while another connection is
between its read and its write of it.  Then the requests, in the order of their last
commands, are answered as if they came one after the other: a query is answered `SUCCEED`
exactly when its player had a record or has updated before, and then lists the tasks that the
record had finished and those that the updates before it have, each of them once. -/
theorem tasks_linearizable (env : Env) (role_manager_ : RoleinfoManager Addr)
    (db : Bytes → Option Bytes) (moves : List (Threads.Move Addr))
    (hidle : ∀ addr, (Threads.run env moves (.start role_manager_ db)).running addr = none)
    (htasks : ∀ a ∈ (Threads.run env moves (.start role_manager_ db)).answered, a.request.isTask)
    (hok : ∀ e ∈ (Threads.run env moves (.start role_manager_ db)).executed, e.choice = .ok)
    (hapart : Undisturbed (Threads.run env moves (.start role_manager_ db))) :
    ∃ order, Clients.SerialOrder Conflicts (Threads.run env moves (.start role_manager_ db)) order ∧
      (order.Pairwise fun a b => (Threads.run env moves (.start role_manager_ db)).finished a.call
        ≤ (Threads.run env moves (.start role_manager_ db)).finished b.call) ∧
      ∀ earlier a later req, order = earlier ++ a :: later → a.request = .QUERY_TASK req →
        ∃ rsp, a.response = .QUERY_TASK rsp ∧
          (rsp.error = ErrorCode.SUCCEED.number
            ↔ db (taskinfo_key (playerOf a)) ≠ none ∨
              ∃ b ∈ earlier, (taskCall b).UpdatesFor (playerOf a)) ∧
          (rsp.error = ErrorCode.SUCCEED.number → rsp.done_tasks.Nodup ∧
            ∀ t, t ∈ rsp.done_tasks ↔ t ∈ storedFinished env db (playerOf a) ∨
              ∃ b ∈ earlier, (taskCall b).Finishes (playerOf a) t) := by
  have hsound := Threads.sound_run env role_manager_ db moves
  generalize Threads.run env moves (.start role_manager_ db) = T at *
  obtain ⟨order, horder, hsorted⟩ := Threads.lastCommand_order hsound hidle htasks hapart
  refine ⟨order, horder, hsorted, fun earlier a later req hsplit hquery => ?_⟩
  have hserves := horder.serves (fun e f h => swaps_of_not_conflicts h) hsound hidle
  have hmem : ∀ b ∈ order, b ∈ T.answered := fun b hb => horder.perm.mem_iff.mp hb
  have hexecuted (b : Clients.Answered Addr (Option Session) Request Response) :
      ∀ e ∈ T.commandsOf b.call, e.choice = .ok := fun e he => hok e (List.mem_of_mem_filter he)
  rw [hsplit, List.map_append, List.map_cons] at hserves
  obtain ⟨s, hearlier, hlater⟩ := happens_append.mp hserves
  cases hlater with
  | cons hself hrest =>
      have hrefines := refines_happens hearlier
        (fun b hb => htasks b (hmem b (hsplit ▸ List.mem_append_left _ hb)))
        (fun b _ => hexecuted b) (m := storedProgress env db) fun g => rfl
      have ha : a ∈ T.answered := hmem a (hsplit ▸ List.mem_append_right _ List.mem_cons_self)
      obtain ⟨-, hresponse⟩ := refines_serves hself (htasks a ha) (hexecuted a) hrefines
      have hcall : taskCall a = .query (sessionRole a.found) req := by rw [taskCall, hquery]
      obtain ⟨rsp, hrsp, hsucceeds, hlists⟩ :=
        query_answer hrefines (sessionRole a.found) req
      rw [hcall, TaskCall.role, TaskCall.request, hrsp] at hresponse
      refine ⟨rsp, hresponse, ?_, fun hs => ⟨(hlists hs).1, fun t => ?_⟩⟩
      · rw [hsucceeds, foldl_storedProgress_ne_none]
        simp [playerOf]
      · rw [(hlists hs).2, mem_foldl_storedProgress]
        simp [playerOf]

/-- A query received before an update is executed, and executed behind it. -/
def updateDuringQuery : Threads Bool :=
  Threads.run Env.wire
    [.receive true (.QUERY_TASK {}), .receive false (.UPDATE_TASK { finished_task_ids := [7] }),
      .command false .ok, .command false .ok, .command true .ok, .answer true, .answer false]
    (.start ⟨fun _ => none⟩ fun _ => none)

lemma updateDuringQuery_executed : updateDuringQuery.executed =
    [⟨false, 0, Command.get (taskinfo_key 0), .ok, .nil⟩,
      ⟨false, 0, Command.set (taskinfo_key 0) (Env.wire.dbTaskInfo.SerializeToString
        (({} : DBTaskInfo).update Env.wire { finished_task_ids := [7] })), .ok,
        .status (Bytes.ofString "OK")⟩,
      ⟨true, 0, Command.get (taskinfo_key 0), .ok, .string (Env.wire.dbTaskInfo.SerializeToString
        (({} : DBTaskInfo).update Env.wire { finished_task_ids := [7] }))⟩] := rfl

/-- The query, though received first, comes behind the update. -/
theorem tasks_linearizable_update_first :
    ((∀ addr, updateDuringQuery.running addr = none) ∧
      (∀ a ∈ updateDuringQuery.answered, a.request.isTask) ∧
      (∀ e ∈ updateDuringQuery.executed, e.choice = .ok) ∧ Undisturbed updateDuringQuery) ∧
    ∃ order, Clients.SerialOrder Conflicts updateDuringQuery order ∧
      (order.Pairwise fun a b =>
        updateDuringQuery.finished a.call ≤ updateDuringQuery.finished b.call) ∧
      ∀ earlier a later req, order = earlier ++ a :: later → a.request = .QUERY_TASK req →
        ∃ rsp, a.response = .QUERY_TASK rsp ∧
          (rsp.error = ErrorCode.SUCCEED.number
            ↔ (none : Option Bytes) ≠ none ∨
              ∃ b ∈ earlier, (taskCall b).UpdatesFor (playerOf a)) ∧
          (rsp.error = ErrorCode.SUCCEED.number → rsp.done_tasks.Nodup ∧
            ∀ t, t ∈ rsp.done_tasks ↔ t ∈ storedFinished Env.wire (fun _ => none) (playerOf a) ∨
              ∃ b ∈ earlier, (taskCall b).Finishes (playerOf a) t) := by
  have hidle : ∀ addr, updateDuringQuery.running addr = none := by
    intro addr
    cases addr with
    | false => rfl
    | true => rfl
  have htasks : ∀ a ∈ updateDuringQuery.answered, a.request.isTask := by
    rintro a (_ | ⟨_, _ | ⟨_, ⟨⟩⟩⟩) <;> rfl
  have hok : ∀ e ∈ updateDuringQuery.executed, e.choice = .ok := by
    rw [updateDuringQuery_executed]
    simp
  have hapart : Undisturbed updateDuringQuery := by
    intro i j k x y z hij hjk _ _ hz _ _ key value _ hset
    rw [updateDuringQuery_executed] at hz
    have hk : k < 3 := (List.getElem?_eq_some_iff.mp hz).1
    obtain rfl : k = 2 := by omega
    obtain rfl := Option.some_inj.mp hz
    cases hset
  exact ⟨⟨hidle, htasks, hok, hapart⟩, tasks_linearizable Env.wire ⟨fun _ => none⟩
    (fun _ => none) _ hidle htasks hok hapart⟩

end LittleB
