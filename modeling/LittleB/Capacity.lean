import LittleB.Provenance
import LittleB.ResponseSizes

/-!
How many task ids the server can hold before a response no longer fits a frame.

* `RecordsWithin`, `ErrorsWithin`: all finished tasks are among some ids, in the records and
  in what the texts of errors parse to; `serve_keeps_within`: every request keeps it;
* `querySize_le`: with 6548 ids the longest answer to a query still fits;
* `answers_fit`: **capacity**: so every connection is answered with frames, however the
  requests are interleaved;
* `Server.Within`, `Server.Within.run`: the same of one request after the other.
-/

namespace LittleB

open Wire

variable {env : Env} {ids : List Int32}

/-! ### Ids -/

/-- Every record finishes tasks among some ids only. -/
def RecordsWithin (env : Env) (ids : List Int32) (db : Bytes → Option Bytes) : Prop :=
  ∀ g, ∀ t ∈ storedFinished env db g, t ∈ ids

/-- What the text of an error parses to finishes tasks among some ids only. -/
def ErrorsWithin (env : Env) (ids : List Int32) (outcome : Outcome) : Prop :=
  ∀ t ∉ ids, ErrorsWithout env t outcome

/-- A response lists tasks among some ids only. -/
def ListsWithin (ids : List Int32) (response : Response) : Prop :=
  ∀ rsp, response = .QUERY_TASK rsp → rsp.done_tasks ⊆ ids

/-- A request finishes tasks among some ids only. -/
def UpdatesWithin (ids : List Int32) (request : Request) : Prop :=
  ∀ req, request = .UPDATE_TASK req → req.finished_task_ids ⊆ ids

lemma recordsWithin_empty : RecordsWithin env ids fun _ => none := by
  intro g t ht
  have hempty : storedFinished env (fun _ => none) g = ∅ := DBTaskInfo.finished_empty
  rw [hempty] at ht
  exact ht.elim

lemma errorsWithin_ok : ErrorsWithin env ids .ok := by
  intro t _ str hstr
  cases hstr

variable (env) in
/-- **The step**: a request whose ids are among the given ones keeps the records so. -/
lemma serve_keeps_within (session : Option Session) {request : Request}
    (h : UpdatesWithin ids request) :
    (RoleInjectHandler.serve env session request).Keeps Redis.execute
      (fun _ outcome _ => ErrorsWithin env ids outcome) (RecordsWithin env ids)
      fun out => ListsWithin ids out.1 := by
  -- each task of each player for itself
  have heach := Prog.Keeps.forall fun k : Int32 × { t // t ∉ ids } =>
    @serve_keeps_unfinished env k.1 k.2 session request
      fun req hreq _ ht => k.2.property (h req hreq ht)
  have hrecords : (fun db => ∀ k : Int32 × { t // t ∉ ids },
      (k.2 : Int32) ∉ storedFinished env db k.1) = RecordsWithin env ids := by
    funext db
    refine propext ⟨fun hdb g t ht => ?_, fun hdb k ht => k.2.property (hdb k.1 k.2 ht)⟩
    by_contra hids
    exact hdb (g, ⟨t, hids⟩) ht
  have herrors : (fun outcome => ∀ k : Int32 × { t // t ∉ ids },
      ErrorsWithout env k.2 outcome) = ErrorsWithin env ids := by
    funext outcome
    exact propext ⟨fun herror t ht => herror (0, ⟨t, ht⟩),
      fun herror k => herror k.2 k.2.property⟩
  rw [← hrecords, ← herrors]
  refine heach.mono fun out hout rsp hrsp t ht => ?_
  by_contra hids
  exact hout (_, ⟨t, hids⟩) rfl rsp hrsp ht

/-! ### Sizes -/

/-- The longest answer to a query with so many ids still fits. -/
lemma querySize_le (rpcid : Int32) {info : DBTaskInfo} (h : info.doneTasks ⊆ ids)
    (hids : ids.length ≤ 6548) :
    querySize rpcid info.doneTasks info.position_x info.position_y ≤ 65533 := by
  have hpacked : packedSize info.doneTasks ≤ 65480 :=
    calc packedSize info.doneTasks ≤ packedSize ids :=
          packedSize_le_of_subset info.doneTasks_nodup h
      _ ≤ 10 * ids.length := packedSize_le ids
      _ ≤ 65480 := by omega
  have hbounds := querySize_bounds rpcid info.doneTasks info.position_x info.position_y
    (hpacked.trans_lt (by norm_num))
  omega

/-- Responses that list tasks among so many ids can be sent. -/
lemma sendable_of_listsWithin {codecs : Codecs} {request : Request} {response : Response}
    (hsized : codecs.Sized) (h : Answers request response) (hlists : ListsWithin ids response)
    (hids : ids.length ≤ 6548) : Sendable codecs (request, response) := by
  rw [sendable_iff hsized]
  cases h with
  | query_failure req => exact size_failure req.rpcid
  | query req info =>
      rw [size_ofTaskInfo]
      exact querySize_le req.rpcid (hlists _ rfl) hids
  | login req ret visitor => exact size_le (.login req ret visitor) (by simp)
  | register req ret => exact size_le (.register req ret) (by simp)
  | update req ret => exact size_le (.update req ret) (by simp)
  | erase req ret => exact size_le (.erase req ret) (by simp)

/-! ### Connections -/

section Connections

variable {Addr : Type} [DecidableEq Addr]

/-- **Capacity**: as long as no more than 6548 task ids are finished in the records of the
store, listed by updates or parsed from the texts of errors, every request is answered with a
response that the handlers can send, however the requests of any connections are
interleaved, and whatever commands fail. -/
theorem answers_fit (env : Env) (codecs : Codecs) (hsized : codecs.Sized)
    (role_manager_ : RoleinfoManager Addr) (db : Bytes → Option Bytes)
    (moves : List (Threads.Move Addr)) (ids : List Int32)
    (hids : ids.length ≤ 6548) (hrecords : RecordsWithin env ids db)
    (hupdates : ∀ call session request,
      Clients.Called (Threads.run env moves (.start role_manager_ db)) call session request →
        UpdatesWithin ids request)
    (herrors : ∀ e ∈ (Threads.run env moves (.start role_manager_ db)).executed,
      ErrorsWithin env ids e.choice) :
    ∀ a ∈ (Threads.run env moves (.start role_manager_ db)).answered,
      Sendable codecs (a.request, a.response) := by
  have hserve (addr : Addr) (n : ℕ) (session : Option Session) (request : Request) (_ : True)
      (hrequest : UpdatesWithin ids request) :
      (RoleInjectHandler.serve env session request).Keeps Redis.execute
        (fun _ outcome _ => ErrorsWithin env ids outcome) (RecordsWithin env ids)
        fun out => True ∧ ListsWithin ids out.1 :=
    (serve_keeps_within env session hrequest).mono fun out h => ⟨trivial, h⟩
  have hstart : Clients.Kept Redis.execute (fun _ _ outcome _ => ErrorsWithin env ids outcome)
      (RecordsWithin env ids) (fun _ _ => True) (fun _ _ _ response => ListsWithin ids response)
      (Threads.start role_manager_ db) := Clients.kept_start hrecords fun _ => trivial
  have hrun := hstart.run (E := fun _ _ outcome _ => ErrorsWithin env ids outcome) hserve
    hupdates herrors
  exact fun a ha => sendable_of_listsWithin hsized
    (Threads.answers_run env role_manager_ db moves a ha) (hrun.answered a ha) hids

/-- An update and the query behind it, of another connection. -/
theorem answers_fit_update :
    (Codecs.wire.Sized ∧ RecordsWithin Env.wire [7] (fun _ => none) ∧
      (∀ call session request, Clients.Called updateDuringQuery call session request →
        UpdatesWithin [7] request) ∧
      ∀ e ∈ updateDuringQuery.executed, ErrorsWithin Env.wire [7] e.choice) ∧
    ∀ a ∈ updateDuringQuery.answered, Sendable .wire (a.request, a.response) := by
  have hupdates : ∀ call session request,
      Clients.Called updateDuringQuery call session request → UpdatesWithin [7] request := by
    rintro call session request (⟨a, ha⟩ | ⟨addr, r, hr⟩) req hreq
    · rcases ha with _ | ⟨_, _ | ⟨_, ⟨⟩⟩⟩ <;> cases hreq
      exact List.Subset.refl _
    · cases addr <;> cases hr
  have herrors : ∀ e ∈ updateDuringQuery.executed, ErrorsWithin Env.wire [7] e.choice := by
    rw [updateDuringQuery_executed]
    simp [errorsWithin_ok]
  exact ⟨⟨wire_sized, recordsWithin_empty, hupdates, herrors⟩, answers_fit Env.wire .wire
    wire_sized ⟨fun _ => none⟩ (fun _ => none) _ [7] (by decide) recordsWithin_empty hupdates
    herrors⟩

/-! ### One request after the other -/

/-- What a program keeps of the store at each command, it keeps when it runs alone. -/
lemma keeps_run_exec {α : Type} {E : Outcome → Prop} {I : (Bytes → Option Bytes) → Prop}
    {P : α → Prop} {p : Prog RedisSig α} (h : p.Keeps Redis.execute (fun _ outcome _ => E outcome)
      I P) {r : Redis} (hE : ∀ n, E (r.outcome n)) (hI : I r.db) :
    I (p.run Redis.exec r).2.db ∧ (∀ n, E ((p.run Redis.exec r).2.outcome n)) ∧
      P (p.run Redis.exec r).1 := by
  induction p generalizing r with
  | ret a => exact ⟨hI, hE, h⟩
  | ask c k ih =>
      obtain ⟨hkept, hrest⟩ := h (r.outcome 0) r.db (hE 0) hI
      rw [Prog.run_ask, Redis.exec_eq_execute]
      exact ih _ hrest (fun n => hE (n + 1)) hkept

/-- The records, the errors to come and the responses of a server are within some ids. -/
structure Server.Within (env : Env) (ids : List Int32) (S : Server Addr) : Prop where
  records : RecordsWithin env ids S.redis.db
  errors : ∀ n, ErrorsWithin env ids (S.redis.outcome n)
  lists : ∀ e ∈ S.log, ListsWithin ids e.2.2

namespace Server.Within

variable {S : Server Addr}

lemma step (h : S.Within env ids) {input : Addr × Request} (hinput : UpdatesWithin ids input.2) :
    (S.step env input).Within env ids := by
  obtain ⟨addr, request⟩ := input
  have hkeeps := serve_keeps_within env (S.role_manager_.roles_ addr) hinput
  obtain ⟨hrecords, herrors, hlists⟩ := keeps_run_exec hkeeps h.errors h.records
  rw [Server.step, RoleInjectHandler.read_eq_serve, Prog.run_bind, Prog.run_ret]
  refine ⟨hrecords, herrors, fun e he => ?_⟩
  rcases List.mem_cons.mp he with rfl | hearlier
  · exact hlists
  · exact h.lists e hearlier

/-- **The run**: requests whose ids are among the given ones keep them so. -/
lemma run (h : S.Within env ids) {inputs : List (Addr × Request)}
    (hinputs : ∀ input ∈ inputs, UpdatesWithin ids input.2) :
    (S.run env inputs).Within env ids := by
  induction inputs generalizing S with
  | nil => exact h
  | cons input inputs ih =>
      exact ih (h.step (hinputs input List.mem_cons_self))
        fun i hi => hinputs i (List.mem_cons_of_mem _ hi)

end Server.Within

end Connections

end LittleB
