import LittleB.ResponseSizes
import LittleB.RoundTrips
import LittleB.Writes

/-!
What updates carry to the players, and how long the answers to queries get.

* `Carried`: the ids and the position that the updates of a player have carried, `Carried.Of`
  the records that show them, `Of.size_eq` the length of the answer to a query;
* `Carrying`, `Carrying.step`: the server beside what has been carried to every player,
  `Holds` what connects the two, `holds_step`;
* `QueryFits`: a query for what leaves room in its response; `responses_sendable_iff`: in a run
  from a store without task records every response can be sent exactly when every query is;
* `carried_updatesOf`: the updates from one address come together;
  `query_response_too_long`: two updates and a query of what they leave.
-/

namespace LittleB

open Wire

variable (env : Env) {Addr : Type} [DecidableEq Addr]

/-! ### What has been carried to a player -/

/-- The ids that the updates of a player have carried, and the position of the latest one. -/
structure Carried where
  ids : List Int32 := []
  position_x : Int32 := 0
  position_y : Int32 := 0

namespace Carried

/-- One more update. -/
def add (c : Carried) (request : TaskUpdateReq) : Carried :=
  ⟨c.ids ++ request.finished_task_ids, request.position_x.toInt32 env.outOfRange,
    request.position_y.toInt32 env.outOfRange⟩

/-- What the text of an error carries, as far as it parses. -/
def ofText (str : Bytes) : Carried :=
  let info := (env.dbTaskInfo.ParseFromArray str).2
  ⟨info.doneTasks, info.position_x, info.position_y⟩

/-- The octets of the answer to a query that shows what has been carried, each id once. -/
def size (c : Carried) (rpcid : Int32) : ℕ :=
  querySize rpcid c.ids.dedup c.position_x c.position_y

/-- A record that shows what has been carried. -/
structure Of (c : Carried) (info : DBTaskInfo) : Prop where
  finished : ∀ t, t ∈ info.finished ↔ t ∈ c.ids
  position_x : info.position_x = c.position_x
  position_y : info.position_y = c.position_y

lemma of_empty : Of {} {} := by
  refine ⟨fun t => ?_, rfl, rfl⟩
  rw [DBTaskInfo.finished_empty]
  exact iff_of_false (Set.notMem_empty t) List.not_mem_nil

lemma of_text (str : Bytes) : (ofText env str).Of (env.dbTaskInfo.ParseFromArray str).2 :=
  ⟨fun t => (DBTaskInfo.mem_doneTasks _ t).symm, rfl, rfl⟩

variable {c : Carried} {info : DBTaskInfo}

/-- An updated record shows what the update has carried as well, also when it has been stored
and read back. -/
lemma Of.add (h : c.Of info) (request : TaskUpdateReq) :
    (c.add env request).Of (env.dbTaskInfo.ParseFromArray
      (env.dbTaskInfo.SerializeToString (info.update env request))).2 := by
  have hsame := (env.dbTaskInfo.parse_serialize (info.update env request)).2
  refine ⟨fun t => ?_, hsame.2.1, hsame.2.2⟩
  rw [hsame.finished_eq, DBTaskInfo.finished_update, Set.mem_union, h.finished, Carried.add,
    List.mem_append]
  rfl

/-- The answer that shows a record is as long as what has been carried makes it. -/
lemma Of.size_eq (h : c.Of info) (rpcid : Int32) :
    (Response.QUERY_TASK (.ofTaskInfo rpcid info)).size = c.size rpcid := by
  have hperm : info.doneTasks.Perm c.ids.dedup := by
    refine (List.perm_ext_iff_of_nodup info.doneTasks_nodup c.ids.nodup_dedup).mpr fun t => ?_
    rw [DBTaskInfo.mem_doneTasks, h.finished, List.mem_dedup]
  have hpacked : packedSize info.doneTasks = packedSize c.ids.dedup := (hperm.map _).sum_eq
  have hnil : info.doneTasks = [] ↔ c.ids.dedup = [] := by
    rw [← List.length_eq_zero_iff, ← List.length_eq_zero_iff, hperm.length_eq]
  rw [size_ofTaskInfo, size, querySize, querySize, packedFieldSize, packedFieldSize, hpacked,
    h.position_x, h.position_y]
  simp only [ne_eq, hnil]

end Carried

/-! ### The server beside what has been carried -/

/-- What has been carried to every player that an update has reached. -/
abbrev Board := Int32 → Option Carried

/-- What the read of a player's record shows: what has been carried to the player, or what the
text of an error parses to. -/
def Board.shown (board : Board) (r : Redis) (gid : Int32) : Option Carried :=
  match r.outcome 0 with
  | .ok => board gid
  | .error str => some (.ofText env str)

/-- The server, and what the updates have carried. -/
structure Carrying (Addr : Type) where
  server : Server Addr
  board : Board

namespace Carrying

/-- The server as it starts, over a store without task records. -/
def start (redis : Redis) : Carrying Addr := ⟨.start redis, fun _ => none⟩

/-- One request: an update adds to what its read shows, when its write is executed. -/
def step (T : Carrying Addr) (input : Addr × Request) : Carrying Addr where
  server := T.server.step env input
  board :=
    let gid := playerId T.server input.1
    match input.2 with
    | .UPDATE_TASK request =>
        if T.server.redis.outcome 1 = .ok then
          Function.update T.board gid
            (some (((T.board.shown env T.server.redis gid).getD {}).add env request))
        else T.board
    | _ => T.board

end Carrying

/-- The task records of the store show what has been carried. -/
def Holds (T : Carrying Addr) : Prop :=
  ∀ gid, Option.Rel Carried.Of (T.board gid) (storedTaskInfo env T.server.redis.db gid)

/-- What the read of a record replies, by what it shows. -/
inductive Replies (shown : Option Carried) (reply : Reply) : Prop
  | missing (hshown : shown = none) (hreply : reply.type = .REDIS_REPLY_NIL)
  | found (c : Carried) (hshown : shown = some c) (hreply : reply.type ≠ .REDIS_REPLY_NIL)
      (hof : c.Of (env.dbTaskInfo.ParseFromArray reply.str).2)

variable {env} {T : Carrying Addr}

omit [DecidableEq Addr] in
lemma Holds.replies (h : Holds env T) (gid : Int32) :
    Replies env (T.board.shown env T.server.redis gid) (taskinfoReply T.server.redis gid) := by
  rw [Board.shown, taskinfoReply]
  cases h0 : T.server.redis.outcome 0 with
  | error str =>
      rw [Redis.exec_error h0]
      exact .found _ rfl (by simp [Reply.type]) (Carried.of_text env str)
  | ok =>
      have hrel := h gid
      rw [Redis.exec_ok h0]
      rw [storedTaskInfo] at hrel
      cases hdb : T.server.redis.db (taskinfo_key gid) with
      | none =>
          rw [hdb, Option.map_none] at hrel
          generalize T.board gid = shown at hrel ⊢
          cases hrel
          rw [Redis.perform_get_none hdb]
          exact .missing rfl rfl
      | some value =>
          rw [hdb, Option.map_some] at hrel
          generalize T.board gid = shown at hrel ⊢
          cases hrel with
          | some hof =>
              rw [Redis.perform_get_some hdb]
              exact .found _ rfl (by simp [Reply.type]) hof

/-- The record that an update goes on with shows what has been carried, or nothing. -/
lemma Replies.pulledInfo {shown : Option Carried} {reply : Reply} (h : Replies env shown reply) :
    (shown.getD {}).Of (UpdatePoint.pulledInfo env reply) := by
  cases h with
  | missing hshown hreply =>
      rw [hshown, UpdatePoint.pulledInfo, if_pos hreply]
      exact Carried.of_empty
  | found c hshown hreply hof =>
      rw [hshown, UpdatePoint.pulledInfo, if_neg hreply]
      exact hof

omit [DecidableEq Addr] in
lemma holds_start {redis : Redis} (h : ∀ gid, redis.db (taskinfo_key gid) = none) :
    Holds env (Carrying.start redis : Carrying Addr) := by
  intro gid
  change Option.Rel _ none (storedTaskInfo env redis.db gid)
  rw [storedTaskInfo, h gid]
  exact .none

variable (env) in
/-- **The step**: every request keeps the records and what has been carried together. -/
lemma holds_step (h : Holds env T) (input : Addr × Request) : Holds env (T.step env input) := by
  obtain ⟨addr, request⟩ := input
  by_cases hupdate : ∃ req, request = .UPDATE_TASK req
  · obtain ⟨req, rfl⟩ := hupdate
    have hpulled := (h.replies (playerId T.server addr)).pulledInfo
    intro gid
    have hdb : (T.server.step env (addr, .UPDATE_TASK req)).redis.db
        = if T.server.redis.outcome 1 = .ok then
            Function.update T.server.redis.db (taskinfo_key (playerId T.server addr))
              (some (env.dbTaskInfo.SerializeToString ((UpdatePoint.pulledInfo env
                (taskinfoReply T.server.redis (playerId T.server addr))).update env req)))
          else T.server.redis.db := by
      simp only [T.server.step_handedOn env (show (Request.UPDATE_TASK req).handedOn from rfl),
        run_UPDATE_TASK_reply, Redis.exec_set_db]
      rfl
    change Option.Rel _ ((T.step env (addr, .UPDATE_TASK req)).board gid)
      (storedTaskInfo env (T.server.step env (addr, .UPDATE_TASK req)).redis.db gid)
    rw [hdb, storedTaskInfo, Carrying.step]
    by_cases h1 : T.server.redis.outcome 1 = .ok
    · simp only [if_pos h1]
      by_cases hgid : gid = playerId T.server addr
      · rw [hgid, Function.update_self, Function.update_self, Option.map_some]
        exact .some (hpulled.add env req)
      · rw [Function.update_of_ne hgid, Function.update_of_ne (taskinfo_key_inj.not.mpr hgid)]
        exact h gid
    · simp only [if_neg h1]
      exact h gid
  · push Not at hupdate
    have hboard : (T.step env (addr, request)).board = T.board := by
      cases request with
      | UPDATE_TASK req => exact absurd rfl (hupdate req)
      | LOGIN req | REGISTER req | QUERY_TASK req | ERASE_ROLE req => rfl
    intro gid
    have hkept : (T.step env (addr, request)).server.redis.db (taskinfo_key gid)
        = T.server.redis.db (taskinfo_key gid) := db_step_taskinfo hupdate addr gid
    rw [hboard, storedTaskInfo, hkept]
    exact h gid

/-! ### Which responses can be sent -/

/-- A query for what leaves room in its response: what the updates have carried to the player
fits a frame, each id taken once. -/
def QueryFits (env : Env) (input : Addr × Request) (T : Carrying Addr) : Prop :=
  ∀ req, input.2 = .QUERY_TASK req →
    ∀ c, T.board.shown env T.server.redis (playerId T.server input.1) = some c →
      c.size req.rpcid ≤ 65533

variable {codecs : Codecs}

/-- The answer to a query, from what the read of the record replies. -/
lemma answer_QUERY_TASK (S : Server Addr) (addr : Addr) (req : TaskQueryReq) :
    S.answer env (addr, .QUERY_TASK req) =
      .QUERY_TASK (if (taskinfoReply S.redis (playerId S addr)).type = .REDIS_REPLY_NIL then
          .failure req.rpcid
        else .ofTaskInfo req.rpcid (env.dbTaskInfo.ParseFromArray
          (taskinfoReply S.redis (playerId S addr)).str).2) := by
  rw [Server.answer, RoleInjectHandler.read_handedOn env rfl, Prog.run_bind, run_QUERY_TASK_reply]
  rfl

/-- The answer to a query that shows what has been carried. -/
lemma Holds.size_answer (h : Holds env T) {addr : Addr} (req : TaskQueryReq) {c : Carried}
    (hc : T.board.shown env T.server.redis (playerId T.server addr) = some c) :
    (T.server.answer env (addr, .QUERY_TASK req)).size = c.size req.rpcid := by
  rw [answer_QUERY_TASK]
  cases h.replies (playerId T.server addr) with
  | missing hshown hreply => cases hc.symm.trans hshown
  | found c' hshown hreply hof =>
      obtain rfl := Option.some.inj (hshown.symm.trans hc)
      rw [if_neg hreply, hof.size_eq]

/-- **The step**: the response to a request can be sent exactly when the request is no query
of what does not fit. -/
lemma sendable_answer_iff (hsized : codecs.Sized) (h : Holds env T) (input : Addr × Request) :
    Sendable codecs (input.2, T.server.answer env input) ↔ QueryFits env input T := by
  obtain ⟨addr, request⟩ := input
  rw [sendable_iff hsized]
  by_cases hquery : ∃ req, request = .QUERY_TASK req
  · obtain ⟨req, rfl⟩ := hquery
    change (T.server.answer env (addr, .QUERY_TASK req)).size ≤ 65533 ↔ _
    cases hshown : T.board.shown env T.server.redis (playerId T.server addr) with
    | some c =>
        rw [h.size_answer req hshown]
        constructor
        · intro hfits req' hreq c' hc'
          obtain rfl := Request.QUERY_TASK.inj hreq
          obtain rfl := Option.some.inj (hshown.symm.trans hc')
          exact hfits
        · intro hfits
          exact hfits req rfl c hshown
    | none =>
        refine iff_of_true ?_ fun req' _ c hc => by cases hshown.symm.trans hc
        rw [answer_QUERY_TASK]
        cases h.replies (playerId T.server addr) with
        | missing _ hreply =>
            rw [if_pos hreply]
            exact size_failure req.rpcid
        | found c hc _ _ => cases hshown.symm.trans hc
  · push Not at hquery
    exact iff_of_true (size_le (T.server.answers_answer env (addr, request)) hquery)
      fun req hreq => absurd hreq (hquery req)

/-- The log of a run, as far as it can be sent. -/
lemma sendable_run_iff (hsized : codecs.Sized) (inputs : List (Addr × Request))
    (h : Holds env T) :
    (∀ e ∈ (T.server.run env inputs).log, Sendable codecs e.2) ↔
      (∀ e ∈ T.server.log, Sendable codecs e.2) ∧
        Run.Guarded (Carrying.step env) (QueryFits env) inputs T := by
  induction inputs generalizing T with
  | nil => exact (and_iff_left trivial).symm
  | cons input inputs ih =>
      have hrest := ih (holds_step env h input)
      change (∀ e ∈ ((T.server.step env input).run env inputs).log, Sendable codecs e.2) ↔
        (∀ e ∈ (T.server.step env input).log, Sendable codecs e.2) ∧ _ at hrest
      rw [Server.log_step_answer, List.forall_mem_cons, sendable_answer_iff hsized h] at hrest
      rw [Run.Guarded, ← and_assoc, and_comm (a := ∀ e ∈ T.server.log, Sendable codecs e.2)]
      exact hrest

/-- **Sendable responses**: frames of two octets at least come to a server over a store
without task records.  Every response can be sent exactly when every query of the run is for
ids that leave room in its response, of those that the updates before it have carried; and
then nothing stops the handlers, which write every response. -/
theorem responses_sendable_iff (env : Env) (codecs : Codecs) (hsized : codecs.Sized)
    (frames : List (Addr × Bytes)) (hlong : ∀ f ∈ frames, 2 ≤ f.2.length) (redis : Redis)
    (hredis : ∀ gid, redis.db (taskinfo_key gid) = none) :
    ((∀ e ∈ (Server.run env (requestsOf codecs frames) (.start redis)).log,
        Sendable codecs e.2)
      ↔ Run.Guarded (Carrying.step env) (QueryFits env) (requestsOf codecs frames)
          (.start redis)) ∧
    (Run.Guarded (Carrying.step env) (QueryFits env) (requestsOf codecs frames) (.start redis) →
      ∃ B, Backend.readAll env codecs (frames.map fun f => (f.1, .single f.2)) (.start redis)
          = .ok B ∧
        B.Simulates codecs (Server.run env (requestsOf codecs frames) (.start redis))) := by
  have hiff : (∀ e ∈ (Server.run env (requestsOf codecs frames) (.start redis)).log,
      Sendable codecs e.2) ↔ Run.Guarded (Carrying.step env) (QueryFits env)
        (requestsOf codecs frames) (.start redis) := by
    rw [show (Server.start redis : Server Addr) = (Carrying.start redis).server from rfl,
      sendable_run_iff hsized _ (holds_start hredis)]
    exact and_iff_right fun e he => absurd he List.not_mem_nil
  refine ⟨hiff, fun hfits => ?_⟩
  have hstart : (Backend.start redis : Backend Addr).Simulates codecs (.start redis) :=
    ⟨rfl, rfl, rfl⟩
  exact Backend.readAll_simulates env codecs frames hlong hstart fun e he =>
    (hiff.mpr hfits e he).length_le

/-- An update that finishes tasks. -/
def updateOf (ids : List Int32) : Request := .UPDATE_TASK { finished_task_ids := ids }

/-- The frames of requests, all from the address 0. -/
def framesOf (requests : List Request) : List (ℕ × Bytes) :=
  requests.map fun request => (0, request.body .wire)

lemma requestsOf_framesOf {requests : List Request} (h : ∀ request ∈ requests, request.Typed) :
    requestsOf .wire (framesOf requests) = requests.map fun request => (0, request) := by
  rw [requestsOf, framesOf, List.filterMap_map, ← List.filterMap_eq_map]
  refine List.filterMap_congr fun request hrequest => ?_
  rw [Function.comp_apply, requestOf_body wire_roundTrips (h request hrequest)]
  rfl

lemma typed_updateOf (ids : List Int32) : (updateOf ids).Typed :=
  ⟨Double.is_zero, Double.is_zero⟩

lemma two_le_length_framesOf (requests : List Request) :
    ∀ f ∈ framesOf requests, 2 ≤ f.2.length := by
  intro f hf
  obtain ⟨request, -, rfl⟩ := List.mem_map.mp hf
  exact request.two_le_length_body

/-- An update and a query of what it leaves. -/
def updateAndQuery : List Request := [updateOf [7], .QUERY_TASK {}]

/-- The query fits, and both are answered. -/
theorem responses_sendable_updateAndQuery :
    Codecs.wire.Sized ∧ (∀ f ∈ framesOf updateAndQuery, 2 ≤ f.2.length) ∧
      (∀ e ∈ (Server.run Env.wire (requestsOf .wire (framesOf updateAndQuery))
        (.start (.working fun _ => none))).log, Sendable .wire e.2) ∧
      ∃ B, Backend.readAll Env.wire .wire ((framesOf updateAndQuery).map fun f =>
        (f.1, .single f.2)) (.start (.working fun _ => none)) = .ok B := by
  have htyped : ∀ request ∈ updateAndQuery, request.Typed := by
    intro request hrequest
    rcases List.mem_cons.mp hrequest with rfl | hlater
    · exact typed_updateOf [7]
    · obtain rfl := List.mem_singleton.mp hlater
      trivial
  have hlong : ∀ f ∈ framesOf updateAndQuery, 2 ≤ f.2.length :=
    two_le_length_framesOf updateAndQuery
  obtain ⟨hiff, hall⟩ := responses_sendable_iff Env.wire .wire wire_sized
    (framesOf updateAndQuery) hlong (.working fun _ => none) fun _ => rfl
  have hfits : Run.Guarded (Carrying.step Env.wire) (QueryFits Env.wire)
      (requestsOf .wire (framesOf updateAndQuery)) (.start (.working fun _ => none)) := by
    rw [requestsOf_framesOf htyped]
    refine ⟨fun req hreq => Request.noConfusion hreq, fun req hreq c hc => ?_, trivial⟩
    have hids : c.ids = [7] := by
      obtain rfl := Option.some.inj hc
      rfl
    have hpacked : packedSize c.ids.dedup ≤ 65480 := by
      rw [hids]
      decide
    have hbounds := querySize_bounds req.rpcid c.ids.dedup c.position_x c.position_y
      (hpacked.trans_lt (by norm_num))
    rw [Carried.size]
    omega
  obtain ⟨B, hread, -⟩ := hall hfits
  exact ⟨wire_sized, hlong, hiff.mpr hfits, B, hread⟩

/-! ### A response that is too long -/

/-- The updates of tasks from one address. -/
def updatesOf (addr : Addr) (idss : List (List Int32)) : List (Addr × Request) :=
  idss.map fun ids => (addr, updateOf ids)

/-- The ids that have been carried to a player. -/
def Board.idsOf (board : Board) (gid : Int32) : List Int32 := ((board gid).getD {}).ids

/-- **The step**: an update in a working store, from an address without a role, carries its
ids to the player 0. -/
lemma carried_update (hworking : T.server.redis.Working) {addr : Addr}
    (hfree : T.server.role_manager_.roles_ addr = none) (ids : List Int32) :
    (T.step env (addr, updateOf ids)).board.idsOf 0 = T.board.idsOf 0 ++ ids := by
  have hid : playerId T.server addr = 0 := by
    rw [playerId, RoleInjectHandler.handedRole_unbound hfree]
    rfl
  rw [Carrying.step, updateOf, Board.idsOf, Board.idsOf]
  simp only [hworking 1, if_true, hid, Function.update_self, Option.getD_some, Board.shown,
    hworking 0, Carried.add]

variable (env) in
/-- **The run**: the ids of all updates come together. -/
lemma carried_updatesOf (addr : Addr) (idss : List (List Int32))
    (hworking : T.server.redis.Working) (hfree : T.server.role_manager_.roles_ addr = none) :
    let T' := (updatesOf addr idss).foldl (Carrying.step env) T
    T'.server.redis.Working ∧ T'.server.role_manager_.roles_ addr = none ∧
      T'.board.idsOf 0 = T.board.idsOf 0 ++ idss.flatten := by
  induction idss generalizing T with
  | nil => exact ⟨hworking, hfree, (List.append_nil _).symm⟩
  | cons ids idss ih =>
      have hfree' : (T.step env (addr, updateOf ids)).server.role_manager_.roles_ addr = none :=
        T.server.roles_step_unbound env hfree fun req h => Request.noConfusion h
      obtain ⟨hworking₁, hfree₁, hids⟩ := ih (T := T.step env (addr, updateOf ids))
        (Server.working_step env hworking _) hfree'
      refine ⟨hworking₁, hfree₁, hids.trans ?_⟩
      rw [carried_update hworking hfree, List.flatten_cons, List.append_assoc]

/-- The ids from `-lo - 1` down, `n` of them. -/
def negativeIds (lo n : ℕ) : List Int32 :=
  (List.range n).map fun k => Int32.ofInt (-((lo + k : ℕ) + 1))

@[simp] lemma length_negativeIds (lo n : ℕ) : (negativeIds lo n).length = n := by
  rw [negativeIds, List.length_map, List.length_range]

lemma toInt_negativeId {m : ℕ} (h : m < 2 ^ 31) :
    (Int32.ofInt (-((m : ℕ) + 1))).toInt = -(m + 1) :=
  Int32.toInt_ofInt_of_le (by omega) (by omega)

lemma neg_of_mem_negativeIds {lo n : ℕ} (h : lo + n < 2 ^ 31) :
    ∀ t ∈ negativeIds lo n, t < 0 := by
  intro t ht
  obtain ⟨k, hk, rfl⟩ := List.mem_map.mp ht
  have hlt : k < n := List.mem_range.mp hk
  rw [Int32.lt_iff_toInt_lt, toInt_negativeId (by omega)]
  change -((lo + k : ℕ) + 1 : ℤ) < 0
  omega

lemma negativeIds_nodup {lo n : ℕ} (h : lo + n < 2 ^ 31) : (negativeIds lo n).Nodup := by
  refine List.nodup_range.map_on fun a ha b hb hab => ?_
  have ha' : a < n := List.mem_range.mp ha
  have hb' : b < n := List.mem_range.mp hb
  have hint := congrArg Int32.toInt hab
  rw [toInt_negativeId (by omega), toInt_negativeId (by omega)] at hint
  omega

lemma negativeIds_add (m n : ℕ) : negativeIds 0 m ++ negativeIds m n = negativeIds 0 (m + n) := by
  rw [negativeIds, negativeIds, negativeIds, List.range_add, List.map_append, List.map_map]
  simp only [Function.comp_def, Nat.zero_add]

/-- Negative ids take ten octets each. -/
lemma packedSize_negativeIds {n : ℕ} (hn : n < 2 ^ 31) :
    packedSize (negativeIds 0 n) = 10 * n := by
  have hle := packedSize_le (negativeIds 0 n)
  have hge := packedSize_of_neg (neg_of_mem_negativeIds (show 0 + n < 2 ^ 31 by omega))
  rw [length_negativeIds] at hle hge
  omega

/-- A query behind updates with `n` negative ids takes ten octets for each. -/
lemma size_answer_negativeIds (h : Holds env T) (hworking : T.server.redis.Working) {addr : Addr}
    (hfree : T.server.role_manager_.roles_ addr = none) {n : ℕ} (hn : 0 < n) (hlt : n < 2 ^ 17)
    (hids : T.board.idsOf 0 = negativeIds 0 n) :
    10 * n ≤ (T.server.answer env (addr, .QUERY_TASK {})).size ∧
      (T.server.answer env (addr, .QUERY_TASK {})).size ≤ 10 * n + 44 := by
  obtain ⟨c, hc⟩ : ∃ c, T.board 0 = some c := by
    refine Option.ne_none_iff_exists'.mp fun hnone => ?_
    have hlength := congrArg List.length hids
    rw [Board.idsOf, hnone, length_negativeIds] at hlength
    exact hn.ne hlength
  have hcids : c.ids = negativeIds 0 n := by
    rw [← hids, Board.idsOf, hc, Option.getD_some]
  have hshown : T.board.shown env T.server.redis (playerId T.server addr) = some c := by
    rw [playerId, RoleInjectHandler.handedRole_unbound hfree, Board.shown, hworking 0]
    exact hc
  have hpacked : packedSize c.ids.dedup = 10 * n := by
    rw [hcids, (negativeIds_nodup (by omega)).dedup, packedSize_negativeIds (by omega)]
  have hbounds := querySize_bounds 0 c.ids.dedup c.position_x c.position_y (by omega)
  rw [hpacked] at hbounds
  rw [h.size_answer {} hshown]
  exact hbounds

/-- Updates in an empty store with so many ids, and the query behind them. -/
lemma exists_long_response (env : Env) (addr : Addr) {idss : List (List Int32)} {n : ℕ}
    (hids : idss.flatten = negativeIds 0 n) (hn : 6554 ≤ n) (hlt : n < 2 ^ 17) :
    ∃ response, (addr, .QUERY_TASK {}, response) ∈ (Server.run env
        (updatesOf addr idss ++ [(addr, .QUERY_TASK {})]) (.start (.working fun _ => none))).log ∧
      65533 < response.size ∧ response.size < 2 ^ 31 - 2 := by
  obtain ⟨T, hT⟩ : ∃ T : Carrying Addr, T =
    (updatesOf addr idss).foldl (Carrying.step env) (.start (.working fun _ => none)) := ⟨_, rfl⟩
  have hholds : Holds env T := hT ▸ List.foldlRecOn _ _ (holds_start fun _ => rfl)
    fun _ h input _ => holds_step env h input
  have hserver : T.server = Server.run env (updatesOf addr idss)
      (.start (.working fun _ => none)) :=
    hT ▸ (List.foldl_hom Carrying.server fun _ _ => rfl).symm
  obtain ⟨hworking, hfree, hcarried⟩ := carried_updatesOf env addr idss
    (T := .start (.working fun _ => none)) (fun _ => rfl) rfl
  rw [← hT] at hworking hfree hcarried
  have hsize := size_answer_negativeIds hholds hworking hfree (by omega) hlt
    (hcarried.trans ((List.nil_append _).trans hids))
  refine ⟨T.server.answer env (addr, .QUERY_TASK {}), ?_, by omega, by omega⟩
  rw [Server.run, List.foldl_append]
  change _ ∈ ((Server.run env (updatesOf addr idss) _).step env _).log
  rw [← hserver, Server.log_step_answer]
  exact List.mem_cons_self

/-- The frame of an update is within the maximum with up to 6000 ids. -/
lemma length_updateOf {ids : List Int32} (h : ids.length ≤ 6000) :
    ((updateOf ids).body .wire).length ≤ 65534 := by
  have hfields : TaskUpdateReq.format.fields { finished_task_ids := ids } = packed 1 ids := by
    simp [TaskUpdateReq.format, TaskUpdateReq.fields, written]
  have hlength : ((updateOf ids).body .wire).length = 2 + packedFieldSize ids := by
    rw [Request.body, List.length_append, Bytes.toLE_length, ← size_packed_one, size, ← hfields]
    rfl
  have hsize := packedSize_le ids
  have hfield : packedFieldSize ids ≤ packedSize ids + 3 + 1 :=
    packedFieldSize_le (by norm_num) (by omega)
  omega

/-- Two updates with 3300 tasks each, and a query. -/
def twoUpdatesAndQuery : List Request :=
  [updateOf (negativeIds 0 3300), updateOf (negativeIds 3300 3300)] ++ [.QUERY_TASK {}]

/-- **Too long**: the frames are within the maximum, and the encoder throws at the
response to the third one. -/
theorem query_response_too_long :
    (∀ f ∈ framesOf twoUpdatesAndQuery, 2 ≤ f.2.length ∧ f.2.length ≤ 65534) ∧
      ∃ e ∈ (Server.run Env.wire (requestsOf .wire (framesOf twoUpdatesAndQuery))
          (.start (.working fun _ => none))).log,
        outbound .wire (e.2.1.cmd_id, e.2.2.message .wire) = .error .doesNotFit ∧
          ¬ Sendable .wire e.2 := by
  refine ⟨?_, ?_⟩
  · intro f hf
    refine ⟨two_le_length_framesOf _ f hf, ?_⟩
    obtain ⟨request, hrequest, rfl⟩ := List.mem_map.mp hf
    rcases List.mem_append.mp hrequest with hupdate | hquery
    · obtain ⟨ids, hids, rfl⟩ : ∃ ids, ids.length ≤ 6000 ∧ updateOf ids = request := by
        rcases List.mem_pair.mp hupdate with rfl | rfl
        · exact ⟨_, by simp, rfl⟩
        · exact ⟨_, by simp, rfl⟩
      exact length_updateOf hids
    · obtain rfl := List.mem_singleton.mp hquery
      decide
  have htyped : ∀ request ∈ twoUpdatesAndQuery, request.Typed := by
    intro request hrequest
    rcases List.mem_append.mp hrequest with hupdate | hquery
    · rcases List.mem_pair.mp hupdate with rfl | rfl <;> exact typed_updateOf _
    · obtain rfl := List.mem_singleton.mp hquery
      trivial
  have hids : [negativeIds 0 3300, negativeIds 3300 3300].flatten = negativeIds 0 6600 := by
    rw [List.flatten_cons, List.flatten_singleton, negativeIds_add]
  obtain ⟨response, hlog, hlong, hshort⟩ :=
    exists_long_response Env.wire 0 hids (by norm_num) (by norm_num)
  refine ⟨(0, .QUERY_TASK {}, response), ?_, outbound_doesNotFit wire_sized hlong hshort,
    (sendable_iff wire_sized _).not.mpr (not_le.mpr hlong)⟩
  rw [requestsOf_framesOf htyped, twoUpdatesAndQuery, List.map_append]
  exact hlog

end LittleB
