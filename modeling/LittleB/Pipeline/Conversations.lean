import LittleB.Capacity
import LittleB.Pipeline.Sockets
import LittleB.RoundTrips

/-!
What clients read of the server: requests and responses at the two ends of the sockets.

* `Server.responsesTo`, `answers_responsesTo`: the responses to an address, each to its
  request;
* `requests_requestsOf`: the requests that a connection has put into frames are found there;
* `readResponses`, `readResponses_answerFrame`: what a client reads out of the octets that are
  written to it;
* `Conversing`: clients that send requests in frames, `Conversing.run` what comes of it;
* `clients_read_answers`: **conversations**: every client reads one response to each of its
  requests.
-/

namespace LittleB

open Framer

variable {env : Env} {codecs : Codecs} {Addr : Type} [DecidableEq Addr]

/-! ### The responses of a connection -/

/-- The responses to an address, the first one first. -/
def Server.responsesTo (S : Server Addr) (addr : Addr) : List Response :=
  (S.log.reverse.filter fun e => e.1 = addr).map fun e => e.2.2

/-- A run gives an address one response to each of its requests, in their order. -/
lemma Server.answers_responsesTo (env : Env) (inputs : List (Addr × Request)) (redis : Redis)
    (addr : Addr) :
    List.Forall₂ Answers ((inputs.filter fun input => input.1 = addr).map Prod.snd)
      ((Server.run env inputs (.start redis)).responsesTo addr) := by
  have hrequests := Server.requests_run env inputs (S := .start redis)
  change _ = [] ++ inputs at hrequests
  have hanswers := Server.answers_run env (S := .start redis)
    (fun e he => absurd he List.not_mem_nil) inputs
  rw [List.nil_append] at hrequests
  have hinputs : (inputs.filter fun input => input.1 = addr).map Prod.snd
      = ((Server.run env inputs (.start redis)).log.reverse.filter fun e => e.1 = addr).map
          fun e => e.2.1 := by
    conv_lhs => rw [← hrequests, List.filter_map, List.map_map]
    rfl
  rw [hinputs, Server.responsesTo, List.forall₂_map_left_iff, List.forall₂_map_right_iff,
    List.forall₂_same]
  refine fun e he => hanswers e ?_
  exact List.mem_reverse.mp (List.mem_of_mem_filter he)

/-! ### Requests in frames -/

/-- The requests of an address are those of its frames. -/
lemma filter_requestsOf (codecs : Codecs) (frames : List (Addr × Bytes)) (addr : Addr) :
    ((requestsOf codecs frames).filter fun input => input.1 = addr).map Prod.snd
      = ((frames.filter fun f => f.1 = addr).map Prod.snd).filterMap (requestOf codecs) := by
  induction frames with
  | nil => rfl
  | cons f frames ih =>
      have hcons : requestsOf codecs (f :: frames)
          = ((requestOf codecs f.2).map fun request => (f.1, request)).toList
            ++ requestsOf codecs frames := by
        rw [requestsOf, List.filterMap_cons]
        cases requestOf codecs f.2 <;> rfl
      rw [hcons, List.filter_append, List.map_append, ih]
      by_cases haddr : f.1 = addr
      · rw [List.filter_cons_of_pos (by simpa using haddr), List.map_cons, List.filterMap_cons]
        cases requestOf codecs f.2 with
        | none => rfl
        | some request => simp [haddr]
      · rw [List.filter_cons_of_neg (by simpa using haddr)]
        cases requestOf codecs f.2 with
        | none => rfl
        | some request => simp [haddr]

/-- The requests that a connection has put into frames are found there. -/
lemma requests_requestsOf (hcodecs : codecs.RoundTrips) {frames : List (Addr × Bytes)}
    {addr : Addr} {requests : List Request} (htyped : ∀ request ∈ requests, request.Typed)
    (hframes : (frames.filter fun f => f.1 = addr).map Prod.snd
      = requests.map (Request.body codecs)) :
    ((requestsOf codecs frames).filter fun input => input.1 = addr).map Prod.snd = requests := by
  rw [filter_requestsOf, hframes, List.filterMap_map]
  have hfound : requests.filterMap (requestOf codecs ∘ Request.body codecs)
      = requests.filterMap some :=
    List.filterMap_congr fun request hrequest => requestOf_body hcodecs (htyped request hrequest)
  rw [hfound, List.filterMap_some]

/-! ### Responses in frames -/

/-- What a client reads out of the octets it has received: the responses in the frames, and
the beginning of the next frame. -/
def readResponses (codecs : Codecs) (bs : Bytes) : List (Option Response) × Bytes :=
  ((framer.drain bs).1.map (responseOf codecs), (framer.drain bs).2)

omit [DecidableEq Addr] in
/-- The frames of answers that fit are read as the answers. -/
lemma readResponses_answerFrame (hcodecs : codecs.RoundTrips)
    {es : List (Addr × Request × Response)} (hanswers : ∀ e ∈ es, Answers e.2.1 e.2.2)
    (hfits : ∀ e ∈ es, (e.2.2.message codecs).SerializeToArray.length ≤ 65533) :
    readResponses codecs (es.flatMap fun e => answerFrame codecs e.2)
      = (es.map fun e => some e.2.2, []) := by
  let body (e : Addr × Request × Response) : Bytes :=
    responseBody e.2.1.cmd_id (e.2.2.message codecs).SerializeToArray
  have hframe (e : Addr × Request × Response) : answerFrame codecs e.2 = frame (body e) := by
    rw [frame, lengthPrefix, responseBody_length]
    rfl
  have hfit : ∀ b ∈ es.map body, b.length < 65536 := by
    intro b hb
    obtain ⟨e, he, rfl⟩ := List.mem_map.mp hb
    have hshort := hfits e he
    rw [responseBody_length]
    omega
  have hdrain := framer_encodes.drain_flatMap hfit (show framer.step [] = none from rfl)
  rw [List.append_nil, List.flatMap_map] at hdrain
  rw [readResponses, List.flatMap_congr fun e _ => hframe e, hdrain, List.map_map]
  refine congrArg (·, []) (List.map_congr_left fun e he => ?_)
  exact responseOf_responseBody hcodecs (hanswers e he)

/-! ### Conversations -/

/-- Clients that send these requests, each in a frame of up to 65534 octets, with a beginning
of one more behind them: the octets come in reads of any sizes, in any order among the
clients, no frame being cut into segments, and the updates list some ids only, at most
6548 of them. -/
structure Conversing (codecs : Codecs) (inputs : List (Addr × SocketRead))
    (requests : Addr → List Request) (tail : Addr → Bytes) (ids : List Int32) (fuel : ℕ) :
    Prop where
  typed : ∀ addr, ∀ request ∈ requests addr,
    request.Typed ∧ (request.body codecs).length ≤ 65534 ∧ UpdatesWithin ids request
  tails : ∀ addr, ∃ last s : Bytes, last.length ≤ 65534 ∧ s ≠ [] ∧ tail addr ++ s = frame last
  streams : ∀ addr, received (Sockets.readsOf addr inputs)
    = (requests addr).flatMap (fun request => frame (request.body codecs)) ++ tail addr
  enough : ∀ addr, (received (Sockets.readsOf addr inputs)).length < fuel
  whole : ∀ f ∈ Sockets.arrivals fuel inputs, f.2.next = []
  few : ids.length ≤ 6548

section Conversing

variable (env) (hcodecs : codecs.RoundTrips) (hsized : codecs.Sized) (redis : Redis)
  {inputs : List (Addr × SocketRead)} {requests : Addr → List Request} {tail : Addr → Bytes}
  {ids : List Int32} {fuel : ℕ}

include hcodecs hsized

/-- The requests in the order in which their frames are complete, and what is read of the
responses. -/
lemma Conversing.run (h : Conversing codecs inputs requests tail ids fuel)
    (hrecords : RecordsWithin env ids redis.db)
    (herrors : ∀ n, ErrorsWithin env ids (redis.outcome n)) :
    ∃ (order : List (Addr × Request)) (T : Sockets Addr),
      (∀ addr, (order.filter fun input => input.1 = addr).map Prod.snd = requests addr) ∧
      Sockets.run env codecs fuel inputs (.start redis) = .ok T ∧
      T.backend.Simulates codecs (Server.run env order (.start redis)) ∧
      ∀ addr, readResponses codecs (T.backend.writtenTo addr)
        = (((Server.run env order (.start redis)).responsesTo addr).map some, []) := by
  have hbodies : ∀ addr, ∀ b ∈ (requests addr).map (Request.body codecs), 2 ≤ b.length ∧
      b.length ≤ 65534 := by
    intro addr b hb
    obtain ⟨request, hrequest, rfl⟩ := List.mem_map.mp hb
    exact ⟨request.two_le_length_body, (h.typed addr request hrequest).2.1⟩
  have hstreams : ∀ addr, received (Sockets.readsOf addr inputs)
      = ((requests addr).map (Request.body codecs)).flatMap frame ++ tail addr := by
    intro addr
    rw [h.streams addr, List.flatMap_map]
  obtain ⟨hframes, hrun⟩ :=
    Sockets.run_simulates env codecs redis hbodies h.tails hstreams h.enough h.whole
  generalize (Sockets.arrivals fuel inputs).map (fun f => (f.1, f.2.chain)) = frames
    at hframes hrun
  have horder (addr : Addr) : ((requestsOf codecs frames).filter fun input =>
      input.1 = addr).map Prod.snd = requests addr :=
    requests_requestsOf hcodecs (fun request hrequest => (h.typed addr request hrequest).1)
      (hframes addr)
  generalize requestsOf codecs frames = order at hrun horder
  -- the ids bound the responses
  have hupdates : ∀ input ∈ order, UpdatesWithin ids input.2 := by
    intro input hinput
    refine (h.typed input.1 input.2 ?_).2.2
    rw [← horder input.1]
    exact List.mem_map_of_mem (List.mem_filter.mpr ⟨hinput, by simp⟩)
  have hstart : (Server.start redis : Server Addr).Within env ids :=
    ⟨hrecords, herrors, fun e he => absurd he List.not_mem_nil⟩
  have hlists := (hstart.run hupdates).lists
  have hanswers : ∀ e ∈ (Server.run env order (.start redis)).log, Answers e.2.1 e.2.2 :=
    Server.answers_run env (fun e he => absurd he List.not_mem_nil) order
  have hfits : ∀ e ∈ (Server.run env order (.start redis)).log,
      (e.2.2.message codecs).SerializeToArray.length ≤ 65533 := fun e he =>
    (sendable_of_listsWithin hsized (hanswers e he) (hlists e he) h.few).length_le
  obtain ⟨T, hT, hsim, -⟩ := hrun hfits
  refine ⟨order, T, horder, hT, hsim, fun addr => ?_⟩
  have hmem : ∀ e ∈ (Server.run env order (.start redis)).log.reverse.filter
      (fun e => e.1 = addr), e ∈ (Server.run env order (.start redis)).log :=
    fun e he => List.mem_reverse.mp (List.mem_of_mem_filter he)
  rw [hsim.writtenTo, readResponses_answerFrame hcodecs (fun e he => hanswers e (hmem e he))
    fun e he => hfits e (hmem e he), Server.responsesTo, List.map_map]
  rfl

/-- **Conversations**: let clients converse with the server, and let the finished tasks in the
records of the store, and what the texts of errors parse to, be among the ids of their
updates.  Then there is one order of the requests of all clients, that of each client being
its own, in which the server serves them: what each client reads is one response to each of
its requests, in their order, and these are the responses of the typed server. -/
theorem clients_read_answers (h : Conversing codecs inputs requests tail ids fuel)
    (hrecords : RecordsWithin env ids redis.db)
    (herrors : ∀ n, ErrorsWithin env ids (redis.outcome n)) :
    ∃ (order : List (Addr × Request)) (T : Sockets Addr),
      (∀ addr, (order.filter fun input => input.1 = addr).map Prod.snd = requests addr) ∧
      Sockets.run env codecs fuel inputs (.start redis) = .ok T ∧
      ∀ addr, ∃ responses, List.Forall₂ Answers (requests addr) responses ∧
        responses = (Server.run env order (.start redis)).responsesTo addr ∧
        readResponses codecs (T.backend.writtenTo addr) = (responses.map some, []) := by
  obtain ⟨order, T, horder, hT, -, hread⟩ := h.run env hcodecs hsized redis hrecords herrors
  refine ⟨order, T, horder, hT, fun addr => ⟨_, ?_, rfl, hread addr⟩⟩
  rw [← horder addr]
  exact Server.answers_responsesTo env order redis addr

end Conversing

/-- A registration whose frame is cut inside the length field, and an update of another
client in between. -/
def registrationAndUpdate (addr : ℕ) : List Request :=
  if addr = 0 then [.REGISTER { account := "a", password := "b" }]
  else if addr = 1 then [.UPDATE_TASK { rpcid := 5, finished_task_ids := [7] }] else []

/-- The frame of the request of a client. -/
def frameOfTwo (addr : ℕ) : Bytes :=
  (registrationAndUpdate addr).flatMap fun request => frame (request.body .wire)

/-- The reads that bring them. -/
def readsOfTwo : List (ℕ × SocketRead) :=
  [(0, ⟨false, (frameOfTwo 0).take 1⟩), (1, ⟨false, frameOfTwo 1⟩),
    (0, ⟨false, (frameOfTwo 0).drop 1⟩)]

lemma readsOf_readsOfTwo (addr : ℕ) :
    received (Sockets.readsOf addr readsOfTwo) = frameOfTwo addr ++ [] := by
  rw [List.append_nil]
  by_cases h0 : addr = 0
  · subst h0
    change (frameOfTwo 0).take 1 ++ ((frameOfTwo 0).drop 1 ++ []) = _
    rw [List.append_nil, List.take_append_drop]
  by_cases h1 : addr = 1
  · subst h1
    exact List.append_nil _
  have hnone : Sockets.readsOf addr readsOfTwo = [] := by
    simp [Sockets.readsOf, readsOfTwo, Ne.symm h0, Ne.symm h1]
  rw [hnone, frameOfTwo, registrationAndUpdate, if_neg h0, if_neg h1]
  rfl

lemma conversing_readsOfTwo :
    Conversing .wire readsOfTwo registrationAndUpdate (fun _ => []) [7] 100 := by
  constructor
  case typed =>
    intro addr request hrequest
    rw [registrationAndUpdate] at hrequest
    split_ifs at hrequest
    · obtain rfl := List.mem_singleton.mp hrequest
      exact ⟨trivial, by decide, fun req hreq => by cases hreq⟩
    · obtain rfl := List.mem_singleton.mp hrequest
      refine ⟨⟨Double.is_zero, Double.is_zero⟩, by decide, fun req hreq => ?_⟩
      cases hreq
      exact List.Subset.refl _
    · cases hrequest
  case tails => exact fun _ => ⟨[], [0, 0], by decide, by decide, rfl⟩
  case streams => exact readsOf_readsOfTwo
  case enough =>
    intro addr
    rw [readsOf_readsOfTwo, frameOfTwo, registrationAndUpdate]
    split_ifs <;> decide
  case whole => exact Sockets.arrivals_contiguous (by decide)
  case few => decide

/-- Both clients read their answers. -/
theorem clients_read_answers_two :
    ∃ T, Sockets.run Env.wire .wire 100 readsOfTwo (.start (.working fun _ => none)) = .ok T ∧
      ∀ addr, ∃ responses, List.Forall₂ Answers (registrationAndUpdate addr) responses ∧
        readResponses .wire (T.backend.writtenTo addr) = (responses.map some, []) := by
  obtain ⟨order, T, -, hT, hread⟩ := clients_read_answers Env.wire wire_roundTrips wire_sized
    (.working fun _ => none) conversing_readsOfTwo recordsWithin_empty fun _ => errorsWithin_ok
  refine ⟨T, hT, fun addr => ?_⟩
  obtain ⟨responses, hanswers, -, hresponses⟩ := hread addr
  exact ⟨responses, hanswers, hresponses⟩

end LittleB
