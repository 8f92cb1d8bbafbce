import LittleB.Game
import LittleB.Pipeline.Conversations

/-!
The game over sockets: what the server is for, from octets to octets.

* `recordsWithin_of_players`: the finished tasks of the players are those of the records;
* `ShowsLog.responsesTo`: a log that shows the answers of the game shows each connection
  its own;
* `clients_play_game`: **the game over sockets**.
-/

namespace LittleB

variable (env : Env) {Addr : Type} [DecidableEq Addr]

lemma recordsWithin_of_players {db : Bytes → Option Bytes} {ids : List Int32}
    (h : ∀ id player, (World.of env db).players id = some player → ∀ t ∈ player.finished, t ∈ ids) :
    RecordsWithin env ids db := by
  intro id t hfinished
  rw [storedFinished] at hfinished
  cases hstored : storedTaskInfo env db id with
  | none =>
      rw [hstored, Option.getD_none, DBTaskInfo.finished_empty] at hfinished
      exact absurd hfinished (Set.notMem_empty t)
  | some info =>
      rw [hstored] at hfinished
      refine h id info.player ?_ t hfinished
      rw [World.of_players, hstored, Option.map_some]

/-- The responses to a connection show the answers to its requests. -/
lemma ShowsLog.responsesTo {S : Server Addr} {played : List ((Addr × Request) × Verdict)}
    (h : ShowsLog S.log played) (addr : Addr) :
    List.Forall₂ (fun response e => Verdict.Shows e.1.2 e.2 response) (S.responsesTo addr)
      (played.filter fun e => e.1.1 = addr) := by
  rw [Server.responsesTo, List.forall₂_map_left_iff]
  refine (List.rel_filter ?_ h).imp fun e f hshows => ?_
  · intro e f hshows
    simp only [decide_eq_true_eq, ← hshows.1]
  · rw [← hshows.1]
    exact hshows.2

/-- **The game over sockets**: let clients converse with the server over a working store, all
tasks that players have finished being among the ids of their updates.  Then there is one
order of the requests of all clients, that of each client being its own, in which the game
can be played: what each client reads shows, request by request, the answers of the game to
it, and the roles and the store that are left stand for what the game ends with. -/
theorem clients_play_game {codecs : Codecs} (hcodecs : codecs.RoundTrips) (hsized : codecs.Sized)
    {inputs : List (Addr × SocketRead)} {requests : Addr → List Request} {tail : Addr → Bytes}
    {ids : List Int32} {fuel : ℕ} (h : Conversing codecs inputs requests tail ids fuel)
    (db : Bytes → Option Bytes)
    (hplayers : ∀ id player, (World.of env db).players id = some player →
      ∀ t ∈ player.finished, t ∈ ids) :
    ∃ (order : List (Addr × Request)) (T : Sockets Addr),
      (∀ addr, (order.filter fun input => input.1 = addr).map Prod.snd = requests addr) ∧
      Sockets.run env codecs fuel inputs (.start (.working db)) = .ok T ∧
      ⟨T.backend.role_manager_.roles_, World.of env T.backend.redis.db⟩
        = ((Game.machine env.outOfRange Addr).run order ⟨fun _ => none, World.of env db⟩).2 ∧
      ∀ addr, ∃ responses,
        readResponses codecs (T.backend.writtenTo addr) = (responses.map some, []) ∧
        List.Forall₂ (fun response e => Verdict.Shows e.1.2 e.2 response) responses
          (((Game.machine env.outOfRange Addr).run order ⟨fun _ => none, World.of env db⟩).1.filter
            fun e => e.1.1 = addr) := by
  obtain ⟨order, T, horder, hT, hsim, hread⟩ := h.run env hcodecs hsized (.working db)
    (recordsWithin_of_players env hplayers) fun _ => errorsWithin_ok
  obtain ⟨-, hstands, hshows⟩ := (server_refines env).run order
    (s := (Server.start (.working db) : Server Addr)) fun _ => rfl
  have hlog := showsLog_run env rfl hshows
  rw [(Server.run_machine env _ _).1] at hstands
  refine ⟨order, T, horder, hT, ?_, fun addr => ⟨_, hread addr, hlog.responsesTo addr⟩⟩
  rw [hsim.role_manager_, hsim.redis]
  exact hstands

/-- Two clients, one of which registers and one of which plays without a role. -/
theorem clients_play_game_two :
    ∃ (order : List (ℕ × Request)) (T : Sockets ℕ),
      (∀ addr, (order.filter fun input => input.1 = addr).map Prod.snd
        = registrationAndUpdate addr) ∧
      Sockets.run Env.wire .wire 100 readsOfTwo (.start (.working fun _ => none)) = .ok T ∧
      ∀ addr, ∃ responses,
        readResponses .wire (T.backend.writtenTo addr) = (responses.map some, []) ∧
        List.Forall₂ (fun response e => Verdict.Shows e.1.2 e.2 response) responses
          (((Game.machine Env.wire.outOfRange ℕ).run order
            ⟨fun _ => none, World.of Env.wire fun _ => none⟩).1.filter fun e => e.1.1 = addr) := by
  obtain ⟨order, T, horder, hT, -, hread⟩ := clients_play_game Env.wire wire_roundTrips
    wire_sized conversing_readsOfTwo (fun _ => none) fun id player hplayer => by cases hplayer
  exact ⟨order, T, horder, hT, hread⟩

end LittleB
