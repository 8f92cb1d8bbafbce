import LittleB.Linearizable
import LittleB.Records
import LittleB.TaskErrors
import LittleB.Foundations.Machine

/-!
What the server is for: accounts, roles and the progress of players, without keys and
octets.

* `World`: what the store is about, names being C strings; `World.serve`: a request of a
  connection with the role it plays with;
* `Game`: the world with the connections, a `Machine`; `Verdict.Shows`: a response shows what
  a request comes to;
* `World.of`, `Game.of`: what a store, and the server in front of it, stand for;
* `recordsOf`, `of_update_password`, `of_update_role`, `of_update_gid`, `of_update_taskinfo`:
  the world behind a write;
* `serve_plays`: one request of a connection; `server_refines`: the server is the game with
  keys and octets; `server_plays_game`: **the requests of all connections**, one after the
  other, `threads_play_game` at the same time.
-/

namespace LittleB

open Bytes

/-! ### The game -/

/-- The tasks a player has finished, and the place of the player. -/
@[ext] structure Player where
  finished : Set Int32
  position_x : Int32
  position_y : Int32

/-- A player with further tasks finished, at another place. -/
def Player.update (outOfRange : Double → Int32) (player : Player) (req : TaskUpdateReq) : Player :=
  ⟨player.finished ∪ {t | t ∈ req.finished_task_ids}, req.position_x.toInt32 outOfRange,
    req.position_y.toInt32 outOfRange⟩

/-- The passwords and roles by the name of the account, the next player id, unless there is
no further one, and the players. -/
@[ext] structure World where
  passwords : Bytes → Option Bytes
  roles : Bytes → Option RoleInfo
  nextId : Option Int64
  players : Int32 → Option Player

/-- What a request comes to. -/
inductive Verdict where
  | login (ret : LoginRsp.ErrorCode) (is_returning_visitor : Bool)
  | register (ret : RegisterRsp.ErrorCode)
  | query (player : Option Player)
  | update
  | erase

namespace World

variable (W : World)

/-- The id behind a player id. -/
def idBehind (id : Int64) : Option Int64 :=
  if id.toInt + 1 < 2 ^ 63 then some (.ofInt (id.toInt + 1)) else none

/-- The password is checked, and a role that has not been played with is marked. -/
def login (req : LoginReq) : Verdict × World :=
  match W.passwords (c_str req.account) with
  | none => (.login .LOGIN_NOT_REGISTERED false, W)
  | some password =>
      if ofString req.password ≠ password then (.login .LOGIN_PASSWORD_WRONG false, W)
      else
        match W.roles (c_str req.account) with
        | none => (.login .UNKOWN_EORROR false, W)
        | some role =>
            if role.basic_info.is_returning_visitor then (.login .SUCCEED true, W)
            else (.login .SUCCEED false, { W with
              roles := Function.update W.roles (c_str role.basic_info.username)
                (some role.visited) })

/-- A new name gets its password, and as long as there are ids a role. -/
def register (req : RegisterReq) : Verdict × World :=
  match W.passwords (c_str req.account) with
  | some _ => (.register .ACCOUNT_ALREADY_EXIST, W)
  | none =>
      let passwords :=
        Function.update W.passwords (c_str req.account) (some (c_str req.password))
      match W.nextId with
      | none => (.register .UNKOWN_EORROR, { W with passwords })
      | some id => (.register .SUCCEED, { W with
          passwords
          nextId := idBehind id
          roles := Function.update W.roles (c_str req.account)
            (some (initialRole req.account id.toInt32)) })

variable (outOfRange : Double → Int32)

/-- A request of a connection: a login takes the role of its account, unless the connection
plays with one already, and whatever it is answered; an erased role is left without a name,
and is kept under none. -/
def serve (session : Option Session) : Request → (Verdict × Option Session) × World
  | .LOGIN req =>
      let bound := (W.roles (c_str req.account)).map fun role => ⟨req.account, role⟩
      (((W.login req).1, session <|> bound), (W.login req).2)
  | .REGISTER req => (((W.register req).1, session), (W.register req).2)
  | .QUERY_TASK _ => ((.query (W.players (sessionRole session).basic_info.player_id), session), W)
  | .UPDATE_TASK req =>
      let id := (sessionRole session).basic_info.player_id
      let player := ((W.players id).getD ⟨∅, 0, 0⟩).update outOfRange req
      ((.update, session), { W with players := Function.update W.players id (some player) })
  | .ERASE_ROLE _ =>
      ((.erase, session.map fun s => { s with role := {} }),
        { W with roles := Function.update W.roles (c_str "") (some {}) })

end World

/-- The world, with the roles that connections play with. -/
structure Game (Addr : Type) where
  sessions : Addr → Option Session
  world : World

/-- The game answers the requests of connections. -/
def Game.machine (outOfRange : Double → Int32) (Addr : Type) [DecidableEq Addr] :
    Machine (Addr × Request) Verdict (Game Addr) where
  next G input :=
    let out := G.world.serve outOfRange (G.sessions input.1) input.2
    (out.1.1, ⟨Function.update G.sessions input.1 out.1.2, out.2⟩)

/-- A response shows an answer. -/
inductive Verdict.Shows : Request → Verdict → Response → Prop
  | login (req : LoginReq) (ret : LoginRsp.ErrorCode) (is_returning_visitor : Bool) :
      Shows (.LOGIN req) (.login ret is_returning_visitor)
        (.LOGIN (.answer req.rpcid ret is_returning_visitor))
  | register (req : RegisterReq) (ret : RegisterRsp.ErrorCode) :
      Shows (.REGISTER req) (.register ret) (.REGISTER (.answer req.rpcid ret))
  | noPlayer (req : TaskQueryReq) :
      Shows (.QUERY_TASK req) (.query none) (.QUERY_TASK (.failure req.rpcid))
  | player (req : TaskQueryReq) (player : Player) (done_tasks : List Int32)
      (hnodup : done_tasks.Nodup) (hmem : ∀ t, t ∈ done_tasks ↔ t ∈ player.finished) :
      Shows (.QUERY_TASK req) (.query (some player)) (.QUERY_TASK
        { rpcid := req.rpcid, error := ErrorCode.SUCCEED.number
          message := ErrorCode_Name .SUCCEED, done_tasks
          position_x := .ofInt32 player.position_x, position_y := .ofInt32 player.position_y })
  | update (req : TaskUpdateReq) :
      Shows (.UPDATE_TASK req) .update (.UPDATE_TASK (.answer req.rpcid .SUCCEED))
  | erase (req : EraseRoleReq) :
      Shows (.ERASE_ROLE req) .erase (.ERASE_ROLE (.answer req.rpcid .SUCCEED))

/-! ### What a store stands for -/

section Views

variable {N α : Type} {key : N → Bytes} (read : Option Bytes → α) (db : Bytes → Option Bytes)

/-- What the values under a family of keys are read as. -/
def recordsOf (key : N → Bytes) (read : Option Bytes → α) (db : Bytes → Option Bytes) : N → α :=
  fun name => read (db (key name))

lemma recordsOf_update [DecidableEq N] (hkey : Function.Injective key) (name : N)
    (value : Option Bytes) :
    recordsOf key read (Function.update db (key name) value)
      = Function.update (recordsOf key read db) name (read value) := by
  change read ∘ Function.update db (key name) value ∘ key = _
  rw [Function.update_comp_eq_of_injective db hkey name value, Function.comp_update]
  rfl

lemma recordsOf_update_of_ne {written : Bytes} (h : ∀ name, key name ≠ written)
    (value : Option Bytes) :
    recordsOf key read (Function.update db written value) = recordsOf key read db :=
  funext fun name => congrArg read (Function.update_of_ne (h name) value db)

end Views

variable (env : Env)

/-- The player of a record. -/
def DBTaskInfo.player (info : DBTaskInfo) : Player :=
  ⟨info.finished, info.position_x, info.position_y⟩

lemma player_parse_taskInfo (info : DBTaskInfo) :
    (env.dbTaskInfo.ParseFromArray (env.dbTaskInfo.SerializeToString info)).2.player
      = info.player := by
  obtain ⟨-, hsame⟩ := env.dbTaskInfo.parse_serialize info
  exact Player.ext hsame.finished_eq hsame.2.1 hsame.2.2

/-- The passwords in a store. -/
def passwordsOf : (Bytes → Option Bytes) → Bytes → Option Bytes :=
  recordsOf (ofString "__password_" ++ ·) fun value => value.map cstr

/-- The roles in a store. -/
def rolesOf : (Bytes → Option Bytes) → Bytes → Option RoleInfo :=
  recordsOf (ofString "__role_" ++ ·) fun value => value.bind (decodeRole env)

/-- The players in a store. -/
def playersOf : (Bytes → Option Bytes) → Int32 → Option Player :=
  recordsOf taskinfo_key fun value =>
    value.map fun value => (env.dbTaskInfo.ParseFromArray value).2.player

section Frame

variable {written : Bytes} (db : Bytes → Option Bytes) (value : Option Bytes)

/-- A write elsewhere leaves the passwords as they are. -/
lemma passwordsOf_update_of_ne (h : ∀ name, ofString "__password_" ++ name ≠ written) :
    passwordsOf (Function.update db written value) = passwordsOf db :=
  recordsOf_update_of_ne _ db h value

lemma rolesOf_update_of_ne (h : ∀ name, ofString "__role_" ++ name ≠ written) :
    rolesOf env (Function.update db written value) = rolesOf env db :=
  recordsOf_update_of_ne _ db h value

lemma playersOf_update_of_ne (h : ∀ id, taskinfo_key id ≠ written) :
    playersOf env (Function.update db written value) = playersOf env db :=
  recordsOf_update_of_ne _ db h value

end Frame

/-- The world of a store. -/
def World.of (db : Bytes → Option Bytes) : World where
  passwords := passwordsOf db
  roles := rolesOf env db
  nextId := Redis.incremented db gid_key
  players := playersOf env db

namespace World

variable (db : Bytes → Option Bytes)

lemma of_passwords (account : String) :
    (of env db).passwords (c_str account) = (db (password_key account)).map cstr := rfl

lemma of_roles (account : String) :
    (of env db).roles (c_str account) = storedRole env db account := rfl

lemma of_players (id : Int32) :
    (of env db).players id = (storedTaskInfo env db id).map DBTaskInfo.player := by
  rw [storedTaskInfo, Option.map_map]
  rfl

/-- The world behind the write of a password. -/
lemma of_update_password (account : String) (value : Bytes) :
    of env (Function.update db (password_key account) (some value))
      = { of env db with
          passwords := Function.update (of env db).passwords (c_str account)
            (some (cstr value)) } := by
  have hpasswords : passwordsOf (Function.update db (password_key account) (some value))
      = Function.update (passwordsOf db) (c_str account) (some (cstr value)) :=
    recordsOf_update _ db (List.append_right_injective (ofString "__password_")) _ _
  refine World.ext hpasswords (rolesOf_update_of_ne env db _ fun name => ?_)
    (Redis.incremented_update db (password_key_ne_gid_key account).symm _)
    (playersOf_update_of_ne env db _ fun id => taskinfo_key_ne_password_key id account)
  exact key_ne (by decide)

/-- The world behind the write of a role. -/
lemma of_update_role (account : String) (role : RoleInfo) :
    of env (Function.update db (role_key account) (some (env.roleInfo.SerializeToString role)))
      = { of env db with
          roles := Function.update (of env db).roles (c_str account) (some role) } := by
  have hroles : rolesOf env (Function.update db (role_key account)
        (some (env.roleInfo.SerializeToString role)))
      = Function.update (rolesOf env db) (c_str account)
          (decodeRole env (env.roleInfo.SerializeToString role)) :=
    recordsOf_update _ db (List.append_right_injective (ofString "__role_")) _ _
  rw [decodeRole_serialize] at hroles
  refine World.ext (passwordsOf_update_of_ne db _ fun name => ?_) hroles
    (Redis.incremented_update db (role_key_ne_gid_key account).symm _)
    (playersOf_update_of_ne env db _ fun id => taskinfo_key_ne_role_key id account)
  exact key_ne (by decide)

/-- The world behind an `incr` of the counter. -/
lemma of_update_gid (id : Int64) :
    of env (Function.update db gid_key (some (decimal id.toInt)))
      = { of env db with nextId := idBehind id } := by
  have hid : Redis.incremented (Function.update db gid_key (some (decimal id.toInt))) gid_key
      = idBehind id := by
    have hlow : -2 ^ 63 ≤ id.toInt := id.le_toInt
    simp only [Redis.incremented, Function.update_self, ofDecimal_decimal, hlow, true_and, idBehind]
  refine World.ext (passwordsOf_update_of_ne db _ fun name => ?_)
    (rolesOf_update_of_ne env db _ fun name => ?_) hid
    (playersOf_update_of_ne env db _ taskinfo_key_ne_gid_key)
  · exact key_ne_gid_key (by decide)
  · exact key_ne_gid_key (by decide)

/-- The world behind the write of a player. -/
lemma of_update_taskinfo (id : Int32) (info : DBTaskInfo) :
    of env (Function.update db (taskinfo_key id) (some (env.dbTaskInfo.SerializeToString info)))
      = { of env db with
          players := Function.update (of env db).players id (some info.player) } := by
  have hplayers : playersOf env (Function.update db (taskinfo_key id)
        (some (env.dbTaskInfo.SerializeToString info)))
      = Function.update (playersOf env db) id (some (env.dbTaskInfo.ParseFromArray
          (env.dbTaskInfo.SerializeToString info)).2.player) :=
    recordsOf_update _ db (fun g h => taskinfo_key_inj.mp) id _
  rw [player_parse_taskInfo] at hplayers
  refine World.ext (passwordsOf_update_of_ne db _ fun name => ?_)
    (rolesOf_update_of_ne env db _ fun name => ?_)
    (Redis.incremented_update db (taskinfo_key_ne_gid_key id).symm _) hplayers
  · exact key_ne (by decide)
  · exact key_ne (by decide)

end World

/-! ### One request -/

/-- A response and a store behind it are those of the game. -/
structure Plays (request : Request) (out : Verdict × World) (rsp : Response)
    (db : Bytes → Option Bytes) : Prop where
  shows : Verdict.Shows request out.1 rsp
  world : World.of env db = out.2

lemma login_plays (db : Bytes → Option Bytes) (req : LoginReq) :
    Plays env (.LOGIN req) ((World.of env db).login req)
      (.LOGIN ((MinigameFakeLoginService env req).run Redis.exec (.working db)).1)
      ((MinigameFakeLoginService env req).run Redis.exec (.working db)).2.db := by
  have hend := login_end env req (.working db)
  generalize ((MinigameFakeLoginService env req).run Redis.exec (.working db)).1 = rsp at hend ⊢
  generalize ((MinigameFakeLoginService env req).run Redis.exec (.working db)).2.db = after
    at hend ⊢
  cases hend with
  | unregistered h =>
      have hdb : db (password_key req.account) = none := h rfl
      simp only [World.login, World.of_passwords, hdb, Option.map_none]
      exact ⟨.login req _ _, rfl⟩
  | wrong value _ hdb hne =>
      replace hdb : db (password_key req.account) = some value := hdb
      simp only [World.login, World.of_passwords, hdb, Option.map_some, if_pos hne]
      exact ⟨.login req _ _, rfl⟩
  | roleless value _ hdb heq h1 =>
      replace hdb : db (password_key req.account) = some value := hdb
      have hrole : storedRole env db req.account = none := h1 rfl
      simp only [World.login, World.of_passwords, hdb, Option.map_some, World.of_roles, hrole,
        if_neg (not_not_intro heq)]
      exact ⟨.login req _ _, rfl⟩
  | accepted value role _ hdb heq _ hrole =>
      replace hdb : db (password_key req.account) = some value := hdb
      replace hrole : storedRole env db req.account = some role := hrole
      simp only [World.login, World.of_passwords, hdb, Option.map_some, World.of_roles, hrole,
        if_neg (not_not_intro heq), markedStore]
      cases hvisitor : role.basic_info.is_returning_visitor with
      | true => exact ⟨.login req _ _, rfl⟩
      | false => exact ⟨.login req _ _, World.of_update_role env db _ _⟩

lemma register_plays (db : Bytes → Option Bytes) (req : RegisterReq) :
    Plays env (.REGISTER req) ((World.of env db).register req)
      (.REGISTER ((MinigameRegisterService env req).run Redis.exec (.working db)).1)
      ((MinigameRegisterService env req).run Redis.exec (.working db)).2.db := by
  have hend := register_end env req (.working db)
  have hpassword : World.of env (withPassword req db)
      = { World.of env db with
          passwords := Function.update (World.of env db).passwords (c_str req.account)
            (some (c_str req.password)) } := by
    have hsent : cstr (c_str req.password) = c_str req.password := cstr_cstr _
    rw [withPassword, World.of_update_password, hsent]
  generalize ((MinigameRegisterService env req).run Redis.exec (.working db)).1 = rsp at hend ⊢
  generalize ((MinigameRegisterService env req).run Redis.exec (.working db)).2.db = after
    at hend ⊢
  cases hend with
  | refused h =>
      obtain ⟨value, hdb⟩ := Option.ne_none_iff_exists'.mp (h rfl)
      replace hdb : db (password_key req.account) = some value := hdb
      simp only [World.register, World.of_passwords, hdb, Option.map_some]
      exact ⟨.register req _, rfl⟩
  | unstored _ _ h1 => exact absurd rfl h1
  | uncounted _ hnew _ h2 =>
      replace hnew : db (password_key req.account) = none := hnew
      have hnone : (World.of env db).nextId = none := h2.resolve_left (not_not_intro rfl)
      simp only [World.register, World.of_passwords, hnew, Option.map_none, hnone]
      exact ⟨.register req _, hpassword.trans (World.ext rfl rfl hnone rfl)⟩
  | roleless _ _ _ _ _ _ h3 => exact absurd rfl h3
  | stored gid _ hnew _ _ hgid _ =>
      replace hnew : db (password_key req.account) = none := hnew
      replace hgid : (World.of env db).nextId = some gid := hgid
      simp only [World.register, World.of_passwords, hnew, Option.map_none, hgid]
      refine ⟨.register req _, ?_⟩
      change World.of env (registered env req gid db) = _
      rw [registered, World.of_update_role, World.of_update_gid, hpassword]

/-- An update of a record is one of its player. -/
lemma player_update (info : DBTaskInfo) (req : TaskUpdateReq) :
    (info.update env req).player = info.player.update env.outOfRange req :=
  Player.ext (info.finished_update env req) rfl rfl

lemma player_updatedInfo (db : Bytes → Option Bytes) (id : Int32) (req : TaskUpdateReq) :
    (updatedInfo env db id req).player
      = (((World.of env db).players id).getD ⟨∅, 0, 0⟩).update env.outOfRange req := by
  rw [updatedInfo, player_update, World.of_players]
  cases storedTaskInfo env db id with
  | none =>
      have hempty : ({} : DBTaskInfo).player = ⟨∅, 0, 0⟩ :=
        Player.ext DBTaskInfo.finished_empty rfl rfl
      exact congrArg (Player.update env.outOfRange · req) hempty
  | some info => rfl

/-- **The step**: a request of a connection is answered as in the game, its connection is
left with the role of the game, and the store behind it stands for the world of the game. -/
theorem serve_plays (db : Bytes → Option Bytes) (session : Option Session) (request : Request) :
    Plays env request
        (((World.of env db).serve env.outOfRange session request).1.1,
          ((World.of env db).serve env.outOfRange session request).2)
        ((RoleInjectHandler.serve env session request).run Redis.exec (.working db)).1.1
        ((RoleInjectHandler.serve env session request).run Redis.exec (.working db)).2.db ∧
      ((RoleInjectHandler.serve env session request).run Redis.exec (.working db)).1.2
        = ((World.of env db).serve env.outOfRange session request).1.2 := by
  cases request with
  | LOGIN req =>
      rw [RoleInjectHandler.serve_LOGIN, Prog.run_bind, run_PullRoleInfoFromDB env rfl,
        Prog.run_bind]
      exact ⟨login_plays env db req, rfl⟩
  | REGISTER req =>
      rw [RoleInjectHandler.serve_REGISTER, Prog.run_bind]
      exact ⟨register_plays env db req, rfl⟩
  | QUERY_TASK req =>
      rw [RoleInjectHandler.serve_handedOn env rfl, ← sessionRole, Prog.run_bind, run_QUERY_TASK,
        Prog.run_ret]
      refine ⟨⟨?_, rfl⟩, session_map_role session⟩
      change Verdict.Shows _ (.query ((World.of env db).players
        (sessionRole session).basic_info.player_id)) _
      rw [World.of_players]
      cases storedTaskInfo env db (sessionRole session).basic_info.player_id with
      | none => exact .noPlayer req
      | some info => exact .player req info.player _ info.doneTasks_nodup info.mem_doneTasks
  | UPDATE_TASK req =>
      rw [RoleInjectHandler.serve_handedOn env rfl, Prog.run_bind, run_UPDATE_TASK]
      refine ⟨⟨.update req, ?_⟩, session_map_role session⟩
      refine (World.of_update_taskinfo env db _ _).trans ?_
      rw [player_updatedInfo]
      rfl
  | ERASE_ROLE req =>
      rw [RoleInjectHandler.serve_handedOn env rfl, Prog.run_bind, RunSyncService, Prog.run_bind,
        run_EraseRoleService env rfl]
      exact ⟨⟨.erase req, World.of_update_role env db "" {}⟩, rfl⟩

/-! ### One request after the other -/

section Runs

variable {Addr : Type} [DecidableEq Addr]

/-- The game of a server. -/
def Game.of (S : Server Addr) : Game Addr := ⟨S.role_manager_.roles_, World.of env S.redis.db⟩

/-- The server answers the requests of connections. -/
def Server.machine : Machine (Addr × Request) Response (Server Addr) where
  next S input := (S.answer env input, S.step env input)

/-- **The refinement**: a server over a working store stands for its game. -/
theorem server_refines :
    Machine.Refines (Server.machine env) (Game.machine env.outOfRange Addr) (Game.of env)
      (fun S => S.redis.Working) fun input => Verdict.Shows input.2 := by
  have hplays {S : Server Addr} (input : Addr × Request) (hw : S.redis.Working) :
      Game.of env (S.step env input)
          = ((Game.machine env.outOfRange Addr).next (Game.of env S) input).2 ∧
        Verdict.Shows input.2
          ((Game.machine env.outOfRange Addr).next (Game.of env S) input).1
          (S.answer env input) := by
    obtain ⟨hserve, hsession⟩ :=
      serve_plays env S.redis.db (S.role_manager_.roles_ input.1) input.2
    rw [← hw.eq_working] at hserve hsession
    rw [Server.step, Server.answer, RoleInjectHandler.read_eq_serve, Prog.run_bind, Prog.run_ret]
    exact ⟨congrArg₂ Game.mk (congrArg (Function.update S.role_manager_.roles_ input.1) hsession)
      hserve.world, hserve.shows⟩
  exact ⟨fun input hw => Server.working_step env hw input, fun input hw => (hplays input hw).1,
    fun input hw => (hplays input hw).2⟩

/-- The machine runs the requests as the server does, its log gathering the answers. -/
lemma Server.run_machine (inputs : List (Addr × Request)) (S : Server Addr) :
    ((Server.machine env).run inputs S).2 = S.run env inputs ∧
      (S.run env inputs).log.reverse = S.log.reverse ++
        ((Server.machine env).run inputs S).1.map fun e => (e.1.1, e.1.2, e.2) := by
  induction inputs generalizing S with
  | nil => exact ⟨rfl, (List.append_nil _).symm⟩
  | cons input inputs ih =>
      obtain ⟨hstate, hlog⟩ := ih (S.step env input)
      refine ⟨hstate, hlog.trans ?_⟩
      rw [Server.log_step_answer, List.reverse_cons, List.append_assoc]
      rfl

/-- The log of a server, the last answer first, shows the answers of the game. -/
def ShowsLog (log : List (Addr × Request × Response)) (played : List ((Addr × Request) × Verdict)) :
    Prop :=
  List.Forall₂ (fun e f => (e.1, e.2.1) = f.1 ∧ Verdict.Shows e.2.1 f.2 e.2.2) log.reverse played

lemma showsLog_run {inputs : List (Addr × Request)} {S : Server Addr}
    {played : List ((Addr × Request) × Verdict)} (hlog : S.log = [])
    (h : List.Forall₂ (fun e f => e.1 = f.1 ∧ Verdict.Shows e.1.2 f.2 e.2)
      ((Server.machine env).run inputs S).1 played) :
    ShowsLog (S.run env inputs).log played := by
  rw [ShowsLog, (Server.run_machine env inputs S).2, hlog]
  exact List.forall₂_map_left_iff.mpr h

/-- **Refinement**: a server over a working store answers any run of requests as the game
does, and ends with what the game ends with. -/
theorem server_plays_game (inputs : List (Addr × Request)) (role_manager_ : RoleinfoManager Addr)
    (db : Bytes → Option Bytes) :
    Game.of env (Server.run env inputs ⟨role_manager_, .working db, []⟩)
        = ((Game.machine env.outOfRange Addr).run inputs
            ⟨role_manager_.roles_, World.of env db⟩).2 ∧
      ShowsLog (Server.run env inputs ⟨role_manager_, .working db, []⟩).log
        ((Game.machine env.outOfRange Addr).run inputs
          ⟨role_manager_.roles_, World.of env db⟩).1 := by
  obtain ⟨-, hstands, hshows⟩ := (server_refines env).run inputs
    (s := (⟨role_manager_, .working db, []⟩ : Server Addr)) fun _ => rfl
  rw [(Server.run_machine env inputs _).1] at hstands
  exact ⟨hstands, showsLog_run env rfl hshows⟩

/-! ### At the same time -/

/-- **Refinement, at the same time**: when the connections have been answered, every command
was executed and no requests come before each other in a circle, the requests have an order
as in `SerialOrder`; and in each of them the game gives the answers that were given, and
ends with what the server ends with. -/
theorem threads_play_game (role_manager_ : RoleinfoManager Addr) (db : Bytes → Option Bytes)
    (moves : List (Threads.Move Addr))
    (hidle : ∀ addr, (Threads.run env moves (.start role_manager_ db)).running addr = none)
    (hok : ∀ e ∈ (Threads.run env moves (.start role_manager_ db)).executed, e.choice = .ok)
    (hacyclic : ∀ a, ¬ Relation.TransGen (Clients.Precedes Conflicts
      (Threads.run env moves (.start role_manager_ db))) a a) :
    (∃ order, Clients.SerialOrder Conflicts
        (Threads.run env moves (.start role_manager_ db)) order) ∧
    ∀ order, Clients.SerialOrder Conflicts
        (Threads.run env moves (.start role_manager_ db)) order →
      ⟨(Threads.run env moves (.start role_manager_ db)).own,
          World.of env (Threads.run env moves (.start role_manager_ db)).shared⟩
        = ((Game.machine env.outOfRange Addr).run (order.map fun a => (a.client, a.request))
            ⟨role_manager_.roles_, World.of env db⟩).2 ∧
      ShowsLog (answerLog order)
        ((Game.machine env.outOfRange Addr).run (order.map fun a => (a.client, a.request))
          ⟨role_manager_.roles_, World.of env db⟩).1 := by
  have hsound := Threads.sound_run env role_manager_ db moves
  refine ⟨hsound.exists_serialOrder_iff.mpr hacyclic, fun order horder => ?_⟩
  have hserves := horder.serves (fun e f h => swaps_of_not_conflicts h) hsound hidle
  have hreplay := replay_serves env role_manager_ db hserves
  rw [Threads.replay, Redis.answering_of_ok] at hreplay
  · obtain ⟨-, hstands, hshows⟩ := (server_refines env).run
      (order.map fun a => (a.client, a.request))
      (s := (⟨role_manager_, .working db, []⟩ : Server Addr)) fun _ => rfl
    have hlog := showsLog_run env rfl hshows
    rw [(Server.run_machine env _ _).1, hreplay] at hstands
    rw [hreplay] at hlog
    exact ⟨hstands, hlog⟩
  · intro outcome hmem
    obtain ⟨a, -, hcommand⟩ := List.mem_flatMap.mp hmem
    obtain ⟨e, he, rfl⟩ := List.mem_map.mp hcommand
    exact hok e (List.mem_of_mem_filter he)

/-- A query between the read and the write of an update: in the game it comes first, finds no
player, and the update makes one. -/
theorem threads_play_game_query :
    ⟨queriedDuringUpdate.own, World.of Env.wire queriedDuringUpdate.shared⟩
        = ((Game.machine Env.wire.outOfRange Bool).run
            (queryThenUpdate.map fun a => (a.client, a.request))
            ⟨fun _ => none, World.of Env.wire fun _ => none⟩).2 ∧
      ShowsLog (answerLog queryThenUpdate)
        ((Game.machine Env.wire.outOfRange Bool).run
          (queryThenUpdate.map fun a => (a.client, a.request))
          ⟨fun _ => none, World.of Env.wire fun _ => none⟩).1 := by
  have hok : ∀ e ∈ queriedDuringUpdate.executed, e.choice = .ok := by
    rw [queriedDuringUpdate_executed]
    simp
  have hacyclic := (Threads.sound_run Env.wire ⟨fun _ => none⟩ (fun _ => none)
    queryDuringUpdate).exists_serialOrder_iff.mp ⟨queryThenUpdate, serialOrder_queryThenUpdate⟩
  exact (threads_play_game Env.wire ⟨fun _ => none⟩ (fun _ => none) queryDuringUpdate
    queriedDuringUpdate_idle hok hacyclic).2 queryThenUpdate serialOrder_queryThenUpdate

end Runs

end LittleB
