import LittleB.Provenance

/-!
Passwords, over any number of connections.

* `Spares`: a command leaves the value under a key as it is;
* `PasswordAnswer`: what the answers of logins and registrations say about the passwords an
  account can have, `serve_keeps_password`;
* `login_was_registered`: **authentication**: who is let in sends a password that the store
  held at the start, or that the account was registered with;
* `password_permanent`: **one password**: behind its registration the password of an account
  stays, whatever other requests come and whatever commands fail.
-/

namespace LittleB

open Bytes

variable {env : Env} {Addr : Type}

/-! ### Commands that spare a key -/

/-- The command leaves the value under the key as it is. -/
def Spares (key : Bytes) (c : Command) : Prop := c.writes = false ∨ c.key ≠ key

lemma Spares.execute {key : Bytes} {c : Command} (h : Spares key c) (outcome : Outcome)
    (db : Bytes → Option Bytes) : (Redis.execute outcome c db).2 key = db key := by
  rcases h with hreads | hother
  · cases c with
    | get k => rw [execute_get_snd]
    | set k value => cases hreads
    | incr k => cases hreads
  · exact execute_of_key_ne hother outcome db

/-- A program of such commands keeps what is known of the value. -/
lemma keeps_of_spares {α : Type} {E : (c : Command) → Outcome → Reply → Prop} {key : Bytes}
    {W : Set (Option Bytes)} {P : α → Prop} {p : Prog RedisSig α} (hp : p.Asks (Spares key))
    (hP : p.Ensures P) : p.Keeps Redis.execute E (fun db => db key ∈ W) P :=
  Prog.Keeps.of_asks (fun _ outcome db hspares _ hdb => by rwa [hspares.execute outcome db]) hp hP

/-! ### What a read is replied -/

/-- A text is the value under the key. -/
lemma get_string {outcome : Outcome} {key : Bytes} {db : Bytes → Option Bytes}
    (h : (Redis.execute outcome (.get key) db).1.type = .REDIS_REPLY_STRING) :
    ∃ value, db key = some value ∧ (Redis.execute outcome (.get key) db).1 = .string value := by
  cases outcome with
  | error str => cases h
  | ok =>
      rw [Redis.execute_ok] at h ⊢
      cases hdb : db key with
      | none =>
          rw [Redis.perform_get_none hdb] at h
          cases h
      | some value => exact ⟨value, rfl, by rw [Redis.perform_get_some hdb]⟩

/-- Where nothing is found, there is nothing. -/
lemma get_nil {outcome : Outcome} {key : Bytes} {db : Bytes → Option Bytes}
    (h : (Redis.execute outcome (.get key) db).1.type = .REDIS_REPLY_NIL) : db key = none := by
  cases outcome with
  | error str => cases h
  | ok =>
      rw [Redis.execute_ok] at h
      cases hdb : db key with
      | none => rfl
      | some value =>
          rw [Redis.perform_get_some hdb] at h
          cases h

/-! ### What a request does to a password -/

/-- The value under the password key of the account is one of `W`: a login that is let in
has sent it, and a registration finds one wherever there is no account without. -/
def PasswordAnswer (u : String) (W : Set (Option Bytes)) : Request → Response → Prop
  | .LOGIN req, .LOGIN rsp => c_str req.account = c_str u →
      rsp.error = LoginRsp.ErrorCode.SUCCEED.number →
        ∃ value, some value ∈ W ∧ ofString req.password = cstr value
  | .REGISTER req, .REGISTER rsp => c_str req.account = c_str u →
      none ∉ W → rsp = .answer req.rpcid .ACCOUNT_ALREADY_EXIST
  | _, _ => True

section Serve

variable {E : (c : Command) → Outcome → Reply → Prop} {u : String} {W : Set (Option Bytes)}

lemma PullRoleInfoFromDB_spares (username : String) :
    (RoleinfoManager.PullRoleInfoFromDB env username).Asks (Spares (password_key u)) := by
  refine ⟨.inl rfl, fun reply => Prog.Asks.ite trivial ?_⟩
  cases env.roleInfo.ParseFromArray reply.str with
  | mk parsed role => cases parsed <;> trivial

lemma PushRoleToDB_spares (role : RoleInfo) :
    (RoleinfoManager.PushRoleToDB env role).Asks (Spares (password_key u)) :=
  ⟨.inr (password_key_ne_role_key _ _).symm, fun _ => Prog.Asks.ite trivial trivial⟩

/-- A login that is let in has sent the password. -/
lemma MinigameFakeLoginService_keeps_password (req : LoginReq) :
    (MinigameFakeLoginService env req).Keeps Redis.execute E (fun db => db (password_key u) ∈ W)
      fun rsp => PasswordAnswer u W (.LOGIN req) (.LOGIN rsp) := by
  rw [MinigameFakeLoginService]
  intro outcome db _ hdb
  refine ⟨by rwa [execute_get_snd], ?_⟩
  refine Prog.Keeps.ite (fun _ => ?_) fun hstring => Prog.Keeps.ite (fun _ => ?_) fun hsame => ?_
  · exact fun _ herror => by simp [LoginRsp.answer] at herror
  · exact fun _ herror => by simp [LoginRsp.answer] at herror
  have hsent : c_str req.account = c_str u →
      ∃ value, some value ∈ W ∧ ofString req.password = cstr value := by
    intro hname
    obtain ⟨value, hvalue, hreply⟩ := get_string (not_not.mp hstring)
    rw [password_key_inj.mpr hname] at hvalue
    rw [not_not, hreply] at hsame
    exact ⟨value, hvalue ▸ hdb, hsame⟩
  refine keeps_of_spares ?_ ((Prog.ensures_true _).mono fun _ _ hname _ => hsent hname)
  refine (PullRoleInfoFromDB_spares _).bind fun role_ptr => ?_
  cases role_ptr with
  | none => trivial
  | some role => exact Prog.Asks.ite ((PushRoleToDB_spares _).bind fun _ => trivial) trivial

/-- A registration writes a password where it has found none. -/
lemma MinigameRegisterService_keeps_password (req : RegisterReq)
    (hregister : c_str req.account = c_str u → none ∈ W → some (c_str req.password) ∈ W) :
    (MinigameRegisterService env req).Keeps Redis.execute E (fun db => db (password_key u) ∈ W)
      fun rsp => PasswordAnswer u W (.REGISTER req) (.REGISTER rsp) := by
  have hrole (value : Bytes) : Spares (password_key u) (.set (role_key req.account) value) :=
    .inr (password_key_ne_role_key _ _).symm
  have hgid : Spares (password_key u) (.incr gid_key) := .inr (password_key_ne_gid_key u).symm
  rw [MinigameRegisterService]
  intro outcome db _ hdb
  refine ⟨by rwa [execute_get_snd], Prog.Keeps.ite (fun _ _ _ => rfl) fun hnil => ?_⟩
  -- from here on the account has been found to have no password
  have hfree : c_str req.account = c_str u → none ∈ W := by
    intro hname
    have hnone := get_nil (not_not.mp hnil)
    rw [password_key_inj.mpr hname] at hnone
    exact hnone ▸ hdb
  have hanswer : ∀ rsp, PasswordAnswer u W (.REGISTER req) (.REGISTER rsp) :=
    fun rsp hname hnone => absurd (hfree hname) hnone
  refine fun outcome db _ hdb => ⟨?_, ?_⟩
  · by_cases hname : c_str req.account = c_str u
    · cases outcome with
      | error str => exact hdb
      | ok =>
          change Function.update db (password_key req.account) _ (password_key u) ∈ W
          rw [password_key_inj.mpr hname, Function.update_self]
          exact hregister hname (hfree hname)
    · have hother : Spares (password_key u) (.set (password_key req.account)
          (c_str req.password)) := .inr (password_key_inj.not.mpr hname)
      change (Redis.execute outcome _ db).2 (password_key u) ∈ W
      rwa [hother.execute outcome db]
  · refine keeps_of_spares (Prog.Asks.ite trivial ?_)
      ((Prog.ensures_true _).mono fun _ _ => hanswer _)
    refine ⟨hgid, fun counter => Prog.Asks.ite trivial ?_⟩
    exact ⟨hrole _, fun role => Prog.Asks.ite trivial trivial⟩

/-- The commands of the other requests spare every password. -/
lemma serve_spares_password (session : Option Session) {request : Request}
    (h : ∀ req, request = .REGISTER req → c_str req.account ≠ c_str u) :
    (RoleInjectHandler.serve env session request).Asks (Spares (password_key u)) := by
  have hpassword {u v : String} (h : c_str v ≠ c_str u) (value : Bytes) :
      Spares (password_key u) (.set (password_key v) value) := .inr (password_key_inj.not.mpr h)
  cases request with
  | LOGIN req =>
      rw [RoleInjectHandler.serve_LOGIN]
      refine (PullRoleInfoFromDB_spares _).bind fun _ => Prog.Asks.bind ?_ fun _ => trivial
      refine ⟨.inl rfl, fun reply => Prog.Asks.ite trivial (Prog.Asks.ite trivial ?_)⟩
      refine (PullRoleInfoFromDB_spares _).bind fun role_ptr => ?_
      cases role_ptr with
      | none => trivial
      | some role => exact Prog.Asks.ite ((PushRoleToDB_spares _).bind fun _ => trivial) trivial
  | REGISTER req =>
      rw [RoleInjectHandler.serve_REGISTER]
      refine Prog.Asks.bind ?_ fun _ => trivial
      refine ⟨.inl rfl, fun found => Prog.Asks.ite trivial ?_⟩
      refine ⟨hpassword (h req rfl) _, fun password => Prog.Asks.ite trivial ?_⟩
      refine ⟨.inr (password_key_ne_gid_key u).symm, fun counter => Prog.Asks.ite trivial ?_⟩
      exact ⟨.inr (password_key_ne_role_key _ _).symm, fun role => Prog.Asks.ite trivial trivial⟩
  | QUERY_TASK req =>
      rw [serve_QUERY_TASK]
      exact ⟨.inl rfl, fun _ => trivial⟩
  | UPDATE_TASK req =>
      rw [serve_UPDATE_TASK]
      exact ⟨.inl rfl, fun _ => ⟨.inr (taskinfo_key_ne_password_key _ _), fun _ => trivial⟩⟩
  | ERASE_ROLE req =>
      rw [RoleInjectHandler.serve_handedOn env rfl]
      refine Prog.Asks.bind (Prog.Asks.bind ?_ fun _ => trivial) fun _ => trivial
      exact (PushRoleToDB_spares _).bind fun _ => Prog.Asks.ite trivial trivial

/-- **The step**: a request leaves a password that the account can have, and its answer is
about one. -/
lemma serve_keeps_password (session : Option Session) (request : Request)
    (hregister : ∀ req, request = .REGISTER req → c_str req.account = c_str u →
      none ∈ W → some (c_str req.password) ∈ W) :
    (RoleInjectHandler.serve env session request).Keeps Redis.execute E
      (fun db => db (password_key u) ∈ W) fun out => PasswordAnswer u W request out.1 := by
  have hother (h : ∀ req, request ≠ .REGISTER req)
      (hanswer : ∀ rsp, PasswordAnswer u W request rsp) :
      (RoleInjectHandler.serve env session request).Keeps Redis.execute E
        (fun db => db (password_key u) ∈ W) fun out => PasswordAnswer u W request out.1 :=
    keeps_of_spares (serve_spares_password session fun req hreq => absurd hreq (h req))
      ((Prog.ensures_true _).mono fun _ _ => hanswer _)
  cases request with
  | LOGIN req =>
      rw [RoleInjectHandler.serve_LOGIN]
      refine Prog.Keeps.bind (P := fun _ => True)
        (keeps_of_spares (PullRoleInfoFromDB_spares _) (Prog.ensures_true _)) fun role_ptr _ => ?_
      exact (MinigameFakeLoginService_keeps_password req).bind fun rsp h => h
  | REGISTER req =>
      rw [RoleInjectHandler.serve_REGISTER]
      exact (MinigameRegisterService_keeps_password req (hregister req rfl)).bind fun rsp h => h
  | QUERY_TASK req | UPDATE_TASK req | ERASE_ROLE req =>
      exact hother (fun _ => Request.noConfusion) fun _ => trivial

end Serve

/-! ### Runs -/

/-- A registration of the account with the password has been received. -/
def RegisteredWith [DecidableEq Addr] (T : Threads Addr) (u : String) (password : Bytes) : Prop :=
  ∃ call session reg, Clients.Called T call session (.REGISTER reg) ∧
    c_str reg.account = c_str u ∧ c_str reg.password = password

/-- **Authentication**: however the requests of any connections are interleaved, and whatever
commands fail, a login that is let in has sent the password that the store held for the
account at the start, or one of a registration of the account that has been received. -/
theorem login_was_registered [DecidableEq Addr] (env : Env) (role_manager_ : RoleinfoManager Addr)
    (db : Bytes → Option Bytes) (moves : List (Threads.Move Addr))
    (a : Clients.Answered Addr (Option Session) Request Response)
    (ha : a ∈ (Threads.run env moves (.start role_manager_ db)).answered) (req : LoginReq)
    (rsp : LoginRsp) (hreq : a.request = .LOGIN req) (hrsp : a.response = .LOGIN rsp)
    (herror : rsp.error = LoginRsp.ErrorCode.SUCCEED.number) :
    (∃ value, db (password_key req.account) = some value ∧ ofString req.password = cstr value) ∨
      RegisteredWith (Threads.run env moves (.start role_manager_ db)) req.account
        (ofString req.password) := by
  generalize hT : Threads.run env moves (.start role_manager_ db) = T at ha ⊢
  let W : Set (Option Bytes) := { o | ∀ value, o = some value →
    db (password_key req.account) = some value ∨ RegisteredWith T req.account value }
  have hserve (addr : Addr) (n : ℕ) (session : Option Session) (request : Request) (_ : True)
      (hcalled : Clients.Called T (addr, n) session request) :
      (RoleInjectHandler.serve env session request).Keeps Redis.execute (fun _ _ _ => True)
        (fun db => db (password_key req.account) ∈ W)
        fun out => True ∧ PasswordAnswer req.account W request out.1 := by
    refine (serve_keeps_password session request ?_).mono fun out h => ⟨trivial, h⟩
    rintro reg rfl hname -
    rintro value ⟨⟩
    exact .inr ⟨_, session, reg, hcalled, hname, rfl⟩
  have hstart : Clients.Kept Redis.execute (fun _ _ _ _ => True)
      (fun db => db (password_key req.account) ∈ W) (fun _ _ => True)
      (fun _ _ request response => PasswordAnswer req.account W request response)
      (Threads.start role_manager_ db) :=
    Clients.kept_start (fun value hvalue => .inl hvalue) fun _ => trivial
  rw [Threads.run] at hT
  have hrun := (hstart.run (A := fun call session request => Clients.Called T call session request)
    hserve (by rw [hT]; exact fun _ _ _ h => h) fun _ _ => trivial).answered
  rw [hT] at hrun
  have hanswer := hrun a ha
  rw [hreq, hrsp] at hanswer
  obtain ⟨value, hvalue, hsent⟩ := hanswer rfl herror
  rcases hvalue value rfl with hstored | ⟨call, session, reg, hcalled, hname, rfl⟩
  · exact .inl ⟨value, hstored, hsent⟩
  · rw [c_str, cstr_cstr] at hsent
    exact .inr ⟨call, session, reg, hcalled, hname, hsent.symm⟩

/-- Ann registers on one connection and logs in on another one. -/
def registersAndLogsIn : List (Threads.Move Bool) :=
  [.receive false (.REGISTER { account := "ann", password := "a" }), .command false .ok,
    .command false .ok, .command false .ok, .command false .ok, .answer false,
    .receive true (.LOGIN { account := "ann", password := "a" }), .command true .ok,
    .command true .ok, .command true .ok, .command true .ok, .answer true]

/-- She is let in with the password she has registered with. -/
theorem login_was_registered_first :
    (∃ a ∈ (Threads.run Env.wire registersAndLogsIn (.start .empty fun _ => none)).answered,
      a.request = .LOGIN { account := "ann", password := "a" } ∧
        a.response = .LOGIN (.answer 0 .SUCCEED false)) ∧
    ((∃ value, (fun _ => none : Bytes → Option Bytes) (password_key "ann") = some value ∧
        ofString "a" = cstr value) ∨
      RegisteredWith (Threads.run Env.wire registersAndLogsIn (.start .empty fun _ => none)) "ann"
        (ofString "a")) := by
  have hanswer : ∃ a ∈ (Threads.run Env.wire registersAndLogsIn
      (.start .empty fun _ => none)).answered,
        a.request = .LOGIN { account := "ann", password := "a" } ∧
          a.response = .LOGIN (.answer 0 .SUCCEED false) := by
    decide +kernel
  obtain ⟨a, ha, hreq, hrsp⟩ := hanswer
  exact ⟨⟨a, ha, hreq, hrsp⟩, login_was_registered Env.wire .empty (fun _ => none)
    registersAndLogsIn a ha _ _ hreq hrsp rfl⟩

/-- A registration where nobody is without a password is refused. -/
lemma PasswordAnswer.refused {u : String} {W : Set (Option Bytes)} {reg : RegisterReq}
    {response : Response} (h : PasswordAnswer u W (.REGISTER reg) response)
    (hanswers : Answers (.REGISTER reg) response) (hname : c_str reg.account = c_str u)
    (hW : none ∉ W) : response = .REGISTER (.answer reg.rpcid .ACCOUNT_ALREADY_EXIST) := by
  cases hanswers with
  | register _ ret => exact congrArg Response.REGISTER (h hname hW)

/-- The password of an account is kept where no registration of it is under way, and what is
answered to later requests agrees with it. -/
lemma kept_password [DecidableEq Addr] {T₀ T : Threads Addr} {u : String} {value : Bytes}
    (hsound : Clients.Sound (fun _ => RoleInjectHandler.serve env) Redis.execute T₀ T)
    (hstored : T.shared (password_key u) = some value)
    (hquiet : ∀ addr r, T.running addr = some r →
      ∀ reg, r.request = .REGISTER reg → c_str reg.account ≠ c_str u) :
    Clients.Kept Redis.execute (fun _ _ _ _ => True)
      (fun db => db (password_key u) ∈ ({some value} : Set (Option Bytes))) (fun _ _ => True)
      (fun call _ request response =>
        (∀ session request, ¬ Clients.Called T call session request) →
          PasswordAnswer u {some value} request response) T := by
  refine ⟨hstored, fun _ => trivial, fun a ha hlater => ?_, fun addr r hr => ?_⟩
  · exact absurd (.answered a ha) (hlater _ _)
  · -- what is left of a request that is under way spares the password
    have hspares := (hsound.running addr r hr).asks_rest
      (serve_spares_password (T.own addr) (hquiet addr r hr))
    refine keeps_of_spares hspares ((Prog.ensures_true _).mono fun _ _ => ⟨trivial, ?_⟩)
    exact fun hlater => absurd (.running addr r hr) (hlater _ _)

/-- **One password**: let the store hold a password for an account, with no registration of
the account under way.  Then, however the requests of any connections go on and whatever
commands fail, it holds that password: later registrations of the account are refused, and
later logins are let in with that password only. -/
theorem password_permanent [DecidableEq Addr] (env : Env) (role_manager_ : RoleinfoManager Addr)
    (db : Bytes → Option Bytes) (before after : List (Threads.Move Addr)) (u : String)
    (value : Bytes)
    (hstored : (Threads.run env before (.start role_manager_ db)).shared (password_key u)
      = some value)
    (hquiet : ∀ addr r, (Threads.run env before (.start role_manager_ db)).running addr = some r →
      ∀ reg, r.request = .REGISTER reg → c_str reg.account ≠ c_str u) :
    (Threads.run env (before ++ after) (.start role_manager_ db)).shared (password_key u)
        = some value ∧
      ∀ a ∈ (Threads.run env (before ++ after) (.start role_manager_ db)).answered,
        (∀ session request, ¬ Clients.Called (Threads.run env before (.start role_manager_ db))
          a.call session request) →
        (∀ reg, a.request = .REGISTER reg → c_str reg.account = c_str u →
          a.response = .REGISTER (.answer reg.rpcid .ACCOUNT_ALREADY_EXIST)) ∧
        ∀ req rsp, a.request = .LOGIN req → c_str req.account = c_str u →
          a.response = .LOGIN rsp → rsp.error = LoginRsp.ErrorCode.SUCCEED.number →
            ofString req.password = cstr value := by
  have hsound := Threads.sound_run env role_manager_ db before
  have hanswers := Threads.answers_run env role_manager_ db (before ++ after)
  rw [Threads.run, Clients.run, List.foldl_append] at hanswers ⊢
  generalize hT : Threads.run env before (.start role_manager_ db) = T at *
  rw [Threads.run, Clients.run] at hT
  rw [hT] at hanswers ⊢
  have hserve (addr : Addr) (n : ℕ) (session : Option Session) (request : Request) (_ : True)
      (_ : True) : (RoleInjectHandler.serve env session request).Keeps Redis.execute
        (fun _ _ _ => True) (fun db => db (password_key u) ∈ ({some value} : Set (Option Bytes)))
        fun out => True ∧ ((∀ session request, ¬ Clients.Called T (addr, n) session request) →
          PasswordAnswer u {some value} request out.1) :=
    (serve_keeps_password session request fun _ _ _ hnone => by cases hnone).mono
      fun out h => ⟨trivial, fun _ => h⟩
  have hrun := (kept_password hsound hstored hquiet).run (A := fun _ _ _ => True) hserve
    (fun _ _ _ (_ : Clients.Called (Clients.run _ _ T after) _ _ _) => trivial) fun _ _ => trivial
  refine ⟨hrun.shared, fun a ha hlater => ⟨fun reg hreq hname => ?_, ?_⟩⟩
  · have hanswer := hrun.answered a ha hlater
    have hown := hanswers a ha
    rw [hreq] at hanswer hown
    exact hanswer.refused hown hname (by simp)
  · intro req rsp hreq hname hrsp herror
    have hanswer := hrun.answered a ha hlater
    rw [hreq, hrsp] at hanswer
    obtain ⟨found, hfound, hsent⟩ := hanswer hname herror
    obtain rfl := Option.some_inj.mp hfound
    exact hsent

/-- Somebody else registers Ann's account again. -/
def registersAgain : List (Threads.Move Bool) :=
  [.receive true (.REGISTER { account := "ann", password := "b" }), .command true .ok, .answer true]

/-- He is refused, and her password is what it was. -/
theorem password_permanent_second_registration :
    (Threads.run Env.wire registersAndLogsIn (.start .empty fun _ => none)).shared
        (password_key "ann") = some (ofString "a") ∧
      (Threads.run Env.wire (registersAndLogsIn ++ registersAgain)
        (.start .empty fun _ => none)).shared (password_key "ann") = some (ofString "a") ∧
      ∃ a ∈ (Threads.run Env.wire (registersAndLogsIn ++ registersAgain)
          (.start .empty fun _ => none)).answered,
        a.request = .REGISTER { account := "ann", password := "b" } ∧
          a.response = .REGISTER (.answer 0 .ACCOUNT_ALREADY_EXIST) := by
  have hstored : (Threads.run Env.wire registersAndLogsIn (.start .empty fun _ => none)).shared
      (password_key "ann") = some (ofString "a") := by
    decide +kernel
  have hidle : ∀ addr, (Threads.run Env.wire registersAndLogsIn
      (.start .empty fun _ => none)).running addr = none := by
    have hnone : ∀ addr, ((Threads.run Env.wire registersAndLogsIn
        (.start .empty fun _ => none)).running addr).isNone := by
      decide +kernel
    exact fun addr => Option.isNone_iff_eq_none.mp (hnone addr)
  have hcalls : (Threads.run Env.wire registersAndLogsIn (.start .empty fun _ => none)).answered.map
      (fun a => a.call) = [(false, 0), (true, 0)] := by
    decide +kernel
  have hanswer : ∃ a ∈ (Threads.run Env.wire (registersAndLogsIn ++ registersAgain)
      (.start .empty fun _ => none)).answered,
        a.request = .REGISTER { account := "ann", password := "b" } ∧ a.call = (true, 1) := by
    decide +kernel
  obtain ⟨a, ha, hreq, hcall⟩ := hanswer
  have hlater : ∀ session request, ¬ Clients.Called (Threads.run Env.wire registersAndLogsIn
      (.start .empty fun _ => none)) a.call session request := by
    intro session request hcalled
    rw [hcall] at hcalled
    generalize hc : ((true, 1) : Bool × ℕ) = call at hcalled
    cases hcalled with
    | answered b hb =>
        have hmem := List.mem_map_of_mem (f := fun a => a.call) hb
        rw [hcalls, ← hc] at hmem
        exact absurd hmem (by decide)
    | running addr r hr => rw [hidle] at hr; cases hr
  obtain ⟨hkept, hanswers⟩ := password_permanent Env.wire .empty (fun _ => none) registersAndLogsIn
    registersAgain "ann" (ofString "a") hstored (fun addr r hr => by rw [hidle] at hr; cases hr)
  exact ⟨hstored, hkept, a, ha, hreq, (hanswers a ha hlater).1 _ hreq rfl⟩

end LittleB
