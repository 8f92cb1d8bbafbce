import LittleB.Records

/-!
What an account is registered with and what it logs in with.

* `Registered`: the store holds the password of an account and a role for it, kept by
  every request (`registered_step`, `registered_run`);
* `loginAnswer_registered`: how a login to such an account is answered;
* `RoundTrips`, `roundTrips_iff`: the password of a registration lets in, and no other
  does, which is so exactly for passwords without a zero octet.
-/

namespace LittleB

open Bytes

variable (env : Env) {Addr : Type} [DecidableEq Addr]

/-! ### Registered accounts -/

/-- The store holds what a registration has put there: the password up to its first
zero octet, and a role. -/
structure Registered (request : RegisterReq) (db : Bytes → Option Bytes) : Prop where
  password : db (password_key request.account) = some (c_str request.password)
  role : storedRole env db request.account ≠ none

/-- Behind a registration that was answered `SUCCEED` the account is registered. -/
lemma registered_of_succeed {S : Server Addr} {request : RegisterReq}
    (h : (S.registerAnswer env request).error = RegisterRsp.ErrorCode.SUCCEED.number)
    (addr : Addr) : Registered env request (S.step env (addr, .REGISTER request)).redis.db := by
  rw [S.step_REGISTER]
  have hend := register_end env request S.redis
  change ((MinigameRegisterService env request).run Redis.exec S.redis).1.error = _ at h
  change Registered env request ((MinigameRegisterService env request).run Redis.exec S.redis).2.db
  generalize ((MinigameRegisterService env request).run Redis.exec S.redis).1 = rsp at hend h
  generalize ((MinigameRegisterService env request).run Redis.exec S.redis).2.db = db at hend ⊢
  cases hend with
  | refused _ => simp [RegisterRsp.answer] at h
  | unstored _ _ _ => simp [RegisterRsp.answer] at h
  | uncounted _ _ _ _ => simp [RegisterRsp.answer] at h
  | roleless _ _ _ _ _ _ _ => simp [RegisterRsp.answer] at h
  | stored gid _ _ _ _ _ _ =>
      constructor
      · exact registered_password env request gid S.redis.db
      · rw [storedRole_registered]
        exact Option.some_ne_none _

/-- **The step**: every request keeps an account registered. -/
lemma registered_step {S : Server Addr} {request : RegisterReq}
    (h : Registered env request S.redis.db) (input : Addr × Request) :
    Registered env request (S.step env input).redis.db :=
  ⟨password_step env h.password input.1 input.2, storedRole_step env h.role input.1 input.2⟩

/-- The run lemma: so does any number of requests. -/
lemma registered_run {S : Server Addr} {request : RegisterReq}
    (h : Registered env request S.redis.db) (inputs : List (Addr × Request)) :
    Registered env request (S.run env inputs).redis.db := by
  induction inputs generalizing S with
  | nil => exact h
  | cons input inputs ih => exact ih (registered_step env h input)

/-! ### Logging in -/

omit [DecidableEq Addr] in
/-- A login to a registered account in a working store is let in with the stored
password, and refused with any other. -/
lemma loginAnswer_registered {S : Server Addr} {request : RegisterReq}
    (h : Registered env request S.redis.db) (hw : S.redis.Working) {req : LoginReq}
    (haccount : req.account = request.account) :
    (S.loginAnswer env req).error
      = if ofString req.password = c_str request.password then
          LoginRsp.ErrorCode.SUCCEED.number
        else LoginRsp.ErrorCode.LOGIN_PASSWORD_WRONG.number := by
  have hpassword : S.behindPull.db (password_key req.account)
      = some (c_str request.password) := by
    rw [haccount]
    exact h.password
  have hend := login_end env req S.behindPull
  rw [Server.loginAnswer]
  generalize ((MinigameFakeLoginService env req).run Redis.exec S.behindPull).1 = rsp at hend ⊢
  generalize ((MinigameFakeLoginService env req).run Redis.exec S.behindPull).2.db = db at hend
  have hvalue {value : Bytes} (hdb : S.behindPull.db (password_key req.account) = some value) :
      cstr value = c_str request.password := by
    obtain rfl := Option.some_inj.mp (hpassword.symm.trans hdb)
    exact cstr_cstr _
  cases hend with
  | unregistered hnone => exact absurd (hpassword.symm.trans (hnone (hw 1))) (by simp)
  | wrong value h0 hdb hne =>
      rw [hvalue hdb] at hne
      rw [if_neg hne]
      rfl
  | roleless value h0 hdb heq hnone =>
      have hrole : storedRole env S.redis.db req.account ≠ none := haccount ▸ h.role
      exact absurd (hnone (hw 2)) hrole
  | accepted value role h0 hdb heq h1 hrole =>
      rw [hvalue hdb] at heq
      rw [if_pos heq]
      rfl

/-- The password lets the account in, and every other one is refused. -/
structure RoundTrips (S : Server Addr) (account password : String) : Prop where
  succeed : ∀ rpcid, (S.loginAnswer env { rpcid, account, password }).error
    = LoginRsp.ErrorCode.SUCCEED.number
  refused : ∀ rpcid password', password' ≠ password →
    (S.loginAnswer env { rpcid, account, password := password' }).error
      = LoginRsp.ErrorCode.LOGIN_PASSWORD_WRONG.number

omit [DecidableEq Addr] in
/-- In a working store, the password of a registered account is the one that lets in
exactly when it has no zero octet. -/
lemma roundTrips_of_registered {S : Server Addr} {request : RegisterReq}
    (h : Registered env request S.redis.db) (hw : S.redis.Working) :
    RoundTrips env S request.account request.password
      ↔ (0 : UInt8) ∉ ofString request.password := by
  have hanswer (rpcid : Int32) (password : String) :=
    loginAnswer_registered env h hw (show (LoginReq.mk rpcid request.account password).account
      = request.account from rfl)
  rw [← cstr_eq_self_iff]
  constructor
  · intro hround
    have hin := hround.succeed 0
    rw [hanswer] at hin
    split_ifs at hin with heq
    · exact heq.symm
    · simp at hin
  · intro hcstr
    have hstored : c_str request.password = ofString request.password := hcstr
    constructor
    · intro rpcid
      rw [hanswer, if_pos hstored.symm]
    · intro rpcid password' hne
      rw [hanswer, hstored, if_neg]
      exact fun heq => hne (ofString_inj.mp heq)

/-- **Credentials**: when a registration has been answered `SUCCEED`, and after any
requests over a working store, the password registered lets the account in and no other
one does, exactly when the password has no zero octet. -/
theorem roundTrips_iff (S : Server Addr) (hw : S.redis.Working) (addr : Addr)
    (request : RegisterReq)
    (hsucceed : (S.registerAnswer env request).error = RegisterRsp.ErrorCode.SUCCEED.number)
    (inputs : List (Addr × Request)) :
    RoundTrips env ((S.step env (addr, .REGISTER request)).run env inputs) request.account
        request.password
      ↔ (0 : UInt8) ∉ ofString request.password :=
  roundTrips_of_registered env
    (registered_run env (registered_of_succeed env hsucceed addr) inputs)
    (Server.working_run env (Server.working_step env hw _) inputs)

/-- A new account is registered over an empty store. -/
lemma registerAnswer_start (request : RegisterReq) :
    ((.start (.working fun _ => none) : Server ℕ).registerAnswer Env.wire request).error
      = RegisterRsp.ErrorCode.SUCCEED.number :=
  register_working Env.wire (fun _ => rfl) (Option.some_ne_none 1) rfl

/-- An account is registered, then somebody guesses and somebody registers it again. -/
theorem roundTrips_registered_account :
    (Redis.working fun _ => none).Working ∧
    ((.start (.working fun _ => none) : Server ℕ).registerAnswer Env.wire
        { account := "a", password := "p" }).error = RegisterRsp.ErrorCode.SUCCEED.number ∧
    (RoundTrips Env.wire (((.start (.working fun _ => none) : Server ℕ).step Env.wire
          (0, .REGISTER { account := "a", password := "p" })).run Env.wire
            [(1, .LOGIN { account := "a", password := "x" }),
              (1, .REGISTER { account := "a", password := "x" })]) "a" "p"
      ↔ (0 : UInt8) ∉ ofString "p") :=
  ⟨fun _ => rfl, registerAnswer_start _, roundTrips_iff Env.wire _ (fun _ => rfl) 0
    { account := "a", password := "p" } (registerAnswer_start _)
    [(1, .LOGIN { account := "a", password := "x" }),
      (1, .REGISTER { account := "a", password := "x" })]⟩

/-- A password with a zero character: what is stored ends there, and the password
itself is refused. -/
theorem zero_character_password_refused :
    ¬ RoundTrips Env.wire ((.start (.working fun _ => none) : Server ℕ).step Env.wire
      (0, .REGISTER { account := "a", password := "p\x00q" })) "a" "p\x00q" := by
  have hregistered := registered_of_succeed Env.wire
    (registerAnswer_start { account := "a", password := "p\x00q" }) 0
  rw [roundTrips_of_registered Env.wire hregistered (Server.working_step _ (fun _ => rfl) _)]
  decide

end LittleB
