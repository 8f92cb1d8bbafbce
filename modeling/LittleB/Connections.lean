import LittleB.Sessions

/-!
The life of the connections: openings, commands and closings on any number of peer
addresses.

* `Closing`, `Event`, `Connections.step`: how a connection ends, what can happen, and
  what the server makes of it;
* `RolesOfOpen`: the roles in memory are those of addresses with an open connection;
* `roles_of_open_connections`: so it is all along a run exactly when no connection
  closes while its address has a role, and then a new connection starts without one;
* `closed_address_keeps_role`: the next connection of an address goes on with the
  role of the one before.
-/

namespace LittleB

variable (env : Env) {Addr : Type} [DecidableEq Addr]

/-! ### Openings, commands and closings -/

/-- The two events with which a connection ends. -/
inductive Closing where
  | transportInactive
  | readEOF
  deriving DecidableEq, Repr

/-- What `RoleInjectHandler` does when a connection ends. -/
def Closing.handle : Closing → RoleinfoManager Addr → Addr → RoleinfoManager Addr
  | transportInactive => RoleInjectHandler.transportInactive
  | readEOF => RoleInjectHandler.readEOF

omit [DecidableEq Addr] in
/-- A closing leaves the roles in memory as they are. -/
lemma Closing.handle_eq (how : Closing) (role_manager_ : RoleinfoManager Addr) (addr : Addr) :
    how.handle role_manager_ addr = role_manager_ := by
  cases how <;> rfl

/-- What happens on the connection of an address. -/
inductive Event (Addr : Type) where
  | opened (addr : Addr)
  | command (addr : Addr) (request : Request)
  | closed (how : Closing) (addr : Addr)

/-- The server with the addresses that have an open connection. -/
structure Connections (Addr : Type) where
  server : Server Addr
  connected : Addr → Bool

namespace Connections

/-- The server as it starts, without connections. -/
def start (redis : Redis) : Connections Addr := ⟨.start redis, fun _ => false⟩

/-- One event; commands and closings reach the handlers of an open connection only. -/
def step (C : Connections Addr) : Event Addr → Connections Addr
  | .opened addr => { C with connected := Function.update C.connected addr true }
  | .command addr request =>
      if C.connected addr then { C with server := C.server.step env (addr, request) } else C
  | .closed how addr =>
      if C.connected addr then
        { server :=
            { C.server with role_manager_ := how.handle C.server.role_manager_ addr }
          connected := Function.update C.connected addr false }
      else C

/-- The events of a run, one after the other. -/
def run (events : List (Event Addr)) (C : Connections Addr) : Connections Addr :=
  events.foldl (step env) C

/-! ### The roles in memory -/

/-- The roles in memory are those of addresses with an open connection. -/
def RolesOfOpen (C : Connections Addr) : Prop :=
  ∀ addr, C.server.role_manager_.roles_ addr ≠ none → C.connected addr = true

/-- No connection closes while `RemoveRole` would find a role of its address. -/
def ClosesWithoutRole : Event Addr → Connections Addr → Prop
  | .closed _ addr, C => (C.server.role_manager_.RemoveRole addr).1 = false
  | _, _ => True

lemma closesWithoutRole_closed {how : Closing} {addr : Addr} {C : Connections Addr} :
    ClosesWithoutRole (.closed how addr) C ↔ C.server.role_manager_.roles_ addr = none := by
  change (C.server.role_manager_.roles_ addr).isSome = false ↔ _
  exact Option.isSome_eq_false_iff.trans Option.isNone_iff_eq_none

variable {C : Connections Addr}

/-- A command can only give a role to its own address. -/
lemma rolesOfOpen_command (h : RolesOfOpen C) (addr : Addr) (request : Request) :
    RolesOfOpen (C.step env (.command addr request)) := by
  rw [step]
  split_ifs with hopen
  · intro a ha
    by_cases haddr : a = addr
    · rw [haddr]
      exact hopen
    · rw [Server.roles_step_of_ne env C.server haddr] at ha
      exact h a ha
  · exact h

/-- **The step**: an event keeps the roles with the open connections exactly when it
does not close a connection whose address has a role. -/
lemma rolesOfOpen_step (h : RolesOfOpen C) (event : Event Addr) :
    ClosesWithoutRole event C ↔ RolesOfOpen (C.step env event) := by
  cases event with
  | command addr request => exact iff_of_true trivial (rolesOfOpen_command env h addr request)
  | opened addr =>
      refine iff_of_true trivial fun a ha => ?_
      change Function.update C.connected addr true a = true
      by_cases haddr : a = addr
      · rw [haddr, Function.update_self]
      · rw [Function.update_of_ne haddr]
        exact h a ha
  | closed how addr =>
      rw [closesWithoutRole_closed, step]
      split_ifs with hopen
      · rw [how.handle_eq]
        constructor
        · intro hfree a ha
          have haddr : a ≠ addr := fun heq => ha (by rw [heq]; exact hfree)
          exact (Function.update_of_ne haddr _ _).trans (h a ha)
        · intro hafter
          by_contra hbound
          have hclosed : Function.update C.connected addr false addr = true :=
            hafter addr hbound
          rw [Function.update_self] at hclosed
          cases hclosed
      · exact iff_of_true (not_not.mp fun hbound => hopen (h addr hbound)) h

/-! ### New connections -/

/-- An address without a role stays without one until it logs in. -/
lemma roles_step_unbound {addr : Addr} (hfree : C.server.role_manager_.roles_ addr = none)
    {event : Event Addr} (h : ∀ req, event ≠ .command addr (.LOGIN req)) :
    (C.step env event).server.role_manager_.roles_ addr = none := by
  cases event with
  | opened a => exact hfree
  | closed how a =>
      rw [step]
      split_ifs
      · rw [how.handle_eq]
        exact hfree
      · exact hfree
  | command a request =>
      rw [step]
      split_ifs
      · by_cases haddr : addr = a
        · subst haddr
          exact C.server.roles_step_unbound env hfree fun req hreq => h req (by rw [hreq])
        · exact (C.server.roles_step_of_ne env haddr request).trans hfree
      · exact hfree

lemma roles_run_unbound {addr : Addr} {events : List (Event Addr)}
    (h : ∀ req, .command addr (.LOGIN req) ∉ events)
    (hfree : C.server.role_manager_.roles_ addr = none) :
    (C.run env events).server.role_manager_.roles_ addr = none := by
  induction events generalizing C with
  | nil => exact hfree
  | cons event events ih =>
      refine ih (fun req hmem => h req (List.mem_cons_of_mem _ hmem)) ?_
      exact roles_step_unbound env hfree fun req heq => h req (heq ▸ List.mem_cons_self)

/-- **Sessions and connections**: in a run of openings, commands and closings, the
roles in memory are those of open connections all along exactly when no connection
closes while its address has a role; and then a new connection is handed the empty
role until it logs in. -/
theorem roles_of_open_connections (events : List (Event Addr)) (redis : Redis) :
    (Run.Guarded (step env) ClosesWithoutRole events (start redis)
      ↔ ∀ earlier later, events = earlier ++ later → RolesOfOpen (run env earlier (start redis))) ∧
    (Run.Guarded (step env) ClosesWithoutRole events (start redis) →
      ∀ earlier addr between later, events = earlier ++ .opened addr :: between ++ later →
        (run env earlier (start redis)).connected addr = false →
        (∀ req, .command addr (.LOGIN req) ∉ between) →
        RoleInjectHandler.handedRole
          (run env (earlier ++ .opened addr :: between) (start redis)).server.role_manager_ addr
            = {}) := by
  have hstart : RolesOfOpen (start redis : Connections Addr) := fun addr h => absurd rfl h
  have hguarded : Run.Guarded (step env) ClosesWithoutRole events (start redis)
      ↔ ∀ earlier later, events = earlier ++ later → RolesOfOpen (run env earlier (start redis)) :=
    Run.guarded_iff_forall (fun event C h => rolesOfOpen_step env h event) hstart
  refine ⟨hguarded, fun hg earlier addr between later hevents hnew hlogin => ?_⟩
  have hroles : RolesOfOpen (run env earlier (start redis)) :=
    hguarded.mp hg earlier (.opened addr :: between ++ later) (by rw [hevents, List.append_assoc])
  have hfree : (run env earlier (start redis)).server.role_manager_.roles_ addr = none := by
    by_contra hbound
    rw [hroles addr hbound] at hnew
    cases hnew
  refine RoleInjectHandler.handedRole_unbound ?_
  rw [run, List.foldl_append]
  have hnologin : ∀ req, .command addr (.LOGIN req) ∉ Event.opened addr :: between := by
    intro req hmem
    rcases List.mem_cons.mp hmem with heq | hbetween
    · cases heq
    · exact hlogin req hbetween
  exact roles_run_unbound env hnologin hfree

/-- An address that connects and leaves without a login, while another one logs in. -/
def leavesDuringLogin : List (Event ℕ) :=
  [.opened 0, .opened 1, .command 1 (.LOGIN { account := "a", password := "p" }),
    .closed .transportInactive 0]

/-- When it connects again, it is handed the empty role, and the other one has its role. -/
theorem roles_of_open_connections_again :
    Run.Guarded (step Env.wire) ClosesWithoutRole (leavesDuringLogin ++ [.opened 0])
        (start (.working oneAccount)) ∧
      RoleInjectHandler.handedRole (run Env.wire (leavesDuringLogin ++ [.opened 0])
        (start (.working oneAccount))).server.role_manager_ 0 = {} ∧
      RoleInjectHandler.handedRole (run Env.wire (leavesDuringLogin ++ [.opened 0])
        (start (.working oneAccount))).server.role_manager_ 1 = initialRole "a" 1 := by
  have hg : Run.Guarded (step Env.wire) ClosesWithoutRole (leavesDuringLogin ++ [.opened 0])
      (start (.working oneAccount)) := by
    refine ⟨trivial, trivial, trivial, closesWithoutRole_closed.mpr ?_, trivial, trivial⟩
    exact Server.roles_step_of_ne Env.wire (.start (.working oneAccount)) zero_ne_one _
  have hrole : (run Env.wire (leavesDuringLogin ++ [.opened 0])
      (start (.working oneAccount))).server.role_manager_.roles_ 1
        = some ⟨"a", initialRole "a" 1⟩ :=
    Server.roles_step_LOGIN_unbound Env.wire (.start (.working oneAccount)) rfl
      pulledRole_oneAccount
  refine ⟨hg, (roles_of_open_connections Env.wire _ (.working oneAccount)).2 hg
    leavesDuringLogin 0 [] [] rfl rfl (fun req hmem => nomatch hmem), ?_⟩
  change ((RoleinfoManager.roles_ _ 1).map Session.role).getD {} = _
  exact congrArg (fun o : Option Session => (o.map Session.role).getD {}) hrole

/-- Somebody else connects from an address that has logged in before, and is handed
the role of the account without a login. -/
theorem closed_address_keeps_role :
    ¬ RolesOfOpen (run Env.wire
        [.opened (0 : ℕ), .command 0 (.LOGIN { account := "a", password := "p" }),
          .closed .transportInactive 0] (start (.working oneAccount))) ∧
      RoleInjectHandler.handedRole (run Env.wire
        [.opened (0 : ℕ), .command 0 (.LOGIN { account := "a", password := "p" }),
          .closed .transportInactive 0, .opened 0]
        (start (.working oneAccount))).server.role_manager_ 0 = initialRole "a" 1 := by
  have hrole : (run Env.wire
      [.opened (0 : ℕ), .command 0 (.LOGIN { account := "a", password := "p" }),
        .closed .transportInactive 0] (start (.working oneAccount))).server.role_manager_.roles_ 0
      = some ⟨"a", initialRole "a" 1⟩ :=
    Server.roles_step_LOGIN_unbound Env.wire (.start (.working oneAccount)) rfl
      pulledRole_oneAccount
  constructor
  · intro hroles
    have hopen := hroles 0 (by rw [hrole]; simp)
    cases hopen
  · change ((RoleinfoManager.roles_ _ 0).map Session.role).getD {} = _
    exact congrArg (fun o : Option Session => (o.map Session.role).getD {}) hrole

end Connections

end LittleB
