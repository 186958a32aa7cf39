/-
Banck.CliAuthorization — in whose name the commands change the application.

Once there is a user, a command that changes the bank or the identities, or
puts another application in the place of this one, is run in a session that
may (`Authorized`), with one exception: a load asks for the permission only
if somebody is logged in. `authorized_iff` is the statement about one
command, `changes_are_authorized_iff` the one about runs.
-/
import Banck.Program

namespace Banck.Cli

open Lib Machine

section Definitions

variable (argon2 : Argon2) (json : SerdeJson)

/-- One command of the loop, with what it takes from outside. -/
def step (state : CliState) (input : CliEnv × Command) : Unit × CliState :=
  ((), run argon2 json input.1 state input.2)

/-- The session has the permission that the command needs. -/
def Command.GrantedTo (app : AppState) (session : Session) : Command → Prop
  | createCustomer .. | createUser .. => session.can .manageIdentity = true
  | create .. | updateName .. | updateEmail .. | activate _ | deactivate _ | close _
  | delete _ => session.can .manageAccounts = true
  | deposit id _ | withdraw id _ | payLoan id _ => session.MovesMoneyOf app.bank id
  | transfer fromId _ _ => session.MovesMoneyOf app.bank fromId
  | fee .. | monthlyFee _ | interest .. | loanRequest .. => session.can .moveMoney = true
  | load _ | loadSqlite _ => session.can .persistState = true
  | bootstrapAdmin .. | login .. | logout | save _ | saveSqlite _ | exportStatement _
  | print => False

/-- The bank or the identities are not what they were. -/
def Changed (state after : CliState) : Prop :=
  after.app.bank ≠ state.app.bank ∨ after.app.identities ≠ state.app.identities

/-- The application is the one that was found in the file, and nobody is
logged in. -/
def Replaced (after : CliState) (input : CliEnv × Command) : Prop :=
  ∃ app ∈ input.2.loaded argon2 json input.1, after.app.bank = app.bank ∧
    after.app.identities = app.identities ∧ after.session = none

/-- If there are users, the command changes or replaces the application in
a session that has the permission, or not at all. -/
def Authorized (state : CliState) (input : CliEnv × Command) : Prop :=
  state.app.identities.hasUsers = true →
    (Changed state (step argon2 json state input).2 ∨
      Replaced argon2 json (step argon2 json state input).2 input) →
    ∃ session ∈ state.session, input.2.GrantedTo state.app session

/-- There are users, nobody is logged in, and the command loads a file in
which there is a state. -/
def LoadsLoggedOut (state : CliState) (input : CliEnv × Command) : Prop :=
  state.app.identities.hasUsers = true ∧ state.session = none ∧
    input.2.loaded argon2 json input.1 ≠ none

end Definitions

/-! ## One command -/

section Step

variable {argon2 : Argon2} {json : SerdeJson} {state : CliState} {env : CliEnv}

/-- A permitted call is one that the command's session is granted. -/
theorem granted_of_permitted {command : Command} {m : AppMove}
    (husers : state.app.identities.hasUsers = true) (hact : m ∈ command.act env)
    (hperm : m.Permitted (command.session state) state.app) :
    ∃ session ∈ state.session, command.GrantedTo state.app session := by
  cases command with
  | bootstrapAdmin id username password =>
    obtain rfl := Option.some.inj hact
    rw [hperm.2] at husers
    cases husers
  | create id ownerId name email openingBalance =>
    obtain rfl := Option.some.inj hact
    obtain ⟨session, hsession, hmay⟩ := hperm
    exact ⟨session, hsession, hmay.1⟩
  | login | logout | save | load | saveSqlite | loadSqlite | exportStatement | print =>
    cases hact
  | _ =>
    obtain rfl := Option.some.inj hact
    exact hperm

/-- Whatever a command serves is unchanged, or granted. -/
theorem granted_of_serves {command : Command} {after : CliState}
    (husers : state.app.identities.hasUsers = true)
    (h : Serves argon2 (command.session state) (fun m => m ∈ command.act env) state.app
      after.app)
    (hchanged : Changed state after) :
    ∃ session ∈ state.session, command.GrantedTo state.app session := by
  obtain ⟨mid, hmid, hrecords⟩ := h
  obtain ⟨hbank, hidentities⟩ := hrecords.rest
  rcases hmid with rfl | ⟨m, hact, hperm, -⟩
  · rcases hchanged with h | h
    · exact absurd hbank h
    · exact absurd hidentities h
  · exact granted_of_permitted husers hact hperm

/-- A load, of either kind: refused, or its result put in place. -/
theorem authorized_load {ε : Type} {command : Command} {display : ε → String}
    {path message : String} {result : Except ε AppState}
    (hrun : run argon2 json env state command =
      if state.session.isSome && !authorize state.session .persistState then state
      else replaceState env display path message result state)
    (hloaded : command.loaded argon2 json env = result.toOption)
    (hgranted : ∀ session, command.GrantedTo state.app session ↔
      session.can .persistState = true) :
    Authorized argon2 json state (env, command) ↔
      ¬ LoadsLoggedOut argon2 json state (env, command) := by
  constructor
  · rintro h ⟨husers, hnobody, hfound⟩
    have hreplaced : Replaced argon2 json (step argon2 json state (env, command)).2
        (env, command) := by
      -- nobody is logged in: the guard lets the load pass
      cases result with
      | error e => exact absurd hloaded hfound
      | ok app =>
        refine ⟨app, hloaded, ?_⟩
        show (run argon2 json env state command).app.bank = _ ∧
          (run argon2 json env state command).app.identities = _ ∧
          (run argon2 json env state command).session = none
        rw [hrun, hnobody]
        exact ⟨rfl, rfl, rfl⟩
    obtain ⟨session, hsession, -⟩ := h husers (.inr hreplaced)
    rw [hnobody] at hsession
    cases hsession
  · intro h husers hchange
    cases hsession : state.session with
    | none =>
      cases result with
      | ok app => exact absurd ⟨husers, hsession, by rw [hloaded]; exact Option.some_ne_none _⟩ h
      | error e =>
        exfalso
        have hafter : (step argon2 json state (env, command)).2 =
            replaceState env display path message (.error e) state := by
          rw [step, hrun, hsession]
          rfl
        rw [hafter] at hchange
        rcases hchange with (hbank | hidentities) | ⟨app, happ, -⟩
        · exact hbank rfl
        · exact hidentities rfl
        · rw [hloaded] at happ
          cases happ
    | some session =>
      refine ⟨session, rfl, (hgranted session).mpr ?_⟩
      cases hcan : session.can .persistState with
      | true => rfl
      | false =>
        exfalso
        have hafter : (step argon2 json state (env, command)).2 = state := by
          have hrefused : authorize (some session) .persistState = false := by
            rw [Bool.eq_false_iff]
            intro hallowed
            obtain ⟨s, hs, hmay⟩ := authorize_iff.mp hallowed
            obtain rfl := Option.some.inj hs
            rw [hcan] at hmay
            cases hmay
          rw [step, hrun, hsession, hrefused]
          rfl
        rw [hafter] at hchange
        rcases hchange with (hbank | hidentities) | ⟨app, -, -, -, hnobody⟩
        · exact hbank rfl
        · exact hidentities rfl
        · rw [hsession] at hnobody
          cases hnobody

/-- A command that loads nothing is authorized. -/
theorem authorized_of_not_load {command : Command}
    (hload : command.loaded argon2 json env = none) :
    Authorized argon2 json state (env, command) := by
  intro husers hchange
  rcases hchange with hchanged | ⟨app, happ, -⟩
  · rcases run_serves argon2 json env state command with hserves | ⟨app, happ, -⟩
    · exact granted_of_serves husers hserves hchanged
    · rw [hload] at happ
      cases happ
  · rw [hload] at happ
    cases happ

theorem authorized_iff (input : CliEnv × Command) :
    Authorized argon2 json state input ↔ ¬ LoadsLoggedOut argon2 json state input := by
  obtain ⟨env, command⟩ := input
  cases command with
  | load path =>
    exact authorized_load (by rw [run]) (by rw [Command.loaded]) fun _ => Iff.rfl
  | loadSqlite path =>
    exact authorized_load (by rw [run]) (by rw [Command.loaded]) fun _ => Iff.rfl
  | _ => exact ⟨fun _ h => h.2.2 rfl, fun _ => authorized_of_not_load rfl⟩

end Step

/-! ## Runs -/

/-- In a run of the loop, once there are users, every command that changes
or replaces the application does so in a session that has the permission,
exactly if no command loads a state while nobody is logged in. And after
such a run, commands without a session that has their permission leave
accounts, customers and users as they are. -/
theorem changes_are_authorized_iff (argon2 : Argon2) (json : SerdeJson)
    (inputs : List (CliEnv × Command)) :
    (Guarded (step argon2 json) (Authorized argon2 json) CliState.new inputs ↔
      Guarded (step argon2 json)
        (fun state input => ¬ LoadsLoggedOut argon2 json state input) CliState.new inputs) ∧
    ∀ more : List (CliEnv × Command),
      let state := final (step argon2 json) CliState.new inputs
      state.app.identities.hasUsers = true →
      Guarded (step argon2 json) (fun state input =>
        ¬ LoadsLoggedOut argon2 json state input ∧
          ¬ ∃ session ∈ state.session, input.2.GrantedTo state.app session) state more →
      (final (step argon2 json) state more).app.bank = state.app.bank ∧
        (final (step argon2 json) state more).app.identities = state.app.identities := by
  refine ⟨guarded_congr _ (fun _ input => authorized_iff input) inputs CliState.new, ?_⟩
  intro more state husers hmore
  refine final_guarded (step argon2 json)
    (I := fun reached => reached.app.bank = state.app.bank ∧
      reached.app.identities = state.app.identities) ?_ more state ⟨rfl, rfl⟩ hmore
  intro reached input hsame hguard
  have hthere : reached.app.identities.hasUsers = true := by rw [hsame.2]; exact husers
  have hkept : ¬ Changed reached (step argon2 json reached input).2 := fun hchanged =>
    hguard.2 ((authorized_iff input).mpr hguard.1 hthere (.inl hchanged))
  rw [Changed, not_or, not_not, not_not] at hkept
  exact ⟨hkept.1.trans hsame.1, hkept.2.trans hsame.2⟩

/-- The administrator logs out, and a file is loaded by nobody. -/
def loggedOutLoad : List (CliEnv × Command) :=
  [(sampleEnv 5, .bootstrapAdmin 1 "root" "correct-password"), (sampleEnv 5, .logout)]

/-- After the load there is another account, and nobody was logged in. -/
theorem load_needs_no_session :
    let state := final (step sampleArgon2 sampleJson) CliState.new loggedOutLoad
    let after := run sampleArgon2 sampleJson { sampleEnv 6 with read := .ok sampleText } state
      (.load "bank.json")
    state.app.identities.hasUsers = true ∧ state.session = none ∧
      state.app.bank.accountList = [] ∧ after.app.bank.accountList = sampleSnapshot.accounts := by
  decide +kernel

end Banck.Cli
