/-
Banck.Program — the whole program: an application that requests and
commands reach in any order.

A process serves one of the two front ends; here both work on one
application, so a run of either is a run of a `Program`. Every input
preserves what every permitted call preserves (`step_wellFormed`), so every
state that is reached without a load is well-formed, and a well-formed
state is read back as it was written (`saved_state_reloads`).
-/
import Banck.Api.HandlerMoves
import Banck.CliMoves
import Banck.StorageTheorems

namespace Banck

open Lib

/-! ## Runs -/

/-- The application with what each front end keeps of its own: sessions and
throttle, and who is logged in. -/
structure Program where
  api : Api.ApiState
  session : Option Session

/-- A request, or a command. -/
inductive Input where
  | request (env : Api.Env) (request : Api.Request)
  | command (env : Cli.CliEnv) (command : Cli.Command)

namespace Program

def new : Program := ⟨Api.ApiState.new AppState.new, none⟩

abbrev app (program : Program) : AppState := program.api.app

def step (argon2 : Argon2) (json : SerdeJson) (program : Program) :
    Input → Option (Except Api.Halt Api.Response) × Program
  | .request env request =>
      let (answer, api) := Api.handle argon2 env request program.api
      (some answer, { program with api })
  | .command env command =>
      let state := Cli.run argon2 json env ⟨program.app, program.session⟩ command
      (none, { api := { program.api with app := state.app }, session := state.session })

/-- The state after a run from an empty application. -/
def after (argon2 : Argon2) (json : SerdeJson) (inputs : List Input) : AppState :=
  (Machine.final (step argon2 json) new inputs).app

end Program

/-- The state that an input finds in a file, if it loads one. -/
def Input.loaded (argon2 : Argon2) (json : SerdeJson) : Input → Option AppState
  | .request _ _ => none
  | .command env line => line.loaded argon2 json env

/-! ## The invariant -/

section Invariant

variable {argon2 : Argon2} {json : SerdeJson}

theorem Api.handle_wellFormed (hargon : argon2.ParsesOwnHashes) (env : Api.Env)
    (request : Api.Request) {state : Api.ApiState} (h : state.app.WellFormed argon2) :
    (Api.handle argon2 env request state).2.app.WellFormed argon2 :=
  (Api.handle_serves argon2 env request state).wellFormed hargon h

/-- A command keeps the invariant, if what it loads has it. -/
theorem Cli.run_wellFormed (hargon : argon2.ParsesOwnHashes) (env : Cli.CliEnv)
    (command : Cli.Command) {state : Cli.CliState} (h : state.app.WellFormed argon2)
    (hloaded : ∀ app ∈ command.loaded argon2 json env, app.WellFormed argon2) :
    (Cli.run argon2 json env state command).app.WellFormed argon2 := by
  rcases Cli.run_serves argon2 json env state command with hserves | ⟨app, happ, hserves⟩
  · exact hserves.wellFormed hargon h
  · exact hserves.wellFormed hargon (hloaded app happ)

/-- Every input that loads nothing keeps the invariant. -/
theorem Program.step_wellFormed (hargon : argon2.ParsesOwnHashes) {program : Program}
    {input : Input} (h : program.app.WellFormed argon2)
    (hload : input.loaded argon2 json = none) :
    (step argon2 json program input).2.app.WellFormed argon2 := by
  cases input with
  | request env request => exact Api.handle_wellFormed hargon env request h
  | command env command =>
    refine Cli.run_wellFormed hargon env command h fun app happ => ?_
    rw [show command.loaded argon2 json env = none from hload] at happ
    cases happ

theorem Program.after_wellFormed (hargon : argon2.ParsesOwnHashes) {inputs : List Input}
    (hload : ∀ input ∈ inputs, input.loaded argon2 json = none) :
    (after argon2 json inputs).WellFormed argon2 := by
  refine Machine.final_guarded (step argon2 json)
    (I := fun program => program.app.WellFormed argon2)
    (fun _ _ hi hg => step_wellFormed hargon hi hg) inputs new AppState.wellFormed_new ?_
  generalize new = program
  induction inputs generalizing program with
  | nil => trivial
  | cons input rest ih =>
    exact ⟨hload input (by simp), ih (fun i hi => hload i (by simp [hi])) _⟩

end Invariant

/-! ## Saving and loading -/

/-- Every state that requests and commands build is accepted by the loader
of each of its parts, unchanged; and its text is read back as the same
state, its counter of transaction ids apart. -/
theorem saved_state_reloads (argon2 : Argon2) (hargon : argon2.ParsesOwnHashes)
    (json : SerdeJson) (inputs : List Input)
    (hload : ∀ input ∈ inputs, input.loaded argon2 json = none) :
    let app := Program.after argon2 json inputs
    IdentityStore.fromRecords argon2 app.identities.customerList app.identities.userList =
        .ok app.identities ∧
      (∃ next, Bank.fromAccounts app.bank.accountList = .ok ⟨app.bank.accounts, next⟩) ∧
      AuditLog.fromEntries app.auditLog.entries = .ok app.auditLog ∧
      validateAccountOwners app.bank app.identities = .ok () ∧
      (json.RoundTrips (.fromState app) →
        ∃ text restored, appToJson json app = .ok text ∧
          appFromJson argon2 json text = .ok restored ∧
          restored.bank.accounts = app.bank.accounts ∧
          restored.identities = app.identities ∧ restored.auditLog = app.auditLog) := by
  intro app
  have hwf : app.WellFormed argon2 := Program.after_wellFormed hargon hload
  obtain ⟨hidentities, hbank, haudit, -⟩ := hwf.parts
  refine ⟨hidentities, ⟨_, hbank⟩, haudit, validateAccountOwners_ok hwf.owners, ?_⟩
  intro hjson
  obtain ⟨text, hwrite, hread⟩ := hwf.fromJson hjson
  exact ⟨text, app.reloaded, hwrite, hread, rfl, rfl, rfl⟩

/-! ### A run -/

def sampleSalt : String := "YW4gZXhhbXBsZSBzYWx0IQ"

def sampleHash : String :=
  "$argon2id$v=19$m=19456,t=2,p=1$" ++ sampleSalt
    ++ "$S8ND7bmeE6nphmD24ivzFILvsCvqvIWa+Bto1oKn8Rg"

/-- The password library on the one password and salt of the run. -/
def sampleArgon2 : Argon2 where
  hashPassword salt password :=
    if salt = sampleSalt ∧ password = "correct-password" then .ok sampleHash
    else .error "another password or salt"
  parseHash hash := if hash = sampleHash then .ok () else .error "another hash"
  verifyPassword password hash := password = "correct-password" ∧ hash = sampleHash

theorem sampleArgon2_parses : sampleArgon2.ParsesOwnHashes := by
  intro salt password hash h
  unfold sampleArgon2 at h
  dsimp only at h
  split at h
  · obtain rfl := Except.ok.inj h
    simp [sampleArgon2]
  · cases h

theorem sampleArgon2_verifies : sampleArgon2.VerifiesOwnHashes := by
  intro salt password hash h
  unfold sampleArgon2 at h
  dsimp only at h
  split at h
  · rename_i hargs
    obtain rfl := Except.ok.inj h
    simp [sampleArgon2, hargs.2]
  · cases h

/-- The snapshot of the state that the run leaves. -/
def sampleSnapshot : AppSnapshot where
  version := 3
  accounts :=
    [⟨1, none, "Ann", "ann@b", ⟨100, by decide⟩, Money.zero, .active,
      [⟨1, 5, .accountCreated, ⟨100, by decide⟩, "Account created"⟩]⟩]
  customers := []
  users := [⟨1, "root", .admin, none, sampleHash⟩]
  auditEntries :=
    [⟨1, 5, .user 1 "root" .admin, .bootstrapAdmin, .success, some "user:1",
      "admin bootstrapped"⟩,
     ⟨2, 6, .user 1 "root" .admin, .createAccount, .success, some "account:1",
      "account created"⟩]

def sampleText : String := String.intercalate "\n"
  ["\x7b", "  \"version\": 3,", "  \"accounts\": [", "    \x7b", "      \"id\": 1,",
   "      \"owner_id\": null,", "      \"name\": \"Ann\",", "      \"email\": \"ann@b\",",
   "      \"balance\": 100,", "      \"loan_balance\": 0,", "      \"status\": \"active\",",
   "      \"transactions\": [", "        \x7b", "          \"id\": 1,",
   "          \"occurred_at_epoch_seconds\": 5,", "          \"kind\": \"account_created\",",
   "          \"amount\": 100,", "          \"description\": \"Account created\"",
   "        \x7d", "      ]", "    \x7d", "  ],", "  \"customers\": [],", "  \"users\": [",
   "    \x7b", "      \"id\": 1,", "      \"username\": \"root\",",
   "      \"role\": \"admin\",", "      \"customer_id\": null,",
   "      \"password_hash\": \"" ++ sampleHash ++ "\"",
   "    \x7d", "  ],", "  \"audit_entries\": [", "    \x7b", "      \"id\": 1,",
   "      \"occurred_at_epoch_seconds\": 5,", "      \"actor\": \x7b", "        \"user\": \x7b",
   "          \"user_id\": 1,", "          \"username\": \"root\",",
   "          \"role\": \"admin\"", "        \x7d", "      \x7d,",
   "      \"action\": \"bootstrap_admin\",", "      \"outcome\": \"success\",",
   "      \"target\": \"user:1\",", "      \"message\": \"admin bootstrapped\"", "    \x7d,",
   "    \x7b", "      \"id\": 2,", "      \"occurred_at_epoch_seconds\": 6,",
   "      \"actor\": \x7b", "        \"user\": \x7b", "          \"user_id\": 1,",
   "          \"username\": \"root\",", "          \"role\": \"admin\"", "        \x7d",
   "      \x7d,", "      \"action\": \"create_account\",", "      \"outcome\": \"success\",",
   "      \"target\": \"account:1\",", "      \"message\": \"account created\"", "    \x7d",
   "  ]", "\x7d"]

/-- The snapshot of a new program. -/
def emptySnapshot : AppSnapshot where
  version := 3
  accounts := []
  customers := []
  users := []
  auditEntries := []

def emptyText : String := String.intercalate "\n"
  ["\x7b", "  \"version\": 3,", "  \"accounts\": [],", "  \"customers\": [],",
   "  \"users\": [],", "  \"audit_entries\": []", "\x7d"]

/-- The JSON library on these snapshots and their texts. -/
def sampleJson : SerdeJson where
  toStringPretty snapshot :=
    if snapshot = sampleSnapshot then .ok sampleText
    else if snapshot = emptySnapshot then .ok emptyText
    else .error "another snapshot"
  fromStr text :=
    if text = sampleText then .ok sampleSnapshot
    else if text = emptyText then .ok emptySnapshot
    else .error "another text"

theorem sampleJson_roundTrips {snapshot : AppSnapshot} (h : snapshot = sampleSnapshot) :
    sampleJson.RoundTrips snapshot :=
  ⟨sampleText, by simp [sampleJson, h], by simp [sampleJson, h]⟩

def sampleEnv (now : Nat) : Cli.CliEnv where
  postedAt := 5
  postedNextAt := 5
  feePostedAt _ := 5
  auditedAt := now
  salt := sampleSalt
  write _ := .ok ()
  read := .error "no file"
  store := ⟨"bank.db", 5, 5, 5, 5⟩
  database := Database.empty
  sqlText _ := "a database error"

/-- The first administrator opens an account. -/
def sampleInputs : List Input :=
  [.command (sampleEnv 5) (.bootstrapAdmin 1 "root" "correct-password"),
   .command (sampleEnv 6) (.create 1 none "Ann" "ann@b" ⟨100, by decide⟩)]

theorem saved_state_reloads_sample :
    let app := Program.after sampleArgon2 sampleJson sampleInputs
    ∃ text restored, appToJson sampleJson app = .ok text ∧
      appFromJson sampleArgon2 sampleJson text = .ok restored ∧
      restored.bank.accounts = app.bank.accounts ∧
      restored.identities = app.identities ∧ restored.auditLog = app.auditLog :=
  (saved_state_reloads sampleArgon2 sampleArgon2_parses sampleJson sampleInputs
    (by simp [sampleInputs, Input.loaded, Cli.Command.loaded])).2.2.2.2
    (sampleJson_roundTrips (by decide +kernel))

end Banck
