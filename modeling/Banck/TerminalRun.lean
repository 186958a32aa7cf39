/-
Banck.TerminalRun — the loop of the terminal, and that it is the commands
that were typed.

`act` carries out a command without a check, prints what the source prints,
and changes the state as the source does. The check was made some lines
before, in another turn of the machine. That it still holds is an invariant
of the loop (`Reads`): while a question is open the state is the one that the
command was started in. So whatever is read, the state is that of the
checked commands run one after the other (`terminal_runs_commands`), and all
that is known of runs of commands is known of what is typed.
-/
import Banck.CliAuthorization
import Banck.Lib.Refinement
import Banck.Statement
import Banck.Terminal

namespace Banck.Cli

open Lib Machine Dialogue

/-! ## Carrying out a command -/

section Act

variable (argon2 : Argon2) (json : SerdeJson) (env : CliEnv)

/-- `record_cli_audit`, with what it prints. -/
def report (action : AuditAction) (outcome : AuditOutcome) (target : Option String)
    (message : String) (state : CliState) : List String × CliState :=
  let actor := match state.session with
    | some session => .fromSession session
    | none => .system
  match AuditLog.record actor action outcome target message env.auditedAt state.app.auditLog with
  | (.ok _, auditLog) => ([], { state with app := { state.app with auditLog } })
  | (.error e, auditLog) =>
      (["Audit log failed: " ++ e.display], { state with app := { state.app with auditLog } })

/-- A result that is recorded and printed. -/
def reportResult {ε α : Type} (display : ε → String) (action : AuditAction)
    (target : Option String) (message : String) (said : α → String) (context : String)
    (result : Except ε α) (state : CliState) : List String × CliState :=
  match result with
  | .ok a =>
      let (complaints, state) := report env action .success target message state
      (complaints ++ [said a], state)
  | .error e =>
      let (complaints, state) := report env action .failure target (display e) state
      (complaints ++ [context ++ ": " ++ display e], state)

/-- A result that is only printed. -/
def printResult {ε α : Type} (display : ε → String) (said : α → String) (context : String)
    (result : Except ε α) : List String :=
  match result with
  | .ok a => [said a]
  | .error e => [context ++ ": " ++ display e]

/-- A call of the bank, its result printed. -/
def tellBank {α : Type} (m : BankM α) (said : α → String) (context : String)
    (state : CliState) : List String × CliState :=
  let (result, bank) := m state.app.bank
  (printResult BankError.display said context result,
    { state with app := { state.app with bank } })

/-- `print_bank_result_with_audit`, and the same for opening an account. -/
def tellBankWithAudit {α : Type} (m : BankM α) (action : AuditAction) (target : Option String)
    (message said context : String) (state : CliState) : List String × CliState :=
  let (result, bank) := m state.app.bank
  reportResult env BankError.display action target message (fun _ => said) context result
    { state with app := { state.app with bank } }

def tellIdentitiesWithAudit {α : Type} (m : IdentityM α) (action : AuditAction)
    (target : Option String) (message said context : String) (state : CliState) :
    List String × CliState :=
  let (result, identities) := m state.app.identities
  reportResult env IdentityError.display action target message (fun _ => said) context result
    { state with app := { state.app with identities } }

/-- A loaded state takes the place of the state. -/
def tellLoaded {ε : Type} (display : ε → String) (path message said context : String)
    (result : Except ε AppState) (state : CliState) : List String × CliState :=
  reportResult env display .loadState (some path) message
    (fun app : AppState => said ++ toString app.bank.accountCount ++ ". Please log in again.")
    context result <|
    match result with
    | .ok app => { app, session := none }
    | .error _ => state

/-- The fee charged to one account. -/
def feeLine : AccountId × Except BankError Unit → String
  | (id, .ok _) => "Fee applied to account " ++ toString id
  | (id, .error e) => "Fee failed for account " ++ toString id ++ ": " ++ e.display

/-- What is done, and printed, when the last answer is there. -/
def act (state : CliState) : Command → List String × CliState
  | .bootstrapAdmin id username password =>
      match IdentityStore.createUser argon2 env.salt id username .admin none password
          state.app.identities with
      | (.ok _, identities) =>
          let state := { state with app := { state.app with identities } }
          match identities.authenticate argon2 username password with
          | .ok session =>
              let (complaints, state) := report env .bootstrapAdmin .success (userTarget id)
                "admin bootstrapped" { state with session := some session }
              (complaints ++ ["Admin created and logged in"], state)
          | .error e => (["Automatic login failed: " ++ e.display], state)
      | (.error e, identities) =>
          let (complaints, state) := report env .bootstrapAdmin .failure (userTarget id) e.display
            { state with app := { state.app with identities } }
          (complaints ++ ["Admin bootstrap failed: " ++ e.display], state)
  | .login username password =>
      match state.app.identities.authenticate argon2 username password with
      | .ok session =>
          let (complaints, state) := report env .login .success none "login succeeded"
            { state with session := some session }
          (("Logged in as " ++ session.username ++ " (" ++ session.role.display ++ ")")
            :: complaints, state)
      | .error e =>
          let (complaints, state) := report env .login .failure (some ("username:" ++ username))
            e.display state
          (complaints ++ ["Login failed: " ++ e.display], state)
  | .logout => (["Logged out"], { state with session := none })
  | .createCustomer id fullName email =>
      tellIdentitiesWithAudit env (IdentityStore.createCustomer id fullName email)
        .createCustomer (customerTarget id) "customer created" "Customer created"
        "Customer creation failed" state
  | .createUser id username role linkedCustomerId password =>
      let customerId := if role = .customer then some linkedCustomerId else none
      tellIdentitiesWithAudit env
        (IdentityStore.createUser argon2 env.salt id username role customerId password)
        .createUser (userTarget id) "user created" "User created" "User creation failed" state
  | .create id ownerId name email openingBalance =>
      tellBankWithAudit env (Bank.createAccount id ownerId name email openingBalance env.postedAt)
        .createAccount (accountTarget id) "account created" "Account created" "Create failed"
        state
  | .updateName id name =>
      tellBank (Bank.updateName id name env.postedAt) (fun _ => "Name updated")
        "Operation failed" state
  | .updateEmail id email =>
      tellBank (Bank.updateEmail id email env.postedAt) (fun _ => "Email updated")
        "Operation failed" state
  | .activate id =>
      tellBank (Bank.activateAccount id env.postedAt) (fun _ => "Account activated")
        "Operation failed" state
  | .deactivate id =>
      tellBank (Bank.deactivateAccount id env.postedAt) (fun _ => "Account deactivated")
        "Operation failed" state
  | .close id =>
      tellBank (Bank.closeAccount id env.postedAt) (fun _ => "Account closed")
        "Operation failed" state
  | .delete id =>
      tellBank (Bank.deleteAccount id) (fun _ => "Account deleted") "Delete failed" state
  | .deposit id amount =>
      tellBankWithAudit env (Bank.deposit id amount env.postedAt) .deposit (accountTarget id)
        "Deposit completed" "Deposit completed" "Operation failed" state
  | .withdraw id amount =>
      tellBankWithAudit env (Bank.withdraw id amount env.postedAt) .withdraw (accountTarget id)
        "Withdraw completed" "Withdraw completed" "Operation failed" state
  | .transfer fromId toId amount =>
      tellBankWithAudit env (Bank.transfer fromId toId amount env.postedAt env.postedNextAt)
        .transfer (some ("account:" ++ toString fromId ++ "->account:" ++ toString toId))
        "Transfer completed" "Transfer completed" "Operation failed" state
  | .fee id amount =>
      tellBank (Bank.applyFee id amount env.postedAt) (fun _ => "Fee applied")
        "Operation failed" state
  | .monthlyFee amount =>
      let (results, bank) := state.app.bank.applyMonthlyFee amount env.feePostedAt
      (results.map feeLine, { state with app := { state.app with bank } })
  | .interest id rate =>
      tellBank (Bank.applyInterest id rate env.postedAt)
        (fun interest => "Interest added: " ++ interest.display) "Interest failed" state
  | .loanRequest id amount =>
      tellBank (Bank.requestLoan id amount env.postedAt) (fun _ => "Loan received")
        "Operation failed" state
  | .payLoan id amount =>
      tellBank (Bank.payLoan id amount env.postedAt)
        (fun payment => "Loan payment completed: " ++ payment.display) "Loan payment failed" state
  | .save path =>
      reportResult env StorageError.display .saveState (some path) "state saved"
        (fun _ => "Application state saved") "Save failed"
        (saveAppToJsonFile json env.write state.app path) state
  | .load path =>
      tellLoaded env StorageError.display path "state loaded"
        "Application state loaded. Account count: " "Load failed"
        (loadAppFromJsonFile argon2 json env.read path) state
  | .saveSqlite path =>
      reportResult env (SqliteStoreError.display env.sqlText) .saveState (some path)
        "state saved to sqlite"
        (fun _ => "Application state saved to SQLite") "SQLite save failed"
        (saveAppToSqliteFile argon2 json { env.store with path } state.app env.database).1 state
  | .loadSqlite path =>
      tellLoaded env (SqliteStoreError.display env.sqlText) path "state loaded from sqlite"
        "Application state loaded from SQLite. Account count: " "SQLite load failed"
        (loadAppFromSqliteFile argon2 json { env.store with path } env.database).1 state
  | .exportStatement path =>
      reportResult env StorageError.display .exportStatement (some path) "statement exported"
        (fun _ => "Statement exported") "Export failed"
        (exportBankStatementFile env.write state.app.bank path) state
  | .print => ([], state)

end Act

/-! ## The loop -/

/-- A line as it is typed, without its line feed. -/
structure Line where
  text : String
  oneLine : OneLine text

/-- What reading a line comes to. It fails if the line is not Unicode text,
or if the question cannot be written or the line not be read. -/
inductive Reading where
  | line (line : Line)
  | failed

/-- A line that was read. -/
def typed (input : CliEnv × Line) : CliEnv × Reading := (input.1, .line input.2)

/-- The state, and the question that is open; none when the loop is over. -/
structure Terminal where
  state : CliState
  open? : Option (Dialogue Order)

/-- What is printed after a line. `performed` is the command that was
carried out, if one was, and is kept for the statements only. -/
structure Shown where
  printed : List String
  performed : Option (CliEnv × Command)

def println (line : String) : String := line ++ "\n"

/-- The menu. -/
def menuLines (session : Option Session) : List String :=
  ["", sessionSummary session,
   "Commands:",
   "bootstrap_admin, login, logout, session",
   "create_customer, create_user, list_customers, list_users",
   "create, update_name, update_email, activate, deactivate, close, delete",
   "deposit, withdraw, transfer, fee, monthly_fee, interest",
   "loan_request, pay_loan",
   "balance, info, list, search, history, statement",
   "total_balance, richest, empty_accounts, count",
   "save, load, save_sqlite, load_sqlite, export, audit, exit"]

namespace Terminal

/-- Print these lines, the menu, and its question. -/
def backToMenu (printed : List String) (performed : Option (CliEnv × Command))
    (state : CliState) : Shown × Terminal :=
  (⟨(printed ++ menuLines state.session).map println ++ ["Enter command: "], performed⟩,
    ⟨state, some (mainMenu state)⟩)

def new : Terminal := ⟨CliState.new, some (mainMenu CliState.new)⟩

/-- What the loop does when a turn is over. -/
def conclude (argon2 : Argon2) (json : SerdeJson) (env : CliEnv) (state : CliState) :
    Order → Shown × Terminal
  | .nothing printed => backToMenu printed none state
  | .view view => backToMenu (view.printed state) none state
  | .change command =>
      let (printed, state) := act argon2 json env state command
      backToMenu printed (some (env, command)) state
  | .exit => (⟨["Goodbye\n"], none⟩, ⟨state, none⟩)

/-- The loop between two readings. `read_text` expects a line, so a reading
that fails ends the program without a word. When the loop is over nothing is
read. -/
def step (argon2 : Argon2) (json : SerdeJson) (terminal : Terminal) :
    CliEnv × Reading → Shown × Terminal
  | (env, reading) =>
      match terminal.open?, reading with
      | none, _ => (⟨[], none⟩, terminal)
      | some _, .failed => (⟨[], none⟩, { terminal with open? := none })
      | some dialogue, .line line =>
          match dialogue.hear (Text.trim line.text) with
          | (complaints, ask prompt answer) =>
              (⟨complaints.map println ++ [prompt], none⟩,
                { terminal with open? := some (ask prompt answer) })
          | (_, done order) => conclude argon2 json env terminal.state order

end Terminal

/-! ## Checks -/

theorem permit_ok_iff {session : Option Session} {permission : Permission} {u : Unit} :
    permit session permission = .ok u ↔ authorize session permission = true := by
  cases session with
  | none => simp [permit, authorize]
  | some s =>
    cases hcan : s.can permission <;>
      simp [permit, authorize, IdentityStore.authorize, hcan, Except.isOk, Except.toBool]

theorem permitAccountAccess_ok_iff {app : AppState} {session : Option Session}
    {id : AccountId} {anyPermission ownPermission : Permission} {u : Unit} :
    permitAccountAccess app session id anyPermission ownPermission = .ok u ↔
      authorizeAccountAccess app session id anyPermission ownPermission = true := by
  unfold permitAccountAccess authorizeAccountAccess
  cases session with
  | none => simp
  | some s =>
    by_cases hany : s.can anyPermission = true
    · simp [hany]
    · by_cases hown : s.can ownPermission = false
      · simp [hany, hown]
      · simp only [hany, hown]
        cases app.bank.account id with
        | error e => simp
        | ok account => by_cases howner :
            (account.ownerId.isSome && account.ownerId == s.customerId) = true <;> simp [howner]

theorem findOwner_ok_iff {identities : IdentityStore} {ownerId : Option CustomerId} {u : Unit} :
    findOwner identities ownerId = .ok u ↔ customerExists identities ownerId = true := by
  cases ownerId with
  | none => simp [findOwner, customerExists]
  | some customerId =>
    cases hfound : identities.customer customerId <;>
      simp [findOwner, customerExists, hfound, Except.isOk, Except.toBool]

/-- The command is one that the loop carries out in this state. -/
def Command.Allowed (state : CliState) : Command → Prop
  | bootstrapAdmin .. => state.app.identities.hasUsers = false
  | login .. | logout => True
  | createCustomer .. | createUser .. => authorize state.session .manageIdentity = true
  | create _ ownerId _ _ _ =>
      authorize state.session .manageAccounts = true ∧
        customerExists state.app.identities ownerId = true
  | updateName .. | updateEmail .. | activate _ | deactivate _ | close _ | delete _ =>
      authorize state.session .manageAccounts = true
  | deposit id _ | withdraw id _ | payLoan id _ | transfer id _ _ =>
      authorizeAccountMoneyOperation state.app state.session id = true
  | fee .. | monthlyFee _ | interest .. | loanRequest .. =>
      authorize state.session .moveMoney = true
  | save _ | saveSqlite _ => authorize state.session .persistState = true
  | load _ | loadSqlite _ =>
      state.session.isSome = true → authorize state.session .persistState = true
  | exportStatement _ => authorize state.session .exportStatements = true
  | print => False

/-- What the readers make of a line. -/
structure IsAnswer (text : String) : Prop where
  trimmed : Text.trim text = text
  oneLine : OneLine text

/-- The parameters are such as the readers read. Users that are no customers
are linked to none, which the model has as 0. -/
def Command.Speakable : Command → Prop
  | bootstrapAdmin _ username password | login username password =>
      IsAnswer username ∧ IsAnswer password
  | logout | activate _ | deactivate _ | close _ | delete _ => True
  | createCustomer _ fullName email => IsAnswer fullName ∧ IsAnswer email
  | createUser _ username role linkedCustomerId password =>
      IsAnswer username ∧ IsAnswer password ∧ (role ≠ .customer → linkedCustomerId = 0)
  | create _ _ name email openingBalance =>
      IsAnswer name ∧ IsAnswer email ∧ Money.zero ≤ openingBalance
  | updateName _ text | updateEmail _ text | save text | load text | saveSqlite text
  | loadSqlite text | exportStatement text => IsAnswer text
  | deposit _ amount | withdraw _ amount | transfer _ _ amount | fee _ amount
  | monthlyFee amount | loanRequest _ amount | payLoan _ amount => Money.zero < amount
  | interest _ rate => rate.isZero = false
  | print => False

/-- What is shown may be shown in this state. -/
def View.Allowed (state : CliState) : View → Prop
  | session | list => True
  | audit | listCustomers | listUsers => authorize state.session .manageIdentity = true
  | balance id | info id | history id =>
      authorizeAccountView state.app state.session id = true
  | totalBalance | richest | emptyAccounts | count =>
      authorize state.session .viewAnyAccount = true

/-- Everything but the end of the loop, if it may be done or shown. -/
def Order.Allowed (state : CliState) : Order → Prop
  | nothing _ => True
  | exit => False
  | view v => v.Allowed state
  | change command => command.Allowed state ∧ command.Speakable

section Readers

variable {P : Order → Prop}

theorem always_check {checked : Except String Unit} {next : Dialogue Order}
    (hnothing : ∀ printed, P (.nothing printed)) (h : checked = .ok () → Always IsAnswer P next) :
    Always IsAnswer P (check checked next) := by
  unfold check
  split
  · exact h rfl
  · exact .done (hnothing _)

theorem always_readText {prompt : String} {next : String → Dialogue Order}
    (h : ∀ text, IsAnswer text → Always IsAnswer P (next text)) :
    Always IsAnswer P (readText prompt next) := by
  refine .askFor fun line text hline hread => ?_
  obtain rfl := Except.ok.inj hread
  exact h line hline

theorem always_readId {noun prompt : String} {next : UInt32 → Dialogue Order}
    (h : ∀ id, Always IsAnswer P (next id)) : Always IsAnswer P (readId noun prompt next) :=
  .askFor fun _ id _ _ => h id

theorem parseMoney_ok_iff {line : String} {amount : Money} :
    parseMoney line = .ok amount ↔ Money.fromStr line = some (.ok amount) := by
  unfold parseMoney
  split
  · next read hread => simp [hread]
  · next e hread => simp [hread]
  · next hread => exact absurd hread (Money.fromStr_ne_none line)

theorem parseMoneyWhere_ok_iff {p : Money → Bool} {complaint line : String} {amount : Money} :
    parseMoneyWhere p complaint line = .ok amount ↔
      Money.fromStr line = some (.ok amount) ∧ p amount = true := by
  unfold parseMoneyWhere
  rw [← parseMoney_ok_iff]
  cases parseMoney line with
  | error e => simp [bind, Except.bind]
  | ok read =>
    cases hp : p read with
    | true =>
      simp only [bind, Except.bind, hp, if_true, Except.ok.injEq, iff_self_and]
      rintro rfl
      exact hp
    | false =>
      simp only [bind, Except.bind, hp, Except.ok.injEq, Bool.false_eq_true, if_false,
        reduceCtorEq, false_iff, not_and]
      rintro rfl
      simp [hp]

theorem always_readMoney {p : Money → Bool} {prompt complaint : String}
    {next : Money → Dialogue Order}
    (h : ∀ amount, p amount = true → Always IsAnswer P (next amount)) :
    Always IsAnswer P (askFor prompt (parseMoneyWhere p complaint) next) :=
  .askFor fun _ amount _ hread => h amount (parseMoneyWhere_ok_iff.mp hread).2

theorem parsePositiveInterestRate_ok_iff {line : String} {rate : InterestRate} :
    parsePositiveInterestRate line = .ok rate ↔
      InterestRate.fromStr line = some (.ok rate) ∧ rate.isZero = false := by
  unfold parsePositiveInterestRate
  split
  · next read hread =>
    rw [hread]
    split
    · next hzero =>
      simp only [reduceCtorEq, Option.some.injEq, Except.ok.injEq, false_iff, not_and]
      rintro rfl
      simp [hzero]
    · next hzero =>
      simp only [Option.some.injEq, Except.ok.injEq, iff_self_and]
      rintro rfl
      simpa using hzero
  · next e hread => simp [hread]
  · next hread => exact absurd hread (InterestRate.fromStr_ne_none line)

end Readers

/-- Whatever the loop is told after the menu, it carries out what is allowed
in the state the turn began in, with parameters that were read. -/
theorem Starts.always {state : CliState} {dialogue : Dialogue Order}
    (h : Starts state dialogue) : Always IsAnswer (Order.Allowed state) dialogue := by
  have hnothing : ∀ printed, Order.Allowed state (.nothing printed) := fun _ => trivial
  have hpermit : ∀ {permission : Permission} {next : Dialogue Order},
      (authorize state.session permission = true → Always IsAnswer (Order.Allowed state) next) →
        Always IsAnswer (Order.Allowed state) (check (permit state.session permission) next) :=
    fun h => always_check hnothing fun hok => h (permit_ok_iff.mp hok)
  have hmoney : ∀ (prompt : String) (command : AccountId → Money → Command),
      (∀ id amount, authorizeAccountMoneyOperation state.app state.session id = true →
        Money.zero < amount → Order.Allowed state (.change (command id amount))) →
      Always IsAnswer (Order.Allowed state) (moneyDialogue state prompt command) :=
    fun prompt command h => always_readId fun id => always_check hnothing fun hok =>
      always_readMoney fun amount hpositive =>
        .done (h id amount (permitAccountAccess_ok_iff.mp hok) (of_decide_eq_true hpositive))
  have hmanage : ∀ (next : AccountId → Dialogue Order),
      (∀ id, authorize state.session .manageAccounts = true →
        Always IsAnswer (Order.Allowed state) (next id)) →
      Always IsAnswer (Order.Allowed state) (manageDialogue state next) :=
    fun next h => hpermit fun hok => always_readId fun id => h id hok
  have hstaff : ∀ (prompt : String) (command : AccountId → Money → Command),
      (∀ id amount, authorize state.session .moveMoney = true →
        Money.zero < amount → Order.Allowed state (.change (command id amount))) →
      Always IsAnswer (Order.Allowed state) (staffDialogue state prompt command) :=
    fun prompt command h => hpermit fun hok => always_readId fun id =>
      always_readMoney fun amount hpositive =>
        .done (h id amount hok (of_decide_eq_true hpositive))
  have haccount : ∀ (view : AccountId → View),
      (∀ id, authorizeAccountView state.app state.session id = true → (view id).Allowed state) →
      Always IsAnswer (Order.Allowed state) (accountViewDialogue state view) :=
    fun view h => always_readId fun id => always_check hnothing fun hok =>
      .done (h id (permitAccountAccess_ok_iff.mp hok))
  have hfile : ∀ (permission : Permission) (prompt : String) (command : String → Command),
      (∀ path, authorize state.session permission = true → IsAnswer path →
        Order.Allowed state (.change (command path))) →
      Always IsAnswer (Order.Allowed state) (fileDialogue state permission prompt command) :=
    fun permission prompt command h => hpermit fun hok => always_readText fun path hpath =>
      .done (h path hok hpath)
  have hload : ∀ (prompt : String) (command : String → Command),
      (∀ path, (state.session.isSome = true → authorize state.session .persistState = true) →
        IsAnswer path → Order.Allowed state (.change (command path))) →
      Always IsAnswer (Order.Allowed state) (loadDialogue state prompt command) := by
    intro prompt command h
    unfold loadDialogue
    split
    · exact hfile _ _ _ fun path hok hpath => h path (fun _ => hok) hpath
    · next hnobody =>
      exact always_readText fun path hpath =>
        .done (h path (fun hsome => absurd hsome hnobody) hpath)
  cases h with
  | bootstrapAdmin =>
    unfold bootstrapAdminDialogue
    split
    · exact .done trivial
    · next husers =>
      exact always_readId fun id => always_readText fun username husername =>
        always_readText fun password hpassword =>
          .done ⟨Bool.eq_false_iff.mpr husers, husername, hpassword⟩
  | login =>
    exact always_readText fun username husername => always_readText fun password hpassword =>
      .done ⟨trivial, husername, hpassword⟩
  | logout => exact .done ⟨trivial, trivial⟩
  | session | list => exact .done trivial
  | createCustomer =>
    exact hpermit fun hok => always_readId fun id => always_readText fun fullName hname =>
      always_readText fun email hemail => .done ⟨hok, hname, hemail⟩
  | createUser =>
    refine hpermit fun hok => always_readId fun id => always_readText fun username husername =>
      .askFor fun _ role _ _ => ?_
    dsimp only
    split
    · next hcustomer =>
      exact always_readId fun linkedCustomerId => always_readText fun password hpassword =>
        .done ⟨hok, husername, hpassword, fun hstaff => absurd hcustomer hstaff⟩
    · exact always_readText fun password hpassword =>
        .done ⟨hok, husername, hpassword, fun _ => rfl⟩
  | create =>
    exact hpermit fun hok => always_readId fun id => .askFor fun _ ownerId _ _ =>
      always_check hnothing fun howner => always_readText fun name hname =>
        always_readText fun email hemail => always_readMoney fun openingBalance hbalance =>
          .done ⟨⟨hok, findOwner_ok_iff.mp howner⟩, hname, hemail, of_decide_eq_true hbalance⟩
  | updateName | updateEmail =>
    exact hmanage _ fun id hok => always_readText fun text htext => .done ⟨hok, htext⟩
  | activate | deactivate | close | delete =>
    exact hmanage _ fun id hok => .done ⟨hok, trivial⟩
  | deposit | withdraw | payLoan =>
    exact hmoney _ _ fun id amount hok hpositive => ⟨hok, hpositive⟩
  | transfer =>
    exact always_readId fun fromId => always_check hnothing fun hok => always_readId fun toId =>
      always_readMoney fun amount hpositive =>
        .done ⟨permitAccountAccess_ok_iff.mp hok,
          (of_decide_eq_true hpositive : Money.zero < amount)⟩
  | fee | loanRequest => exact hstaff _ _ fun id amount hok hpositive => ⟨hok, hpositive⟩
  | monthlyFee =>
    exact hpermit fun hok => always_readMoney fun amount hpositive =>
      .done ⟨hok, (of_decide_eq_true hpositive : Money.zero < amount)⟩
  | interest =>
    exact hpermit fun hok => always_readId fun id => .askFor fun _ rate _ hread =>
      .done ⟨hok, (parsePositiveInterestRate_ok_iff.mp hread).2⟩
  | balance | info | history => exact haccount _ fun id hok => hok
  | audit | listCustomers | listUsers | totalBalance | richest | emptyAccounts | count =>
    exact hpermit fun hok => .done hok
  | save | saveSqlite | exportStatement => exact hfile _ _ _ fun path hok hpath => ⟨hok, hpath⟩
  | load | loadSqlite => exact hload _ _ fun path hok hpath => ⟨hok, hpath⟩
  | nothing printed => exact .done trivial

theorem mainMenu_hear (state : CliState) (line : String) :
    (mainMenu state).hear line = ([], dispatch state (Text.toLowercase line)) := rfl

theorem dispatch_exit (state : CliState) : dispatch state "exit" = done .exit := rfl

/-! ## Carrying out is running -/

section ActRun

variable {argon2 : Argon2} {json : SerdeJson} {env : CliEnv}

theorem report_state (action : AuditAction) (outcome : AuditOutcome) (target : Option String)
    (message : String) (state : CliState) :
    (report env action outcome target message state).2 =
      recordCliAudit env action outcome target message state := by
  unfold report
  dsimp only
  have hlog : ∀ {result : Except AuditError AuditEntry} {auditLog : AuditLog},
      AuditLog.record (match state.session with
        | some session => .fromSession session
        | none => .system) action outcome target message env.auditedAt state.app.auditLog
        = (result, auditLog) →
      ({ state with app := { state.app with auditLog } } : CliState) =
        recordCliAudit env action outcome target message state :=
    fun h => congrArg (fun log => { state with app := { state.app with auditLog := log } })
      (congrArg Prod.snd h).symm
  split <;> next hrecord => exact hlog hrecord

theorem reportResult_state {ε α : Type} (display : ε → String) (action : AuditAction)
    (target : Option String) (message : String) (said : α → String) (context : String)
    (result : Except ε α) (state : CliState) :
    (reportResult env display action target message said context result state).2 =
      recordResult env display action target message result state := by
  cases result with
  | ok a => exact report_state _ _ _ _ _
  | error e => exact report_state _ _ _ _ _

theorem tellBank_state {α : Type} (m : BankM α) (said : α → String) (context : String)
    (state : CliState) : (tellBank m said context state).2 = callBank m state := rfl

theorem tellBankWithAudit_state {α : Type} (m : BankM α) (action : AuditAction)
    (target : Option String) (message said context : String) (state : CliState) :
    (tellBankWithAudit env m action target message said context state).2 =
      callBankWithAudit env m action target message state :=
  reportResult_state _ _ _ _ _ _ _ _

theorem tellIdentitiesWithAudit_state {α : Type} (m : IdentityM α) (action : AuditAction)
    (target : Option String) (message said context : String) (state : CliState) :
    (tellIdentitiesWithAudit env m action target message said context state).2 =
      callIdentitiesWithAudit env m action target message state :=
  reportResult_state _ _ _ _ _ _ _ _

theorem tellLoaded_state {ε : Type} (display : ε → String)
    (path message said context : String) (result : Except ε AppState) (state : CliState) :
    (tellLoaded env display path message said context result state).2 =
      replaceState env display path message result state :=
  reportResult_state _ _ _ _ _ _ _ _

theorem bootstrapAdmin_state (id : UserId) (username password : String) {state : CliState}
    (h : state.app.identities.hasUsers = false) :
    (act argon2 json env state (.bootstrapAdmin id username password)).2 =
      bootstrapAdmin argon2 env id username password state := by
  unfold bootstrapAdmin
  rw [h, act]
  simp only [Bool.false_eq_true, if_false]
  rcases IdentityStore.createUser argon2 env.salt id username .admin none password
    state.app.identities with ⟨e | user, identities⟩
  · exact report_state _ _ _ _ _
  · dsimp only
    cases identities.authenticate argon2 username password with
    | ok session => exact report_state _ _ _ _ _
    | error e => rfl

theorem login_state (username password : String) (state : CliState) :
    (act argon2 json env state (.login username password)).2 =
      login argon2 env username password state := by
  unfold login
  rw [act]
  cases state.app.identities.authenticate argon2 username password with
  | ok session => exact report_state _ _ _ _ _
  | error e => exact report_state _ _ _ _ _

/-- A command that may be carried out is: the check of `run` lets it pass. -/
theorem act_state {state : CliState} {command : Command} (h : command.Allowed state) :
    (act argon2 json env state command).2 = run argon2 json env state command := by
  have hload : ∀ {after : CliState}, (state.session.isSome = true →
      authorize state.session .persistState = true) →
      (if state.session.isSome && !authorize state.session .persistState then state
        else after) = after := by
    intro after h
    refine if_neg fun hrefused => ?_
    obtain ⟨hsome, hnot⟩ := Bool.and_eq_true_iff.mp hrefused
    rw [h hsome] at hnot
    cases hnot
  cases command with
  | bootstrapAdmin id username password => rw [bootstrapAdmin_state id username password h, run]
  | login username password => rw [login_state, run]
  | logout => rw [run, act]
  | createCustomer | createUser =>
    rw [Command.Allowed] at h
    rw [run, if_pos h, act]
    exact tellIdentitiesWithAudit_state _ _ _ _ _ _ _
  | create id ownerId name email openingBalance =>
    rw [Command.Allowed, ← Bool.and_eq_true_iff] at h
    rw [run, if_pos h, act]
    exact tellBankWithAudit_state _ _ _ _ _ _ _
  | deposit | withdraw | transfer =>
    rw [Command.Allowed] at h
    rw [run, if_pos h, act]
    exact tellBankWithAudit_state _ _ _ _ _ _ _
  | updateName | updateEmail | activate | deactivate | close | delete | fee | interest
  | loanRequest | payLoan =>
    rw [Command.Allowed] at h
    rw [run, if_pos h, act]
    exact tellBank_state _ _ _ _
  | monthlyFee amount =>
    rw [Command.Allowed] at h
    rw [run, if_pos h, act]
  | save | saveSqlite | exportStatement =>
    rw [Command.Allowed] at h
    rw [run, if_pos h, act]
    exact reportResult_state _ _ _ _ _ _ _ _
  | load | loadSqlite =>
    rw [Command.Allowed] at h
    rw [run, hload h, act]
    exact tellLoaded_state _ _ _ _ _ _ _
  | print => exact h.elim

end ActRun

/-! ## Typed lines -/

/-- A command that may be carried out in the state, and whose parameters a
line can hold. -/
def CanType (state : CliState) (input : CliEnv × Command) : Prop :=
  input.2.Allowed state ∧ input.2.Speakable

section Run

variable {argon2 : Argon2} {json : SerdeJson}

theorem mem_trim {s : String} {c : Char} (h : c ∈ (Text.trim s).toList) : c ∈ s.toList := by
  rw [Text.trim, String.toList_ofList, Text.trimChars, List.mem_reverse] at h
  have h' := (List.dropWhile_sublist _).subset h
  exact (List.dropWhile_sublist _).subset (List.mem_reverse.mp h')

theorem Line.isAnswer (line : Line) : IsAnswer (Text.trim line.text) :=
  ⟨Text.trim_trim _, fun hfeed => line.oneLine (mem_trim hfeed)⟩

/-- The menu is open, or a question that leads to nothing but what is allowed
in the state. -/
def Terminal.Reads (terminal : Terminal) : Prop :=
  ∀ dialogue ∈ terminal.open?, dialogue = mainMenu terminal.state ∨
    Always IsAnswer (Order.Allowed terminal.state) dialogue

theorem Terminal.new_reads : Terminal.new.Reads := by
  rintro dialogue ⟨⟩
  exact .inl rfl

theorem Terminal.backToMenu_reads (printed : List String)
    (performed : Option (CliEnv × Command)) (state : CliState) :
    (Terminal.backToMenu printed performed state).2.Reads := by
  rintro dialogue ⟨⟩
  exact .inl rfl

/-- What is left after a line leads to what is allowed, unless it is `exit`
at the menu. -/
theorem Terminal.hear_always {state : CliState} {dialogue : Dialogue Order}
    (h : Terminal.Reads ⟨state, some dialogue⟩) (line : Line) :
    (dialogue = mainMenu state ∧ Text.toLowercase (Text.trim line.text) = "exit") ∨
      Always IsAnswer (Order.Allowed state) (dialogue.hear (Text.trim line.text)).2 := by
  rcases h dialogue rfl with hmenu | halways
  · by_cases hexit : Text.toLowercase (Text.trim line.text) = "exit"
    · exact .inl ⟨hmenu, hexit⟩
    · rw [hmenu, mainMenu_hear]
      dsimp only
      exact .inr (starts_dispatch state hexit).always
  · exact .inr (halways.hear line.isAnswer)

/-- A turn that ends in something allowed. -/
theorem Terminal.conclude_runs {state : CliState} {order : Order} (h : order.Allowed state)
    (env : CliEnv) :
    (conclude argon2 json env state order).2.Reads ∧
      (conclude argon2 json env state order).2.state = final (Cli.step argon2 json) state
        (conclude argon2 json env state order).1.performed.toList ∧
      ∀ performed ∈ (conclude argon2 json env state order).1.performed,
        performed.1 = env ∧ CanType state performed := by
  cases order with
  | nothing printed => exact ⟨backToMenu_reads _ _ _, rfl, fun _ hnone => by cases hnone⟩
  | view view => exact ⟨backToMenu_reads _ _ _, rfl, fun _ hnone => by cases hnone⟩
  | exit => exact h.elim
  | change command =>
    obtain ⟨hallowed, hspeakable⟩ := h
    have hrun : (act argon2 json env state command).2 =
        final (Cli.step argon2 json) state [(env, command)] := act_state hallowed
    refine ⟨backToMenu_reads _ _ _, hrun, ?_⟩
    rintro performed ⟨⟩
    exact ⟨rfl, hallowed, hspeakable⟩

/-- A reading carries out at most one command, which is allowed, and the
state afterwards is that of running it. -/
theorem Terminal.step_runs (terminal : Terminal) (input : CliEnv × Reading)
    (h : terminal.Reads) :
    (terminal.step argon2 json input).2.Reads ∧
      (terminal.step argon2 json input).2.state = final (Cli.step argon2 json) terminal.state
        (terminal.step argon2 json input).1.performed.toList ∧
      ∀ performed ∈ (terminal.step argon2 json input).1.performed,
        performed.1 = input.1 ∧ CanType terminal.state performed := by
  obtain ⟨env, reading⟩ := input
  obtain ⟨state, open?⟩ := terminal
  cases open? with
  | none => exact ⟨h, rfl, fun _ hnone => by cases hnone⟩
  | some dialogue =>
    cases reading with
    | failed =>
      refine ⟨?_, rfl, fun _ hnone => by cases hnone⟩
      rintro open? ⟨⟩
    | line line =>
      rcases hear_always h line with ⟨rfl, hexit⟩ | halways
      · simp only [step, mainMenu_hear, hexit, dispatch_exit]
        refine ⟨?_, rfl, fun _ hnone => by cases hnone⟩
        rintro open? ⟨⟩
      · unfold step
        dsimp only
        revert halways
        rcases dialogue.hear (Text.trim line.text) with ⟨complaints, rest⟩
        intro halways
        cases rest with
        | ask prompt answer =>
          refine ⟨?_, rfl, fun _ hnone => by cases hnone⟩
          rintro open? ⟨⟩
          exact .inr halways
        | done order => exact conclude_runs (always_done.mp halways) env

theorem Terminal.performed_run (readings : List (CliEnv × Reading)) :
    (final (Terminal.step argon2 json) Terminal.new readings).state =
      final (Cli.step argon2 json) CliState.new
        ((outputs (Terminal.step argon2 json) Terminal.new readings).filterMap Shown.performed) :=
  final_emits (f := Terminal.state) (fun t i h => (step_runs t i h).1)
    (fun t i h => (step_runs t i h).2.1) readings Terminal.new new_reads

theorem Terminal.performed_guarded (readings : List (CliEnv × Reading)) :
    Guarded (Cli.step argon2 json) CanType CliState.new
      ((outputs (Terminal.step argon2 json) Terminal.new readings).filterMap Shown.performed) :=
  guarded_emits (f := Terminal.state) (fun t i h => (step_runs t i h).1)
    (fun t i h => (step_runs t i h).2.1) (fun t i h k hk => ((step_runs t i h).2.2 k hk).2)
    readings Terminal.new new_reads

/-- Whatever is read, the state is that of the commands that were carried
out, run one after the other, and each of them was allowed in the state it
was run in, with parameters that can be typed. -/
theorem terminal_runs_commands (argon2 : Argon2) (json : SerdeJson)
    (readings : List (CliEnv × Reading)) :
    let performed :=
      (outputs (Terminal.step argon2 json) Terminal.new readings).filterMap Shown.performed
    (final (Terminal.step argon2 json) Terminal.new readings).state =
        final (Cli.step argon2 json) CliState.new performed ∧
      Guarded (Cli.step argon2 json) CanType CliState.new performed :=
  ⟨Terminal.performed_run readings, Terminal.performed_guarded readings⟩

end Run

end Banck.Cli
