/-
Banck.Cli — the commands of the command line (`src/cli.rs`).

A `Command` is a line the loop recognises, together with what the prompts
of that command read. The readers repeat a question until the answer has
its type, so the answers are typed; that an amount read is positive is not
used, the operations check it again. What is only printed is left out: the
commands that print and change nothing are one, `print`.

A command takes from outside the readings of the clock, the salt of a
password hash and what the files answer: `write` to a text that is written,
`read` when a text is read, the database behind a path, and `sqlText`, the
words of the database library for its errors.
-/
import Banck.SqliteStore

namespace Banck.Cli

open Lib

structure CliState where
  app : AppState
  session : Option Session
  deriving DecidableEq

def CliState.new : CliState := ⟨AppState.new, none⟩

structure CliEnv where
  postedAt : Nat
  postedNextAt : Nat
  feePostedAt : AccountId → Nat
  auditedAt : Nat
  salt : String
  write : String → Except String Unit
  read : Except String String
  store : StoreEnv
  database : Database
  sqlText : SqlError → String

inductive Command where
  | bootstrapAdmin (id : UserId) (username password : String)
  | login (username password : String)
  | logout
  | createCustomer (id : CustomerId) (fullName email : String)
  | createUser (id : UserId) (username : String) (role : Role) (linkedCustomerId : CustomerId)
      (password : String)
  | create (id : AccountId) (ownerId : Option CustomerId) (name email : String)
      (openingBalance : Money)
  | updateName (id : AccountId) (name : String)
  | updateEmail (id : AccountId) (email : String)
  | activate (id : AccountId)
  | deactivate (id : AccountId)
  | close (id : AccountId)
  | delete (id : AccountId)
  | deposit (id : AccountId) (amount : Money)
  | withdraw (id : AccountId) (amount : Money)
  | transfer (fromId toId : AccountId) (amount : Money)
  | fee (id : AccountId) (amount : Money)
  | monthlyFee (amount : Money)
  | interest (id : AccountId) (rate : InterestRate)
  | loanRequest (id : AccountId) (amount : Money)
  | payLoan (id : AccountId) (amount : Money)
  | save (path : String)
  | load (path : String)
  | saveSqlite (path : String)
  | loadSqlite (path : String)
  | exportStatement (path : String)
  | print

/-! ## Checks -/

def authorize (session : Option Session) (permission : Permission) : Bool :=
  match session with
  | some session => (IdentityStore.authorize session permission).isOk
  | none => false

def authorizeAccountAccess (app : AppState) (session : Option Session)
    (accountId : AccountId) (anyPermission ownPermission : Permission) : Bool :=
  match session with
  | none => false
  | some session =>
      if session.can anyPermission then
        true
      else if session.can ownPermission = false then
        false
      else
        match app.bank.account accountId with
        | .error _ => false
        | .ok account => account.ownerId.isSome && account.ownerId == session.customerId

def authorizeAccountView (app : AppState) (session : Option Session)
    (accountId : AccountId) : Bool :=
  authorizeAccountAccess app session accountId .viewAnyAccount .viewOwnAccount

def authorizeAccountMoneyOperation (app : AppState) (session : Option Session)
    (accountId : AccountId) : Bool :=
  authorizeAccountAccess app session accountId .moveMoney .moveOwnMoney

def customerExists (identities : IdentityStore) : Option CustomerId → Bool
  | some customerId => (identities.customer customerId).isOk
  | none => true

/-! ## Parts of a command -/

section Parts

variable (argon2 : Argon2) (json : SerdeJson) (env : CliEnv)

/-- That the record may fail is only printed. -/
def recordCliAudit (action : AuditAction) (outcome : AuditOutcome) (target : Option String)
    (message : String) (state : CliState) : CliState :=
  let actor := match state.session with
    | some session => .fromSession session
    | none => .system
  let auditLog := (AuditLog.record actor action outcome target message env.auditedAt
    state.app.auditLog).2
  { state with app := { state.app with auditLog } }

/-- The entry after a call: its message, or the text of its error. -/
def recordResult {ε α : Type} (display : ε → String) (action : AuditAction)
    (target : Option String) (message : String) (result : Except ε α) (state : CliState) :
    CliState :=
  match result with
  | .ok _ => recordCliAudit env action .success target message state
  | .error error => recordCliAudit env action .failure target (display error) state

/-- A call of the bank whose result is only printed. -/
def callBank {α : Type} (m : BankM α) (state : CliState) : CliState :=
  { state with app := { state.app with bank := (m state.app.bank).2 } }

/-- A call of the bank with an audit entry. -/
def callBankWithAudit {α : Type} (m : BankM α) (action : AuditAction)
    (target : Option String) (message : String) (state : CliState) : CliState :=
  recordResult env BankError.display action target message (m state.app.bank).1
    (callBank m state)

def callIdentitiesWithAudit {α : Type} (m : IdentityM α) (action : AuditAction)
    (target : Option String) (message : String) (state : CliState) : CliState :=
  recordResult env IdentityError.display action target message (m state.app.identities).1
    { state with app := { state.app with identities := (m state.app.identities).2 } }

/-- A loaded state takes the place of the state, and nobody is logged in. -/
def replaceState {ε : Type} (display : ε → String) (path message : String)
    (result : Except ε AppState) (state : CliState) : CliState :=
  recordResult env display .loadState (some path) message result <|
    match result with
    | .ok app => { app, session := none }
    | .error _ => state

def userTarget (id : UserId) : Option String := some ("user:" ++ toString id)

def customerTarget (id : CustomerId) : Option String := some ("customer:" ++ toString id)

def accountTarget (id : AccountId) : Option String := some ("account:" ++ toString id)

/-! ## Commands -/

def bootstrapAdmin (id : UserId) (username password : String) (state : CliState) :
    CliState :=
  if state.app.identities.hasUsers then
    state
  else
    match IdentityStore.createUser argon2 env.salt id username .admin none password
        state.app.identities with
    | (.ok _, identities) =>
        let state := { state with app := { state.app with identities } }
        match identities.authenticate argon2 username password with
        | .ok session =>
            recordCliAudit env .bootstrapAdmin .success (userTarget id) "admin bootstrapped"
              { state with session := some session }
        | .error _ => state
    | (.error error, identities) =>
        recordCliAudit env .bootstrapAdmin .failure (userTarget id) error.display
          { state with app := { state.app with identities } }

def login (username password : String) (state : CliState) : CliState :=
  match state.app.identities.authenticate argon2 username password with
  | .ok session =>
      recordCliAudit env .login .success none "login succeeded"
        { state with session := some session }
  | .error error =>
      recordCliAudit env .login .failure (some ("username:" ++ username)) error.display state

/-- One command: what the program does with an answered line. -/
def run (state : CliState) : Command → CliState
  | .bootstrapAdmin id username password => bootstrapAdmin argon2 env id username password state
  | .login username password => login argon2 env username password state
  | .logout => { state with session := none }
  | .createCustomer id fullName email =>
      if authorize state.session .manageIdentity then
        callIdentitiesWithAudit env (IdentityStore.createCustomer id fullName email)
          .createCustomer (customerTarget id) "customer created" state
      else
        state
  | .createUser id username role linkedCustomerId password =>
      if authorize state.session .manageIdentity then
        let customerId := if role = .customer then some linkedCustomerId else none
        callIdentitiesWithAudit env
          (IdentityStore.createUser argon2 env.salt id username role customerId password)
          .createUser (userTarget id) "user created" state
      else
        state
  | .create id ownerId name email openingBalance =>
      if authorize state.session .manageAccounts
          && customerExists state.app.identities ownerId then
        callBankWithAudit env
          (Bank.createAccount id ownerId name email openingBalance env.postedAt)
          .createAccount (accountTarget id) "account created" state
      else
        state
  | .updateName id name =>
      if authorize state.session .manageAccounts then
        callBank (Bank.updateName id name env.postedAt) state
      else
        state
  | .updateEmail id email =>
      if authorize state.session .manageAccounts then
        callBank (Bank.updateEmail id email env.postedAt) state
      else
        state
  | .activate id =>
      if authorize state.session .manageAccounts then
        callBank (Bank.activateAccount id env.postedAt) state
      else
        state
  | .deactivate id =>
      if authorize state.session .manageAccounts then
        callBank (Bank.deactivateAccount id env.postedAt) state
      else
        state
  | .close id =>
      if authorize state.session .manageAccounts then
        callBank (Bank.closeAccount id env.postedAt) state
      else
        state
  | .delete id =>
      if authorize state.session .manageAccounts then
        callBank (Bank.deleteAccount id) state
      else
        state
  | .deposit id amount =>
      if authorizeAccountMoneyOperation state.app state.session id then
        callBankWithAudit env (Bank.deposit id amount env.postedAt) .deposit
          (accountTarget id) "Deposit completed" state
      else
        state
  | .withdraw id amount =>
      if authorizeAccountMoneyOperation state.app state.session id then
        callBankWithAudit env (Bank.withdraw id amount env.postedAt) .withdraw
          (accountTarget id) "Withdraw completed" state
      else
        state
  | .transfer fromId toId amount =>
      if authorizeAccountMoneyOperation state.app state.session fromId then
        callBankWithAudit env
          (Bank.transfer fromId toId amount env.postedAt env.postedNextAt) .transfer
          (some ("account:" ++ toString fromId ++ "->account:" ++ toString toId))
          "Transfer completed" state
      else
        state
  | .fee id amount =>
      if authorize state.session .moveMoney then
        callBank (Bank.applyFee id amount env.postedAt) state
      else
        state
  | .monthlyFee amount =>
      if authorize state.session .moveMoney then
        { state with
          app := { state.app with
            bank := (state.app.bank.applyMonthlyFee amount env.feePostedAt).2 } }
      else
        state
  | .interest id rate =>
      if authorize state.session .moveMoney then
        callBank (Bank.applyInterest id rate env.postedAt) state
      else
        state
  | .loanRequest id amount =>
      if authorize state.session .moveMoney then
        callBank (Bank.requestLoan id amount env.postedAt) state
      else
        state
  | .payLoan id amount =>
      if authorizeAccountMoneyOperation state.app state.session id then
        callBank (Bank.payLoan id amount env.postedAt) state
      else
        state
  | .save path =>
      if authorize state.session .persistState then
        recordResult env StorageError.display .saveState (some path) "state saved"
          (saveAppToJsonFile json env.write state.app path) state
      else
        state
  | .load path =>
      if state.session.isSome && !authorize state.session .persistState then
        state
      else
        replaceState env StorageError.display path "state loaded"
          (loadAppFromJsonFile argon2 json env.read path) state
  | .saveSqlite path =>
      if authorize state.session .persistState then
        recordResult env (SqliteStoreError.display env.sqlText) .saveState (some path)
          "state saved to sqlite"
          (saveAppToSqliteFile argon2 json { env.store with path } state.app
            env.database).1 state
      else
        state
  | .loadSqlite path =>
      if state.session.isSome && !authorize state.session .persistState then
        state
      else
        replaceState env (SqliteStoreError.display env.sqlText) path "state loaded from sqlite"
          (loadAppFromSqliteFile argon2 json { env.store with path } env.database).1 state
  | .exportStatement path =>
      if authorize state.session .exportStatements then
        recordResult env StorageError.display .exportStatement (some path)
          "statement exported" (exportBankStatementFile env.write state.app.bank path) state
      else
        state
  | .print => state

end Parts

end Banck.Cli
