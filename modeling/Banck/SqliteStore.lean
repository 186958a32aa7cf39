/-
Banck.SqliteStore — the state of the program in a SQLite database
(`src/sqlite_store.rs`).

A `Database` is what a file holds: the tables that were created, and their
rows. The tables of the second migration are made in one transaction, so
they are there together or not at all. A statement outside a transaction
stays carried out when a later one fails; `Mut.atomically` is a
transaction, rolled back when it is dropped. Foreign keys are enforced, as
`open_connection` asks. The readings of the clock are arguments.
-/
import Banck.Lib.Sql
import Banck.Storage

namespace Banck

open Lib Mut

def currentSqliteSchemaVersion : Int := 3

/-! ## Errors -/

inductive SqliteStoreError where
  | sqlite (path : String) (source : SqlError)
  | storage (source : StorageError)
  | missingState
  | unsupportedSchemaVersion (version : Int)
  | invalidInteger (field : String) (value : Int)
  | integerOverflow (field : String) (value : Nat)
  | invalidEnumValue (field value : String)
  | missingUserActorFields (auditId : Nat)
  deriving DecidableEq

/-- `sqlText` is how the database library words its own errors. -/
def SqliteStoreError.display (sqlText : SqlError → String) : SqliteStoreError → String
  | sqlite path source => path ++ ": " ++ sqlText source
  | storage source => source.display
  | missingState => "sqlite database does not contain app state"
  | unsupportedSchemaVersion version => "unsupported sqlite schema version " ++ toString version
  | invalidInteger field value => field ++ " contains invalid integer " ++ toString value
  | integerOverflow field value =>
      field ++ " value " ++ toString value ++ " cannot fit in sqlite INTEGER"
  | invalidEnumValue field value => field ++ " contains invalid enum value " ++ value
  | missingUserActorFields auditId =>
      "audit entry " ++ toString auditId ++ " has incomplete user actor fields"

abbrev SqliteStoreResult (α : Type) : Type := Except SqliteStoreError α

/-! ## Integers -/

/-- `i64::from`. -/
def i64FromU32 (value : UInt32) : I64 :=
  ⟨value.toNat, by have := value.toNat_lt; unfold i64Min i64Max; omega⟩

def u64ToI64 (field : String) (value : Nat) : SqliteStoreResult I64 :=
  if h : (value : Int) ≤ i64Max then .ok ⟨value, inI64_natCast h⟩
  else .error (.integerOverflow field value)

def i64ToU64 (field : String) (value : I64) : SqliteStoreResult Nat :=
  if 0 ≤ value.val then .ok value.val.toNat else .error (.invalidInteger field value.val)

def i64ToU32 (field : String) (value : I64) : SqliteStoreResult UInt32 :=
  if 0 ≤ value.val ∧ value.val < 2 ^ 32 then .ok (UInt32.ofNat value.val.toNat)
  else .error (.invalidInteger field value.val)

def optionalI64ToU32 (field : String) : Option I64 → SqliteStoreResult (Option UInt32)
  | some value => (i64ToU32 field value).map some
  | none => .ok none

def currentEpochI64 (now : Nat) : SqliteStoreResult I64 := u64ToI64 "current_epoch_seconds" now

/-! ## Enumerations -/

def roleFromDb (field value : String) : SqliteStoreResult Role :=
  match value with
  | "customer" => .ok .customer
  | "teller" => .ok .teller
  | "admin" => .ok .admin
  | value => .error (.invalidEnumValue field value)

def accountStatusFromDb (field value : String) : SqliteStoreResult AccountStatus :=
  match value with
  | "active" => .ok .active
  | "inactive" => .ok .inactive
  | "closed" => .ok .closed
  | value => .error (.invalidEnumValue field value)

def transactionKindFromDb (field value : String) : SqliteStoreResult TransactionKind :=
  match value with
  | "account_created" => .ok .accountCreated
  | "deposit" => .ok .deposit
  | "withdrawal" => .ok .withdrawal
  | "transfer_in" => .ok .transferIn
  | "transfer_out" => .ok .transferOut
  | "fee" => .ok .fee
  | "interest" => .ok .interest
  | "loan_requested" => .ok .loanRequested
  | "loan_payment" => .ok .loanPayment
  | "profile_updated" => .ok .profileUpdated
  | "activated" => .ok .activated
  | "deactivated" => .ok .deactivated
  | "closed" => .ok .closed
  | value => .error (.invalidEnumValue field value)

def auditActionFromDb (field value : String) : SqliteStoreResult AuditAction :=
  match value with
  | "bootstrap_admin" => .ok .bootstrapAdmin
  | "login" => .ok .login
  | "logout" => .ok .logout
  | "create_customer" => .ok .createCustomer
  | "create_user" => .ok .createUser
  | "create_account" => .ok .createAccount
  | "update_account_profile" => .ok .updateAccountProfile
  | "activate_account" => .ok .activateAccount
  | "deactivate_account" => .ok .deactivateAccount
  | "close_account" => .ok .closeAccount
  | "delete_account" => .ok .deleteAccount
  | "deposit" => .ok .deposit
  | "withdraw" => .ok .withdraw
  | "transfer" => .ok .transfer
  | "fee" => .ok .fee
  | "interest" => .ok .interest
  | "loan_request" => .ok .loanRequest
  | "loan_payment" => .ok .loanPayment
  | "save_state" => .ok .saveState
  | "load_state" => .ok .loadState
  | "export_statement" => .ok .exportStatement
  | value => .error (.invalidEnumValue field value)

def auditOutcomeFromDb (field value : String) : SqliteStoreResult AuditOutcome :=
  match value with
  | "success" => .ok .success
  | "failure" => .ok .failure
  | value => .error (.invalidEnumValue field value)

/-- The four columns of an actor: kind, user id, username and role. -/
def actorToDb : AuditActor → String × Option I64 × Option String × Option String
  | .system => ("system", none, none, none)
  | .user userId username role =>
      ("user", some (i64FromU32 userId), some username, some role.display)

def actorFromDb (auditId : Nat) (actorKind : String) (userId : Option I64)
    (username role : Option String) : SqliteStoreResult AuditActor :=
  match actorKind with
  | "system" => .ok .system
  | "user" => do
      let some userId := userId | .error (.missingUserActorFields auditId)
      let some username := username | .error (.missingUserActorFields auditId)
      let some role := role | .error (.missingUserActorFields auditId)
      let userId ← i64ToU32 "audit_entries.actor_user_id" userId
      let role ← roleFromDb "audit_entries.actor_role" role
      .ok (.user userId username role)
  | value => .error (.invalidEnumValue "audit_entries.actor_kind" value)

/-! ## Rows -/

structure MigrationRecord where
  version : I64
  name : String
  appliedAtEpochSeconds : I64
  deriving DecidableEq

/-- The one row of `app_state`, its `id` left out. -/
structure SnapshotRecord where
  json : String
  updatedAtEpochSeconds : I64
  deriving DecidableEq

structure CustomerRecord where
  id : I64
  fullName : String
  email : String
  deriving DecidableEq

structure UserRecord where
  id : I64
  username : String
  role : String
  customerId : Option I64
  passwordHash : String
  deriving DecidableEq

structure AccountRecord where
  id : I64
  ownerId : Option I64
  name : String
  email : String
  balanceCents : I64
  loanBalanceCents : I64
  status : String
  deriving DecidableEq

structure TransactionRecord where
  id : I64
  accountId : I64
  occurredAtEpochSeconds : I64
  kind : String
  amountCents : I64
  description : String
  deriving DecidableEq

structure AuditRecord where
  id : I64
  occurredAtEpochSeconds : I64
  actorKind : String
  actorUserId : Option I64
  actorUsername : Option String
  actorRole : Option String
  action : String
  outcome : String
  target : Option String
  message : String
  deriving DecidableEq

/-! ### What is written -/

def Money.toCents (amount : Money) : I64 := ⟨amount.cents, amount.inRange⟩

def customerRecord (customer : Customer) : CustomerRecord :=
  ⟨i64FromU32 customer.id, customer.fullName, customer.email⟩

def userRecord (user : User) : UserRecord :=
  { id := i64FromU32 user.id, username := user.username, role := user.role.display,
    customerId := user.customerId.map i64FromU32, passwordHash := user.passwordHash }

def accountRecord (account : Account) : AccountRecord :=
  { id := i64FromU32 account.id, ownerId := account.ownerId.map i64FromU32,
    name := account.name, email := account.email, balanceCents := account.balance.toCents,
    loanBalanceCents := account.loanBalance.toCents, status := account.status.display }

def transactionRecord (accountId : AccountId) (transaction : Transaction) :
    SqliteStoreResult TransactionRecord := do
  let id ← u64ToI64 "transactions.id" transaction.id
  let occurredAtEpochSeconds ← u64ToI64 "transactions.occurred_at_epoch_seconds"
    transaction.occurredAtEpochSeconds
  .ok { id, accountId := i64FromU32 accountId, occurredAtEpochSeconds,
        kind := transaction.kind.display, amountCents := transaction.amount.toCents,
        description := transaction.description }

def auditRecord (entry : AuditEntry) : SqliteStoreResult AuditRecord := do
  let (actorKind, actorUserId, actorUsername, actorRole) := actorToDb entry.actor
  let id ← u64ToI64 "audit_entries.id" entry.id
  let occurredAtEpochSeconds ← u64ToI64 "audit_entries.occurred_at_epoch_seconds"
    entry.occurredAtEpochSeconds
  .ok { id, occurredAtEpochSeconds, actorKind, actorUserId, actorUsername, actorRole,
        action := entry.action.display, outcome := entry.outcome.display,
        target := entry.target, message := entry.message }

/-! ### What is read -/

def customerFromRecord (record : CustomerRecord) : SqliteStoreResult Customer := do
  let id ← i64ToU32 "customers.id" record.id
  .ok { id, fullName := record.fullName, email := record.email }

def userFromRecord (record : UserRecord) : SqliteStoreResult User := do
  let id ← i64ToU32 "users.id" record.id
  let role ← roleFromDb "users.role" record.role
  let customerId ← optionalI64ToU32 "users.customer_id" record.customerId
  .ok { id, username := record.username, role, customerId,
        passwordHash := record.passwordHash }

def transactionFromRecord (record : TransactionRecord) : SqliteStoreResult Transaction := do
  let id ← i64ToU64 "transactions.id" record.id
  let occurredAtEpochSeconds ← i64ToU64 "transactions.occurred_at_epoch_seconds"
    record.occurredAtEpochSeconds
  let kind ← transactionKindFromDb "transactions.kind" record.kind
  .ok { id, occurredAtEpochSeconds, kind, amount := .fromCents record.amountCents,
        description := record.description }

def auditEntryFromRecord (record : AuditRecord) : SqliteStoreResult AuditEntry := do
  let id ← i64ToU64 "audit_entries.id" record.id
  let actor ← actorFromDb id record.actorKind record.actorUserId record.actorUsername
    record.actorRole
  let occurredAtEpochSeconds ← i64ToU64 "audit_entries.occurred_at_epoch_seconds"
    record.occurredAtEpochSeconds
  let action ← auditActionFromDb "audit_entries.action" record.action
  let outcome ← auditOutcomeFromDb "audit_entries.outcome" record.outcome
  .ok { id, occurredAtEpochSeconds, actor, action, outcome, target := record.target,
        message := record.message }

/-! ## The tables of the state -/

structure StateTables where
  customers : Table CustomerRecord
  users : Table UserRecord
  accounts : Table AccountRecord
  transactions : Table TransactionRecord
  auditEntries : Table AuditRecord
  deriving DecidableEq

def StateTables.empty : StateTables := ⟨∅, ∅, ∅, ∅, ∅⟩

namespace StateTables

abbrev Statement : Type := Mut StateTables SqlError Unit

def deleteTransactions : Statement :=
  modify fun tables => { tables with transactions := ∅ }

/-- The rows of `transactions` go with their account. -/
def deleteAccounts : Statement :=
  modify fun tables =>
    { tables with
      accounts := ∅
      transactions := tables.transactions.retain fun _ record =>
        !tables.accounts.contains record.accountId.val }

def deleteUsers : Statement := modify fun tables => { tables with users := ∅ }

/-- A customer that a user or an account refers to cannot be deleted. -/
def deleteCustomers : Statement := do
  let tables ← get
  ensure (∀ user ∈ tables.users.vals, ∀ customerId ∈ user.customerId,
    tables.customers.contains customerId.val = false) .foreignKeyFailed
  ensure (∀ account ∈ tables.accounts.vals, ∀ customerId ∈ account.ownerId,
    tables.customers.contains customerId.val = false) .foreignKeyFailed
  modify fun tables => { tables with customers := ∅ }

def deleteAuditEntries : Statement :=
  modify fun tables => { tables with auditEntries := ∅ }

def insertCustomer (record : CustomerRecord) : Statement := do
  let tables ← get
  Table.ensureFresh "customers.id" tables.customers record.id.val
  modify fun tables =>
    { tables with customers := tables.customers.insert record.id.val record }

def insertUser (record : UserRecord) : Statement := do
  let tables ← get
  Table.ensureFresh "users.id" tables.users record.id.val
  ensure (∀ user ∈ tables.users.vals, user.username ≠ record.username)
    (.uniqueFailed "users.username")
  Table.ensureReferences tables.customers (record.customerId.map Subtype.val)
  modify fun tables => { tables with users := tables.users.insert record.id.val record }

def insertAccount (record : AccountRecord) : Statement := do
  let tables ← get
  Table.ensureFresh "accounts.id" tables.accounts record.id.val
  Table.ensureReferences tables.customers (record.ownerId.map Subtype.val)
  modify fun tables => { tables with accounts := tables.accounts.insert record.id.val record }

def insertTransaction (record : TransactionRecord) : Statement := do
  let tables ← get
  Table.ensureFresh "transactions.id" tables.transactions record.id.val
  Table.ensureReferences tables.accounts (some record.accountId.val)
  modify fun tables =>
    { tables with transactions := tables.transactions.insert record.id.val record }

def insertAuditEntry (record : AuditRecord) : Statement := do
  let tables ← get
  Table.ensureFresh "audit_entries.id" tables.auditEntries record.id.val
  modify fun tables =>
    { tables with auditEntries := tables.auditEntries.insert record.id.val record }

/-! ### Reading -/

def readCustomers (tables : StateTables) : SqliteStoreResult (List Customer) :=
  tables.customers.vals.mapM customerFromRecord

def readUsers (tables : StateTables) : SqliteStoreResult (List User) :=
  tables.users.vals.mapM userFromRecord

def readAccountTransactions (tables : StateTables) (accountId : AccountId) :
    SqliteStoreResult (List Transaction) :=
  (tables.transactions.vals.filter fun record =>
    record.accountId = i64FromU32 accountId).mapM transactionFromRecord

def accountFromRecord (tables : StateTables) (record : AccountRecord) :
    SqliteStoreResult Account := do
  let id ← i64ToU32 "accounts.id" record.id
  let transactions ← tables.readAccountTransactions id
  let ownerId ← optionalI64ToU32 "accounts.owner_id" record.ownerId
  let status ← accountStatusFromDb "accounts.status" record.status
  .ok { id, ownerId, name := record.name, email := record.email,
        balance := .fromCents record.balanceCents,
        loanBalance := .fromCents record.loanBalanceCents, status, transactions }

def readBank (tables : StateTables) : SqliteStoreResult Bank := do
  let accounts ← tables.accounts.vals.mapM tables.accountFromRecord
  (Bank.fromAccounts accounts).mapError fun error => .storage (.invalidBankState error)

def readAuditLog (tables : StateTables) : SqliteStoreResult AuditLog := do
  let entries ← tables.auditEntries.vals.mapM auditEntryFromRecord
  (AuditLog.fromEntries entries).mapError fun error => .storage (.invalidAuditState error)

def hasNormalizedRows (tables : StateTables) : Bool :=
  0 < tables.customers.vals.length + tables.users.vals.length + tables.accounts.vals.length
    + tables.transactions.vals.length + tables.auditEntries.vals.length

def readNormalizedState (argon2 : Argon2) (tables : StateTables) :
    SqliteStoreResult (Option AppState) := do
  if tables.hasNormalizedRows = false then
    .ok none
  else
    let customers ← tables.readCustomers
    let users ← tables.readUsers
    let identities ← (IdentityStore.fromRecords argon2 customers users).mapError fun error =>
      SqliteStoreError.storage (.invalidIdentityState error)
    let bank ← tables.readBank
    let auditLog ← tables.readAuditLog
    (validateAccountOwners bank identities).mapError .storage
    .ok (some ⟨bank, identities, auditLog⟩)

end StateTables

/-! ## The database -/

structure Database where
  schemaMigrations : Option (Table MigrationRecord)
  appState : Option (Table SnapshotRecord)
  appMetadata : Option (OrdMap String String)
  stateTables : Option StateTables
  indexes : List String
  deriving DecidableEq

/-- A file that was not there before. -/
def Database.empty : Database := ⟨none, none, none, none, []⟩

abbrev StoreM (α : Type) : Type := Mut Database SqliteStoreError α

/-- What a call takes from outside: where the file is, and each reading of
the clock under the name of what it is made for. -/
structure StoreEnv where
  path : String
  firstMigratedAt : Nat
  secondMigratedAt : Nat
  thirdMigratedAt : Nat
  updatedAt : Nat

section Calls

variable (argon2 : Argon2) (json : SerdeJson) (env : StoreEnv)

/-- A statement's error, with the path of the file. -/
def sqlite {σ α : Type} (m : Mut σ SqlError α) : Mut σ SqliteStoreError α :=
  mapError (.sqlite env.path) m

def onSchemaMigrations {α : Type} (m : Mut (Table MigrationRecord) SqlError α) :
    Mut Database SqlError α :=
  Table.onTable Database.schemaMigrations
    (fun table db => { db with schemaMigrations := some table })
    (.noSuchTable "schema_migrations") m

def onAppState {α : Type} (m : Mut (Table SnapshotRecord) SqlError α) :
    Mut Database SqlError α :=
  Table.onTable Database.appState (fun table db => { db with appState := some table })
    (.noSuchTable "app_state") m

/-- Work on the tables of the state; `first` is the one that is missed if
there are none. -/
def onStateTables {α : Type} (first : String) (m : Mut StateTables SqliteStoreError α) :
    StoreM α :=
  Table.onTable Database.stateTables (fun tables db => { db with stateTables := some tables })
    (.sqlite env.path (.noSuchTable first)) m

/-! ### Writing -/

def writeTransaction (accountId : AccountId) (transaction : Transaction) :
    Mut StateTables SqliteStoreError Unit := do
  let record ← lift (transactionRecord accountId transaction)
  sqlite env (StateTables.insertTransaction record)

def writeAccount (account : Account) : Mut StateTables SqliteStoreError Unit := do
  sqlite env (StateTables.insertAccount (accountRecord account))
  forEach (writeTransaction env account.id) account.transactions

def writeAuditEntry (entry : AuditEntry) : Mut StateTables SqliteStoreError Unit := do
  let record ← lift (auditRecord entry)
  sqlite env (StateTables.insertAuditEntry record)

def writeNormalizedState (state : AppState) : Mut StateTables SqliteStoreError Unit := do
  sqlite env StateTables.deleteTransactions
  sqlite env StateTables.deleteAccounts
  sqlite env StateTables.deleteUsers
  sqlite env StateTables.deleteCustomers
  sqlite env StateTables.deleteAuditEntries
  forEach (fun customer => sqlite env (StateTables.insertCustomer (customerRecord customer)))
    state.identities.customerList
  forEach (fun user => sqlite env (StateTables.insertUser (userRecord user)))
    state.identities.userList
  forEach (writeAccount env) state.bank.accountList
  forEach (writeAuditEntry env) state.auditLog.entries

def writeSnapshotState (state : AppState) : StoreM Unit := do
  let text ← lift ((appToJson json state).mapError .storage)
  let now ← lift (currentEpochI64 env.updatedAt)
  sqlite env (onAppState (modify fun table => table.insert 1 ⟨text, now⟩))

/-! ### Reading -/

def readSnapshotState : StoreM (Option AppState) := do
  let table ← sqlite env (onAppState get)
  match table[(1 : Int)]? with
  | some record => do
      let state ← lift ((appFromJson argon2 json record.json).mapError .storage)
      pure (some state)
  | none => pure none

def readNormalizedState : StoreM (Option AppState) := do
  let tables ← onStateTables env "customers" get
  lift (tables.readNormalizedState argon2)

/-! ### Migrations -/

def ensureMigrationTable : StoreM Unit :=
  modify fun db => { db with schemaMigrations := some (db.schemaMigrations.getD ∅) }

/-- `COALESCE(MAX(version), 0)`. -/
def currentSchemaVersion : StoreM Int := do
  let table ← sqlite env (onSchemaMigrations get)
  pure ((table.vals.map fun record => record.version.val).max?.getD 0)

def insertMigration (version : I64) (name : String) (now : Nat) : StoreM Unit := do
  let now ← lift (currentEpochI64 now)
  sqlite env <| onSchemaMigrations do
    let table ← get
    Table.ensureFresh "schema_migrations.version" table version.val
    modify fun table => table.insert version.val ⟨version, name, now⟩

def applyMigration1 : StoreM Unit := do
  sqlite env (Table.create "app_state" Database.appState
    (fun table db => { db with appState := some table }) ∅)
  sqlite env (Table.create "app_metadata" Database.appMetadata
    (fun table db => { db with appMetadata := some table }) ∅)
  insertMigration env ⟨1, inI64_one⟩ "create_app_state_snapshot" env.firstMigratedAt

def applyMigration2 : StoreM Unit := do
  let snapshotState ← readSnapshotState argon2 json env
  atomically do
    sqlite env (Table.create "customers" Database.stateTables
      (fun tables db => { db with stateTables := some tables }) StateTables.empty)
    insertMigration env ⟨2, inI64_two⟩ "create_normalized_state_tables" env.secondMigratedAt
    match snapshotState with
    | some state => onStateTables env "transactions" (writeNormalizedState env state)
    | none => pure ()

/-- The indexes of the third migration, each with its table. -/
def queryIndexes : List (String × String) :=
  [("idx_accounts_owner_id", "accounts"),
   ("idx_transactions_account_time", "transactions"),
   ("idx_transactions_kind", "transactions"),
   ("idx_audit_entries_action_time", "audit_entries"),
   ("idx_audit_entries_outcome_time", "audit_entries"),
   ("idx_audit_entries_target", "audit_entries")]

/-- `CREATE INDEX IF NOT EXISTS`. -/
def createIndex (index : String × String) : StoreM Unit := do
  onStateTables env index.2 (pure ())
  modify fun db =>
    if index.1 ∈ db.indexes then db else { db with indexes := db.indexes ++ [index.1] }

def applyMigration3 : StoreM Unit := do
  forEach (createIndex env) queryIndexes
  insertMigration env ⟨3, inI64_three⟩ "add_query_indexes" env.thirdMigratedAt

def migrate : StoreM Unit := do
  ensureMigrationTable
  let version ← currentSchemaVersion env
  ensure (version ≤ currentSqliteSchemaVersion) (.unsupportedSchemaVersion version)
  runIf (version < 1) (applyMigration1 env)
  runIf (version < 2) (applyMigration2 argon2 json env)
  runIf (version < 3) (applyMigration3 env)

/-! ### Saving and loading -/

def saveAppToSqliteFile (state : AppState) : StoreM Unit := do
  migrate argon2 json env
  atomically do
    onStateTables env "transactions" (writeNormalizedState env state)
    writeSnapshotState json env state

def loadAppFromSqliteFile : StoreM AppState := do
  migrate argon2 json env
  match ← readNormalizedState argon2 env with
  | some state => pure state
  | none => do
      let snapshot ← readSnapshotState argon2 json env
      okOr snapshot .missingState

end Calls

end Banck
