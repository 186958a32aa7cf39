/-
Banck.Storage — the state of the program as a JSON text
(`src/storage.rs`).

The text is written and read by a library that is not part of the
repository: a `SerdeJson` is the two of its functions the program calls on
the snapshot of a state. What the program relies on is `RoundTrips`, and a
theorem that needs it says of which snapshots.
-/
import Banck.App

namespace Banck

open Lib

def currentAppStorageVersion : Nat := 3

def minSupportedAppStorageVersion : Nat := 2

/-- What is written of a state. -/
structure AppSnapshot where
  version : Nat
  accounts : List Account
  customers : List Customer
  users : List User
  auditEntries : List AuditEntry
  deriving DecidableEq

def AppSnapshot.fromState (state : AppState) : AppSnapshot :=
  { version := currentAppStorageVersion
    accounts := state.bank.accountList
    customers := state.identities.customerList
    users := state.identities.userList
    auditEntries := state.auditLog.entries }

/-! ## Errors -/

inductive StorageError where
  /-- With the text of the system's error. -/
  | ioError (path source : String)
  /-- With the text of the library's error. -/
  | json (source : String)
  | unsupportedVersion (version : Nat)
  | invalidBankState (source : BankError)
  | invalidIdentityState (source : IdentityError)
  | invalidAuditState (source : AuditError)
  | invalidAccountOwner (accountId : AccountId) (customerId : CustomerId)
  deriving DecidableEq

def StorageError.display : StorageError → String
  | ioError path source => path ++ ": " ++ source
  | json source => "invalid JSON: " ++ source
  | unsupportedVersion version => "unsupported bank storage version " ++ toString version
  | invalidBankState source => "invalid bank state: " ++ source.display
  | invalidIdentityState source => "invalid identity state: " ++ source.display
  | invalidAuditState source => "invalid audit state: " ++ source.display
  | invalidAccountOwner accountId customerId =>
      "account " ++ toString accountId ++ " references missing customer "
        ++ toString customerId

/-! ## The JSON library -/

/-- `to_string_pretty` and `from_str` on snapshots, with the texts of their
errors. -/
structure SerdeJson where
  toStringPretty : AppSnapshot → Except String String
  fromStr : String → Except String AppSnapshot

/-- The library reads what it wrote of the snapshot as the snapshot. -/
def SerdeJson.RoundTrips (json : SerdeJson) (snapshot : AppSnapshot) : Prop :=
  ∃ text, json.toStringPretty snapshot = .ok text ∧ json.fromStr text = .ok snapshot

/-! ## Writing and reading -/

def appToJson (json : SerdeJson) (state : AppState) : Except StorageError String :=
  (json.toStringPretty (.fromState state)).mapError .json

def validateOwner (identities : IdentityStore) (account : Account) :
    Except StorageError Unit :=
  match account.ownerId with
  | some customerId => do
      let _ ← (identities.customer customerId).mapError fun _ =>
        StorageError.invalidAccountOwner account.id customerId
      .ok ()
  | none => .ok ()

def validateAccountOwners (bank : Bank) (identities : IdentityStore) :
    Except StorageError Unit :=
  bank.accountList.forM (validateOwner identities)

def appFromSnapshot (argon2 : Argon2) (snapshot : AppSnapshot) :
    Except StorageError AppState := do
  if snapshot.version < minSupportedAppStorageVersion
      ∨ currentAppStorageVersion < snapshot.version then
    .error (.unsupportedVersion snapshot.version)
  else
    let identities ← (IdentityStore.fromRecords argon2 snapshot.customers
      snapshot.users).mapError .invalidIdentityState
    let bank ← (Bank.fromAccounts snapshot.accounts).mapError .invalidBankState
    let auditLog ← (AuditLog.fromEntries snapshot.auditEntries).mapError .invalidAuditState
    validateAccountOwners bank identities
    .ok ⟨bank, identities, auditLog⟩

def appFromJson (argon2 : Argon2) (json : SerdeJson) (input : String) :
    Except StorageError AppState := do
  let snapshot ← (json.fromStr input).mapError .json
  appFromSnapshot argon2 snapshot

/-! ## Statements -/

def accountSummary (account : Account) : String :=
  "ID: " ++ toString account.id ++ ", Name: " ++ account.name ++ ", Email: " ++ account.email
    ++ ", Balance: " ++ account.balance.display ++ ", Loan: " ++ account.loanBalance.display
    ++ ", Status: " ++ account.status.display

def transactionLine (transaction : Transaction) : String :=
  "  - #" ++ toString transaction.id ++ " | " ++ toString transaction.occurredAtEpochSeconds
    ++ " | " ++ transaction.kind.display ++ " | " ++ transaction.amount.display ++ " | "
    ++ transaction.description ++ "\n"

def bankStatementText (bank : Bank) : String :=
  String.join <| bank.accountList.map fun account =>
    accountSummary account ++ "\n" ++ String.join (account.transactions.map transactionLine)

/-! ## Files -/

/-- `save_app_to_json_file`: `write` is how the system answers when the text
is written to the path. -/
def saveAppToJsonFile (json : SerdeJson) (write : String → Except String Unit)
    (state : AppState) (path : String) : Except StorageError Unit := do
  let text ← appToJson json state
  (write text).mapError fun source => .ioError path source

/-- `load_app_from_json_file`: `read` is the system's answer. -/
def loadAppFromJsonFile (argon2 : Argon2) (json : SerdeJson) (read : Except String String)
    (path : String) : Except StorageError AppState := do
  let text ← read.mapError fun source => .ioError path source
  appFromJson argon2 json text

/-- `export_bank_statement_file`. -/
def exportBankStatementFile (write : String → Except String Unit) (bank : Bank)
    (path : String) : Except StorageError Unit :=
  (write (bankStatementText bank)).mapError fun source => .ioError path source

end Banck
