/-
Banck.Audit — the audit log: a list of entries and the counter that
numbers them (`src/audit.rs`).
-/
import Banck.Identity

namespace Banck

open Lib

/-! ## Entries -/

inductive AuditActor where
  | system
  | user (userId : UserId) (username : String) (role : Role)
  deriving DecidableEq, Repr

def AuditActor.fromSession (session : Session) : AuditActor :=
  .user session.userId session.username session.role

def AuditActor.display : AuditActor → String
  | system => "system"
  | user userId username role =>
      username ++ "#" ++ toString userId ++ " (" ++ role.display ++ ")"

inductive AuditAction where
  | bootstrapAdmin
  | login
  | logout
  | createCustomer
  | createUser
  | createAccount
  | updateAccountProfile
  | activateAccount
  | deactivateAccount
  | closeAccount
  | deleteAccount
  | deposit
  | withdraw
  | transfer
  | fee
  | interest
  | loanRequest
  | loanPayment
  | saveState
  | loadState
  | exportStatement
  deriving DecidableEq, Repr

def AuditAction.display : AuditAction → String
  | bootstrapAdmin => "bootstrap_admin"
  | login => "login"
  | logout => "logout"
  | createCustomer => "create_customer"
  | createUser => "create_user"
  | createAccount => "create_account"
  | updateAccountProfile => "update_account_profile"
  | activateAccount => "activate_account"
  | deactivateAccount => "deactivate_account"
  | closeAccount => "close_account"
  | deleteAccount => "delete_account"
  | deposit => "deposit"
  | withdraw => "withdraw"
  | transfer => "transfer"
  | fee => "fee"
  | interest => "interest"
  | loanRequest => "loan_request"
  | loanPayment => "loan_payment"
  | saveState => "save_state"
  | loadState => "load_state"
  | exportStatement => "export_statement"

inductive AuditOutcome where
  | success
  | failure
  deriving DecidableEq, Repr

def AuditOutcome.display : AuditOutcome → String
  | success => "success"
  | failure => "failure"

/-- The id and the clock reading are `u64`. -/
structure AuditEntry where
  id : Nat
  occurredAtEpochSeconds : Nat
  actor : AuditActor
  action : AuditAction
  outcome : AuditOutcome
  target : Option String
  message : String
  deriving DecidableEq, Repr

/-! ## Errors -/

inductive AuditError where
  | invalidAuditId (id : Nat)
  | duplicateAuditId (id : Nat)
  | arithmeticOverflow
  deriving DecidableEq, Repr

def AuditError.display : AuditError → String
  | invalidAuditId id => "audit id " ++ toString id ++ " is invalid"
  | duplicateAuditId id => "audit id " ++ toString id ++ " is duplicated"
  | arithmeticOverflow => "audit id overflowed"

/-! ## The log -/

structure AuditLog where
  entries : List AuditEntry
  nextId : Nat
  deriving DecidableEq

namespace AuditLog

def new : AuditLog := ⟨[], 1⟩

/-- Append an entry made at `now` under the next id. -/
def record (actor : AuditActor) (action : AuditAction) (outcome : AuditOutcome)
    (target : Option String) (message : String) (now : Nat) :
    Mut AuditLog AuditError AuditEntry := do
  let log ← Mut.get
  let next ← Mut.okOr (checkedAddU64 log.nextId 1) .arithmeticOverflow
  Mut.modify fun log => { log with nextId := next }
  let entry : AuditEntry :=
    { id := log.nextId, occurredAtEpochSeconds := now, actor, action, outcome, target,
      message }
  Mut.modify fun log => { log with entries := log.entries ++ [entry] }
  pure entry

/-- What the loop of `from_entries` carries. -/
structure Import where
  seen : Finset Nat
  maxId : Nat

def importEntry (loaded : Import) (entry : AuditEntry) : Except AuditError Import :=
  if entry.id = 0 then
    .error (.invalidAuditId entry.id)
  else if entry.id ∈ loaded.seen then
    .error (.duplicateAuditId entry.id)
  else
    .ok { seen := insert entry.id loaded.seen, maxId := max loaded.maxId entry.id }

def fromEntries (entries : List AuditEntry) : Except AuditError AuditLog := do
  let loaded ← entries.foldlM importEntry ⟨∅, 0⟩
  match checkedAddU64 loaded.maxId 1 with
  | some next => .ok ⟨entries, next⟩
  | none => .error .arithmeticOverflow

end AuditLog

end Banck
