/-
Banck.Api.Messages — what the API is sent and what it answers (the request
and response types of `src/api.rs`).

A handler that takes the headers of its request has them in its
constructor of `Request`; the others never look at them.
-/
import Banck.Api.Error

namespace Banck.Api

/-! ## Requests -/

/-- A header value is a string of bytes; `text` is one that `to_str`
accepts. -/
inductive HeaderValue where
  | text (value : String)
  | bytes
  deriving DecidableEq, Repr

/-- The header the handlers read. -/
structure HeaderMap where
  authorization : Option HeaderValue
  deriving DecidableEq, Repr

structure CreateBootstrapAdminRequest where
  userId : UserId
  username : String
  password : String

structure LoginRequest where
  username : String
  password : String

structure CreateCustomerRequest where
  id : CustomerId
  fullName : String
  email : String

structure CreateUserRequest where
  id : UserId
  username : String
  role : Role
  customerId : Option CustomerId
  password : String

structure CreateAccountRequest where
  id : AccountId
  ownerId : Option CustomerId
  name : String
  email : String
  openingBalanceCents : I64

structure MoneyOperationRequest where
  amountCents : I64

structure TransferRequest where
  fromAccountId : AccountId
  toAccountId : AccountId
  amountCents : I64

inductive QueryOrder where
  | asc
  | desc
  deriving DecidableEq, Repr

structure AuditQuery where
  action : Option String
  outcome : Option String
  target : Option String
  fromEpochSeconds : Option Nat
  toEpochSeconds : Option Nat
  limit : Option Nat
  order : Option QueryOrder

structure TransactionQuery where
  kind : Option String
  fromEpochSeconds : Option Nat
  toEpochSeconds : Option Nat
  limit : Option Nat
  order : Option QueryOrder

/-- A routed request. -/
inductive Request where
  | health
  | bootstrapAdmin (payload : CreateBootstrapAdminRequest)
  | login (payload : LoginRequest)
  | logout (headers : HeaderMap)
  | createCustomer (headers : HeaderMap) (payload : CreateCustomerRequest)
  | listAudit (headers : HeaderMap) (query : AuditQuery)
  | listCustomers (headers : HeaderMap)
  | createUser (headers : HeaderMap) (payload : CreateUserRequest)
  | listUsers (headers : HeaderMap)
  | createAccount (headers : HeaderMap) (payload : CreateAccountRequest)
  | listAccounts (headers : HeaderMap)
  | getAccount (headers : HeaderMap) (accountId : AccountId)
  | listAccountTransactions (headers : HeaderMap) (accountId : AccountId)
      (query : TransactionQuery)
  | deposit (headers : HeaderMap) (accountId : AccountId) (payload : MoneyOperationRequest)
  | withdraw (headers : HeaderMap) (accountId : AccountId) (payload : MoneyOperationRequest)
  | applyFee (headers : HeaderMap) (accountId : AccountId) (payload : MoneyOperationRequest)
  | requestLoan (headers : HeaderMap) (accountId : AccountId)
      (payload : MoneyOperationRequest)
  | payLoan (headers : HeaderMap) (accountId : AccountId) (payload : MoneyOperationRequest)
  | transfer (headers : HeaderMap) (payload : TransferRequest)

/-- The headers a handler reads its session from. -/
def Request.headers : Request → Option HeaderMap
  | health | bootstrapAdmin _ | login _ => none
  | logout headers | createCustomer headers _ | listAudit headers _ | listCustomers headers
  | createUser headers _ | listUsers headers | createAccount headers _
  | listAccounts headers | getAccount headers _ | listAccountTransactions headers _ _
  | deposit headers _ _ | withdraw headers _ _ | applyFee headers _ _
  | requestLoan headers _ _ | payLoan headers _ _ | transfer headers _ => some headers

/-! ## Responses -/

structure HealthResponse where
  status : String
  deriving DecidableEq, Repr

structure SessionResponse where
  userId : UserId
  username : String
  role : Role
  customerId : Option CustomerId
  accessToken : String
  tokenType : String
  expiresAtEpochSeconds : Nat
  deriving DecidableEq, Repr

structure LogoutResponse where
  loggedOut : Bool
  deriving DecidableEq, Repr

structure CustomerResponse where
  id : CustomerId
  fullName : String
  email : String
  deriving DecidableEq, Repr

def CustomerResponse.fromCustomer (customer : Customer) : CustomerResponse :=
  { id := customer.id, fullName := customer.fullName, email := customer.email }

structure UserResponse where
  id : UserId
  username : String
  role : Role
  customerId : Option CustomerId
  deriving DecidableEq, Repr

def UserResponse.fromUser (user : User) : UserResponse :=
  { id := user.id, username := user.username, role := user.role,
    customerId := user.customerId }

structure TransactionResponse where
  id : Nat
  occurredAtEpochSeconds : Nat
  kind : String
  amountCents : Int
  amount : String
  description : String
  deriving DecidableEq, Repr

def TransactionResponse.fromTransaction (transaction : Transaction) : TransactionResponse :=
  { id := transaction.id
    occurredAtEpochSeconds := transaction.occurredAtEpochSeconds
    kind := transaction.kind.display
    amountCents := transaction.amount.cents
    amount := transaction.amount.display
    description := transaction.description }

structure AccountResponse where
  id : AccountId
  ownerId : Option CustomerId
  name : String
  email : String
  balanceCents : Int
  balance : String
  loanBalanceCents : Int
  loanBalance : String
  status : String
  transactions : List TransactionResponse
  deriving DecidableEq, Repr

def AccountResponse.fromAccount (account : Account) : AccountResponse :=
  { id := account.id
    ownerId := account.ownerId
    name := account.name
    email := account.email
    balanceCents := account.balance.cents
    balance := account.balance.display
    loanBalanceCents := account.loanBalance.cents
    loanBalance := account.loanBalance.display
    status := account.status.display
    transactions := account.transactions.map TransactionResponse.fromTransaction }

/-- The fields `from` and `to` of the source, whose names are words of the
language here. -/
structure TransferResponse where
  fromAccount : AccountResponse
  toAccount : AccountResponse
  deriving DecidableEq, Repr

structure AuditEntryResponse where
  id : Nat
  occurredAtEpochSeconds : Nat
  actor : String
  action : String
  outcome : String
  target : Option String
  message : String
  deriving DecidableEq, Repr

def AuditEntryResponse.fromEntry (entry : AuditEntry) : AuditEntryResponse :=
  { id := entry.id
    occurredAtEpochSeconds := entry.occurredAtEpochSeconds
    actor := entry.actor.display
    action := entry.action.display
    outcome := entry.outcome.display
    target := entry.target
    message := entry.message }

/-- The body of a response with a status of success. -/
inductive Response where
  | health (body : HealthResponse)
  | session (body : SessionResponse)
  | logout (body : LogoutResponse)
  | customer (body : CustomerResponse)
  | customers (body : List CustomerResponse)
  | user (body : UserResponse)
  | users (body : List UserResponse)
  | account (body : AccountResponse)
  | accounts (body : List AccountResponse)
  | transactions (body : List TransactionResponse)
  | transfer (body : TransferResponse)
  | audit (body : List AuditEntryResponse)
  deriving DecidableEq, Repr

end Banck.Api
