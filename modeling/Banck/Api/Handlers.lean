/-
Banck.Api.Handlers — the handlers of the API (`src/api.rs`).

A handler works on three parts of the state, each behind a lock: the
application, the sessions and the throttle. What it does while it holds a
lock is one `lockApp`, `lockSessions` or `lockThrottle`. All but the first
handlers begin alike: `authenticated` finds the session of the request
under the lock of the sessions and then takes the lock of the application.
The permission checks that stand between the two read nothing that is
locked and are written at the start of the second part.

The readings of the clock, the salt of a password hash and the drawn
tokens are what a run takes from outside, its `Env`.
-/
import Banck.Api.Messages
import Banck.Api.Sessions
import Banck.Api.Throttle

namespace Banck.Api

open Lib

/-! ## The state -/

structure ApiState where
  app : AppState
  sessions : ApiSessionStore
  authThrottle : AuthThrottle
  deriving DecidableEq

def ApiState.new (app : AppState) : ApiState :=
  ⟨app, ApiSessionStore.new, AuthThrottle.new⟩

/-- What one request takes from outside: each reading of the clock that a
handler may make, under the name of what it is made for. -/
structure Env where
  authenticatedAt : Nat
  failedAt : Nat
  postedAt : Nat
  postedNextAt : Nat
  auditedAt : Nat
  issuedAt : Nat
  salt : String
  drawnTokens : List String

/-- Why a handler has no body to answer with: it answers with an error, or
its loop for an unused token still runs. -/
inductive Halt where
  | error (error : ApiError)
  | drawing
  deriving DecidableEq, Repr

/-- What a handler does under the lock of the application. -/
abbrev AppM (α : Type) : Type := Mut AppState ApiError α

abbrev HandlerM (α : Type) : Type := Mut ApiState Halt α

def lockApp {α : Type} (m : AppM α) : HandlerM α :=
  Mut.zoom ApiState.app (fun app state => { state with app }) Halt.error m

def lockSessions {ε α : Type} (halt : ε → Halt) (m : Mut ApiSessionStore ε α) : HandlerM α :=
  Mut.zoom ApiState.sessions (fun sessions state => { state with sessions }) halt m

def lockThrottle {α : Type} (m : Mut AuthThrottle ApiError α) : HandlerM α :=
  Mut.zoom ApiState.authThrottle (fun authThrottle state => { state with authThrottle })
    Halt.error m

/-! ## Parts of the application -/

/-- A call of the bank; its error becomes a response. -/
def onBank {α : Type} (m : BankM α) : AppM α :=
  Mut.zoom AppState.bank (fun bank app => { app with bank }) ApiError.fromBank m

def onIdentities {α : Type} (m : IdentityM α) : AppM α :=
  Mut.zoom AppState.identities (fun identities app => { app with identities })
    ApiError.fromIdentity m

def recordAudit (actor : AuditActor) (action : AuditAction) (outcome : AuditOutcome)
    (target : Option String) (message : String) (now : Nat) : AppM Unit :=
  Mut.map (fun _ => ()) <|
    Mut.zoom AppState.auditLog (fun auditLog app => { app with auditLog })
      (fun error => .internalServerError error.display)
      (AuditLog.record actor action outcome target message now)

/-! ## Checks -/

def bearerToken (headers : HeaderMap) : Except ApiError String :=
  match headers.authorization with
  | none => .error (.unauthorized "missing Authorization header")
  | some .bytes => .error (.unauthorized "invalid Authorization header")
  | some (.text value) =>
      match (Text.stripPrefix "Bearer " value).map Text.trim with
      | some token =>
          if token.isEmpty then
            .error (.unauthorized "Authorization header must use Bearer token")
          else
            .ok token
      | none => .error (.unauthorized "Authorization header must use Bearer token")

def authenticateRequest (headers : HeaderMap) (now : Nat) : HandlerM Session := do
  let token ← Mut.lift ((bearerToken headers).mapError .error)
  lockSessions .error (ApiSessionStore.authenticate token now)

def authorize (session : Session) (permission : Permission) : Except ApiError Unit :=
  (IdentityStore.authorize session permission).mapError .fromIdentity

/-- The account has an owner, and it is the customer of the session. -/
def IsOwnedBy (account : Account) (session : Session) : Prop :=
  account.ownerId.isSome = true ∧ account.ownerId = session.customerId

instance (account : Account) (session : Session) : Decidable (IsOwnedBy account session) :=
  inferInstanceAs (Decidable (_ ∧ _))

def ensureAccountAccess (app : AppState) (session : Session) (accountId : AccountId)
    (anyPermission ownPermission : Permission) : Except ApiError Unit :=
  if session.can anyPermission then
    .ok ()
  else do
    authorize session ownPermission
    let account ← (app.bank.account accountId).mapError .fromBank
    if IsOwnedBy account session then .ok ()
    else .error (.forbidden "account is not linked to this customer")

def ensureAccountView (app : AppState) (session : Session) (accountId : AccountId) :
    Except ApiError Unit :=
  ensureAccountAccess app session accountId .viewAnyAccount .viewOwnAccount

def ensureAccountMoneyAccess (app : AppState) (session : Session) (accountId : AccountId) :
    Except ApiError Unit :=
  ensureAccountAccess app session accountId .moveMoney .moveOwnMoney

def visibleAccounts (app : AppState) (session : Session) :
    Except ApiError (List AccountResponse) :=
  if session.can .viewAnyAccount then
    .ok (app.bank.accountList.map AccountResponse.fromAccount)
  else do
    authorize session .viewOwnAccount
    .ok ((app.bank.accountList.filter fun account => IsOwnedBy account session).map
      AccountResponse.fromAccount)

def moneyFromCents (cents : I64) : Except ApiError Money :=
  if cents.val ≤ 0 then .error (.badRequest "amount_cents must be positive")
  else .ok (Money.fromCents cents)

def nonNegativeMoneyFromCents (cents : I64) : Except ApiError Money :=
  if cents.val < 0 then .error (.badRequest "opening_balance_cents cannot be negative")
  else .ok (Money.fromCents cents)

def validatedLimit (limit : Option Nat) : Except ApiError Nat :=
  let limit := limit.getD 100
  if 1 ≤ limit ∧ limit ≤ 500 then .ok limit
  else .error (.badRequest "limit must be between 1 and 500")

def validateTimeWindow : Option Nat → Option Nat → Except ApiError Unit
  | some fromSeconds, some toSeconds =>
      if toSeconds < fromSeconds then
        .error (.badRequest "from_epoch_seconds must be less than or equal to to_epoch_seconds")
      else
        .ok ()
  | _, _ => .ok ()

/-! ## Queries -/

def ordered {α : Type} (items : List α) (order : QueryOrder) : List α :=
  if order = .desc then items.reverse else items

def timestampMatchesQuery (timestamp : Nat) (fromEpochSeconds toEpochSeconds : Option Nat) :
    Bool :=
  (fromEpochSeconds.all fun fromSeconds => fromSeconds ≤ timestamp) &&
    toEpochSeconds.all fun toSeconds => timestamp ≤ toSeconds

def transactionMatchesQuery (transaction : Transaction) (query : TransactionQuery) : Bool :=
  (query.kind.all fun kind => kind == transaction.kind.display) &&
    timestampMatchesQuery transaction.occurredAtEpochSeconds query.fromEpochSeconds
      query.toEpochSeconds

def auditMatchesQuery (entry : AuditEntry) (query : AuditQuery) : Bool :=
  (query.action.all fun action => action == entry.action.display) &&
    (query.outcome.all fun outcome => outcome == entry.outcome.display) &&
    (query.target.all fun target => entry.target == some target) &&
    timestampMatchesQuery entry.occurredAtEpochSeconds query.fromEpochSeconds
      query.toEpochSeconds

/-! ## Handlers that look for no session -/

def health : HandlerM HealthResponse := pure { status := "ok" }

def userTarget (id : UserId) : Option String := some ("user:" ++ toString id)

def accountTarget (id : AccountId) : Option String := some ("account:" ++ toString id)

def SessionResponse.fromSession (session : Session) (issued : IssuedSession) :
    SessionResponse :=
  { userId := session.userId, username := session.username, role := session.role,
    customerId := session.customerId, accessToken := issued.accessToken,
    tokenType := "Bearer", expiresAtEpochSeconds := issued.expiresAtEpochSeconds }

/-- The last part of `bootstrap_admin` and `login`. -/
def issueSession (session : Session) (env : Env) : HandlerM SessionResponse := do
  let issued ← lockSessions (fun _ => .drawing)
    (ApiSessionStore.issue session env.issuedAt env.drawnTokens)
  pure (.fromSession session issued)

/-- What `bootstrap_admin` does to the application. -/
def bootstrapApp (argon2 : Argon2) (env : Env) (payload : CreateBootstrapAdminRequest) :
    AppM Session := do
  let app ← Mut.get
  if app.identities.hasUsers then
    recordAudit .system .bootstrapAdmin .failure none
      "bootstrap attempted after users already exist" env.auditedAt
    Mut.fail (.conflict "bootstrap is only available before users exist")
  else
    match IdentityStore.createUser argon2 env.salt payload.userId payload.username .admin none
        payload.password app.identities with
    | (.error error, identities) =>
        Mut.modify fun app => { app with identities }
        recordAudit .system .bootstrapAdmin .failure (userTarget payload.userId) error.display
          env.auditedAt
        Mut.fail (.fromIdentity error)
    | (.ok _, identities) =>
        Mut.modify fun app => { app with identities }
        let session ← Mut.lift ((identities.authenticate argon2 payload.username
          payload.password).mapError .fromIdentity)
        recordAudit (.fromSession session) .bootstrapAdmin .success
          (userTarget session.userId) "admin bootstrapped" env.auditedAt
        pure session

def bootstrapAdmin (argon2 : Argon2) (env : Env) (payload : CreateBootstrapAdminRequest) :
    HandlerM SessionResponse := do
  let session ← lockApp (bootstrapApp argon2 env payload)
  issueSession session env

def login (argon2 : Argon2) (env : Env) (payload : LoginRequest) :
    HandlerM SessionResponse := do
  lockThrottle (AuthThrottle.ensureAllowed payload.username env.authenticatedAt)
  let state ← Mut.get
  match state.app.identities.authenticate argon2 payload.username payload.password with
  | .ok session =>
      lockThrottle (Mut.modify fun throttle => throttle.recordSuccess payload.username)
      lockApp (recordAudit (.fromSession session) .login .success (userTarget session.userId)
        "login succeeded" env.auditedAt)
      issueSession session env
  | .error error =>
      lockThrottle
        (Mut.modify fun throttle => throttle.recordFailure payload.username env.failedAt)
      lockApp (recordAudit .system .login .failure (some ("username:" ++ payload.username))
        error.display env.auditedAt)
      Mut.fail (.error (.fromIdentity error))

/-! ## Handlers with a session -/

def logout (headers : HeaderMap) (env : Env) : HandlerM LogoutResponse := do
  let token ← Mut.lift ((bearerToken headers).mapError .error)
  let session ← lockSessions .error (ApiSessionStore.authenticate token env.authenticatedAt)
  lockSessions .error (Mut.modify fun sessions => sessions.revoke token)
  lockApp (recordAudit (.fromSession session) .logout .success (userTarget session.userId)
    "logout succeeded" env.auditedAt)
  pure { loggedOut := true }

/-- Find the session of the request, then work on the application. -/
def authenticated {α : Type} (headers : HeaderMap) (env : Env) (m : Session → AppM α) :
    HandlerM α := do
  let session ← authenticateRequest headers env.authenticatedAt
  lockApp (m session)

/-- The entry a handler with a session leaves when it is done. -/
def recordSuccess (session : Session) (action : AuditAction) (target : Option String)
    (message : String) (env : Env) : AppM Unit :=
  recordAudit (.fromSession session) action .success target message env.auditedAt

def createCustomer (headers : HeaderMap) (env : Env) (payload : CreateCustomerRequest) :
    HandlerM CustomerResponse :=
  authenticated headers env fun session => do
    Mut.lift (authorize session .manageIdentity)
    let customer ← onIdentities
      (IdentityStore.createCustomer payload.id payload.fullName payload.email)
    let response := CustomerResponse.fromCustomer customer
    recordSuccess session .createCustomer (some ("customer:" ++ toString response.id))
      "customer created" env
    pure response

def listAudit (headers : HeaderMap) (env : Env) (query : AuditQuery) :
    HandlerM (List AuditEntryResponse) :=
  authenticated headers env fun session => do
    Mut.lift (authorize session .manageIdentity)
    let app ← Mut.get
    let limit ← Mut.lift (validatedLimit query.limit)
    Mut.lift (validateTimeWindow query.fromEpochSeconds query.toEpochSeconds)
    let entries := app.auditLog.entries.filter fun entry => auditMatchesQuery entry query
    pure (((ordered entries (query.order.getD .desc)).take limit).map
      AuditEntryResponse.fromEntry)

def listCustomers (headers : HeaderMap) (env : Env) : HandlerM (List CustomerResponse) :=
  authenticated headers env fun session => do
    Mut.lift (authorize session .manageIdentity)
    let app ← Mut.get
    pure (app.identities.customerList.map CustomerResponse.fromCustomer)

def createUser (argon2 : Argon2) (headers : HeaderMap) (env : Env)
    (payload : CreateUserRequest) : HandlerM UserResponse :=
  authenticated headers env fun session => do
    Mut.lift (authorize session .manageIdentity)
    let user ← onIdentities (IdentityStore.createUser argon2 env.salt payload.id
      payload.username payload.role payload.customerId payload.password)
    let response := UserResponse.fromUser user
    recordSuccess session .createUser (userTarget response.id) "user created" env
    pure response

def listUsers (headers : HeaderMap) (env : Env) : HandlerM (List UserResponse) :=
  authenticated headers env fun session => do
    Mut.lift (authorize session .manageIdentity)
    let app ← Mut.get
    pure (app.identities.userList.map UserResponse.fromUser)

def ensureOwnerExists (app : AppState) : Option CustomerId → Except ApiError Unit
  | some customerId => do
      let _ ← (app.identities.customer customerId).mapError ApiError.fromIdentity
      .ok ()
  | none => .ok ()

def createAccount (headers : HeaderMap) (env : Env) (payload : CreateAccountRequest) :
    HandlerM AccountResponse :=
  authenticated headers env fun session => do
    Mut.lift (authorize session .manageAccounts)
    let app ← Mut.get
    Mut.lift (ensureOwnerExists app payload.ownerId)
    let openingBalance ← Mut.lift (nonNegativeMoneyFromCents payload.openingBalanceCents)
    let _ ← onBank (Bank.createAccount payload.id payload.ownerId payload.name payload.email
      openingBalance env.postedAt)
    let account ← onBank (Bank.readAccount payload.id)
    let response := AccountResponse.fromAccount account
    recordSuccess session .createAccount (accountTarget response.id) "account created" env
    pure response

def listAccounts (headers : HeaderMap) (env : Env) : HandlerM (List AccountResponse) :=
  authenticated headers env fun session => do
    let app ← Mut.get
    Mut.lift (visibleAccounts app session)

def getAccount (headers : HeaderMap) (env : Env) (accountId : AccountId) :
    HandlerM AccountResponse :=
  authenticated headers env fun session => do
    let app ← Mut.get
    Mut.lift (ensureAccountView app session accountId)
    let account ← onBank (Bank.readAccount accountId)
    pure (.fromAccount account)

def listAccountTransactions (headers : HeaderMap) (env : Env) (accountId : AccountId)
    (query : TransactionQuery) : HandlerM (List TransactionResponse) :=
  authenticated headers env fun session => do
    let app ← Mut.get
    Mut.lift (ensureAccountView app session accountId)
    let limit ← Mut.lift (validatedLimit query.limit)
    Mut.lift (validateTimeWindow query.fromEpochSeconds query.toEpochSeconds)
    let account ← onBank (Bank.readAccount accountId)
    let transactions := account.transactions.filter fun transaction =>
      transactionMatchesQuery transaction query
    pure (((ordered transactions (query.order.getD .desc)).take limit).map
      TransactionResponse.fromTransaction)

/-- The money handlers: `allowed` decides whether the session may, then the
operation runs on a positive amount and the account is read back. -/
def operateOnAccount (headers : HeaderMap) (env : Env) (accountId : AccountId)
    (amountCents : I64) (action : AuditAction) (message : String)
    (allowed : AppState → Session → Except ApiError Unit) (operation : Money → BankM Unit) :
    HandlerM AccountResponse :=
  authenticated headers env fun session => do
    let app ← Mut.get
    Mut.lift (allowed app session)
    let amount ← Mut.lift (moneyFromCents amountCents)
    onBank (operation amount)
    let account ← onBank (Bank.readAccount accountId)
    recordSuccess session action (accountTarget accountId) message env
    pure (.fromAccount account)

def mutateAccountMoney (headers : HeaderMap) (env : Env) (accountId : AccountId)
    (amountCents : I64) (action : AuditAction) (operation : Money → BankM Unit) :
    HandlerM AccountResponse :=
  operateOnAccount headers env accountId amountCents action (action.display ++ " completed")
    (fun app session => ensureAccountMoneyAccess app session accountId) operation

def deposit (headers : HeaderMap) (env : Env) (accountId : AccountId)
    (payload : MoneyOperationRequest) : HandlerM AccountResponse :=
  mutateAccountMoney headers env accountId payload.amountCents .deposit fun amount =>
    Bank.deposit accountId amount env.postedAt

def withdraw (headers : HeaderMap) (env : Env) (accountId : AccountId)
    (payload : MoneyOperationRequest) : HandlerM AccountResponse :=
  mutateAccountMoney headers env accountId payload.amountCents .withdraw fun amount =>
    Bank.withdraw accountId amount env.postedAt

def applyFee (headers : HeaderMap) (env : Env) (accountId : AccountId)
    (payload : MoneyOperationRequest) : HandlerM AccountResponse :=
  operateOnAccount headers env accountId payload.amountCents .fee "fee applied"
    (fun _ session => authorize session .moveMoney) fun amount =>
      Bank.applyFee accountId amount env.postedAt

def requestLoan (headers : HeaderMap) (env : Env) (accountId : AccountId)
    (payload : MoneyOperationRequest) : HandlerM AccountResponse :=
  operateOnAccount headers env accountId payload.amountCents .loanRequest "loan requested"
    (fun _ session => authorize session .moveMoney) fun amount =>
      Bank.requestLoan accountId amount env.postedAt

def payLoan (headers : HeaderMap) (env : Env) (accountId : AccountId)
    (payload : MoneyOperationRequest) : HandlerM AccountResponse :=
  operateOnAccount headers env accountId payload.amountCents .loanPayment "loan payment made"
    (fun app session => ensureAccountMoneyAccess app session accountId) fun amount =>
      Mut.map (fun _ => ()) (Bank.payLoan accountId amount env.postedAt)

def transfer (headers : HeaderMap) (env : Env) (payload : TransferRequest) :
    HandlerM TransferResponse :=
  authenticated headers env fun session => do
    let app ← Mut.get
    Mut.lift (ensureAccountMoneyAccess app session payload.fromAccountId)
    let amount ← Mut.lift (moneyFromCents payload.amountCents)
    onBank (Bank.transfer payload.fromAccountId payload.toAccountId amount env.postedAt
      env.postedNextAt)
    let fromAccount ← onBank (Bank.readAccount payload.fromAccountId)
    let toAccount ← onBank (Bank.readAccount payload.toAccountId)
    recordSuccess session .transfer
      (some ("account:" ++ toString payload.fromAccountId ++ "->account:"
        ++ toString payload.toAccountId))
      "transfer completed" env
    pure { fromAccount := .fromAccount fromAccount, toAccount := .fromAccount toAccount }

/-! ## Routing -/

def handle (argon2 : Argon2) (env : Env) : Request → HandlerM Response
  | .health => Mut.map .health health
  | .bootstrapAdmin payload => Mut.map .session (bootstrapAdmin argon2 env payload)
  | .login payload => Mut.map .session (login argon2 env payload)
  | .logout headers => Mut.map .logout (logout headers env)
  | .createCustomer headers payload => Mut.map .customer (createCustomer headers env payload)
  | .listAudit headers query => Mut.map .audit (listAudit headers env query)
  | .listCustomers headers => Mut.map .customers (listCustomers headers env)
  | .createUser headers payload => Mut.map .user (createUser argon2 headers env payload)
  | .listUsers headers => Mut.map .users (listUsers headers env)
  | .createAccount headers payload => Mut.map .account (createAccount headers env payload)
  | .listAccounts headers => Mut.map .accounts (listAccounts headers env)
  | .getAccount headers accountId => Mut.map .account (getAccount headers env accountId)
  | .listAccountTransactions headers accountId query =>
      Mut.map .transactions (listAccountTransactions headers env accountId query)
  | .deposit headers accountId payload =>
      Mut.map .account (deposit headers env accountId payload)
  | .withdraw headers accountId payload =>
      Mut.map .account (withdraw headers env accountId payload)
  | .applyFee headers accountId payload =>
      Mut.map .account (applyFee headers env accountId payload)
  | .requestLoan headers accountId payload =>
      Mut.map .account (requestLoan headers env accountId payload)
  | .payLoan headers accountId payload =>
      Mut.map .account (payLoan headers env accountId payload)
  | .transfer headers payload => Mut.map .transfer (transfer headers env payload)

end Banck.Api
