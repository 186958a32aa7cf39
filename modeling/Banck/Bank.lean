/-
Banck.Bank — the bank: a map of accounts and the counter that numbers
their transactions (`src/bank.rs`).

Every method that takes the bank by mutable reference is a `Mut Bank
BankError`: what it wrote before it failed stays written. The readings of
the clock that `current_epoch_seconds` makes are arguments.
-/
import Banck.Lib.Mut
import Banck.Lib.OrdMap
import Banck.Profile

namespace Banck

open Lib

/-! ## Errors -/

inductive BankError where
  | accountAlreadyExists (id : AccountId)
  | accountNotFound (id : AccountId)
  | sameAccountTransfer (id : AccountId)
  | invalidAmount
  | invalidProfileField (field : String)
  | accountInactive (id : AccountId)
  | accountClosed (id : AccountId)
  | insufficientFunds (accountId : AccountId) (available required : Money)
  | accountHasBalance (accountId : AccountId) (balance : Money)
  | accountHasLoan (accountId : AccountId) (loanBalance : Money)
  | noLoan (id : AccountId)
  | arithmeticOverflow
  | invalidTransactionId (id : Nat)
  | duplicateTransactionId (id : Nat)
  deriving DecidableEq

def BankError.display : BankError → String
  | accountAlreadyExists id => "account " ++ toString id ++ " already exists"
  | accountNotFound id => "account " ++ toString id ++ " was not found"
  | sameAccountTransfer id => "cannot transfer from account " ++ toString id ++ " to itself"
  | invalidAmount => "amount must be positive"
  | invalidProfileField field => field ++ " is invalid"
  | accountInactive id => "account " ++ toString id ++ " is inactive"
  | accountClosed id => "account " ++ toString id ++ " is closed"
  | insufficientFunds accountId available required =>
      "account " ++ toString accountId ++ " has insufficient funds: available "
        ++ available.display ++ ", required " ++ required.display
  | accountHasBalance accountId balance =>
      "account " ++ toString accountId
        ++ " must have zero balance before this operation; current balance is "
        ++ balance.display
  | accountHasLoan accountId loanBalance =>
      "account " ++ toString accountId
        ++ " must repay loans before this operation; current loan balance is "
        ++ loanBalance.display
  | noLoan id => "account " ++ toString id ++ " has no outstanding loan"
  | arithmeticOverflow => "calculation overflowed"
  | invalidTransactionId id => "transaction id " ++ toString id ++ " is invalid"
  | duplicateTransactionId id => "transaction id " ++ toString id ++ " is duplicated"

/-! ## The state -/

structure Bank where
  accounts : OrdMap AccountId Account
  nextTransactionId : Nat
  deriving DecidableEq

/-- A method on `&mut self` that returns a `BankResult`. -/
abbrev BankM (α : Type) : Type := Mut Bank BankError α

/-! ## Checks -/

def cleanName (name : String) : Except BankError String :=
  Profile.cleanName (.invalidProfileField "name") name

def cleanEmail (email : String) : Except BankError String :=
  Profile.cleanEmail (.invalidProfileField "email") email

def ensurePositive (amount : Money) : Except BankError Unit :=
  if amount ≤ Money.zero then .error .invalidAmount else .ok ()

def ensureNonNegative (amount : Money) : Except BankError Unit :=
  if amount.isNegative then .error .invalidAmount else .ok ()

def validateImportedAccount (account : Account) : Except BankError Unit := do
  let _ ← cleanName account.name
  let _ ← cleanEmail account.email
  ensureNonNegative account.balance
  ensureNonNegative account.loanBalance

namespace Bank

def new : Bank := ⟨∅, 1⟩

/-- The accounts in ascending id order. -/
def accountList (bank : Bank) : List Account := bank.accounts.vals

def account (bank : Bank) (id : AccountId) : Except BankError Account :=
  match bank.accounts[id]? with
  | some account => .ok account
  | none => .error (.accountNotFound id)

/-! ## Steps shared by the operations -/

/-- `self.account(id)?`. -/
def readAccount (id : AccountId) : BankM Account := fun bank => (bank.account id, bank)

/-- `self.account_mut(id)?`: the account the reference points to. -/
def accountMut (id : AccountId) : BankM Account := do
  let bank ← Mut.get
  Mut.okOr bank.accounts[id]? (.accountNotFound id)

/-- An assignment through the reference `account_mut` gave out. -/
def setAccount (id : AccountId) (account : Account) : BankM Unit :=
  Mut.modify fun bank => { bank with accounts := bank.accounts.insert id account }

def ensureCanTransact (id : AccountId) : BankM Unit := do
  let account ← readAccount id
  match account.status with
  | .active => pure ()
  | .inactive => Mut.fail (.accountInactive id)
  | .closed => Mut.fail (.accountClosed id)

def ensureSufficientFunds (id : AccountId) (required : Money) : BankM Unit := do
  let account ← readAccount id
  Mut.ensure (¬ account.balance < required)
    (.insufficientFunds id account.balance required)

/-- Take the next id for a transaction made at `now`. -/
def nextTransaction (now : Nat) (kind : TransactionKind) (amount : Money)
    (description : String) : BankM Transaction := do
  let bank ← Mut.get
  let next ← Mut.okOr (checkedAddU64 bank.nextTransactionId 1) .arithmeticOverflow
  Mut.modify fun bank => { bank with nextTransactionId := next }
  pure { id := bank.nextTransactionId, occurredAtEpochSeconds := now, kind, amount,
         description }

/-! ## Operations -/

def createAccount (id : AccountId) (ownerId : Option CustomerId) (name email : String)
    (openingBalance : Money) (now : Nat) : BankM Account := do
  let bank ← Mut.get
  Mut.ensure (bank.accounts.contains id = false) (.accountAlreadyExists id)
  Mut.lift (ensureNonNegative openingBalance)
  let name ← Mut.lift (cleanName name)
  let email ← Mut.lift (cleanEmail email)
  let account := Account.new id ownerId name email openingBalance
  let transaction ← nextTransaction now .accountCreated openingBalance "Account created"
  let account := account.record transaction
  setAccount id account
  pure account

/-- `update_name` and `update_email`: check the new value, then write it. -/
def updateProfile (id : AccountId) (checked : Except BankError String)
    (write : String → Account → Account) (description : String) (now : Nat) :
    BankM Unit := do
  let value ← Mut.lift checked
  let _ ← readAccount id
  let transaction ← nextTransaction now .profileUpdated Money.zero description
  let account ← accountMut id
  setAccount id ((write value account).record transaction)

def updateName (id : AccountId) (name : String) (now : Nat) : BankM Unit :=
  updateProfile id (cleanName name) (fun name account => { account with name })
    "Name updated" now

def updateEmail (id : AccountId) (email : String) (now : Nat) : BankM Unit :=
  updateProfile id (cleanEmail email) (fun email account => { account with email })
    "Email updated" now

/-- `activate_account` and `deactivate_account`: an account that is not
closed takes the status. -/
def switchStatus (id : AccountId) (status : AccountStatus) (kind : TransactionKind)
    (description : String) (now : Nat) : BankM Unit := do
  let account ← accountMut id
  Mut.ensure (account.isClosed = false) (.accountClosed id)
  let transaction ← nextTransaction now kind Money.zero description
  let account ← accountMut id
  setAccount id ({ account with status }.record transaction)

def activateAccount (id : AccountId) (now : Nat) : BankM Unit :=
  switchStatus id .active .activated "Account activated" now

def deactivateAccount (id : AccountId) (now : Nat) : BankM Unit :=
  switchStatus id .inactive .deactivated "Account deactivated" now

def closeAccount (id : AccountId) (now : Nat) : BankM Unit := do
  let account ← accountMut id
  Mut.ensure (account.balance.isZero = true) (.accountHasBalance id account.balance)
  Mut.ensure (account.loanBalance.isZero = true) (.accountHasLoan id account.loanBalance)
  let transaction ← nextTransaction now .closed Money.zero "Account closed"
  let account ← accountMut id
  setAccount id ({ account with status := .closed }.record transaction)

def deleteAccount (id : AccountId) : BankM Account := do
  let account ← readAccount id
  Mut.ensure (account.balance.isZero = true) (.accountHasBalance id account.balance)
  Mut.ensure (account.loanBalance.isZero = true) (.accountHasLoan id account.loanBalance)
  let bank ← Mut.get
  Mut.modify fun bank => { bank with accounts := bank.accounts.erase id }
  Mut.okOr bank.accounts[id]? (.accountNotFound id)

def deposit (id : AccountId) (amount : Money) (now : Nat) : BankM Unit := do
  Mut.lift (ensurePositive amount)
  ensureCanTransact id
  let transaction ← nextTransaction now .deposit amount "Money deposited"
  let account ← accountMut id
  let balance ← Mut.okOr (account.balance.checkedAdd amount) .arithmeticOverflow
  setAccount id ({ account with balance }.record transaction)

/-- `withdraw` and `apply_fee`: take an amount that the balance covers. -/
def debit (id : AccountId) (amount : Money) (kind : TransactionKind) (description : String)
    (now : Nat) : BankM Unit := do
  Mut.lift (ensurePositive amount)
  ensureCanTransact id
  ensureSufficientFunds id amount
  let transaction ← nextTransaction now kind amount description
  let account ← accountMut id
  let balance ← Mut.okOr (account.balance.checkedSub amount) .arithmeticOverflow
  setAccount id ({ account with balance }.record transaction)

def withdraw (id : AccountId) (amount : Money) (now : Nat) : BankM Unit :=
  debit id amount .withdrawal "Money withdrawn" now

/-- The two transactions read the clock one after the other. -/
def transfer (fromId toId : AccountId) (amount : Money) (nowOut nowIn : Nat) :
    BankM Unit := do
  Mut.lift (ensurePositive amount)
  Mut.ensure (fromId ≠ toId) (.sameAccountTransfer fromId)
  ensureCanTransact fromId
  ensureCanTransact toId
  ensureSufficientFunds fromId amount
  let fromAccount ← readAccount fromId
  let toAccount ← readAccount toId
  let nextFromBalance ← Mut.okOr (fromAccount.balance.checkedSub amount) .arithmeticOverflow
  let nextToBalance ← Mut.okOr (toAccount.balance.checkedAdd amount) .arithmeticOverflow
  let transferOut ← nextTransaction nowOut .transferOut amount
    ("Transferred to account " ++ toString toId)
  let transferIn ← nextTransaction nowIn .transferIn amount
    ("Received from account " ++ toString fromId)
  let fromAccount ← accountMut fromId
  setAccount fromId ({ fromAccount with balance := nextFromBalance }.record transferOut)
  let toAccount ← accountMut toId
  setAccount toId ({ toAccount with balance := nextToBalance }.record transferIn)

def applyFee (id : AccountId) (amount : Money) (now : Nat) : BankM Unit :=
  debit id amount .fee "Bank fee applied" now

/-- Charge every account in turn; `clock` is what it shows when an
account's turn comes. -/
def chargeFees (amount : Money) (clock : AccountId → Nat) :
    List AccountId → Bank → List (AccountId × Except BankError Unit) × Bank
  | [], bank => ([], bank)
  | id :: rest, bank =>
      let (result, charged) := applyFee id amount (clock id) bank
      let (results, final) := chargeFees amount clock rest charged
      ((id, result) :: results, final)

/-- The ids are read off before the first account is charged. -/
def applyMonthlyFee (amount : Money) (clock : AccountId → Nat) (bank : Bank) :
    List (AccountId × Except BankError Unit) × Bank :=
  chargeFees amount clock bank.accounts.keys bank

def applyInterest (id : AccountId) (rate : InterestRate) (now : Nat) : BankM Money := do
  Mut.ensure (rate.isZero = false) .invalidAmount
  ensureCanTransact id
  let account ← readAccount id
  let interest ← Mut.okOr (account.balance.checkedPercentage rate) .arithmeticOverflow
  let transaction ← nextTransaction now .interest interest
    ("Interest added at " ++ rate.display)
  let account ← accountMut id
  let balance ← Mut.okOr (account.balance.checkedAdd interest) .arithmeticOverflow
  setAccount id ({ account with balance }.record transaction)
  pure interest

/-- The balance is assigned before the sum of the loan balance is checked. -/
def requestLoan (id : AccountId) (amount : Money) (now : Nat) : BankM Unit := do
  Mut.lift (ensurePositive amount)
  ensureCanTransact id
  let transaction ← nextTransaction now .loanRequested amount "Loan received"
  let account ← accountMut id
  let balance ← Mut.okOr (account.balance.checkedAdd amount) .arithmeticOverflow
  let account := { account with balance }
  setAccount id account
  let loanBalance ← Mut.okOr (account.loanBalance.checkedAdd amount) .arithmeticOverflow
  setAccount id ({ account with loanBalance }.record transaction)

/-- Pays `amount`, or the whole loan if that is less. The balance is
assigned before the difference of the loan balance is checked. -/
def payLoan (id : AccountId) (amount : Money) (now : Nat) : BankM Money := do
  Mut.lift (ensurePositive amount)
  ensureCanTransact id
  let account ← readAccount id
  Mut.ensure (account.loanBalance.isZero = false) (.noLoan id)
  let payment := amount.min account.loanBalance
  Mut.ensure (¬ account.balance < payment) (.insufficientFunds id account.balance payment)
  let transaction ← nextTransaction now .loanPayment payment "Loan payment made"
  let account ← accountMut id
  let balance ← Mut.okOr (account.balance.checkedSub payment) .arithmeticOverflow
  let account := { account with balance }
  setAccount id account
  let loanBalance ← Mut.okOr (account.loanBalance.checkedSub payment) .arithmeticOverflow
  setAccount id ({ account with loanBalance }.record transaction)
  pure payment

/-- The sum of all balances, checked at every addition. -/
def totalBalance (bank : Bank) : Except BankError Money :=
  bank.accountList.foldlM
    (fun total account =>
      match total.checkedAdd account.balance with
      | some sum => .ok sum
      | none => .error .arithmeticOverflow)
    Money.zero

/-! ## Loading -/

/-- What the loops of `from_accounts` carry. -/
structure Import where
  accounts : OrdMap AccountId Account
  seenTransactionIds : Finset Nat
  maxTransactionId : Nat

def importTransaction (loaded : Import) (transaction : Transaction) :
    Except BankError Import :=
  if transaction.id = 0 then
    .error (.invalidTransactionId transaction.id)
  else if transaction.id ∈ loaded.seenTransactionIds then
    .error (.duplicateTransactionId transaction.id)
  else
    .ok { loaded with
      seenTransactionIds := insert transaction.id loaded.seenTransactionIds
      maxTransactionId := max loaded.maxTransactionId transaction.id }

def importAccount (loaded : Import) (account : Account) : Except BankError Import := do
  validateImportedAccount account
  let loaded ← account.transactions.foldlM importTransaction loaded
  if loaded.accounts.contains account.id then
    .error (.accountAlreadyExists account.id)
  else
    .ok { loaded with accounts := loaded.accounts.insert account.id account }

def fromAccounts (accounts : List Account) : Except BankError Bank := do
  let loaded ← accounts.foldlM importAccount ⟨∅, ∅, 0⟩
  match checkedAddU64 loaded.maxTransactionId 1 with
  | some next => .ok ⟨loaded.accounts, next⟩
  | none => .error .arithmeticOverflow

end Bank

end Banck
