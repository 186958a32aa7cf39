/-
Banck.Terminal — the loop that reads commands line by line (`src/cli.rs`).

A line is trimmed and answers the question that was asked last. At the menu
it names a command; the command checks what may be done, asks for what it
needs and asks again for what it cannot read. When the last answer is there
it is carried out, what it says is printed, and the menu comes back. All
this is a `Dialogue` that ends in an `Order`; the loop is a machine whose
inputs are the lines that are read.

The questions are asked in the order of the source, and a check stands
where the source has it: after the account id, if it is about an account.
`act` carries a command out without checking again.
-/
import Banck.AccountAccess
import Banck.BankQueries
import Banck.Cli
import Banck.Lib.Dialogue
import Banck.ParsingTheorems

namespace Banck.Cli

open Lib Dialogue

/-! ## Orders -/

/-- The commands that print and change nothing. -/
inductive View where
  | session
  | audit
  | listCustomers
  | listUsers
  | balance (id : AccountId)
  | info (id : AccountId)
  | list
  | history (id : AccountId)
  | totalBalance
  | richest
  | emptyAccounts
  | count
  deriving DecidableEq

/-- What the lines of one turn come to. -/
inductive Order where
  /-- The menu comes back at once, after these lines. -/
  | nothing (printed : List String)
  | exit
  | view (view : View)
  | change (command : Command)

/-! ## Readers -/

def readText (prompt : String) (next : String → Dialogue Order) : Dialogue Order :=
  askFor prompt .ok next

/-- `parse::<u32>` -/
def parseU32 (line : String) : Option UInt32 :=
  (Decimal.parseInt 0 u32Max line.toList).map fun n => UInt32.ofNat n.toNat

/-- The readers of ids, whose complaint names what is asked for. -/
def readId (noun prompt : String) (next : UInt32 → Dialogue Order) : Dialogue Order :=
  askFor prompt
    (fun line => (parseU32 line).elim (.error ("Please enter a valid " ++ noun ++ " id")) .ok)
    next

def readAccountId (prompt : String) (next : AccountId → Dialogue Order) : Dialogue Order :=
  readId "account" prompt next

def readCustomerId (prompt : String) (next : CustomerId → Dialogue Order) : Dialogue Order :=
  readId "customer" prompt next

def readUserId (prompt : String) (next : UserId → Dialogue Order) : Dialogue Order :=
  readId "user" prompt next

def parseOptionalCustomerId (line : String) : Except String (Option CustomerId) :=
  if line = "" then
    .ok none
  else
    match parseU32 line with
    | some id => .ok (some id)
    | none => .error "Please enter a valid customer id or leave it blank"

def readOptionalCustomerId (prompt : String) (next : Option CustomerId → Dialogue Order) :
    Dialogue Order :=
  askFor prompt parseOptionalCustomerId next

def parseMoney (line : String) : Except String Money :=
  match h : Money.fromStr line with
  | some (.ok amount) => .ok amount
  | some (.error e) => .error ("Invalid money value: " ++ e.display)
  | none => absurd h (Money.fromStr_ne_none line)

/-- The two readers of an amount repeat the question of `read_money`. -/
def parseMoneyWhere (p : Money → Bool) (complaint line : String) : Except String Money := do
  let amount ← parseMoney line
  if p amount then .ok amount else .error complaint

def readNonNegativeMoney (prompt : String) (next : Money → Dialogue Order) : Dialogue Order :=
  askFor prompt
    (parseMoneyWhere (fun amount => Money.zero ≤ amount) "Amount cannot be negative") next

def readPositiveMoney (prompt : String) (next : Money → Dialogue Order) : Dialogue Order :=
  askFor prompt
    (parseMoneyWhere (fun amount => Money.zero < amount) "Amount must be positive") next

def parsePositiveInterestRate (line : String) : Except String InterestRate :=
  match h : InterestRate.fromStr line with
  | some (.ok rate) => if rate.isZero then .error "Interest rate must be positive" else .ok rate
  | some (.error e) => .error ("Invalid interest rate: " ++ e.display)
  | none => absurd h (InterestRate.fromStr_ne_none line)

def readPositiveInterestRate (prompt : String) (next : InterestRate → Dialogue Order) :
    Dialogue Order :=
  askFor prompt parsePositiveInterestRate next

def parseRole (line : String) : Except String Role :=
  match Text.toLowercase line with
  | "customer" => .ok .customer
  | "teller" => .ok .teller
  | "admin" => .ok .admin
  | _ => .error "Please enter customer, teller, or admin"

def readRole (prompt : String) (next : Role → Dialogue Order) : Dialogue Order :=
  askFor prompt parseRole next

/-! ## Checks that print why they fail -/

def pleaseLogin : String := "Please login first"

def permissionDenied (session : Session) (permission : Permission) : String :=
  "Permission denied: " ++ (IdentityError.permissionDenied session.role permission).display

/-- `authorize`, with what it prints. -/
def permit (session : Option Session) (permission : Permission) : Except String Unit :=
  match session with
  | none => .error pleaseLogin
  | some session =>
      match IdentityStore.authorize session permission with
      | .ok () => .ok ()
      | .error e => .error ("Permission denied: " ++ e.display)

/-- `authorize_account_access`, with what it prints. -/
def permitAccountAccess (app : AppState) (session : Option Session) (accountId : AccountId)
    (anyPermission ownPermission : Permission) : Except String Unit :=
  match session with
  | none => .error pleaseLogin
  | some session =>
      if session.can anyPermission then
        .ok ()
      else if session.can ownPermission = false then
        .error (permissionDenied session ownPermission)
      else
        match app.bank.account accountId with
        | .error e => .error ("Account lookup failed: " ++ e.display)
        | .ok account =>
            if account.ownerId.isSome && account.ownerId == session.customerId then
              .ok ()
            else
              .error ("Permission denied: account " ++ toString accountId
                ++ " is not linked to your customer profile")

def permitAccountView (state : CliState) (accountId : AccountId) : Except String Unit :=
  permitAccountAccess state.app state.session accountId .viewAnyAccount .viewOwnAccount

def permitAccountMoneyOperation (state : CliState) (accountId : AccountId) :
    Except String Unit :=
  permitAccountAccess state.app state.session accountId .moveMoney .moveOwnMoney

/-- `customer_exists`, with what it prints. -/
def findOwner (identities : IdentityStore) : Option CustomerId → Except String Unit
  | none => .ok ()
  | some customerId =>
      match identities.customer customerId with
      | .ok _ => .ok ()
      | .error e => .error ("Owner lookup failed: " ++ e.display)

/-- Go on if the check holds, else the menu comes back. -/
def check (checked : Except String Unit) (next : Dialogue Order) : Dialogue Order :=
  match checked with
  | .ok () => next
  | .error complaint => done (.nothing [complaint])

/-! ## Commands -/

section Commands

variable (state : CliState)

def bootstrapAdminDialogue : Dialogue Order :=
  if state.app.identities.hasUsers then
    done (.nothing ["Bootstrap is only available before any users exist"])
  else
    readUserId "Admin user id: " fun id =>
      readText "Admin username: " fun username =>
        readText "Admin password: " fun password =>
          done (.change (.bootstrapAdmin id username password))

def loginDialogue : Dialogue Order :=
  readText "Username: " fun username =>
    readText "Password: " fun password => done (.change (.login username password))

def createCustomerDialogue : Dialogue Order :=
  check (permit state.session .manageIdentity) <|
    readCustomerId "Customer id: " fun id =>
      readText "Full name: " fun fullName =>
        readText "Email: " fun email => done (.change (.createCustomer id fullName email))

/-- The linked customer is asked for if the role is that of a customer. -/
def createUserDialogue : Dialogue Order :=
  check (permit state.session .manageIdentity) <|
    readUserId "User id: " fun id =>
      readText "Username: " fun username =>
        readRole "Role (customer, teller, admin): " fun role =>
          let withPassword (linkedCustomerId : CustomerId) : Dialogue Order :=
            readText "Password: " fun password =>
              done (.change (.createUser id username role linkedCustomerId password))
          if role = .customer then
            readCustomerId "Linked customer id: " withPassword
          else
            withPassword 0

def createDialogue : Dialogue Order :=
  check (permit state.session .manageAccounts) <|
    readAccountId "Account id: " fun id =>
      readOptionalCustomerId "Owner customer id (blank for none): " fun ownerId =>
        check (findOwner state.app.identities ownerId) <|
          readText "Account name: " fun name =>
            readText "Account email: " fun email =>
              readNonNegativeMoney "Starting balance: " fun openingBalance =>
                done (.change (.create id ownerId name email openingBalance))

/-- The commands that manage one account. -/
def manageDialogue (next : AccountId → Dialogue Order) : Dialogue Order :=
  check (permit state.session .manageAccounts) (readAccountId "Account id: " next)

/-- The commands that move the money of one account, its id and an amount
asked for. -/
def moneyDialogue (prompt : String) (command : AccountId → Money → Command) : Dialogue Order :=
  readAccountId "Account id: " fun id =>
    check (permitAccountMoneyOperation state id) <|
      readPositiveMoney prompt fun amount => done (.change (command id amount))

def transferDialogue : Dialogue Order :=
  readAccountId "From account id: " fun fromId =>
    check (permitAccountMoneyOperation state fromId) <|
      readAccountId "To account id: " fun toId =>
        readPositiveMoney "Amount: " fun amount =>
          done (.change (.transfer fromId toId amount))

/-- The commands for which money must be moved by the staff. -/
def staffDialogue (prompt : String) (command : AccountId → Money → Command) : Dialogue Order :=
  check (permit state.session .moveMoney) <|
    readAccountId "Account id: " fun id =>
      readPositiveMoney prompt fun amount => done (.change (command id amount))

def monthlyFeeDialogue : Dialogue Order :=
  check (permit state.session .moveMoney) <|
    readPositiveMoney "Monthly fee amount: " fun amount => done (.change (.monthlyFee amount))

def interestDialogue : Dialogue Order :=
  check (permit state.session .moveMoney) <|
    readAccountId "Account id: " fun id =>
      readPositiveInterestRate "Interest percent: " fun rate =>
        done (.change (.interest id rate))

/-- The views of one account. -/
def accountViewDialogue (view : AccountId → View) : Dialogue Order :=
  readAccountId "Account id: " fun id =>
    check (permitAccountView state id) (done (.view (view id)))

/-- The views of everything, for those who have the permission. -/
def viewDialogue (permission : Permission) (view : View) : Dialogue Order :=
  check (permit state.session permission) (done (.view view))

/-- The commands on a file, for those who have the permission. -/
def fileDialogue (permission : Permission) (prompt : String) (command : String → Command) :
    Dialogue Order :=
  check (permit state.session permission) <|
    readText prompt fun path => done (.change (command path))

/-- Loading is checked only if somebody is logged in. -/
def loadDialogue (prompt : String) (command : String → Command) : Dialogue Order :=
  if state.session.isSome then
    fileDialogue state .persistState prompt command
  else
    readText prompt fun path => done (.change (command path))

/-- What is started at the menu. -/
def dispatch : String → Dialogue Order
  | "bootstrap_admin" => bootstrapAdminDialogue state
  | "login" => loginDialogue
  | "logout" => done (.change .logout)
  | "session" => done (.view .session)
  | "audit" => viewDialogue state .manageIdentity .audit
  | "create_customer" => createCustomerDialogue state
  | "create_user" => createUserDialogue state
  | "list_customers" => viewDialogue state .manageIdentity .listCustomers
  | "list_users" => viewDialogue state .manageIdentity .listUsers
  | "create" => createDialogue state
  | "update_name" =>
      manageDialogue state fun id =>
        readText "New name: " fun name => done (.change (.updateName id name))
  | "update_email" =>
      manageDialogue state fun id =>
        readText "New email: " fun email => done (.change (.updateEmail id email))
  | "activate" => manageDialogue state fun id => done (.change (.activate id))
  | "deactivate" => manageDialogue state fun id => done (.change (.deactivate id))
  | "close" => manageDialogue state fun id => done (.change (.close id))
  | "delete" => manageDialogue state fun id => done (.change (.delete id))
  | "deposit" => moneyDialogue state "Amount: " .deposit
  | "withdraw" => moneyDialogue state "Amount: " .withdraw
  | "transfer" => transferDialogue state
  | "fee" => staffDialogue state "Fee amount: " .fee
  | "monthly_fee" => monthlyFeeDialogue state
  | "interest" => interestDialogue state
  | "loan_request" => staffDialogue state "Loan amount: " .loanRequest
  | "pay_loan" => moneyDialogue state "Payment amount: " .payLoan
  | "balance" => accountViewDialogue state .balance
  | "info" | "search" => accountViewDialogue state .info
  | "list" => done (.view .list)
  | "history" | "statement" => accountViewDialogue state .history
  | "total_balance" => viewDialogue state .viewAnyAccount .totalBalance
  | "richest" => viewDialogue state .viewAnyAccount .richest
  | "empty_accounts" => viewDialogue state .viewAnyAccount .emptyAccounts
  | "count" => viewDialogue state .viewAnyAccount .count
  | "save" => fileDialogue state .persistState "JSON file path: " .save
  | "load" => loadDialogue state "JSON file path: " .load
  | "save_sqlite" => fileDialogue state .persistState "SQLite file path: " .saveSqlite
  | "load_sqlite" => loadDialogue state "SQLite file path: " .loadSqlite
  | "export" => fileDialogue state .exportStatements "Statement file path: " .exportStatement
  | "exit" => done .exit
  | "" => done (.nothing [])
  | _ => done (.nothing ["Unknown command"])

/-- What a line at the menu starts, `exit` aside. -/
inductive Starts : Dialogue Order → Prop
  | bootstrapAdmin : Starts (bootstrapAdminDialogue state)
  | login : Starts loginDialogue
  | logout : Starts (done (.change .logout))
  | session : Starts (done (.view .session))
  | audit : Starts (viewDialogue state .manageIdentity .audit)
  | createCustomer : Starts (createCustomerDialogue state)
  | createUser : Starts (createUserDialogue state)
  | listCustomers : Starts (viewDialogue state .manageIdentity .listCustomers)
  | listUsers : Starts (viewDialogue state .manageIdentity .listUsers)
  | create : Starts (createDialogue state)
  | updateName : Starts (manageDialogue state fun id =>
      readText "New name: " fun name => done (.change (.updateName id name)))
  | updateEmail : Starts (manageDialogue state fun id =>
      readText "New email: " fun email => done (.change (.updateEmail id email)))
  | activate : Starts (manageDialogue state fun id => done (.change (.activate id)))
  | deactivate : Starts (manageDialogue state fun id => done (.change (.deactivate id)))
  | close : Starts (manageDialogue state fun id => done (.change (.close id)))
  | delete : Starts (manageDialogue state fun id => done (.change (.delete id)))
  | deposit : Starts (moneyDialogue state "Amount: " .deposit)
  | withdraw : Starts (moneyDialogue state "Amount: " .withdraw)
  | transfer : Starts (transferDialogue state)
  | fee : Starts (staffDialogue state "Fee amount: " .fee)
  | monthlyFee : Starts (monthlyFeeDialogue state)
  | interest : Starts (interestDialogue state)
  | loanRequest : Starts (staffDialogue state "Loan amount: " .loanRequest)
  | payLoan : Starts (moneyDialogue state "Payment amount: " .payLoan)
  | balance : Starts (accountViewDialogue state .balance)
  | info : Starts (accountViewDialogue state .info)
  | list : Starts (done (.view .list))
  | history : Starts (accountViewDialogue state .history)
  | totalBalance : Starts (viewDialogue state .viewAnyAccount .totalBalance)
  | richest : Starts (viewDialogue state .viewAnyAccount .richest)
  | emptyAccounts : Starts (viewDialogue state .viewAnyAccount .emptyAccounts)
  | count : Starts (viewDialogue state .viewAnyAccount .count)
  | save : Starts (fileDialogue state .persistState "JSON file path: " .save)
  | load : Starts (loadDialogue state "JSON file path: " .load)
  | saveSqlite : Starts (fileDialogue state .persistState "SQLite file path: " .saveSqlite)
  | loadSqlite : Starts (loadDialogue state "SQLite file path: " .loadSqlite)
  | exportStatement :
      Starts (fileDialogue state .exportStatements "Statement file path: " .exportStatement)
  | nothing (printed : List String) : Starts (done (.nothing printed))

theorem starts_dispatch {line : String} (h : line ≠ "exit") :
    Starts state (dispatch state line) := by
  unfold dispatch
  split <;> first | exact absurd rfl h | constructor

/-- One turn of the loop. -/
def mainMenu : Dialogue Order :=
  askFor "Enter command: " (fun line => .ok (Text.toLowercase line)) (dispatch state)

end Commands

/-! ## What is printed -/

/-- `map(..).unwrap_or("none")` on an id. -/
def orNone (id : Option UInt32) : String := (id.map toString).getD "none"

def customerLine (customer : Customer) : String :=
  "ID: " ++ toString customer.id ++ ", Name: " ++ customer.fullName ++ ", Email: "
    ++ customer.email

def userLine (user : User) : String :=
  "ID: " ++ toString user.id ++ ", Username: " ++ user.username ++ ", Role: "
    ++ user.role.display ++ ", Customer: " ++ orNone user.customerId

def transactionLine (transaction : Transaction) : String :=
  "- #" ++ toString transaction.id ++ " | " ++ toString transaction.occurredAtEpochSeconds
    ++ " | " ++ transaction.kind.display ++ " | Amount: " ++ transaction.amount.display ++ " | "
    ++ transaction.description

def auditLine (entry : AuditEntry) : String :=
  "#" ++ toString entry.id ++ " | " ++ toString entry.occurredAtEpochSeconds ++ " | "
    ++ entry.actor.display ++ " | " ++ entry.action.display ++ " | " ++ entry.outcome.display
    ++ " | " ++ entry.target.getD "none" ++ " | " ++ entry.message

/-- The lines of a list, or that there is nothing on it. -/
def linesOr (nothing : String) (lines : List String) : List String :=
  if lines.isEmpty then [nothing] else lines

def sessionSummary : Option Session → String
  | some session => "Logged in: " ++ session.username ++ " (" ++ session.role.display ++ ")"
  | none => "Logged in: no"

def sessionDetails : Option Session → String
  | some session =>
      "User: " ++ toString session.userId ++ " | Username: " ++ session.username ++ " | Role: "
        ++ session.role.display ++ " | Customer: " ++ orNone session.customerId
  | none => "No active session"

def accountStatement (account : Account) : List String :=
  [accountInfo account, "Transactions:"]
    ++ linesOr "No transactions found" (account.transactions.map transactionLine)

/-- Look an account up, and print what the lookup failed with. -/
def showAccount (bank : Bank) (id : AccountId) (context : String)
    (lines : Account → List String) : List String :=
  match bank.account id with
  | .ok account => lines account
  | .error e => [context ++ ": " ++ e.display]

def View.printed (state : CliState) : View → List String
  | session => [sessionDetails state.session]
  | audit => linesOr "No audit entries found" (state.app.auditLog.entries.map auditLine)
  | listCustomers =>
      linesOr "No customers found" (state.app.identities.customerList.map customerLine)
  | listUsers => linesOr "No users found" (state.app.identities.userList.map userLine)
  | balance id =>
      showAccount state.app.bank id "Balance lookup failed" fun account =>
        ["Balance: " ++ account.balance.display]
  | info id =>
      showAccount state.app.bank id "Account lookup failed" fun account => [accountInfo account]
  | list => (listAccounts state.app state.session).map Printed.text
  | history id => showAccount state.app.bank id "Statement failed" accountStatement
  | totalBalance =>
      match state.app.bank.totalBalance with
      | .ok total => ["Total balance: " ++ total.display]
      | .error e => ["Total balance failed: " ++ e.display]
  | richest =>
      match state.app.bank.richestAccount with
      | some account => ["Richest account: " ++ accountInfo account]
      | none => ["No accounts found"]
  | emptyAccounts =>
      linesOr "No empty accounts found" (state.app.bank.emptyAccounts.map accountInfo)
  | count => ["Account count: " ++ toString state.app.bank.accountCount]

end Banck.Cli
