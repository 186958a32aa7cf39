/-
Banck.Api.Confidentiality — which accounts a customer gets to see.

A response carries the data of accounts: bodies, and the list of an
account's transactions. `Confined` says that all of them are accounts of
the customer. Every handler checks the account it reads but one:
`transfer` answers with both accounts and has checked the payer only
(`PaysStranger`). `customer_sees_own_accounts_iff` is the exact condition
over runs: all answers to customers are confined if and only if no
customer's transfer to an account of another goes through.
-/
import Banck.Api.RoleIntegrity
import Banck.AuditTheorems

namespace Banck.Api

open Lib Mut Machine

/-! ## What a response carries -/

/-- The account bodies in a response. -/
def Response.accountBodies : Response → List AccountResponse
  | account body => [body]
  | accounts body => body
  | transfer body => [body.fromAccount, body.toAccount]
  | health _ | session _ | logout _ | customer _ | customers _ | user _ | users _
  | transactions _ | audit _ => []

/-- The bodies in the response are of accounts that the session owns, and
so is the account whose transactions it lists. -/
def Confined (session : Session) (request : Request) (bank : Bank) (response : Response) :
    Prop :=
  (∀ body ∈ response.accountBodies, ∃ account ∈ bank.accountList,
    session.Owns account ∧ body = .fromAccount account) ∧
  ∀ history, response = .transactions history →
    ∃ headers accountId query account,
      request = .listAccountTransactions headers accountId query ∧
      bank.accounts[accountId]? = some account ∧ session.Owns account ∧
      ∀ t ∈ history, t ∈ account.transactions.map TransactionResponse.fromTransaction

/-- One request and what its run takes from outside. -/
abbrev Input : Type := Env × Request

/-- A server that answers one request after the other. -/
def serve (argon2 : Argon2) (state : ApiState) (input : Input) :
    Except Halt Response × ApiState :=
  handle argon2 input.1 input.2 state

/-- If the request is made with a customer's session, a response with a
status of success is confined. -/
def Discreet (argon2 : Argon2) (state : ApiState) (input : Input) : Prop :=
  ∀ session response, state.session? input.1 input.2 = some session →
    session.role = .customer → (serve argon2 state input).1 = .ok response →
    Confined session input.2 (serve argon2 state input).2.app.bank response

/-! ## The transfer that leaks -/

/-- The bank would carry out the transfer: both accounts are active, the
amount is positive and covered, the sum fits, and ids are left. -/
structure TransferGoesThrough (app : AppState) (payload : TransferRequest)
    (payer payee : Account) : Prop where
  payerFound : app.bank.accounts[payload.fromAccountId]? = some payer
  payeeFound : app.bank.accounts[payload.toAccountId]? = some payee
  apart : payload.fromAccountId ≠ payload.toAccountId
  payerActive : payer.status = .active
  payeeActive : payee.status = .active
  positive : 0 < payload.amountCents.val
  covered : payload.amountCents.val ≤ payer.balance.cents
  fits : payee.balance.cents + payload.amountCents.val ≤ i64Max
  transactionIds : app.bank.nextTransactionId + 1 < u64Max
  auditIds : app.auditLog.nextId < u64Max

/-- A customer's transfer to an account of somebody else, or of nobody,
that the bank would carry out. -/
def PaysStranger (state : ApiState) (input : Input) : Prop :=
  ∃ session headers payload payer payee,
    input.2 = .transfer headers payload ∧ state.session? input.1 input.2 = some session ∧
    session.role = .customer ∧ session.Owns payer ∧ ¬ session.Owns payee ∧
    TransferGoesThrough state.app payload payer payee

/-! ## Answers of a handler -/

section Answers

variable {headers : HeaderMap} {env : Env} {state : ApiState} {app app' : AppState}
  {bank' : Bank}

/-- A handler with a session answers what its second part returns. -/
theorem authenticated_ok_iff {α : Type} {m : Session → AppM α} {a : α} :
    (authenticated headers env m state).1 = .ok a ∧
        (authenticated headers env m state).2.app = app' ↔
      ∃ session, (authenticateRequest headers env.authenticatedAt state).1.toOption =
        some session ∧ m session state.app = (.ok a, app') := by
  have happ := authenticateRequest_app headers env.authenticatedAt state
  rw [authenticated, bind_run, ← happ]
  generalize authenticateRequest headers env.authenticatedAt state = answer
  rcases answer with ⟨e | session, mid⟩
  · simp [Except.toOption]
  · have hrun := lockApp_run (m session) mid
    rcases hm : m session mid.app with ⟨e | b, app''⟩
    · simp [hrun, hm, Except.toOption, Except.mapError]
    · simp [hrun, hm, Except.toOption, Except.mapError]

theorem authenticated_bank_iff {α : Type} {m : Session → AppM α} {a : α} :
    (authenticated headers env m state).1 = .ok a ∧
        (authenticated headers env m state).2.app.bank = bank' ↔
      ∃ session, (authenticateRequest headers env.authenticatedAt state).1.toOption =
        some session ∧ ∃ app', m session state.app = (.ok a, app') ∧ app'.bank = bank' := by
  constructor
  · intro h
    obtain ⟨session, hsession, hbody⟩ := authenticated_ok_iff.mp ⟨h.1, rfl⟩
    exact ⟨session, hsession, _, hbody, h.2⟩
  · intro h
    obtain ⟨session, hsession, app', hbody, rfl⟩ := h
    have hrun := authenticated_ok_iff.mpr ⟨session, hsession, hbody⟩
    exact ⟨hrun.1, congrArg AppState.bank hrun.2⟩

theorem onBank_ok_iff {α : Type} {m : BankM α} {a : α} :
    onBank m app = (.ok a, app') ↔
      ∃ bank', m app.bank = (.ok a, bank') ∧ app' = { app with bank := bank' } :=
  zoom_ok_iff

theorem recordSuccess_ok_iff {session : Session} {action : AuditAction}
    {target : Option String} {message : String} {u : Unit} :
    recordSuccess session action target message env app = (.ok u, app') ↔
      app.auditLog.nextId < u64Max ∧
        app' = { app with auditLog := (AuditLog.record (.fromSession session) action .success
          target message env.auditedAt app.auditLog).2 } := by
  unfold recordSuccess recordAudit
  rw [map_ok_iff]
  constructor
  · rintro ⟨entry, h, -⟩
    obtain ⟨log', hrecord, rfl⟩ := zoom_ok_iff.mp h
    rw [hrecord]
    exact ⟨(AuditLog.record_ok_iff.mp hrecord).1, rfl⟩
  · rintro ⟨hid, rfl⟩
    have hrecord := AuditLog.record_ok_iff.mpr (And.intro hid (And.intro
      (Eq.refl (AuditEntry.mk app.auditLog.nextId env.auditedAt (.fromSession session) action
        .success target message)) rfl))
    exact ⟨_, zoom_ok_iff.mpr ⟨_, hrecord, by rw [hrecord]⟩, rfl⟩

/-- What a money handler answers: the account after the operation. -/
theorem operateOnAccount_ok {accountId : AccountId} {amountCents : I64}
    {action : AuditAction} {message : String}
    {allowed : AppState → Session → Except ApiError Unit} {operation : Money → BankM Unit}
    {body : AccountResponse} (h : (operateOnAccount headers env accountId amountCents action
      message allowed operation state).1 = .ok body) :
    ∃ session bank' account,
      (authenticateRequest headers env.authenticatedAt state).1.toOption = some session ∧
      allowed state.app session = .ok () ∧
      operation (.fromCents amountCents) state.app.bank = (.ok (), bank') ∧
      bank'.accounts[accountId]? = some account ∧ body = .fromAccount account ∧
      (operateOnAccount headers env accountId amountCents action message allowed operation
        state).2.app.bank = bank' := by
  obtain ⟨session, hsession, hbody⟩ := authenticated_ok_iff.mp ⟨h, rfl⟩
  simp only [bind_ok_iff, get_ok_iff, lift_ok_iff, moneyFromCents_ok_iff, onBank_ok_iff,
    Bank.readAccount_ok_iff, recordSuccess_ok_iff, pure_ok_iff] at hbody
  obtain ⟨_, _, ⟨rfl, rfl⟩, _, _, ⟨hallowed, rfl⟩, _, _, ⟨⟨-, rfl⟩, rfl⟩, _, _,
    ⟨bank', hop, rfl⟩, account, _, ⟨_, ⟨hfound, rfl⟩, rfl⟩, _, _, ⟨-, rfl⟩, rfl, happ⟩ := hbody
  exact ⟨session, _, account, hsession, hallowed, hop, hfound, rfl,
    congrArg AppState.bank happ⟩

theorem getAccount_ok {accountId : AccountId} {body : AccountResponse}
    (h : (getAccount headers env accountId state).1 = .ok body) :
    ∃ session account,
      (authenticateRequest headers env.authenticatedAt state).1.toOption = some session ∧
      ensureAccountView state.app session accountId = .ok () ∧
      state.app.bank.accounts[accountId]? = some account ∧ body = .fromAccount account ∧
      (getAccount headers env accountId state).2.app = state.app := by
  obtain ⟨session, hsession, hbody⟩ := authenticated_ok_iff.mp ⟨h, rfl⟩
  simp only [bind_ok_iff, get_ok_iff, lift_ok_iff, onBank_ok_iff, Bank.readAccount_ok_iff,
    pure_ok_iff] at hbody
  obtain ⟨_, _, ⟨rfl, rfl⟩, _, _, ⟨hview, rfl⟩, account, _, ⟨_, ⟨hfound, rfl⟩, rfl⟩, rfl, happ⟩ :=
    hbody
  exact ⟨session, account, hsession, hview, hfound, rfl, happ⟩

theorem createAccount_ok {payload : CreateAccountRequest} {body : AccountResponse}
    (h : (createAccount headers env payload state).1 = .ok body) :
    ∃ session, (authenticateRequest headers env.authenticatedAt state).1.toOption = some session ∧
      session.can .manageAccounts = true := by
  obtain ⟨session, hsession, hbody⟩ := authenticated_ok_iff.mp ⟨h, rfl⟩
  obtain ⟨u, _, hauth, -⟩ := bind_ok_iff.mp hbody
  exact ⟨session, hsession, authorize_ok_iff.mp (lift_ok_iff.mp hauth).1⟩

theorem listAccounts_ok {bodies : List AccountResponse}
    (h : (listAccounts headers env state).1 = .ok bodies) :
    ∃ session, (authenticateRequest headers env.authenticatedAt state).1.toOption = some session ∧
      visibleAccounts state.app session = .ok bodies ∧
      (listAccounts headers env state).2.app = state.app := by
  obtain ⟨session, hsession, hbody⟩ := authenticated_ok_iff.mp ⟨h, rfl⟩
  simp only [bind_ok_iff, get_ok_iff, lift_ok_iff] at hbody
  obtain ⟨_, _, ⟨rfl, rfl⟩, hvisible, happ⟩ := hbody
  exact ⟨session, hsession, hvisible, happ⟩

theorem mem_ordered {α : Type} {items : List α} {order : QueryOrder} {a : α} :
    a ∈ ordered items order ↔ a ∈ items := by
  unfold ordered
  split <;> simp

theorem listAccountTransactions_ok {accountId : AccountId} {query : TransactionQuery}
    {history : List TransactionResponse}
    (h : (listAccountTransactions headers env accountId query state).1 = .ok history) :
    ∃ session account,
      (authenticateRequest headers env.authenticatedAt state).1.toOption = some session ∧
      ensureAccountView state.app session accountId = .ok () ∧
      state.app.bank.accounts[accountId]? = some account ∧
      (∀ t ∈ history, t ∈ account.transactions.map TransactionResponse.fromTransaction) ∧
      (listAccountTransactions headers env accountId query state).2.app = state.app := by
  obtain ⟨session, hsession, hbody⟩ := authenticated_ok_iff.mp ⟨h, rfl⟩
  simp only [bind_ok_iff, get_ok_iff, lift_ok_iff, onBank_ok_iff, Bank.readAccount_ok_iff,
    pure_ok_iff] at hbody
  obtain ⟨_, _, ⟨rfl, rfl⟩, _, _, ⟨hview, rfl⟩, limit, _, ⟨-, rfl⟩, _, _, ⟨-, rfl⟩, account, _,
    ⟨_, ⟨hfound, rfl⟩, rfl⟩, rfl, happ⟩ := hbody
  refine ⟨session, account, hsession, hview, hfound, fun t ht => ?_, happ⟩
  obtain ⟨transaction, hmem, rfl⟩ := List.mem_map.mp ht
  have hlisted := List.mem_of_mem_filter (mem_ordered.mp (List.mem_of_mem_take hmem))
  exact List.mem_map.mpr ⟨transaction, hlisted, rfl⟩

/-- A transfer leaves both accounts with their owners. -/
theorem transfer_accounts {fromId toId : AccountId} {amount : Money} {nowOut nowIn : Nat}
    {bank bank' : Bank} {u : Unit}
    (h : Bank.transfer fromId toId amount nowOut nowIn bank = (.ok u, bank')) :
    ∃ payer payee fromAccount toAccount,
      bank.accounts[fromId]? = some payer ∧ bank.accounts[toId]? = some payee ∧
      bank'.accounts[fromId]? = some fromAccount ∧ bank'.accounts[toId]? = some toAccount ∧
      fromAccount.ownerId = payer.ownerId ∧ toAccount.ownerId = payee.ownerId := by
  obtain ⟨-, hne, -, payer, payee, fromBalance, toBalance, hpayer, -, hpayee, -, -, -, -, rfl⟩ :=
    Bank.transfer_ok_iff.mp h
  exact ⟨payer, payee, _, _, hpayer, hpayee,
    (OrdMap.get_insert_ne _ _ hne).trans (OrdMap.get_insert_self _ _ _),
    OrdMap.get_insert_self _ _ _, rfl, rfl⟩

/-- When the bank carries out a transfer and the record of it succeeds. -/
theorem goesThrough_iff {payload : TransferRequest} {payer payee : Account}
    {nowOut nowIn : Nat} (hpayer : app.bank.accounts[payload.fromAccountId]? = some payer)
    (hpayee : app.bank.accounts[payload.toAccountId]? = some payee) :
    TransferGoesThrough app payload payer payee ↔
      (∃ bank', Bank.transfer payload.fromAccountId payload.toAccountId
        (.fromCents payload.amountCents) nowOut nowIn app.bank = (.ok (), bank')) ∧
        app.auditLog.nextId < u64Max := by
  constructor
  · intro h
    have hlow := payer.balance.inRange
    have hlow' := payee.balance.inRange
    have hpos := h.positive
    have hcovered := h.covered
    have hfits := h.fits
    refine ⟨⟨_, Bank.transfer_ok_iff.mpr ⟨h.positive, h.apart, h.transactionIds, payer, payee,
      ⟨payer.balance.cents - payload.amountCents.val, ?_⟩,
      ⟨payee.balance.cents + payload.amountCents.val, ?_⟩, hpayer, h.payerActive, hpayee,
      h.payeeActive, h.covered, rfl, rfl, rfl⟩⟩, h.auditIds⟩
    · simp only [i64Min, i64Max] at *; omega
    · simp only [i64Min, i64Max] at *; omega
  · intro h
    obtain ⟨⟨bank', hrun⟩, haudit⟩ := h
    obtain ⟨hpos, hne, hids, payer', payee', fromBalance, toBalance, hpayer', hactFrom, hpayee',
      hactTo, hle, -, hsum, -⟩ := Bank.transfer_ok_iff.mp hrun
    obtain rfl := Option.some.inj (hpayer.symm.trans hpayer')
    obtain rfl := Option.some.inj (hpayee.symm.trans hpayee')
    have hrange := toBalance.inRange.2
    rw [hsum] at hrange
    exact ⟨hpayer, hpayee, hne, hactFrom, hactTo, hpos, hle, hrange, hids, haudit⟩

/-- A transfer answers exactly when the session may and it goes through,
and then with both accounts after it. -/
theorem transfer_ok_iff {payload : TransferRequest} {body : TransferResponse} :
    (transfer headers env payload state).1 = .ok body ∧
        (transfer headers env payload state).2.app.bank = bank' ↔
      ∃ session fromAccount toAccount,
        (authenticateRequest headers env.authenticatedAt state).1.toOption = some session ∧
        session.MovesMoneyOf state.app.bank payload.fromAccountId ∧
        Bank.transfer payload.fromAccountId payload.toAccountId (.fromCents payload.amountCents)
          env.postedAt env.postedNextAt state.app.bank = (.ok (), bank') ∧
        state.app.auditLog.nextId < u64Max ∧
        bank'.accounts[payload.fromAccountId]? = some fromAccount ∧
        bank'.accounts[payload.toAccountId]? = some toAccount ∧
        body = ⟨.fromAccount fromAccount, .fromAccount toAccount⟩ := by
  refine authenticated_bank_iff.trans (exists_congr fun session => ?_)
  simp only [bind_ok_iff, get_ok_iff, lift_ok_iff, moneyFromCents_ok_iff, onBank_ok_iff,
    Bank.readAccount_ok_iff, recordSuccess_ok_iff, pure_ok_iff, ensureAccountMoneyAccess_ok_iff]
  constructor
  · intro h
    obtain ⟨hsession, _, ⟨_, _, ⟨rfl, rfl⟩, _, _, ⟨hmay, rfl⟩, _, _, ⟨⟨-, rfl⟩, rfl⟩, _, _,
      ⟨_, hop, rfl⟩, fromAccount, _, ⟨_, ⟨hfrom, rfl⟩, rfl⟩, toAccount, _,
      ⟨_, ⟨hto, rfl⟩, rfl⟩, _, _, ⟨haudit, rfl⟩, rfl, rfl⟩, rfl⟩ := h
    exact ⟨fromAccount, toAccount, hsession, hmay, hop, haudit, hfrom, hto, rfl⟩
  · intro h
    obtain ⟨fromAccount, toAccount, hsession, hmay, hop, haudit, hfrom, hto, rfl⟩ := h
    have hpos := (Bank.transfer_ok_iff.mp hop).1
    exact ⟨hsession, _, ⟨_, _, ⟨rfl, rfl⟩, (), _, ⟨hmay, rfl⟩, _, _, ⟨⟨hpos, rfl⟩, rfl⟩, (), _,
      ⟨_, hop, rfl⟩, fromAccount, _, ⟨_, ⟨hfrom, rfl⟩, rfl⟩, toAccount, _,
      ⟨_, ⟨hto, rfl⟩, rfl⟩, (), _, ⟨haudit, rfl⟩, rfl, rfl⟩, rfl⟩

end Answers

/-! ## Handlers that check what they read -/

section Customer

variable {session : Session} {request : Request} {headers : HeaderMap} {env : Env}
  {state : ApiState} {bank : Bank}

/-- What a customer may not do. -/
theorem customer_cannot (hrole : session.role = .customer) :
    session.can .manageAccounts = false ∧ session.can .moveMoney = false ∧
      session.can .viewAnyAccount = false := by
  simp [Session.can, hrole, Role.can]

theorem Session.Owns.congr {account account' : Account} (h : session.Owns account)
    (howner : account'.ownerId = account.ownerId) : session.Owns account' := by
  obtain ⟨customerId, hsession, hc⟩ := h
  exact ⟨customerId, hsession, howner.trans hc⟩

/-- A response without account data is confined. -/
theorem confined_of_no_accounts {response : Response} (hbodies : response.accountBodies = [])
    (hhistory : ∀ history, response ≠ .transactions history) :
    Confined session request bank response :=
  ⟨by simp [hbodies], fun history h => absurd h (hhistory history)⟩

theorem confined_account {account : Account} {id : AccountId}
    (hfound : bank.accounts[id]? = some account) (howns : session.Owns account) :
    Confined session request bank (.account (.fromAccount account)) := by
  refine ⟨fun body hbody => ?_, fun history h => by cases h⟩
  obtain rfl := List.mem_singleton.mp hbody
  exact ⟨account, OrdMap.mem_vals.mpr ⟨id, hfound⟩, howns, rfl⟩

/-- The operation leaves the account with its owner. -/
def KeepsOwner (id : AccountId) (operation : BankM Unit) : Prop :=
  ∀ bank bank' account', operation bank = (.ok (), bank') →
    bank'.accounts[id]? = some account' →
    ∃ account, bank.accounts[id]? = some account ∧ account'.ownerId = account.ownerId

theorem keepsOwner_post {id : AccountId} {before after account' : Account} {t : Transaction}
    (hfound : bank.accounts[id]? = some before)
    (h : (bank.post id after t).accounts[id]? = some account')
    (howner : after.ownerId = before.ownerId) :
    ∃ account, bank.accounts[id]? = some account ∧ account'.ownerId = account.ownerId := by
  rw [Bank.post_accounts, OrdMap.get_insert_self, Option.some.injEq] at h
  exact ⟨before, hfound, by rw [← h]; exact howner⟩

theorem deposit_keepsOwner (id : AccountId) (amount : Money) (now : Nat) :
    KeepsOwner id (Bank.deposit id amount now) := by
  intro bank bank' account' h hfound'
  obtain ⟨-, -, account, balance, hfound, -, -, rfl⟩ := Bank.deposit_ok_iff.mp h
  exact keepsOwner_post hfound hfound' rfl

theorem withdraw_keepsOwner (id : AccountId) (amount : Money) (now : Nat) :
    KeepsOwner id (Bank.withdraw id amount now) := by
  intro bank bank' account' h hfound'
  obtain ⟨-, -, account, balance, hfound, -, -, -, rfl⟩ := Bank.withdraw_ok_iff.mp h
  exact keepsOwner_post hfound hfound' rfl

theorem applyFee_keepsOwner (id : AccountId) (amount : Money) (now : Nat) :
    KeepsOwner id (Bank.applyFee id amount now) := by
  intro bank bank' account' h hfound'
  obtain ⟨-, -, account, balance, hfound, -, -, -, rfl⟩ := Bank.applyFee_ok_iff.mp h
  exact keepsOwner_post hfound hfound' rfl

theorem requestLoan_keepsOwner (id : AccountId) (amount : Money) (now : Nat) :
    KeepsOwner id (Bank.requestLoan id amount now) := by
  intro bank bank' account' h hfound'
  obtain ⟨-, -, account, balance, loanBalance, hfound, -, -, -, rfl⟩ :=
    Bank.requestLoan_ok_iff.mp h
  exact keepsOwner_post hfound hfound' rfl

theorem payLoan_keepsOwner (id : AccountId) (amount : Money) (now : Nat) :
    KeepsOwner id (Mut.map (fun _ => ()) (Bank.payLoan id amount now)) := by
  intro bank bank' account' h hfound'
  obtain ⟨paid, h, -⟩ := map_ok_iff.mp h
  obtain ⟨-, -, account, balance, loanBalance, hfound, -, -, -, -, -, -, rfl⟩ :=
    Bank.payLoan_ok_iff.mp h
  exact keepsOwner_post hfound hfound' rfl

/-- A money handler that checks the account answers with an account of the
customer. -/
theorem confined_operation (hsession : state.session? env request = some session)
    (hrole : session.role = .customer) (hheaders : request.headers = some headers)
    {accountId : AccountId} {amountCents : I64} {action : AuditAction} {message : String}
    {allowed : AppState → Session → Except ApiError Unit} {operation : Money → BankM Unit}
    {body : AccountResponse}
    (hallowed : ∀ app session, allowed app session = .ok () →
      session.MovesMoneyOf app.bank accountId)
    (hkeeps : ∀ amount, KeepsOwner accountId (operation amount))
    (h : (operateOnAccount headers env accountId amountCents action message allowed operation
      state).1 = .ok body) :
    Confined session request (operateOnAccount headers env accountId amountCents action message
      allowed operation state).2.app.bank (.account body) := by
  obtain ⟨s, bank', account', hs, hallow, hop, hfound', rfl, hbank⟩ := operateOnAccount_ok h
  rw [ApiState.session?, hheaders] at hsession
  obtain rfl := Option.some.inj (hsession.symm.trans hs)
  rw [hbank]
  rcases hallowed _ _ hallow with hany | ⟨-, account, hfound, howns⟩
  · rw [(customer_cannot hrole).2.1] at hany; cases hany
  · obtain ⟨before, hbefore, howner⟩ := hkeeps _ _ _ _ hop hfound'
    obtain rfl := Option.some.inj (hfound.symm.trans hbefore)
    exact confined_account hfound' (Session.Owns.congr howns howner)

/-- What a customer may view they own. -/
theorem owns_of_view (hrole : session.role = .customer) {app : AppState} {id : AccountId}
    {account : Account} (h : ensureAccountView app session id = .ok ())
    (hfound : app.bank.accounts[id]? = some account) : session.Owns account := by
  rcases ensureAccountAccess_ok_iff.mp h with hany | ⟨-, again, hagain, howns⟩
  · rw [(customer_cannot hrole).2.2] at hany; cases hany
  · obtain rfl := Option.some.inj (hfound.symm.trans hagain)
    exact howns

theorem visible_owned (hrole : session.role = .customer) {app : AppState}
    {bodies : List AccountResponse} (h : visibleAccounts app session = .ok bodies) :
    ∀ body ∈ bodies, ∃ account ∈ app.bank.accountList,
      session.Owns account ∧ body = .fromAccount account := by
  unfold visibleAccounts at h
  rw [if_neg (by simp [(customer_cannot hrole).2.2])] at h
  cases hauth : authorize session .viewOwnAccount with
  | error e => rw [hauth] at h; cases h
  | ok u =>
    rw [hauth] at h
    obtain rfl := Except.ok.inj h
    intro body hbody
    obtain ⟨account, hmem, rfl⟩ := List.mem_map.mp hbody
    obtain ⟨hlisted, howned⟩ := List.mem_filter.mp hmem
    exact ⟨account, hlisted, isOwnedBy_iff.mp (of_decide_eq_true howned), rfl⟩

/-- A transfer that goes through to an account of the customer's own. -/
theorem confined_transfer (hsession : state.session? env request = some session)
    (hrole : session.role = .customer) {payload : TransferRequest} {body : TransferResponse}
    (hrequest : request = .transfer headers payload)
    (hpays : ¬ PaysStranger state (env, request))
    (h : (transfer headers env payload state).1 = .ok body) :
    Confined session request (transfer headers env payload state).2.app.bank
      (.transfer body) := by
  obtain ⟨s, fromAccount, toAccount, hs, hmoves, hop, haudit, hfrom, hto, rfl⟩ :=
    transfer_ok_iff.mp ⟨h, rfl⟩
  have hsession' := hsession
  rw [hrequest] at hsession'
  obtain rfl := Option.some.inj (hsession'.symm.trans hs)
  rcases hmoves with hany | ⟨-, account, hfound, howns⟩
  · rw [(customer_cannot hrole).2.1] at hany; cases hany
  obtain ⟨payer, payee, from', to', hpayer, hpayee, hfrom', hto', hfromOwner, htoOwner⟩ :=
    transfer_accounts hop
  obtain rfl := Option.some.inj (hfound.symm.trans hpayer)
  obtain rfl := Option.some.inj (hfrom.symm.trans hfrom')
  obtain rfl := Option.some.inj (hto.symm.trans hto')
  have hpayeeOwned : session.Owns payee := by
    by_contra hnot
    exact hpays ⟨session, headers, payload, account, payee, hrequest, hsession, hrole, howns,
      hnot, (goesThrough_iff hfound hpayee).mpr ⟨⟨_, hop⟩, haudit⟩⟩
  refine ⟨fun body hbody => ?_, fun history h => by cases h⟩
  rcases List.mem_cons.mp hbody with rfl | hbody
  · exact ⟨fromAccount, OrdMap.mem_vals.mpr ⟨_, hfrom⟩, Session.Owns.congr howns hfromOwner, rfl⟩
  · obtain rfl := List.mem_singleton.mp hbody
    exact ⟨toAccount, OrdMap.mem_vals.mpr ⟨_, hto⟩, Session.Owns.congr hpayeeOwned htoOwner, rfl⟩

end Customer

/-! ## The theorem -/

section Theorem

variable {argon2 : Argon2} {state : ApiState}

/-- A transfer to a stranger shows the stranger's account. -/
theorem leaks_of_paysStranger {input : Input} (h : PaysStranger state input) :
    ¬ Discreet argon2 state input := by
  obtain ⟨env, request⟩ := input
  obtain ⟨session, headers, payload, payer, payee, hrequest, hsession, hrole, howns, hnot,
    hgoes⟩ := h
  obtain rfl : request = _ := hrequest
  intro hdiscreet
  have hpayer := hgoes.payerFound
  obtain ⟨⟨bank', hop⟩, haudit⟩ := (@goesThrough_iff state.app payload payer payee env.postedAt
    env.postedNextAt hpayer hgoes.payeeFound).mp hgoes
  obtain ⟨payer', payee', fromAccount, toAccount, hpayer', hpayee', hfrom, hto, -, htoOwner⟩ :=
    transfer_accounts hop
  obtain rfl := Option.some.inj (hgoes.payeeFound.symm.trans hpayee')
  have hcan : session.can .moveOwnMoney = true := by simp [Session.can, hrole, Role.can]
  have hanswer := transfer_ok_iff.mpr ⟨session, fromAccount, toAccount, hsession,
    .inr ⟨hcan, payer, hpayer, howns⟩, hop, haudit, hfrom, hto, rfl⟩
  have hserve : (serve argon2 state (env, .transfer headers payload)).1 =
      .ok (.transfer ⟨.fromAccount fromAccount, .fromAccount toAccount⟩) := by
    rw [serve, handle, map_run, hanswer.1]
    rfl
  obtain ⟨account, -, hown, hbody⟩ := (hdiscreet session _ hsession hrole hserve).1
    (.fromAccount toAccount) (by simp [Response.accountBodies])
  have howner : toAccount.ownerId = account.ownerId := congrArg AccountResponse.ownerId hbody
  exact hnot (Session.Owns.congr hown (htoOwner.symm.trans howner))

theorem mapped_ok {α : Type} {f : α → Response} {m : HandlerM α} {response : Response}
    (h : (Mut.map f m state).1 = .ok response) :
    ∃ a, (m state).1 = .ok a ∧ response = f a ∧
      (Mut.map f m state).2.app.bank = (m state).2.app.bank := by
  rw [map_run] at h ⊢
  cases hm : (m state).1 with
  | error e => rw [hm] at h; cases h
  | ok a =>
    rw [hm] at h
    exact ⟨a, rfl, (Except.ok.inj h).symm, rfl⟩

/-- Every other request is discreet. -/
theorem discreet_of_not_paysStranger {input : Input} (hpays : ¬ PaysStranger state input) :
    Discreet argon2 state input := by
  obtain ⟨env, request⟩ := input
  intro session response hsession hrole hok
  simp only [serve] at hok hsession ⊢
  cases request with
  | health | bootstrapAdmin | login => cases hsession
  | logout | createCustomer | listAudit | listCustomers | createUser | listUsers =>
    obtain ⟨body, -, rfl, -⟩ := mapped_ok hok
    exact confined_of_no_accounts rfl (by simp)
  | createAccount headers payload =>
    obtain ⟨body, hbody, -, -⟩ := mapped_ok hok
    obtain ⟨s, hs, hcan⟩ := createAccount_ok hbody
    obtain rfl := Option.some.inj (hsession.symm.trans hs)
    rw [(customer_cannot hrole).1] at hcan; cases hcan
  | listAccounts headers =>
    obtain ⟨bodies, hbodies, rfl, hbank⟩ := mapped_ok hok
    obtain ⟨s, hs, hvisible, happ⟩ := listAccounts_ok hbodies
    obtain rfl := Option.some.inj (hsession.symm.trans hs)
    rw [handle, hbank, happ]
    exact ⟨visible_owned hrole hvisible, fun history h => by cases h⟩
  | getAccount headers accountId =>
    obtain ⟨body, hbody, rfl, hbank⟩ := mapped_ok hok
    obtain ⟨s, account, hs, hview, hfound, rfl, happ⟩ := getAccount_ok hbody
    obtain rfl := Option.some.inj (hsession.symm.trans hs)
    rw [handle, hbank, happ]
    exact confined_account hfound (owns_of_view hrole hview hfound)
  | listAccountTransactions headers accountId query =>
    obtain ⟨history, hhistory, rfl, hbank⟩ := mapped_ok hok
    obtain ⟨s, account, hs, hview, hfound, hmem, happ⟩ := listAccountTransactions_ok hhistory
    obtain rfl := Option.some.inj (hsession.symm.trans hs)
    rw [handle, hbank, happ]
    refine ⟨by simp [Response.accountBodies], fun again h => ?_⟩
    obtain rfl := Response.transactions.inj h
    exact ⟨headers, accountId, query, account, rfl, hfound, owns_of_view hrole hview hfound, hmem⟩
  | deposit headers accountId payload =>
    obtain ⟨body, hbody, rfl, hbank⟩ := mapped_ok hok
    rw [handle, hbank]
    exact confined_operation hsession hrole rfl
      (fun _ _ => ensureAccountMoneyAccess_ok_iff.mp)
      (fun _ => deposit_keepsOwner _ _ _) hbody
  | withdraw headers accountId payload =>
    obtain ⟨body, hbody, rfl, hbank⟩ := mapped_ok hok
    rw [handle, hbank]
    exact confined_operation hsession hrole rfl
      (fun _ _ => ensureAccountMoneyAccess_ok_iff.mp)
      (fun _ => withdraw_keepsOwner _ _ _) hbody
  | applyFee headers accountId payload =>
    obtain ⟨body, hbody, rfl, hbank⟩ := mapped_ok hok
    rw [handle, hbank]
    exact confined_operation hsession hrole rfl
      (fun _ _ h => .inl (authorize_ok_iff.mp h)) (fun _ => applyFee_keepsOwner _ _ _) hbody
  | requestLoan headers accountId payload =>
    obtain ⟨body, hbody, rfl, hbank⟩ := mapped_ok hok
    rw [handle, hbank]
    exact confined_operation hsession hrole rfl
      (fun _ _ h => .inl (authorize_ok_iff.mp h)) (fun _ => requestLoan_keepsOwner _ _ _) hbody
  | payLoan headers accountId payload =>
    obtain ⟨body, hbody, rfl, hbank⟩ := mapped_ok hok
    rw [handle, hbank]
    exact confined_operation hsession hrole rfl
      (fun _ _ => ensureAccountMoneyAccess_ok_iff.mp)
      (fun _ => payLoan_keepsOwner _ _ _) hbody
  | transfer headers payload =>
    obtain ⟨body, hbody, rfl, hbank⟩ := mapped_ok hok
    rw [handle, hbank]
    exact confined_transfer hsession hrole rfl hpays hbody

/-- In every run, all answers to customers are confined to their own
accounts exactly when no request of the run is a customer's transfer, to
an account that is not the customer's, that goes through. -/
theorem customer_sees_own_accounts_iff (argon2 : Argon2) (state : ApiState)
    (inputs : List Input) :
    Guarded (serve argon2) (Discreet argon2) state inputs ↔
      Guarded (serve argon2) (fun state input => ¬ PaysStranger state input) state inputs :=
  guarded_congr _ (fun _ _ => ⟨fun h hpays => leaks_of_paysStranger hpays h,
    discreet_of_not_paysStranger⟩) inputs state

/-- A customer pays half a unit to an account that nobody owns, and is shown
its name and its balance. -/
theorem transfer_shows_payee :
    let bank := BankCall.final Bank.new
      [.call (.createAccount 1 (some 7) "A" "a@b" ⟨100, by decide⟩ 0),
       .call (.createAccount 2 none "B" "b@b" ⟨1000, by decide⟩ 0)]
    let session : Session := ⟨3, "ann", .customer, some 7⟩
    let sessions : ApiSessionStore :=
      ⟨(∅ : OrdMap String StoredApiSession).insert "t" ⟨session, 900⟩⟩
    let state : ApiState := ⟨⟨bank, .new, .new⟩, sessions, .new⟩
    let request : Request := .transfer ⟨some (.text "Bearer t")⟩ ⟨1, 2, ⟨50, by decide⟩⟩
    let argon2 : Argon2 := ⟨fun salt _ => .ok salt, fun _ => .ok (), fun _ _ => false⟩
    let env : Env := ⟨5, 5, 5, 5, 5, 5, "salt", ["u"]⟩
    ((serve argon2 state (env, request)).1.toOption.map fun response =>
      response.accountBodies.map fun body =>
        (body.ownerId, body.name, body.balanceCents)) =
      some [(some 7, "A", 50), (none, "B", 1050)] ∧
    ¬ Guarded (serve argon2) (Discreet argon2) state [(env, request)] := by
  refine ⟨by decide +kernel, fun h => leaks_of_paysStranger ?_ h.1⟩
  let opened (n : Nat) (amount : Money) : Transaction :=
    ⟨n, 0, .accountCreated, amount, "Account created"⟩
  refine ⟨⟨3, "ann", .customer, some 7⟩, _, _,
    ⟨1, some 7, "A", "a@b", ⟨100, by decide⟩, Money.zero, .active, [opened 1 ⟨100, by decide⟩]⟩,
    ⟨2, none, "B", "b@b", ⟨1000, by decide⟩, Money.zero, .active,
      [opened 2 ⟨1000, by decide⟩]⟩, rfl, by decide +kernel, rfl, ⟨7, rfl, rfl⟩, ?_, ?_⟩
  · intro howns
    obtain ⟨customerId, -, howner⟩ := howns
    cases howner
  · constructor <;> decide +kernel

end Theorem

end Banck.Api
