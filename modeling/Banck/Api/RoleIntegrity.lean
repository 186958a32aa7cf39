/-
Banck.Api.RoleIntegrity — what a session of each role can change
(`role_integrity`).

Everything a request does is one permitted call and records
(`handle_serves`). So the theorem needs, for each role, the calls that role
permits: for a customer the four that move money of an account they own.
`AccountFrame` is what any of the four leaves of an account
(`call_frame`).
-/
import Banck.Api.HandlerMoves
import Banck.BankRuns

namespace Banck.Api

open Lib Mut

/-! ## What a customer leaves of an account -/

/-- The request is a transfer to the account from one that the customer
owns, and the account got the amount and one entry for it. -/
def Receives (customerId : CustomerId) (request : Request) (before : Bank) (id : AccountId)
    (old new : Account) : Prop :=
  ∃ headers payload payer balance transaction,
    request = .transfer headers payload ∧ payload.toAccountId = id ∧
    before.accounts[payload.fromAccountId]? = some payer ∧
    payer.ownerId = some customerId ∧
    transaction.kind = .transferIn ∧ transaction.amount.cents = payload.amountCents.val ∧
    balance.cents = old.balance.cents + payload.amountCents.val ∧
    new = { old with balance, transactions := old.transactions ++ [transaction] }

/-- What a request of the customer may leave of an account. -/
structure AccountFrame (customerId : CustomerId) (request : Request) (before : Bank)
    (id : AccountId) (old new : Account) : Prop where
  ownerId : new.ownerId = old.ownerId
  name : new.name = old.name
  email : new.email = old.email
  status : new.status = old.status
  loanBalance : new.loanBalance.cents ≤ old.loanBalance.cents
  others : old.ownerId ≠ some customerId →
    new = old ∨ Receives customerId request before id old new

/-- What a request of the customer may leave of the application. -/
structure CustomerFrame (customerId : CustomerId) (request : Request)
    (before after : AppState) : Prop where
  identities : after.identities = before.identities
  accounts : OrdMap.Rel (AccountFrame customerId request before.bank) before.bank.accounts
    after.bank.accounts

section Frame

variable {customerId : CustomerId} {request : Request} {before : Bank} {id : AccountId}
  {account : Account}

theorem AccountFrame.refl (id : AccountId) (account : Account) :
    AccountFrame customerId request before id account account :=
  ⟨rfl, rfl, rfl, rfl, le_rfl, fun _ => .inl rfl⟩

/-- Money moved on an account of the customer's own. -/
theorem AccountFrame.own (howner : account.ownerId = some customerId)
    {balance loanBalance : Money} (hloan : loanBalance.cents ≤ account.loanBalance.cents)
    (transaction : Transaction) :
    AccountFrame customerId request before id account
      ({ account with balance, loanBalance }.record transaction) :=
  ⟨rfl, rfl, rfl, rfl, hloan, fun hne => absurd howner hne⟩

theorem rel_accounts_refl (bank : Bank) :
    OrdMap.Rel (AccountFrame customerId request before) bank.accounts bank.accounts :=
  OrdMap.Rel.refl AccountFrame.refl _

end Frame

/-! ## The calls of each role -/

theorem Session.Owns.ownerId {session : Session} {account : Account} {customerId : CustomerId}
    (h : session.Owns account) (hc : session.customerId = some customerId) :
    account.ownerId = some customerId := by
  obtain ⟨c, hsession, howner⟩ := h
  rw [howner, ← hsession, hc]

section Calls

variable {session : Session} {customerId : CustomerId} {request : Request} {env : Env}
  {bank bank' : Bank} {id : AccountId}

/-- A customer moves the money of owned accounts only. -/
theorem movesMoneyOf_customer (hrole : session.role = .customer)
    (hc : session.customerId = some customerId) (h : session.MovesMoneyOf bank id) :
    ∃ account, bank.accounts[id]? = some account ∧ account.ownerId = some customerId := by
  rcases h with hany | ⟨-, account, hfound, howns⟩
  · simp [Session.can, hrole, Role.can] at hany
  · exact ⟨account, hfound, Session.Owns.ownerId howns hc⟩

theorem deposit_frame {amount : Money} {now : Nat} {u : Unit} {account : Account}
    (hfound : bank.accounts[id]? = some account) (howner : account.ownerId = some customerId)
    (h : Bank.deposit id amount now bank = (.ok u, bank')) :
    OrdMap.Rel (AccountFrame customerId request bank) bank.accounts bank'.accounts := by
  obtain ⟨-, -, again, balance, hagain, -, -, rfl⟩ := Bank.deposit_ok_iff.mp h
  obtain rfl := Option.some.inj (hfound.symm.trans hagain)
  exact (rel_accounts_refl bank).insert hfound (.own howner le_rfl _)

theorem withdraw_frame {amount : Money} {now : Nat} {u : Unit} {account : Account}
    (hfound : bank.accounts[id]? = some account) (howner : account.ownerId = some customerId)
    (h : Bank.withdraw id amount now bank = (.ok u, bank')) :
    OrdMap.Rel (AccountFrame customerId request bank) bank.accounts bank'.accounts := by
  obtain ⟨-, -, again, balance, hagain, -, -, -, rfl⟩ := Bank.withdraw_ok_iff.mp h
  obtain rfl := Option.some.inj (hfound.symm.trans hagain)
  exact (rel_accounts_refl bank).insert hfound (.own howner le_rfl _)

/-- What is paid of a loan is not negative if the loan is not. -/
theorem payLoan_frame (hbank : bank.NonNegative) {amount paid : Money} {now : Nat}
    {account : Account} (hfound : bank.accounts[id]? = some account)
    (howner : account.ownerId = some customerId)
    (h : Bank.payLoan id amount now bank = (.ok paid, bank')) :
    OrdMap.Rel (AccountFrame customerId request bank) bank.accounts bank'.accounts := by
  obtain ⟨hpos, -, again, balance, loanBalance, hagain, -, -, hpaid, -, -, hloan, rfl⟩ :=
    Bank.payLoan_ok_iff.mp h
  obtain rfl := Option.some.inj (hfound.symm.trans hagain)
  have hnonneg := (hbank id account hfound).2
  have hcents : paid.cents = min amount.cents account.loanBalance.cents := by
    rw [hpaid, Money.cents_min]
  exact (rel_accounts_refl bank).insert hfound (.own howner (by omega) _)

theorem transfer_frame {headers : HeaderMap} {payload : TransferRequest} {nowOut nowIn : Nat}
    {u : Unit} {account : Account}
    (hfound : bank.accounts[payload.fromAccountId]? = some account)
    (howner : account.ownerId = some customerId)
    (h : Bank.transfer payload.fromAccountId payload.toAccountId (.fromCents payload.amountCents)
      nowOut nowIn bank = (.ok u, bank')) :
    OrdMap.Rel (AccountFrame customerId (.transfer headers payload) bank) bank.accounts
      bank'.accounts := by
  obtain ⟨-, hne, -, payer, payee, fromBalance, toBalance, hpayer, -, hpayee, -, -, -, hto, rfl⟩ :=
    Bank.transfer_ok_iff.mp h
  obtain rfl := Option.some.inj (hfound.symm.trans hpayer)
  refine ((rel_accounts_refl bank).insert hfound (.own howner le_rfl _)).insert hpayee ?_
  exact ⟨rfl, rfl, rfl, rfl, le_rfl, fun _ => .inr ⟨headers, payload, account, toBalance, _, rfl,
    rfl, hfound, howner, rfl, rfl, hto, rfl⟩⟩

/-- A call that failed and was not a request for a loan changed no account. -/
theorem failed_frame {op : BankOp} {e : BankError}
    (hop : ∀ id amount now, op ≠ .requestLoan id amount now)
    (h : op.run bank = (.error e, bank')) :
    OrdMap.Rel (AccountFrame customerId request bank) bank.accounts bank'.accounts := by
  rcases BankOp.run_error h with hlapsed | ⟨-, -, id, amount, now, rfl, -⟩
  · rw [hlapsed.accounts]
    exact rel_accounts_refl bank
  · exact absurd rfl (hop id amount now)

/-- Every call of the bank that a customer's request may make keeps to the
frame. -/
theorem call_frame (hbank : bank.NonNegative) (hrole : session.role = .customer)
    (hc : session.customerId = some customerId) {op : BankOp} {identities : IdentityStore}
    {auditLog : AuditLog} (hact : AppMove.bank op ∈ request.act env)
    (hmay : session.MayCall ⟨bank, identities, auditLog⟩ op) :
    OrdMap.Rel (AccountFrame customerId request bank) bank.accounts
      (op.run bank).2.accounts := by
  rcases hrun : op.run bank with ⟨e | reply, bank'⟩
  · refine failed_frame ?_ hrun
    intro id amount now hop
    subst hop
    have hcan : session.can .moveMoney = true := hmay
    simp [Session.can, hrole, Role.can] at hcan
  cases op with
  | deposit id amount now =>
    obtain ⟨account, hfound, howner⟩ := movesMoneyOf_customer hrole hc hmay
    obtain ⟨_, hok, -⟩ := map_ok_iff.mp hrun
    exact deposit_frame hfound howner hok
  | withdraw id amount now =>
    obtain ⟨account, hfound, howner⟩ := movesMoneyOf_customer hrole hc hmay
    obtain ⟨_, hok, -⟩ := map_ok_iff.mp hrun
    exact withdraw_frame hfound howner hok
  | payLoan id amount now =>
    obtain ⟨account, hfound, howner⟩ := movesMoneyOf_customer hrole hc hmay
    obtain ⟨_, hok, -⟩ := map_ok_iff.mp hrun
    exact payLoan_frame hbank hfound howner hok
  | transfer fromId toId amount nowOut nowIn =>
    obtain ⟨account, hfound, howner⟩ := movesMoneyOf_customer hrole hc hmay
    obtain ⟨_, hok, -⟩ := map_ok_iff.mp hrun
    cases request with
    | transfer headers payload =>
      simp only [Request.act, Option.mem_some_iff, AppMove.bank.injEq,
        BankOp.transfer.injEq] at hact
      obtain ⟨rfl, rfl, rfl, -, -⟩ := hact
      exact transfer_frame hfound howner hok
    | _ => simp [Request.act] at hact
  | createAccount | updateName | updateEmail | activateAccount | deactivateAccount
  | closeAccount | deleteAccount | applyFee | applyInterest | requestLoan =>
    simp [Session.MayCall, Session.can, hrole, Role.can] at hmay

end Calls

/-! ## The theorem -/

section Changes

variable {argon2 : Argon2} {session : Option Session} {app app' : AppState} {m : AppMove}

/-- Who may change the identities. -/
theorem permitted_identities (hperm : m.Permitted session app)
    (hchanged : (m.run argon2 app).identities ≠ app.identities) :
    (∃ s ∈ session, s.can .manageIdentity = true) ∨
      (∃ salt id username password, m = .bootstrapAdmin salt id username password) ∧
        session = none ∧ app.identities.hasUsers = false := by
  cases m with
  | bank | monthlyFee | audit => exact absurd rfl hchanged
  | createCustomer | createUser => exact .inl hperm
  | bootstrapAdmin salt id username password => exact .inr ⟨⟨_, _, _, _, rfl⟩, hperm⟩

theorem serves_identities {acts : AppMove → Prop} (h : Serves argon2 session acts app app')
    (hchanged : app'.identities ≠ app.identities) :
    (∃ s ∈ session, s.can .manageIdentity = true) ∨
      (∃ salt id username password, acts (.bootstrapAdmin salt id username password)) ∧
        session = none ∧ app.identities.hasUsers = false := by
  obtain ⟨mid, hmid, hrecords⟩ := h
  rw [hrecords.rest.2] at hchanged
  rcases hmid with rfl | ⟨m, hact, hperm, rfl⟩
  · exact absurd rfl hchanged
  · refine (permitted_identities hperm hchanged).imp_right fun hboot => ?_
    obtain ⟨⟨salt, id, username, password, rfl⟩, hrest⟩ := hboot
    exact ⟨⟨salt, id, username, password, hact⟩, hrest⟩

end Changes

/-- The bank of a program: empty or loaded, and then any calls. -/
def Reachable (bank : Bank) : Prop :=
  ∃ start calls, Bank.Started start ∧ BankCall.final start calls = bank

theorem Reachable.nonNegative {bank : Bank} (h : Reachable bank) : bank.NonNegative := by
  obtain ⟨start, calls, hstart, rfl⟩ := h
  exact Bank.nonNegative_of_run hstart.nonNegative calls

/-- A request made with a customer's session keeps to the frame of that
customer. -/
theorem customer_frame {argon2 : Argon2} {env : Env} {request : Request} {state : ApiState}
    {session : Session} {customerId : CustomerId} (hbank : state.app.bank.NonNegative)
    (hsession : state.session? env request = some session) (hrole : session.role = .customer)
    (hc : session.customerId = some customerId) :
    CustomerFrame customerId request state.app (handle argon2 env request state).2.app := by
  have hserves := handle_serves argon2 env request state
  rw [hsession] at hserves
  have hcan : session.can .manageIdentity = false := by
    simp [Session.can, hrole, Role.can]
  constructor
  · by_contra hchanged
    rcases serves_identities hserves hchanged with ⟨s, hs, hmanage⟩ | ⟨-, hnone, -⟩
    · obtain rfl := Option.some.inj hs
      rw [hcan] at hmanage
      cases hmanage
    · cases hnone
  · obtain ⟨mid, hmid, hrecords⟩ := hserves
    rw [hrecords.rest.1]
    rcases hmid with rfl | ⟨m, hact, hperm, rfl⟩
    · exact rel_accounts_refl _
    cases m with
    | bank op =>
      obtain ⟨s, hs, hmay⟩ := hperm
      obtain rfl := Option.some.inj hs
      exact call_frame hbank hrole hc hact hmay
    | monthlyFee amount clock =>
      obtain ⟨s, hs, hmove⟩ := hperm
      obtain rfl := Option.some.inj hs
      simp [Session.can, hrole, Role.can] at hmove
    | createCustomer | createUser | bootstrapAdmin | audit => exact rel_accounts_refl _

/-- A request made with a customer's session changes no identity, no set of
accounts, no owner, profile or status, raises no loan, and leaves the
accounts of others alone but for what it transfers to them. One made with a
teller's session changes no identity. Identities change only in the name of
a session that manages them, or when the first administrator is created. -/
theorem role_integrity (argon2 : Argon2) (env : Env) (request : Request) (state : ApiState)
    (hbank : Reachable state.app.bank) :
    let after := (handle argon2 env request state).2.app
    (∀ session, state.session? env request = some session →
      (∀ customerId, session.role = .customer → session.customerId = some customerId →
        CustomerFrame customerId request state.app after) ∧
      (session.role = .teller → after.identities = state.app.identities)) ∧
    (after.identities ≠ state.app.identities →
      (∃ session, state.session? env request = some session ∧
        session.can .manageIdentity = true) ∨
      (∃ payload, request = .bootstrapAdmin payload) ∧
        state.app.identities.hasUsers = false) := by
  intro after
  have hidentities := fun h => serves_identities (handle_serves argon2 env request state) h
  refine ⟨fun session hsession => ⟨fun customerId hrole hc => ?_, fun hrole => ?_⟩,
    fun hchanged => ?_⟩
  · exact customer_frame hbank.nonNegative hsession hrole hc
  · by_contra hchanged
    rcases hidentities hchanged with ⟨s, hs, hmanage⟩ | ⟨-, hnone, -⟩
    · obtain rfl := Option.some.inj (hsession.symm.trans hs)
      simp [Session.can, hrole, Role.can] at hmanage
    · rw [hsession] at hnone
      cases hnone
  · refine (hidentities hchanged).imp_right fun hboot => ?_
    obtain ⟨⟨salt, id, username, password, hact⟩, -, husers⟩ := hboot
    cases request with
    | bootstrapAdmin payload => exact ⟨⟨payload, rfl⟩, husers⟩
    | _ => simp [Request.act] at hact

/-- A customer who transfers half a unit to an account of the bank's. -/
theorem role_integrity_transfer :
    let bank := BankCall.final Bank.new
      [.call (.createAccount 1 (some 7) "A" "a@b" ⟨100, by decide⟩ 0),
       .call (.createAccount 2 none "B" "b@b" ⟨0, by decide⟩ 0)]
    let session : Session := ⟨3, "ann", .customer, some 7⟩
    let sessions : ApiSessionStore :=
      ⟨(∅ : OrdMap String StoredApiSession).insert "t" ⟨session, 900⟩⟩
    let state : ApiState := ⟨⟨bank, .new, .new⟩, sessions, .new⟩
    let request : Request :=
      .transfer ⟨some (.text "Bearer t")⟩ ⟨1, 2, ⟨50, by decide⟩⟩
    let argon2 : Argon2 := ⟨fun salt _ => .ok salt, fun _ => .ok (), fun _ _ => false⟩
    let env : Env := ⟨5, 5, 5, 5, 5, 5, "salt", ["u"]⟩
    CustomerFrame 7 request state.app (handle argon2 env request state).2.app :=
  ((role_integrity _ _ _ _ ⟨_, _, .inl rfl, rfl⟩).1 ⟨3, "ann", .customer, some 7⟩
    (by decide +kernel)).1 7 rfl rfl

end Banck.Api
