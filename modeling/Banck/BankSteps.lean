/-
Banck.BankSteps — what each bank operation does when it returns.

For every operation `f` there is one lemma `f_ok_iff`: the checks it
passed, and the bank it leaves as a function of the bank it found. All of
them but deletion leave `Bank.post`: one account written back with one
transaction appended, and the counter one past that transaction's id
(`transfer` leaves two of these in a row). Nothing after this module
unfolds an operation.
-/
import Banck.Bank

namespace Banck

open Lib Mut

/-! ## Checks -/

theorem ensurePositive_ok_iff {amount : Money} {u : Unit} :
    ensurePositive amount = .ok u ↔ 0 < amount.cents := by
  unfold ensurePositive
  split
  · next h =>
    rw [Money.le_iff, Money.cents_zero] at h
    simp only [reduceCtorEq, false_iff]; omega
  · next h =>
    rw [Money.le_iff, Money.cents_zero] at h
    simp only [true_iff]; omega

theorem ensurePositive_error {amount : Money} {e : BankError}
    (h : ensurePositive amount = .error e) : e = .invalidAmount := by
  unfold ensurePositive at h
  split at h
  · exact (Except.error.inj h).symm
  · cases h

theorem ensureNonNegative_ok_iff {amount : Money} {u : Unit} :
    ensureNonNegative amount = .ok u ↔ 0 ≤ amount.cents := by
  unfold ensureNonNegative
  by_cases h : amount.cents < 0
  · simp [Money.isNegative, h]
  · simp [Money.isNegative, h]; omega

/-- What the loader demands of an account on its own. -/
theorem validateImportedAccount_ok_iff {account : Account} {u : Unit} :
    validateImportedAccount account = .ok u ↔
      (∃ name, cleanName account.name = .ok name) ∧
      (∃ email, cleanEmail account.email = .ok email) ∧
      0 ≤ account.balance.cents ∧ 0 ≤ account.loanBalance.cents := by
  unfold validateImportedAccount
  cases cleanName account.name with
  | error e => simp [bind, Except.bind]
  | ok name =>
    cases cleanEmail account.email with
    | error e => simp [bind, Except.bind]
    | ok email =>
      cases hb : ensureNonNegative account.balance with
      | error e =>
        have hneg : ¬ 0 ≤ account.balance.cents := fun h => by
          rw [ensureNonNegative_ok_iff (u := ()).mpr h] at hb; cases hb
        simp [bind, Except.bind, hneg]
      | ok v =>
        simp [bind, Except.bind, ensureNonNegative_ok_iff, ensureNonNegative_ok_iff.mp hb]

namespace Bank

/-! ## Shared steps -/

variable {bank bank' : Bank} {id : AccountId} {account : Account} {u : Unit}

theorem account_ok_iff : bank.account id = .ok account ↔ bank.accounts[id]? = some account := by
  unfold Bank.account
  cases bank.accounts[id]? <;> simp

theorem readAccount_ok_iff :
    readAccount id bank = (.ok account, bank') ↔
      bank.accounts[id]? = some account ∧ bank' = bank := by
  rw [readAccount, Prod.mk.injEq, account_ok_iff, eq_comm (a := bank)]

theorem accountMut_ok_iff :
    accountMut id bank = (.ok account, bank') ↔
      bank.accounts[id]? = some account ∧ bank' = bank := by
  simp only [accountMut, bind_ok_iff, get_ok_iff, okOr_ok_iff]
  constructor
  · rintro ⟨_, _, ⟨rfl, rfl⟩, h⟩; exact h
  · intro h; exact ⟨bank, bank, ⟨rfl, rfl⟩, h⟩

theorem setAccount_ok_iff :
    setAccount id account bank = (.ok u, bank') ↔
      bank' = { bank with accounts := bank.accounts.insert id account } := modify_ok_iff

theorem ensureCanTransact_ok_iff :
    ensureCanTransact id bank = (.ok u, bank') ↔
      (∃ account, bank.accounts[id]? = some account ∧ account.status = .active) ∧
        bank' = bank := by
  simp only [ensureCanTransact, bind_ok_iff, readAccount_ok_iff]
  constructor
  · rintro ⟨account, _, ⟨hfound, rfl⟩, h⟩
    cases hs : account.status <;> rw [hs] at h <;> simp at h
    exact ⟨⟨account, hfound, hs⟩, h.symm⟩
  · rintro ⟨⟨account, hfound, hs⟩, rfl⟩
    exact ⟨account, bank', ⟨hfound, rfl⟩, by rw [hs]; rfl⟩

theorem ensureSufficientFunds_ok_iff {required : Money} :
    ensureSufficientFunds id required bank = (.ok u, bank') ↔
      (∃ account, bank.accounts[id]? = some account ∧
        required.cents ≤ account.balance.cents) ∧ bank' = bank := by
  simp only [ensureSufficientFunds, bind_ok_iff, readAccount_ok_iff, ensure_ok_iff,
    Money.lt_iff, not_lt]
  constructor
  · rintro ⟨account, _, ⟨hfound, rfl⟩, hle, rfl⟩; exact ⟨⟨account, hfound, hle⟩, rfl⟩
  · rintro ⟨⟨account, hfound, hle⟩, rfl⟩; exact ⟨account, bank', ⟨hfound, rfl⟩, hle, rfl⟩

/-- The transaction the bank makes next. -/
def stamp (bank : Bank) (now : Nat) (kind : TransactionKind) (amount : Money)
    (description : String) : Transaction :=
  { id := bank.nextTransactionId, occurredAtEpochSeconds := now, kind, amount, description }

/-- An id is left to take. -/
def HasId (bank : Bank) : Prop := bank.nextTransactionId < u64Max

instance (bank : Bank) : Decidable bank.HasId := inferInstanceAs (Decidable (_ < _))

theorem nextTransaction_ok_iff {now : Nat} {kind : TransactionKind} {amount : Money}
    {description : String} {transaction : Transaction} :
    nextTransaction now kind amount description bank = (.ok transaction, bank') ↔
      bank.HasId ∧ transaction = bank.stamp now kind amount description ∧
        bank' = { bank with nextTransactionId := bank.nextTransactionId + 1 } := by
  simp only [nextTransaction, bind_ok_iff, get_ok_iff, okOr_ok_iff, checkedAddU64_eq_some,
    modify_ok_iff, pure_ok_iff, HasId]
  constructor
  · rintro ⟨_, _, ⟨rfl, rfl⟩, _, _, ⟨⟨hle, rfl⟩, rfl⟩, _, _, rfl, rfl, rfl⟩
    exact ⟨by omega, rfl, rfl⟩
  · rintro ⟨hlt, rfl, rfl⟩
    exact ⟨bank, bank, ⟨rfl, rfl⟩, _, bank, ⟨⟨by omega, rfl⟩, rfl⟩, (), _, rfl, rfl, rfl⟩

/-! ## Operations -/

/-- Write an account back with one more transaction in its history. -/
def post (bank : Bank) (id : AccountId) (account : Account) (transaction : Transaction) :
    Bank :=
  ⟨bank.accounts.insert id (account.record transaction), transaction.id + 1⟩

@[simp] theorem post_accounts (bank : Bank) (id : AccountId) (account : Account)
    (transaction : Transaction) :
    (bank.post id account transaction).accounts =
      bank.accounts.insert id (account.record transaction) := rfl

@[simp] theorem post_nextTransactionId (bank : Bank) (id : AccountId) (account : Account)
    (transaction : Transaction) :
    (bank.post id account transaction).nextTransactionId = transaction.id + 1 := rfl

/-- An account under another id is found where it was. -/
theorem post_found_ne {id other : AccountId} {found : Account} (hne : id ≠ other)
    (hfound : bank.accounts[other]? = some found) (account : Account)
    (transaction : Transaction) :
    (bank.post id account transaction).accounts[other]? = some found := by
  rw [post_accounts, OrdMap.get_insert_ne _ _ hne.symm]
  exact hfound

@[simp] theorem stamp_id (bank : Bank) (now : Nat) (kind : TransactionKind)
    (amount : Money) (description : String) :
    (bank.stamp now kind amount description).id = bank.nextTransactionId := rfl

theorem createAccount_ok_iff {ownerId : Option CustomerId} {name email : String}
    {openingBalance : Money} {now : Nat} {created : Account} :
    createAccount id ownerId name email openingBalance now bank = (.ok created, bank') ↔
      bank.accounts[id]? = none ∧ 0 ≤ openingBalance.cents ∧ bank.HasId ∧
      ∃ cleanedName cleanedEmail,
        cleanName name = .ok cleanedName ∧ cleanEmail email = .ok cleanedEmail ∧
        let account := Account.new id ownerId cleanedName cleanedEmail openingBalance
        let transaction := bank.stamp now .accountCreated openingBalance "Account created"
        created = account.record transaction ∧ bank' = bank.post id account transaction := by
  simp only [createAccount, bind_ok_iff, get_ok_iff, ensure_ok_iff, lift_ok_iff,
    nextTransaction_ok_iff, setAccount_ok_iff, pure_ok_iff, ensureNonNegative_ok_iff,
    OrdMap.contains_eq_isSome, Option.isSome_eq_false_iff, Option.isNone_iff_eq_none]
  constructor
  · rintro ⟨_, _, ⟨rfl, rfl⟩, _, _, ⟨hfresh, rfl⟩, _, _, ⟨hopen, rfl⟩, cn, _, ⟨hn, rfl⟩,
      ce, _, ⟨he, rfl⟩, _, _, ⟨hid, rfl, rfl⟩, _, _, rfl, rfl, rfl⟩
    exact ⟨hfresh, hopen, hid, cn, ce, hn, he, rfl, rfl⟩
  · rintro ⟨hfresh, hopen, hid, cn, ce, hn, he, rfl, rfl⟩
    exact ⟨bank, bank, ⟨rfl, rfl⟩, (), bank, ⟨hfresh, rfl⟩, (), bank, ⟨hopen, rfl⟩, cn, bank,
      ⟨hn, rfl⟩, ce, bank, ⟨he, rfl⟩, _, _, ⟨hid, rfl, rfl⟩, (), _, rfl, rfl, rfl⟩

theorem updateProfile_ok_iff {checked : Except BankError String}
    {write : String → Account → Account} {description : String} {now : Nat} :
    updateProfile id checked write description now bank = (.ok u, bank') ↔
      bank.HasId ∧ ∃ value account, checked = .ok value ∧
        bank.accounts[id]? = some account ∧
        bank' = bank.post id (write value account)
          (bank.stamp now .profileUpdated Money.zero description) := by
  simp only [updateProfile, bind_ok_iff, lift_ok_iff, readAccount_ok_iff,
    nextTransaction_ok_iff, accountMut_ok_iff, setAccount_ok_iff]
  constructor
  · rintro ⟨value, _, ⟨hv, rfl⟩, _, _, ⟨_, rfl⟩, _, _, ⟨hid, rfl, rfl⟩, account, _,
      ⟨hfound, rfl⟩, rfl⟩
    exact ⟨hid, value, account, hv, hfound, rfl⟩
  · rintro ⟨hid, value, account, hv, hfound, rfl⟩
    exact ⟨value, bank, ⟨hv, rfl⟩, account, bank, ⟨hfound, rfl⟩, _, _, ⟨hid, rfl, rfl⟩,
      account, _, ⟨hfound, rfl⟩, rfl⟩

theorem updateName_ok_iff {name : String} {now : Nat} :
    updateName id name now bank = (.ok u, bank') ↔
      bank.HasId ∧ ∃ cleaned account, cleanName name = .ok cleaned ∧
        bank.accounts[id]? = some account ∧
        bank' = bank.post id { account with name := cleaned }
          (bank.stamp now .profileUpdated Money.zero "Name updated") := updateProfile_ok_iff

theorem updateEmail_ok_iff {email : String} {now : Nat} :
    updateEmail id email now bank = (.ok u, bank') ↔
      bank.HasId ∧ ∃ cleaned account, cleanEmail email = .ok cleaned ∧
        bank.accounts[id]? = some account ∧
        bank' = bank.post id { account with email := cleaned }
          (bank.stamp now .profileUpdated Money.zero "Email updated") := updateProfile_ok_iff

theorem switchStatus_ok_iff {status : AccountStatus} {kind : TransactionKind}
    {description : String} {now : Nat} :
    switchStatus id status kind description now bank = (.ok u, bank') ↔
      bank.HasId ∧ ∃ account, bank.accounts[id]? = some account ∧
        account.isClosed = false ∧
        bank' = bank.post id { account with status }
          (bank.stamp now kind Money.zero description) := by
  simp only [switchStatus, bind_ok_iff, ensure_ok_iff, nextTransaction_ok_iff,
    accountMut_ok_iff, setAccount_ok_iff]
  constructor
  · rintro ⟨account, _, ⟨hfound, rfl⟩, _, _, ⟨hopen, rfl⟩, _, _, ⟨hid, rfl, rfl⟩, again, _,
      ⟨hagain, rfl⟩, rfl⟩
    obtain rfl : account = again := Option.some.inj (hfound.symm.trans hagain)
    exact ⟨hid, account, hfound, hopen, rfl⟩
  · rintro ⟨hid, account, hfound, hopen, rfl⟩
    exact ⟨account, bank, ⟨hfound, rfl⟩, (), bank, ⟨hopen, rfl⟩, _, _, ⟨hid, rfl, rfl⟩,
      account, _, ⟨hfound, rfl⟩, rfl⟩

theorem activateAccount_ok_iff {now : Nat} :
    activateAccount id now bank = (.ok u, bank') ↔
      bank.HasId ∧ ∃ account, bank.accounts[id]? = some account ∧
        account.isClosed = false ∧
        bank' = bank.post id { account with status := .active }
          (bank.stamp now .activated Money.zero "Account activated") := switchStatus_ok_iff

theorem deactivateAccount_ok_iff {now : Nat} :
    deactivateAccount id now bank = (.ok u, bank') ↔
      bank.HasId ∧ ∃ account, bank.accounts[id]? = some account ∧
        account.isClosed = false ∧
        bank' = bank.post id { account with status := .inactive }
          (bank.stamp now .deactivated Money.zero "Account deactivated") := switchStatus_ok_iff

theorem closeAccount_ok_iff {now : Nat} :
    closeAccount id now bank = (.ok u, bank') ↔
      bank.HasId ∧ ∃ account, bank.accounts[id]? = some account ∧
        account.balance.cents = 0 ∧ account.loanBalance.cents = 0 ∧
        bank' = bank.post id { account with status := .closed }
          (bank.stamp now .closed Money.zero "Account closed") := by
  simp only [closeAccount, bind_ok_iff, ensure_ok_iff, nextTransaction_ok_iff,
    accountMut_ok_iff, setAccount_ok_iff, Money.isZero_iff]
  constructor
  · rintro ⟨account, _, ⟨hfound, rfl⟩, _, _, ⟨hb, rfl⟩, _, _, ⟨hl, rfl⟩, _, _,
      ⟨hid, rfl, rfl⟩, again, _, ⟨hagain, rfl⟩, rfl⟩
    obtain rfl : account = again := Option.some.inj (hfound.symm.trans hagain)
    exact ⟨hid, account, hfound, hb, hl, rfl⟩
  · rintro ⟨hid, account, hfound, hb, hl, rfl⟩
    exact ⟨account, bank, ⟨hfound, rfl⟩, (), bank, ⟨hb, rfl⟩, (), bank, ⟨hl, rfl⟩, _, _,
      ⟨hid, rfl, rfl⟩, account, _, ⟨hfound, rfl⟩, rfl⟩

theorem deleteAccount_ok_iff {deleted : Account} :
    deleteAccount id bank = (.ok deleted, bank') ↔
      bank.accounts[id]? = some deleted ∧ deleted.balance.cents = 0 ∧
        deleted.loanBalance.cents = 0 ∧
        bank' = { bank with accounts := bank.accounts.erase id } := by
  simp only [deleteAccount, bind_ok_iff, readAccount_ok_iff, ensure_ok_iff, get_ok_iff,
    modify_ok_iff, okOr_ok_iff, Money.isZero_iff]
  constructor
  · rintro ⟨account, _, ⟨hfound, rfl⟩, _, _, ⟨hb, rfl⟩, _, _, ⟨hl, rfl⟩, _, _, ⟨rfl, rfl⟩, _,
      _, rfl, hdel, rfl⟩
    obtain rfl : account = deleted := Option.some.inj (hfound.symm.trans hdel)
    exact ⟨hfound, hb, hl, rfl⟩
  · rintro ⟨hfound, hb, hl, rfl⟩
    exact ⟨deleted, bank, ⟨hfound, rfl⟩, (), bank, ⟨hb, rfl⟩, (), bank, ⟨hl, rfl⟩, bank, bank,
      ⟨rfl, rfl⟩, (), _, rfl, hfound, rfl⟩

theorem deposit_ok_iff {amount : Money} {now : Nat} :
    deposit id amount now bank = (.ok u, bank') ↔
      0 < amount.cents ∧ bank.HasId ∧ ∃ account balance,
        bank.accounts[id]? = some account ∧ account.status = .active ∧
        balance.cents = account.balance.cents + amount.cents ∧
        bank' = bank.post id { account with balance }
          (bank.stamp now .deposit amount "Money deposited") := by
  simp only [deposit, bind_ok_iff, lift_ok_iff, ensurePositive_ok_iff,
    ensureCanTransact_ok_iff, nextTransaction_ok_iff, accountMut_ok_iff, okOr_ok_iff,
    Money.checkedAdd_eq_some, setAccount_ok_iff]
  constructor
  · rintro ⟨_, _, ⟨hpos, rfl⟩, _, _, ⟨⟨account, hfound, hact⟩, rfl⟩, _, _, ⟨hid, rfl, rfl⟩,
      again, _, ⟨hagain, rfl⟩, balance, _, ⟨hsum, rfl⟩, rfl⟩
    obtain rfl : account = again := Option.some.inj (hfound.symm.trans hagain)
    exact ⟨hpos, hid, account, balance, hfound, hact, hsum, rfl⟩
  · rintro ⟨hpos, hid, account, balance, hfound, hact, hsum, rfl⟩
    exact ⟨(), bank, ⟨hpos, rfl⟩, (), bank, ⟨⟨account, hfound, hact⟩, rfl⟩, _, _,
      ⟨hid, rfl, rfl⟩, account, _, ⟨hfound, rfl⟩, balance, _, ⟨hsum, rfl⟩, rfl⟩

theorem debit_ok_iff {amount : Money} {now : Nat} {kind : TransactionKind}
    {description : String} :
    debit id amount kind description now bank = (.ok u, bank') ↔
      0 < amount.cents ∧ bank.HasId ∧ ∃ account balance,
        bank.accounts[id]? = some account ∧ account.status = .active ∧
        amount.cents ≤ account.balance.cents ∧
        balance.cents = account.balance.cents - amount.cents ∧
        bank' = bank.post id { account with balance }
          (bank.stamp now kind amount description) := by
  simp only [debit, bind_ok_iff, lift_ok_iff, ensurePositive_ok_iff,
    ensureCanTransact_ok_iff, ensureSufficientFunds_ok_iff, nextTransaction_ok_iff,
    accountMut_ok_iff, okOr_ok_iff, Money.checkedSub_eq_some, setAccount_ok_iff]
  constructor
  · rintro ⟨_, _, ⟨hpos, rfl⟩, _, _, ⟨⟨account, hfound, hact⟩, rfl⟩, _, _,
      ⟨⟨funded, hfunded, hle⟩, rfl⟩, _, _, ⟨hid, rfl, rfl⟩, again, _, ⟨hagain, rfl⟩, balance,
      _, ⟨hdiff, rfl⟩, rfl⟩
    obtain rfl : account = again := Option.some.inj (hfound.symm.trans hagain)
    obtain rfl : account = funded := Option.some.inj (hfound.symm.trans hfunded)
    exact ⟨hpos, hid, account, balance, hfound, hact, hle, hdiff, rfl⟩
  · rintro ⟨hpos, hid, account, balance, hfound, hact, hle, hdiff, rfl⟩
    exact ⟨(), bank, ⟨hpos, rfl⟩, (), bank, ⟨⟨account, hfound, hact⟩, rfl⟩, (), bank,
      ⟨⟨account, hfound, hle⟩, rfl⟩, _, _, ⟨hid, rfl, rfl⟩, account, _, ⟨hfound, rfl⟩, balance,
      _, ⟨hdiff, rfl⟩, rfl⟩

theorem withdraw_ok_iff {amount : Money} {now : Nat} :
    withdraw id amount now bank = (.ok u, bank') ↔
      0 < amount.cents ∧ bank.HasId ∧ ∃ account balance,
        bank.accounts[id]? = some account ∧ account.status = .active ∧
        amount.cents ≤ account.balance.cents ∧
        balance.cents = account.balance.cents - amount.cents ∧
        bank' = bank.post id { account with balance }
          (bank.stamp now .withdrawal amount "Money withdrawn") := debit_ok_iff

theorem applyFee_ok_iff {amount : Money} {now : Nat} :
    applyFee id amount now bank = (.ok u, bank') ↔
      0 < amount.cents ∧ bank.HasId ∧ ∃ account balance,
        bank.accounts[id]? = some account ∧ account.status = .active ∧
        amount.cents ≤ account.balance.cents ∧
        balance.cents = account.balance.cents - amount.cents ∧
        bank' = bank.post id { account with balance }
          (bank.stamp now .fee amount "Bank fee applied") := debit_ok_iff

/-- The second account is read from the map the first write left. -/
theorem transfer_ok_iff {fromId toId : AccountId} {amount : Money} {nowOut nowIn : Nat} :
    transfer fromId toId amount nowOut nowIn bank = (.ok u, bank') ↔
      0 < amount.cents ∧ fromId ≠ toId ∧ bank.nextTransactionId + 1 < u64Max ∧
      ∃ payer payee fromBalance toBalance,
        bank.accounts[fromId]? = some payer ∧ payer.status = .active ∧
        bank.accounts[toId]? = some payee ∧ payee.status = .active ∧
        amount.cents ≤ payer.balance.cents ∧
        fromBalance.cents = payer.balance.cents - amount.cents ∧
        toBalance.cents = payee.balance.cents + amount.cents ∧
        let paid := bank.post fromId { payer with balance := fromBalance }
          (bank.stamp nowOut .transferOut amount
            ("Transferred to account " ++ toString toId))
        bank' = paid.post toId { payee with balance := toBalance }
          (paid.stamp nowIn .transferIn amount
            ("Received from account " ++ toString fromId)) := by
  simp only [transfer, bind_ok_iff, lift_ok_iff, ensurePositive_ok_iff, ensure_ok_iff,
    ensureCanTransact_ok_iff, ensureSufficientFunds_ok_iff, readAccount_ok_iff,
    nextTransaction_ok_iff, accountMut_ok_iff, okOr_ok_iff, Money.checkedSub_eq_some,
    Money.checkedAdd_eq_some, setAccount_ok_iff]
  constructor
  · rintro ⟨_, _, ⟨hpos, rfl⟩, _, _, ⟨hne, rfl⟩, _, _, ⟨⟨payer, hpayer, hactFrom⟩, rfl⟩, _, _,
      ⟨⟨payee, hpayee, hactTo⟩, rfl⟩, _, _, ⟨⟨funded, hfunded, hle⟩, rfl⟩, p, _, ⟨hp, rfl⟩, q,
      _, ⟨hq, rfl⟩, fromBalance, _, ⟨hfrom, rfl⟩, toBalance, _, ⟨hto, rfl⟩, _, _,
      ⟨hid, rfl, rfl⟩, _, _, ⟨hid', rfl, rfl⟩, p', _, ⟨hp', rfl⟩, _, _, rfl, q', _,
      ⟨hq', rfl⟩, rfl⟩
    obtain rfl : payer = funded := Option.some.inj (hpayer.symm.trans hfunded)
    obtain rfl : payer = p := Option.some.inj (hpayer.symm.trans hp)
    obtain rfl : payee = q := Option.some.inj (hpayee.symm.trans hq)
    obtain rfl : payer = p' := Option.some.inj (hpayer.symm.trans hp')
    rw [OrdMap.get_insert_ne _ _ (Ne.symm hne)] at hq'
    obtain rfl : payee = q' := Option.some.inj (hpayee.symm.trans hq')
    exact ⟨hpos, hne, hid', payer, payee, fromBalance, toBalance, hpayer, hactFrom, hpayee,
      hactTo, hle, hfrom, hto, rfl⟩
  · rintro ⟨hpos, hne, hid, payer, payee, fromBalance, toBalance, hpayer, hactFrom, hpayee,
      hactTo, hle, hfrom, hto, rfl⟩
    refine ⟨(), bank, ⟨hpos, rfl⟩, (), bank, ⟨hne, rfl⟩, (), bank,
      ⟨⟨payer, hpayer, hactFrom⟩, rfl⟩, (), bank, ⟨⟨payee, hpayee, hactTo⟩, rfl⟩, (), bank,
      ⟨⟨payer, hpayer, hle⟩, rfl⟩, payer, bank, ⟨hpayer, rfl⟩, payee, bank, ⟨hpayee, rfl⟩,
      fromBalance, bank, ⟨hfrom, rfl⟩, toBalance, bank, ⟨hto, rfl⟩, _, _,
      ⟨Nat.lt_of_succ_lt hid, rfl, rfl⟩, _, _, ⟨hid, rfl, rfl⟩, payer, _, ⟨hpayer, rfl⟩, (),
      _, rfl, payee, _, ⟨?_, rfl⟩, rfl⟩
    rw [OrdMap.get_insert_ne _ _ (Ne.symm hne)]
    exact hpayee

theorem applyInterest_ok_iff {rate : InterestRate} {now : Nat} {paid : Money} :
    applyInterest id rate now bank = (.ok paid, bank') ↔
      rate.isZero = false ∧ bank.HasId ∧ ∃ account balance,
        bank.accounts[id]? = some account ∧ account.status = .active ∧
        account.balance.checkedPercentage rate = some paid ∧
        balance.cents = account.balance.cents + paid.cents ∧
        bank' = bank.post id { account with balance }
          (bank.stamp now .interest paid ("Interest added at " ++ rate.display)) := by
  simp only [applyInterest, bind_ok_iff, ensure_ok_iff, ensureCanTransact_ok_iff,
    readAccount_ok_iff, nextTransaction_ok_iff, accountMut_ok_iff, okOr_ok_iff,
    Money.checkedAdd_eq_some, setAccount_ok_iff, pure_ok_iff]
  constructor
  · rintro ⟨_, _, ⟨hrate, rfl⟩, _, _, ⟨⟨account, hfound, hact⟩, rfl⟩, seen, _, ⟨hseen, rfl⟩,
      _, _, ⟨hpct, rfl⟩, _, _, ⟨hid, rfl, rfl⟩, again, _, ⟨hagain, rfl⟩, balance, _,
      ⟨hsum, rfl⟩, _, _, rfl, rfl, rfl⟩
    obtain rfl : account = seen := Option.some.inj (hfound.symm.trans hseen)
    obtain rfl : account = again := Option.some.inj (hfound.symm.trans hagain)
    exact ⟨hrate, hid, account, balance, hfound, hact, hpct, hsum, rfl⟩
  · rintro ⟨hrate, hid, account, balance, hfound, hact, hpct, hsum, rfl⟩
    exact ⟨(), bank, ⟨hrate, rfl⟩, (), bank, ⟨⟨account, hfound, hact⟩, rfl⟩, account, bank,
      ⟨hfound, rfl⟩, paid, bank, ⟨hpct, rfl⟩, _, _, ⟨hid, rfl, rfl⟩, account, _,
      ⟨hfound, rfl⟩, balance, _, ⟨hsum, rfl⟩, (), _, rfl, rfl, rfl⟩

/-- The two writes of a loan operation leave what one write of both sums
would. -/
theorem setAccount_twice (bank : Bank) (id : AccountId) (first last : Account) (next : Nat) :
    ({ accounts := (bank.accounts.insert id first).insert id last,
       nextTransactionId := next } : Bank) =
      { accounts := bank.accounts.insert id last, nextTransactionId := next } := by
  rw [OrdMap.insert_insert]

theorem requestLoan_ok_iff {amount : Money} {now : Nat} :
    requestLoan id amount now bank = (.ok u, bank') ↔
      0 < amount.cents ∧ bank.HasId ∧ ∃ account balance loanBalance,
        bank.accounts[id]? = some account ∧ account.status = .active ∧
        balance.cents = account.balance.cents + amount.cents ∧
        loanBalance.cents = account.loanBalance.cents + amount.cents ∧
        bank' = bank.post id { account with balance, loanBalance }
          (bank.stamp now .loanRequested amount "Loan received") := by
  simp only [requestLoan, bind_ok_iff, lift_ok_iff, ensurePositive_ok_iff,
    ensureCanTransact_ok_iff, nextTransaction_ok_iff, accountMut_ok_iff, okOr_ok_iff,
    Money.checkedAdd_eq_some, setAccount_ok_iff]
  constructor
  · rintro ⟨_, _, ⟨hpos, rfl⟩, _, _, ⟨⟨account, hfound, hact⟩, rfl⟩, _, _, ⟨hid, rfl, rfl⟩,
      again, _, ⟨hagain, rfl⟩, balance, _, ⟨hsum, rfl⟩, _, _, rfl, loanBalance, _,
      ⟨hloan, rfl⟩, rfl⟩
    obtain rfl : account = again := Option.some.inj (hfound.symm.trans hagain)
    refine ⟨hpos, hid, account, balance, loanBalance, hfound, hact, hsum, hloan, ?_⟩
    exact setAccount_twice _ _ _ _ _
  · rintro ⟨hpos, hid, account, balance, loanBalance, hfound, hact, hsum, hloan, rfl⟩
    refine ⟨(), bank, ⟨hpos, rfl⟩, (), bank, ⟨⟨account, hfound, hact⟩, rfl⟩, _, _,
      ⟨hid, rfl, rfl⟩, account, _, ⟨hfound, rfl⟩, balance, _, ⟨hsum, rfl⟩, (), _, rfl,
      loanBalance, _, ⟨hloan, rfl⟩, ?_⟩
    exact (setAccount_twice _ _ _ _ _).symm

theorem payLoan_ok_iff {amount paid : Money} {now : Nat} :
    payLoan id amount now bank = (.ok paid, bank') ↔
      0 < amount.cents ∧ bank.HasId ∧ ∃ account balance loanBalance,
        bank.accounts[id]? = some account ∧ account.status = .active ∧
        account.loanBalance.isZero = false ∧ paid = amount.min account.loanBalance ∧
        paid.cents ≤ account.balance.cents ∧
        balance.cents = account.balance.cents - paid.cents ∧
        loanBalance.cents = account.loanBalance.cents - paid.cents ∧
        bank' = bank.post id { account with balance, loanBalance }
          (bank.stamp now .loanPayment paid "Loan payment made") := by
  simp only [payLoan, bind_ok_iff, lift_ok_iff, ensurePositive_ok_iff, ensure_ok_iff,
    ensureCanTransact_ok_iff, readAccount_ok_iff, nextTransaction_ok_iff, accountMut_ok_iff,
    okOr_ok_iff, Money.checkedSub_eq_some, setAccount_ok_iff, pure_ok_iff, Money.lt_iff,
    not_lt]
  constructor
  · rintro ⟨_, _, ⟨hpos, rfl⟩, _, _, ⟨⟨account, hfound, hact⟩, rfl⟩, seen, _, ⟨hseen, rfl⟩,
      _, _, ⟨hloan, rfl⟩, _, _, ⟨hle, rfl⟩, _, _, ⟨hid, rfl, rfl⟩, again, _, ⟨hagain, rfl⟩,
      balance, _, ⟨hdiff, rfl⟩, _, _, rfl, loanBalance, _, ⟨hrest, rfl⟩, _, _, rfl, rfl, rfl⟩
    obtain rfl : account = seen := Option.some.inj (hfound.symm.trans hseen)
    obtain rfl : account = again := Option.some.inj (hfound.symm.trans hagain)
    refine ⟨hpos, hid, account, balance, loanBalance, hfound, hact, hloan, rfl, hle, hdiff,
      hrest, ?_⟩
    exact setAccount_twice _ _ _ _ _
  · rintro ⟨hpos, hid, account, balance, loanBalance, hfound, hact, hloan, rfl, hle, hdiff,
      hrest, rfl⟩
    refine ⟨(), bank, ⟨hpos, rfl⟩, (), bank, ⟨⟨account, hfound, hact⟩, rfl⟩, account, bank,
      ⟨hfound, rfl⟩, (), bank, ⟨hloan, rfl⟩, (), bank, ⟨hle, rfl⟩, _, _, ⟨hid, rfl, rfl⟩,
      account, _, ⟨hfound, rfl⟩, balance, _, ⟨hdiff, rfl⟩, (), _, rfl, loanBalance, _,
      ⟨hrest, rfl⟩, (), _, rfl, rfl, ?_⟩
    exact (setAccount_twice _ _ _ _ _).symm

end Bank

end Banck
