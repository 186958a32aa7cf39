/-
Banck.BankTheorems — what holds of the bank in every run.

* A failing call changes no account, except a loan request that the
  balance takes and the loan balance does not.
* In a run without an overflow the bank is a ledger: the map of histories
  follows the rules of `Lib.Ledger` (`Bank.book_step`), each balance is what its
  history is worth, and the money in the bank is what was brought in.
* In every run, overflow or not, no balance and no loan balance is
  negative; so three operations cannot overflow and the total is exact.
-/
import Banck.Lib.Ledger
import Banck.BankMoves

namespace Banck

open Lib Mut Machine

/-! ## Kinds of transactions -/

def creditKinds : List TransactionKind :=
  [.accountCreated, .deposit, .transferIn, .interest, .loanRequested]

def debitKinds : List TransactionKind := [.withdrawal, .transferOut, .fee, .loanPayment]

/-- The kinds that move no money. -/
def recordKinds : List TransactionKind :=
  [.profileUpdated, .activated, .deactivated, .closed]

/-! ## What one entry changes -/

namespace Entry

variable {before after : Account} {kind : TransactionKind} {amount : Money}

theorem id_eq (h : Entry before kind amount after) : after.id = before.id := by
  cases h <;> rfl

theorem transactions_eq (h : Entry before kind amount after) :
    after.transactions = before.transactions := by
  cases h <;> rfl

/-- The balance moves by the amount with the sign of the kind. -/
theorem balance_eq (h : Entry before kind amount after) :
    after.balance.cents = before.balance.cents + kind.balanceSign * amount.cents := by
  cases h with
  | credited kindIs _ _ sum =>
    rcases kindIs with rfl | rfl <;> simp [TransactionKind.balanceSign, sum]
  | debited kindIs _ _ _ rest =>
    rcases kindIs with rfl | rfl | rfl <;>
      simp [TransactionKind.balanceSign, rest, Int.sub_eq_add_neg]
  | interest _ _ sum => simp [TransactionKind.balanceSign, sum]
  | loanRequested _ _ sum _ => simp [TransactionKind.balanceSign, sum]
  | loanPayment _ _ _ _ rest _ =>
    simp [TransactionKind.balanceSign, rest, Int.sub_eq_add_neg]
  | renamed | readdressed | activated | deactivated | closed =>
    simp [TransactionKind.balanceSign]

/-- The loan balance moves by the amount with the loan sign of the kind. -/
theorem loan_eq (h : Entry before kind amount after) :
    after.loanBalance.cents = before.loanBalance.cents + kind.loanSign * amount.cents := by
  cases h with
  | credited kindIs _ _ _ => rcases kindIs with rfl | rfl <;> simp [TransactionKind.loanSign]
  | debited kindIs _ _ _ _ =>
    rcases kindIs with rfl | rfl | rfl <;> simp [TransactionKind.loanSign]
  | interest => simp [TransactionKind.loanSign]
  | loanRequested _ _ _ loan => simp [TransactionKind.loanSign, loan]
  | loanPayment _ _ _ _ _ loan =>
    simp [TransactionKind.loanSign, loan, Int.sub_eq_add_neg]
  | renamed | readdressed | activated | deactivated | closed =>
    simp [TransactionKind.loanSign]

/-- An entry that moves no money carries none. -/
theorem amount_zero (h : Entry before kind amount after)
    (hk : kind ∈ recordKinds) : amount.cents = 0 := by
  cases h with
  | credited kindIs _ _ _ => rcases kindIs with rfl | rfl <;> simp [recordKinds] at hk
  | debited kindIs _ _ _ _ => rcases kindIs with rfl | rfl | rfl <;> simp [recordKinds] at hk
  | interest | loanRequested | loanPayment => simp [recordKinds] at hk
  | renamed | readdressed | activated | deactivated | closed => rfl

end Entry

/-- Interest on a balance that is not negative is not negative. -/
theorem Money.checkedPercentage_nonneg {m interest : Money} {rate : InterestRate}
    (hm : 0 ≤ m.cents) (h : m.checkedPercentage rate = some interest) :
    0 ≤ interest.cents := by
  simp only [Money.checkedPercentage, Option.bind_eq_bind, Option.bind_eq_some_iff,
    Money.ofInt?_eq_some] at h
  obtain ⟨product, hproduct, hdiv⟩ := h
  rw [hdiv, hproduct]
  exact Int.tdiv_nonneg (Int.mul_nonneg hm (Int.natCast_nonneg _)) (by decide)

/-! ## Invariants of every account -/

namespace Bank

/-- Every account, with the id it is filed under, satisfies `P`. -/
def Each (P : AccountId → Account → Prop) (bank : Bank) : Prop :=
  ∀ id account, bank.accounts[id]? = some account → P id account

variable {P : AccountId → Account → Prop} {bank bank' : Bank}

theorem each_new : new.Each P := by
  intro id account h
  simp [new] at h

theorem each_mem (h : bank.Each P) {account : Account} (ha : account ∈ bank.accountList) :
    ∃ id, P id account := by
  obtain ⟨id, hid⟩ := OrdMap.mem_vals.mp ha
  exact ⟨id, h id account hid⟩

theorem Each.insert (h : bank.Each P) {id : AccountId} {account : Account}
    (ha : P id account) (next : Nat) :
    Each P ⟨bank.accounts.insert id account, next⟩ := by
  intro id' account' h'
  by_cases hid : id' = id
  · subst hid
    rw [OrdMap.get_insert_self] at h'
    obtain rfl := Option.some.inj h'
    exact ha
  · rw [OrdMap.get_insert_ne _ _ hid] at h'
    exact h id' account' h'

theorem Each.erase (h : bank.Each P) (id : AccountId) :
    Each P { bank with accounts := bank.accounts.erase id } := by
  intro id' account' h'
  by_cases hid : id' = id
  · subst hid
    rw [OrdMap.get_erase_self] at h'; cases h'
  · rw [OrdMap.get_erase_ne _ hid] at h'
    exact h id' account' h'

/-- An invariant of every account needs three cases: an account opened, a
transaction recorded, a balance spilled. -/
theorem Each.step {m : Move} (h : Move.Step bank m bank')
    (hopen : ∀ account transaction, Opening account →
      transaction.kind = .accountCreated → transaction.amount = account.balance →
      P account.id (account.record transaction))
    (hpost : ∀ id before after transaction, P id before →
      Entry before transaction.kind transaction.amount after →
      P id (after.record transaction))
    (hspill : m.IsSpill → ∀ id account (amount balance : Money), P id account →
      account.status = .active → 0 < amount.cents →
      balance.cents = account.balance.cents + amount.cents → P id { account with balance })
    (hbank : bank.Each P) : bank'.Each P := by
  cases h with
  | opened _ opening _ _ kind amount =>
    exact hbank.insert (hopen _ _ opening kind amount) _
  | posted found _ _ entry =>
    exact hbank.insert (hpost _ _ _ _ (hbank _ _ found) entry) _
  | removed found _ _ => exact hbank.erase _
  | skipped _ _ => exact hbank
  | spilled found _ active positive sum _ =>
    exact hbank.insert (hspill trivial _ _ _ _ (hbank _ _ found) active positive sum) _

end Bank

/-! ## Nothing is negative -/

/-- Neither the balance nor the loan is negative. -/
def Account.NonNegative (account : Account) : Prop :=
  0 ≤ account.balance.cents ∧ 0 ≤ account.loanBalance.cents

def Bank.NonNegative (bank : Bank) : Prop := bank.Each fun _ account => account.NonNegative

theorem Entry.nonNegative {before after : Account} {kind : TransactionKind} {amount : Money}
    (h : Entry before kind amount after) (hb : before.NonNegative) : after.NonNegative := by
  obtain ⟨hbal, hloan⟩ := hb
  cases h with
  | credited _ _ positive sum => exact ⟨by simp only [sum]; omega, hloan⟩
  | debited _ _ _ covered rest => exact ⟨by simp only [rest]; omega, hloan⟩
  | interest _ share sum =>
    have := Money.checkedPercentage_nonneg hbal share
    exact ⟨by simp only [sum]; omega, hloan⟩
  | loanRequested _ positive sum loan =>
    exact ⟨by simp only [sum]; omega, by simp only [loan]; omega⟩
  | loanPayment _ positive capped covered rest loan =>
    rw [capped, Money.cents_min] at *
    exact ⟨by simp only [rest]; omega, by simp only [loan]; omega⟩
  | renamed | readdressed | activated | deactivated | closed => exact ⟨hbal, hloan⟩

theorem Opening.nonNegative {account : Account} (h : Opening account) :
    account.NonNegative := by
  obtain ⟨id, ownerId, rawName, rawEmail, name, email, openingBalance, -, -, hopen, rfl⟩ := h
  exact ⟨hopen, le_refl (0 : Int)⟩

/-- No move takes a balance or a loan below zero, not even a spill. -/
theorem Bank.nonNegative_step {bank bank' : Bank} {m : Move} (h : Move.Step bank m bank')
    (hbank : bank.NonNegative) : bank'.NonNegative := by
  refine Bank.Each.step h (fun account _ hopen _ _ => hopen.nonNegative)
    (fun _ _ _ _ hb entry => entry.nonNegative hb) (fun _ _ account amount balance ha _ hpos hsum
      => ⟨?_, ha.2⟩) hbank
  have := ha.1
  simp only [hsum]; omega

/-! ## The ledger -/

/-- The amounts of the transactions of these kinds, added up. -/
def sumOf (kinds : List TransactionKind) (history : List Transaction) : Int :=
  ((history.filter fun transaction => transaction.kind ∈ kinds).map
    fun transaction => transaction.amount.cents).sum

theorem sumOf_cons (kinds : List TransactionKind) (transaction : Transaction)
    (history : List Transaction) :
    sumOf kinds (transaction :: history) =
      (if transaction.kind ∈ kinds then transaction.amount.cents else 0)
        + sumOf kinds history := by
  by_cases h : transaction.kind ∈ kinds <;> simp [sumOf, h]

/-- What a history is worth as a balance, kind by kind. -/
theorem worth_balanceEffect (history : List Transaction) :
    Ledger.worth Transaction.balanceEffect history =
      sumOf creditKinds history - sumOf debitKinds history := by
  induction history with
  | nil => rfl
  | cons transaction rest ih =>
    rw [sumOf_cons, sumOf_cons]
    simp only [Ledger.worth, List.map_cons, List.sum_cons] at ih ⊢
    rw [ih, Transaction.balanceEffect]
    cases transaction.kind <;>
      simp [TransactionKind.balanceSign, creditKinds, debitKinds] <;> omega

/-- What a history is worth as a loan. -/
theorem worth_loanEffect (history : List Transaction) :
    Ledger.worth Transaction.loanEffect history =
      sumOf [.loanRequested] history - sumOf [.loanPayment] history := by
  induction history with
  | nil => rfl
  | cons transaction rest ih =>
    rw [sumOf_cons, sumOf_cons]
    simp only [Ledger.worth, List.map_cons, List.sum_cons] at ih ⊢
    rw [ih, Transaction.loanEffect]
    cases transaction.kind <;> simp [TransactionKind.loanSign] <;> omega

theorem worth_netEffect (history : List Transaction) :
    Ledger.worth Transaction.netEffect history =
      Ledger.worth Transaction.balanceEffect history
        - Ledger.worth Transaction.loanEffect history := by
  induction history with
  | nil => rfl
  | cons transaction rest ih =>
    simp only [Ledger.worth, List.map_cons, List.sum_cons] at ih ⊢
    rw [ih, Transaction.netEffect]
    omega

/-- The balance and the loan are what the history is worth, and the
transactions that move no money carry none. -/
structure Account.Reconciled (account : Account) : Prop where
  balance : account.balance.cents =
    Ledger.worth Transaction.balanceEffect account.transactions
  loan : account.loanBalance.cents =
    Ledger.worth Transaction.loanEffect account.transactions
  zero : ∀ transaction ∈ account.transactions, transaction.kind ∈ recordKinds →
    transaction.amount.cents = 0

def Bank.Reconciled (bank : Bank) : Prop := bank.Each fun _ account => account.Reconciled

theorem Opening.reconciled {account : Account} (h : Opening account)
    {transaction : Transaction} (hkind : transaction.kind = .accountCreated)
    (hamount : transaction.amount = account.balance) :
    (account.record transaction).Reconciled := by
  obtain ⟨id, ownerId, _, _, name, email, openingBalance, -, -, -, rfl⟩ := h
  refine ⟨?_, ?_, ?_⟩
  · simp [Account.record, Account.new, Ledger.worth, Transaction.balanceEffect, hkind, hamount,
      TransactionKind.balanceSign]
  · simp [Account.record, Account.new, Ledger.worth, Transaction.loanEffect, hkind,
      TransactionKind.loanSign]
  · intro t ht hk
    obtain rfl : t = transaction := by simpa [Account.record, Account.new] using ht
    rw [hkind] at hk
    simp [recordKinds] at hk

theorem Entry.reconciled {before after : Account} {transaction : Transaction}
    (h : Entry before transaction.kind transaction.amount after) (hb : before.Reconciled) :
    (after.record transaction).Reconciled := by
  refine ⟨?_, ?_, ?_⟩
  · rw [Account.record, Ledger.worth_append, h.transactions_eq, ← hb.balance]
    exact h.balance_eq
  · rw [Account.record, Ledger.worth_append, h.transactions_eq, ← hb.loan]
    exact h.loan_eq
  · intro t ht hk
    rw [Account.record, h.transactions_eq] at ht
    rcases List.mem_append.mp ht with ht | ht
    · exact hb.zero t ht hk
    · obtain rfl := List.mem_singleton.mp ht
      exact h.amount_zero hk

/-- Every move but a spill keeps the accounts reconciled. -/
theorem Bank.reconciled_step {bank bank' : Bank} {m : Move} (h : Move.Step bank m bank')
    (hm : ¬ m.IsSpill) (hbank : bank.Reconciled) : bank'.Reconciled :=
  Bank.Each.step h (fun _ _ hopen hkind hamount => hopen.reconciled hkind hamount)
    (fun _ _ _ _ hb entry => entry.reconciled hb) (fun hs => absurd hs hm) hbank

/-- The books: what is left of the bank when only histories are kept. -/
def Bank.book (bank : Bank) : Ledger.Book AccountId Transaction :=
  OrdMap.mapVals Account.transactions bank.accounts

/-- The posting a move makes in the books. -/
def Move.posting : Move → Option (Ledger.Posting AccountId Transaction)
  | opened account transaction => some (.start account.id transaction)
  | posted id _ transaction => some (.append id transaction)
  | removed id => some (.finish id)
  | skipped _ | spilled _ _ => none

/-- Each move but a spill follows the rules of the books. -/
theorem Bank.book_step {bank bank' : Bank} {m : Move} (h : Move.Step bank m bank')
    (hm : ¬ m.IsSpill) (hbank : bank.Reconciled) :
    Path (Ledger.Step Transaction.netEffect) bank.book m.posting.toList bank'.book := by
  cases h with
  | @opened account transaction fresh opening _ _ _ _ =>
    have hnil : account.transactions = [] := by
      obtain ⟨_, _, _, _, _, _, _, -, -, -, rfl⟩ := opening
      rfl
    refine .single ?_
    simp only [Bank.book, Bank.post_accounts, OrdMap.mapVals_insert, Account.record, hnil]
    exact .start (by rw [OrdMap.get_mapVals, fresh, Option.map_none])
  | @posted id before account transaction found _ _ entry =>
    refine .single ?_
    simp only [Bank.book, Bank.post_accounts, OrdMap.mapVals_insert, Account.record,
      entry.transactions_eq]
    exact .append (by rw [OrdMap.get_mapVals, found, Option.map_some])
  | @removed id account found balance loan =>
    refine .single ?_
    have hrec := hbank id account found
    simp only [Bank.book, OrdMap.mapVals_erase]
    have hbook : (OrdMap.mapVals Account.transactions bank.accounts)[id]? =
        some account.transactions := by
      rw [OrdMap.get_mapVals, found, Option.map_some]
    refine .finish hbook ?_
    rw [worth_netEffect, ← hrec.balance, ← hrec.loan, balance, loan, sub_zero]
  | skipped _ _ => exact .nil _
  | spilled _ _ _ _ _ _ => exact absurd trivial hm

/-- The money the bank holds for its customers: balances less loans. -/
def Bank.netWorth (bank : Bank) : Int :=
  (bank.accountList.map fun account =>
    account.balance.cents - account.loanBalance.cents).sum

/-- While the accounts are reconciled, the net worth is the books' total. -/
theorem Bank.netWorth_eq_total {bank : Bank} (h : bank.Reconciled) :
    bank.netWorth = Ledger.total Transaction.netEffect bank.book := by
  rw [Ledger.total, Bank.book, OrdMap.sumOver_mapVals]
  refine OrdMap.sumOver_congr _ bank.accounts fun id account hfound => ?_
  rw [worth_netEffect, ← (h id account hfound).balance, ← (h id account hfound).loan]

theorem Move.flow_eq_sum (m : Move) :
    (m.posting.toList.map (Ledger.Posting.flow Transaction.netEffect)).sum = m.flow := by
  cases m <;> simp [Move.posting, Move.flow, Ledger.Posting.flow]

/-- A move that is no spill moves the net worth by its flow. -/
theorem Bank.netWorth_step {bank bank' : Bank} {m : Move} (h : Move.Step bank m bank')
    (hm : ¬ m.IsSpill) (hbank : bank.Reconciled) :
    bank'.netWorth = bank.netWorth + m.flow := by
  rw [netWorth_eq_total hbank, netWorth_eq_total (reconciled_step h hm hbank),
    Ledger.total_path (book_step h hm hbank), Move.flow_eq_sum]

/-- What an explained change does to a reconciled bank. -/
theorem BankOp.Explained.reconciled {bank bank' : Bank} {flow : Int}
    (h : Explained bank bank' flow) (hbank : bank.Reconciled) :
    bank'.Reconciled ∧ bank'.netWorth = bank.netWorth + flow := by
  obtain ⟨moves, hpath, hspill, rfl⟩ := h
  have hpath := hpath.guard hspill
  exact ⟨hpath.invariant (fun _ _ _ h => Bank.reconciled_step h.1 h.2) hbank,
    hpath.measure (fun _ _ _ h => Bank.reconciled_step h.1 h.2)
      (fun _ _ _ h => Bank.netWorth_step h.1 h.2) hbank⟩

end Banck
