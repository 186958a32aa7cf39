/-
Banck.BankFailures — what a failing bank operation leaves behind.

`Lapsed before after`: the accounts are the same and the counter may have
moved on. Twelve of the fourteen operations fail with nothing written, so
`Lapsed` is carried through them step by step (`FailsLapsed`). The two
loan operations write the balance first and can fail after it:
`payLoan_failsLapsed` shows that the later check of the one cannot fail,
and `requestLoan_error` that that of the other can, with the bank that is
left.
-/
import Banck.BankSteps

namespace Banck.Bank

open Lib Mut

/-- The accounts are untouched; ids may have been taken. -/
structure Lapsed (before after : Bank) : Prop where
  accounts : after.accounts = before.accounts
  le : before.nextTransactionId ≤ after.nextTransactionId
  bounded : before.nextTransactionId ≤ u64Max → after.nextTransactionId ≤ u64Max

theorem Lapsed.refl (bank : Bank) : Lapsed bank bank := ⟨rfl, le_rfl, id⟩

variable {α : Type} {bank bank' : Bank} {id : AccountId} {e : BankError}

/-- Whether it returns or fails, a step leaves the accounts alone. -/
def Lapses (m : BankM α) : Prop := ∀ bank, Keeps (Lapsed bank) m

/-- A failing run leaves the accounts alone. -/
def FailsLapsed (m : BankM α) : Prop :=
  ∀ bank, Triple (Lapsed bank) m (fun _ _ => True) (fun _ => Lapsed bank)

theorem FailsLapsed.error {m : BankM α} (h : FailsLapsed m)
    (he : m bank = (.error e, bank')) : Lapsed bank bank' :=
  (h bank bank (Lapsed.refl bank)).2 e bank' he

theorem Lapses.error {m : BankM α} (h : Lapses m) (he : m bank = (.error e, bank')) :
    Lapsed bank bank' :=
  (h bank bank (Lapsed.refl bank)).2 e bank' he

theorem Lapses.bind {β : Type} {m : BankM α} {f : α → BankM β} (hm : Lapses m)
    (hf : ∀ a, FailsLapsed (f a)) : FailsLapsed (m >>= f) := fun bank =>
  (hm bank).bind fun a => hf a bank

/-! ## Shared steps -/

theorem lapses_get : Lapses (Mut.get : BankM Bank) := fun _ => keeps_get

theorem lapses_lift (r : Except BankError α) : Lapses (Mut.lift r) := fun _ => keeps_lift r

theorem lapses_okOr (o : Option α) (e : BankError) : Lapses (Mut.okOr o e) :=
  fun _ => keeps_okOr o e

theorem lapses_ensure (p : Prop) [Decidable p] (e : BankError) : Lapses (Mut.ensure p e) :=
  fun _ => keeps_ensure p e

theorem lapses_readAccount (id : AccountId) : Lapses (readAccount id) :=
  fun _ => keeps_of_readOnly fun _ => rfl

theorem lapses_accountMut (id : AccountId) : Lapses (accountMut id) := fun _ =>
  keeps_get.bind fun _ => keeps_okOr _ _

theorem keeps_ensureCanTransact {I : Bank → Prop} (id : AccountId) :
    Keeps I (ensureCanTransact id) :=
  (keeps_of_readOnly fun _ => rfl).bind fun account => by
    cases account.status with
    | active => exact Triple.pure _ fun _ h => h
    | inactive => exact keeps_fail _
    | closed => exact keeps_fail _

theorem keeps_ensureSufficientFunds {I : Bank → Prop} (id : AccountId) (required : Money) :
    Keeps I (ensureSufficientFunds id required) :=
  (keeps_of_readOnly fun _ => rfl).bind fun _ => keeps_ensure _ _

theorem lapses_ensureCanTransact (id : AccountId) : Lapses (ensureCanTransact id) :=
  fun _ => keeps_ensureCanTransact id

theorem lapses_ensureSufficientFunds (id : AccountId) (required : Money) :
    Lapses (ensureSufficientFunds id required) := fun _ => keeps_ensureSufficientFunds id required

/-- Taking an id moves the counter by one, and never past its type. -/
theorem lapses_nextTransaction (now : Nat) (kind : TransactionKind) (amount : Money)
    (description : String) : Lapses (nextTransaction now kind amount description) := by
  intro bank s hs
  constructor
  · intro transaction s' h
    obtain ⟨hid, -, rfl⟩ := nextTransaction_ok_iff.mp h
    exact ⟨hs.accounts, Nat.le_succ_of_le hs.le, fun _ => hid⟩
  · intro e s' h
    simp only [nextTransaction, bind_error_iff, okOr_error_iff, get_ok_iff, okOr_ok_iff] at h
    rcases h with h | ⟨_, _, ⟨rfl, rfl⟩, ⟨-, -, rfl⟩ | ⟨_, _, ⟨-, rfl⟩, h⟩⟩
    · simp at h
    · exact hs
    · rcases h with h | ⟨_, _, -, h⟩
      · simp at h
      · simp at h

/-- The last write of an operation cannot fail. -/
theorem failsLapsed_setAccount (id : AccountId) (account : Account) :
    FailsLapsed (setAccount id account) := fun _ => Triple.modify fun _ _ => trivial

theorem failsLapsed_set_then {β : Type} (id : AccountId) (account : Account) (b : β) :
    FailsLapsed (setAccount id account >>= fun _ => (pure b : BankM β)) := fun _ =>
  (Triple.modify (Q := fun _ _ => True) fun _ _ => trivial).bind fun _ =>
    Triple.pure _ fun _ _ => trivial

/-! ## Operations -/

theorem createAccount_failsLapsed (id : AccountId) (ownerId : Option CustomerId)
    (name email : String) (openingBalance : Money) (now : Nat) :
    FailsLapsed (createAccount id ownerId name email openingBalance now) :=
  lapses_get.bind fun _ => (lapses_ensure _ _).bind fun _ => (lapses_lift _).bind fun _ =>
    (lapses_lift _).bind fun _ => (lapses_lift _).bind fun _ =>
      (lapses_nextTransaction _ _ _ _).bind fun _ => failsLapsed_set_then _ _ _

theorem updateProfile_failsLapsed (id : AccountId) (checked : Except BankError String)
    (write : String → Account → Account) (description : String) (now : Nat) :
    FailsLapsed (updateProfile id checked write description now) :=
  (lapses_lift _).bind fun _ => (lapses_readAccount _).bind fun _ =>
    (lapses_nextTransaction _ _ _ _).bind fun _ => (lapses_accountMut _).bind fun _ =>
      failsLapsed_setAccount _ _

theorem switchStatus_failsLapsed (id : AccountId) (status : AccountStatus)
    (kind : TransactionKind) (description : String) (now : Nat) :
    FailsLapsed (switchStatus id status kind description now) :=
  (lapses_accountMut _).bind fun _ => (lapses_ensure _ _).bind fun _ =>
    (lapses_nextTransaction _ _ _ _).bind fun _ => (lapses_accountMut _).bind fun _ =>
      failsLapsed_setAccount _ _

theorem closeAccount_failsLapsed (id : AccountId) (now : Nat) :
    FailsLapsed (closeAccount id now) :=
  (lapses_accountMut _).bind fun _ => (lapses_ensure _ _).bind fun _ =>
    (lapses_ensure _ _).bind fun _ => (lapses_nextTransaction _ _ _ _).bind fun _ =>
      (lapses_accountMut _).bind fun _ => failsLapsed_setAccount _ _

/-- The removal comes after the lookup that would have failed. -/
theorem deleteAccount_error (h : deleteAccount id bank = (.error e, bank')) :
    Lapsed bank bank' := by
  simp only [deleteAccount, bind_error_iff, readAccount_ok_iff, ensure_error_iff,
    ensure_ok_iff, get_ok_iff, modify_ok_iff, okOr_error_iff] at h
  rcases h with h | ⟨account, _, ⟨hfound, rfl⟩, h⟩
  · exact (lapses_readAccount id).error h
  rcases h with ⟨-, -, rfl⟩ | ⟨_, _, ⟨-, rfl⟩, h⟩
  · exact Lapsed.refl _
  rcases h with ⟨-, -, rfl⟩ | ⟨_, _, ⟨-, rfl⟩, h⟩
  · exact Lapsed.refl _
  rcases h with h | ⟨_, _, ⟨rfl, rfl⟩, h⟩
  · simp at h
  rcases h with h | ⟨_, _, rfl, hnone, -⟩
  · simp at h
  · rw [hfound] at hnone; cases hnone

theorem deposit_failsLapsed (id : AccountId) (amount : Money) (now : Nat) :
    FailsLapsed (deposit id amount now) :=
  (lapses_lift _).bind fun _ => (lapses_ensureCanTransact _).bind fun _ =>
    (lapses_nextTransaction _ _ _ _).bind fun _ => (lapses_accountMut _).bind fun _ =>
      (lapses_okOr _ _).bind fun _ => failsLapsed_setAccount _ _

theorem debit_failsLapsed (id : AccountId) (amount : Money) (kind : TransactionKind)
    (description : String) (now : Nat) :
    FailsLapsed (debit id amount kind description now) :=
  (lapses_lift _).bind fun _ => (lapses_ensureCanTransact _).bind fun _ =>
    (lapses_ensureSufficientFunds _ _).bind fun _ =>
      (lapses_nextTransaction _ _ _ _).bind fun _ => (lapses_accountMut _).bind fun _ =>
        (lapses_okOr _ _).bind fun _ => failsLapsed_setAccount _ _

theorem applyInterest_failsLapsed (id : AccountId) (rate : InterestRate) (now : Nat) :
    FailsLapsed (applyInterest id rate now) :=
  (lapses_ensure _ _).bind fun _ => (lapses_ensureCanTransact _).bind fun _ =>
    (lapses_readAccount _).bind fun _ => (lapses_okOr _ _).bind fun _ =>
      (lapses_nextTransaction _ _ _ _).bind fun _ => (lapses_accountMut _).bind fun _ =>
        (lapses_okOr _ _).bind fun _ => failsLapsed_set_then _ _ _

theorem triple_ensureCanTransact (bank : Bank) (id : AccountId) :
    Triple (Lapsed bank) (ensureCanTransact id)
      (fun _ b => Lapsed bank b ∧ bank.accounts[id]? ≠ none) (fun _ => Lapsed bank) := by
  intro b hb
  refine ⟨fun u b' h => ?_, (lapses_ensureCanTransact id bank b hb).2⟩
  obtain ⟨⟨account, hfound, -⟩, rfl⟩ := ensureCanTransact_ok_iff.mp h
  refine ⟨hb, ?_⟩
  rw [← hb.accounts, hfound]
  exact Option.some_ne_none _

theorem triple_readAccount (bank : Bank) (id : AccountId) :
    Triple (Lapsed bank) (readAccount id)
      (fun account b => Lapsed bank b ∧ bank.accounts[id]? = some account)
      (fun _ => Lapsed bank) := by
  intro b hb
  refine ⟨fun account b' h => ?_, (lapses_readAccount id bank b hb).2⟩
  obtain ⟨hfound, rfl⟩ := readAccount_ok_iff.mp h
  exact ⟨hb, hb.accounts ▸ hfound⟩

theorem triple_accountMut (bank : Bank) (id : AccountId) :
    Triple (Lapsed bank) (accountMut id)
      (fun account b => Lapsed bank b ∧ bank.accounts[id]? = some account)
      (fun _ => Lapsed bank) := by
  intro b hb
  refine ⟨fun account b' h => ?_, (lapses_accountMut id bank b hb).2⟩
  obtain ⟨hfound, rfl⟩ := accountMut_ok_iff.mp h
  exact ⟨hb, hb.accounts ▸ hfound⟩

/-- Everything that can fail comes before the first write: the payee was
looked up before, and the payer's write does not remove it. -/
theorem transfer_failsLapsed (fromId toId : AccountId) (amount : Money)
    (nowOut nowIn : Nat) : FailsLapsed (transfer fromId toId amount nowOut nowIn) :=
  (lapses_lift _).bind fun _ => (lapses_ensure _ _).bind fun _ =>
    (lapses_ensureCanTransact _).bind fun _ => fun bank =>
      (triple_ensureCanTransact bank toId).bind fun _ => Triple.assume fun hpayee =>
        (lapses_ensureSufficientFunds _ _ bank).bind fun _ =>
        (lapses_readAccount _ bank).bind fun _ => (lapses_readAccount _ bank).bind fun _ =>
        (lapses_okOr _ _ bank).bind fun _ => (lapses_okOr _ _ bank).bind fun _ =>
        (lapses_nextTransaction _ _ _ _ bank).bind fun _ =>
        (lapses_nextTransaction _ _ _ _ bank).bind fun _ =>
        (lapses_accountMut _ bank).bind fun _ =>
        (Triple.modify (Q := fun _ b => b.accounts[toId]? ≠ none) fun b hb => by
          by_cases hto : toId = fromId
          · rw [hto, OrdMap.get_insert_self]; exact Option.some_ne_none _
          · rw [OrdMap.get_insert_ne _ _ hto, hb.accounts]; exact hpayee).bind fun _ =>
        Triple.bind (Q := fun _ _ => True) (fun b hb => ⟨fun _ _ _ => trivial, fun e b' he => by
          simp only [accountMut, bind_error_iff, get_ok_iff, okOr_error_iff] at he
          rcases he with he | ⟨_, _, ⟨rfl, rfl⟩, hnone, -⟩
          · simp at he
          · exact absurd hnone hb⟩) fun _ => Triple.modify fun _ _ => trivial

/-! ## Loans -/

/-- The payment is at most the loan, so what is left of the loan is an
amount of money. -/
theorem rest_of_loan {amount loan : Money} (hpos : 0 < amount.cents) :
    loan.checkedSub (amount.min loan) ≠ none := by
  have ha := amount.inRange
  have hl := loan.inRange
  rw [Money.checkedSub, Ne, Money.ofInt?_eq_none, Money.cents_min]
  simp only [i64Min, i64Max] at *
  omega

/-- The balance is written before the rest of the loan is computed, and
that computation cannot fail. -/
theorem payLoan_failsLapsed (id : AccountId) (amount : Money) (now : Nat) :
    FailsLapsed (payLoan id amount now) := fun bank =>
  (triple_lift (ensurePositive amount) fun _ _ _ h => h).bind fun _ =>
    Triple.assume fun hpos => (lapses_ensureCanTransact _ bank).bind fun _ =>
    (triple_readAccount bank id).bind fun seen => Triple.assume fun hseen =>
    (lapses_ensure _ _ bank).bind fun _ => (lapses_ensure _ _ bank).bind fun _ =>
    (lapses_nextTransaction _ _ _ _ bank).bind fun _ =>
    (triple_accountMut bank id).bind fun account => Triple.assume fun hfound =>
    (lapses_okOr _ _ bank).bind fun _ =>
    (Triple.modify (Q := fun _ _ => True) fun _ _ => trivial).bind fun _ =>
    (triple_okOr_some _ _ (by
      obtain rfl : seen = account := Option.some.inj (hseen.symm.trans hfound)
      exact rest_of_loan (ensurePositive_ok_iff.mp hpos))).bind fun _ =>
    (Triple.modify (Q := fun _ _ => True) fun _ _ => trivial).bind fun _ =>
      Triple.pure _ fun _ _ => trivial

/-! ## Where no arithmetic overflows -/

/-- The error is not an overflow. -/
def NotOverflow (e : BankError) (_ : Bank) : Prop := e ≠ .arithmeticOverflow

theorem exact_readAccount (bank : Bank) (id : AccountId) :
    Triple (· = bank) (readAccount id)
      (fun account b => b = bank ∧ bank.accounts[id]? = some account) NotOverflow := by
  rintro b rfl
  constructor
  · intro account b' h
    obtain ⟨hfound, rfl⟩ := readAccount_ok_iff.mp h
    exact ⟨rfl, hfound⟩
  · intro e b' h
    simp only [readAccount, Bank.account, Prod.mk.injEq] at h
    cases hg : b.accounts[id]? with
    | none => rw [hg] at h; cases h.1; exact BankError.noConfusion
    | some a => rw [hg] at h; cases h.1

theorem exact_ensureCanTransact (bank : Bank) (id : AccountId) :
    Triple (· = bank) (ensureCanTransact id) (fun _ b => b = bank) NotOverflow :=
  (exact_readAccount bank id).bind fun account => by
    cases account.status with
    | active => exact Triple.pure _ fun _ h => h.1
    | inactive => exact fun b _ => ⟨fun _ _ h => (by cases h), fun _ _ h => by
        cases h; exact BankError.noConfusion⟩
    | closed => exact fun b _ => ⟨fun _ _ h => (by cases h), fun _ _ h => by
        cases h; exact BankError.noConfusion⟩

theorem exact_ensureSufficientFunds (bank : Bank) (id : AccountId) (required : Money) :
    Triple (· = bank) (ensureSufficientFunds id required)
      (fun _ b => b = bank ∧ ∃ account, bank.accounts[id]? = some account ∧
        required.cents ≤ account.balance.cents) NotOverflow :=
  (exact_readAccount bank id).bind fun account =>
    (triple_ensure (¬ account.balance < required) _ fun _ _ => BankError.noConfusion).weaken
      (fun _ h => h)
      (fun _ _ h => ⟨h.1.1, account, h.1.2, by
        have := h.2; rw [Money.lt_iff] at this; omega⟩) fun _ _ h => h

theorem exact_nextTransaction {bank : Bank} (hid : bank.HasId) (now : Nat)
    (kind : TransactionKind) (amount : Money) (description : String) :
    Triple (· = bank) (nextTransaction now kind amount description)
      (fun _ b => b.accounts = bank.accounts) NotOverflow := by
  rintro b rfl
  constructor
  · intro transaction b' h
    obtain ⟨-, -, rfl⟩ := nextTransaction_ok_iff.mp h
    rfl
  · intro e b' h
    have hok := (@nextTransaction_ok_iff b _ now kind amount description _).mpr
      ⟨hid, rfl, rfl⟩
    rw [hok] at h
    cases h

theorem same_accountMut (bank : Bank) (id : AccountId) :
    Triple (fun b => b.accounts = bank.accounts) (accountMut id)
      (fun account b => b.accounts = bank.accounts ∧ bank.accounts[id]? = some account)
      NotOverflow := by
  intro b hb
  constructor
  · intro account b' h
    obtain ⟨hfound, rfl⟩ := accountMut_ok_iff.mp h
    exact ⟨hb, hb ▸ hfound⟩
  · intro e b' h
    simp only [accountMut, bind_error_iff, get_ok_iff, okOr_error_iff] at h
    rcases h with h | ⟨_, _, -, -, rfl, -⟩
    · simp at h
    · exact BankError.noConfusion

theorem debit_notOverflow (hid : bank.HasId) (amount : Money) (kind : TransactionKind)
    (description : String) (now : Nat) :
    Triple (· = bank) (debit id amount kind description now) (fun _ _ => True) NotOverflow :=
  (triple_lift (ensurePositive amount) fun e _ he _ => by
    rw [ensurePositive_error he]; exact BankError.noConfusion).bind fun _ =>
  Triple.assume fun hpos => (exact_ensureCanTransact bank id).bind fun _ =>
  (exact_ensureSufficientFunds bank id amount).bind fun _ =>
  Triple.assume fun ⟨funded, hfunded, hle⟩ =>
  (exact_nextTransaction hid _ _ _ _).bind fun _ =>
  (same_accountMut bank id).bind fun account => Triple.assume fun hfound =>
  (triple_okOr_some _ _ (by
    obtain rfl : funded = account := Option.some.inj (hfunded.symm.trans hfound)
    have hp := ensurePositive_ok_iff.mp hpos
    exact Money.checkedSub_ne_none (by omega) hle)).bind fun _ =>
  Triple.modify fun _ _ => trivial

/-- Paying a loan that is not negative cannot overflow. -/
theorem payLoan_notOverflow (hid : bank.HasId)
    (hloan : ∀ account, bank.accounts[id]? = some account → 0 ≤ account.loanBalance.cents)
    (amount : Money) (now : Nat) :
    Triple (· = bank) (payLoan id amount now) (fun _ _ => True) NotOverflow :=
  (triple_lift (ensurePositive amount) fun e _ he _ => by
    rw [ensurePositive_error he]; exact BankError.noConfusion).bind fun _ =>
  Triple.assume fun hpos => (exact_ensureCanTransact bank id).bind fun _ =>
  (exact_readAccount bank id).bind fun seen => Triple.assume fun hseen =>
  (triple_ensure _ _ fun _ _ => BankError.noConfusion).bind fun _ =>
  Triple.assume fun _ => (triple_ensure _ _ fun _ _ => BankError.noConfusion).bind fun _ =>
  Triple.assume fun hle => (exact_nextTransaction hid _ _ _ _).bind fun _ =>
  (same_accountMut bank id).bind fun account => Triple.assume fun hfound =>
  (triple_okOr_some _ _ (by
    obtain rfl : seen = account := Option.some.inj (hseen.symm.trans hfound)
    have hp := ensurePositive_ok_iff.mp hpos
    have hl := hloan seen hseen
    rw [Money.lt_iff] at hle
    refine Money.checkedSub_ne_none ?_ (by omega)
    rw [Money.cents_min]
    omega)).bind fun _ =>
  (Triple.modify (Q := fun _ _ => True) fun _ _ => trivial).bind fun _ =>
  (triple_okOr_some _ _ (by
    obtain rfl : seen = account := Option.some.inj (hseen.symm.trans hfound)
    exact rest_of_loan (ensurePositive_ok_iff.mp hpos))).bind fun _ =>
  (Triple.modify (Q := fun _ _ => True) fun _ _ => trivial).bind fun _ =>
    Triple.pure _ fun _ _ => trivial

/-! ## The loan request that stops half way -/

/-- The balance takes a loan of this amount and the loan balance does not. -/
def SpillsLoan (bank : Bank) (id : AccountId) (amount : Money) : Prop :=
  0 < amount.cents ∧ bank.HasId ∧ ∃ account, bank.accounts[id]? = some account ∧
    account.status = .active ∧ account.balance.cents + amount.cents ≤ i64Max ∧
    i64Max < account.loanBalance.cents + amount.cents

/-- `bank` with the balance of one account raised by `amount` and nothing
recorded. -/
def Spilled (bank : Bank) (id : AccountId) (amount : Money) (bank' : Bank) : Prop :=
  ∃ account balance, bank.accounts[id]? = some account ∧
    balance.cents = account.balance.cents + amount.cents ∧
    bank' = { accounts := bank.accounts.insert id { account with balance }
              nextTransactionId := bank.nextTransactionId + 1 }

/-- A loan request fails with nothing written, or with the balance written
and the loan balance not. -/
theorem requestLoan_error {amount : Money} {now : Nat}
    (h : requestLoan id amount now bank = (.error e, bank')) :
    Lapsed bank bank' ∨
      e = .arithmeticOverflow ∧ SpillsLoan bank id amount ∧ Spilled bank id amount bank' := by
  replace h := bind_error_iff.mp h
  rcases h with h | ⟨_, bank, hok, h⟩
  · exact .inl ((lapses_lift _).error h)
  obtain ⟨hpos, rfl⟩ := lift_ok_iff.mp hok
  replace h := bind_error_iff.mp h
  rcases h with h | ⟨_, bank, hok, h⟩
  · exact .inl ((lapses_ensureCanTransact id).error h)
  obtain ⟨⟨account, hfound, hact⟩, rfl⟩ := ensureCanTransact_ok_iff.mp hok
  replace h := bind_error_iff.mp h
  rcases h with h | ⟨_, _, hok, h⟩
  · exact .inl ((lapses_nextTransaction _ _ _ _).error h)
  obtain ⟨hid, rfl, rfl⟩ := nextTransaction_ok_iff.mp hok
  have hskip : Lapsed bank { bank with nextTransactionId := bank.nextTransactionId + 1 } :=
    ⟨rfl, Nat.le_succ _, fun _ => hid⟩
  replace h := bind_error_iff.mp h
  rcases h with h | ⟨again, _, hok, h⟩
  · exact .inl ((lapses_accountMut id bank _ hskip).2 _ _ h)
  obtain ⟨hagain, rfl⟩ := accountMut_ok_iff.mp hok
  obtain rfl : account = again := Option.some.inj (hfound.symm.trans hagain)
  replace h := bind_error_iff.mp h
  rcases h with h | ⟨balance, _, hok, h⟩
  · obtain ⟨-, -, rfl⟩ := okOr_error_iff.mp h
    exact .inl hskip
  obtain ⟨hsum, rfl⟩ := okOr_ok_iff.mp hok
  rw [Money.checkedAdd_eq_some] at hsum
  -- from here on the balance is written
  replace h := bind_error_iff.mp h
  rcases h with h | ⟨_, _, hok, h⟩
  · cases h
  obtain rfl := setAccount_ok_iff.mp hok
  replace h := bind_error_iff.mp h
  rcases h with h | ⟨_, _, _, h⟩
  · obtain ⟨hloan, rfl, rfl⟩ := okOr_error_iff.mp h
    have hp : 0 < amount.cents := ensurePositive_ok_iff.mp hpos
    refine .inr ⟨rfl, ⟨hp, hid, account, hfound, hact, ?_, ?_⟩, account, balance, hfound,
      hsum, rfl⟩
    · rw [← hsum]; exact balance.inRange.2
    · rw [Money.checkedAdd, Money.ofInt?_eq_none] at hloan
      have := account.loanBalance.inRange
      rcases hloan with hloan | hloan
      · simp only [i64Min] at *; omega
      · exact hloan
  · cases h

/-- Where the loan balance does not take the loan, the request fails after
the balance was raised. -/
theorem requestLoan_of_spills {amount : Money} (now : Nat) (h : SpillsLoan bank id amount) :
    ∃ bank', requestLoan id amount now bank = (.error .arithmeticOverflow, bank') ∧
      Spilled bank id amount bank' := by
  obtain ⟨hpos, hid, account, hfound, hact, hbal, hloan⟩ := h
  obtain ⟨balance, hsum⟩ : ∃ balance : Money,
      balance.cents = account.balance.cents + amount.cents := by
    have := account.balance.inRange
    exact ⟨⟨_, by omega, hbal⟩, rfl⟩
  refine ⟨_, ?_, account, balance, hfound, hsum, rfl⟩
  refine bind_error_iff.mpr (.inr ⟨(), bank, lift_ok_iff.mpr
    ⟨ensurePositive_ok_iff.mpr hpos, rfl⟩, ?_⟩)
  refine bind_error_iff.mpr (.inr ⟨(), bank, ensureCanTransact_ok_iff.mpr
    ⟨⟨account, hfound, hact⟩, rfl⟩, ?_⟩)
  refine bind_error_iff.mpr (.inr ⟨_, _, nextTransaction_ok_iff.mpr ⟨hid, rfl, rfl⟩, ?_⟩)
  refine bind_error_iff.mpr (.inr ⟨account, _, accountMut_ok_iff.mpr ⟨hfound, rfl⟩, ?_⟩)
  refine bind_error_iff.mpr (.inr ⟨balance, _, okOr_ok_iff.mpr
    ⟨Money.checkedAdd_eq_some.mpr hsum, rfl⟩, ?_⟩)
  refine bind_error_iff.mpr (.inr ⟨(), _, setAccount_ok_iff.mpr rfl, ?_⟩)
  refine bind_error_iff.mpr (.inl (okOr_error_iff.mpr ⟨?_, rfl, rfl⟩))
  rw [Money.checkedAdd, Money.ofInt?_eq_none]
  exact .inr hloan

end Banck.Bank
