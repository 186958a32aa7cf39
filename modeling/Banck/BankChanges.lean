/-
Banck.BankChanges — which calls change an account, told from the bank
before the call.

`BankOp.Accepts` lists what each operation asks of the bank;
`accepts_iff` says that an operation returns exactly if it is met. An
operation that returns changes an account (`run_ok_changes`), one that
fails changes none unless it is a loan request that stops half way, so
`run_changes_iff` is the whole account of it.
`applyMonthlyFee_changes_iff` is the same for the fee charged to every
account.
-/
import Banck.BankInvariants
import Banck.BankReturns
import Banck.BankRuns

namespace Banck

open Lib Mut

/-! ## What an operation asks for -/

/-- There is an account under the id, and it is as asked. -/
def Bank.Finds (bank : Bank) (id : AccountId) (p : Account → Prop) : Prop :=
  ∃ account, bank.accounts[id]? = some account ∧ p account

namespace BankOp

/-- What the bank must be like for the operation to return. -/
def Accepts (bank : Bank) : BankOp → Prop
  | createAccount id _ name email openingBalance _ =>
      bank.HasId ∧ bank.accounts[id]? = none ∧ 0 ≤ openingBalance.cents ∧
        (∃ cleaned, cleanName name = .ok cleaned) ∧ ∃ cleaned, cleanEmail email = .ok cleaned
  | updateName id name _ =>
      bank.HasId ∧ (∃ cleaned, cleanName name = .ok cleaned) ∧ bank.Finds id fun _ => True
  | updateEmail id email _ =>
      bank.HasId ∧ (∃ cleaned, cleanEmail email = .ok cleaned) ∧ bank.Finds id fun _ => True
  | activateAccount id _ | deactivateAccount id _ =>
      bank.HasId ∧ bank.Finds id fun account => account.isClosed = false
  | closeAccount id _ =>
      bank.HasId ∧ bank.Finds id fun account =>
        account.balance.cents = 0 ∧ account.loanBalance.cents = 0
  | deleteAccount id =>
      bank.Finds id fun account => account.balance.cents = 0 ∧ account.loanBalance.cents = 0
  | deposit id amount _ =>
      bank.HasId ∧ 0 < amount.cents ∧ bank.Finds id fun account =>
        account.status = .active ∧ ∃ balance, account.balance.checkedAdd amount = some balance
  | withdraw id amount _ | applyFee id amount _ =>
      bank.HasId ∧ 0 < amount.cents ∧ bank.Finds id fun account =>
        account.status = .active ∧ amount.cents ≤ account.balance.cents
  | transfer fromId toId amount _ _ =>
      bank.nextTransactionId + 1 < u64Max ∧ 0 < amount.cents ∧ fromId ≠ toId ∧
        (bank.Finds fromId fun payer =>
          payer.status = .active ∧ amount.cents ≤ payer.balance.cents) ∧
        bank.Finds toId fun payee =>
          payee.status = .active ∧ ∃ balance, payee.balance.checkedAdd amount = some balance
  | applyInterest id rate _ =>
      bank.HasId ∧ rate.isZero = false ∧ bank.Finds id fun account =>
        account.status = .active ∧ ∃ interest balance,
          account.balance.checkedPercentage rate = some interest ∧
            account.balance.checkedAdd interest = some balance
  | requestLoan id amount _ =>
      bank.HasId ∧ 0 < amount.cents ∧ bank.Finds id fun account =>
        account.status = .active ∧ ∃ balance loanBalance,
          account.balance.checkedAdd amount = some balance ∧
            account.loanBalance.checkedAdd amount = some loanBalance
  | payLoan id amount _ =>
      bank.HasId ∧ 0 < amount.cents ∧ bank.Finds id fun account =>
        account.status = .active ∧ account.loanBalance.isZero = false ∧
          (amount.min account.loanBalance).cents ≤ account.balance.cents ∧ ∃ balance,
            account.balance.checkedSub (amount.min account.loanBalance) = some balance

/-- What covers an amount of money is left with an amount of money. -/
theorem rest_of_balance {amount balance : Money} (hpos : 0 < amount.cents)
    (hle : amount.cents ≤ balance.cents) :
    ∃ rest : Money, rest.cents = balance.cents - amount.cents := by
  have hrange := balance.inRange
  exact ⟨⟨balance.cents - amount.cents, by simp only [i64Min] at *; omega, by omega⟩, rfl⟩

/-- A bank that is as the operation asks lets it return. -/
theorem run_of_accepts {op : BankOp} {bank : Bank} (h : op.Accepts bank) :
    ∃ reply bank', op.run bank = (.ok reply, bank') := by
  cases op with
  | createAccount id ownerId name email openingBalance now =>
    obtain ⟨hid, hfresh, hopen, ⟨cn, hn⟩, ce, he⟩ := h
    exact returns_map (Bank.createAccount_ok_iff.mpr
      ⟨hfresh, hopen, hid, cn, ce, hn, he, rfl, rfl⟩)
  | updateName id name now =>
    obtain ⟨hid, ⟨cleaned, hn⟩, account, hfound, -⟩ := h
    exact returns_map (a := ()) (Bank.updateName_ok_iff.mpr
      ⟨hid, cleaned, account, hn, hfound, rfl⟩)
  | updateEmail id email now =>
    obtain ⟨hid, ⟨cleaned, he⟩, account, hfound, -⟩ := h
    exact returns_map (a := ()) (Bank.updateEmail_ok_iff.mpr
      ⟨hid, cleaned, account, he, hfound, rfl⟩)
  | activateAccount id now =>
    obtain ⟨hid, account, hfound, hopen⟩ := h
    exact returns_map (a := ()) (Bank.activateAccount_ok_iff.mpr
      ⟨hid, account, hfound, hopen, rfl⟩)
  | deactivateAccount id now =>
    obtain ⟨hid, account, hfound, hopen⟩ := h
    exact returns_map (a := ()) (Bank.deactivateAccount_ok_iff.mpr
      ⟨hid, account, hfound, hopen, rfl⟩)
  | closeAccount id now =>
    obtain ⟨hid, account, hfound, hb, hl⟩ := h
    exact returns_map (a := ()) (Bank.closeAccount_ok_iff.mpr
      ⟨hid, account, hfound, hb, hl, rfl⟩)
  | deleteAccount id =>
    obtain ⟨account, hfound, hb, hl⟩ := h
    exact returns_map (Bank.deleteAccount_ok_iff.mpr
      ⟨hfound, hb, hl, rfl⟩)
  | deposit id amount now =>
    obtain ⟨hid, hpos, account, hfound, hact, balance, hsum⟩ := h
    exact returns_map (a := ()) (Bank.deposit_ok_iff.mpr ⟨hpos, hid, account, balance,
      hfound, hact, Money.checkedAdd_eq_some.mp hsum, rfl⟩)
  | withdraw id amount now =>
    obtain ⟨hid, hpos, account, hfound, hact, hle⟩ := h
    obtain ⟨balance, hrest⟩ := rest_of_balance hpos hle
    exact returns_map (a := ()) (Bank.withdraw_ok_iff.mpr ⟨hpos, hid, account, balance,
      hfound, hact, hle, hrest, rfl⟩)
  | transfer fromId toId amount nowOut nowIn =>
    obtain ⟨hid, hpos, hne, ⟨payer, hpayer, hactFrom, hle⟩, payee, hpayee, hactTo, toBalance,
      hsum⟩ := h
    obtain ⟨fromBalance, hrest⟩ := rest_of_balance hpos hle
    exact returns_map (a := ()) (Bank.transfer_ok_iff.mpr ⟨hpos, hne, hid, payer, payee,
      fromBalance, toBalance, hpayer, hactFrom, hpayee, hactTo, hle, hrest,
      Money.checkedAdd_eq_some.mp hsum, rfl⟩)
  | applyFee id amount now =>
    obtain ⟨hid, hpos, account, hfound, hact, hle⟩ := h
    obtain ⟨balance, hrest⟩ := rest_of_balance hpos hle
    exact returns_map (a := ()) (Bank.applyFee_ok_iff.mpr ⟨hpos, hid, account, balance,
      hfound, hact, hle, hrest, rfl⟩)
  | applyInterest id rate now =>
    obtain ⟨hid, hrate, account, hfound, hact, interest, balance, hshare, hsum⟩ := h
    exact returns_map (Bank.applyInterest_ok_iff.mpr ⟨hrate, hid,
      account, balance, hfound, hact, hshare, Money.checkedAdd_eq_some.mp hsum, rfl⟩)
  | requestLoan id amount now =>
    obtain ⟨hid, hpos, account, hfound, hact, balance, loanBalance, hsum, hloan⟩ := h
    exact returns_map (a := ()) (Bank.requestLoan_ok_iff.mpr ⟨hpos, hid, account, balance,
      loanBalance, hfound, hact, Money.checkedAdd_eq_some.mp hsum,
      Money.checkedAdd_eq_some.mp hloan, rfl⟩)
  | payLoan id amount now =>
    obtain ⟨hid, hpos, account, hfound, hact, hloan, hle, balance, hrest⟩ := h
    -- the payment is at most the loan, so the loan balance takes it
    obtain ⟨loanBalance, hleft⟩ := Option.ne_none_iff_exists'.mp
      (@Bank.rest_of_loan amount account.loanBalance hpos)
    exact returns_map (Bank.payLoan_ok_iff.mpr ⟨hpos, hid, account, balance,
      loanBalance, hfound, hact, hloan, rfl, hle, Money.checkedSub_eq_some.mp hrest,
      Money.checkedSub_eq_some.mp hleft, rfl⟩)

/-- An operation that returns found the bank as it asks. -/
theorem accepts_of_run {op : BankOp} {bank bank' : Bank} {reply : BankReply}
    (hrun : op.run bank = (.ok reply, bank')) : op.Accepts bank := by
  cases op with
  | createAccount id ownerId name email openingBalance now =>
    obtain ⟨_, h, -⟩ := map_ok_iff.mp hrun
    obtain ⟨hfresh, hopen, hid, cn, ce, hn, he, -⟩ := Bank.createAccount_ok_iff.mp h
    exact ⟨hid, hfresh, hopen, ⟨cn, hn⟩, ce, he⟩
  | updateName id name now =>
    obtain ⟨_, h, -⟩ := map_ok_iff.mp hrun
    obtain ⟨hid, cleaned, account, hn, hfound, -⟩ := Bank.updateName_ok_iff.mp h
    exact ⟨hid, ⟨cleaned, hn⟩, account, hfound, trivial⟩
  | updateEmail id email now =>
    obtain ⟨_, h, -⟩ := map_ok_iff.mp hrun
    obtain ⟨hid, cleaned, account, he, hfound, -⟩ := Bank.updateEmail_ok_iff.mp h
    exact ⟨hid, ⟨cleaned, he⟩, account, hfound, trivial⟩
  | activateAccount id now =>
    obtain ⟨_, h, -⟩ := map_ok_iff.mp hrun
    obtain ⟨hid, account, hfound, hopen, -⟩ := Bank.activateAccount_ok_iff.mp h
    exact ⟨hid, account, hfound, hopen⟩
  | deactivateAccount id now =>
    obtain ⟨_, h, -⟩ := map_ok_iff.mp hrun
    obtain ⟨hid, account, hfound, hopen, -⟩ := Bank.deactivateAccount_ok_iff.mp h
    exact ⟨hid, account, hfound, hopen⟩
  | closeAccount id now =>
    obtain ⟨_, h, -⟩ := map_ok_iff.mp hrun
    obtain ⟨hid, account, hfound, hb, hl, -⟩ := Bank.closeAccount_ok_iff.mp h
    exact ⟨hid, account, hfound, hb, hl⟩
  | deleteAccount id =>
    obtain ⟨account, h, -⟩ := map_ok_iff.mp hrun
    obtain ⟨hfound, hb, hl, -⟩ := Bank.deleteAccount_ok_iff.mp h
    exact ⟨account, hfound, hb, hl⟩
  | deposit id amount now =>
    obtain ⟨_, h, -⟩ := map_ok_iff.mp hrun
    obtain ⟨hpos, hid, account, balance, hfound, hact, hsum, -⟩ :=
      Bank.deposit_ok_iff.mp h
    exact ⟨hid, hpos, account, hfound, hact, balance, Money.checkedAdd_eq_some.mpr hsum⟩
  | withdraw id amount now =>
    obtain ⟨_, h, -⟩ := map_ok_iff.mp hrun
    obtain ⟨hpos, hid, account, balance, hfound, hact, hle, -⟩ :=
      Bank.withdraw_ok_iff.mp h
    exact ⟨hid, hpos, account, hfound, hact, hle⟩
  | transfer fromId toId amount nowOut nowIn =>
    obtain ⟨_, h, -⟩ := map_ok_iff.mp hrun
    obtain ⟨hpos, hne, hid, payer, payee, fromBalance, toBalance, hpayer, hactFrom, hpayee,
      hactTo, hle, -, hsum, -⟩ := Bank.transfer_ok_iff.mp h
    exact ⟨hid, hpos, hne, ⟨payer, hpayer, hactFrom, hle⟩, payee, hpayee, hactTo, toBalance,
      Money.checkedAdd_eq_some.mpr hsum⟩
  | applyFee id amount now =>
    obtain ⟨_, h, -⟩ := map_ok_iff.mp hrun
    obtain ⟨hpos, hid, account, balance, hfound, hact, hle, -⟩ :=
      Bank.applyFee_ok_iff.mp h
    exact ⟨hid, hpos, account, hfound, hact, hle⟩
  | applyInterest id rate now =>
    obtain ⟨interest, h, -⟩ := map_ok_iff.mp hrun
    obtain ⟨hrate, hid, account, balance, hfound, hact, hshare, hsum, -⟩ :=
      Bank.applyInterest_ok_iff.mp h
    exact ⟨hid, hrate, account, hfound, hact, interest, balance, hshare,
      Money.checkedAdd_eq_some.mpr hsum⟩
  | requestLoan id amount now =>
    obtain ⟨_, h, -⟩ := map_ok_iff.mp hrun
    obtain ⟨hpos, hid, account, balance, loanBalance, hfound, hact, hsum, hloan, -⟩ :=
      Bank.requestLoan_ok_iff.mp h
    exact ⟨hid, hpos, account, hfound, hact, balance, loanBalance,
      Money.checkedAdd_eq_some.mpr hsum, Money.checkedAdd_eq_some.mpr hloan⟩
  | payLoan id amount now =>
    obtain ⟨paid, h, -⟩ := map_ok_iff.mp hrun
    obtain ⟨hpos, hid, account, balance, loanBalance, hfound, hact, hloan, rfl, hle, hrest,
      -⟩ := Bank.payLoan_ok_iff.mp h
    exact ⟨hid, hpos, account, hfound, hact, hloan, hle, balance,
      Money.checkedSub_eq_some.mpr hrest⟩

/-- An operation returns exactly if the bank is as it asks. -/
theorem accepts_iff {op : BankOp} {bank : Bank} :
    op.Accepts bank ↔ ∃ reply bank', op.run bank = (.ok reply, bank') := by
  refine ⟨run_of_accepts, fun h => ?_⟩
  obtain ⟨reply, bank', hrun⟩ := h
  exact accepts_of_run hrun

end BankOp

/-! ## What changes -/

namespace Bank

variable {bank bank' : Bank} {id : AccountId} {amount : Money}

theorem history_eq (h : bank'.accounts = bank.accounts) (id : AccountId) :
    bank'.history id = bank.history id := by
  unfold history
  rw [h]

/-- An account is not what it was if its history is not. -/
theorem changed_of_history (id : AccountId)
    (h : (bank'.history id).length ≠ (bank.history id).length) :
    bank'.accounts ≠ bank.accounts := fun he => h (by rw [history_eq he])

theorem post_changes {before : Bank} {account : Account} (transaction : Transaction)
    (h : account.transactions = before.history id) :
    (bank.post id account transaction).accounts ≠ before.accounts := by
  refine changed_of_history id ?_
  rw [history_found (OrdMap.get_insert_self _ _ _), ← h]
  simp [Account.record]

end Bank

namespace BankOp

variable {op : BankOp} {bank bank' : Bank}

/-- An operation that returns changes an account. -/
theorem run_ok_changes {reply : BankReply} (hrun : op.run bank = (.ok reply, bank')) :
    bank'.accounts ≠ bank.accounts := by
  cases run_returned hrun with
  | opened hfresh => exact Bank.post_changes _ (by rw [Bank.history, hfresh]; rfl)
  | renamed hfound => exact Bank.post_changes _ (Bank.history_found hfound).symm
  | readdressed hfound => exact Bank.post_changes _ (Bank.history_found hfound).symm
  | posted hfound hsame =>
    exact Bank.post_changes _ (hsame.transactions.trans (Bank.history_found hfound).symm)
  | transferred _ _ _ hpayee hpayeeSame =>
    exact Bank.post_changes _ (hpayeeSame.transactions.trans (Bank.history_found hpayee).symm)
  | removed hfound => exact OrdMap.erase_ne_self hfound

theorem spills_changes (h : op.SpillsLoan bank) :
    (op.run bank).2.accounts ≠ bank.accounts := by
  cases op with
  | requestLoan id amount now =>
    obtain ⟨bank', hrun, account, balance, hfound, hsum, rfl⟩ := Bank.requestLoan_of_spills now h
    rw [run, map_run, hrun]
    intro hsame
    have hget := OrdMap.get_insert_self bank.accounts id { account with balance }
    rw [show bank.accounts.insert id { account with balance } = bank.accounts from hsame,
      hfound, Option.some.injEq] at hget
    have hbalance : account.balance = balance := congrArg Account.balance hget
    have hpos := h.1
    rw [← hbalance] at hsum
    omega
  | _ => exact h.elim

/-- A call changes an account exactly if the bank is as the call asks, or
takes one half of a loan request. -/
theorem run_changes_iff (op : BankOp) (bank : Bank) :
    (op.run bank).2.accounts ≠ bank.accounts ↔ op.Accepts bank ∨ op.SpillsLoan bank := by
  constructor
  · intro hchanged
    rcases hrun : op.run bank with ⟨e | reply, bank'⟩
    · rcases run_error hrun with hl | ⟨-, hs, -⟩
      · rw [hrun] at hchanged
        exact absurd hl.accounts hchanged
      · exact .inr hs
    · exact .inl (accepts_iff.mpr ⟨reply, bank', hrun⟩)
  · intro h
    rcases h with haccepts | hspills
    · obtain ⟨reply, bank', hrun⟩ := accepts_iff.mp haccepts
      rw [hrun]
      exact run_ok_changes hrun
    · exact spills_changes hspills

end BankOp

/-! ## The monthly fee -/

namespace Bank

variable {bank bank' : Bank} {id : AccountId} {amount : Money} {now : Nat}

theorem nextTransaction_error {kind : TransactionKind} {description : String} {e : BankError}
    (h : nextTransaction now kind amount description bank = (.error e, bank')) :
    bank' = bank := by
  simp only [nextTransaction, bind_error_iff, okOr_error_iff, get_ok_iff, okOr_ok_iff] at h
  rcases h with h | ⟨_, _, ⟨rfl, rfl⟩, ⟨-, -, rfl⟩ | ⟨_, _, ⟨-, rfl⟩, h⟩⟩
  · simp at h
  · rfl
  · rcases h with h | ⟨_, _, -, h⟩
    · simp at h
    · simp at h

/-- A fee that is refused leaves the bank as it was: an id is taken only
once nothing can fail any more. -/
theorem applyFee_error {e : BankError} (h : applyFee id amount now bank = (.error e, bank')) :
    bank' = bank := by
  have hfailed := h
  replace h := bind_error_iff.mp h
  rcases h with h | ⟨_, bank, hok, h⟩
  · exact (keeps_lift (I := (· = bank)) _ bank rfl).2 _ _ h
  obtain ⟨hpos, rfl⟩ := lift_ok_iff.mp hok
  replace h := bind_error_iff.mp h
  rcases h with h | ⟨_, bank, hok, h⟩
  · exact (keeps_ensureCanTransact (I := (· = bank)) id bank rfl).2 _ _ h
  obtain ⟨⟨account, hfound, hact⟩, rfl⟩ := ensureCanTransact_ok_iff.mp hok
  replace h := bind_error_iff.mp h
  rcases h with h | ⟨_, bank, hok, h⟩
  · exact (keeps_ensureSufficientFunds (I := (· = bank)) id amount bank rfl).2 _ _ h
  obtain ⟨⟨funded, hfunded, hle⟩, rfl⟩ := ensureSufficientFunds_ok_iff.mp hok
  replace h := bind_error_iff.mp h
  rcases h with h | ⟨_, _, hok, -⟩
  · exact nextTransaction_error h
  · obtain ⟨hid, -⟩ := nextTransaction_ok_iff.mp hok
    have haccepts : (BankOp.applyFee id amount now).Accepts bank :=
      ⟨hid, ensurePositive_ok_iff.mp hpos, account, hfound, hact, by
        obtain rfl : account = funded := Option.some.inj (hfound.symm.trans hfunded)
        exact hle⟩
    obtain ⟨_, _, hrun⟩ := BankOp.accepts_iff.mp haccepts
    obtain ⟨_, hcharged, -⟩ := map_ok_iff.mp hrun
    rw [hfailed] at hcharged
    cases hcharged

/-- The history of an account only grows while fees are charged. -/
theorem chargeFees_history (amount : Money) (clock : AccountId → Nat) (id : AccountId) :
    ∀ (ids : List AccountId) (bank : Bank),
      (bank.history id).length ≤ ((chargeFees amount clock ids bank).2.history id).length
  | [], bank => le_rfl
  | first :: rest, bank => by
      rw [chargeFees_cons]
      refine le_trans ?_ (chargeFees_history amount clock id rest _)
      rcases hrun : applyFee first amount (clock first) bank with ⟨e | u, bank'⟩
      · rw [applyFee_error hrun]
      · obtain ⟨-, -, account, _, hfound, -, -, -, rfl⟩ := applyFee_ok_iff.mp hrun
        rw [post, history_insert]
        split
        · rename_i heq
          subst heq
          rw [history_found hfound]
          simp [Account.record]
        · exact le_rfl

/-- Charging the fee to the accounts changes one exactly if one of them can
pay it. -/
theorem chargeFees_changes_iff (amount : Money) (clock : AccountId → Nat) :
    ∀ (ids : List AccountId) (bank : Bank),
      (chargeFees amount clock ids bank).2.accounts ≠ bank.accounts ↔
        ∃ id ∈ ids, (BankOp.applyFee id amount (clock id)).Accepts bank
  | [], bank => by simp [chargeFees]
  | first :: rest, bank => by
      rw [chargeFees_cons, List.exists_mem_cons_iff]
      rcases hrun : applyFee first amount (clock first) bank with ⟨e | u, bank'⟩
      · obtain rfl := applyFee_error hrun
        have hrefused : ¬ (BankOp.applyFee first amount (clock first)).Accepts bank' := by
          intro haccepts
          obtain ⟨_, _, hok⟩ := BankOp.accepts_iff.mp haccepts
          obtain ⟨_, hcharged, -⟩ := map_ok_iff.mp hok
          rw [hrun] at hcharged
          cases hcharged
        rw [chargeFees_changes_iff amount clock rest bank']
        exact ⟨.inr, fun h => h.resolve_left hrefused⟩
      · -- the history that the first account has now is in the bank to the end
        have haccepts : (BankOp.applyFee first amount (clock first)).Accepts bank :=
          BankOp.accepts_iff.mpr ⟨_, _, map_ok_iff.mpr ⟨u, hrun, rfl⟩⟩
        obtain ⟨-, -, account, _, hfound, -, -, -, rfl⟩ := applyFee_ok_iff.mp hrun
        refine ⟨fun _ => .inl haccepts, fun _ => changed_of_history first ?_⟩
        refine ne_of_gt (lt_of_lt_of_le ?_ (chargeFees_history amount clock first rest _))
        rw [history_found hfound, history_found (OrdMap.get_insert_self _ _ _)]
        simp [Account.record]

theorem applyMonthlyFee_changes_iff (amount : Money) (clock : AccountId → Nat) (bank : Bank) :
    (bank.applyMonthlyFee amount clock).2.accounts ≠ bank.accounts ↔
      ∃ id, (BankOp.applyFee id amount (clock id)).Accepts bank := by
  rw [applyMonthlyFee, chargeFees_changes_iff]
  constructor
  · intro h
    obtain ⟨id, -, haccepts⟩ := h
    exact ⟨id, haccepts⟩
  · intro h
    obtain ⟨id, haccepts⟩ := h
    refine ⟨id, ?_, haccepts⟩
    obtain ⟨-, -, account, hfound, -⟩ := haccepts
    rw [Std.ExtTreeMap.mem_keys, ← Std.ExtTreeMap.isSome_getElem?_iff_mem, hfound]
    rfl

end Bank

end Banck
