/-
Banck.BankMoves — every way a call can change the bank.

`Entry before kind amount after` says what recording one transaction of a
kind may do to the account it is recorded on. `Move.Step` says what one
small change of the bank is: an account opened, a transaction posted, an
account removed, ids skipped by a call that failed, and the one way in
which a failing call changes an account (`spilled`: a loan whose balance
was raised before its second sum overflowed). `BankOp.run_path` is the
inversion lemma of the whole module: whatever a call does, returning or
failing, is a path of moves. An invariant of the bank is proved once for
each kind of move.
-/
import Banck.Lib.Machine
import Banck.BankFailures

namespace Banck

open Lib Mut Machine

/-! ## Calls -/

/-- A call of one of the operations, with the clock readings it makes. -/
inductive BankOp where
  | createAccount (id : AccountId) (ownerId : Option CustomerId) (name email : String)
      (openingBalance : Money) (now : Nat)
  | updateName (id : AccountId) (name : String) (now : Nat)
  | updateEmail (id : AccountId) (email : String) (now : Nat)
  | activateAccount (id : AccountId) (now : Nat)
  | deactivateAccount (id : AccountId) (now : Nat)
  | closeAccount (id : AccountId) (now : Nat)
  | deleteAccount (id : AccountId)
  | deposit (id : AccountId) (amount : Money) (now : Nat)
  | withdraw (id : AccountId) (amount : Money) (now : Nat)
  | transfer (fromId toId : AccountId) (amount : Money) (nowOut nowIn : Nat)
  | applyFee (id : AccountId) (amount : Money) (now : Nat)
  | applyInterest (id : AccountId) (rate : InterestRate) (now : Nat)
  | requestLoan (id : AccountId) (amount : Money) (now : Nat)
  | payLoan (id : AccountId) (amount : Money) (now : Nat)
  deriving DecidableEq

/-- What a call returns. -/
inductive BankReply where
  | unit
  | account (account : Account)
  | money (amount : Money)
  deriving DecidableEq

namespace BankOp

def run : BankOp → BankM BankReply
  | createAccount id ownerId name email openingBalance now =>
      map .account (Bank.createAccount id ownerId name email openingBalance now)
  | updateName id name now => map (fun _ => .unit) (Bank.updateName id name now)
  | updateEmail id email now => map (fun _ => .unit) (Bank.updateEmail id email now)
  | activateAccount id now => map (fun _ => .unit) (Bank.activateAccount id now)
  | deactivateAccount id now => map (fun _ => .unit) (Bank.deactivateAccount id now)
  | closeAccount id now => map (fun _ => .unit) (Bank.closeAccount id now)
  | deleteAccount id => map .account (Bank.deleteAccount id)
  | deposit id amount now => map (fun _ => .unit) (Bank.deposit id amount now)
  | withdraw id amount now => map (fun _ => .unit) (Bank.withdraw id amount now)
  | transfer fromId toId amount nowOut nowIn =>
      map (fun _ => .unit) (Bank.transfer fromId toId amount nowOut nowIn)
  | applyFee id amount now => map (fun _ => .unit) (Bank.applyFee id amount now)
  | applyInterest id rate now => map .money (Bank.applyInterest id rate now)
  | requestLoan id amount now => map (fun _ => .unit) (Bank.requestLoan id amount now)
  | payLoan id amount now => map .money (Bank.payLoan id amount now)

end BankOp

/-! ## What one transaction does to its account -/

/-- `after` is `before` with one transaction of `kind` and `amount` carried
out, its history not yet extended. -/
inductive Entry (before : Account) : TransactionKind → Money → Account → Prop
  | credited {kind : TransactionKind} {amount balance : Money}
      (kindIs : kind = .deposit ∨ kind = .transferIn)
      (active : before.status = .active) (positive : 0 < amount.cents)
      (sum : balance.cents = before.balance.cents + amount.cents) :
      Entry before kind amount { before with balance }
  | debited {kind : TransactionKind} {amount balance : Money}
      (kindIs : kind = .withdrawal ∨ kind = .transferOut ∨ kind = .fee)
      (active : before.status = .active) (positive : 0 < amount.cents)
      (covered : amount.cents ≤ before.balance.cents)
      (rest : balance.cents = before.balance.cents - amount.cents) :
      Entry before kind amount { before with balance }
  | interest {rate : InterestRate} {amount balance : Money}
      (active : before.status = .active)
      (share : before.balance.checkedPercentage rate = some amount)
      (sum : balance.cents = before.balance.cents + amount.cents) :
      Entry before .interest amount { before with balance }
  | loanRequested {amount balance loanBalance : Money}
      (active : before.status = .active) (positive : 0 < amount.cents)
      (sum : balance.cents = before.balance.cents + amount.cents)
      (loan : loanBalance.cents = before.loanBalance.cents + amount.cents) :
      Entry before .loanRequested amount { before with balance, loanBalance }
  | loanPayment {asked amount balance loanBalance : Money}
      (active : before.status = .active) (positive : 0 < asked.cents)
      (capped : amount = asked.min before.loanBalance)
      (covered : amount.cents ≤ before.balance.cents)
      (rest : balance.cents = before.balance.cents - amount.cents)
      (loan : loanBalance.cents = before.loanBalance.cents - amount.cents) :
      Entry before .loanPayment amount { before with balance, loanBalance }
  | renamed {raw name : String} (clean : cleanName raw = .ok name) :
      Entry before .profileUpdated Money.zero { before with name }
  | readdressed {raw email : String} (clean : cleanEmail raw = .ok email) :
      Entry before .profileUpdated Money.zero { before with email }
  | activated (notClosed : before.status ≠ .closed) :
      Entry before .activated Money.zero { before with status := .active }
  | deactivated (notClosed : before.status ≠ .closed) :
      Entry before .deactivated Money.zero { before with status := .inactive }
  | closed (balance : before.balance.cents = 0) (loan : before.loanBalance.cents = 0) :
      Entry before .closed Money.zero { before with status := .closed }

/-- An account as it is opened, its history still empty. -/
def Opening (account : Account) : Prop :=
  ∃ id ownerId rawName rawEmail name email openingBalance,
    cleanName rawName = .ok name ∧ cleanEmail rawEmail = .ok email ∧
    0 ≤ openingBalance.cents ∧ account = Account.new id ownerId name email openingBalance

/-! ## Moves -/

inductive Move where
  | opened (account : Account) (transaction : Transaction)
  | posted (id : AccountId) (account : Account) (transaction : Transaction)
  | removed (id : AccountId)
  | skipped (next : Nat)
  | spilled (id : AccountId) (balance : Money)

inductive Move.Step : Bank → Move → Bank → Prop
  | opened {bank : Bank} {account : Account} {transaction : Transaction}
      (fresh : bank.accounts[account.id]? = none) (opening : Opening account)
      (hasId : bank.HasId) (numbered : transaction.id = bank.nextTransactionId)
      (kind : transaction.kind = .accountCreated)
      (amount : transaction.amount = account.balance) :
      Step bank (.opened account transaction) (bank.post account.id account transaction)
  | posted {bank : Bank} {id : AccountId} {before account : Account}
      {transaction : Transaction} (found : bank.accounts[id]? = some before)
      (hasId : bank.HasId) (numbered : transaction.id = bank.nextTransactionId)
      (entry : Entry before transaction.kind transaction.amount account) :
      Step bank (.posted id account transaction) (bank.post id account transaction)
  | removed {bank : Bank} {id : AccountId} {account : Account}
      (found : bank.accounts[id]? = some account) (balance : account.balance.cents = 0)
      (loan : account.loanBalance.cents = 0) :
      Step bank (.removed id) { bank with accounts := bank.accounts.erase id }
  | skipped {bank : Bank} {next : Nat} (le : bank.nextTransactionId ≤ next)
      (bounded : bank.nextTransactionId ≤ u64Max → next ≤ u64Max) :
      Step bank (.skipped next) { bank with nextTransactionId := next }
  | spilled {bank : Bank} {id : AccountId} {account : Account} {amount balance : Money}
      (found : bank.accounts[id]? = some account) (hasId : bank.HasId)
      (active : account.status = .active) (positive : 0 < amount.cents)
      (sum : balance.cents = account.balance.cents + amount.cents)
      (loan : i64Max < account.loanBalance.cents + amount.cents) :
      Step bank (.spilled id balance)
        { accounts := bank.accounts.insert id { account with balance }
          nextTransactionId := bank.nextTransactionId + 1 }

/-- The move of a loan request that stopped half way. -/
def Move.IsSpill : Move → Prop
  | spilled _ _ => True
  | opened _ _ | posted _ _ _ | removed _ | skipped _ => False

/-! ## What a move adds -/

/-- The sign with which an amount of this kind counts towards the balance. -/
def TransactionKind.balanceSign : TransactionKind → Int
  | accountCreated | deposit | transferIn | interest | loanRequested => 1
  | withdrawal | transferOut | fee | loanPayment => -1
  | profileUpdated | activated | deactivated | closed => 0

/-- The sign with which an amount of this kind counts towards the loan. -/
def TransactionKind.loanSign : TransactionKind → Int
  | loanRequested => 1
  | loanPayment => -1
  | accountCreated | deposit | withdrawal | transferIn | transferOut | fee | interest
  | profileUpdated | activated | deactivated | closed => 0

def Transaction.balanceEffect (transaction : Transaction) : Int :=
  transaction.kind.balanceSign * transaction.amount.cents

def Transaction.loanEffect (transaction : Transaction) : Int :=
  transaction.kind.loanSign * transaction.amount.cents

/-- What is left of the balance after the loan. -/
def Transaction.netEffect (transaction : Transaction) : Int :=
  transaction.balanceEffect - transaction.loanEffect

def Move.flow : Move → Int
  | opened _ transaction => transaction.netEffect
  | posted _ _ transaction => transaction.netEffect
  | removed _ | skipped _ | spilled _ _ => 0

/-- The money a call brings into the bank, or takes out of it if negative. -/
def BankOp.flow : BankOp → Except BankError BankReply → Int
  | .createAccount _ _ _ _ openingBalance _, .ok _ => openingBalance.cents
  | .deposit _ amount _, .ok _ => amount.cents
  | .withdraw _ amount _, .ok _ => -amount.cents
  | .applyFee _ amount _, .ok _ => -amount.cents
  | .applyInterest _ _ _, .ok (.money interest) => interest.cents
  | _, _ => 0

/-- The operations that move money inside the bank, or none. -/
def BankOp.IsInternal : BankOp → Prop
  | .transfer .. | .requestLoan .. | .payLoan .. | .closeAccount .. | .deleteAccount .. => True
  | _ => False

/-- The accounts a call may record a transaction on, each with its kind. -/
def BankOp.postings : BankOp → List (AccountId × TransactionKind)
  | createAccount .. | deleteAccount _ => []
  | updateName id _ _ | updateEmail id _ _ => [(id, .profileUpdated)]
  | activateAccount id _ => [(id, .activated)]
  | deactivateAccount id _ => [(id, .deactivated)]
  | closeAccount id _ => [(id, .closed)]
  | deposit id _ _ => [(id, .deposit)]
  | withdraw id _ _ => [(id, .withdrawal)]
  | transfer fromId toId _ _ _ => [(fromId, .transferOut), (toId, .transferIn)]
  | applyFee id _ _ => [(id, .fee)]
  | applyInterest id _ _ => [(id, .interest)]
  | requestLoan id _ _ => [(id, .loanRequested)]
  | payLoan id _ _ => [(id, .loanPayment)]

/-- The moves a call may make. -/
def BankOp.Makes (op : BankOp) : Move → Prop
  | .opened account _ => ∃ ownerId name email openingBalance now,
      op = .createAccount account.id ownerId name email openingBalance now
  | .posted id _ transaction => (id, transaction.kind) ∈ op.postings
  | .removed id => op = .deleteAccount id
  | .skipped _ => True
  | .spilled id _ => ∃ amount now, op = .requestLoan id amount now

/-! ## Calls are paths of moves -/

theorem Bank.Lapsed.step {bank bank' : Bank} (h : bank.Lapsed bank') :
    Move.Step bank (.skipped bank'.nextTransactionId) bank' := by
  have hstep := Move.Step.skipped h.le h.bounded
  rwa [← h.accounts] at hstep

namespace BankOp

/-- The request of a loan that the balance takes and the loan balance does
not. -/
def SpillsLoan (bank : Bank) : BankOp → Prop
  | .requestLoan id amount _ => bank.SpillsLoan id amount
  | _ => False

/-- A failing call changes no account, or is a loan request that stopped
half way. -/
theorem run_error {op : BankOp} {bank bank' : Bank} {e : BankError}
    (h : op.run bank = (.error e, bank')) :
    bank.Lapsed bank' ∨
      e = .arithmeticOverflow ∧ op.SpillsLoan bank ∧
        ∃ id amount now, op = .requestLoan id amount now ∧ bank.Spilled id amount bank' := by
  cases op with
  | createAccount id ownerId name email openingBalance now =>
    exact .inl ((Bank.createAccount_failsLapsed id ownerId name email openingBalance now).error
      (map_error_iff.mp h))
  | updateName id name now =>
    exact .inl ((Bank.updateProfile_failsLapsed id _ _ _ now).error (map_error_iff.mp h))
  | updateEmail id email now =>
    exact .inl ((Bank.updateProfile_failsLapsed id _ _ _ now).error (map_error_iff.mp h))
  | activateAccount id now =>
    exact .inl ((Bank.switchStatus_failsLapsed id _ _ _ now).error (map_error_iff.mp h))
  | deactivateAccount id now =>
    exact .inl ((Bank.switchStatus_failsLapsed id _ _ _ now).error (map_error_iff.mp h))
  | closeAccount id now =>
    exact .inl ((Bank.closeAccount_failsLapsed id now).error (map_error_iff.mp h))
  | deleteAccount id => exact .inl (Bank.deleteAccount_error (map_error_iff.mp h))
  | deposit id amount now =>
    exact .inl ((Bank.deposit_failsLapsed id amount now).error (map_error_iff.mp h))
  | withdraw id amount now =>
    exact .inl ((Bank.debit_failsLapsed id amount _ _ now).error (map_error_iff.mp h))
  | transfer fromId toId amount nowOut nowIn =>
    exact .inl ((Bank.transfer_failsLapsed fromId toId amount nowOut nowIn).error
      (map_error_iff.mp h))
  | applyFee id amount now =>
    exact .inl ((Bank.debit_failsLapsed id amount _ _ now).error (map_error_iff.mp h))
  | applyInterest id rate now =>
    exact .inl ((Bank.applyInterest_failsLapsed id rate now).error (map_error_iff.mp h))
  | requestLoan id amount now =>
    rcases Bank.requestLoan_error (map_error_iff.mp h) with hl | ⟨he, hs, hsp⟩
    · exact .inl hl
    · exact .inr ⟨he, hs, id, amount, now, rfl, hsp⟩
  | payLoan id amount now =>
    exact .inl ((Bank.payLoan_failsLapsed id amount now).error (map_error_iff.mp h))

/-- The moves of a call: a path to the bank it leaves, without a spill and
adding up to the call's flow. -/
def Explained (bank bank' : Bank) (flow : Int) : Prop :=
  ∃ moves, Path Move.Step bank moves bank' ∧ (∀ m ∈ moves, ¬ m.IsSpill) ∧
    (moves.map Move.flow).sum = flow

/-- The moves of a call, each one that the call may make. -/
def ExplainedBy (op : BankOp) (bank bank' : Bank) (flow : Int) : Prop :=
  ∃ moves, Path Move.Step bank moves bank' ∧ (∀ m ∈ moves, ¬ m.IsSpill) ∧
    (moves.map Move.flow).sum = flow ∧ ∀ m ∈ moves, op.Makes m

theorem ExplainedBy.explained {op : BankOp} {bank bank' : Bank} {flow : Int}
    (h : ExplainedBy op bank bank' flow) : Explained bank bank' flow := by
  obtain ⟨moves, hpath, hspill, hflow, -⟩ := h
  exact ⟨moves, hpath, hspill, hflow⟩

theorem explainedBy_step {op : BankOp} {bank bank' : Bank} {m : Move} {flow : Int}
    (h : Move.Step bank m bank') (hs : ¬ m.IsSpill) (hmakes : op.Makes m)
    (hflow : m.flow = flow) : ExplainedBy op bank bank' flow :=
  ⟨[m], .single h, by simpa using hs, by simpa using hflow, by simpa using hmakes⟩

/-- A call that records one transaction. -/
theorem explainedBy_stamp {op : BankOp} {bank : Bank} {id : AccountId} {before account : Account}
    {now : Nat} {kind : TransactionKind} {amount : Money} {description : String} {flow : Int}
    (found : bank.accounts[id]? = some before) (hasId : bank.HasId)
    (entry : Entry before kind amount account) (hmakes : (id, kind) ∈ op.postings)
    (hflow : kind.balanceSign * amount.cents - kind.loanSign * amount.cents = flow) :
    ExplainedBy op bank (bank.post id account (bank.stamp now kind amount description)) flow :=
  explainedBy_step (.posted found hasId rfl entry) (fun h => h) hmakes hflow

/-- What a returning call did. -/
theorem run_ok {op : BankOp} {bank bank' : Bank} {reply : BankReply}
    (hrun : op.run bank = (.ok reply, bank')) :
    ExplainedBy op bank bank' (op.flow (.ok reply)) := by
  cases op with
  | createAccount id ownerId name email openingBalance now =>
    obtain ⟨_, h, rfl⟩ := map_ok_iff.mp hrun
    obtain ⟨hfresh, hopen, hid, cn, ce, hn, he, -, rfl⟩ := Bank.createAccount_ok_iff.mp h
    have hopening : Opening (Account.new id ownerId cn ce openingBalance) :=
      ⟨id, ownerId, name, email, cn, ce, openingBalance, hn, he, hopen, rfl⟩
    refine explainedBy_step (.opened hfresh hopening hid rfl rfl rfl) (fun h => h)
      ⟨_, _, _, _, _, rfl⟩ ?_
    simp [Move.flow, flow, Bank.stamp, Transaction.netEffect, Transaction.balanceEffect,
      Transaction.loanEffect, TransactionKind.balanceSign, TransactionKind.loanSign]
  | updateName id name now =>
    obtain ⟨_, h, rfl⟩ := map_ok_iff.mp hrun
    obtain ⟨hid, cleaned, account, hn, hfound, rfl⟩ := Bank.updateName_ok_iff.mp h
    exact explainedBy_stamp hfound hid (.renamed hn) (by simp [postings]) rfl
  | updateEmail id email now =>
    obtain ⟨_, h, rfl⟩ := map_ok_iff.mp hrun
    obtain ⟨hid, cleaned, account, he, hfound, rfl⟩ := Bank.updateEmail_ok_iff.mp h
    exact explainedBy_stamp hfound hid (.readdressed he) (by simp [postings]) rfl
  | activateAccount id now =>
    obtain ⟨_, h, rfl⟩ := map_ok_iff.mp hrun
    obtain ⟨hid, account, hfound, hopen, rfl⟩ := Bank.activateAccount_ok_iff.mp h
    exact explainedBy_stamp hfound hid (.activated (Account.isClosed_eq_false.mp hopen))
      (by simp [postings]) rfl
  | deactivateAccount id now =>
    obtain ⟨_, h, rfl⟩ := map_ok_iff.mp hrun
    obtain ⟨hid, account, hfound, hopen, rfl⟩ := Bank.deactivateAccount_ok_iff.mp h
    exact explainedBy_stamp hfound hid (.deactivated (Account.isClosed_eq_false.mp hopen))
      (by simp [postings]) rfl
  | closeAccount id now =>
    obtain ⟨_, h, rfl⟩ := map_ok_iff.mp hrun
    obtain ⟨hid, account, hfound, hb, hl, rfl⟩ := Bank.closeAccount_ok_iff.mp h
    exact explainedBy_stamp hfound hid (.closed hb hl) (by simp [postings]) rfl
  | deleteAccount id =>
    obtain ⟨_, h, rfl⟩ := map_ok_iff.mp hrun
    obtain ⟨hfound, hb, hl, rfl⟩ := Bank.deleteAccount_ok_iff.mp h
    exact explainedBy_step (.removed hfound hb hl) (fun h => h) rfl rfl
  | deposit id amount now =>
    obtain ⟨_, h, rfl⟩ := map_ok_iff.mp hrun
    obtain ⟨hpos, hid, account, balance, hfound, hact, hsum, rfl⟩ :=
      Bank.deposit_ok_iff.mp h
    exact explainedBy_stamp hfound hid (.credited (.inl rfl) hact hpos hsum)
      (by simp [postings]) (by simp [flow, TransactionKind.balanceSign, TransactionKind.loanSign])
  | withdraw id amount now =>
    obtain ⟨_, h, rfl⟩ := map_ok_iff.mp hrun
    obtain ⟨hpos, hid, account, balance, hfound, hact, hle, hrest, rfl⟩ :=
      Bank.withdraw_ok_iff.mp h
    exact explainedBy_stamp hfound hid (.debited (.inl rfl) hact hpos hle hrest)
      (by simp [postings]) (by simp [flow, TransactionKind.balanceSign, TransactionKind.loanSign])
  | transfer fromId toId amount nowOut nowIn =>
    obtain ⟨_, h, rfl⟩ := map_ok_iff.mp hrun
    obtain ⟨hpos, hne, hid, payer, payee, fromBalance, toBalance, hpayer, hactFrom, hpayee,
      hactTo, hle, hfrom, hto, rfl⟩ := Bank.transfer_ok_iff.mp h
    -- two posts; the second finds the payee where the first left it
    refine ⟨_, .cons (.posted hpayer (Nat.lt_of_succ_lt hid) rfl
        (.debited (.inr (.inl rfl)) hactFrom hpos hle hfrom))
      (.single (.posted (Bank.post_found_ne hne hpayee _ _) hid rfl
        (.credited (.inr rfl) hactTo hpos hto))), ?_, ?_, ?_⟩
    · simp [Move.IsSpill]
    · simp [Move.flow, flow, Bank.stamp, Transaction.netEffect, Transaction.balanceEffect,
        Transaction.loanEffect, TransactionKind.balanceSign, TransactionKind.loanSign]
    · simp [Makes, postings, Bank.stamp]
  | applyFee id amount now =>
    obtain ⟨_, h, rfl⟩ := map_ok_iff.mp hrun
    obtain ⟨hpos, hid, account, balance, hfound, hact, hle, hrest, rfl⟩ :=
      Bank.applyFee_ok_iff.mp h
    exact explainedBy_stamp hfound hid (.debited (.inr (.inr rfl)) hact hpos hle hrest)
      (by simp [postings]) (by simp [flow, TransactionKind.balanceSign, TransactionKind.loanSign])
  | applyInterest id rate now =>
    obtain ⟨paid, h, rfl⟩ := map_ok_iff.mp hrun
    obtain ⟨-, hid, account, balance, hfound, hact, hshare, hsum, rfl⟩ :=
      Bank.applyInterest_ok_iff.mp h
    exact explainedBy_stamp hfound hid (.interest hact hshare hsum)
      (by simp [postings]) (by simp [flow, TransactionKind.balanceSign, TransactionKind.loanSign])
  | requestLoan id amount now =>
    obtain ⟨_, h, rfl⟩ := map_ok_iff.mp hrun
    obtain ⟨hpos, hid, account, balance, loanBalance, hfound, hact, hsum, hloan, rfl⟩ :=
      Bank.requestLoan_ok_iff.mp h
    exact explainedBy_stamp hfound hid (.loanRequested hact hpos hsum hloan)
      (by simp [postings]) (by simp [flow, TransactionKind.balanceSign, TransactionKind.loanSign])
  | payLoan id amount now =>
    obtain ⟨paid, h, rfl⟩ := map_ok_iff.mp hrun
    obtain ⟨hpos, hid, account, balance, loanBalance, hfound, hact, -, hpaid, hle, hrest,
      hloan, rfl⟩ := Bank.payLoan_ok_iff.mp h
    exact explainedBy_stamp hfound hid (.loanPayment hact hpos hpaid hle hrest hloan)
      (by simp [postings]) (by simp [flow, TransactionKind.balanceSign, TransactionKind.loanSign])

@[simp] theorem flow_error (op : BankOp) (e : BankError) : op.flow (.error e) = 0 := by
  cases op <;> rfl

/-- A call that does not overflow is a path without a spill, and its moves
add up to its flow. -/
theorem run_explained (op : BankOp) (bank : Bank)
    (h : (op.run bank).1 ≠ .error .arithmeticOverflow) :
    Explained bank (op.run bank).2 (op.flow (op.run bank).1) := by
  rcases hrun : op.run bank with ⟨e | reply, bank'⟩
  · rw [hrun] at h
    rcases run_error hrun with hl | ⟨rfl, -⟩
    · exact ⟨_, .single hl.step, by simp [Move.IsSpill], by simp [Move.flow]⟩
    · exact absurd rfl h
  · exact (run_ok hrun).explained

/-- Whatever a call does is a path of moves that it may make. -/
theorem run_moves (op : BankOp) (bank : Bank) :
    ∃ moves, Path Move.Step bank moves (op.run bank).2 ∧ ∀ m ∈ moves, op.Makes m := by
  rcases hrun : op.run bank with ⟨e | reply, bank'⟩
  · rcases run_error hrun with hl | ⟨-, hs, id, amount, now, rfl, hsp⟩
    · exact ⟨_, .single hl.step, by simp [Makes]⟩
    · obtain ⟨account, balance, hfound, hsum, rfl⟩ := hsp
      obtain ⟨hpos, hid, again, hagain, hact, -, hloan⟩ := hs
      obtain rfl : account = again := Option.some.inj (hfound.symm.trans hagain)
      exact ⟨_, .single (.spilled hfound hid hact hpos hsum hloan), by simp [Makes]⟩
  · obtain ⟨moves, hpath, -, -, hmakes⟩ := run_ok hrun
    exact ⟨moves, hpath, hmakes⟩

theorem run_path (op : BankOp) (bank : Bank) :
    ∃ moves, Path Move.Step bank moves (op.run bank).2 := by
  obtain ⟨moves, hpath, -⟩ := op.run_moves bank
  exact ⟨moves, hpath⟩

end BankOp

/-! ## Runs -/

/-- A call of the bank: one operation, or the fee charged to every account. -/
inductive BankCall where
  | call (op : BankOp)
  | applyMonthlyFee (amount : Money) (clock : AccountId → Nat)

/-- What a call answers. -/
inductive BankAnswer where
  | reply (result : Except BankError BankReply)
  | fees (results : List (AccountId × Except BankError Unit))

/-- Some arithmetic overflowed. -/
def BankAnswer.Overflowed : BankAnswer → Prop
  | reply result => result = .error .arithmeticOverflow
  | fees results => ∃ charged ∈ results, charged.2 = .error .arithmeticOverflow

instance : DecidablePred BankAnswer.Overflowed
  | .reply result => inferInstanceAs (Decidable (result = .error .arithmeticOverflow))
  | .fees results =>
      inferInstanceAs (Decidable (∃ charged ∈ results, charged.2 = .error .arithmeticOverflow))

namespace BankCall

def run (bank : Bank) : BankCall → BankAnswer × Bank
  | .call op => let (result, bank') := op.run bank; (.reply result, bank')
  | .applyMonthlyFee amount clock =>
      let (results, bank') := bank.applyMonthlyFee amount clock; (.fees results, bank')

/-- The money a call brings into the bank. -/
def flow : BankCall → BankAnswer → Int
  | .call op, .reply result => op.flow result
  | .applyMonthlyFee amount _, .fees results =>
      -(amount.cents * (results.filter fun charged => charged.2.isOk).length)
  | _, _ => 0

end BankCall

end Banck
