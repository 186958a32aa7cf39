/-
Banck.BankReturns — what a call that returned left, said once.

A returning operation opens an account, gives one a new name or address,
posts a transaction on one account or on two, or removes an account.
`BankOp.Returned` has a constructor for each, with what the accounts kept
and what they were given; `run_returned` is the inversion lemma. What a
returning operation does to the owners, the histories and the texts of a
bank is a case analysis of six cases, not of fourteen.
-/
import Banck.BankMoves

namespace Banck

open Lib Mut Text

/-! ## The texts of an operation -/

/-- The name and the address that the operation gives an account. -/
def BankOp.profile : BankOp → List String
  | createAccount _ _ name email _ _ => [trim name, toLowercase (trim email)]
  | updateName _ name _ => [trim name]
  | updateEmail _ email _ => [toLowercase (trim email)]
  | activateAccount .. | deactivateAccount .. | closeAccount .. | deleteAccount _ | deposit ..
  | withdraw .. | transfer .. | applyFee .. | applyInterest .. | requestLoan .. | payLoan .. => []

def BankOp.descriptions : BankOp → List String
  | createAccount .. => ["Account created"]
  | updateName .. => ["Name updated"]
  | updateEmail .. => ["Email updated"]
  | activateAccount .. => ["Account activated"]
  | deactivateAccount .. => ["Account deactivated"]
  | closeAccount .. => ["Account closed"]
  | deleteAccount _ => []
  | deposit .. => ["Money deposited"]
  | withdraw .. => ["Money withdrawn"]
  | transfer fromId toId _ _ _ =>
      ["Transferred to account " ++ toString toId, "Received from account " ++ toString fromId]
  | applyFee .. => ["Bank fee applied"]
  | applyInterest _ rate _ => ["Interest added at " ++ rate.display]
  | requestLoan .. => ["Loan received"]
  | payLoan .. => ["Loan payment made"]

/-! ## The inversion lemma -/

/-- The account has another balance, loan balance or status at most. -/
structure Account.SameBut (before after : Account) : Prop where
  ownerId : after.ownerId = before.ownerId
  name : after.name = before.name
  email : after.email = before.email
  transactions : after.transactions = before.transactions

theorem Account.sameBut (account : Account) (balance loanBalance : Money)
    (status : AccountStatus) :
    account.SameBut { account with balance, loanBalance, status } := ⟨rfl, rfl, rfl, rfl⟩

namespace BankOp

/-- The bank that a returning operation leaves. -/
inductive Returned (bank : Bank) : BankOp → Bank → Prop
  | opened {id : AccountId} {ownerId : Option CustomerId} {name email : String}
      {openingBalance : Money} {now : Nat} {transaction : Transaction}
      (fresh : bank.accounts[id]? = none)
      (described : transaction.description = "Account created") :
      Returned bank (.createAccount id ownerId name email openingBalance now)
        (bank.post id (Account.new id ownerId (trim name) (toLowercase (trim email))
          openingBalance) transaction)
  | renamed {id : AccountId} {account : Account} {name : String} {now : Nat}
      {transaction : Transaction} (found : bank.accounts[id]? = some account)
      (described : transaction.description = "Name updated") :
      Returned bank (.updateName id name now)
        (bank.post id { account with name := trim name } transaction)
  | readdressed {id : AccountId} {account : Account} {email : String} {now : Nat}
      {transaction : Transaction} (found : bank.accounts[id]? = some account)
      (described : transaction.description = "Email updated") :
      Returned bank (.updateEmail id email now)
        (bank.post id { account with email := toLowercase (trim email) } transaction)
  | posted {op : BankOp} {id : AccountId} {before after : Account} {transaction : Transaction}
      (found : bank.accounts[id]? = some before) (same : before.SameBut after)
      (unnamed : op.profile = []) (described : transaction.description ∈ op.descriptions) :
      Returned bank op (bank.post id after transaction)
  | transferred {fromId toId : AccountId} {amount : Money} {nowOut nowIn : Nat}
      {payer payee payer' payee' : Account} {sent received : Transaction}
      (distinct : fromId ≠ toId)
      (payerFound : bank.accounts[fromId]? = some payer) (payerSame : payer.SameBut payer')
      (payeeFound : bank.accounts[toId]? = some payee) (payeeSame : payee.SameBut payee')
      (sentDescribed : sent.description = "Transferred to account " ++ toString toId)
      (receivedDescribed : received.description = "Received from account " ++ toString fromId) :
      Returned bank (.transfer fromId toId amount nowOut nowIn)
        ((bank.post fromId payer' sent).post toId payee' received)
  | removed {id : AccountId} {account : Account} (found : bank.accounts[id]? = some account) :
      Returned bank (.deleteAccount id) { bank with accounts := bank.accounts.erase id }

theorem run_returned {op : BankOp} {bank bank' : Bank} {reply : BankReply}
    (hrun : op.run bank = (.ok reply, bank')) : op.Returned bank bank' := by
  cases op with
  | createAccount id ownerId name email openingBalance now =>
    obtain ⟨_, h, -⟩ := map_ok_iff.mp hrun
    obtain ⟨hfresh, -, -, cn, ce, hn, he, -, rfl⟩ := Bank.createAccount_ok_iff.mp h
    obtain ⟨rfl, -⟩ := Profile.cleanName_ok_iff.mp hn
    obtain ⟨rfl, -⟩ := Profile.cleanEmail_ok_iff.mp he
    exact .opened hfresh rfl
  | updateName id name now =>
    obtain ⟨_, h, -⟩ := map_ok_iff.mp hrun
    obtain ⟨-, _, account, hn, hfound, rfl⟩ := Bank.updateName_ok_iff.mp h
    obtain ⟨rfl, -⟩ := Profile.cleanName_ok_iff.mp hn
    exact .renamed hfound rfl
  | updateEmail id email now =>
    obtain ⟨_, h, -⟩ := map_ok_iff.mp hrun
    obtain ⟨-, _, account, he, hfound, rfl⟩ := Bank.updateEmail_ok_iff.mp h
    obtain ⟨rfl, -⟩ := Profile.cleanEmail_ok_iff.mp he
    exact .readdressed hfound rfl
  | activateAccount id now =>
    obtain ⟨_, h, -⟩ := map_ok_iff.mp hrun
    obtain ⟨-, account, hfound, -, rfl⟩ := Bank.activateAccount_ok_iff.mp h
    exact .posted hfound (account.sameBut _ _ _) rfl (List.mem_singleton_self _)
  | deactivateAccount id now =>
    obtain ⟨_, h, -⟩ := map_ok_iff.mp hrun
    obtain ⟨-, account, hfound, -, rfl⟩ := Bank.deactivateAccount_ok_iff.mp h
    exact .posted hfound (account.sameBut _ _ _) rfl (List.mem_singleton_self _)
  | closeAccount id now =>
    obtain ⟨_, h, -⟩ := map_ok_iff.mp hrun
    obtain ⟨-, account, hfound, -, -, rfl⟩ := Bank.closeAccount_ok_iff.mp h
    exact .posted hfound (account.sameBut _ _ _) rfl (List.mem_singleton_self _)
  | deleteAccount id =>
    obtain ⟨_, h, -⟩ := map_ok_iff.mp hrun
    obtain ⟨hfound, -, -, rfl⟩ := Bank.deleteAccount_ok_iff.mp h
    exact .removed hfound
  | deposit id amount now =>
    obtain ⟨_, h, -⟩ := map_ok_iff.mp hrun
    obtain ⟨-, -, account, _, hfound, -, -, rfl⟩ := Bank.deposit_ok_iff.mp h
    exact .posted hfound (account.sameBut _ _ _) rfl (List.mem_singleton_self _)
  | withdraw id amount now =>
    obtain ⟨_, h, -⟩ := map_ok_iff.mp hrun
    obtain ⟨-, -, account, _, hfound, -, -, -, rfl⟩ := Bank.withdraw_ok_iff.mp h
    exact .posted hfound (account.sameBut _ _ _) rfl (List.mem_singleton_self _)
  | transfer fromId toId amount nowOut nowIn =>
    obtain ⟨_, h, -⟩ := map_ok_iff.mp hrun
    obtain ⟨-, hne, -, payer, payee, _, _, hpayer, -, hpayee, -, -, -, -, rfl⟩ :=
      Bank.transfer_ok_iff.mp h
    exact .transferred hne hpayer (payer.sameBut _ _ _) hpayee (payee.sameBut _ _ _) rfl rfl
  | applyFee id amount now =>
    obtain ⟨_, h, -⟩ := map_ok_iff.mp hrun
    obtain ⟨-, -, account, _, hfound, -, -, -, rfl⟩ := Bank.applyFee_ok_iff.mp h
    exact .posted hfound (account.sameBut _ _ _) rfl (List.mem_singleton_self _)
  | applyInterest id rate now =>
    obtain ⟨_, h, -⟩ := map_ok_iff.mp hrun
    obtain ⟨-, -, account, _, hfound, -, -, -, rfl⟩ := Bank.applyInterest_ok_iff.mp h
    exact .posted hfound (account.sameBut _ _ _) rfl (List.mem_singleton_self _)
  | requestLoan id amount now =>
    obtain ⟨_, h, -⟩ := map_ok_iff.mp hrun
    obtain ⟨-, -, account, _, _, hfound, -, -, -, rfl⟩ := Bank.requestLoan_ok_iff.mp h
    exact .posted hfound (account.sameBut _ _ _) rfl (List.mem_singleton_self _)
  | payLoan id amount now =>
    obtain ⟨_, h, -⟩ := map_ok_iff.mp hrun
    obtain ⟨-, -, account, _, _, hfound, -, -, -, -, -, -, rfl⟩ := Bank.payLoan_ok_iff.mp h
    exact .posted hfound (account.sameBut _ _ _) rfl (List.mem_singleton_self _)

end BankOp

end Banck
