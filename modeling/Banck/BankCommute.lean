/-
Banck.BankCommute — calls on different accounts commute.

A call reads and writes the accounts that it names and the counter, and of
the counter it needs only that ids are left. So the same call is made from
two banks that agree on those accounts (`BankOp.run_coupled`): both runs
return or fail alike, take the same number of ids, leave all other accounts
as they were, and record the same transactions up to their numbers and
their times. Two calls without a common account are then followed in both
orders.
-/
import Banck.Lib.Coupled
import Banck.BankInvariants

namespace Banck

open Lib Mut

/-! ## Up to numbers and times -/

/-- The same transaction up to its number and its time. -/
structure Transaction.Alike (transaction transaction' : Transaction) : Prop where
  kind : transaction'.kind = transaction.kind
  amount : transaction'.amount = transaction.amount
  description : transaction'.description = transaction.description

theorem Transaction.Alike.refl (transaction : Transaction) : transaction.Alike transaction :=
  ⟨rfl, rfl, rfl⟩

/-- The same account up to the numbers and times in its history. -/
def Account.Alike (account account' : Account) : Prop :=
  ∃ history', List.Forall₂ Transaction.Alike account.transactions history' ∧
    account' = { account with transactions := history' }

/-- The same account up to the numbers and times of what was recorded after
`old`. -/
def Account.AlikeSince (old : List Transaction) (account account' : Account) : Prop :=
  ∃ new new', List.Forall₂ Transaction.Alike new new' ∧ account.transactions = old ++ new ∧
    account' = { account with transactions := old ++ new' }

/-- The same accounts up to the numbers and times of what was recorded after
`start`. -/
def Bank.AlikeSince (start bank bank' : Bank) : Prop :=
  ∀ id : AccountId, Option.Rel (Account.AlikeSince (start.history id))
    bank.accounts[id]? bank'.accounts[id]?

def BankReply.Alike : BankReply → BankReply → Prop
  | .unit, .unit => True
  | .account found, .account found' => found.Alike found'
  | .money amount, .money amount' => amount' = amount
  | _, _ => False

/-- Both calls returned alike, or both failed with the same error. -/
def RepliesAlike : Except BankError BankReply → Except BankError BankReply → Prop
  | .ok reply, .ok reply' => reply.Alike reply'
  | .error e, .error e' => e' = e
  | _, _ => False

namespace Account.AlikeSince

variable {old : List Transaction} {account account' : Account}

theorem refl (h : account.transactions = old) : account.AlikeSince old account :=
  ⟨[], [], .nil, by rw [h, List.append_nil], by rw [List.append_nil, ← h]⟩

theorem record (h : account.AlikeSince old account') {t t' : Transaction} (ht : t.Alike t') :
    (account.record t).AlikeSince old (account'.record t') := by
  obtain ⟨new, new', hnew, hhistory, rfl⟩ := h
  refine ⟨new ++ [t], new' ++ [t'], List.rel_append hnew (.cons ht .nil), ?_, ?_⟩
  · rw [Account.record, hhistory, List.append_assoc]
  · simp only [Account.record, List.append_assoc]

/-- A write that does not touch the history. -/
theorem write (h : account.AlikeSince old account') {w : Account → Account}
    (hw : ∀ (before : Account) (history : List Transaction),
      w { before with transactions := history } = { w before with transactions := history }) :
    (w account).AlikeSince old (w account') := by
  obtain ⟨new, new', hnew, hhistory, rfl⟩ := h
  refine ⟨new, new', hnew, ?_, hw account _⟩
  exact (congrArg Account.transactions (hw account account.transactions)).trans hhistory

theorem alike (h : account.AlikeSince old account') : account.Alike account' := by
  obtain ⟨new, new', hnew, hhistory, rfl⟩ := h
  refine ⟨old ++ new', ?_, rfl⟩
  rw [hhistory]
  exact List.rel_append (List.forall₂_same.mpr fun t _ => .refl t) hnew

end Account.AlikeSince

/-! ## Calls -/

namespace BankOp

/-- The account ids among the arguments. -/
def accountIds : BankOp → List AccountId
  | createAccount id _ _ _ _ _ | updateName id _ _ | updateEmail id _ _ | activateAccount id _
  | deactivateAccount id _ | closeAccount id _ | deleteAccount id | deposit id _ _
  | withdraw id _ _ | applyFee id _ _ | applyInterest id _ _ | requestLoan id _ _
  | payLoan id _ _ => [id]
  | transfer fromId toId _ _ _ => [fromId, toId]

/-- The same call at another time. -/
def madeAt (now nowNext : Nat) : BankOp → BankOp
  | createAccount id ownerId name email openingBalance _ =>
      createAccount id ownerId name email openingBalance now
  | updateName id name _ => updateName id name now
  | updateEmail id email _ => updateEmail id email now
  | activateAccount id _ => activateAccount id now
  | deactivateAccount id _ => deactivateAccount id now
  | closeAccount id _ => closeAccount id now
  | deleteAccount id => deleteAccount id
  | deposit id amount _ => deposit id amount now
  | withdraw id amount _ => withdraw id amount now
  | transfer fromId toId amount _ _ => transfer fromId toId amount now nowNext
  | applyFee id amount _ => applyFee id amount now
  | applyInterest id rate _ => applyInterest id rate now
  | requestLoan id amount _ => requestLoan id amount now
  | payLoan id amount _ => payLoan id amount now

end BankOp

/-! ## Two banks in step -/

namespace Bank

/-- Two runs of a call on `ids`, each of which has taken `taken` numbers. -/
structure InStep (ids : List AccountId) (start start' : Bank) (taken : Nat)
    (bank bank' : Bank) : Prop where
  inside : ∀ id ∈ ids, Option.Rel (Account.AlikeSince (start.history id))
    bank.accounts[id]? bank'.accounts[id]?
  outside : ∀ id ∉ ids, bank.accounts[id]? = start.accounts[id]? ∧
    bank'.accounts[id]? = start'.accounts[id]?
  next : bank.nextTransactionId = start.nextTransactionId + taken
  next' : bank'.nextTransactionId = start'.nextTransactionId + taken

/-- Where two runs of a call end. It takes at most two numbers. -/
def EndInStep (ids : List AccountId) (start start' bank bank' : Bank) : Prop :=
  ∃ taken ≤ 2, InStep ids start start' taken bank bank'

section Steps

variable {ids : List AccountId} {start start' bank bank' : Bank} {taken : Nat} {id : AccountId}
  {account account' : Account}

theorem alikeSince_start (start : Bank) (id : AccountId) :
    Option.Rel (Account.AlikeSince (start.history id)) start.accounts[id]? start.accounts[id]? := by
  cases hfound : start.accounts[id]? with
  | none => exact .none
  | some account => exact .some (.refl (history_found hfound).symm)

theorem inStep_start (h : ∀ id ∈ ids, start'.accounts[id]? = start.accounts[id]?) :
    InStep ids start start' 0 start start' where
  inside id hid := h id hid ▸ alikeSince_start start id
  outside _ _ := ⟨rfl, rfl⟩
  next := rfl
  next' := rfl

theorem InStep.ends (h : InStep ids start start' taken bank bank') (htaken : taken ≤ 2) :
    EndInStep ids start start' bank bank' := ⟨taken, htaken, h⟩

/-- An account of the call is written in both. -/
theorem InStep.insert (h : InStep ids start start' taken bank bank') (hid : id ∈ ids)
    (halike : account.AlikeSince (start.history id) account') :
    InStep ids start start' taken { bank with accounts := bank.accounts.insert id account }
      { bank' with accounts := bank'.accounts.insert id account' } where
  inside id' hid' := by
    by_cases heq : id' = id
    · subst heq
      simp only [OrdMap.get_insert_self]
      exact .some halike
    · simp only [OrdMap.get_insert_ne _ _ heq]
      exact h.inside id' hid'
  outside id' hid' := by
    have hne : id' ≠ id := fun heq => hid' (heq ▸ hid)
    simp only [OrdMap.get_insert_ne _ _ hne]
    exact h.outside id' hid'
  next := h.next
  next' := h.next'

theorem InStep.erase (h : InStep ids start start' taken bank bank') (hid : id ∈ ids) :
    InStep ids start start' taken { bank with accounts := bank.accounts.erase id }
      { bank' with accounts := bank'.accounts.erase id } where
  inside id' hid' := by
    by_cases heq : id' = id
    · subst heq
      simp only [OrdMap.get_erase_self]
      exact .none
    · simp only [OrdMap.get_erase_ne _ heq]
      exact h.inside id' hid'
  outside id' hid' := by
    have hne : id' ≠ id := fun heq => hid' (heq ▸ hid)
    simp only [OrdMap.get_erase_ne _ hne]
    exact h.outside id' hid'
  next := h.next
  next' := h.next'

/-! ### The steps of a call -/

theorem coupled_readAccount (hid : id ∈ ids) (htaken : taken ≤ 2) :
    Coupled (InStep ids start start' taken) (readAccount id) (readAccount id)
      (fun account account' bank bank' => account.AlikeSince (start.history id) account' ∧
        InStep ids start start' taken bank bank') (EndInStep ids start start') := by
  intro bank bank' h
  have halike := h.inside id hid
  cases hfound : bank.accounts[id]? with
  | none =>
    rw [hfound] at halike
    have hfound' : bank'.accounts[id]? = none := by
      generalize bank'.accounts[id]? = found at halike
      cases halike
      rfl
    exact .inr ⟨.accountNotFound id, bank, bank', by rw [readAccount, Bank.account, hfound],
      by rw [readAccount, Bank.account, hfound'], h.ends htaken⟩
  | some account =>
    rw [hfound] at halike
    obtain ⟨account', hfound', halike⟩ : ∃ account', bank'.accounts[id]? = some account' ∧
        account.AlikeSince (start.history id) account' := by
      generalize bank'.accounts[id]? = found at halike
      cases halike with
      | some halike => exact ⟨_, rfl, halike⟩
    exact .inl ⟨account, account', bank, bank', readAccount_ok_iff.mpr ⟨hfound, rfl⟩,
      readAccount_ok_iff.mpr ⟨hfound', rfl⟩, halike, h⟩

theorem coupled_accountMut (hid : id ∈ ids) (htaken : taken ≤ 2) :
    Coupled (InStep ids start start' taken) (accountMut id) (accountMut id)
      (fun account account' bank bank' => account.AlikeSince (start.history id) account' ∧
        InStep ids start start' taken bank bank') (EndInStep ids start start') :=
  coupled_get.bind_related fun _ _ h =>
    coupled_okOr (h.inside id hid) _ fun _ _ h' => h'.ends htaken

theorem coupled_setAccount (hid : id ∈ ids)
    (halike : account.AlikeSince (start.history id) account') :
    Coupled (InStep ids start start' taken) (setAccount id account) (setAccount id account')
      (fun u u' bank bank' => u' = u ∧ InStep ids start start' taken bank bank')
      (EndInStep ids start start') :=
  coupled_modify fun _ _ h => h.insert hid halike

theorem coupled_ensureCanTransact (hid : id ∈ ids) (htaken : taken ≤ 2) :
    Coupled (InStep ids start start' taken) (ensureCanTransact id) (ensureCanTransact id)
      (fun u u' bank bank' => u' = u ∧ InStep ids start start' taken bank bank')
      (EndInStep ids start start') := by
  refine (coupled_readAccount hid htaken).bind_related fun account account' halike => ?_
  obtain ⟨new, new', -, -, rfl⟩ := halike
  cases account.status with
  | active => exact coupled_pure fun _ _ h => ⟨rfl, h⟩
  | inactive => exact coupled_fail _ fun _ _ h => h.ends htaken
  | closed => exact coupled_fail _ fun _ _ h => h.ends htaken

theorem coupled_ensureSufficientFunds (hid : id ∈ ids) (htaken : taken ≤ 2) (required : Money) :
    Coupled (InStep ids start start' taken) (ensureSufficientFunds id required)
      (ensureSufficientFunds id required)
      (fun u u' bank bank' => u' = u ∧ InStep ids start start' taken bank bank')
      (EndInStep ids start start') := by
  refine (coupled_readAccount hid htaken).bind_related fun account account' halike => ?_
  obtain ⟨new, new', -, -, rfl⟩ := halike
  exact coupled_ensure _ _ fun _ _ h => h.ends htaken

/-- Numbers are left for both calls. -/
theorem coupled_nextTransaction (hids : start.nextTransactionId + 2 ≤ u64Max)
    (hids' : start'.nextTransactionId + 2 ≤ u64Max) (htaken : taken + 1 ≤ 2) (now now' : Nat)
    (kind : TransactionKind) (amount : Money) (description : String) :
    Coupled (InStep ids start start' taken) (nextTransaction now kind amount description)
      (nextTransaction now' kind amount description)
      (fun t t' bank bank' => t.Alike t' ∧ InStep ids start start' (taken + 1) bank bank')
      (EndInStep ids start start') := by
  intro bank bank' h
  have hhas : bank.HasId := by
    have := h.next
    unfold HasId
    omega
  have hhas' : bank'.HasId := by
    have := h.next'
    unfold HasId
    omega
  refine .inl ⟨_, _, _, _, nextTransaction_ok_iff.mpr ⟨hhas, rfl, rfl⟩,
    nextTransaction_ok_iff.mpr ⟨hhas', rfl, rfl⟩, ⟨rfl, rfl, rfl⟩, ?_⟩
  exact ⟨h.inside, h.outside, congrArg (· + 1) h.next, congrArg (· + 1) h.next'⟩

end Steps

/-! ### The operations -/

section Operations

variable {ids : List AccountId} {start start' : Bank} {id : AccountId}

theorem ends_setAccount {account account' : Account} {taken : Nat} (hid : id ∈ ids)
    (htaken : taken ≤ 2) (halike : account.AlikeSince (start.history id) account') :
    Coupled (InStep ids start start' taken) (setAccount id account) (setAccount id account')
      (fun _ _ => EndInStep ids start start') (EndInStep ids start start') :=
  (coupled_setAccount hid halike).weaken (fun _ _ h => h) fun _ _ _ _ h => h.2.ends htaken

variable (hids : start.nextTransactionId + 2 ≤ u64Max)
  (hids' : start'.nextTransactionId + 2 ≤ u64Max)

include hids hids'

theorem coupled_updateProfile (hid : id ∈ ids) (checked : Except BankError String)
    {write : String → Account → Account}
    (hwrite : ∀ (value : String) (before : Account) (history : List Transaction),
      write value { before with transactions := history } =
        { write value before with transactions := history })
    (description : String) (now now' : Nat) :
    Coupled (InStep ids start start' 0) (updateProfile id checked write description now)
      (updateProfile id checked write description now')
      (fun _ _ => EndInStep ids start start') (EndInStep ids start start') := by
  refine (coupled_lift _ fun _ _ h => h.ends (by omega)).bind_same fun value => ?_
  refine (coupled_readAccount hid (by omega)).bind_related fun _ _ _ => ?_
  refine (coupled_nextTransaction hids hids' (by omega) _ _ _ _ _).bind_related fun t t' ht => ?_
  refine (coupled_accountMut hid (by omega)).bind_related fun account account' halike => ?_
  exact ends_setAccount hid (by omega) ((halike.write (hwrite value)).record ht)

theorem coupled_switchStatus (hid : id ∈ ids) (status : AccountStatus) (kind : TransactionKind)
    (description : String) (now now' : Nat) :
    Coupled (InStep ids start start' 0) (switchStatus id status kind description now)
      (switchStatus id status kind description now')
      (fun _ _ => EndInStep ids start start') (EndInStep ids start start') := by
  refine (coupled_accountMut hid (by omega)).bind_related fun account account' halike => ?_
  obtain ⟨new, new', -, -, rfl⟩ := halike
  refine (coupled_ensure _ _ fun _ _ h => h.ends (by omega)).bind_same fun _ => ?_
  refine (coupled_nextTransaction hids hids' (by omega) _ _ _ _ _).bind_related fun t t' ht => ?_
  refine (coupled_accountMut hid (by omega)).bind_related fun account account' halike => ?_
  exact ends_setAccount hid (by omega)
    ((halike.write (w := fun account => { account with status }) fun _ _ => rfl).record ht)

theorem coupled_closeAccount (hid : id ∈ ids) (now now' : Nat) :
    Coupled (InStep ids start start' 0) (closeAccount id now) (closeAccount id now')
      (fun _ _ => EndInStep ids start start') (EndInStep ids start start') := by
  refine (coupled_accountMut hid (by omega)).bind_related fun account account' halike => ?_
  obtain ⟨new, new', -, -, rfl⟩ := halike
  refine (coupled_ensure _ _ fun _ _ h => h.ends (by omega)).bind_same fun _ => ?_
  refine (coupled_ensure _ _ fun _ _ h => h.ends (by omega)).bind_same fun _ => ?_
  refine (coupled_nextTransaction hids hids' (by omega) _ _ _ _ _).bind_related fun t t' ht => ?_
  refine (coupled_accountMut hid (by omega)).bind_related fun account account' halike => ?_
  exact ends_setAccount hid (by omega)
    ((halike.write (w := fun account => { account with status := .closed }) fun _ _ => rfl).record
      ht)

theorem coupled_deposit (hid : id ∈ ids) (amount : Money) (now now' : Nat) :
    Coupled (InStep ids start start' 0) (deposit id amount now) (deposit id amount now')
      (fun _ _ => EndInStep ids start start') (EndInStep ids start start') := by
  refine (coupled_lift _ fun _ _ h => h.ends (by omega)).bind_same fun _ => ?_
  refine (coupled_ensureCanTransact hid (by omega)).bind_same fun _ => ?_
  refine (coupled_nextTransaction hids hids' (by omega) _ _ _ _ _).bind_related fun t t' ht => ?_
  refine (coupled_accountMut hid (by omega)).bind_related fun account account' halike => ?_
  have hkept := halike
  obtain ⟨new, new', -, -, rfl⟩ := halike
  refine (coupled_okOr_same _ _ fun _ _ h => h.ends (by omega)).bind_same fun balance => ?_
  exact ends_setAccount hid (by omega)
    ((hkept.write (w := fun account => { account with balance }) fun _ _ => rfl).record ht)

theorem coupled_debit (hid : id ∈ ids) (amount : Money) (kind : TransactionKind)
    (description : String) (now now' : Nat) :
    Coupled (InStep ids start start' 0) (debit id amount kind description now)
      (debit id amount kind description now')
      (fun _ _ => EndInStep ids start start') (EndInStep ids start start') := by
  refine (coupled_lift _ fun _ _ h => h.ends (by omega)).bind_same fun _ => ?_
  refine (coupled_ensureCanTransact hid (by omega)).bind_same fun _ => ?_
  refine (coupled_ensureSufficientFunds hid (by omega) _).bind_same fun _ => ?_
  refine (coupled_nextTransaction hids hids' (by omega) _ _ _ _ _).bind_related fun t t' ht => ?_
  refine (coupled_accountMut hid (by omega)).bind_related fun account account' halike => ?_
  have hkept := halike
  obtain ⟨new, new', -, -, rfl⟩ := halike
  refine (coupled_okOr_same _ _ fun _ _ h => h.ends (by omega)).bind_same fun balance => ?_
  exact ends_setAccount hid (by omega)
    ((hkept.write (w := fun account => { account with balance }) fun _ _ => rfl).record ht)

theorem coupled_transfer {fromId toId : AccountId} (hfrom : fromId ∈ ids) (hto : toId ∈ ids)
    (amount : Money) (nowOut nowIn nowOut' nowIn' : Nat) :
    Coupled (InStep ids start start' 0) (transfer fromId toId amount nowOut nowIn)
      (transfer fromId toId amount nowOut' nowIn')
      (fun _ _ => EndInStep ids start start') (EndInStep ids start start') := by
  refine (coupled_lift _ fun _ _ h => h.ends (by omega)).bind_same fun _ => ?_
  refine (coupled_ensure _ _ fun _ _ h => h.ends (by omega)).bind_same fun _ => ?_
  refine (coupled_ensureCanTransact hfrom (by omega)).bind_same fun _ => ?_
  refine (coupled_ensureCanTransact hto (by omega)).bind_same fun _ => ?_
  refine (coupled_ensureSufficientFunds hfrom (by omega) _).bind_same fun _ => ?_
  refine (coupled_readAccount hfrom (by omega)).bind_related fun payer payer' hpayer => ?_
  refine (coupled_readAccount hto (by omega)).bind_related fun payee payee' hpayee => ?_
  obtain ⟨_, _, -, -, rfl⟩ := hpayer
  obtain ⟨_, _, -, -, rfl⟩ := hpayee
  refine (coupled_okOr_same _ _ fun _ _ h => h.ends (by omega)).bind_same fun fromBalance => ?_
  refine (coupled_okOr_same _ _ fun _ _ h => h.ends (by omega)).bind_same fun toBalance => ?_
  refine (coupled_nextTransaction hids hids' (by omega) _ _ _ _ _).bind_related fun t t' ht => ?_
  refine (coupled_nextTransaction hids hids' (by omega) _ _ _ _ _).bind_related fun u u' hu => ?_
  refine (coupled_accountMut hfrom (by omega)).bind_related fun payer payer' hpayer => ?_
  refine (coupled_setAccount hfrom ((hpayer.write
    (w := fun account => { account with balance := fromBalance }) fun _ _ => rfl).record
      ht)).bind_same fun _ => ?_
  refine (coupled_accountMut hto (by omega)).bind_related fun payee payee' hpayee => ?_
  exact ends_setAccount hto (by omega) ((hpayee.write
    (w := fun account => { account with balance := toBalance }) fun _ _ => rfl).record hu)

theorem coupled_applyInterest (hid : id ∈ ids) (rate : InterestRate) (now now' : Nat) :
    Coupled (InStep ids start start' 0) (applyInterest id rate now) (applyInterest id rate now')
      (fun paid paid' bank bank' => paid' = paid ∧ EndInStep ids start start' bank bank')
      (EndInStep ids start start') := by
  refine (coupled_ensure _ _ fun _ _ h => h.ends (by omega)).bind_same fun _ => ?_
  refine (coupled_ensureCanTransact hid (by omega)).bind_same fun _ => ?_
  refine (coupled_readAccount hid (by omega)).bind_related fun account account' halike => ?_
  obtain ⟨_, _, -, -, rfl⟩ := halike
  refine (coupled_okOr_same _ _ fun _ _ h => h.ends (by omega)).bind_same fun interest => ?_
  refine (coupled_nextTransaction hids hids' (by omega) _ _ _ _ _).bind_related fun t t' ht => ?_
  refine (coupled_accountMut hid (by omega)).bind_related fun account account' halike => ?_
  have hkept := halike
  obtain ⟨_, _, -, -, rfl⟩ := halike
  refine (coupled_okOr_same _ _ fun _ _ h => h.ends (by omega)).bind_same fun balance => ?_
  refine (ends_setAccount hid (by omega) ((hkept.write
    (w := fun account => { account with balance }) fun _ _ => rfl).record ht)).bind fun _ _ => ?_
  exact coupled_pure fun _ _ h => ⟨rfl, h⟩

/-- The balance is written before the loan balance is known to fit. -/
theorem coupled_requestLoan (hid : id ∈ ids) (amount : Money) (now now' : Nat) :
    Coupled (InStep ids start start' 0) (requestLoan id amount now) (requestLoan id amount now')
      (fun _ _ => EndInStep ids start start') (EndInStep ids start start') := by
  refine (coupled_lift _ fun _ _ h => h.ends (by omega)).bind_same fun _ => ?_
  refine (coupled_ensureCanTransact hid (by omega)).bind_same fun _ => ?_
  refine (coupled_nextTransaction hids hids' (by omega) _ _ _ _ _).bind_related fun t t' ht => ?_
  refine (coupled_accountMut hid (by omega)).bind_related fun account account' halike => ?_
  have hkept := halike
  obtain ⟨_, _, -, -, rfl⟩ := halike
  refine (coupled_okOr_same _ _ fun _ _ h => h.ends (by omega)).bind_same fun balance => ?_
  have hwritten := hkept.write (w := fun account => { account with balance }) fun _ _ => rfl
  refine (coupled_setAccount hid hwritten).bind_same fun _ => ?_
  refine (coupled_okOr_same _ _ fun _ _ h => h.ends (by omega)).bind_same fun loanBalance => ?_
  exact ends_setAccount hid (by omega)
    ((hwritten.write (w := fun account => { account with loanBalance }) fun _ _ => rfl).record ht)

theorem coupled_payLoan (hid : id ∈ ids) (amount : Money) (now now' : Nat) :
    Coupled (InStep ids start start' 0) (payLoan id amount now) (payLoan id amount now')
      (fun paid paid' bank bank' => paid' = paid ∧ EndInStep ids start start' bank bank')
      (EndInStep ids start start') := by
  refine (coupled_lift _ fun _ _ h => h.ends (by omega)).bind_same fun _ => ?_
  refine (coupled_ensureCanTransact hid (by omega)).bind_same fun _ => ?_
  refine (coupled_readAccount hid (by omega)).bind_related fun account account' halike => ?_
  obtain ⟨_, _, -, -, rfl⟩ := halike
  refine (coupled_ensure _ _ fun _ _ h => h.ends (by omega)).bind_same fun _ => ?_
  refine (coupled_ensure _ _ fun _ _ h => h.ends (by omega)).bind_same fun _ => ?_
  refine (coupled_nextTransaction hids hids' (by omega) _ _ _ _ _).bind_related fun t t' ht => ?_
  refine (coupled_accountMut hid (by omega)).bind_related fun account account' halike => ?_
  have hkept := halike
  obtain ⟨_, _, -, -, rfl⟩ := halike
  refine (coupled_okOr_same _ _ fun _ _ h => h.ends (by omega)).bind_same fun balance => ?_
  have hwritten := hkept.write (w := fun account => { account with balance }) fun _ _ => rfl
  refine (coupled_setAccount hid hwritten).bind_same fun _ => ?_
  refine (coupled_okOr_same _ _ fun _ _ h => h.ends (by omega)).bind_same fun loanBalance => ?_
  refine (ends_setAccount hid (by omega) ((hwritten.write
    (w := fun account => { account with loanBalance }) fun _ _ => rfl).record ht)).bind
      fun _ _ => ?_
  exact coupled_pure fun _ _ h => ⟨rfl, h⟩

/-- The id is free in both banks, or in neither. -/
theorem coupled_createAccount (hid : id ∈ ids)
    (hsame : ∀ id ∈ ids, start'.accounts[id]? = start.accounts[id]?)
    (ownerId : Option CustomerId) (name email : String) (openingBalance : Money)
    (now now' : Nat) :
    Coupled (fun bank bank' => bank = start ∧ bank' = start')
      (createAccount id ownerId name email openingBalance now)
      (createAccount id ownerId name email openingBalance now')
      (fun account account' bank bank' =>
        account.Alike account' ∧ EndInStep ids start start' bank bank')
      (EndInStep ids start start') := by
  have hread : Coupled (fun bank bank' => bank = start ∧ bank' = start') (get : BankM Bank) get
      (fun found found' bank bank' =>
        (found = start ∧ found' = start') ∧ InStep ids start start' 0 bank bank')
      (EndInStep ids start start') :=
    coupled_get.weaken (fun _ _ h => h) fun _ _ _ _ h =>
      ⟨h.1, by rw [h.2.1, h.2.2]; exact inStep_start hsame⟩
  refine hread.bind_related fun found found' hfound => ?_
  obtain ⟨rfl, rfl⟩ := hfound
  have hfree : found'.accounts.contains id = false ↔ found.accounts.contains id = false := by
    rw [OrdMap.contains_eq_isSome, OrdMap.contains_eq_isSome, hsame id hid]
  refine (coupled_ensure_iff hfree _ fun _ _ h => h.ends (by omega)).bind_related
    fun _ _ hensured => ?_
  refine (coupled_lift _ fun _ _ h => h.ends (by omega)).bind_same fun _ => ?_
  refine (coupled_lift _ fun _ _ h => h.ends (by omega)).bind_same fun name => ?_
  refine (coupled_lift _ fun _ _ h => h.ends (by omega)).bind_same fun email => ?_
  refine (coupled_nextTransaction hids hids' (by omega) _ _ _ _ _).bind_related fun t t' ht => ?_
  have hnone : found.history id = [] := by
    have hcontains := hensured.2
    rw [OrdMap.contains_eq_isSome, Option.isSome_eq_false_iff, Option.isNone_iff_eq_none]
      at hcontains
    simp only [history, hcontains]
  have hopened : (Account.new id ownerId name email openingBalance).AlikeSince
      (found.history id) (Account.new id ownerId name email openingBalance) := .refl hnone.symm
  refine (ends_setAccount hid (by omega) (hopened.record ht)).bind fun _ _ => ?_
  exact coupled_pure fun _ _ h => ⟨(hopened.record ht).alike, h⟩

omit hids hids' in
theorem coupled_deleteAccount (hid : id ∈ ids) :
    Coupled (InStep ids start start' 0) (deleteAccount id) (deleteAccount id)
      (fun account account' bank bank' =>
        account.Alike account' ∧ EndInStep ids start start' bank bank')
      (EndInStep ids start start') := by
  refine (coupled_readAccount hid (by omega)).bind_related fun account account' halike => ?_
  obtain ⟨_, _, -, -, rfl⟩ := halike
  refine (coupled_ensure _ _ fun _ _ h => h.ends (by omega)).bind_same fun _ => ?_
  refine (coupled_ensure _ _ fun _ _ h => h.ends (by omega)).bind_same fun _ => ?_
  refine coupled_get.bind_related fun found found' hfound => ?_
  refine (coupled_modify fun _ _ h => h.erase hid).bind_same fun _ => ?_
  refine (coupled_okOr (hfound.inside id hid) _ fun _ _ h => h.ends (by omega)).weaken
    (fun _ _ h => h) fun _ _ _ _ h => ⟨h.1.alike, h.2.ends (by omega)⟩

end Operations

end Bank

/-! ## The calls -/

namespace BankOp

variable {start start' : Bank}

/-- A call reads and writes the accounts that it names, and no others. -/
theorem run_coupled (op : BankOp) (now nowNext : Nat)
    (hids : start.nextTransactionId + 2 ≤ u64Max)
    (hids' : start'.nextTransactionId + 2 ≤ u64Max)
    (hsame : ∀ id ∈ op.accountIds, start'.accounts[id]? = start.accounts[id]?) :
    Coupled (fun bank bank' => bank = start ∧ bank' = start') op.run (op.madeAt now nowNext).run
      (fun reply reply' bank bank' =>
        reply.Alike reply' ∧ Bank.EndInStep op.accountIds start start' bank bank')
      (Bank.EndInStep op.accountIds start start') := by
  have hstart : ∀ {ids : List AccountId},
      (∀ id ∈ ids, start'.accounts[id]? = start.accounts[id]?) →
      ∀ bank bank', bank = start ∧ bank' = start' →
        Bank.InStep ids start start' 0 bank bank' := by
    rintro ids hsame bank bank' ⟨rfl, rfl⟩
    exact Bank.inStep_start hsame
  have hunit : ∀ {ids : List AccountId} {m m' : BankM Unit},
      Coupled (Bank.InStep ids start start' 0) m m'
        (fun _ _ => Bank.EndInStep ids start start') (Bank.EndInStep ids start start') →
      (∀ id ∈ ids, start'.accounts[id]? = start.accounts[id]?) →
      Coupled (fun bank bank' => bank = start ∧ bank' = start')
        (map (fun _ => BankReply.unit) m) (map (fun _ => BankReply.unit) m')
        (fun reply reply' bank bank' =>
          reply.Alike reply' ∧ Bank.EndInStep ids start start' bank bank')
        (Bank.EndInStep ids start start') :=
    fun h hsame => (h.weaken (hstart hsame) fun _ _ _ _ hends => hends).map
      fun _ _ _ _ hends => ⟨trivial, hends⟩
  cases op with
  | createAccount id ownerId name email openingBalance _ =>
    exact (Bank.coupled_createAccount hids hids' List.mem_cons_self hsame ownerId name email
      openingBalance _ _).map fun _ _ _ _ h => h
  | updateName id name _ =>
    exact hunit (Bank.coupled_updateProfile hids hids' List.mem_cons_self _
      (fun _ _ _ => rfl) _ _ _) hsame
  | updateEmail id email _ =>
    exact hunit (Bank.coupled_updateProfile hids hids' List.mem_cons_self _
      (fun _ _ _ => rfl) _ _ _) hsame
  | activateAccount id _ =>
    exact hunit (Bank.coupled_switchStatus hids hids' List.mem_cons_self _ _ _ _ _) hsame
  | deactivateAccount id _ =>
    exact hunit (Bank.coupled_switchStatus hids hids' List.mem_cons_self _ _ _ _ _) hsame
  | closeAccount id _ =>
    exact hunit (Bank.coupled_closeAccount hids hids' List.mem_cons_self _ _) hsame
  | deleteAccount id =>
    exact ((Bank.coupled_deleteAccount List.mem_cons_self).weaken (hstart hsame)
      fun _ _ _ _ h => h).map fun _ _ _ _ h => h
  | deposit id amount _ =>
    exact hunit (Bank.coupled_deposit hids hids' List.mem_cons_self _ _ _) hsame
  | withdraw id amount _ =>
    exact hunit (Bank.coupled_debit hids hids' List.mem_cons_self _ _ _ _ _) hsame
  | transfer fromId toId amount _ _ =>
    exact hunit (Bank.coupled_transfer hids hids' List.mem_cons_self
      (List.mem_cons_of_mem _ List.mem_cons_self) _ _ _ _ _) hsame
  | applyFee id amount _ =>
    exact hunit (Bank.coupled_debit hids hids' List.mem_cons_self _ _ _ _ _) hsame
  | applyInterest id rate _ =>
    exact ((Bank.coupled_applyInterest hids hids' List.mem_cons_self rate _ _).weaken
      (hstart hsame) fun _ _ _ _ h => h).map fun _ _ _ _ h => h
  | requestLoan id amount _ =>
    exact hunit (Bank.coupled_requestLoan hids hids' List.mem_cons_self _ _ _) hsame
  | payLoan id amount _ =>
    exact ((Bank.coupled_payLoan hids hids' List.mem_cons_self amount _ _).weaken
      (hstart hsame) fun _ _ _ _ h => h).map fun _ _ _ _ h => h

/-- The same, as facts about the two runs. -/
theorem run_inStep (op : BankOp) (now nowNext : Nat) (start start' : Bank)
    (hids : start.nextTransactionId + 2 ≤ u64Max)
    (hids' : start'.nextTransactionId + 2 ≤ u64Max)
    (hsame : ∀ id ∈ op.accountIds, start'.accounts[id]? = start.accounts[id]?) :
    RepliesAlike (op.run start).1 ((op.madeAt now nowNext).run start').1 ∧
      Bank.EndInStep op.accountIds start start' (op.run start).2
        ((op.madeAt now nowNext).run start').2 := by
  rcases op.run_coupled now nowNext hids hids' hsame start start' ⟨rfl, rfl⟩ with
    ⟨reply, reply', bank, bank', hrun, hrun', halike, hends⟩ |
    ⟨e, bank, bank', hrun, hrun', hends⟩
  · rw [hrun, hrun']
    exact ⟨halike, hends⟩
  · rw [hrun, hrun']
    exact ⟨rfl, hends⟩

end BankOp

/-! ## Both orders -/

/-- Two calls without a common account give the same results in either
order, take the same numbers together, and leave the same accounts, up to
the numbers and times of what they recorded. -/
theorem independent_calls_commute (bank : Bank) (hids : bank.nextTransactionId + 4 ≤ u64Max)
    (first second : BankOp) (hdisjoint : ∀ id ∈ first.accountIds, id ∉ second.accountIds)
    (now nowNext later laterNext : Nat) :
    let afterFirst := first.run bank
    let afterBoth := second.run afterFirst.2
    let afterSecond := (second.madeAt now nowNext).run bank
    let afterBoth' := (first.madeAt later laterNext).run afterSecond.2
    RepliesAlike afterFirst.1 afterBoth'.1 ∧ RepliesAlike afterBoth.1 afterSecond.1 ∧
      afterBoth'.2.nextTransactionId = afterBoth.2.nextTransactionId ∧
      bank.AlikeSince afterBoth.2 afterBoth'.2 := by
  intro afterFirst afterBoth afterSecond afterBoth'
  -- each call alone
  obtain ⟨-, taken₁, htaken₁, halone₁⟩ := first.run_inStep later laterNext bank bank (by omega)
    (by omega) fun _ _ => rfl
  obtain ⟨-, taken₂, htaken₂, halone₂⟩ := second.run_inStep now nowNext bank bank (by omega)
    (by omega) fun _ _ => rfl
  have hnext₁ : afterFirst.2.nextTransactionId = bank.nextTransactionId + taken₁ := halone₁.next
  have hnext₂ : afterSecond.2.nextTransactionId = bank.nextTransactionId + taken₂ := halone₂.next'
  -- each call before the other and after it
  obtain ⟨hreplies₁, taken₁', -, hstep₁⟩ := first.run_inStep later laterNext bank afterSecond.2
    (by omega) (by omega)
    fun id hid => (halone₂.outside id (hdisjoint id hid)).2
  obtain ⟨hreplies₂, taken₂', -, hstep₂⟩ := second.run_inStep now nowNext afterFirst.2 bank
    (by omega) (by omega)
    fun id hid => ((halone₁.outside id fun hmem => hdisjoint id hmem hid).1).symm
  refine ⟨hreplies₁, hreplies₂, ?_, fun id => ?_⟩
  · calc afterBoth'.2.nextTransactionId
        = afterSecond.2.nextTransactionId + taken₁' := hstep₁.next'
      _ = bank.nextTransactionId + taken₂' + taken₁' := congrArg (· + taken₁') hstep₂.next'
      _ = bank.nextTransactionId + taken₁' + taken₂' := Nat.add_right_comm _ _ _
      _ = afterFirst.2.nextTransactionId + taken₂' :=
          congrArg (· + taken₂') hstep₁.next.symm
      _ = afterBoth.2.nextTransactionId := hstep₂.next.symm
  · by_cases hfirst : id ∈ first.accountIds
    · have hsecond : id ∉ second.accountIds := hdisjoint id hfirst
      rw [(hstep₂.outside id hsecond).1]
      exact hstep₁.inside id hfirst
    · rw [(hstep₁.outside id hfirst).2]
      by_cases hsecond : id ∈ second.accountIds
      · have hhistory : afterFirst.2.history id = bank.history id := by
          simp only [Bank.history, (halone₁.outside id hfirst).1, afterFirst]
        exact hhistory ▸ hstep₂.inside id hsecond
      · rw [(hstep₂.outside id hsecond).1, (hstep₂.outside id hsecond).2]
        rw [(halone₁.outside id hfirst).1]
        exact Bank.alikeSince_start bank id

/-- A withdrawal and a loan, with four numbers left. -/
theorem independent_calls_commute_last_ids :
    let bank : Bank := ⟨OrdMap.ofVals Account.id
      [Account.new 1 none "Ada" "ada@example.com" ⟨100, by decide⟩,
        Account.new 2 none "Ben" "ben@example.com" ⟨0, by decide⟩], u64Max - 4⟩
    let first : BankOp := .withdraw 1 ⟨50, by decide⟩ 7
    let second : BankOp := .requestLoan 2 ⟨30, by decide⟩ 8
    let afterFirst := first.run bank
    let afterBoth := second.run afterFirst.2
    let afterBoth' := (first.madeAt 10 10).run ((second.madeAt 9 9).run bank).2
    afterFirst.1 = .ok .unit ∧ afterBoth.1 = .ok .unit ∧ RepliesAlike afterFirst.1 afterBoth'.1 ∧
      bank.AlikeSince afterBoth.2 afterBoth'.2 := by
  intro bank first second afterFirst afterBoth afterBoth'
  have hids : bank.nextTransactionId + 4 ≤ u64Max := by
    show u64Max - 4 + 4 ≤ u64Max
    unfold u64Max
    omega
  have hdisjoint : ∀ id ∈ first.accountIds, id ∉ second.accountIds := by
    intro id hid hid'
    obtain rfl : id = 1 := List.mem_singleton.mp hid
    exact absurd (List.mem_singleton.mp hid') (by decide)
  have h := independent_calls_commute bank hids first second hdisjoint 9 9 10 10
  exact ⟨by decide +kernel, by decide +kernel, h.1, h.2.2.2⟩

end Banck
