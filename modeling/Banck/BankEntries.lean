/-
Banck.BankEntries — what an operation enters in the histories.

An operation that returned entered what it was asked for (`run_enters`) and
one that failed entered nothing (`enters_nil_of_error`), also where it
changed a balance. So the histories of a bank are the list of what was
asked for and granted, account by account. Only the removal of an account
takes entries away.
-/
import Banck.BankInvariants

namespace Banck

open Lib Mut

/-- An entry that is asked for. The amount is missing where a rate makes
it. -/
structure Booking where
  account : AccountId
  kind : TransactionKind
  amount : Option Money
  deriving DecidableEq

/-- The transaction is the one that was asked for. Of a loan no more is paid
than is owed. -/
def Booking.MetBy (booking : Booking) (transaction : Transaction) : Prop :=
  transaction.kind = booking.kind ∧ ∀ amount ∈ booking.amount,
    transaction.amount = amount ∨
      booking.kind = .loanPayment ∧ transaction.amount.cents ≤ amount.cents

/-- What the operation is to enter. -/
def BankOp.bookings : BankOp → List Booking
  | createAccount id _ _ _ openingBalance _ => [⟨id, .accountCreated, some openingBalance⟩]
  | updateName id _ _ | updateEmail id _ _ => [⟨id, .profileUpdated, some Money.zero⟩]
  | activateAccount id _ => [⟨id, .activated, some Money.zero⟩]
  | deactivateAccount id _ => [⟨id, .deactivated, some Money.zero⟩]
  | closeAccount id _ => [⟨id, .closed, some Money.zero⟩]
  | deleteAccount _ => []
  | deposit id amount _ => [⟨id, .deposit, some amount⟩]
  | withdraw id amount _ => [⟨id, .withdrawal, some amount⟩]
  | transfer fromId toId amount _ _ =>
      [⟨fromId, .transferOut, some amount⟩, ⟨toId, .transferIn, some amount⟩]
  | applyFee id amount _ => [⟨id, .fee, some amount⟩]
  | applyInterest id _ _ => [⟨id, .interest, none⟩]
  | requestLoan id amount _ => [⟨id, .loanRequested, some amount⟩]
  | payLoan id amount _ => [⟨id, .loanPayment, some amount⟩]

namespace Bank

variable {bank bank' bank'' : Bank} {bookings more : List Booking}

/-- Each history has grown by what was booked on its account. -/
def Enters (before after : Bank) (bookings : List Booking) : Prop :=
  ∀ id, ∃ entered, after.history id = before.history id ++ entered ∧
    List.Forall₂ Booking.MetBy (bookings.filter fun booking => booking.account = id) entered

theorem Enters.trans (h : bank.Enters bank' bookings) (h' : bank'.Enters bank'' more) :
    bank.Enters bank'' (bookings ++ more) := by
  intro id
  obtain ⟨entered, hgrown, hmet⟩ := h id
  obtain ⟨entered', hgrown', hmet'⟩ := h' id
  refine ⟨entered ++ entered', by rw [hgrown', hgrown, List.append_assoc], ?_⟩
  rw [List.filter_append]
  exact List.rel_append hmet hmet'

/-- What is booked on an account is found there. -/
theorem Enters.found (h : bank.Enters bank' bookings) {booking : Booking}
    (hmem : booking ∈ bookings) : ∃ account, bank'.accounts[booking.account]? = some account := by
  obtain ⟨entered, hgrown, hmet⟩ := h booking.account
  have hbooked : booking ∈ bookings.filter fun other => other.account = booking.account :=
    List.mem_filter.mpr ⟨hmem, by simp⟩
  cases hfound : bank'.accounts[booking.account]? with
  | some account => exact ⟨account, rfl⟩
  | none =>
    have hempty : bank'.history booking.account = [] := by simp only [history, hfound]
    rw [hempty] at hgrown
    obtain ⟨-, rfl⟩ := List.append_eq_nil_iff.mp hgrown.symm
    rw [List.forall₂_nil_right_iff.mp hmet] at hbooked
    cases hbooked

theorem enters_post {id : AccountId} {account : Account} {transaction : Transaction}
    {kind : TransactionKind} {amount : Option Money}
    (hkept : account.transactions = bank.history id)
    (hmet : Booking.MetBy ⟨id, kind, amount⟩ transaction) :
    bank.Enters (bank.post id account transaction) [⟨id, kind, amount⟩] := by
  intro id'
  by_cases hid : id' = id
  · subst hid
    refine ⟨[transaction], ?_, ?_⟩
    · rw [post, history_insert, if_pos rfl, ← hkept]
      rfl
    · simpa using hmet
  · refine ⟨[], ?_, ?_⟩
    · rw [post, history_insert, if_neg hid, List.append_nil]
    · simp [Ne.symm hid]

/-- An entry of the amount that was asked for. -/
theorem enters_stamp {id : AccountId} {before account : Account} {kind : TransactionKind}
    {amount : Money} {now : Nat} {description : String}
    (hfound : bank.accounts[id]? = some before)
    (hkept : account.transactions = before.transactions) :
    bank.Enters (bank.post id account (bank.stamp now kind amount description))
      [⟨id, kind, some amount⟩] :=
  enters_post (hkept.trans (history_found hfound).symm)
    ⟨rfl, fun _ h => .inl (Option.some.inj h)⟩

end Bank

open Bank

/-- An operation that returned entered what it was asked for. -/
theorem BankOp.run_enters {op : BankOp} {bank bank' : Bank} {reply : BankReply}
    (hkeeps : ∀ id, op ≠ .deleteAccount id) (hrun : op.run bank = (.ok reply, bank')) :
    bank.Enters bank' op.bookings := by
  cases op with
  | createAccount id ownerId name email openingBalance now =>
    obtain ⟨_, h, -⟩ := map_ok_iff.mp hrun
    obtain ⟨hfresh, -, -, _, _, -, -, -, rfl⟩ := createAccount_ok_iff.mp h
    have hnone : bank.history id = [] := by simp only [history, hfresh]
    exact enters_post (by rw [hnone]; rfl) ⟨rfl, fun _ h => .inl (Option.some.inj h)⟩
  | updateName id name now =>
    obtain ⟨_, h, -⟩ := map_ok_iff.mp hrun
    obtain ⟨-, _, account, -, hfound, rfl⟩ := updateName_ok_iff.mp h
    exact enters_stamp hfound rfl
  | updateEmail id email now =>
    obtain ⟨_, h, -⟩ := map_ok_iff.mp hrun
    obtain ⟨-, _, account, -, hfound, rfl⟩ := updateEmail_ok_iff.mp h
    exact enters_stamp hfound rfl
  | activateAccount id now =>
    obtain ⟨_, h, -⟩ := map_ok_iff.mp hrun
    obtain ⟨-, account, hfound, -, rfl⟩ := activateAccount_ok_iff.mp h
    exact enters_stamp hfound rfl
  | deactivateAccount id now =>
    obtain ⟨_, h, -⟩ := map_ok_iff.mp hrun
    obtain ⟨-, account, hfound, -, rfl⟩ := deactivateAccount_ok_iff.mp h
    exact enters_stamp hfound rfl
  | closeAccount id now =>
    obtain ⟨_, h, -⟩ := map_ok_iff.mp hrun
    obtain ⟨-, account, hfound, -, -, rfl⟩ := closeAccount_ok_iff.mp h
    exact enters_stamp hfound rfl
  | deleteAccount id => exact absurd rfl (hkeeps id)
  | deposit id amount now =>
    obtain ⟨_, h, -⟩ := map_ok_iff.mp hrun
    obtain ⟨-, -, account, _, hfound, -, -, rfl⟩ := deposit_ok_iff.mp h
    exact enters_stamp hfound rfl
  | withdraw id amount now =>
    obtain ⟨_, h, -⟩ := map_ok_iff.mp hrun
    obtain ⟨-, -, account, _, hfound, -, -, -, rfl⟩ := withdraw_ok_iff.mp h
    exact enters_stamp hfound rfl
  | transfer fromId toId amount nowOut nowIn =>
    obtain ⟨_, h, -⟩ := map_ok_iff.mp hrun
    obtain ⟨-, hne, -, payer, payee, _, _, hpayer, -, hpayee, -, -, -, -, rfl⟩ :=
      transfer_ok_iff.mp h
    refine Enters.trans (enters_stamp hpayer ?_)
      (enters_stamp (post_found_ne hne hpayee _ _) ?_) <;> rfl
  | applyFee id amount now =>
    obtain ⟨_, h, -⟩ := map_ok_iff.mp hrun
    obtain ⟨-, -, account, _, hfound, -, -, -, rfl⟩ := applyFee_ok_iff.mp h
    exact enters_stamp hfound rfl
  | applyInterest id rate now =>
    obtain ⟨_, h, -⟩ := map_ok_iff.mp hrun
    obtain ⟨-, -, account, _, hfound, -, -, -, rfl⟩ := applyInterest_ok_iff.mp h
    exact enters_post (history_found hfound).symm ⟨rfl, fun _ h => by cases h⟩
  | requestLoan id amount now =>
    obtain ⟨_, h, -⟩ := map_ok_iff.mp hrun
    obtain ⟨-, -, account, _, _, hfound, -, -, -, rfl⟩ := requestLoan_ok_iff.mp h
    exact enters_stamp hfound rfl
  | payLoan id amount now =>
    obtain ⟨_, h, -⟩ := map_ok_iff.mp hrun
    obtain ⟨-, -, account, _, _, hfound, -, -, rfl, -, -, -, rfl⟩ := payLoan_ok_iff.mp h
    refine enters_post (history_found hfound).symm ⟨rfl, fun _ h => .inr ⟨rfl, ?_⟩⟩
    obtain rfl := Option.some.inj h
    rw [Bank.stamp, Money.cents_min]
    exact Int.min_le_left _ _

end Banck
