/-
Banck.BankLifecycle — what becomes of an account that is not active, and
what a closed one holds.

`Move.Step.account` is what a move does to one account: nothing, remove it,
enter a transaction, or spill a loan. A call makes only moves of its own
(`BankOp.Makes`), so an account that is not active keeps its money and its
owner through every call, and a closed one stays closed until it is
deleted. That a closed account holds nothing is kept by every move, but the
loader does not ask for it.
-/
import Banck.BankInvariants
import Banck.BankRuns

namespace Banck

open Lib Mut Machine

/-! ## One entry -/

namespace Account

/-- Balance, loan and owner are the same. -/
structure SameMoney (before after : Account) : Prop where
  balance : after.balance = before.balance
  loanBalance : after.loanBalance = before.loanBalance
  ownerId : after.ownerId = before.ownerId

theorem SameMoney.refl (account : Account) : account.SameMoney account := ⟨rfl, rfl, rfl⟩

theorem SameMoney.trans {a b c : Account} (hab : a.SameMoney b) (hbc : b.SameMoney c) :
    a.SameMoney c :=
  ⟨hbc.balance.trans hab.balance, hbc.loanBalance.trans hab.loanBalance,
    hbc.ownerId.trans hab.ownerId⟩

/-- A closed account, with nothing but changes of its profile and closings
entered since. -/
structure StaysClosed (before after : Account) : Prop where
  closed : after.status = .closed
  grows : ∃ entries, after.transactions = before.transactions ++ entries ∧
    ∀ t ∈ entries, t.kind ∈ [.profileUpdated, .closed] ∧ t.amount.cents = 0

theorem StaysClosed.refl {account : Account} (h : account.status = .closed) :
    account.StaysClosed account :=
  ⟨h, [], (List.append_nil _).symm, by simp⟩

theorem StaysClosed.trans {a b c : Account} (hab : a.StaysClosed b) (hbc : b.StaysClosed c) :
    a.StaysClosed c := by
  obtain ⟨-, first, hfirst, hfirstKinds⟩ := hab
  obtain ⟨hclosed, later, hlater, hlaterKinds⟩ := hbc
  refine ⟨hclosed, first ++ later, by rw [hlater, hfirst, List.append_assoc], fun t ht => ?_⟩
  rcases List.mem_append.mp ht with ht | ht
  · exact hfirstKinds t ht
  · exact hlaterKinds t ht

/-- Whoever is closed holds nothing. -/
def EmptyIfClosed (account : Account) : Prop :=
  account.status = .closed → account.balance.cents = 0 ∧ account.loanBalance.cents = 0

end Account

namespace Entry

variable {before after : Account} {kind : TransactionKind} {amount : Money}

/-- Money moves on active accounts only. -/
theorem sameMoney (h : Entry before kind amount after)
    (hnot : before.status ≠ .active ∨ kind = .activated) : before.SameMoney after := by
  cases h with
  | credited kindIs active _ _ => rcases kindIs with rfl | rfl <;> simp [active] at hnot
  | debited kindIs active _ _ _ => rcases kindIs with rfl | rfl | rfl <;> simp [active] at hnot
  | interest active _ _ => simp [active] at hnot
  | loanRequested active _ _ _ => simp [active] at hnot
  | loanPayment active _ _ _ _ _ => simp [active] at hnot
  | renamed | readdressed | activated | deactivated | closed => exact ⟨rfl, rfl, rfl⟩

theorem notActive (h : Entry before kind amount after) (hnot : before.status ≠ .active) :
    after.status ≠ .active ∨ kind = .activated := by
  cases h with
  | credited _ active _ _ => exact absurd active hnot
  | debited _ active _ _ _ => exact absurd active hnot
  | interest active _ _ => exact absurd active hnot
  | loanRequested active _ _ _ => exact absurd active hnot
  | loanPayment active _ _ _ _ _ => exact absurd active hnot
  | renamed | readdressed => exact .inl hnot
  | activated => exact .inr rfl
  | deactivated | closed => exact .inl (by simp)

/-- Nothing is entered on a closed account but changes of its profile and
closings. -/
theorem staysClosed (h : Entry before kind amount after) (hclosed : before.status = .closed) :
    after.status = .closed ∧ kind ∈ [.profileUpdated, .closed] ∧ amount.cents = 0 := by
  cases h with
  | credited _ active _ _ => simp [hclosed] at active
  | debited _ active _ _ _ => simp [hclosed] at active
  | interest active _ _ => simp [hclosed] at active
  | loanRequested active _ _ _ => simp [hclosed] at active
  | loanPayment active _ _ _ _ _ => simp [hclosed] at active
  | renamed | readdressed => exact ⟨hclosed, by simp, rfl⟩
  | activated notClosed => exact absurd hclosed notClosed
  | deactivated notClosed => exact absurd hclosed notClosed
  | closed => exact ⟨rfl, by simp, rfl⟩

theorem emptyIfClosed (h : Entry before kind amount after) (hb : before.EmptyIfClosed) :
    after.EmptyIfClosed := by
  intro hclosed
  cases h with
  | credited _ active _ _ => simp [active] at hclosed
  | debited _ active _ _ _ => simp [active] at hclosed
  | interest active _ _ => simp [active] at hclosed
  | loanRequested active _ _ _ => simp [active] at hclosed
  | loanPayment active _ _ _ _ _ => simp [active] at hclosed
  | renamed | readdressed => exact hb hclosed
  | activated | deactivated => simp at hclosed
  | closed balance loan => exact ⟨balance, loan⟩

end Entry

/-! ## One move -/

/-- What a move does to an account. -/
theorem Move.Step.account {bank bank' : Bank} {m : Move} (h : Move.Step bank m bank')
    {id : AccountId} {account : Account} (hfound : bank.accounts[id]? = some account) :
    bank'.accounts[id]? = some account ∨
      m = .removed id ∧ bank'.accounts[id]? = none ∨
      (∃ after transaction, m = .posted id after transaction ∧
        Entry account transaction.kind transaction.amount after ∧
        bank'.accounts[id]? = some (after.record transaction)) ∨
      ∃ balance, m = .spilled id balance ∧ account.status = .active := by
  cases h with
  | @opened opened transaction fresh _ _ _ _ _ =>
    have hne : id ≠ opened.id := fun he => by
      rw [he, fresh] at hfound
      cases hfound
    exact .inl (by rw [Bank.post_accounts, OrdMap.get_insert_ne _ _ hne, hfound])
  | @posted id' before after transaction found _ _ entry =>
    by_cases he : id = id'
    · subst he
      obtain rfl := Option.some.inj (hfound.symm.trans found)
      exact .inr (.inr (.inl ⟨after, transaction, rfl, entry, OrdMap.get_insert_self _ _ _⟩))
    · exact .inl (by rw [Bank.post_accounts, OrdMap.get_insert_ne _ _ he, hfound])
  | @removed id' removed found _ _ =>
    by_cases he : id = id'
    · subst he
      exact .inr (.inl ⟨rfl, OrdMap.get_erase_self _ _⟩)
    · exact .inl (by rw [OrdMap.get_erase_ne _ he, hfound])
  | skipped _ _ => exact .inl hfound
  | @spilled id' spilled _ balance found _ active _ _ _ =>
    by_cases he : id = id'
    · subst he
      obtain rfl := Option.some.inj (hfound.symm.trans found)
      exact .inr (.inr (.inr ⟨balance, rfl, active⟩))
    · exact .inl (by rw [OrdMap.get_insert_ne _ _ he, hfound])

/-- An account that is not there comes to be by an opening only. -/
theorem Move.Step.absent {bank bank' : Bank} {m : Move} (h : Move.Step bank m bank')
    {id : AccountId} (habsent : bank.accounts[id]? = none)
    (hopen : ∀ account transaction, m = .opened account transaction → account.id ≠ id) :
    bank'.accounts[id]? = none := by
  cases h with
  | @opened account transaction _ _ _ _ _ _ =>
    rw [Bank.post_accounts, OrdMap.get_insert_ne _ _ (hopen account transaction rfl).symm,
      habsent]
  | @posted id' before _ _ found _ _ _ =>
    have hne : id ≠ id' := fun he => by
      rw [← he, habsent] at found
      cases found
    rw [Bank.post_accounts, OrdMap.get_insert_ne _ _ hne, habsent]
  | @removed id' _ _ _ _ =>
    by_cases he : id = id'
    · subst he
      exact OrdMap.get_erase_self _ _
    · rw [OrdMap.get_erase_ne _ he, habsent]
  | skipped _ _ => exact habsent
  | @spilled id' _ _ _ found _ _ _ _ _ =>
    have hne : id ≠ id' := fun he => by
      rw [← he, habsent] at found
      cases found
    rw [OrdMap.get_insert_ne _ _ hne, habsent]

/-! ## One call -/

namespace BankOp

/-- What is left of an account that is not active: it was deleted, or it is
there with its money, and activated at most. -/
def Dormant (op : BankOp) (id : AccountId) (before : Account) (bank : Bank) : Prop :=
  (op = .deleteAccount id ∧ bank.accounts[id]? = none) ∨
    ∃ after, bank.accounts[id]? = some after ∧ before.SameMoney after ∧
      (after.status ≠ .active ∨ ∃ now, op = .activateAccount id now)

/-- What is left of a closed account. -/
def ClosedOrDeleted (op : BankOp) (id : AccountId) (before : Account) (bank : Bank) : Prop :=
  (op = .deleteAccount id ∧ bank.accounts[id]? = none) ∨
    ∃ after, bank.accounts[id]? = some after ∧ before.StaysClosed after

/-- A call that deletes opens nothing. -/
theorem Makes.absent {op : BankOp} {id : AccountId} {bank bank' : Bank} {m : Move}
    (hmakes : op.Makes m) (hop : op = .deleteAccount id) (h : Move.Step bank m bank')
    (habsent : bank.accounts[id]? = none) : bank'.accounts[id]? = none := by
  refine h.absent habsent fun account transaction hm => ?_
  rw [hm, hop] at hmakes
  obtain ⟨_, _, _, _, _, hcreate⟩ := hmakes
  cases hcreate

theorem activates_of_mem {op : BankOp} {id : AccountId}
    (h : (id, TransactionKind.activated) ∈ op.postings) :
    ∃ now, op = .activateAccount id now := by
  cases op with
  | activateAccount id' now =>
    obtain rfl := congrArg Prod.fst (List.mem_singleton.mp h)
    exact ⟨now, rfl⟩
  | _ => simp [postings] at h

theorem dormant_move {op : BankOp} {id : AccountId} {before : Account} {bank bank' : Bank}
    {m : Move} (h : Move.Step bank m bank') (hmakes : op.Makes m)
    (hd : op.Dormant id before bank) : op.Dormant id before bank' := by
  rcases hd with ⟨hop, habsent⟩ | ⟨account, hfound, hsame, hstatus⟩
  · exact .inl ⟨hop, hmakes.absent hop h habsent⟩
  · rcases h.account hfound with hkept | ⟨rfl, hgone⟩ | ⟨after, t, rfl, entry, hthere⟩ |
      ⟨balance, rfl, hactive⟩
    · exact .inr ⟨account, hkept, hsame, hstatus⟩
    · exact .inl ⟨hmakes, hgone⟩
    · have hentry : account.status ≠ .active ∨ t.kind = .activated := by
        rcases hstatus with hnot | ⟨now, rfl⟩
        · exact .inl hnot
        · exact .inr (congrArg Prod.snd (List.mem_singleton.mp hmakes))
      have hmoney := entry.sameMoney hentry
      refine .inr ⟨after.record t, hthere, hsame.trans ⟨hmoney.1, hmoney.2, hmoney.3⟩, ?_⟩
      rcases hstatus with hnot | hop
      · rcases entry.notActive hnot with hnot' | hkind
        · exact .inl hnot'
        · have hposted : (id, t.kind) ∈ op.postings := hmakes
          rw [hkind] at hposted
          exact .inr (activates_of_mem hposted)
      · exact .inr hop
    · rcases hstatus with hnot | ⟨now, rfl⟩
      · exact absurd hactive hnot
      · obtain ⟨_, _, hloan⟩ := hmakes
        cases hloan

theorem closed_move {op : BankOp} {id : AccountId} {before : Account} {bank bank' : Bank}
    {m : Move} (h : Move.Step bank m bank') (hmakes : op.Makes m)
    (hc : op.ClosedOrDeleted id before bank) : op.ClosedOrDeleted id before bank' := by
  rcases hc with ⟨hop, habsent⟩ | ⟨account, hfound, hstays⟩
  · exact .inl ⟨hop, hmakes.absent hop h habsent⟩
  · rcases h.account hfound with hkept | ⟨rfl, hgone⟩ | ⟨after, t, rfl, entry, hthere⟩ |
      ⟨balance, rfl, hactive⟩
    · exact .inr ⟨account, hkept, hstays⟩
    · exact .inl ⟨hmakes, hgone⟩
    · obtain ⟨hclosed, hkind, hzero⟩ := entry.staysClosed hstays.closed
      refine .inr ⟨after.record t, hthere, hstays.trans ⟨hclosed, [t], ?_, ?_⟩⟩
      · rw [Account.record, entry.transactions_eq]
      · simpa using ⟨by simpa using hkind, hzero⟩
    · simp [hstays.closed] at hactive

/-- What every move of a call preserves, the call preserves. -/
theorem run_preserves {op : BankOp} {I : Bank → Prop}
    (h : ∀ bank m bank', Move.Step bank m bank' → op.Makes m → I bank → I bank')
    {bank : Bank} (hbank : I bank) : I (op.run bank).2 := by
  obtain ⟨moves, hpath, hmakes⟩ := op.run_moves bank
  exact (hpath.guard hmakes).invariant (fun _ _ _ hm => h _ _ _ hm.1 hm.2) hbank

theorem run_dormant (op : BankOp) {bank : Bank} {id : AccountId} {account : Account}
    (hfound : bank.accounts[id]? = some account) (hnot : account.status ≠ .active) :
    op.Dormant id account (op.run bank).2 :=
  run_preserves (fun _ _ _ => dormant_move)
    (.inr ⟨account, hfound, .refl account, .inl hnot⟩)

theorem run_closed (op : BankOp) {bank : Bank} {id : AccountId} {account : Account}
    (hfound : bank.accounts[id]? = some account) (hclosed : account.status = .closed) :
    op.ClosedOrDeleted id account (op.run bank).2 :=
  run_preserves (fun _ _ _ => closed_move) (.inr ⟨account, hfound, .refl hclosed⟩)

/-- A deletion after which the account is gone returned. -/
theorem deleteAccount_ok_of_gone {bank : Bank} {id : AccountId} {account : Account}
    (hfound : bank.accounts[id]? = some account)
    (hgone : ((BankOp.deleteAccount id).run bank).2.accounts[id]? = none) :
    ∃ reply, ((BankOp.deleteAccount id).run bank).1 = .ok reply := by
  rcases hrun : (BankOp.deleteAccount id).run bank with ⟨e | reply, bank'⟩
  · have hkept := (Bank.error_keeps_accounts_iff (.deleteAccount id) bank).mpr (fun h => h) _ _
      hrun
    rw [hrun, show bank'.accounts = bank.accounts from hkept, hfound] at hgone
    cases hgone
  · exact ⟨reply, rfl⟩

end BankOp

namespace Bank

/-- Charging fees does to a dormant account what one fee does. -/
theorem chargeFees_dormant (amount : Money) (clock : AccountId → Nat) {id : AccountId} :
    ∀ (ids : List AccountId) {bank : Bank} {account : Account},
      bank.accounts[id]? = some account → account.status ≠ .active →
      ∃ after, (chargeFees amount clock ids bank).2.accounts[id]? = some after ∧
        account.SameMoney after ∧ after.status ≠ .active
  | [], _, account, hfound, hnot => ⟨account, hfound, .refl account, hnot⟩
  | first :: rest, bank, account, hfound, hnot => by
      have hfirst := (BankOp.applyFee first amount (clock first)).run_dormant hfound hnot
      rw [run_applyFee] at hfirst
      rw [chargeFees_cons]
      rcases hfirst with ⟨hop, -⟩ | ⟨charged, hcharged, hsame, hstatus⟩
      · cases hop
      · have hstill : charged.status ≠ .active := by
          rcases hstatus with h | ⟨_, hop⟩
          · exact h
          · cases hop
        obtain ⟨after, hafter, hsame', hnot'⟩ :=
          chargeFees_dormant amount clock rest hcharged hstill
        exact ⟨after, hafter, hsame.trans hsame', hnot'⟩

theorem chargeFees_closed (amount : Money) (clock : AccountId → Nat) {id : AccountId} :
    ∀ (ids : List AccountId) {bank : Bank} {account : Account},
      bank.accounts[id]? = some account → account.status = .closed →
      ∃ after, (chargeFees amount clock ids bank).2.accounts[id]? = some after ∧
        account.StaysClosed after
  | [], _, account, hfound, hclosed => ⟨account, hfound, .refl hclosed⟩
  | first :: rest, bank, account, hfound, hclosed => by
      have hfirst := (BankOp.applyFee first amount (clock first)).run_closed hfound hclosed
      rw [run_applyFee] at hfirst
      rw [chargeFees_cons]
      rcases hfirst with ⟨hop, -⟩ | ⟨charged, hcharged, hstays⟩
      · cases hop
      · obtain ⟨after, hafter, hstays'⟩ :=
          chargeFees_closed amount clock rest hcharged hstays.closed
        exact ⟨after, hafter, hstays.trans hstays'⟩

/-! ## Runs -/

/-- The account is deleted in the run, by a call that returns. -/
def DeletedIn (bank : Bank) (id : AccountId) (calls : List BankCall) : Prop :=
  ∃ earlier rest reply, calls = earlier ++ .call (.deleteAccount id) :: rest ∧
    (BankCall.run (BankCall.final bank earlier) (.call (.deleteAccount id))).1 =
      .reply (.ok reply)

theorem run_keeps_dormant (call : BankCall) {bank : Bank} {id : AccountId} {account : Account}
    (hfound : bank.accounts[id]? = some account) (hnot : account.status ≠ .active) :
    (call = .call (.deleteAccount id) ∧ (BankCall.run bank call).2.accounts[id]? = none) ∨
      ∃ after, (BankCall.run bank call).2.accounts[id]? = some after ∧
        account.SameMoney after := by
  cases call with
  | call op =>
    rcases op.run_dormant hfound hnot with ⟨rfl, hgone⟩ | ⟨after, hafter, hsame, -⟩
    · exact .inl ⟨rfl, hgone⟩
    · exact .inr ⟨after, hafter, hsame⟩
  | applyMonthlyFee amount clock =>
    obtain ⟨after, hafter, hsame, -⟩ :=
      chargeFees_dormant amount clock bank.accounts.keys hfound hnot
    exact .inr ⟨after, hafter, hsame⟩

theorem run_keeps_closed (call : BankCall) {bank : Bank} {id : AccountId} {account : Account}
    (hfound : bank.accounts[id]? = some account) (hclosed : account.status = .closed) :
    bank.DeletedIn id [call] ∨
      ∃ after, (BankCall.run bank call).2.accounts[id]? = some after ∧
        account.StaysClosed after := by
  cases call with
  | call op =>
    rcases op.run_closed hfound hclosed with ⟨rfl, hgone⟩ | hstays
    · obtain ⟨reply, hreply⟩ := BankOp.deleteAccount_ok_of_gone hfound hgone
      exact .inl ⟨[], [], reply, rfl, congrArg BankAnswer.reply hreply⟩
    · exact .inr hstays
  | applyMonthlyFee amount clock =>
    exact .inr (chargeFees_closed amount clock bank.accounts.keys hfound hclosed)

theorem DeletedIn.later {bank : Bank} {id : AccountId} {first : BankCall}
    {rest : List BankCall} (h : (BankCall.run bank first).2.DeletedIn id rest) :
    bank.DeletedIn id (first :: rest) := by
  obtain ⟨earlier, after, reply, rfl, hreply⟩ := h
  exact ⟨first :: earlier, after, reply, rfl, hreply⟩

theorem DeletedIn.first {bank : Bank} {id : AccountId} {first : BankCall}
    (h : bank.DeletedIn id [first]) (rest : List BankCall) :
    bank.DeletedIn id (first :: rest) := by
  obtain ⟨earlier, after, reply, heq, hreply⟩ := h
  refine ⟨earlier, after ++ rest, reply, ?_, hreply⟩
  rw [← List.cons_append, ← List.append_assoc, ← heq]
  rfl

/-- A closed account stays closed until it is deleted. -/
theorem final_keeps_closed {id : AccountId} :
    ∀ (calls : List BankCall) {bank : Bank} {account : Account},
      bank.accounts[id]? = some account → account.status = .closed →
      bank.DeletedIn id calls ∨ ∃ after,
        (BankCall.final bank calls).accounts[id]? = some after ∧ account.StaysClosed after
  | [], _, account, hfound, hclosed => .inr ⟨account, hfound, .refl hclosed⟩
  | first :: rest, bank, account, hfound, hclosed => by
      rcases run_keeps_closed first hfound hclosed with hdeleted | ⟨after, hafter, hstays⟩
      · exact .inl (hdeleted.first rest)
      · rcases final_keeps_closed rest hafter hstays.closed with hdeleted | ⟨last, hlast, hlasts⟩
        · exact .inl hdeleted.later
        · exact .inr ⟨last, hlast, hstays.trans hlasts⟩

/-- From every bank, and so from every one a process reaches: a call, of
whatever outcome, leaves an account that is not active its balance, its
loan and its owner, unless it deletes it; and over any run a closed account
stays closed until it is deleted, its history extended by nothing but
changes of its profile and closings, which carry no money. -/
theorem account_lifecycle (bank : Bank) (id : AccountId) (account : Account)
    (hfound : bank.accounts[id]? = some account) :
    (account.status ≠ .active → ∀ call : BankCall,
      (call = .call (.deleteAccount id) ∧
        (BankCall.run bank call).2.accounts[id]? = none) ∨
      ∃ after, (BankCall.run bank call).2.accounts[id]? = some after ∧
        after.balance = account.balance ∧ after.loanBalance = account.loanBalance ∧
        after.ownerId = account.ownerId) ∧
    (account.status = .closed → ∀ calls : List BankCall,
      bank.DeletedIn id calls ∨
      ∃ after entries, (BankCall.final bank calls).accounts[id]? = some after ∧
        after.status = .closed ∧ after.transactions = account.transactions ++ entries ∧
        ∀ t ∈ entries, t.kind ∈ [.profileUpdated, .closed] ∧ t.amount.cents = 0) := by
  refine ⟨fun hnot call => ?_, fun hclosed calls => ?_⟩
  · rcases run_keeps_dormant call hfound hnot with hdeleted | ⟨after, hafter, hsame⟩
    · exact .inl hdeleted
    · exact .inr ⟨after, hafter, hsame.balance, hsame.loanBalance, hsame.ownerId⟩
  · rcases final_keeps_closed calls hfound hclosed with hdeleted | ⟨after, hafter, hstays⟩
    · exact .inl hdeleted
    · obtain ⟨hstill, entries, hentries, hkinds⟩ := hstays
      exact .inr ⟨after, entries, hafter, hstill, hentries, hkinds⟩

/-- An imported closed account, renamed and charged the monthly fee. -/
theorem account_lifecycle_renamed :
    let account : Account := ⟨7, none, "A", "a@b", ⟨5, by decide⟩, Money.zero, .closed, []⟩
    let bank : Bank := ⟨(∅ : OrdMap AccountId Account).insert 7 account, 1⟩
    let calls : List BankCall :=
      [.call (.updateName 7 "B" 0), .applyMonthlyFee ⟨1, by decide⟩ fun _ => 0]
    bank.DeletedIn 7 calls ∨
      ∃ after entries, (BankCall.final bank calls).accounts[(7 : AccountId)]? = some after ∧
        after.status = .closed ∧ after.transactions = account.transactions ++ entries ∧
        ∀ t ∈ entries, t.kind ∈ [.profileUpdated, .closed] ∧ t.amount.cents = 0 :=
  (account_lifecycle _ 7 _ (OrdMap.get_insert_self _ _ _)).2 rfl _

/-! ## What a closed account holds -/

/-- Every move keeps closed accounts empty. -/
theorem emptyIfClosed_step {bank bank' : Bank} {m : Move} (h : Move.Step bank m bank')
    (hbank : bank.Each fun _ account => account.EmptyIfClosed) :
    bank'.Each fun _ account => account.EmptyIfClosed := by
  refine Each.step h (fun account t hopen _ _ hclosed => ?_)
    (fun _ _ _ _ hb entry => entry.emptyIfClosed hb)
    (fun _ _ account _ _ _ hactive _ _ hclosed => ?_) hbank
  · obtain ⟨_, _, _, _, _, _, _, -, -, -, rfl⟩ := hopen
    cases hclosed
  · rw [show account.status = .closed from hclosed] at hactive
    cases hactive

/-- After the loader accepted a list, closed accounts are empty in every
run exactly if those of the list are: the loader does not look. -/
theorem closed_accounts_are_empty_iff (accounts : List Account) (bank : Bank)
    (haccepted : fromAccounts accounts = .ok bank) :
    (∀ calls : List BankCall, ∀ account ∈ (BankCall.final bank calls).accountList,
        account.status = .closed →
          account.balance.cents = 0 ∧ account.loanBalance.cents = 0) ↔
      ∀ account ∈ accounts, account.status = .closed →
        account.balance.cents = 0 ∧ account.loanBalance.cents = 0 := by
  obtain ⟨-, hnodup, -, -, -, hbank⟩ := fromAccounts_ok_iff.mp haccepted
  constructor
  · intro h account hmem
    refine h [] account (OrdMap.mem_vals.mpr ⟨account.id, ?_⟩)
    rw [hbank]
    exact (OrdMap.get_ofVals hnodup account.id account).mpr ⟨hmem, rfl⟩
  · intro h calls account hmem
    have hstart : bank.Each fun _ account => account.EmptyIfClosed :=
      fun id account hfound => h account (mem_of_fromAccounts haccepted hfound).1
    obtain ⟨_, hempty⟩ :=
      each_mem (BankCall.final_of_step (fun _ _ _ => emptyIfClosed_step) hstart calls) hmem
    exact hempty

/-- A closed account with a cent on it, and an open one. -/
def strandedCent : List Account :=
  [⟨1, none, "A", "a@b", ⟨1, by decide⟩, Money.zero, .closed, []⟩,
   ⟨2, none, "B", "b@c", Money.zero, Money.zero, .active, []⟩]

/-- The list is accepted, and no call gets the cent off the account. -/
theorem closed_account_with_balance_is_imported :
    ∃ bank, fromAccounts strandedCent = .ok bank ∧
      (∃ account ∈ bank.accountList, account.status = .closed ∧
        account.balance.cents = 1) ∧
      ((BankOp.withdraw 1 ⟨1, by decide⟩ 0).run bank).1 = .error (.accountClosed 1) ∧
      ((BankOp.transfer 1 2 ⟨1, by decide⟩ 0 0).run bank).1 = .error (.accountClosed 1) ∧
      ((BankOp.activateAccount 1 0).run bank).1 = .error (.accountClosed 1) ∧
      ((BankOp.closeAccount 1 0).run bank).1 =
        .error (.accountHasBalance 1 ⟨1, by decide⟩) ∧
      ((BankOp.deleteAccount 1).run bank).1 =
        .error (.accountHasBalance 1 ⟨1, by decide⟩) := by
  refine ⟨⟨OrdMap.ofVals Account.id strandedCent, 1⟩, ?_⟩
  decide +kernel

/-- An account that was closed empty. -/
theorem closed_accounts_are_empty_iff_one :
    let closed : Account := ⟨1, none, "A", "a@b", Money.zero, Money.zero, .closed, []⟩
    let bank : Bank := ⟨OrdMap.ofVals Account.id [closed], 1⟩
    (∀ calls : List BankCall, ∀ account ∈ (BankCall.final bank calls).accountList,
        account.status = .closed →
          account.balance.cents = 0 ∧ account.loanBalance.cents = 0) ↔
      ∀ account ∈ [closed], account.status = .closed →
        account.balance.cents = 0 ∧ account.loanBalance.cents = 0 :=
  closed_accounts_are_empty_iff [⟨1, none, "A", "a@b", Money.zero, Money.zero, .closed, []⟩]
    _ (by decide +kernel)

end Bank

end Banck
