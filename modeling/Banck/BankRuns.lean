/-
Banck.BankRuns — the bank over whole runs of calls.

A run is a list of calls answered one after the other, each returning or
failing. The main results: `error_keeps_accounts_iff` (which failing calls
change an account), `balances_match_histories` and `money_is_conserved`
(runs without an overflow), `nothing_is_overdrawn` (every run, from an
empty or an imported bank).
-/
import Banck.BankImport
import Banck.BankTheorems

namespace Banck

open Lib Mut Machine

/-! ## Calls are paths of moves -/

namespace BankOp

theorem Explained.refl (bank : Bank) : Explained bank bank 0 :=
  ⟨[], .nil bank, by simp, rfl⟩

theorem Explained.trans {a b c : Bank} {f g : Int} (hab : Explained a b f)
    (hbc : Explained b c g) : Explained a c (f + g) := by
  obtain ⟨xs, hx, hxs, rfl⟩ := hab
  obtain ⟨ys, hy, hys, rfl⟩ := hbc
  refine ⟨xs ++ ys, hx.append hy, fun m hm => ?_, by simp⟩
  rcases List.mem_append.mp hm with hm | hm
  · exact hxs m hm
  · exact hys m hm

end BankOp

open BankOp (Explained)

namespace Bank

/-- One account's turn: the fee is an operation like any other. -/
theorem chargeFees_cons (amount : Money) (clock : AccountId → Nat) (id : AccountId)
    (rest : List AccountId) (bank : Bank) :
    bank.chargeFees amount clock (id :: rest) =
      ((id, (applyFee id amount (clock id) bank).1) ::
          (chargeFees amount clock rest (applyFee id amount (clock id) bank).2).1,
        (chargeFees amount clock rest (applyFee id amount (clock id) bank).2).2) := rfl

/-- The fee as an operation. -/
theorem run_applyFee (id : AccountId) (amount : Money) (now : Nat) (bank : Bank) :
    (BankOp.applyFee id amount now).run bank =
      ((applyFee id amount now bank).1.map fun _ => .unit, (applyFee id amount now bank).2) := by
  rw [BankOp.run, map_run]

theorem chargeFees_path (amount : Money) (clock : AccountId → Nat) :
    ∀ (ids : List AccountId) (bank : Bank),
      ∃ moves, Path Move.Step bank moves (chargeFees amount clock ids bank).2
  | [], bank => ⟨[], .nil bank⟩
  | id :: rest, bank => by
      rw [chargeFees_cons]
      obtain ⟨xs, hx⟩ := BankOp.run_path (.applyFee id amount (clock id)) bank
      rw [run_applyFee] at hx
      obtain ⟨ys, hy⟩ := chargeFees_path amount clock rest _
      exact ⟨xs ++ ys, hx.append hy⟩

/-- Without an overflow, the accounts charged paid the fee once each. -/
theorem chargeFees_explained (amount : Money) (clock : AccountId → Nat) :
    ∀ (ids : List AccountId) (bank : Bank),
      (∀ charged ∈ (chargeFees amount clock ids bank).1,
        charged.2 ≠ .error .arithmeticOverflow) →
      Explained bank (chargeFees amount clock ids bank).2
        (-(amount.cents * ((chargeFees amount clock ids bank).1.filter
          fun charged => charged.2.isOk).length))
  | [], bank, _ => by simpa [chargeFees] using Explained.refl bank
  | id :: rest, bank, h => by
      rw [chargeFees_cons] at h ⊢
      have hfirst := BankOp.run_explained (.applyFee id amount (clock id)) bank (by
        rw [run_applyFee]
        have := h _ (List.mem_cons_self ..)
        cases hr : (applyFee id amount (clock id) bank).1 with
        | error e => rw [hr] at this; simpa [Except.map] using this
        | ok u => simp [Except.map])
      rw [run_applyFee] at hfirst
      have hrest := chargeFees_explained amount clock rest
        (applyFee id amount (clock id) bank).2 fun charged hc => h charged (by simp [hc])
      have hboth := hfirst.trans hrest
      cases hr : (applyFee id amount (clock id) bank).1 with
      | error e =>
        rw [hr] at hboth
        simpa [Except.map, Except.isOk, Except.toBool] using hboth
      | ok u =>
        rw [hr] at hboth
        convert hboth using 1
        simp [Except.map, Except.isOk, Except.toBool, BankOp.flow]
        ring

end Bank

namespace BankCall

theorem run_path (call : BankCall) (bank : Bank) :
    ∃ moves, Path Move.Step bank moves (run bank call).2 := by
  cases call with
  | call op => exact op.run_path bank
  | applyMonthlyFee amount clock => exact Bank.chargeFees_path amount clock _ bank

theorem run_explained (call : BankCall) (bank : Bank) (h : ¬ (run bank call).1.Overflowed) :
    Explained bank (run bank call).2 (call.flow (run bank call).1) := by
  cases call with
  | call op => exact op.run_explained bank h
  | applyMonthlyFee amount clock =>
    exact Bank.chargeFees_explained amount clock _ bank fun charged hc he => h ⟨charged, hc, he⟩

/-! ## Runs are paths of moves -/

/-- The bank after a run. -/
abbrev final (bank : Bank) (calls : List BankCall) : Bank := Machine.final run bank calls

/-- The answers of a run. -/
abbrev answers (bank : Bank) (calls : List BankCall) : List BankAnswer :=
  Machine.outputs run bank calls

/-- The money a run brings into the bank. -/
def flows (bank : Bank) (calls : List BankCall) : Int :=
  (List.zipWith flow calls (answers bank calls)).sum

theorem final_path : ∀ (calls : List BankCall) (bank : Bank),
    ∃ moves, Path Move.Step bank moves (final bank calls)
  | [], bank => ⟨[], .nil bank⟩
  | first :: rest, bank => by
      obtain ⟨xs, hx⟩ := run_path first bank
      obtain ⟨ys, hy⟩ := final_path rest (run bank first).2
      exact ⟨xs ++ ys, hx.append hy⟩

/-- An invariant of the moves holds after every run. -/
theorem final_of_step {I : Bank → Prop}
    (h : ∀ bank m bank', Move.Step bank m bank' → I bank → I bank') {bank : Bank}
    (hbank : I bank) (calls : List BankCall) : I (final bank calls) := by
  obtain ⟨moves, hpath⟩ := final_path calls bank
  exact hpath.invariant h hbank

theorem final_explained : ∀ (calls : List BankCall) (bank : Bank),
    (∀ answer ∈ answers bank calls, ¬ answer.Overflowed) →
    Explained bank (final bank calls) (flows bank calls)
  | [], bank, _ => Explained.refl bank
  | first :: rest, bank, h => by
      have hfirst := run_explained first bank (h _ (by simp [answers]))
      have hrest := final_explained rest (run bank first).2 fun answer ha =>
        h answer (by simp [answers] at ha ⊢; exact .inr ha)
      exact hfirst.trans hrest

end BankCall

namespace Bank

/-! ## Failing calls -/

/-- A failing call leaves every account as it was, unless it asks for a
loan that the balance takes and the loan balance does not: then the balance
is raised and stays raised. -/
theorem error_keeps_accounts_iff (op : BankOp) (bank : Bank) :
    (∀ e bank', op.run bank = (.error e, bank') → bank'.accounts = bank.accounts) ↔
      ¬ op.SpillsLoan bank := by
  constructor
  · intro h hspill
    cases op with
    | requestLoan id amount now =>
      obtain ⟨bank', hrun, account, balance, hfound, hsum, rfl⟩ :=
        requestLoan_of_spills now hspill
      have hsame := h _ _ (map_error_iff.mpr hrun)
      have hget := OrdMap.get_insert_self bank.accounts id { account with balance }
      rw [show bank.accounts.insert id { account with balance } = bank.accounts from hsame,
        hfound, Option.some.injEq] at hget
      have hbalance : account.balance = balance := congrArg Account.balance hget
      have hpos := hspill.1
      rw [← hbalance] at hsum
      omega
    | _ => exact hspill
  · intro hspill e bank' hrun
    rcases BankOp.run_error hrun with hl | ⟨-, hs, -⟩
    · exact hl.accounts
    · exact absurd hs hspill

/-- Borrow the largest amount there is, withdraw it, and ask for a cent. -/
def maximalLoan : List BankCall :=
  [.call (.createAccount 1 none "A" "a@b" Money.zero 0),
   .call (.requestLoan 1 ⟨i64Max, by decide⟩ 0),
   .call (.withdraw 1 ⟨i64Max, by decide⟩ 0)]

/-- The request for one more cent is refused, and the cent is on the
account. -/
theorem refused_loan_raises_balance :
    let bank := BankCall.final new maximalLoan
    let cent : BankOp := .requestLoan 1 ⟨1, by decide⟩ 0
    (∀ account ∈ bank.accountList,
        0 ≤ account.balance.cents ∧ 0 ≤ account.loanBalance.cents) ∧
      (cent.run bank).1 = .error .arithmeticOverflow ∧
      (cent.run bank).2.accounts ≠ bank.accounts ∧
      bank.accountList.map (fun account => account.balance.cents) = [0] ∧
      (cent.run bank).2.accountList.map (fun account => account.balance.cents) = [1] := by
  decide +kernel

/-! ## Runs without an overflow -/

theorem reconciled_of_run {calls : List BankCall}
    (h : ∀ answer ∈ BankCall.answers new calls, ¬ answer.Overflowed) :
    (BankCall.final new calls).Reconciled ∧
      (BankCall.final new calls).netWorth = BankCall.flows new calls := by
  have hrun := (BankCall.final_explained calls new h).reconciled each_new
  refine ⟨hrun.1, ?_⟩
  rw [hrun.2]
  exact zero_add _

/-- After a run without an overflow, every balance is the sum of the
transactions that brought money in less those that took it out, every loan
is what was requested less what was paid, and the transactions that record
a change of profile or status carry no money. -/
theorem balances_match_histories (calls : List BankCall)
    (h : ∀ answer ∈ BankCall.answers new calls, ¬ answer.Overflowed) :
    ∀ account ∈ (BankCall.final new calls).accountList,
      account.balance.cents =
          sumOf [.accountCreated, .deposit, .transferIn, .interest, .loanRequested]
            account.transactions
          - sumOf [.withdrawal, .transferOut, .fee, .loanPayment] account.transactions ∧
        account.loanBalance.cents =
          sumOf [.loanRequested] account.transactions
          - sumOf [.loanPayment] account.transactions ∧
        ∀ transaction ∈ account.transactions,
          transaction.kind ∈ [.profileUpdated, .activated, .deactivated, .closed] →
            transaction.amount.cents = 0 := by
  intro account hmem
  obtain ⟨_, hrec⟩ := each_mem (reconciled_of_run h).1 hmem
  refine ⟨?_, ?_, hrec.zero⟩
  · rw [hrec.balance, worth_balanceEffect]; rfl
  · rw [hrec.loan, worth_loanEffect]

/-- A loan of which more is paid than is owed. -/
theorem balances_match_histories_small_run :
    let accounts := (BankCall.final new
      [.call (.createAccount 1 none "A" "a@b" ⟨100, by decide⟩ 0),
       .call (.requestLoan 1 ⟨50, by decide⟩ 1),
       .call (.payLoan 1 ⟨80, by decide⟩ 2)]).accountList
    accounts.map (fun account => account.balance.cents) =
      accounts.map fun account =>
        sumOf [.accountCreated, .deposit, .transferIn, .interest, .loanRequested]
            account.transactions
          - sumOf [.withdrawal, .transferOut, .fee, .loanPayment] account.transactions :=
  List.map_congr_left fun account ha =>
    (balances_match_histories _ (by decide +kernel) account ha).1

/-- An internal operation brings nothing in and takes nothing out. -/
theorem flow_internal {op : BankOp} (h : op.IsInternal) (result : Except BankError BankReply) :
    op.flow result = 0 := by
  cases op with
  | transfer | requestLoan | payLoan | closeAccount | deleteAccount => rfl
  | _ => exact h.elim

/-- What a transfer leaves on the two accounts. -/
theorem transfer_entries {fromId toId : AccountId} {amount : Money} {nowOut nowIn : Nat}
    {bank bank' : Bank} {u : Unit}
    (h : transfer fromId toId amount nowOut nowIn bank = (.ok u, bank')) :
    ∃ (payer payee payer' payee' : Account) (out into : Transaction),
      bank.accounts[fromId]? = some payer ∧ bank.accounts[toId]? = some payee ∧
      bank'.accounts[fromId]? = some payer' ∧ bank'.accounts[toId]? = some payee' ∧
      payer'.transactions = payer.transactions ++ [out] ∧
      payee'.transactions = payee.transactions ++ [into] ∧
      out.kind = .transferOut ∧ into.kind = .transferIn ∧
      out.amount = amount ∧ into.amount = amount ∧ into.id = out.id + 1 ∧
      ∀ id, id ≠ fromId → id ≠ toId → bank'.accounts[id]? = bank.accounts[id]? := by
  obtain ⟨-, hne, -, payer, payee, fromBalance, toBalance, hpayer, -, hpayee, -, -, -, -, rfl⟩ :=
    transfer_ok_iff.mp h
  refine ⟨payer, payee, Account.record { payer with balance := fromBalance } _,
    Account.record { payee with balance := toBalance } _, _, _, hpayer, hpayee, ?_,
    OrdMap.get_insert_self _ _ _, rfl, rfl, rfl, rfl, rfl, rfl, rfl, fun id hfrom hto => ?_⟩
  · rw [post_accounts, OrdMap.get_insert_ne _ _ hne]
    exact OrdMap.get_insert_self _ _ _
  · rw [post_accounts, OrdMap.get_insert_ne _ _ hto, post_accounts,
      OrdMap.get_insert_ne _ _ hfrom]

/-- After a run without an overflow the bank holds, balances less loans,
what was brought in less what was taken out; transfers, loans, payments,
closings and deletions move none of it; and a transfer is entered twice,
under two ids in a row. -/
theorem money_is_conserved (calls : List BankCall)
    (h : ∀ answer ∈ BankCall.answers new calls, ¬ answer.Overflowed) :
    (BankCall.final new calls).netWorth = BankCall.flows new calls ∧
    (∀ (earlier : List BankCall) (op : BankOp) (later : List BankCall) (reply : BankReply),
      calls = earlier ++ .call op :: later → op.IsInternal →
      let bank := BankCall.final new earlier
      (op.run bank).1 = .ok reply → (op.run bank).2.netWorth = bank.netWorth) ∧
    (∀ (earlier : List BankCall) (fromId toId : AccountId) (amount : Money)
      (nowOut nowIn : Nat) (later : List BankCall),
      calls = earlier ++ .call (.transfer fromId toId amount nowOut nowIn) :: later →
      let bank := BankCall.final new earlier
      let bank' := (transfer fromId toId amount nowOut nowIn bank).2
      (transfer fromId toId amount nowOut nowIn bank).1 = .ok () →
      ∃ (payer payee payer' payee' : Account) (out into : Transaction),
        bank.accounts[fromId]? = some payer ∧ bank.accounts[toId]? = some payee ∧
        bank'.accounts[fromId]? = some payer' ∧ bank'.accounts[toId]? = some payee' ∧
        payer'.transactions = payer.transactions ++ [out] ∧
        payee'.transactions = payee.transactions ++ [into] ∧
        out.kind = .transferOut ∧ into.kind = .transferIn ∧
        out.amount = amount ∧ into.amount = amount ∧ into.id = out.id + 1 ∧
        ∀ id, id ≠ fromId → id ≠ toId → bank'.accounts[id]? = bank.accounts[id]?) := by
  refine ⟨(reconciled_of_run h).2, ?_, ?_⟩
  · rintro earlier op later reply rfl hinternal bank hok
    have hearlier := (@reconciled_of_run earlier fun answer ha =>
      h answer (by rw [BankCall.answers, outputs_append]; exact List.mem_append_left _ ha)).1
    have hnot : (op.run bank).1 ≠ .error .arithmeticOverflow := by rw [hok]; simp
    rw [((op.run_explained bank hnot).reconciled hearlier).2, flow_internal hinternal, add_zero]
  · rintro earlier fromId toId amount nowOut nowIn later rfl bank bank' hok
    exact transfer_entries (Prod.ext_iff.mpr ⟨hok, rfl⟩)

/-- Two accounts, a transfer between them, and the payee's loan. -/
theorem money_is_conserved_small_run :
    (BankCall.final new
      [.call (.createAccount 1 none "A" "a@b" ⟨100, by decide⟩ 0),
       .call (.createAccount 2 none "B" "b@c" ⟨0, by decide⟩ 1),
       .call (.transfer 1 2 ⟨30, by decide⟩ 2 3),
       .call (.requestLoan 2 ⟨50, by decide⟩ 4)]).netWorth = 100 := by
  have h := (money_is_conserved
      [.call (.createAccount 1 none "A" "a@b" ⟨100, by decide⟩ 0),
       .call (.createAccount 2 none "B" "b@c" ⟨0, by decide⟩ 1),
       .call (.transfer 1 2 ⟨30, by decide⟩ 2 3),
       .call (.requestLoan 2 ⟨50, by decide⟩ 4)] (by decide +kernel)).1
  rw [h]
  decide +kernel

/-! ## Every run -/

/-- The bank a process starts with: an empty one, or an accepted list. -/
def Started (bank : Bank) : Prop :=
  bank = new ∨ ∃ accounts, fromAccounts accounts = .ok bank

theorem Started.nonNegative {bank : Bank} (h : bank.Started) : bank.NonNegative := by
  rcases h with rfl | ⟨accounts, haccounts⟩
  · exact each_new
  · intro id account hfound
    obtain ⟨hmem, -⟩ := mem_of_fromAccounts haccounts hfound
    exact ((fromAccounts_ok_iff.mp haccounts).1 account hmem).2.2

theorem nonNegative_of_run {bank : Bank} (h : bank.NonNegative) (calls : List BankCall) :
    (BankCall.final bank calls).NonNegative :=
  BankCall.final_of_step (fun _ _ _ => nonNegative_step) h calls

/-- Adding up amounts that are not negative overflows only if their sum
does. -/
theorem total_ok_iff {total : Money} : ∀ {accounts : List Account} {start : Money},
    0 ≤ start.cents → (∀ account ∈ accounts, 0 ≤ account.balance.cents) →
    (accounts.foldlM
        (fun total account =>
          match Money.checkedAdd total account.balance with
          | some sum => Except.ok sum
          | none => Except.error BankError.arithmeticOverflow) start = .ok total ↔
      total.cents =
        start.cents + (accounts.map fun account => account.balance.cents).sum)
  | [], start, _, _ => by
      simp only [List.foldlM_nil, pure, Except.pure, Except.ok.injEq, List.map_nil,
        List.sum_nil, add_zero]
      exact ⟨fun h => h ▸ rfl, fun h => (Money.ext_cents h).symm⟩
  | account :: rest, start, hstart, h => by
      have hfirst := h account (by simp)
      have hrest : ∀ a ∈ rest, 0 ≤ a.balance.cents := fun a ha => h a (by simp [ha])
      have hsum : 0 ≤ (rest.map fun account => account.balance.cents).sum :=
        List.sum_nonneg fun x hx => by
          obtain ⟨a, ha, rfl⟩ := List.mem_map.mp hx
          exact hrest a ha
      rw [List.foldlM_cons, List.map_cons, List.sum_cons]
      cases hadd : Money.checkedAdd start account.balance with
      | none =>
        rw [Money.checkedAdd_eq_none hstart hfirst] at hadd
        have := total.inRange
        simp only [bind, Except.bind, reduceCtorEq, false_iff]
        omega
      | some sum =>
        rw [Money.checkedAdd_eq_some] at hadd
        refine (@total_ok_iff total rest sum (by omega) hrest).trans ?_
        omega

theorem totalBalance_ok_iff {bank : Bank} (h : bank.NonNegative) {total : Money} :
    bank.totalBalance = .ok total ↔
      total.cents = (bank.accountList.map fun account => account.balance.cents).sum := by
  have hmem : ∀ account ∈ bank.accountList, 0 ≤ account.balance.cents := fun account ha => by
    obtain ⟨_, hn⟩ := each_mem h ha
    exact hn.1
  have hfold := @total_ok_iff total _ Money.zero (le_refl _) hmem
  rw [Money.cents_zero, zero_add] at hfold
  exact hfold

/-- In every run from an empty or an imported bank no balance and no loan
is ever negative. While ids are left, withdrawals, fees and loan payments
do not overflow, and the total of all balances is returned exactly when it
is an amount of money. -/
theorem nothing_is_overdrawn (start : Bank) (hstart : start.Started) (calls : List BankCall) :
    let bank := BankCall.final start calls
    let sum := (bank.accountList.map fun account => account.balance.cents).sum
    (∀ account ∈ bank.accountList,
      0 ≤ account.balance.cents ∧ 0 ≤ account.loanBalance.cents) ∧
    (bank.nextTransactionId < u64Max → ∀ (id : AccountId) (amount : Money) (now : Nat),
      (withdraw id amount now bank).1 ≠ .error .arithmeticOverflow ∧
      (applyFee id amount now bank).1 ≠ .error .arithmeticOverflow ∧
      (payLoan id amount now bank).1 ≠ .error .arithmeticOverflow) ∧
    (∀ total, bank.totalBalance = .ok total ↔ total.cents = sum) ∧
    ((∃ total, bank.totalBalance = .ok total) ↔ sum ≤ i64Max) := by
  intro bank sum
  have hbank : bank.NonNegative := nonNegative_of_run hstart.nonNegative calls
  have hmem : ∀ account ∈ bank.accountList,
      0 ≤ account.balance.cents ∧ 0 ≤ account.loanBalance.cents := fun account ha => by
    obtain ⟨_, hn⟩ := each_mem hbank ha
    exact hn
  refine ⟨hmem, fun hid id amount now => ⟨?_, ?_, ?_⟩,
    fun total => totalBalance_ok_iff hbank, ?_⟩
  · intro he
    exact (debit_notOverflow hid amount _ _ now bank rfl).2 _ _ (Prod.ext_iff.mpr ⟨he, rfl⟩) rfl
  · intro he
    exact (debit_notOverflow hid amount _ _ now bank rfl).2 _ _ (Prod.ext_iff.mpr ⟨he, rfl⟩) rfl
  · intro he
    exact (payLoan_notOverflow hid (fun account hfound => (hbank id account hfound).2) amount now
      bank rfl).2 _ _ (Prod.ext_iff.mpr ⟨he, rfl⟩) rfl
  · constructor
    · rintro ⟨total, htotal⟩
      have hsum := (totalBalance_ok_iff hbank).mp htotal
      have := total.inRange.2
      show sum ≤ i64Max
      omega
    · intro hle
      have hsum : 0 ≤ sum := List.sum_nonneg fun x hx => by
        obtain ⟨a, ha, rfl⟩ := List.mem_map.mp hx
        exact (hmem a ha).1
      exact ⟨⟨sum, by simp only [i64Min]; omega, hle⟩, (totalBalance_ok_iff hbank).mpr rfl⟩

/-- An imported account that has spent what it had, and is charged more. -/
theorem nothing_is_overdrawn_small_run :
    let account : Account := ⟨7, none, "A", "a@b", ⟨100, by decide⟩, Money.zero, .active, []⟩
    let bank : Bank := ⟨(∅ : OrdMap AccountId Account).insert 7 account, 1⟩
    (applyFee 7 ⟨1, by decide⟩ 1
        (BankCall.final bank [.call (.withdraw 7 ⟨100, by decide⟩ 0)])).1 ≠
      .error .arithmeticOverflow :=
  ((nothing_is_overdrawn _ (.inr ⟨[⟨7, none, "A", "a@b", ⟨100, by decide⟩, Money.zero, .active,
    []⟩], by decide +kernel⟩) _).2.1 (by decide +kernel) 7 ⟨1, by decide⟩ 1).2.1

end Bank

end Banck
