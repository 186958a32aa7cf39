/-
Banck.BankNumbering — transaction ids within a process, from an empty or an
imported bank.

The loader establishes `Numbered` (`numbered_of_fromAccounts`), every move
keeps it, and what a call records is numbered from the counter on
(`NumberedSince`), which never goes back and never passes the largest
unsigned 64-bit number.
-/
import Banck.BankInvariants
import Banck.BankRuns

namespace Banck.Bank

open Lib Machine

variable {before after : Bank}

/-- The counter has not gone back, and what a history has that it had not
before is numbered from the old counter on. -/
structure NumberedSince (before after : Bank) : Prop where
  le : before.nextTransactionId ≤ after.nextTransactionId
  recorded : ∀ id, ∀ t ∈ after.history id,
    t ∈ before.history id ∨ before.nextTransactionId ≤ t.id

theorem NumberedSince.step {bank bank' : Bank} {m : Move} (hstep : Move.Step bank m bank')
    (h : before.NumberedSince bank) : before.NumberedSince bank' := by
  obtain ⟨hle, hrecorded⟩ := h
  rcases history_step hstep with ⟨id, new, hnew, -, hnext, hhist⟩ | ⟨hhist, hle', -⟩
  · refine ⟨by omega, fun id' t ht => ?_⟩
    rw [hhist] at ht
    by_cases he : id' = id
    · subst he
      rw [if_pos rfl] at ht
      rcases List.mem_append.mp ht with ht | ht
      · exact hrecorded id' t ht
      · obtain rfl := List.mem_singleton.mp ht
        exact .inr (by omega)
    · rw [if_neg he] at ht
      exact hrecorded id' t ht
  · refine ⟨by omega, fun id' t ht => ?_⟩
    rcases hhist id' with he | he
    · rw [he] at ht
      exact hrecorded id' t ht
    · rw [he] at ht
      cases ht

theorem run_numberedSince (bank : Bank) (call : BankCall) :
    bank.NumberedSince (BankCall.run bank call).2 := by
  obtain ⟨moves, hpath⟩ := BankCall.run_path call bank
  exact hpath.invariant (fun _ _ _ => NumberedSince.step) ⟨le_rfl, fun _ _ ht => .inl ht⟩

/-! ## Imported banks -/

/-- What the loader checks of the ids is what every move keeps of them. -/
theorem numbered_of_fromAccounts {accounts : List Account} {bank : Bank}
    (h : fromAccounts accounts = .ok bank) : bank.Numbered := by
  obtain ⟨-, -, hpositive, hids, hmax, hbank⟩ := fromAccounts_ok_iff.mp h
  obtain ⟨hdistinct, hapart⟩ := List.nodup_flatMap.mp hids
  have howner : ∀ id, ∀ t ∈ bank.history id,
      ∃ account ∈ accounts, account.id = id ∧ t ∈ account.transactions := by
    intro id t ht
    cases hfound : bank.accounts[id]? with
    | none =>
      simp only [history, hfound] at ht
      cases ht
    | some account =>
      rw [history_found hfound] at ht
      obtain ⟨hmem, hid⟩ := mem_of_fromAccounts h hfound
      exact ⟨account, hmem, hid, ht⟩
  have hlisted : ∀ id, ∀ t ∈ bank.history id, t.id ∈ transactionIds accounts := by
    intro id t ht
    obtain ⟨account, hmem, -, ht⟩ := howner id t ht
    exact List.mem_flatMap.mpr ⟨account, hmem, List.mem_map.mpr ⟨t, ht, rfl⟩⟩
  have hnext : bank.nextTransactionId = maxId (transactionIds accounts) + 1 := by rw [hbank]
  refine ⟨fun id t ht => hpositive _ (hlisted id t ht), fun id t ht => ?_, fun id => ?_, ?_,
    by omega, by omega⟩
  · have := le_maxId (hlisted id t ht)
    omega
  · cases hfound : bank.accounts[id]? with
    | none => simp [history, hfound]
    | some account =>
      rw [history_found hfound]
      exact hdistinct account (mem_of_fromAccounts h hfound).1
  · intro id id' hne t ht t' ht' heq
    obtain ⟨account, hmem, rfl, hmine⟩ := howner id t ht
    obtain ⟨account', hmem', rfl, hmine'⟩ := howner id' t' ht'
    have hsymm : Std.Symm (Function.onFun List.Disjoint
        fun account : Account => account.transactions.map Transaction.id) :=
      ⟨fun _ _ h => h.symm⟩
    have hdisjoint := hapart.forall hmem hmem' (fun he => hne (congrArg Account.id he))
    exact hdisjoint (List.mem_map.mpr ⟨t, hmine, rfl⟩)
      (heq ▸ List.mem_map.mpr ⟨t', hmine', rfl⟩)

theorem Started.numbered {bank : Bank} (h : bank.Started) : bank.Numbered := by
  rcases h with rfl | ⟨accounts, haccepted⟩
  · exact numbered_new
  · exact numbered_of_fromAccounts haccepted

theorem Started.keyed {bank : Bank} (h : bank.Started) :
    OrdMap.Keyed Account.id bank.accounts := by
  rcases h with rfl | ⟨accounts, haccepted⟩
  · exact OrdMap.keyed_empty _
  · intro id account hfound
    exact (mem_of_fromAccounts haccepted hfound).2

/-! ## Runs -/

/-- In every run from an empty or an imported bank the ids in the bank are
positive, distinct and below the counter. A further call, of whatever
outcome, never moves the counter back nor past the largest number there is,
and a transaction that it records has a larger id than all before. From an
empty bank each history is in ascending order of its ids. -/
theorem transaction_ids_are_disciplined (start : Bank) (hstart : start.Started)
    (calls : List BankCall) :
    let bank := BankCall.final start calls
    (∀ n ∈ transactionIds bank.accountList, 1 ≤ n ∧ n < bank.nextTransactionId) ∧
    (transactionIds bank.accountList).Nodup ∧
    bank.nextTransactionId ≤ u64Max ∧
    (∀ call : BankCall, let bank' := (BankCall.run bank call).2
      bank.nextTransactionId ≤ bank'.nextTransactionId ∧
      bank'.nextTransactionId ≤ u64Max ∧
      ∀ id, ∀ t ∈ bank'.history id, t ∈ bank.history id ∨
        ∀ n ∈ transactionIds bank.accountList, n < t.id) ∧
    (start = new → ∀ account ∈ bank.accountList,
      (account.transactions.map Transaction.id).Pairwise (· < ·)) := by
  intro bank
  have hnumbered : bank.Numbered :=
    BankCall.final_of_step (fun _ _ _ => numbered_step) hstart.numbered calls
  have hkeyed : OrdMap.Keyed Account.id bank.accounts :=
    BankCall.final_of_step (I := fun bank => OrdMap.Keyed Account.id bank.accounts)
      (fun _ _ _ => keyed_step) hstart.keyed calls
  have hbelow : ∀ n ∈ transactionIds bank.accountList, 1 ≤ n ∧ n < bank.nextTransactionId := by
    intro n hn
    obtain ⟨id, t, ht, rfl⟩ := mem_transactionIds.mp hn
    exact ⟨Nat.pos_of_ne_zero (hnumbered.nonzero id t ht), hnumbered.below id t ht⟩
  refine ⟨hbelow, hnumbered.nodup hkeyed, hnumbered.bounded, fun call => ?_, ?_⟩
  · obtain ⟨hle, hrecorded⟩ := run_numberedSince bank call
    obtain ⟨moves, hpath⟩ := BankCall.run_path call bank
    have hafter : (BankCall.run bank call).2.Numbered :=
      hpath.invariant (fun _ _ _ => numbered_step) hnumbered
    refine ⟨hle, hafter.bounded, fun id t ht => ?_⟩
    rcases hrecorded id t ht with hold | hnew
    · exact .inl hold
    · exact .inr fun n hn => Nat.lt_of_lt_of_le (hbelow n hn).2 hnew
  · rintro rfl account hmem
    have hwf : bank.WellFormed := BankCall.final_of_step wellFormed_step wellFormed_new calls
    obtain ⟨id, hfound⟩ := OrdMap.mem_vals.mp hmem
    have hascending := hwf.chronological id
    rwa [history_found hfound] at hascending

/-- An imported account whose history is not in order, and the last id
there is. -/
theorem transaction_ids_are_disciplined_last_id :
    let account : Account :=
      ⟨7, none, "A", "a@b", ⟨9, by decide⟩, Money.zero, .active,
        [⟨u64Max - 2, 0, .deposit, ⟨4, by decide⟩, "Money deposited"⟩,
         ⟨3, 1, .deposit, ⟨5, by decide⟩, "Money deposited"⟩]⟩
    let bank := BankCall.final ⟨(∅ : OrdMap AccountId Account).insert 7 account, u64Max - 1⟩
      [.call (.withdraw 7 ⟨1, by decide⟩ 2), .call (.withdraw 7 ⟨1, by decide⟩ 3)]
    (transactionIds bank.accountList).Nodup ∧ bank.nextTransactionId ≤ u64Max :=
  have h := transaction_ids_are_disciplined
    ⟨(∅ : OrdMap AccountId Account).insert 7 ⟨7, none, "A", "a@b", ⟨9, by decide⟩, Money.zero,
      .active, [⟨u64Max - 2, 0, .deposit, ⟨4, by decide⟩, "Money deposited"⟩,
        ⟨3, 1, .deposit, ⟨5, by decide⟩, "Money deposited"⟩]⟩, u64Max - 1⟩
    (.inr ⟨[⟨7, none, "A", "a@b", ⟨9, by decide⟩, Money.zero, .active,
      [⟨u64Max - 2, 0, .deposit, ⟨4, by decide⟩, "Money deposited"⟩,
        ⟨3, 1, .deposit, ⟨5, by decide⟩, "Money deposited"⟩]⟩], by decide +kernel⟩)
    [.call (.withdraw 7 ⟨1, by decide⟩ 2), .call (.withdraw 7 ⟨1, by decide⟩ 3)]
  ⟨h.2.1, h.2.2.1⟩

end Banck.Bank
