/-
Banck.BankReload — transaction ids over runs that save and reload.

The next id is not saved: `from_accounts` starts again from the largest id
it finds. A `Journal` is a bank together with every id it has recorded so
far. `ids_are_not_reissued` says which runs record no id twice: those in
which, at each reload, no recorded id is above all surviving ones. It also
says that the condition is the right one: after a reload that breaks it,
some calls record an old id again.
-/
import Banck.BankInvariants
import Banck.BankRuns

namespace Banck

open Lib Machine

/-! ## Journals -/

/-- What a process does to its bank: a call, or a reload of what it saved. -/
inductive PersistStep where
  | call (call : BankCall)
  | reload

namespace Bank

/-- The bank replaced by what the loader makes of its accounts. -/
def reload (bank : Bank) : Bank :=
  match fromAccounts bank.accountList with
  | .ok loaded => loaded
  | .error _ => bank

/-- The ids of the transactions that `after` has and `before` has not. -/
def recordedSince (before after : Bank) : List Nat :=
  after.accountList.flatMap fun account =>
    (account.transactions.drop (before.history account.id).length).map Transaction.id

end Bank

structure Journal where
  bank : Bank
  issued : List Nat

namespace Journal

def new : Journal := ⟨Bank.new, []⟩

def step (journal : Journal) : PersistStep → List Nat × Journal
  | .call call =>
      let bank := (BankCall.run journal.bank call).2
      let recorded := journal.bank.recordedSince bank
      (recorded, ⟨bank, journal.issued ++ recorded⟩)
  | .reload => ([], { journal with bank := journal.bank.reload })

/-- A reload is safe when no id ever recorded is above all that are left. -/
def Safe (journal : Journal) : PersistStep → Prop
  | .call _ => True
  | .reload => ∀ id ∈ journal.issued, id ≤ journal.bank.latestId

end Journal

/-! ## What one step records -/

namespace Bank

variable {before after : Bank}

/-- Along a path of moves, what a history gains lies between the counter
before and the counter after. -/
theorem gained_of_path {moves : List Move} (hpath : Path Move.Step before moves after) :
    before.nextTransactionId ≤ after.nextTransactionId ∧
      ∀ id, ∀ t ∈ (after.history id).drop (before.history id).length,
        before.nextTransactionId ≤ t.id ∧ t.id < after.nextTransactionId := by
  refine hpath.invariant (I := fun bank => before.nextTransactionId ≤ bank.nextTransactionId ∧
    ∀ id, ∀ t ∈ (bank.history id).drop (before.history id).length,
      before.nextTransactionId ≤ t.id ∧ t.id < bank.nextTransactionId) ?_ ⟨le_rfl, ?_⟩
  · rintro bank m bank' hstep ⟨hle, hgained⟩
    rcases history_step hstep with ⟨id, new, hnew, -, hnext, hhist⟩ | ⟨hhist, hle', -⟩
    · refine ⟨by omega, fun id' t ht => ?_⟩
      rw [hhist] at ht
      by_cases he : id' = id
      · subst he
        rw [if_pos rfl, List.drop_append] at ht
        rcases List.mem_append.mp ht with ht | ht
        · have := hgained id' t ht; omega
        · obtain rfl := List.mem_singleton.mp (List.mem_of_mem_drop ht)
          omega
      · rw [if_neg he] at ht
        have := hgained id' t ht; omega
    · refine ⟨by omega, fun id' t ht => ?_⟩
      rcases hhist id' with he | he
      · rw [he] at ht
        have := hgained id' t ht; omega
      · rw [he, List.drop_nil] at ht; cases ht
  · intro id t ht
    rw [List.drop_length] at ht; cases ht

theorem mem_recordedSince (hkeyed : OrdMap.Keyed Account.id after.accounts) {n : Nat} :
    n ∈ before.recordedSince after ↔
      ∃ id, ∃ t ∈ (after.history id).drop (before.history id).length, t.id = n := by
  simp only [recordedSince, List.mem_flatMap, List.mem_map]
  constructor
  · rintro ⟨account, hmem, t, ht, rfl⟩
    obtain ⟨id, hfound⟩ := OrdMap.mem_vals.mp hmem
    rw [hkeyed id account hfound] at ht
    exact ⟨id, t, by rw [history_found hfound]; exact ht, rfl⟩
  · rintro ⟨id, t, ht, rfl⟩
    cases hfound : after.accounts[id]? with
    | none => simp only [history, hfound, List.drop_nil] at ht; cases ht
    | some account =>
      rw [history_found hfound] at ht
      exact ⟨account, OrdMap.mem_vals.mpr ⟨id, hfound⟩, t,
        by rw [hkeyed id account hfound]; exact ht, rfl⟩

/-- One step records no id twice. -/
theorem recordedSince_nodup (before : Bank) (h : after.WellFormed) :
    (before.recordedSince after).Nodup := by
  refine (h.numbered.nodup h.keyed).sublist ?_
  exact List.Sublist.flatMap_right _ fun account _ => (List.drop_sublist _ _).map _

/-- The bank after a call, and the range of the ids it recorded. -/
theorem call_recorded {bank : Bank} (h : bank.WellFormed) (call : BankCall) :
    let bank' := (BankCall.run bank call).2
    bank'.WellFormed ∧ bank.nextTransactionId ≤ bank'.nextTransactionId ∧
      ∀ n ∈ bank.recordedSince bank',
        bank.nextTransactionId ≤ n ∧ n < bank'.nextTransactionId := by
  intro bank'
  obtain ⟨moves, hpath⟩ := BankCall.run_path call bank
  have hwf : bank'.WellFormed := hpath.invariant wellFormed_step h
  obtain ⟨hle, hgained⟩ := gained_of_path hpath
  refine ⟨hwf, hle, fun n hn => ?_⟩
  obtain ⟨id, t, ht, rfl⟩ := (mem_recordedSince hwf.keyed).mp hn
  exact hgained id t ht

/-- A well-formed bank survives a reload with its accounts, numbering on
from its latest id. -/
theorem reload_eq {bank : Bank} (h : bank.WellFormed) :
    bank.reload = ⟨bank.accounts, bank.latestId + 1⟩ := by
  rw [reload, h.reload]

theorem reload_wellFormed {bank : Bank} (h : bank.WellFormed) : bank.reload.WellFormed := by
  rw [reload_eq h]
  have hhist : ∀ id, history ⟨bank.accounts, bank.latestId + 1⟩ id = bank.history id :=
    fun id => rfl
  refine ⟨h.keyed, h.valid, ⟨h.numbered.nonzero, fun id t ht => ?_, h.numbered.distinct,
    h.numbered.apart, Nat.succ_pos _, ?_⟩, h.chronological⟩
  · have : t.id ≤ bank.latestId := le_maxId (mem_transactionIds.mpr ⟨id, t, ht, rfl⟩)
    exact Nat.lt_succ_of_le this
  · have := h.latestId_lt
    have := h.numbered.bounded
    exact Nat.le_trans h.latestId_lt h.numbered.bounded

end Bank

namespace Journal

/-! ## Runs with safe reloads -/

/-- Nothing was recorded twice, and everything recorded is below the
counter. -/
structure Fresh (journal : Journal) : Prop where
  wellFormed : journal.bank.WellFormed
  nodup : journal.issued.Nodup
  below : ∀ n ∈ journal.issued, n < journal.bank.nextTransactionId

theorem fresh_new : new.Fresh := ⟨Bank.wellFormed_new, List.nodup_nil, by simp [new]⟩

theorem fresh_step (journal : Journal) (s : PersistStep) (h : journal.Fresh)
    (hsafe : journal.Safe s) : (journal.step s).2.Fresh := by
  cases s with
  | call call =>
    obtain ⟨hwf, hle, hrange⟩ := Bank.call_recorded h.wellFormed call
    refine ⟨hwf, ?_, fun n hn => ?_⟩
    · refine List.nodup_append.mpr ⟨h.nodup, Bank.recordedSince_nodup _ hwf, ?_⟩
      intro a ha b hb hab
      have := h.below a ha
      have := (hrange b hb).1
      omega
    · rcases List.mem_append.mp hn with hn | hn
      · exact Nat.lt_of_lt_of_le (h.below n hn) hle
      · exact (hrange n hn).2
  | reload =>
    refine ⟨Bank.reload_wellFormed h.wellFormed, h.nodup, fun n hn => ?_⟩
    simp only [step, Bank.reload_eq h.wellFormed]
    exact Nat.lt_succ_of_le (hsafe n hn)

/-! ## All runs -/

/-- The ids recorded are ids the counter could give out. -/
structure Sound (journal : Journal) : Prop where
  wellFormed : journal.bank.WellFormed
  bounded : ∀ n ∈ journal.issued, n < u64Max

theorem sound_step (journal : Journal) (s : PersistStep) (h : journal.Sound) :
    (journal.step s).2.Sound := by
  cases s with
  | call call =>
    obtain ⟨hwf, -, hrange⟩ := Bank.call_recorded h.wellFormed call
    refine ⟨hwf, fun n hn => ?_⟩
    rcases List.mem_append.mp hn with hn | hn
    · exact h.bounded n hn
    · exact Nat.lt_of_lt_of_le (hrange n hn).2 hwf.numbered.bounded
  | reload => exact ⟨Bank.reload_wellFormed h.wellFormed, h.bounded⟩

theorem sound_of_run (steps : List PersistStep) : (final step new steps).Sound :=
  final_invariant step sound_step steps new ⟨Bank.wellFormed_new, by simp [new]⟩

/-- A journal only grows. -/
theorem issued_final : ∀ (steps : List PersistStep) (journal : Journal),
    (final step journal steps).issued =
      journal.issued ++ (outputs step journal steps).flatten
  | [], journal => by simp
  | s :: rest, journal => by
      rw [final_cons, issued_final rest, outputs_cons, List.flatten_cons, ← List.append_assoc]
      cases s with
      | call call => rfl
      | reload => simp [step]

/-! ## After an unsafe reload -/

/-- Recording a transaction on an account records the next id. -/
theorem post_records {bank : Bank} (h : bank.WellFormed) {id : AccountId}
    {account : Account} {transaction : Transaction} (hid : account.id = id)
    (hnumbered : transaction.id = bank.nextTransactionId)
    (hhistory : account.transactions = bank.history id) :
    bank.nextTransactionId ∈ bank.recordedSince (bank.post id account transaction) := by
  have hkeyed := OrdMap.Keyed.insert (v := account.record transaction) _ h.keyed hid
  refine (Bank.mem_recordedSince hkeyed).mpr ⟨id, transaction, ?_, hnumbered⟩
  rw [Bank.post, Bank.history_insert, if_pos rfl, Account.record, hhistory, List.drop_append]
  simp

/-- The call that writes a name, whatever the account. -/
def rename (id : AccountId) : PersistStep := .call (.call (.updateName id "A" 0))

/-- Renaming an account that exists records the next id. -/
theorem rename_records {journal : Journal} (h : journal.bank.WellFormed)
    {id : AccountId} {account : Account} (hfound : journal.bank.accounts[id]? = some account)
    (hid : journal.bank.HasId) :
    journal.bank.nextTransactionId ∈ (journal.step (rename id)).1 ∧
      (journal.step (rename id)).2.bank.nextTransactionId =
        journal.bank.nextTransactionId + 1 ∧
      ∃ account', (journal.step (rename id)).2.bank.accounts[id]? = some account' := by
  have hclean : cleanName "A" = .ok "A" := by decide +kernel
  have hrun := (@Bank.updateName_ok_iff _ _ id () "A" 0).mpr
    ⟨hid, "A", account, hclean, hfound, rfl⟩
  have hbank : (BankCall.run journal.bank (.call (.updateName id "A" 0))).2 =
      journal.bank.post id { account with name := "A" }
        (journal.bank.stamp 0 .profileUpdated Money.zero "Name updated") := by
    simp only [BankCall.run, BankOp.run, Mut.map_run, hrun]
  simp only [rename, step, hbank]
  refine ⟨post_records h (h.keyed id account hfound) rfl (Bank.history_found hfound).symm, rfl,
    _, OrdMap.get_insert_self _ _ _⟩

/-- Renaming the account `k + 1` times records the id `k` above the next. -/
theorem rename_climbs (id : AccountId) : ∀ (k : Nat) (journal : Journal),
    journal.bank.WellFormed → (∃ account, journal.bank.accounts[id]? = some account) →
    journal.bank.nextTransactionId + k < u64Max →
    journal.bank.nextTransactionId + k ∈
      (outputs step journal (List.replicate (k + 1) (rename id))).flatten
  | 0, journal, h, ⟨account, hfound⟩, hlt => by
      simpa using (rename_records h hfound hlt).1
  | k + 1, journal, h, ⟨account, hfound⟩, hlt => by
      obtain ⟨-, hnext, hstill⟩ := rename_records h hfound
        (show journal.bank.nextTransactionId < u64Max by omega)
      have hwf : (journal.step (rename id)).2.bank.WellFormed :=
        (Bank.call_recorded h (.call (.updateName id "A" 0))).1
      have ih := rename_climbs id k (journal.step (rename id)).2 hwf hstill
        (by rw [hnext]; omega)
      rw [hnext, show journal.bank.nextTransactionId + 1 + k =
        journal.bank.nextTransactionId + (k + 1) by omega] at ih
      rw [List.replicate_succ, outputs_cons, List.flatten_cons]
      exact List.mem_append_right _ ih

/-- The call that opens the first account. -/
def openFirst : PersistStep := .call (.call (.createAccount 0 none "A" "a@b" Money.zero 0))

/-- Opening an account records the next id. -/
theorem open_records {journal : Journal} (h : journal.bank.WellFormed)
    (hfresh : journal.bank.accounts[(0 : AccountId)]? = none) (hid : journal.bank.HasId) :
    journal.bank.nextTransactionId ∈ (journal.step openFirst).1 ∧
      (journal.step openFirst).2.bank.nextTransactionId = journal.bank.nextTransactionId + 1 ∧
      ∃ account, (journal.step openFirst).2.bank.accounts[(0 : AccountId)]? = some account := by
  have hname : cleanName "A" = .ok "A" := by decide +kernel
  have hemail : cleanEmail "a@b" = .ok "a@b" := by decide +kernel
  have hrun := (@Bank.createAccount_ok_iff _ _ 0 none "A" "a@b" Money.zero 0 _).mpr
    ⟨hfresh, le_refl (0 : Int), hid, "A", "a@b", hname, hemail, rfl, rfl⟩
  have hbank : (BankCall.run journal.bank
      (.call (.createAccount 0 none "A" "a@b" Money.zero 0))).2 =
      journal.bank.post 0 (Account.new 0 none "A" "a@b" Money.zero)
        (journal.bank.stamp 0 .accountCreated Money.zero "Account created") := by
    simp only [BankCall.run, BankOp.run, Mut.map_run, hrun]
  simp only [openFirst, step, hbank]
  refine ⟨post_records h rfl rfl ?_, rfl, _, OrdMap.get_insert_self _ _ _⟩
  simp [Bank.history, hfresh, Account.new]

/-- From any bank with ids left, some calls record every id up to the last
but one. -/
theorem some_calls_record {journal : Journal} (h : journal.bank.WellFormed) {n : Nat}
    (hle : journal.bank.nextTransactionId ≤ n) (hlt : n < u64Max) :
    ∃ calls : List BankCall, n ∈ (outputs step journal (calls.map .call)).flatten := by
  obtain ⟨k, rfl⟩ := Nat.exists_eq_add_of_le hle
  cases hget : journal.bank.accounts[(0 : AccountId)]? with
  | some account =>
    refine ⟨List.replicate (k + 1) (.call (.updateName 0 "A" 0)), ?_⟩
    rw [List.map_replicate]
    exact rename_climbs 0 k journal h ⟨account, hget⟩ hlt
  | none =>
    obtain ⟨hfirst, hnext, hfound⟩ := open_records h hget
      (show journal.bank.nextTransactionId < u64Max by omega)
    have hwf : (journal.step openFirst).2.bank.WellFormed := (Bank.call_recorded h _).1
    cases k with
    | zero =>
      exact ⟨[.call (.createAccount 0 none "A" "a@b" Money.zero 0)], by
        simpa [openFirst] using hfirst⟩
    | succ k =>
      refine ⟨.call (.createAccount 0 none "A" "a@b" Money.zero 0) ::
        List.replicate (k + 1) (.call (.updateName 0 "A" 0)), ?_⟩
      have hclimb := rename_climbs 0 k (journal.step openFirst).2 hwf hfound (by rw [hnext]; omega)
      rw [hnext, show journal.bank.nextTransactionId + 1 + k =
        journal.bank.nextTransactionId + (k + 1) by omega] at hclimb
      rw [List.map_cons, List.map_replicate, outputs_cons, List.flatten_cons]
      exact List.mem_append_right _ hclimb

/-! ## The condition -/

/-- In a run whose reloads are all safe no transaction id is recorded
twice; and a reload is safe exactly when, whatever calls follow it, none of
them records an id again. -/
theorem ids_are_not_reissued (steps : List PersistStep) :
    let journal := final step new steps
    (Guarded step Safe new steps → journal.issued.Nodup) ∧
    (journal.issued.Nodup →
      (journal.Safe .reload ↔ ∀ calls : List BankCall,
        (final step journal (.reload :: calls.map .call)).issued.Nodup)) := by
  intro journal
  refine ⟨fun hsafe => (final_guarded step fresh_step steps new fresh_new hsafe).nodup, ?_⟩
  intro hnodup
  have hsound : journal.Sound := sound_of_run steps
  have hwf := Bank.reload_wellFormed hsound.wellFormed
  constructor
  · intro hsafe calls
    have hfresh : (journal.step .reload).2.Fresh :=
      ⟨hwf, hnodup, fun n hn => by
        simp only [step, Bank.reload_eq hsound.wellFormed]
        exact Nat.lt_succ_of_le (hsafe n hn)⟩
    rw [final_cons]
    refine (final_guarded step fresh_step _ _ hfresh ?_).nodup
    generalize (journal.step .reload).2 = j
    induction calls generalizing j with
    | nil => trivial
    | cons call rest ih => exact ⟨trivial, ih _⟩
  · intro hall n hn
    by_contra habove
    have hlt := hsound.bounded n hn
    have hle : (journal.step .reload).2.bank.nextTransactionId ≤ n := by
      simp only [step, Bank.reload_eq hsound.wellFormed]
      omega
    obtain ⟨calls, hagain⟩ := some_calls_record hwf hle hlt
    have hdup := hall calls
    rw [final_cons, issued_final] at hdup
    exact (List.nodup_append.mp hdup).2.2 n hn n hagain rfl

/-- An account opened, deleted, and opened again after a reload: its two
openings have the same id. -/
theorem reload_reissues_an_id :
    let opened : PersistStep := .call (.call (.createAccount 1 none "A" "a@b" Money.zero 0))
    let steps := [opened, .call (.call (.deleteAccount 1)), .reload, opened]
    (final step new steps).issued = [1, 1] := by
  decide +kernel

end Journal

end Banck
