/-
Banck.BankImport — which lists of accounts the bank accepts, and what it
makes of them.

The loops of `from_accounts` carry a map, a set of the transaction ids seen
and their maximum. Each is a loop of checked steps, and
`fromAccounts_ok_iff` is their closed form: the list is
accepted exactly when the accounts are valid, their ids distinct and the
transaction ids distinct, positive and below the largest one, and then the
bank is the map from id to account with the next id one above the largest.
None of this depends on the order of the list (`loading_is_exact`).
-/
import Banck.BankMoves
import Banck.Lib.CheckedFold

namespace Banck.Bank

open Lib CheckedFold

/-- The ids of all transactions, account by account. -/
def transactionIds (accounts : List Account) : List Nat :=
  accounts.flatMap fun account => account.transactions.map Transaction.id

/-- The largest of the ids, or 0. -/
def maxId (ids : List Nat) : Nat := ids.foldl max 0

theorem foldl_max (ids : List Nat) (m : Nat) : ids.foldl max m = max m (maxId ids) := by
  induction ids generalizing m with
  | nil => simp [maxId]
  | cons id rest ih =>
    have hid : maxId (id :: rest) = max id (maxId rest) := by
      rw [maxId, List.foldl_cons, ih, Nat.zero_max]
    rw [List.foldl_cons, ih, hid, max_assoc]

@[simp] theorem maxId_nil : maxId [] = 0 := rfl

@[simp] theorem maxId_cons (id : Nat) (rest : List Nat) :
    maxId (id :: rest) = max id (maxId rest) := by
  rw [maxId, List.foldl_cons, foldl_max, Nat.zero_max]

theorem maxId_append (xs ys : List Nat) : maxId (xs ++ ys) = max (maxId xs) (maxId ys) := by
  rw [maxId, List.foldl_append, foldl_max]
  rfl

theorem le_maxId {ids : List Nat} {id : Nat} (h : id ∈ ids) : id ≤ maxId ids := by
  induction ids with
  | nil => cases h
  | cons first rest ih =>
    rw [maxId_cons]
    rcases List.mem_cons.mp h with rfl | h
    · exact le_max_left _ _
    · exact le_trans (ih h) (le_max_right _ _)

theorem maxId_mem {ids : List Nat} (h : ids ≠ []) : maxId ids ∈ ids := by
  induction ids with
  | nil => exact absurd rfl h
  | cons id rest ih =>
    rw [maxId_cons]
    rcases Nat.le_total (maxId rest) id with hle | hle
    · rw [max_eq_left hle]
      exact List.mem_cons_self
    · rw [max_eq_right hle]
      by_cases hrest : rest = []
      · have hzero : id = 0 := Nat.le_zero.mp (by simpa [hrest] using hle)
        simp [hrest, hzero]
      · exact List.mem_cons_of_mem _ (ih hrest)

theorem maxId_le {ids : List Nat} {bound : Nat} (h : ∀ id ∈ ids, id ≤ bound) :
    maxId ids ≤ bound := by
  induction ids with
  | nil => exact Nat.zero_le _
  | cons first rest ih =>
    rw [maxId_cons]
    exact max_le (h first (by simp)) (ih fun id hid => h id (by simp [hid]))

/-! ## One account -/

/-- The loader after one more transaction. -/
def Import.addTransaction (loaded : Import) (transaction : Transaction) : Import :=
  { loaded with
    seenTransactionIds := insert transaction.id loaded.seenTransactionIds
    maxTransactionId := max loaded.maxTransactionId transaction.id }

theorem importTransaction_ok_iff (loaded : Import) (transaction : Transaction)
    (loaded' : Import) :
    importTransaction loaded transaction = .ok loaded' ↔
      (transaction.id ≠ 0 ∧ transaction.id ∉ loaded.seenTransactionIds) ∧
        loaded' = loaded.addTransaction transaction := by
  unfold importTransaction Import.addTransaction
  split
  · next h => simp [h]
  · next h =>
    split
    · next hs => simp [hs]
    · next hs => simp [h, hs, eq_comm]

theorem foldl_addTransaction (transactions : List Transaction) (loaded : Import) :
    transactions.foldl Import.addTransaction loaded = { loaded with
      seenTransactionIds :=
        loaded.seenTransactionIds ∪ (transactions.map Transaction.id).toFinset
      maxTransactionId :=
        max loaded.maxTransactionId (maxId (transactions.map Transaction.id)) } := by
  induction transactions generalizing loaded with
  | nil => simp
  | cons t rest ih =>
    rw [List.foldl_cons, ih]
    simp [Import.addTransaction, max_assoc, Finset.insert_union, Finset.union_insert]

/-- A list of transactions is taken in when its ids are positive, new and
distinct. -/
theorem importTransactions_ok_iff {transactions : List Transaction} {loaded loaded' : Import} :
    transactions.foldlM importTransaction loaded = .ok loaded' ↔
      (∀ t ∈ transactions, t.id ≠ 0) ∧ (transactions.map Transaction.id).Nodup ∧
      (∀ t ∈ transactions, t.id ∉ loaded.seenTransactionIds) ∧
      loaded' = { loaded with
        seenTransactionIds :=
          loaded.seenTransactionIds ∪ (transactions.map Transaction.id).toFinset
        maxTransactionId :=
          max loaded.maxTransactionId (maxId (transactions.map Transaction.id)) } := by
  have hseen : ∀ (loaded : Import) (t : Transaction) (id : Nat),
      id ∈ (loaded.addTransaction t).seenTransactionIds ↔
        id = t.id ∨ id ∈ loaded.seenTransactionIds :=
    fun loaded t id => Finset.mem_insert
  rw [foldlM_ok_iff importTransaction_ok_iff, passes_and, passes_forall, passes_distinct hseen,
    foldl_addTransaction, and_assoc, and_assoc]

/-- What the loader demands of an account on its own. -/
def ValidImport (account : Account) : Prop :=
  (∃ name, cleanName account.name = .ok name) ∧
  (∃ email, cleanEmail account.email = .ok email) ∧
  0 ≤ account.balance.cents ∧ 0 ≤ account.loanBalance.cents

/-- There is an account under the id already. -/
def Import.Holds (loaded : Import) (id : AccountId) : Prop := loaded.accounts.contains id = true

/-- The loader after one more account. -/
def Import.addAccount (loaded : Import) (account : Account) : Import :=
  { accounts := loaded.accounts.insert account.id account
    seenTransactionIds :=
      loaded.seenTransactionIds ∪ (account.transactions.map Transaction.id).toFinset
    maxTransactionId :=
      max loaded.maxTransactionId (maxId (account.transactions.map Transaction.id)) }

theorem importAccount_ok_iff (loaded : Import) (account : Account) (loaded' : Import) :
    importAccount loaded account = .ok loaded' ↔
      (ValidImport account ∧ (∀ t ∈ account.transactions, t.id ≠ 0) ∧
        ((account.transactions.map Transaction.id).Nodup ∧
          ∀ id ∈ account.transactions.map Transaction.id, id ∉ loaded.seenTransactionIds) ∧
        ¬ loaded.Holds account.id) ∧
      loaded' = loaded.addAccount account := by
  have hseen : (∀ id ∈ account.transactions.map Transaction.id,
      id ∉ loaded.seenTransactionIds) ↔
        ∀ t ∈ account.transactions, t.id ∉ loaded.seenTransactionIds := List.forall_mem_map
  rw [hseen, Import.Holds]
  unfold importAccount
  cases hv : validateImportedAccount account with
  | error e =>
    have hnot : ¬ ValidImport account := fun h => by
      rw [validateImportedAccount_ok_iff (u := ()).mpr h] at hv; cases hv
    simp [bind, Except.bind, hnot]
  | ok u =>
    have hvalid : ValidImport account := validateImportedAccount_ok_iff.mp hv
    simp only [bind, Except.bind, hvalid, true_and]
    cases hfold : account.transactions.foldlM importTransaction loaded with
    | error e =>
      simp only [reduceCtorEq, false_iff]
      intro h
      obtain ⟨⟨hz, ⟨hnodup, hnew⟩, -⟩, -⟩ := h
      rw [importTransactions_ok_iff.mpr ⟨hz, hnodup, hnew, rfl⟩] at hfold
      cases hfold
    | ok next =>
      obtain ⟨hz, hnodup, hnew, rfl⟩ := importTransactions_ok_iff.mp hfold
      cases hc : loaded.accounts.contains account.id with
      | true => simp [hc]
      | false =>
        simp only [hc, Bool.false_eq_true, if_false, Except.ok.injEq, not_false_eq_true, and_true]
        exact ⟨fun h => ⟨⟨hz, hnodup, hnew⟩, h.symm⟩, fun h => h.2.symm⟩

/-! ## All accounts -/

/-- What the loader makes of a list it accepts, on top of what it has. -/
def Import.add (loaded : Import) (accounts : List Account) : Import :=
  { accounts := OrdMap.addVals Account.id loaded.accounts accounts
    seenTransactionIds := loaded.seenTransactionIds ∪ (transactionIds accounts).toFinset
    maxTransactionId := max loaded.maxTransactionId (maxId (transactionIds accounts)) }

theorem foldl_addAccount (accounts : List Account) (loaded : Import) :
    accounts.foldl Import.addAccount loaded = loaded.add accounts := by
  induction accounts generalizing loaded with
  | nil => simp [Import.add, OrdMap.addVals, transactionIds]
  | cons account rest ih =>
    have hids : transactionIds (account :: rest) =
        account.transactions.map Transaction.id ++ transactionIds rest := rfl
    rw [List.foldl_cons, ih, Import.add, Import.add, hids, List.toFinset_append, maxId_append,
      ← Finset.union_assoc, ← max_assoc]
    rfl

/-- What holds of all the ids holds of the ids of each account. -/
theorem forall_transactionIds {accounts : List Account} {p : Nat → Prop} :
    (∀ id ∈ transactionIds accounts, p id) ↔
      ∀ account ∈ accounts, ∀ t ∈ account.transactions, p t.id := by
  simp only [transactionIds, List.forall_mem_flatMap, List.forall_mem_map]

theorem importAccounts_ok_iff {accounts : List Account} {loaded loaded' : Import} :
    accounts.foldlM importAccount loaded = .ok loaded' ↔
      ((∀ account ∈ accounts, ValidImport account) ∧ (∀ id ∈ transactionIds accounts, id ≠ 0) ∧
        ((transactionIds accounts).Nodup ∧
          ∀ id ∈ transactionIds accounts, id ∉ loaded.seenTransactionIds) ∧
        (accounts.map Account.id).Nodup ∧
          ∀ account ∈ accounts, ¬ loaded.Holds account.id) ∧
      loaded' = loaded.add accounts := by
  have hseen : ∀ (loaded : Import) (account : Account) (id : Nat),
      id ∈ (loaded.addAccount account).seenTransactionIds ↔
        id ∈ account.transactions.map Transaction.id ∨ id ∈ loaded.seenTransactionIds := by
    intro loaded account id
    rw [Import.addAccount, Finset.mem_union, List.mem_toFinset, or_comm]
  have hheld : ∀ (loaded : Import) (account : Account) (id : AccountId),
      (loaded.addAccount account).Holds id ↔ id = account.id ∨ loaded.Holds id := by
    intro loaded account id
    rw [Import.Holds, Import.Holds, Import.addAccount, Std.ExtTreeMap.contains_insert,
      Bool.or_eq_true, Std.compare_beq_iff_eq, eq_comm]
  rw [foldlM_ok_iff importAccount_ok_iff, passes_and, passes_and, passes_and, passes_forall,
    passes_forall, passes_distinct_all hseen, passes_distinct hheld, foldl_addAccount,
    forall_transactionIds]
  rfl

/-- The loader's verdict and its result. -/
theorem fromAccounts_ok_iff {accounts : List Account} {bank : Bank} :
    fromAccounts accounts = .ok bank ↔
      (∀ account ∈ accounts, ValidImport account) ∧
      (accounts.map Account.id).Nodup ∧
      (∀ id ∈ transactionIds accounts, id ≠ 0) ∧
      (transactionIds accounts).Nodup ∧
      maxId (transactionIds accounts) < u64Max ∧
      bank = ⟨OrdMap.ofVals Account.id accounts, maxId (transactionIds accounts) + 1⟩ := by
  have hfold : ∀ loaded', accounts.foldlM importAccount ⟨∅, ∅, 0⟩ = .ok loaded' ↔
      ((∀ account ∈ accounts, ValidImport account) ∧ (∀ id ∈ transactionIds accounts, id ≠ 0) ∧
        (transactionIds accounts).Nodup ∧ (accounts.map Account.id).Nodup) ∧
      loaded' = Import.add ⟨∅, ∅, 0⟩ accounts := by
    intro loaded'
    simp [importAccounts_ok_iff, Import.Holds]
  unfold fromAccounts
  cases hloaded : accounts.foldlM importAccount ⟨∅, ∅, 0⟩ with
  | error e =>
    simp only [bind, Except.bind, reduceCtorEq, false_iff]
    intro h
    obtain ⟨hv, hnodup, hz, hids, -⟩ := h
    rw [(hfold _).mpr ⟨⟨hv, hz, hids, hnodup⟩, rfl⟩] at hloaded
    cases hloaded
  | ok loaded =>
    obtain ⟨⟨hv, hz, hids, hnodup⟩, rfl⟩ := (hfold loaded).mp hloaded
    simp only [bind, Except.bind, Import.add, Nat.zero_max]
    cases hnext : checkedAddU64 (maxId (transactionIds accounts)) 1 with
    | none =>
      rw [checkedAddU64_eq_none] at hnext
      simp only [reduceCtorEq, false_iff]
      intro h
      obtain ⟨-, -, -, -, hlt, -⟩ := h
      omega
    | some next =>
      obtain ⟨hle, rfl⟩ := checkedAddU64_eq_some.mp hnext
      simp only [Except.ok.injEq]
      constructor
      · intro hbank
        subst hbank
        exact ⟨hv, hnodup, hz, hids, by omega, rfl⟩
      · intro h
        obtain ⟨-, -, -, -, -, rfl⟩ := h
        rfl

/-- An imported bank holds the accounts of the list. -/
theorem mem_of_fromAccounts {accounts : List Account} {bank : Bank}
    (h : fromAccounts accounts = .ok bank) {id : AccountId} {account : Account}
    (hfound : bank.accounts[id]? = some account) : account ∈ accounts ∧ account.id = id := by
  obtain ⟨-, hnodup, -, -, -, rfl⟩ := fromAccounts_ok_iff.mp h
  exact (OrdMap.get_ofVals hnodup id account).mp hfound

/-! ## The order of the list -/

/-- What the loader asks of a list of accounts. -/
structure Acceptable (accounts : List Account) : Prop where
  accountIds : (accounts.map Account.id).Nodup
  valid : ∀ account ∈ accounts, ValidImport account
  nonzero : ∀ id ∈ transactionIds accounts, id ≠ 0
  distinct : (transactionIds accounts).Nodup
  belowLargest : maxId (transactionIds accounts) < u64Max

/-- The bank has the accounts of the list, each under its id and as it was
given, and numbers on from their largest transaction id. -/
structure Loaded (accounts : List Account) (bank : Bank) : Prop where
  accounts_iff : ∀ id account, bank.accounts[id]? = some account ↔
    account ∈ accounts ∧ account.id = id
  next : bank.nextTransactionId = maxId (transactionIds accounts) + 1

variable {accounts accounts' : List Account} {bank : Bank}

theorem fromAccounts_ok_iff_loaded :
    fromAccounts accounts = .ok bank ↔ Acceptable accounts ∧ Loaded accounts bank := by
  rw [fromAccounts_ok_iff]
  constructor
  · intro h
    obtain ⟨hvalid, hids, hnonzero, hdistinct, hbelow, rfl⟩ := h
    exact ⟨⟨hids, hvalid, hnonzero, hdistinct, hbelow⟩, OrdMap.get_ofVals hids, rfl⟩
  · intro h
    obtain ⟨⟨hids, hvalid, hnonzero, hdistinct, hbelow⟩, hfound, hnext⟩ := h
    obtain ⟨filed, next⟩ := bank
    obtain rfl : next = maxId (transactionIds accounts) + 1 := hnext
    obtain rfl : filed = OrdMap.ofVals Account.id accounts := by
      apply Std.ExtTreeMap.ext_getElem?
      intro id
      ext account
      rw [hfound, OrdMap.get_ofVals hids]
    exact ⟨hvalid, hids, hnonzero, hdistinct, hbelow, rfl⟩

theorem fromAccounts_accepts_iff :
    (∃ bank, fromAccounts accounts = .ok bank) ↔ Acceptable accounts := by
  constructor
  · intro h
    obtain ⟨bank, hbank⟩ := h
    exact (fromAccounts_ok_iff_loaded.mp hbank).1
  · intro h
    exact ⟨⟨OrdMap.ofVals Account.id accounts, maxId (transactionIds accounts) + 1⟩,
      fromAccounts_ok_iff_loaded.mpr ⟨h, OrdMap.get_ofVals h.accountIds, rfl⟩⟩

theorem maxId_perm {ids ids' : List Nat} (h : ids.Perm ids') : maxId ids = maxId ids' :=
  h.foldl_eq 0

theorem transactionIds_perm (h : accounts.Perm accounts') :
    (transactionIds accounts).Perm (transactionIds accounts') := h.flatMap_right _

theorem Acceptable.perm (h : accounts.Perm accounts') (hacc : Acceptable accounts) :
    Acceptable accounts' where
  accountIds := (h.map Account.id).nodup_iff.mp hacc.accountIds
  valid account hmem := hacc.valid account (h.mem_iff.mpr hmem)
  nonzero id hid := hacc.nonzero id ((transactionIds_perm h).mem_iff.mpr hid)
  distinct := (transactionIds_perm h).nodup_iff.mp hacc.distinct
  belowLargest := maxId_perm (transactionIds_perm h) ▸ hacc.belowLargest

theorem Loaded.perm (h : accounts.Perm accounts') (hloaded : Loaded accounts bank) :
    Loaded accounts' bank where
  accounts_iff id account := by rw [hloaded.accounts_iff, h.mem_iff]
  next := maxId_perm (transactionIds_perm h) ▸ hloaded.next

/-- The loader accepts exactly the lists that it should, and makes of them
exactly their accounts. So the order of a list makes no difference to the
verdict nor to the bank. -/
theorem loading_is_exact (accounts : List Account) :
    ((∃ bank, fromAccounts accounts = .ok bank) ↔ Acceptable accounts) ∧
    (∀ bank, fromAccounts accounts = .ok bank ↔ Acceptable accounts ∧ Loaded accounts bank) ∧
    ∀ accounts', accounts.Perm accounts' →
      ∀ bank, fromAccounts accounts = .ok bank ↔ fromAccounts accounts' = .ok bank := by
  refine ⟨fromAccounts_accepts_iff, fun bank => fromAccounts_ok_iff_loaded,
    fun accounts' hperm bank => ?_⟩
  rw [fromAccounts_ok_iff_loaded, fromAccounts_ok_iff_loaded]
  constructor
  · intro h
    exact ⟨h.1.perm hperm, h.2.perm hperm⟩
  · intro h
    exact ⟨h.1.perm hperm.symm, h.2.perm hperm.symm⟩

end Banck.Bank
