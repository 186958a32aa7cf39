/-
Banck.BankInvariants — the invariants of the bank that persistence rests
on.

`Numbered` is the discipline of transaction ids: positive, below the
counter, and no id twice in the whole bank. `WellFormed` adds what the
loader checks of each account and that each account is filed under its own
id. Both hold after every run. For the ids one inversion lemma is enough,
`history_step`: a move appends the next id to one history, or appends
nothing and perhaps empties a history.
-/
import Banck.BankImport
import Banck.BankTheorems

namespace Banck

open Lib

namespace Bank

/-! ## Histories -/

/-- The transactions of an account, none if there is no such account. -/
def history (bank : Bank) (id : AccountId) : List Transaction :=
  match bank.accounts[id]? with
  | some account => account.transactions
  | none => []

variable {bank bank' : Bank}

theorem history_found {id : AccountId} {account : Account}
    (h : bank.accounts[id]? = some account) : bank.history id = account.transactions := by
  simp only [history, h]

theorem history_insert (bank : Bank) (id : AccountId) (account : Account) (next : Nat)
    (id' : AccountId) :
    history ⟨bank.accounts.insert id account, next⟩ id' =
      if id' = id then account.transactions else bank.history id' := by
  by_cases h : id' = id
  · subst h; simp only [history, OrdMap.get_insert_self, if_true]
  · simp only [history, OrdMap.get_insert_ne _ _ h, if_neg h]

theorem history_erase (bank : Bank) (id id' : AccountId) :
    history { bank with accounts := bank.accounts.erase id } id' =
      if id' = id then [] else bank.history id' := by
  by_cases h : id' = id
  · subst h; simp only [history, OrdMap.get_erase_self, if_true]
  · simp only [history, OrdMap.get_erase_ne _ h, if_neg h]

/-- A move records one transaction under the next id, or none. -/
theorem history_step {m : Move} (h : Move.Step bank m bank') :
    (∃ id transaction, transaction.id = bank.nextTransactionId ∧ bank.HasId ∧
        bank'.nextTransactionId = bank.nextTransactionId + 1 ∧
        ∀ id', bank'.history id' =
          if id' = id then bank.history id ++ [transaction] else bank.history id') ∨
      ((∀ id', bank'.history id' = bank.history id' ∨ bank'.history id' = []) ∧
        bank.nextTransactionId ≤ bank'.nextTransactionId ∧
        (bank.nextTransactionId ≤ u64Max → bank'.nextTransactionId ≤ u64Max)) := by
  cases h with
  | @opened account transaction fresh opening hasId numbered _ _ =>
    refine .inl ⟨account.id, transaction, numbered, hasId, by simp [numbered], fun id' => ?_⟩
    have hnone : bank.history account.id = [] := by simp only [history, fresh]
    have hnil : account.transactions = [] := by
      obtain ⟨_, _, _, _, _, _, _, -, -, -, rfl⟩ := opening
      rfl
    rw [post, history_insert, Account.record, hnone, hnil]
  | @posted id before account transaction found hasId numbered entry =>
    refine .inl ⟨id, transaction, numbered, hasId, by simp [numbered], fun id' => ?_⟩
    rw [post, history_insert, Account.record, entry.transactions_eq, history_found found]
  | @removed id account found _ _ =>
    refine .inr ⟨fun id' => ?_, le_rfl, fun h => h⟩
    rw [history_erase]
    by_cases h : id' = id
    · exact .inr (if_pos h)
    · exact .inl (if_neg h)
  | skipped le bounded => exact .inr ⟨fun _ => .inl rfl, le, bounded⟩
  | @spilled id account amount balance found hasId _ _ _ _ =>
    refine .inr ⟨fun id' => .inl ?_, Nat.le_succ _, fun _ => hasId⟩
    rw [history_insert]
    by_cases h : id' = id
    · subst h; rw [if_pos rfl, history_found found]
    · rw [if_neg h]

/-! ## The discipline of ids -/

/-- Every id is positive and below the counter, and occurs once in the
bank. -/
structure Numbered (bank : Bank) : Prop where
  nonzero : ∀ id, ∀ t ∈ bank.history id, t.id ≠ 0
  below : ∀ id, ∀ t ∈ bank.history id, t.id < bank.nextTransactionId
  distinct : ∀ id, ((bank.history id).map Transaction.id).Nodup
  apart : ∀ id id', id ≠ id' → ∀ t ∈ bank.history id, ∀ t' ∈ bank.history id', t.id ≠ t'.id
  positive : 0 < bank.nextTransactionId
  bounded : bank.nextTransactionId ≤ u64Max

theorem numbered_new : new.Numbered := by
  have hnone : ∀ id, new.history id = [] := fun id => by simp [history, new]
  refine ⟨?_, ?_, ?_, ?_, by decide, by decide⟩
  · intro id t ht; rw [hnone] at ht; cases ht
  · intro id t ht; rw [hnone] at ht; cases ht
  · intro id; rw [hnone]; exact List.nodup_nil
  · intro id id' _ t ht; rw [hnone] at ht; cases ht

/-- Nothing recorded, histories kept or emptied. -/
theorem Numbered.shrink (h : bank.Numbered)
    (hhist : ∀ id, bank'.history id = bank.history id ∨ bank'.history id = [])
    (hle : bank.nextTransactionId ≤ bank'.nextTransactionId)
    (hbounded : bank'.nextTransactionId ≤ u64Max) : bank'.Numbered := by
  have hmem : ∀ id, ∀ t ∈ bank'.history id, t ∈ bank.history id := fun id t ht => by
    rcases hhist id with he | he
    · rwa [he] at ht
    · rw [he] at ht; cases ht
  refine ⟨fun id t ht => h.nonzero id t (hmem id t ht),
    fun id t ht => Nat.lt_of_lt_of_le (h.below id t (hmem id t ht)) hle, fun id => ?_,
    fun id id' hne t ht t' ht' => h.apart id id' hne t (hmem id t ht) t' (hmem id' t' ht'),
    Nat.lt_of_lt_of_le h.positive hle, hbounded⟩
  rcases hhist id with he | he
  · rw [he]; exact h.distinct id
  · rw [he]; exact List.nodup_nil

theorem numbered_step {m : Move} (hstep : Move.Step bank m bank') (h : bank.Numbered) :
    bank'.Numbered := by
  rcases history_step hstep with ⟨id, new, hnew, hid, hnext, hhist⟩ | ⟨hhist, hle, hbounded⟩
  · -- the new id is above every other
    have hmem : ∀ id', ∀ t ∈ bank'.history id', t ∈ bank.history id' ∨ id' = id ∧ t = new := by
      intro id' t ht
      rw [hhist] at ht
      by_cases he : id' = id
      · subst he
        rw [if_pos rfl] at ht
        rcases List.mem_append.mp ht with ht | ht
        · exact .inl ht
        · exact .inr ⟨rfl, List.mem_singleton.mp ht⟩
      · rw [if_neg he] at ht
        exact .inl ht
    refine ⟨?_, ?_, ?_, ?_, by rw [hnext]; omega, by rw [hnext]; exact hid⟩
    · intro id' t ht
      rcases hmem id' t ht with ht | ⟨-, rfl⟩
      · exact h.nonzero id' t ht
      · have := h.positive; omega
    · intro id' t ht
      rcases hmem id' t ht with ht | ⟨-, rfl⟩
      · have := h.below id' t ht; omega
      · omega
    · intro id'
      rw [hhist]
      by_cases he : id' = id
      · subst he
        rw [if_pos rfl, List.map_append, List.map_singleton, ← List.concat_eq_append,
          List.nodup_concat]
        refine ⟨fun hin => ?_, h.distinct id'⟩
        obtain ⟨t, ht, heq⟩ := List.mem_map.mp hin
        have := h.below id' t ht
        omega
      · rw [if_neg he]; exact h.distinct id'
    · intro id₁ id₂ hne t ht t' ht'
      rcases hmem id₁ t ht with ht | ⟨rfl, rfl⟩
      · rcases hmem id₂ t' ht' with ht' | ⟨rfl, rfl⟩
        · exact h.apart id₁ id₂ hne t ht t' ht'
        · have := h.below id₁ t ht; omega
      · rcases hmem id₂ t' ht' with ht' | ⟨rfl, -⟩
        · have := h.below id₂ t' ht'; omega
        · exact absurd rfl hne
  · exact h.shrink hhist hle (hbounded h.bounded)

/-- Within each account the ids increase. -/
def Chronological (bank : Bank) : Prop :=
  ∀ id, ((bank.history id).map Transaction.id).Pairwise (· < ·)

theorem chronological_new : new.Chronological := fun id => by simp [history, new]

theorem chronological_step {m : Move} (hstep : Move.Step bank m bank') (hn : bank.Numbered)
    (h : bank.Chronological) : bank'.Chronological := by
  intro id'
  rcases history_step hstep with ⟨id, new, hnew, -, -, hhist⟩ | ⟨hhist, -, -⟩
  · rw [hhist]
    by_cases he : id' = id
    · subst he
      rw [if_pos rfl, List.map_append, List.pairwise_append]
      refine ⟨h id', by simp, fun a ha b hb => ?_⟩
      obtain ⟨t, ht, rfl⟩ := List.mem_map.mp ha
      obtain rfl : b = new.id := by simpa using hb
      have := hn.below id' t ht
      omega
    · rw [if_neg he]; exact h id'
  · rcases hhist id' with he | he
    · rw [he]; exact h id'
    · rw [he]; exact .nil

/-! ## The whole bank -/

/-- The ids of all accounts, in one list, are the ids of the histories. -/
theorem mem_transactionIds {n : Nat} :
    n ∈ transactionIds bank.accountList ↔ ∃ id, ∃ t ∈ bank.history id, t.id = n := by
  simp only [transactionIds, List.mem_flatMap, List.mem_map]
  constructor
  · rintro ⟨account, hmem, t, ht, rfl⟩
    obtain ⟨id, hfound⟩ := OrdMap.mem_vals.mp hmem
    exact ⟨id, t, by rw [history_found hfound]; exact ht, rfl⟩
  · rintro ⟨id, t, ht, rfl⟩
    cases hfound : bank.accounts[id]? with
    | none => simp only [history, hfound] at ht; cases ht
    | some account =>
      rw [history_found hfound] at ht
      exact ⟨account, OrdMap.mem_vals.mpr ⟨id, hfound⟩, t, ht, rfl⟩

/-- No id occurs twice in the bank. -/
theorem Numbered.nodup (h : bank.Numbered)
    (hkeyed : OrdMap.Keyed Account.id bank.accounts) :
    (transactionIds bank.accountList).Nodup := by
  have hfound : ∀ account ∈ bank.accountList,
      bank.history account.id = account.transactions := fun account hmem => by
    obtain ⟨id, hf⟩ := OrdMap.mem_vals.mp hmem
    rw [hkeyed id account hf]
    exact history_found hf
  refine List.nodup_flatMap.mpr ⟨fun account hmem => ?_, ?_⟩
  · have := h.distinct account.id
    rwa [hfound account hmem] at this
  · have hids := hkeyed.nodup
    rw [List.Nodup, List.pairwise_map] at hids
    refine hids.imp_of_mem fun {a b} ha hb hne => ?_
    intro n hna hnb
    obtain ⟨t, ht, rfl⟩ := List.mem_map.mp hna
    obtain ⟨t', ht', he⟩ := List.mem_map.mp hnb
    rw [← hfound a ha] at ht
    rw [← hfound b hb] at ht'
    exact h.apart a.id b.id hne t ht t' ht' he.symm

theorem accountList_ascending (h : OrdMap.Keyed Account.id bank.accounts) :
    bank.accountList.Pairwise fun a b => a.id < b.id :=
  h.ascending.imp fun hlt => Std.compare_eq_lt.mp hlt

/-- Every account is filed under its own id. -/
theorem keyed_step {m : Move} (hstep : Move.Step bank m bank')
    (h : OrdMap.Keyed Account.id bank.accounts) :
    OrdMap.Keyed Account.id bank'.accounts := by
  cases hstep with
  | opened _ _ _ _ _ _ => exact OrdMap.Keyed.insert _ h rfl
  | @posted id before account _ found _ _ entry =>
    exact OrdMap.Keyed.insert _ h (entry.id_eq.trans (h id before found))
  | removed _ _ _ => exact OrdMap.Keyed.erase _ h _
  | skipped _ _ => exact h
  | @spilled id account _ _ found _ _ _ _ _ =>
    exact OrdMap.Keyed.insert _ h (h id account found)

end Bank

/-! ## What the loader checks -/

open Bank (ValidImport)

theorem Opening.validImport {account : Account} (h : Opening account) (t : Transaction) :
    ValidImport (account.record t) := by
  obtain ⟨id, ownerId, rawName, rawEmail, name, email, openingBalance, hn, he, hopen, rfl⟩ := h
  exact ⟨⟨name, Profile.cleanName_clean hn⟩, ⟨email, Profile.cleanEmail_clean he⟩, hopen,
    le_refl (0 : Int)⟩

/-- An entry writes clean names and addresses, and no negative amounts. -/
theorem Entry.validImport {before after : Account} {kind : TransactionKind} {amount : Money}
    (h : Entry before kind amount after) (hb : ValidImport before) (t : Transaction) :
    ValidImport (after.record t) := by
  obtain ⟨hname, hemail, hnonneg⟩ := hb
  refine ⟨?_, ?_, h.nonNegative hnonneg⟩
  · cases h with
    | renamed clean => exact ⟨_, Profile.cleanName_clean clean⟩
    | _ => exact hname
  · cases h with
    | readdressed clean => exact ⟨_, Profile.cleanEmail_clean clean⟩
    | _ => exact hemail

namespace Bank

variable {bank bank' : Bank}

theorem validImport_step {m : Move} (hstep : Move.Step bank m bank')
    (h : bank.Each fun _ account => ValidImport account) :
    bank'.Each fun _ account => ValidImport account :=
  Each.step hstep (fun _ t hopen _ _ => hopen.validImport t)
    (fun _ _ _ t hb entry => entry.validImport hb t)
    (fun _ _ account _ _ ha _ hpos hsum => ⟨ha.1, ha.2.1, by
      have := ha.2.2.1
      simp only [hsum]; omega, ha.2.2.2⟩) h

/-- What every bank reached from an empty one is. -/
structure WellFormed (bank : Bank) : Prop where
  keyed : OrdMap.Keyed Account.id bank.accounts
  valid : bank.Each fun _ account => ValidImport account
  numbered : bank.Numbered
  chronological : bank.Chronological

theorem wellFormed_new : new.WellFormed :=
  ⟨OrdMap.keyed_empty _, each_new, numbered_new, chronological_new⟩

theorem wellFormed_step (bank : Bank) (m : Move) (bank' : Bank)
    (hstep : Move.Step bank m bank') (h : bank.WellFormed) : bank'.WellFormed :=
  ⟨keyed_step hstep h.keyed, validImport_step hstep h.valid, numbered_step hstep h.numbered,
    chronological_step hstep h.numbered h.chronological⟩

theorem WellFormed.nonNegative (h : bank.WellFormed) : bank.NonNegative :=
  fun id account hfound => (h.valid id account hfound).2.2

/-- The largest id that is still in the bank. -/
def latestId (bank : Bank) : Nat := maxId (transactionIds bank.accountList)

theorem WellFormed.latestId_lt (h : bank.WellFormed) :
    bank.latestId < bank.nextTransactionId := by
  have hpos := h.numbered.positive
  have hle : bank.latestId ≤ bank.nextTransactionId - 1 := maxId_le fun n hn => by
    obtain ⟨id, t, ht, rfl⟩ := mem_transactionIds.mp hn
    have := h.numbered.below id t ht
    omega
  omega

/-- The loader takes back the accounts of a well-formed bank as they are,
and numbers on from the largest id it finds. -/
theorem WellFormed.reload (h : bank.WellFormed) :
    fromAccounts bank.accountList = .ok ⟨bank.accounts, bank.latestId + 1⟩ := by
  refine fromAccounts_ok_iff.mpr ⟨fun account hmem => ?_, h.keyed.nodup, fun n hn => ?_,
    h.numbered.nodup h.keyed, ?_, ?_⟩
  · obtain ⟨id, hfound⟩ := OrdMap.mem_vals.mp hmem
    exact h.valid id account hfound
  · obtain ⟨id, t, ht, rfl⟩ := mem_transactionIds.mp hn
    exact h.numbered.nonzero id t ht
  · exact Nat.lt_of_lt_of_le h.latestId_lt h.numbered.bounded
  · rw [accountList, h.keyed.ofVals_vals]
    rfl

end Bank

end Banck
