/-
Banck.BankQueries — the questions a bank answers about all its accounts.

`richest_account` is `max_by_key`, which keeps the later of two accounts
with the same balance, so it is the account with the largest id among the
richest (`richestAccount_iff`). Its order is that of the cents; nothing is
added up, so it is defined where `total_balance` overflows.
-/
import Banck.BankInvariants

namespace Banck

open Lib

namespace Bank

/-! ## Definitions -/

def accountCount (bank : Bank) : Nat := bank.accountList.length

/-- One step of `max_by_key`: the later account wins unless it has less. -/
def richer (best : Option Account) (account : Account) : Option Account :=
  match best with
  | none => some account
  | some best => if account.balance < best.balance then some best else some account

def richestAccount (bank : Bank) : Option Account := bank.accountList.foldl richer none

def emptyAccounts (bank : Bank) : List Account :=
  bank.accountList.filter fun account => account.balance.isZero

/-! ## The richest account -/

/-- As rich as any, and of those as rich the one with the largest id. -/
def IsRichest (accounts : List Account) (account : Account) : Prop :=
  account ∈ accounts ∧ ∀ other ∈ accounts, other.balance < account.balance ∨
    other.balance = account.balance ∧ other.id ≤ account.id

/-- There is one such account at most. -/
theorem IsRichest.unique {accounts : List Account} {first second : Account}
    (h : IsRichest accounts first) (h' : IsRichest accounts second) :
    first.balance = second.balance ∧ first.id = second.id := by
  have hlt : ∀ {a b : Money}, a < b → ¬ b < a := fun hab hba => Int.lt_asymm hab hba
  have hirrefl : ∀ {a : Money}, ¬ a < a := fun h => Int.lt_irrefl _ h
  rcases h.2 second h'.1 with hless | ⟨heq, hid⟩ <;>
    rcases h'.2 first h.1 with hless' | ⟨heq', hid'⟩
  · exact absurd hless' (hlt hless)
  · rw [heq'] at hless
    exact absurd hless hirrefl
  · rw [heq] at hless'
    exact absurd hless' hirrefl
  · exact ⟨heq', UInt32.le_antisymm hid' hid⟩

/-- Where a later account has a larger id, the fold ends with the richest. -/
theorem foldl_richer {accounts : List Account}
    (h : accounts.Pairwise fun a b => a.id < b.id) (hne : accounts ≠ []) :
    ∃ account, accounts.foldl richer none = some account ∧ IsRichest accounts account := by
  induction accounts using List.reverseRecOn with
  | nil => exact absurd rfl hne
  | append_singleton rest last ih =>
    obtain ⟨hrest, -, hlater⟩ := List.pairwise_append.mp h
    have hbefore : ∀ other ∈ rest, other.id ≤ last.id := fun other hmem =>
      UInt32.le_of_lt (hlater other hmem last (List.mem_singleton_self last))
    rw [List.foldl_append, List.foldl_cons, List.foldl_nil]
    by_cases hfirst : rest = []
    · subst hfirst
      refine ⟨last, rfl, List.mem_singleton_self last, fun other hmem => ?_⟩
      obtain rfl := List.mem_singleton.mp hmem
      exact .inr ⟨rfl, UInt32.le_refl _⟩
    obtain ⟨best, hbest, hmem, hmost⟩ := ih hrest hfirst
    rw [hbest, richer]
    by_cases hless : last.balance < best.balance
    · rw [if_pos hless]
      refine ⟨best, rfl, List.mem_append_left _ hmem, fun other hother => ?_⟩
      rcases List.mem_append.mp hother with hold | hnew
      · exact hmost other hold
      · obtain rfl := List.mem_singleton.mp hnew
        exact .inl hless
    · rw [if_neg hless]
      refine ⟨last, rfl, List.mem_append_right _ (List.mem_singleton_self last),
        fun other hother => ?_⟩
      rcases List.mem_append.mp hother with hold | hnew
      · -- no more than the best before, which has no more than the last
        have hle : best.balance.cents ≤ last.balance.cents := Int.not_lt.mp hless
        have hother_le : other.balance.cents ≤ best.balance.cents := by
          rcases hmost other hold with hlt | ⟨heq, -⟩
          · exact Int.le_of_lt hlt
          · exact Int.le_of_eq (congrArg Money.cents heq)
        rcases Int.lt_or_eq_of_le (Int.le_trans hother_le hle) with hlt | heq
        · exact .inl hlt
        · exact .inr ⟨Money.ext_cents heq, hbefore other hold⟩
      · obtain rfl := List.mem_singleton.mp hnew
        exact .inr ⟨rfl, UInt32.le_refl _⟩

/-- The account that is printed as the richest. -/
theorem richestAccount_iff {bank : Bank} (h : bank.WellFormed) {account : Account} :
    bank.richestAccount = some account ↔ IsRichest bank.accountList account := by
  constructor
  · intro hrichest
    have hne : bank.accountList ≠ [] := by
      intro hnone
      rw [richestAccount, hnone] at hrichest
      cases hrichest
    obtain ⟨best, hbest, hmost⟩ := foldl_richer (accountList_ascending h.keyed) hne
    obtain rfl := Option.some.inj (hbest.symm.trans hrichest)
    exact hmost
  · intro hmost
    obtain ⟨best, hbest, hmost'⟩ := foldl_richer (accountList_ascending h.keyed)
      (List.ne_nil_of_mem hmost.1)
    obtain ⟨id, hfound⟩ := OrdMap.mem_vals.mp hmost.1
    obtain ⟨id', hfound'⟩ := OrdMap.mem_vals.mp hmost'.1
    have hids : id = id' :=
      (h.keyed id account hfound).symm.trans ((hmost.unique hmost').2.trans
        (h.keyed id' best hfound'))
    subst hids
    rw [richestAccount, hbest, ← hfound, ← hfound']

theorem richestAccount_none_iff {bank : Bank} (h : bank.WellFormed) :
    bank.richestAccount = none ↔ bank.accountCount = 0 := by
  rw [accountCount, List.length_eq_zero_iff]
  constructor
  · intro hnone
    by_contra hne
    obtain ⟨best, hbest, -⟩ := foldl_richer (accountList_ascending h.keyed) hne
    rw [richestAccount, hbest] at hnone
    cases hnone
  · intro hnone
    rw [richestAccount, hnone]
    rfl

end Bank

end Banck
