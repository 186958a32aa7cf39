/-
Banck.BankTexts — the texts in a bank: where the names, addresses and
descriptions of its accounts come from.

A call writes the name and the address it was given, cleaned, and the
descriptions its operation has for the transactions it records
(`BankOp.profile`, `BankOp.descriptions`). `Bank.Writes` is the frame: what
else there is was there before.
-/
import Banck.BankChanges

namespace Banck

open Lib Mut Text

/-! ## What a call writes -/

def BankCall.descriptions : BankCall → List String
  | call op => op.descriptions
  | applyMonthlyFee _ _ => ["Bank fee applied"]

/-! ## The frame -/

/-- A text of the account is one that was written, or the account had it
before. -/
def Bank.HasText (before : Bank) (written : List String) (text : Account → String)
    (id : AccountId) (account : Account) : Prop :=
  text account ∈ written ∨ ∃ old, before.accounts[id]? = some old ∧ text old = text account

structure Bank.Writes (profile descriptions : List String) (before after : Bank) : Prop where
  name : ∀ id account, after.accounts[id]? = some account →
    before.HasText profile Account.name id account
  email : ∀ id account, after.accounts[id]? = some account →
    before.HasText profile Account.email id account
  history : ∀ id, ∀ t ∈ after.history id, t ∈ before.history id ∨ t.description ∈ descriptions

namespace Bank

variable {profile descriptions : List String} {before middle after : Bank} {id : AccountId}

theorem HasText.of_same {account : Account} (h : after.accounts = before.accounts)
    (text : Account → String) (found : after.accounts[id]? = some account) :
    before.HasText profile text id account :=
  .inr ⟨account, h ▸ found, rfl⟩

theorem Writes.of_same (h : after.accounts = before.accounts) :
    before.Writes profile descriptions after where
  name _ _ := HasText.of_same h Account.name
  email _ _ := HasText.of_same h Account.email
  history id _ ht := .inl (history_eq h id ▸ ht)

theorem HasText.trans {text : Account → String} {account : Account}
    (h : ∀ old, middle.accounts[id]? = some old → before.HasText profile text id old)
    (h' : middle.HasText profile text id account) : before.HasText profile text id account := by
  rcases h' with hwritten | ⟨old, hold, hsame⟩
  · exact .inl hwritten
  · rcases h old hold with hwritten | ⟨older, holder, hsame'⟩
    · exact .inl (hsame ▸ hwritten)
    · exact .inr ⟨older, holder, hsame'.trans hsame⟩

theorem Writes.trans (h : before.Writes profile descriptions middle)
    (h' : middle.Writes profile descriptions after) :
    before.Writes profile descriptions after where
  name id account found := (h'.name id account found).trans (h.name id)
  email id account found := (h'.email id account found).trans (h.email id)
  history id t ht := by
    rcases h'.history id t ht with hmiddle | hwritten
    · exact h.history id t hmiddle
    · exact .inr hwritten

theorem Writes.erase (before : Bank) (id : AccountId) :
    before.Writes profile descriptions
      { before with accounts := before.accounts.erase id } := by
  have hkept : ∀ (other : AccountId) (account : Account),
      (before.accounts.erase id)[other]? = some account →
        before.accounts[other]? = some account := by
    intro other account found
    by_cases he : other = id
    · rw [he, OrdMap.get_erase_self] at found
      cases found
    · rwa [OrdMap.get_erase_ne _ he] at found
  refine ⟨fun other account found => ?_, fun other account found => ?_, fun other t ht => ?_⟩
  · exact .inr ⟨account, hkept other account found, rfl⟩
  · exact .inr ⟨account, hkept other account found, rfl⟩
  · rw [history_erase] at ht
    split at ht
    · cases ht
    · exact .inl ht

/-- An account is written whose texts are old or given. -/
theorem Writes.insert {account : Account} (next : Nat)
    (hname : before.HasText profile Account.name id account)
    (hemail : before.HasText profile Account.email id account)
    (hhistory : ∀ t ∈ account.transactions,
      t ∈ before.history id ∨ t.description ∈ descriptions) :
    before.Writes profile descriptions ⟨before.accounts.insert id account, next⟩ := by
  have hold : ∀ (text : Account → String), before.HasText profile text id account →
      ∀ (other : AccountId) (found : Account),
        (before.accounts.insert id account)[other]? = some found →
          before.HasText profile text other found := by
    intro text htext other found hfound
    by_cases he : other = id
    · subst he
      rw [OrdMap.get_insert_self] at hfound
      obtain rfl := Option.some.inj hfound
      exact htext
    · rw [OrdMap.get_insert_ne _ _ he] at hfound
      exact .inr ⟨found, hfound, rfl⟩
  refine ⟨hold _ hname, hold _ hemail, fun other t ht => ?_⟩
  rw [history_insert] at ht
  split at ht
  · next he => exact he ▸ hhistory t ht
  · exact .inl ht

/-- What all names and addresses have, and those that are written, all have
after. -/
theorem Writes.each {P : String → Prop} (h : before.Writes profile descriptions after)
    (hbefore : before.Each fun _ account => P account.name ∧ P account.email)
    (hwritten : ∀ text ∈ profile, P text) :
    after.Each fun _ account => P account.name ∧ P account.email := by
  intro id account found
  constructor
  · rcases h.name id account found with hmem | ⟨old, hold, hsame⟩
    · exact hwritten _ hmem
    · exact hsame ▸ (hbefore id old hold).1
  · rcases h.email id account found with hmem | ⟨old, hold, hsame⟩
    · exact hwritten _ hmem
    · exact hsame ▸ (hbefore id old hold).2

/-- A transaction is recorded on an account that keeps its history. -/
theorem Writes.post {account : Account} {transaction : Transaction}
    (hname : before.HasText profile Account.name id account)
    (hemail : before.HasText profile Account.email id account)
    (hhistory : account.transactions = before.history id)
    (hdescription : transaction.description ∈ descriptions) :
    before.Writes profile descriptions (before.post id account transaction) := by
  refine .insert _ hname hemail fun t ht => ?_
  rcases List.mem_append.mp ht with hold | hlast
  · exact .inl (hhistory ▸ hold)
  · exact .inr (List.mem_singleton.mp hlast ▸ hdescription)

/-- The account keeps its name and its address too. -/
theorem Writes.post_found {account old : Account} {transaction : Transaction}
    (hfound : before.accounts[id]? = some old) (hsame : old.SameBut account)
    (hdescription : transaction.description ∈ descriptions) :
    before.Writes profile descriptions (before.post id account transaction) :=
  .post (.inr ⟨old, hfound, hsame.name.symm⟩) (.inr ⟨old, hfound, hsame.email.symm⟩)
    (hsame.transactions.trans (history_found hfound).symm) hdescription

end Bank

/-! ## What the operations write -/

namespace BankOp

variable {op : BankOp} {bank bank' : Bank}

/-- A failing operation writes no text. -/
theorem run_error_writes {e : BankError} (hrun : op.run bank = (.error e, bank')) :
    bank.Writes [] [] bank' := by
  rcases run_error hrun with hlapsed | ⟨-, -, id, amount, now, -, account, balance, hfound, -, rfl⟩
  · exact .of_same hlapsed.accounts
  · exact .insert _ (.inr ⟨account, hfound, rfl⟩) (.inr ⟨account, hfound, rfl⟩)
      fun t ht => .inl ((Bank.history_found hfound).symm ▸ ht)

theorem run_ok_writes {reply : BankReply} (hrun : op.run bank = (.ok reply, bank')) :
    bank.Writes op.profile op.descriptions bank' := by
  cases run_returned hrun with
  | opened hfresh hdescription =>
    refine .post (.inl List.mem_cons_self) (.inl ?_) ?_ (List.mem_singleton.mpr hdescription)
    · exact List.mem_cons_of_mem _ (List.mem_singleton_self _)
    · rw [Bank.history, hfresh]
      rfl
  | renamed hfound hdescription =>
    exact .post (.inl (List.mem_singleton_self _)) (.inr ⟨_, hfound, rfl⟩)
      (Bank.history_found hfound).symm (List.mem_singleton.mpr hdescription)
  | readdressed hfound hdescription =>
    exact .post (.inr ⟨_, hfound, rfl⟩) (.inl (List.mem_singleton_self _))
      (Bank.history_found hfound).symm (List.mem_singleton.mpr hdescription)
  | posted hfound hsame _ hdescription => exact .post_found hfound hsame hdescription
  | transferred hne hpayer hpayerSame hpayee hpayeeSame hsent hreceived =>
    refine Bank.Writes.trans (.post_found hpayer hpayerSame ?_)
      (.post_found (Bank.post_found_ne hne hpayee _ _) hpayeeSame ?_)
    · exact hsent ▸ List.mem_cons_self
    · exact hreceived ▸ List.mem_cons_of_mem _ (List.mem_singleton_self _)
  | removed => exact .erase bank _

/-- What an operation that returns was given is in the bank. -/
theorem run_ok_profile {reply : BankReply} (hrun : op.run bank = (.ok reply, bank')) :
    ∀ text ∈ op.profile, ∃ (id : AccountId) (account : Account),
      bank'.accounts[id]? = some account ∧ (account.name = text ∨ account.email = text) := by
  intro text htext
  cases run_returned hrun with
  | opened =>
    refine ⟨_, _, OrdMap.get_insert_self _ _ _, ?_⟩
    rcases List.mem_cons.mp htext with rfl | hlast
    · exact .inl rfl
    · exact .inr (List.mem_singleton.mp hlast).symm
  | renamed =>
    exact ⟨_, _, OrdMap.get_insert_self _ _ _, .inl (List.mem_singleton.mp htext).symm⟩
  | readdressed =>
    exact ⟨_, _, OrdMap.get_insert_self _ _ _, .inr (List.mem_singleton.mp htext).symm⟩
  | posted _ _ hunnamed =>
    rw [hunnamed] at htext
    cases htext
  | transferred => cases htext
  | removed => cases htext

end BankOp

/-! ## What the calls write -/

namespace Bank

theorem chargeFees_writes (amount : Money) (clock : AccountId → Nat) (ids : List AccountId) :
    ∀ bank : Bank,
      bank.Writes [] ["Bank fee applied"] (chargeFees amount clock ids bank).2 := by
  induction ids with
  | nil =>
    intro bank
    exact .of_same rfl
  | cons id rest ih =>
    intro bank
    rw [chargeFees_cons]
    refine Writes.trans ?_ (ih _)
    rcases hrun : applyFee id amount (clock id) bank with ⟨e | u, bank'⟩
    · rw [applyFee_error hrun]
      exact .of_same rfl
    · obtain ⟨-, -, account, _, hfound, -, -, -, rfl⟩ := applyFee_ok_iff.mp hrun
      exact .post_found hfound (account.sameBut _ _ _) (List.mem_singleton_self _)

end Bank

namespace BankCall

/-- The call is accepted and gives an account this name or address. -/
def Stores (bank : Bank) (text : String) : BankCall → Prop
  | call op => op.Accepts bank ∧ text ∈ op.profile
  | applyMonthlyFee _ _ => False

/-- Every transaction was there before, or has one of the call's
descriptions. -/
theorem run_history (call : BankCall) (bank : Bank) (id : AccountId) :
    ∀ t ∈ (run bank call).2.history id,
      t ∈ bank.history id ∨ t.description ∈ call.descriptions := by
  cases call with
  | call op =>
    show ∀ t ∈ (op.run bank).2.history id, _
    rcases hrun : op.run bank with ⟨e | reply, bank'⟩
    · intro t ht
      exact ((BankOp.run_error_writes hrun).history id t ht).imp_right nofun
    · exact (BankOp.run_ok_writes hrun).history id
  | applyMonthlyFee amount clock =>
    exact (Bank.chargeFees_writes amount clock bank.accounts.keys bank).history id

/-- What all names and addresses have, they have after a call exactly if
those have it that the call stores. -/
theorem run_each_iff {P : String → Prop} {bank : Bank} (call : BankCall)
    (hbefore : bank.Each fun _ account => P account.name ∧ P account.email) :
    ((run bank call).2.Each fun _ account => P account.name ∧ P account.email) ↔
      ∀ text, call.Stores bank text → P text := by
  cases call with
  | call op =>
    show ((op.run bank).2.Each fun _ account => P account.name ∧ P account.email) ↔ _
    rcases hrun : op.run bank with ⟨e | reply, bank'⟩
    · have hrefused : ¬ op.Accepts bank := by
        intro haccepts
        obtain ⟨_, _, hok⟩ := BankOp.accepts_iff.mp haccepts
        rw [hrun] at hok
        cases hok
      refine ⟨fun _ text hstores => absurd hstores.1 hrefused, fun _ => ?_⟩
      exact (BankOp.run_error_writes hrun).each hbefore nofun
    · have haccepts : op.Accepts bank := BankOp.accepts_iff.mpr ⟨reply, bank', hrun⟩
      constructor
      · intro hafter text hstores
        obtain ⟨id, account, hfound, rfl | rfl⟩ :=
          BankOp.run_ok_profile hrun text hstores.2
        · exact (hafter id account hfound).1
        · exact (hafter id account hfound).2
      · intro hstored
        exact (BankOp.run_ok_writes hrun).each hbefore fun text hmem =>
          hstored text ⟨haccepts, hmem⟩
  | applyMonthlyFee amount clock =>
    refine ⟨fun _ text hstores => hstores.elim, fun _ => ?_⟩
    exact (Bank.chargeFees_writes amount clock bank.accounts.keys bank).each hbefore nofun

end BankCall

end Banck
