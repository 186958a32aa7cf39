/-
Banck.Statement — the statement of all accounts as one text
(`bank_statement_text` in `src/storage.rs`), and what a reader of it finds.

The text is meant to have a line for each account and after it one for each
of its transactions. A line feed in a name or an address breaks that, and
nothing else can: all other parts of a line are numbers, fixed words and the
descriptions of the operations. The checks on a name and an address let a
line feed inside through, so which statements are as they are meant to be is
settled by what the calls were given (`statement_is_laid_out_iff`).
-/
import Banck.BankTexts
import Banck.Storage
import Banck.ParsingTheorems
import Banck.Lib.Lines

namespace Banck

open Lib Text Lines Decimal

/-! ## What a reader finds -/

/-- The lines of a text: each ends with a line feed, or with the text. -/
def textLines (text : String) : List String := (lines '\n' text.toList).map String.ofList

/-- What the statement has for a transaction, without the line feed. -/
def transactionSummary (transaction : Transaction) : String :=
  "  - #" ++ toString transaction.id ++ " | " ++ toString transaction.occurredAtEpochSeconds
    ++ " | " ++ transaction.kind.display ++ " | " ++ transaction.amount.display ++ " | "
    ++ transaction.description

/-- The lines that the statement is meant to have. -/
def statementLines (bank : Bank) : List String :=
  bank.accountList.flatMap fun account =>
    accountSummary account :: account.transactions.map transactionSummary

def IsTransactionLine (line : String) : Bool := "  - #".toList.isPrefixOf line.toList

/-- The statement has one line for each account, with one for each of its
transactions behind it, and no other looks like that of a transaction. -/
structure Bank.LaidOut (bank : Bank) : Prop where
  lines : textLines (bankStatementText bank) = statementLines bank
  length : (textLines (bankStatementText bank)).length =
    bank.accountList.length +
      (bank.accountList.map fun account => account.transactions.length).sum
  marked : (textLines (bankStatementText bank)).filter IsTransactionLine =
    bank.accountList.flatMap fun account => account.transactions.map transactionSummary

theorem length_statementLines (bank : Bank) :
    (statementLines bank).length = bank.accountList.length +
      (bank.accountList.map fun account => account.transactions.length).sum := by
  unfold statementLines
  induction bank.accountList with
  | nil => rfl
  | cons account rest ih =>
    rw [List.flatMap_cons, List.length_append, ih, List.length_cons, List.length_map,
      List.map_cons, List.sum_cons, List.length_cons]
    omega

theorem prefix_append_of_prefix {start text : String} (more : String)
    (h : start.toList <+: text.toList) : start.toList <+: (text ++ more).toList := by
  rw [String.toList_append]
  exact h.trans (List.prefix_append _ _)

theorem isTransactionLine_transactionSummary (transaction : Transaction) :
    IsTransactionLine (transactionSummary transaction) = true := by
  rw [IsTransactionLine, List.isPrefixOf_iff_prefix]
  unfold transactionSummary
  iterate 9 apply prefix_append_of_prefix
  exact List.prefix_refl _

theorem isTransactionLine_accountSummary (account : Account) :
    IsTransactionLine (accountSummary account) = false := by
  have hstart : "ID: ".toList <+: (accountSummary account).toList := by
    unfold accountSummary
    iterate 11 apply prefix_append_of_prefix
    exact List.prefix_refl _
  rw [Bool.eq_false_iff, IsTransactionLine, Ne, List.isPrefixOf_iff_prefix]
  intro hmarked
  have hboth := List.prefix_of_prefix_length_le hstart hmarked (by decide)
  exact absurd hboth (by decide)

theorem filter_statementLines (bank : Bank) :
    (statementLines bank).filter IsTransactionLine =
      bank.accountList.flatMap fun account => account.transactions.map transactionSummary := by
  have hall : ∀ transactions : List Transaction,
      (transactions.map transactionSummary).filter IsTransactionLine =
        transactions.map transactionSummary := by
    intro transactions
    refine List.filter_eq_self.mpr fun line hline => ?_
    obtain ⟨transaction, -, rfl⟩ := List.mem_map.mp hline
    exact isTransactionLine_transactionSummary transaction
  unfold statementLines
  induction bank.accountList with
  | nil => rfl
  | cons account rest ih =>
    rw [List.flatMap_cons, List.filter_append, ih, List.filter_cons,
      isTransactionLine_accountSummary, hall]
    rfl

/-- The text is its lines, each with a line feed behind it. -/
theorem toList_bankStatementText (bank : Bank) :
    (bankStatementText bank).toList =
      terminate '\n' ((statementLines bank).map String.toList) := by
  have hline : ∀ transaction, (transactionLine transaction).toList =
      (transactionSummary transaction).toList ++ ['\n'] := fun _ => String.toList_append
  have hpart : ∀ account : Account,
      (accountSummary account ++ "\n" ++
        String.join (account.transactions.map transactionLine)).toList =
      terminate '\n' ((accountSummary account ::
        account.transactions.map transactionSummary).map String.toList) := by
    intro account
    rw [String.toList_append, String.toList_append, String.toList_join]
    simp [terminate, List.flatMap_map, hline]
  unfold bankStatementText statementLines
  rw [String.toList_join, List.flatMap_map, List.map_flatMap, terminate, List.flatMap_assoc]
  exact congrArg (List.flatMap · bank.accountList) (funext hpart)

/-! ## Texts on one line -/

/-- There is no line feed in the text. -/
def OneLine (text : String) : Prop := '\n' ∉ text.toList

instance (text : String) : Decidable (OneLine text) := inferInstanceAs (Decidable (¬ _))

theorem oneLine_append {a b : String} : OneLine (a ++ b) ↔ OneLine a ∧ OneLine b := by
  unfold OneLine
  rw [String.toList_append, List.mem_append, not_or]

theorem oneLine_toString (n : Nat) : OneLine (toString n) := (isDigits_repr n).ne (by decide)

theorem oneLine_twoDigits {n : Nat} (h : n < 100) : OneLine (twoDigits n) :=
  (twoDigits_spec h).1.ne (by decide)

theorem Money.oneLine_display (m : Money) : OneLine m.display := by
  have hsign : OneLine (if m.cents < 0 then "-" else "") := by split <;> decide
  unfold Money.display
  simp only [oneLine_append]
  exact ⟨⟨⟨hsign, oneLine_toString _⟩, by decide⟩,
    oneLine_twoDigits (Nat.mod_lt _ (by decide))⟩

theorem InterestRate.oneLine_display (rate : InterestRate) : OneLine rate.display := by
  unfold InterestRate.display
  simp only [oneLine_append]
  exact ⟨⟨⟨oneLine_toString _, by decide⟩, oneLine_twoDigits (Nat.mod_lt _ (by decide))⟩,
    by decide⟩

theorem AccountStatus.oneLine_display (status : AccountStatus) : OneLine status.display := by
  cases status <;> decide

theorem TransactionKind.oneLine_display (kind : TransactionKind) : OneLine kind.display := by
  cases kind <;> decide

theorem oneLine_accountSummary {account : Account} :
    OneLine (accountSummary account) ↔ OneLine account.name ∧ OneLine account.email := by
  have hid : OneLine (toString account.id) := oneLine_toString account.id.toNat
  have hlabels : OneLine "ID: " ∧ OneLine ", Name: " ∧ OneLine ", Email: " ∧
      OneLine ", Balance: " ∧ OneLine ", Loan: " ∧ OneLine ", Status: " := by decide
  unfold accountSummary
  simp only [oneLine_append, hid, hlabels, Money.oneLine_display,
    AccountStatus.oneLine_display, true_and, and_true]

theorem oneLine_transactionSummary {transaction : Transaction} :
    OneLine (transactionSummary transaction) ↔ OneLine transaction.description := by
  have hlabels : OneLine "  - #" ∧ OneLine " | " := by decide
  unfold transactionSummary
  simp only [oneLine_append, hlabels, oneLine_toString, Money.oneLine_display,
    TransactionKind.oneLine_display, true_and]

/-- The operations describe a transaction on one line. -/
theorem BankCall.oneLine_descriptions (call : BankCall) :
    ∀ description ∈ call.descriptions, OneLine description := by
  intro description hmem
  cases call with
  | applyMonthlyFee amount clock =>
    rw [List.mem_singleton.mp hmem]
    decide
  | call op =>
    cases op with
    | deleteAccount id => cases hmem
    | transfer fromId toId amount nowOut nowIn =>
      rcases List.mem_cons.mp hmem with rfl | hlast
      · exact oneLine_append.mpr ⟨by decide, oneLine_toString toId.toNat⟩
      · rw [List.mem_singleton.mp hlast]
        exact oneLine_append.mpr ⟨by decide, oneLine_toString fromId.toNat⟩
    | applyInterest id rate now =>
      rw [List.mem_singleton.mp hmem]
      exact oneLine_append.mpr ⟨by decide, rate.oneLine_display⟩
    | _ =>
      rw [List.mem_singleton.mp hmem]
      decide

/-! ## When the statement is laid out -/

theorem laidOut_iff_lines {bank : Bank} :
    bank.LaidOut ↔ ∀ line ∈ statementLines bank, OneLine line := by
  have hlength : (textLines (bankStatementText bank)).length =
      (lines '\n' (terminate '\n' ((statementLines bank).map String.toList))).length := by
    rw [textLines, List.length_map, toList_bankStatementText]
  constructor
  · intro h line hline
    rw [h.length, ← length_statementLines, ← List.length_map String.toList] at hlength
    exact length_lines_terminate_iff.mp hlength.symm line.toList
      (List.mem_map.mpr ⟨line, hline, rfl⟩)
  · intro h
    have hlines : textLines (bankStatementText bank) = statementLines bank := by
      rw [textLines, toList_bankStatementText, lines_terminate, List.map_map]
      · simp [Function.comp_def]
      · intro line hline
        obtain ⟨text, htext, rfl⟩ := List.mem_map.mp hline
        exact h text htext
    refine ⟨hlines, ?_, ?_⟩
    · rw [hlines, length_statementLines]
    · rw [hlines, filter_statementLines]

/-- Every transaction in the bank is described on one line. -/
def Bank.Described (bank : Bank) : Prop :=
  ∀ id, ∀ transaction ∈ bank.history id, OneLine transaction.description

/-- Every account has its name and its address on one line. -/
def Bank.Named (bank : Bank) : Prop :=
  bank.Each fun _ account => OneLine account.name ∧ OneLine account.email

theorem Bank.named_iff {bank : Bank} :
    bank.Named ↔ ∀ account ∈ bank.accountList, OneLine account.name ∧ OneLine account.email := by
  constructor
  · intro h account hmem
    obtain ⟨id, hnamed⟩ := each_mem h hmem
    exact hnamed
  · intro h id account hfound
    exact h account (OrdMap.mem_vals.mpr ⟨id, hfound⟩)

theorem Bank.Described.laidOut_iff {bank : Bank} (h : bank.Described) :
    bank.LaidOut ↔ bank.Named := by
  rw [laidOut_iff_lines, named_iff]
  constructor
  · intro hlines account hmem
    exact oneLine_accountSummary.mp (hlines _
      (List.mem_flatMap.mpr ⟨account, hmem, List.mem_cons_self⟩))
  · intro hnamed line hline
    obtain ⟨account, hmem, hof⟩ := List.mem_flatMap.mp hline
    rcases List.mem_cons.mp hof with rfl | hof
    · exact oneLine_accountSummary.mpr (hnamed account hmem)
    · obtain ⟨transaction, ht, rfl⟩ := List.mem_map.mp hof
      obtain ⟨id, hfound⟩ := OrdMap.mem_vals.mp hmem
      exact oneLine_transactionSummary.mpr
        (h id transaction ((Bank.history_found hfound).symm ▸ ht))

/-! ## Runs -/

/-- Some call of some bank has recorded the transaction. -/
def Recorded (transaction : Transaction) : Prop :=
  ∃ (bank : Bank) (call : BankCall) (id : AccountId),
    transaction ∈ (BankCall.run bank call).2.history id ∧ transaction ∉ bank.history id

/-- An empty bank, or one loaded from a list whose transactions were
recorded by a bank. -/
def Bank.StartedRecorded (bank : Bank) : Prop :=
  bank = Bank.new ∨ ∃ accounts, Bank.fromAccounts accounts = .ok bank ∧
    ∀ account ∈ accounts, ∀ transaction ∈ account.transactions, Recorded transaction

theorem Recorded.oneLine {transaction : Transaction} (h : Recorded transaction) :
    OneLine transaction.description := by
  obtain ⟨bank, call, id, hafter, hbefore⟩ := h
  rcases call.run_history bank id transaction hafter with hold | hnew
  · exact absurd hold hbefore
  · exact call.oneLine_descriptions _ hnew

theorem Bank.StartedRecorded.described {bank : Bank} (h : bank.StartedRecorded) :
    bank.Described := by
  intro id transaction hmem
  rcases h with rfl | ⟨accounts, haccepted, hrecorded⟩
  · simp [Bank.history, Bank.new] at hmem
  · cases hfound : bank.accounts[id]? with
    | none =>
      simp only [Bank.history, hfound] at hmem
      cases hmem
    | some account =>
      rw [Bank.history_found hfound] at hmem
      exact (hrecorded account (mem_of_fromAccounts haccepted hfound).1 transaction hmem).oneLine

theorem Bank.Described.run {bank : Bank} (h : bank.Described) (call : BankCall) :
    (BankCall.run bank call).2.Described := by
  intro id transaction hmem
  rcases call.run_history bank id transaction hmem with hold | hnew
  · exact h id transaction hold
  · exact call.oneLine_descriptions _ hnew

theorem Bank.StartedRecorded.final_described {start : Bank} (h : start.StartedRecorded)
    (calls : List BankCall) : (BankCall.final start calls).Described :=
  Machine.final_invariant BankCall.run (fun _ call hbank => hbank.run call) calls start
    h.described

/-- The name and the address that the operation is given have no line feed
but at the ends. -/
def BankOp.ProfileOnOneLine : BankOp → Prop
  | createAccount _ _ name email _ _ => OneLine (trim name) ∧ OneLine (trim email)
  | updateName _ name _ => OneLine (trim name)
  | updateEmail _ email _ => OneLine (trim email)
  | activateAccount .. | deactivateAccount .. | closeAccount .. | deleteAccount _ | deposit ..
  | withdraw .. | transfer .. | applyFee .. | applyInterest .. | requestLoan .. | payLoan .. =>
      True

theorem BankOp.profileOnOneLine_iff {op : BankOp} :
    op.ProfileOnOneLine ↔ ∀ text ∈ op.profile, OneLine text := by
  have hlower : ∀ email : String, OneLine (toLowercase email) ↔ OneLine email := fun email =>
    not_congr (newline_mem_toLowercase email)
  cases op with
  | createAccount | updateName | updateEmail => simp [ProfileOnOneLine, profile, hlower]
  | _ => simp [ProfileOnOneLine, profile]

/-- If the call is accepted, the name and the address it is given are each
on one line. -/
def BankCall.KeepsLines (bank : Bank) : BankCall → Prop
  | call op => op.Accepts bank → op.ProfileOnOneLine
  | applyMonthlyFee _ _ => True

theorem BankCall.keepsLines_iff {bank : Bank} {call : BankCall} (h : bank.Named) :
    (BankCall.run bank call).2.Named ↔ call.KeepsLines bank := by
  refine (call.run_each_iff h).trans ?_
  cases call with
  | call op =>
    show (∀ text, op.Accepts bank ∧ text ∈ op.profile → OneLine text) ↔
      (op.Accepts bank → op.ProfileOnOneLine)
    rw [BankOp.profileOnOneLine_iff]
    exact ⟨fun hall haccepts text hmem => hall text ⟨haccepts, hmem⟩,
      fun hall text hboth => hall hboth.1 text hboth.2⟩
  | applyMonthlyFee amount clock => exact ⟨fun _ => trivial, fun _ text hno => hno.elim⟩

/-- The statement of a bank is laid out exactly if no name and no address in
it has a line feed. So all statements of a run are, exactly if those that
were loaded have none and no call that is accepted brings one in. -/
theorem statement_is_laid_out_iff (start : Bank) (hstart : start.StartedRecorded)
    (calls : List BankCall) :
    ((BankCall.final start calls).LaidOut ↔
      ∀ account ∈ (BankCall.final start calls).accountList,
        OneLine account.name ∧ OneLine account.email) ∧
    ((∀ earlier, earlier <+: calls → (BankCall.final start earlier).LaidOut) ↔
      (∀ account ∈ start.accountList, OneLine account.name ∧ OneLine account.email) ∧
        Machine.Guarded BankCall.run BankCall.KeepsLines start calls) := by
  constructor
  · rw [(hstart.final_described calls).laidOut_iff, Bank.named_iff]
  · rw [← Bank.named_iff, ← Machine.prefixes_iff BankCall.run fun bank call h =>
      BankCall.keepsLines_iff h]
    exact forall₂_congr fun earlier _ => (hstart.final_described earlier).laidOut_iff

/-- A loaded account whose new name is entered with a line feed behind it. -/
theorem statement_is_laid_out_iff_renamed :
    let created : BankCall := .call (.createAccount 7 none "A" "a@b" ⟨5, by decide⟩ 0)
    let account : Account :=
      ⟨7, none, "A", "a@b", ⟨5, by decide⟩, Money.zero, .active,
        [⟨1, 0, .accountCreated, ⟨5, by decide⟩, "Account created"⟩]⟩
    let start : Bank := ⟨(∅ : OrdMap AccountId Account).insert 7 account, 2⟩
    account.transactions = (BankCall.run Bank.new created).2.history 7 ∧
      (BankCall.final start [.call (.updateName 7 "Bob\n" 3)]).LaidOut := by
  intro created account start
  have hrecorded : ∀ loaded ∈ [account], ∀ transaction ∈ loaded.transactions,
      Recorded transaction := by
    intro loaded hloaded transaction ht
    rw [List.mem_singleton.mp hloaded] at ht
    rw [List.mem_singleton.mp ht]
    exact ⟨Bank.new, created, 7, by decide +kernel, by decide +kernel⟩
  refine ⟨by decide +kernel, ?_⟩
  exact (statement_is_laid_out_iff start (.inr ⟨[account], by decide +kernel, hrecorded⟩)
    [.call (.updateName 7 "Bob\n" 3)]).1.mpr (by decide +kernel)

/-- A name with line feeds inside, and a transaction in the statement that
no account has. -/
theorem statement_is_forged :
    let bank := BankCall.final Bank.new
      [.call (.createAccount 1 none
        "Ann\n  - #9 | 0 | deposit | 900.00 | Money deposited\nBob" "a@b" ⟨0, by decide⟩ 0)]
    Bank.new.StartedRecorded ∧ ¬ bank.LaidOut ∧
      (textLines (bankStatementText bank)).length = 4 ∧
      bank.accountList.length +
        (bank.accountList.map fun account => account.transactions.length).sum = 2 ∧
      "  - #9 | 0 | deposit | 900.00 | Money deposited" ∈ textLines (bankStatementText bank) ∧
      ∀ account ∈ bank.accountList, ∀ transaction ∈ account.transactions,
        transaction.id ≠ 9 := by
  intro bank
  refine ⟨.inl rfl, fun h => ?_, by decide +kernel, by decide +kernel, by decide +kernel,
    by decide +kernel⟩
  exact absurd h.length (by decide +kernel)

end Banck
