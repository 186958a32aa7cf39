/-
Banck.TerminalTurns — how the turns of the loop end.

A turn may be wrong about what it is told as often as it likes, and asks
again. So there are three things to say of it (`terminal_turns`): no
question is a dead end, the menu is at most five answers away; the loop
ends by `exit` at the menu or by a line that cannot be read, and in no
other way, in particular not at the end of the input, which reads as blank
lines for ever; and those blank lines carry out at most the one command
that was begun.
-/
import Banck.TerminalScripts

namespace Banck.Cli

open Lib Machine Dialogue

/-! ## Every question can be answered -/

section Answerable

variable {n : Nat} {prompt : String}

theorem answerable_check {checked : Except String Unit} {next : Dialogue Order}
    (h : Answerable IsAnswer n next) : Answerable IsAnswer n (check checked next) := by
  unfold check
  split
  · exact h
  · exact .done n _

theorem answerable_readText {next : String → Dialogue Order}
    (h : ∀ text, Answerable IsAnswer n (next text)) :
    Answerable IsAnswer (n + 1) (readText prompt next) :=
  .askFor ⟨"", "", isAnswer_of_not_space (by simp), rfl⟩ h

theorem answerable_readId {noun : String} {next : UInt32 → Dialogue Order}
    (h : ∀ id, Answerable IsAnswer n (next id)) :
    Answerable IsAnswer (n + 1) (readId noun prompt next) :=
  .askFor ⟨toString (0 : UInt32), 0, isAnswer_toString 0, by rw [parseU32_toString]; rfl⟩ h

theorem answerable_readMoney {p : Money → Bool} {complaint : String}
    {next : Money → Dialogue Order} (hp : p ⟨1, by decide, by decide⟩ = true)
    (h : ∀ amount, Answerable IsAnswer n (next amount)) :
    Answerable IsAnswer (n + 1) (askFor prompt (parseMoneyWhere p complaint) next) :=
  have hread : Money.fromStr (⟨1, by decide, by decide⟩ : Money).display = some (.ok _) :=
    fromStr_display (by decide)
  .askFor ⟨_, _, isAnswer_display _, parseMoneyWhere_ok_iff.mpr ⟨hread, hp⟩⟩ h

theorem answerable_readPositiveMoney {next : Money → Dialogue Order}
    (h : ∀ amount, Answerable IsAnswer n (next amount)) :
    Answerable IsAnswer (n + 1) (readPositiveMoney prompt next) :=
  answerable_readMoney (by decide) h

end Answerable

/-- After the name of a command at most five answers are asked for. -/
theorem Starts.answerable {state : CliState} {dialogue : Dialogue Order}
    (h : Starts state dialogue) : Answerable IsAnswer 5 dialogue := by
  have hmanage : ∀ next : AccountId → Dialogue Order,
      (∀ id, Answerable IsAnswer 4 (next id)) →
        Answerable IsAnswer 5 (manageDialogue state next) := fun next h =>
    answerable_check (answerable_readId h)
  have hfile : ∀ (permission : Permission) (prompt : String) (command : String → Command),
      Answerable IsAnswer 5 (fileDialogue state permission prompt command) :=
    fun permission prompt command => answerable_check (answerable_readText fun path => .done 4 _)
  have hload : ∀ (prompt : String) (command : String → Command),
      Answerable IsAnswer 5 (loadDialogue state prompt command) := by
    intro prompt command
    unfold loadDialogue
    split
    · exact hfile _ _ _
    · exact answerable_readText fun path => .done 4 _
  cases h with
  | bootstrapAdmin =>
    unfold bootstrapAdminDialogue
    split
    · exact .done 5 _
    · exact answerable_readId fun id => answerable_readText fun username =>
        answerable_readText fun password => .done 2 _
  | login =>
    exact answerable_readText fun username => answerable_readText fun password => .done 3 _
  | logout | session | list | nothing => exact .done 5 _
  | createCustomer =>
    exact answerable_check (answerable_readId fun id => answerable_readText fun fullName =>
      answerable_readText fun email => .done 2 _)
  | createUser =>
    refine answerable_check (answerable_readId fun id => answerable_readText fun username =>
      .askFor ⟨_, _, (isPlain_roleText .teller).isAnswer, parseRole_roleText .teller⟩
        fun role => ?_)
    dsimp only
    split
    · exact answerable_readId fun linkedCustomerId => answerable_readText fun password => .done 0 _
    · exact answerable_readText fun password => .done 1 _
  | create =>
    exact answerable_check (answerable_readId fun id =>
      .askFor ⟨"", none, isAnswer_of_not_space (by simp), rfl⟩ fun ownerId =>
        answerable_check (answerable_readText fun name => answerable_readText fun email =>
          answerable_readMoney (by decide) fun openingBalance => .done 0 _))
  | updateName | updateEmail => exact hmanage _ fun id => answerable_readText fun text => .done 3 _
  | activate | deactivate | close | delete => exact hmanage _ fun id => .done 4 _
  | deposit | withdraw | payLoan =>
    exact answerable_readId fun id => answerable_check (answerable_readPositiveMoney fun amount =>
      .done 3 _)
  | transfer =>
    exact answerable_readId fun fromId => answerable_check (answerable_readId fun toId =>
      answerable_readPositiveMoney fun amount => .done 2 _)
  | fee | loanRequest =>
    exact answerable_check (answerable_readId fun id => answerable_readPositiveMoney fun amount =>
      .done 3 _)
  | monthlyFee => exact answerable_check (answerable_readPositiveMoney fun amount => .done 4 _)
  | interest =>
    exact answerable_check (answerable_readId fun id =>
      .askFor ⟨_, ⟨1⟩, isAnswer_of_isSigned (rateText_isSigned ⟨1⟩),
        parsePositiveInterestRate_ok_iff.mpr ⟨fromStr_rateText ⟨1⟩, by decide⟩⟩ fun rate =>
          .done 3 _)
  | balance | info | history => exact answerable_readId fun id => answerable_check (.done 4 _)
  | audit | listCustomers | listUsers | totalBalance | richest | emptyAccounts | count =>
    exact answerable_check (.done 5 _)
  | save | saveSqlite | exportStatement => exact hfile _ _ _
  | load | loadSqlite => exact hload _ _

theorem dispatch_answerable (state : CliState) (line : String) :
    Answerable IsAnswer 5 (dispatch state line) := by
  by_cases hexit : line = "exit"
  · rw [hexit, dispatch_exit]
    exact .done 5 _
  · exact (starts_dispatch state hexit).answerable

/-! ## The loop -/

section Turns

variable {argon2 : Argon2} {json : SerdeJson}

def Terminal.AtMenu (terminal : Terminal) : Prop :=
  terminal.open? = some (mainMenu terminal.state)

/-- The menu is open, or a question from which it is five answers away. -/
def Terminal.Returns (terminal : Terminal) : Prop :=
  ∀ dialogue ∈ terminal.open?, dialogue = mainMenu terminal.state ∨
    Answerable IsAnswer 5 dialogue ∧ ∃ prompt answer, dialogue = ask prompt answer

theorem Terminal.new_returns : Terminal.new.Returns := by
  rintro dialogue ⟨⟩
  exact .inl rfl

theorem Terminal.step_returns (terminal : Terminal) (input : CliEnv × Reading)
    (h : terminal.Returns) : (terminal.step argon2 json input).2.Returns := by
  obtain ⟨env, reading⟩ := input
  obtain ⟨state, open?⟩ := terminal
  cases open? with
  | none => exact h
  | some dialogue =>
    cases reading with
    | failed => rintro open? ⟨⟩
    | line line =>
      have hanswerable : Answerable IsAnswer 5 (dialogue.hear (Text.trim line.text)).2 := by
        rcases h dialogue rfl with hmenu | hopen
        · rw [hmenu, mainMenu_hear]
          dsimp only
          exact dispatch_answerable _ _
        · exact hopen.1.hear _
      unfold step
      dsimp only
      revert hanswerable
      rcases dialogue.hear (Text.trim line.text) with ⟨complaints, rest⟩
      intro hanswerable
      cases rest with
      | ask prompt answer =>
        rintro open? ⟨⟩
        exact .inr ⟨hanswerable, prompt, answer, rfl⟩
      | done order =>
        cases order with
        | exit => rintro open? ⟨⟩
        | nothing | view | change =>
          rintro open? ⟨⟩
          exact .inl rfl

/-- A turn that ends in something allowed is followed by the next. -/
theorem Terminal.conclude_atMenu {state : CliState} {order : Order} (h : order.Allowed state)
    (env : CliEnv) : (conclude argon2 json env state order).2.AtMenu := by
  cases order with
  | exit => exact h.elim
  | nothing | view | change => rfl

/-- From an open question the menu can be reached. -/
theorem Terminal.exists_return {terminal : Terminal} (hreads : terminal.Reads)
    (hreturns : terminal.Returns) (hopen : terminal.open? ≠ none) (env : CliEnv) :
    ∃ lines : List (CliEnv × Line), lines.length ≤ 5 ∧ (∀ input ∈ lines, input.1 = env) ∧
      (final (Terminal.step argon2 json) terminal (lines.map typed)).AtMenu := by
  obtain ⟨state, open?⟩ := terminal
  obtain ⟨dialogue, rfl⟩ := Option.ne_none_iff_exists'.mp hopen
  have hatMenu : dialogue = mainMenu state → Terminal.AtMenu ⟨state, some dialogue⟩ :=
    fun hmenu => congrArg some hmenu
  rcases hreturns dialogue rfl with hmenu | ⟨hanswerable, prompt, answer, hask⟩
  · exact ⟨[], Nat.zero_le 5, by simp, hatMenu hmenu⟩
  rcases hreads dialogue rfl with hmenu | halways
  · exact ⟨[], Nat.zero_le 5, by simp, hatMenu hmenu⟩
  obtain ⟨texts, order, hlength, hanswers, htakes⟩ := hanswerable.takes
  have hallowed : order.Allowed state := always_done.mp (halways.takes htakes hanswers)
  have hne : texts ≠ [] := by
    rintro rfl
    rw [hask] at htakes
    cases htakes
  refine ⟨linesOf env texts hanswers, ?_, ?_, ?_⟩
  · rwa [linesOf, List.length_pmap]
  · intro input hinput
    obtain ⟨text, -, rfl⟩ := List.mem_pmap.mp hinput
    rfl
  · rw [(typing_concludes htakes hne hanswers state env).2]
    exact conclude_atMenu hallowed env

/-! ## The end of the loop -/

/-- The readings that end the loop: `exit` at the menu, and one that fails. -/
def Terminal.EndsWith (terminal : Terminal) : Reading → Prop
  | .failed => True
  | .line line => terminal.AtMenu ∧ Text.toLowercase (Text.trim line.text) = "exit"

theorem Terminal.step_closed {terminal : Terminal} (h : terminal.open? = none)
    (input : CliEnv × Reading) : terminal.step argon2 json input = (⟨[], none⟩, terminal) := by
  unfold step
  rw [h]

/-- Nothing else closes the loop. -/
theorem Terminal.step_closes_iff {terminal : Terminal} (hreads : terminal.Reads)
    (hopen : terminal.open? ≠ none) (input : CliEnv × Reading) :
    (terminal.step argon2 json input).2.open? = none ↔ terminal.EndsWith input.2 := by
  obtain ⟨env, reading⟩ := input
  obtain ⟨state, open?⟩ := terminal
  obtain ⟨dialogue, rfl⟩ := Option.ne_none_iff_exists'.mp hopen
  cases reading with
  | failed => exact iff_of_true rfl trivial
  | line line =>
    constructor
    · intro hclosed
      rcases hear_always hreads line with ⟨hmenu, hexit⟩ | halways
      · exact ⟨congrArg some hmenu, hexit⟩
      · exfalso
        unfold step at hclosed
        dsimp only at hclosed
        revert halways hclosed
        rcases dialogue.hear (Text.trim line.text) with ⟨complaints, rest⟩
        intro hclosed halways
        cases rest with
        | ask prompt answer => cases hclosed
        | done order =>
          have hatMenu : (conclude argon2 json env state order).2.AtMenu :=
            conclude_atMenu (always_done.mp halways) env
          rw [Terminal.AtMenu, hclosed] at hatMenu
          cases hatMenu
    · rintro ⟨hmenu, hexit⟩
      obtain rfl : dialogue = mainMenu state := Option.some.inj hmenu
      simp only [step, mainMenu_hear, hexit, dispatch_exit, conclude]

theorem Terminal.final_closed {terminal : Terminal} (h : terminal.open? = none) :
    ∀ readings : List (CliEnv × Reading),
      final (Terminal.step argon2 json) terminal readings = terminal
  | [] => rfl
  | input :: rest => by
      rw [final_cons, step_closed h]
      exact final_closed h rest

/-- A run closes the loop exactly if there is such a reading in it. -/
theorem Terminal.final_closes_iff (readings : List (CliEnv × Reading)) :
    ∀ {terminal : Terminal}, terminal.Reads → terminal.open? ≠ none →
      ((final (Terminal.step argon2 json) terminal readings).open? = none ↔
        ∃ before input after, readings = before ++ input :: after ∧
          (final (Terminal.step argon2 json) terminal before).EndsWith input.2) := by
  induction readings with
  | nil =>
    intro terminal _ hopen
    simp [hopen]
  | cons input rest ih =>
    intro terminal hreads hopen
    rw [final_cons]
    have hnext : (terminal.step argon2 json input).2.Reads := (step_runs terminal input hreads).1
    by_cases hcloses : (terminal.step argon2 json input).2.open? = none
    · rw [final_closed hcloses]
      have hends : terminal.EndsWith input.2 := (step_closes_iff hreads hopen input).mp hcloses
      exact iff_of_true hcloses ⟨[], input, rest, rfl, hends⟩
    · rw [ih hnext hcloses]
      constructor
      · rintro ⟨before, last, after, rfl, hends⟩
        exact ⟨input :: before, last, after, rfl, hends⟩
      · rintro ⟨before, last, after, hreadings, hends⟩
        cases before with
        | nil =>
          obtain ⟨rfl, rfl⟩ := List.cons.inj hreadings
          exact absurd ((step_closes_iff hreads hopen input).mpr hends) hcloses
        | cons first before =>
          obtain ⟨rfl, rfl⟩ := List.cons.inj hreadings
          exact ⟨before, last, after, rfl, hends⟩

/-! ## Blank lines -/

theorem clean_blank : Text.toLowercase (Text.trim "") = "" := rfl

/-- A command is carried out at the end of a turn. -/
theorem Terminal.atMenu_of_performed {terminal : Terminal} {input : CliEnv × Reading}
    (h : (terminal.step argon2 json input).1.performed ≠ none) :
    (terminal.step argon2 json input).2.AtMenu := by
  obtain ⟨env, reading⟩ := input
  obtain ⟨state, open?⟩ := terminal
  cases open? with
  | none => exact absurd rfl h
  | some dialogue =>
    cases reading with
    | failed => exact absurd rfl h
    | line line =>
      unfold step at h ⊢
      dsimp only at h ⊢
      revert h
      rcases dialogue.hear (Text.trim line.text) with ⟨complaints, rest⟩
      intro h
      cases rest with
      | ask prompt answer => exact absurd rfl h
      | done order =>
        cases order with
        | change command => rfl
        | nothing | view | exit => exact absurd rfl h

theorem Terminal.step_blank {terminal : Terminal} (h : terminal.AtMenu)
    {input : CliEnv × Line} (hblank : input.2.text = "") :
    (terminal.step argon2 json (typed input)).1.performed = none ∧
      (terminal.step argon2 json (typed input)).2.AtMenu := by
  obtain ⟨state, open?⟩ := terminal
  obtain rfl : open? = some (mainMenu state) := h
  simp only [step, typed, mainMenu_hear, hblank, clean_blank]
  exact ⟨rfl, rfl⟩

/-- Blank lines leave the loop open and carry out one command at most, none
if they begin at the menu. -/
theorem Terminal.final_blank (blanks : List (CliEnv × Line))
    (hblank : ∀ input ∈ blanks, input.2.text = "") :
    ∀ {terminal : Terminal}, terminal.Reads → terminal.open? ≠ none →
      (final (Terminal.step argon2 json) terminal (blanks.map typed)).open? ≠ none ∧
      ((outputs (Terminal.step argon2 json) terminal (blanks.map typed)).filterMap
        Shown.performed).length ≤ 1 ∧
      (terminal.AtMenu → (outputs (Terminal.step argon2 json) terminal
        (blanks.map typed)).filterMap Shown.performed = []) := by
  induction blanks with
  | nil => exact fun _ hopen => ⟨hopen, Nat.zero_le 1, fun _ => rfl⟩
  | cons input rest ih =>
    intro terminal hreads hopen
    obtain ⟨hhere, hmore⟩ := List.forall_mem_cons.mp hblank
    have hstays : (terminal.step argon2 json (typed input)).2.open? ≠ none := by
      intro hcloses
      obtain ⟨-, hexit⟩ : terminal.AtMenu ∧ Text.toLowercase (Text.trim input.2.text) = "exit" :=
        (step_closes_iff hreads hopen (typed input)).mp hcloses
      rw [hhere, clean_blank] at hexit
      exact absurd hexit (by decide)
    obtain ⟨hopen', hfew, hnone⟩ := ih hmore (step_runs terminal (typed input) hreads).1 hstays
    rw [List.map_cons, final_cons, filterMap_outputs_cons]
    refine ⟨hopen', ?_, fun hmenu => ?_⟩
    · cases hperformed : (terminal.step argon2 json (typed input)).1.performed with
      | none => exact hfew
      | some performed =>
        have hmenu : (terminal.step argon2 json (typed input)).2.AtMenu :=
          atMenu_of_performed (by rw [hperformed]; exact Option.some_ne_none _)
        rw [hnone hmenu]
        exact le_rfl
    · obtain ⟨hperformed, hmenu'⟩ :
          (terminal.step argon2 json (typed input)).1.performed = none ∧
            (terminal.step argon2 json (typed input)).2.AtMenu := step_blank hmenu hhere
      rw [hperformed, hnone hmenu']
      rfl

/-- Whatever was read: the loop is over exactly if there was an `exit` at
the menu or a reading failed. If it is not, the menu is at most five lines
away, and blank lines, as many as there may be, leave it open and carry out
one command at most. -/
theorem terminal_turns (argon2 : Argon2) (json : SerdeJson)
    (readings : List (CliEnv × Reading)) :
    let terminal := final (Terminal.step argon2 json) Terminal.new readings
    (terminal.open? = none ↔ ∃ before input after, readings = before ++ input :: after ∧
      (final (Terminal.step argon2 json) Terminal.new before).EndsWith input.2) ∧
    (terminal.open? ≠ none →
      (∀ env, ∃ more : List (CliEnv × Line), more.length ≤ 5 ∧
        (∀ input ∈ more, input.1 = env) ∧
        (final (Terminal.step argon2 json) terminal (more.map typed)).AtMenu) ∧
      ∀ blanks : List (CliEnv × Line), (∀ input ∈ blanks, input.2.text = "") →
        (final (Terminal.step argon2 json) terminal (blanks.map typed)).open? ≠ none ∧
        ((outputs (Terminal.step argon2 json) terminal (blanks.map typed)).filterMap
          Shown.performed).length ≤ 1) := by
  intro terminal
  have hreads : terminal.Reads :=
    final_invariant _ (fun t i h => (Terminal.step_runs t i h).1) readings _ Terminal.new_reads
  have hreturns : terminal.Returns :=
    final_invariant _ (fun t i h => Terminal.step_returns t i h) readings _ Terminal.new_returns
  refine ⟨Terminal.final_closes_iff readings Terminal.new_reads (by simp [Terminal.new]), ?_⟩
  intro hopen
  refine ⟨fun env => Terminal.exists_return hreads hreturns hopen env, fun blanks hblank => ?_⟩
  obtain ⟨hstays, hfew, -⟩ := Terminal.final_blank blanks hblank hreads hopen
  exact ⟨hstays, hfew⟩

end Turns

end Banck.Cli
