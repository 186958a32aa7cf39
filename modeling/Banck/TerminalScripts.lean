/-
Banck.TerminalScripts — every command can be typed, and what it takes.

`keystrokes` are the lines for a command: its name, and its parameters as
the program itself prints them. The readers read them back
(`takes_keystrokes`), so a sequence of commands is what some lines come to
exactly if each is allowed when its turn comes and has parameters that a
line can hold (`typed_iff`): nothing is out of reach at the terminal, and
nothing else is in it.
-/
import Banck.TerminalRun

namespace Banck.Cli

open Lib Machine Dialogue Decimal

/-! ## The lines of a command -/

/-- A rate without its percent sign. -/
def rateText (rate : InterestRate) : String :=
  toString (rate.basisPoints.toNat / 100) ++ "." ++ twoDigits (rate.basisPoints.toNat % 100)

def roleText : Role → String
  | .customer => "customer"
  | .teller => "teller"
  | .admin => "admin"

def Command.menuWord : Command → String
  | bootstrapAdmin .. => "bootstrap_admin"
  | login .. => "login"
  | logout => "logout"
  | createCustomer .. => "create_customer"
  | createUser .. => "create_user"
  | create .. => "create"
  | updateName .. => "update_name"
  | updateEmail .. => "update_email"
  | activate _ => "activate"
  | deactivate _ => "deactivate"
  | close _ => "close"
  | delete _ => "delete"
  | deposit .. => "deposit"
  | withdraw .. => "withdraw"
  | transfer .. => "transfer"
  | fee .. => "fee"
  | monthlyFee _ => "monthly_fee"
  | interest .. => "interest"
  | loanRequest .. => "loan_request"
  | payLoan .. => "pay_loan"
  | save _ => "save"
  | load _ => "load"
  | saveSqlite _ => "save_sqlite"
  | loadSqlite _ => "load_sqlite"
  | exportStatement _ => "export"
  | print => ""

def Command.answers : Command → List String
  | bootstrapAdmin id username password => [toString id, username, password]
  | login username password => [username, password]
  | logout | print => []
  | createCustomer id fullName email => [toString id, fullName, email]
  | createUser id username role linkedCustomerId password =>
      [toString id, username, roleText role]
        ++ (if role = .customer then [toString linkedCustomerId] else []) ++ [password]
  | create id ownerId name email openingBalance =>
      [toString id, (ownerId.map toString).getD "", name, email, openingBalance.display]
  | updateName id text | updateEmail id text => [toString id, text]
  | activate id | deactivate id | close id | delete id => [toString id]
  | deposit id amount | withdraw id amount | fee id amount | loanRequest id amount
  | payLoan id amount => [toString id, amount.display]
  | transfer fromId toId amount => [toString fromId, toString toId, amount.display]
  | monthlyFee amount => [amount.display]
  | interest id rate => [toString id, rateText rate]
  | save path | load path | saveSqlite path | loadSqlite path | exportStatement path => [path]

def Command.keystrokes (command : Command) : List String := command.menuWord :: command.answers

/-! ## Reading back what is printed -/

theorem isAnswer_of_not_space {text : String}
    (h : ∀ c ∈ text.toList, Unicode.isWhitespace c = false) : IsAnswer text := by
  refine ⟨?_, fun hfeed => ?_⟩
  · rw [Text.trim, Text.trimChars_of_trimmed ⟨fun c hc => h c (List.mem_of_mem_head? hc),
      fun c hc => h c (List.mem_of_mem_getLast? hc)⟩, String.ofList_toList]
  · exact absurd (h _ hfeed) (by decide)

theorem isAnswer_of_isSigned {text : String} {w f : List Char} {negative : Bool}
    (h : IsSigned 2 text.toList negative w f) : IsAnswer text :=
  isAnswer_of_not_space fun _ hc => isSigned_not_space h hc

theorem toString_toList (id : UInt32) : (toString id).toList = id.toNat.repr.toList := rfl

theorem isAnswer_toString (id : UInt32) : IsAnswer (toString id) := by
  have hsigned : IsSigned 2 (toString id).toList false id.toNat.repr.toList [] :=
    ⟨_, ⟨.inl ⟨rfl, rfl⟩, isDigits_repr _, by simp [IsDigits], by simp⟩, .inr ⟨rfl, .inl rfl⟩⟩
  exact isAnswer_of_isSigned hsigned

theorem parseU32_toString (id : UInt32) : parseU32 (toString id) = some id := by
  have hlt := id.toNat_lt
  have hread : parseInt 0 u32Max id.toNat.repr.toList = some (id.toNat : Int) := by
    rw [parseInt_digits (by decide) (by decide) (repr_ne_nil _) (isDigits_repr _), value_repr]
    exact ⟨rfl, by simp only [u32Max]; omega⟩
  rw [parseU32, toString_toList, hread]
  simp

theorem isAnswer_display (amount : Money) : IsAnswer amount.display :=
  isAnswer_of_isSigned amount.display_isSigned

/-- An amount that is not negative is read back. -/
theorem fromStr_display {amount : Money} (h : Money.zero ≤ amount) :
    Money.fromStr amount.display = some (.ok amount) := by
  have hrange := amount.inRange
  have hnonneg : 0 ≤ amount.cents := h
  rw [Money.fromStr_ok_iff, (isAnswer_display amount).trimmed]
  refine ⟨_, _, _, amount.display_isSigned, by simp, ?_, ?_⟩
  · rw [hundredths_printed]
    omega
  · rw [hundredths_printed, if_neg (by simpa using hnonneg)]
    omega

theorem rateText_isSigned (rate : InterestRate) :
    IsSigned 2 (rateText rate).toList false (rate.basisPoints.toNat / 100).repr.toList
      (twoDigits (rate.basisPoints.toNat % 100)).toList :=
  ⟨_, isUnsigned_printed rate.basisPoints.toNat, .inr ⟨rfl, .inl (by simp [rateText])⟩⟩

theorem fromStr_rateText (rate : InterestRate) :
    InterestRate.fromStr (rateText rate) = some (.ok rate) := by
  have hlt := rate.basisPoints.toNat_lt
  rw [InterestRate.fromStr_ok_iff, (isAnswer_of_isSigned (rateText_isSigned rate)).trimmed]
  refine ⟨_, _, rateText_isSigned rate, repr_ne_nil _, ?_, (hundredths_printed _).symm⟩
  rw [hundredths_printed]
  simp only [u32Max]
  omega

/-- The names of commands and roles are: between the capital letters and the
end of ASCII. -/
def IsPlain (text : String) : Prop := ∀ c ∈ text.toList, 0x5A < c.toNat ∧ c.toNat < 0x80

theorem isPlain_menuWord (command : Command) : IsPlain command.menuWord := by
  cases command <;> simp [IsPlain, Command.menuWord]

theorem isPlain_roleText (role : Role) : IsPlain (roleText role) := by
  cases role <;> simp [IsPlain, roleText]

theorem IsPlain.isAnswer {text : String} (h : IsPlain text) : IsAnswer text := by
  refine isAnswer_of_not_space fun c hc => ?_
  have hplain := h c hc
  exact Unicode.printable_not_space (by omega)

theorem IsPlain.toLowercase {text : String} (h : IsPlain text) :
    Text.toLowercase text = text := by
  rw [Text.toLowercase, Text.lowerChars_of_fixed, String.ofList_toList]
  intro c hc before rest
  have hplain := h c hc
  have hsigma : c ≠ 'Σ' := by
    rintro rfl
    exact absurd hplain.2 (by decide)
  rw [Text.lowerAt, if_neg hsigma]
  exact Unicode.toLower_fixed_of_ascii hplain.2 (.inr hplain.1)

theorem parseRole_roleText (role : Role) : parseRole (roleText role) = .ok role := by
  rw [parseRole, (isPlain_roleText role).toLowercase]
  cases role <;> rfl

/-! ## Answering the questions -/

section Takes

variable {prompt : String} {lines : List String} {last : Dialogue Order}

theorem takes_readText {text : String} {next : String → Dialogue Order}
    (more : Takes (next text) lines last) : Takes (readText prompt next) (text :: lines) last :=
  .askFor rfl more

theorem takes_readId {noun : String} {id : UInt32} {next : UInt32 → Dialogue Order}
    (more : Takes (next id) lines last) :
    Takes (readId noun prompt next) (toString id :: lines) last :=
  .askFor (by rw [parseU32_toString]; rfl) more

theorem takes_readOptionalCustomerId {ownerId : Option CustomerId}
    {next : Option CustomerId → Dialogue Order} (more : Takes (next ownerId) lines last) :
    Takes (readOptionalCustomerId prompt next) ((ownerId.map toString).getD "" :: lines) last := by
  refine .askFor ?_ more
  cases ownerId with
  | none => rfl
  | some id =>
    have hne : toString id ≠ "" := fun h =>
      repr_ne_nil id.toNat ((toString_toList id).symm.trans (by rw [h]; rfl))
    rw [Option.map_some, Option.getD_some, parseOptionalCustomerId, if_neg hne,
      parseU32_toString]

theorem takes_readMoney {p : Money → Bool} {complaint : String} {amount : Money}
    {next : Money → Dialogue Order} (hnonneg : Money.zero ≤ amount) (hp : p amount = true)
    (more : Takes (next amount) lines last) :
    Takes (askFor prompt (parseMoneyWhere p complaint) next) (amount.display :: lines) last :=
  .askFor (parseMoneyWhere_ok_iff.mpr ⟨fromStr_display hnonneg, hp⟩) more

theorem takes_readPositiveMoney {amount : Money} {next : Money → Dialogue Order}
    (hpositive : Money.zero < amount) (more : Takes (next amount) lines last) :
    Takes (readPositiveMoney prompt next) (amount.display :: lines) last :=
  takes_readMoney (Int.le_of_lt hpositive) (decide_eq_true hpositive) more

theorem takes_check {checked : Except String Unit} {next : Dialogue Order}
    (h : checked = .ok ()) (more : Takes next lines last) :
    Takes (check checked next) lines last := by
  subst h
  exact more

end Takes

/-- The keystrokes of an allowed command answer what it asks. -/
theorem takes_keystrokes {state : CliState} {command : Command} (hallowed : command.Allowed state)
    (hspeakable : command.Speakable) :
    Takes (mainMenu state) command.keystrokes (done (.change command)) := by
  have hpermit : ∀ {permission : Permission}, authorize state.session permission = true →
      permit state.session permission = .ok () := permit_ok_iff.mpr
  have hmoney : ∀ {id : AccountId},
      authorizeAccountMoneyOperation state.app state.session id = true →
        permitAccountMoneyOperation state id = .ok () := permitAccountAccess_ok_iff.mpr
  have hload : ∀ (prompt path : String) (command : String → Command),
      (state.session.isSome = true → authorize state.session .persistState = true) →
      Takes (loadDialogue state prompt command) [path] (done (.change (command path))) := by
    intro prompt path command h
    unfold loadDialogue
    split
    · next hsome => exact takes_check (hpermit (h hsome)) (takes_readText (.nil _))
    · exact takes_readText (.nil _)
  refine .askFor (congrArg _ (isPlain_menuWord command).toLowercase) ?_
  cases command with
  | bootstrapAdmin id username password =>
    show Takes (bootstrapAdminDialogue state) _ _
    rw [bootstrapAdminDialogue, hallowed, if_neg Bool.false_ne_true]
    exact takes_readId (takes_readText (takes_readText (.nil _)))
  | login username password => exact takes_readText (takes_readText (.nil _))
  | logout => exact .nil _
  | createCustomer id fullName email =>
    exact takes_check (hpermit hallowed) (takes_readId (takes_readText (takes_readText (.nil _))))
  | createUser id username role linkedCustomerId password =>
    refine takes_check (hpermit hallowed) (takes_readId (takes_readText
      (.askFor (parseRole_roleText role) ?_)))
    by_cases hrole : role = .customer
    · rw [if_pos hrole, if_pos hrole]
      exact takes_readId (takes_readText (.nil _))
    · rw [if_neg hrole, if_neg hrole, hspeakable.2.2 hrole]
      exact takes_readText (.nil _)
  | create id ownerId name email openingBalance =>
    exact takes_check (hpermit hallowed.1) (takes_readId (takes_readOptionalCustomerId
      (takes_check (findOwner_ok_iff.mpr hallowed.2) (takes_readText (takes_readText
        (takes_readMoney hspeakable.2.2 (decide_eq_true hspeakable.2.2) (.nil _)))))))
  | updateName | updateEmail =>
    exact takes_check (hpermit hallowed) (takes_readId (takes_readText (.nil _)))
  | activate | deactivate | close | delete =>
    exact takes_check (hpermit hallowed) (takes_readId (.nil _))
  | deposit | withdraw | payLoan =>
    exact takes_readId (takes_check (hmoney hallowed)
      (takes_readPositiveMoney hspeakable (.nil _)))
  | transfer fromId toId amount =>
    exact takes_readId (takes_check (hmoney hallowed)
      (takes_readId (takes_readPositiveMoney hspeakable (.nil _))))
  | fee | loanRequest =>
    exact takes_check (hpermit hallowed)
      (takes_readId (takes_readPositiveMoney hspeakable (.nil _)))
  | monthlyFee amount =>
    exact takes_check (hpermit hallowed) (takes_readPositiveMoney hspeakable (.nil _))
  | interest id rate =>
    exact takes_check (hpermit hallowed) (takes_readId
      (.askFor (parsePositiveInterestRate_ok_iff.mpr ⟨fromStr_rateText rate, hspeakable⟩) (.nil _)))
  | save | saveSqlite | exportStatement =>
    exact takes_check (hpermit hallowed) (takes_readText (.nil _))
  | load | loadSqlite => exact hload _ _ _ hallowed
  | print => exact hspeakable.elim

theorem Command.keystrokes_isAnswer {command : Command} (hspeakable : command.Speakable) :
    ∀ text ∈ command.keystrokes, IsAnswer text := by
  have hrate : ∀ rate, IsAnswer (rateText rate) := fun rate =>
    isAnswer_of_isSigned (rateText_isSigned rate)
  have hrole : ∀ role, IsAnswer (roleText role) := fun role => (isPlain_roleText role).isAnswer
  have hblank : IsAnswer "" := isAnswer_of_not_space (by simp)
  refine List.forall_mem_cons.mpr ⟨(isPlain_menuWord command).isAnswer, ?_⟩
  cases command with
  | createUser id username role linkedCustomerId password =>
    obtain ⟨husername, hpassword, -⟩ := hspeakable
    simp only [answers, List.forall_mem_append, List.forall_mem_cons, List.not_mem_nil,
      false_imp_iff, implies_true, and_true]
    refine ⟨⟨⟨isAnswer_toString id, husername, hrole role⟩, ?_⟩, hpassword⟩
    split
    · simpa using isAnswer_toString linkedCustomerId
    · simp
  | create id ownerId name email openingBalance =>
    obtain ⟨hname, hemail, -⟩ := hspeakable
    have howner : IsAnswer ((ownerId.map toString).getD "") := by
      cases ownerId with
      | none => exact hblank
      | some ownerId => exact isAnswer_toString ownerId
    simp [answers, isAnswer_toString, isAnswer_display, howner, hname, hemail]
  | bootstrapAdmin | login | createCustomer =>
    obtain ⟨hfirst, hsecond⟩ := hspeakable
    simp [answers, isAnswer_toString, hfirst, hsecond]
  | updateName | updateEmail | save | load | saveSqlite | loadSqlite | exportStatement =>
    have htext : IsAnswer _ := hspeakable
    simp [answers, isAnswer_toString, htext]
  | _ => simp [answers, isAnswer_toString, isAnswer_display, hrate]

/-! ## Typing commands -/

section Typed

variable {argon2 : Argon2} {json : SerdeJson}

/-- The lines with these texts. -/
def linesOf (env : CliEnv) (texts : List String) (h : ∀ text ∈ texts, IsAnswer text) :
    List (CliEnv × Line) :=
  texts.pmap (fun text h => (env, ⟨text, h.oneLine⟩)) h

/-- The answers to all that is asked bring the turn to its end. -/
theorem typing_concludes {dialogue : Dialogue Order} {texts : List String} {order : Order}
    (h : Takes dialogue texts (done order)) (hne : texts ≠ [])
    (hanswers : ∀ text ∈ texts, IsAnswer text) (state : CliState) (env : CliEnv) :
    let readings := (linesOf env texts hanswers).map typed
    (outputs (Terminal.step argon2 json) ⟨state, some dialogue⟩ readings).filterMap
        Shown.performed = (Terminal.conclude argon2 json env state order).1.performed.toList ∧
      final (Terminal.step argon2 json) ⟨state, some dialogue⟩ readings =
        (Terminal.conclude argon2 json env state order).2 := by
  generalize hlast : done order = last at h
  induction h with
  | nil => exact absurd rfl hne
  | @cons prompt line texts answer rest last accepted more ih =>
    subst hlast
    have hheard : (ask prompt answer).hear (Text.trim line) = ([], rest) := by
      rw [(hanswers line (by simp)).trimmed]
      exact hear_ok accepted
    cases rest with
    | done order =>
      -- the last answer
      cases more with
      | nil =>
        simp only [linesOf, List.pmap_cons, List.pmap_nil, List.map_cons, List.map_nil, typed,
          filterMap_outputs_cons, final_cons, Terminal.step, hheard]
        exact ⟨List.append_nil _, rfl⟩
    | ask prompt' answer' =>
      have hmore : texts ≠ [] := by
        rintro rfl
        cases more
      have hstep : ∀ hline : OneLine line,
          Terminal.step argon2 json ⟨state, some (ask prompt answer)⟩
              (typed (env, ⟨line, hline⟩)) =
            (⟨[prompt'], none⟩, ⟨state, some (ask prompt' answer')⟩) := by
        intro hline
        simp [typed, Terminal.step, hheard]
      obtain ⟨hperformed, hfinal⟩ := ih hmore (fun text hmem => hanswers text (by simp [hmem])) rfl
      simp only [linesOf, List.pmap_cons, List.map_cons, outputs_cons, final_cons, hstep]
      exact ⟨hperformed, hfinal⟩

/-- An allowed command can be typed at the menu. -/
theorem exists_lines {state : CliState} {input : CliEnv × Command} (h : CanType state input) :
    ∃ lines : List (CliEnv × Line),
      let after := (Cli.step argon2 json state input).2
      (outputs (Terminal.step argon2 json) ⟨state, some (mainMenu state)⟩
          (lines.map typed)).filterMap Shown.performed = [input] ∧
        final (Terminal.step argon2 json) ⟨state, some (mainMenu state)⟩ (lines.map typed) =
          ⟨after, some (mainMenu after)⟩ := by
  obtain ⟨env, command⟩ := input
  obtain ⟨hallowed, hspeakable⟩ := h
  have hafter : (act argon2 json env state command).2 =
      (Cli.step argon2 json state (env, command)).2 := act_state hallowed
  rw [← hafter]
  exact ⟨_, typing_concludes (takes_keystrokes hallowed hspeakable) (List.cons_ne_nil _ _)
    (command.keystrokes_isAnswer hspeakable) state env⟩

/-- So can a sequence of commands that are allowed one after the other. -/
theorem exists_typing (commands : List (CliEnv × Command)) :
    ∀ state, Guarded (Cli.step argon2 json) CanType state commands →
      ∃ lines : List (CliEnv × Line),
        let after := final (Cli.step argon2 json) state commands
        (outputs (Terminal.step argon2 json) ⟨state, some (mainMenu state)⟩
            (lines.map typed)).filterMap Shown.performed = commands ∧
          final (Terminal.step argon2 json) ⟨state, some (mainMenu state)⟩ (lines.map typed) =
            ⟨after, some (mainMenu after)⟩ := by
  induction commands with
  | nil => exact fun state _ => ⟨[], rfl, rfl⟩
  | cons input rest ih =>
    rintro state ⟨hinput, hrest⟩
    obtain ⟨first, hperformed, hfinal⟩ := exists_lines hinput
    obtain ⟨lines, hperformeds, hfinals⟩ := ih _ hrest
    refine ⟨first ++ lines, ?_, ?_⟩
    · rw [List.map_append, outputs_append, List.filterMap_append, hperformed, hfinal]
      exact congrArg _ hperformeds
    · rw [List.map_append, final_append, hfinal]
      exact hfinals

/-- A sequence of commands is what some lines come to exactly if each is
allowed when its turn comes, and its parameters can be typed. -/
theorem typed_iff (argon2 : Argon2) (json : SerdeJson) (commands : List (CliEnv × Command)) :
    (∃ lines : List (CliEnv × Line),
      (outputs (Terminal.step argon2 json) Terminal.new (lines.map typed)).filterMap
        Shown.performed = commands) ↔
      Guarded (Cli.step argon2 json) CanType CliState.new commands := by
  constructor
  · rintro ⟨lines, rfl⟩
    exact Terminal.performed_guarded (lines.map typed)
  · intro h
    obtain ⟨lines, hperformed, -⟩ := exists_typing commands CliState.new h
    exact ⟨lines, hperformed⟩

end Typed

end Banck.Cli
