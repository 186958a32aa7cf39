/-
Banck.CliAudit — which commands leave an audit entry of what they change.

Of the commands that change accounts or identities, some report it
(`Reported`: one entry if anything was changed, none of a change if not),
and eleven pass the result of the call on to the screen only (`IsUnlogged`).
`audited_iff` says for one command when its change is in the log,
`changes_are_audited_iff` for a run, and that the log of a run without an
unlogged change is the sequence of its changes.
-/
import Banck.AuditTheorems
import Banck.BankChanges
import Banck.CliAuthorization

namespace Banck

open Lib Mut Machine

/-! ## Definitions -/

/-- The actions that change accounts or identities. -/
def AuditAction.isChange : AuditAction → Bool
  | login | logout | saveState | loadState | exportStatement => false
  | bootstrapAdmin | createCustomer | createUser | createAccount | updateAccountProfile
  | activateAccount | deactivateAccount | closeAccount | deleteAccount | deposit | withdraw
  | transfer | fee | interest | loanRequest | loanPayment => true

/-- The entry is of a change that was made. -/
def AuditEntry.isChange (entry : AuditEntry) : Bool :=
  entry.outcome = .success && entry.action.isChange

/-- The call changes an account of the bank. -/
def AppMove.AltersAccounts (bank : Bank) : AppMove → Prop
  | .bank op => op.Accepts bank ∨ op.SpillsLoan bank
  | monthlyFee amount clock => ∃ id, (BankOp.applyFee id amount (clock id)).Accepts bank
  | createCustomer .. | createUser .. | bootstrapAdmin .. | audit .. => False

namespace Cli

/-- The action under which a change by the command is to be logged. -/
def Command.auditAction : Command → Option AuditAction
  | bootstrapAdmin .. => some .bootstrapAdmin
  | createCustomer .. => some .createCustomer
  | createUser .. => some .createUser
  | create .. => some .createAccount
  | updateName .. | updateEmail .. => some .updateAccountProfile
  | activate _ => some .activateAccount
  | deactivate _ => some .deactivateAccount
  | close _ => some .closeAccount
  | delete _ => some .deleteAccount
  | deposit .. => some .deposit
  | withdraw .. => some .withdraw
  | transfer .. => some .transfer
  | fee .. | monthlyFee _ => some .fee
  | interest .. => some .interest
  | loanRequest .. => some .loanRequest
  | payLoan .. => some .loanPayment
  | login .. | logout | save _ | load _ | saveSqlite _ | loadSqlite _ | exportStatement _
  | print => none

/-- The result of the command's call is printed and not recorded. -/
def Command.IsUnlogged : Command → Prop
  | updateName .. | updateEmail .. | activate _ | deactivate _ | close _ | delete _ | fee ..
  | monthlyFee _ | interest .. | loanRequest .. | payLoan .. => True
  | bootstrapAdmin .. | createCustomer .. | createUser .. | create .. | deposit ..
  | withdraw .. | transfer .. | login .. | logout | save _ | load _ | saveSqlite _
  | loadSqlite _ | exportStatement _ | print => False

/-- The session in whose name the command changes anything: the first
administrator is logged in by the command that creates him. -/
def Command.actingSession (state after : CliState) : Command → Option Session
  | bootstrapAdmin .. => after.session
  | _ => state.session

/-- The accounts or the identities are not what they were. -/
def Alters (state after : CliState) : Prop :=
  after.app.bank.accounts ≠ state.app.bank.accounts ∨
    after.app.identities ≠ state.app.identities

instance (state after : CliState) : Decidable (Alters state after) :=
  inferInstanceAs (Decidable (_ ∨ _))

section Definitions

variable (argon2 : Argon2) (json : SerdeJson)

/-- The log is the log before and one entry: a success under the command's
action, in the name of the acting session. -/
def Logged (command : Command) (state after : CliState) : Prop :=
  ∃ entry session, after.app.auditLog.entries = state.app.auditLog.entries ++ [entry] ∧
    entry.outcome = .success ∧ command.auditAction = some entry.action ∧
    command.actingSession state after = some session ∧ entry.actor = .fromSession session

/-- If the command changes accounts or identities, that is logged. -/
def Audited (state : CliState) (input : CliEnv × Command) : Prop :=
  let after := (step argon2 json state input).2
  Alters state after → Logged input.2 state after

/-- The session may run the command, the bank takes the call or one half of
it, and no entry is left. -/
def AltersUnlogged (state : CliState) (input : CliEnv × Command) : Prop :=
  input.2.IsUnlogged ∧ (∃ session ∈ state.session, input.2.GrantedTo state.app session) ∧
    ∃ move ∈ input.2.act input.1, move.AltersAccounts state.app.bank

/-- The changes of a run, each with its actor and action. -/
def changes (state : CliState) :
    List (CliEnv × Command) → List (Option AuditActor × Option AuditAction)
  | [] => []
  | input :: rest =>
      let after := (step argon2 json state input).2
      (if Alters state after then
        [((input.2.actingSession state after).map .fromSession, input.2.auditAction)]
      else []) ++ changes after rest

end Definitions

/-- The changes that a log tells of. -/
def loggedChanges (entries : List AuditEntry) : List (Option AuditActor × Option AuditAction) :=
  (entries.filter (·.isChange)).map fun entry => (some entry.actor, some entry.action)

theorem Command.auditAction_isChange {command : Command} {action : AuditAction}
    (h : command.auditAction = some action) : action.isChange = true := by
  cases command with
  | login | logout | save | load | saveSqlite | loadSqlite | exportStatement | print => cases h
  | _ => obtain rfl := Option.some.inj h; rfl

end Cli

/-! ## Commands without an entry -/

theorem AppMove.alters_iff (argon2 : Argon2) (m : AppMove) (app : AppState) :
    (m.run argon2 app).bank.accounts ≠ app.bank.accounts ↔ m.AltersAccounts app.bank := by
  cases m with
  | bank op => exact op.run_changes_iff app.bank
  | monthlyFee amount clock => exact Bank.applyMonthlyFee_changes_iff amount clock app.bank
  | createCustomer | createUser | bootstrapAdmin | audit =>
    exact ⟨fun h => absurd rfl h, False.elim⟩

namespace Cli

section Unlogged

variable {argon2 : Argon2} {json : SerdeJson} {state after : CliState} {env : CliEnv}

/-- The call of an unlogged command takes place if the session is granted
the command; nothing else does. -/
def RunsUnlogged (argon2 : Argon2) (env : CliEnv) (command : Command)
    (state after : CliState) : Prop :=
  ∃ move ∈ command.act env,
    ((∃ session ∈ state.session, command.GrantedTo state.app session) ∧
        after = { state with app := move.run argon2 state.app } ∨
      (¬ ∃ session ∈ state.session, command.GrantedTo state.app session) ∧ after = state) ∧
    (move.run argon2 state.app).identities = state.app.identities ∧
    (move.run argon2 state.app).auditLog = state.app.auditLog

theorem callBank_runsUnlogged {α : Type} {m : BankM α} {command : Command} {allowed : Bool}
    (op : BankOp) (hact : command.act env = some (.bank op))
    (hm : ∀ bank, (m bank).2 = (op.run bank).2)
    (hallowed : allowed = true ↔ ∃ session ∈ state.session, command.GrantedTo state.app session) :
    RunsUnlogged argon2 env command state (if allowed then callBank m state else state) := by
  refine ⟨.bank op, hact, ?_, rfl, rfl⟩
  cases allowed with
  | true => exact .inl ⟨hallowed.mp rfl, by rw [if_pos rfl, callBank, hm]; rfl⟩
  | false => exact .inr ⟨fun h => absurd (hallowed.mpr h) Bool.false_ne_true, rfl⟩

theorem run_unlogged {command : Command} (h : command.IsUnlogged) :
    RunsUnlogged argon2 env command state (run argon2 json env state command) := by
  cases command with
  | bootstrapAdmin | createCustomer | createUser | create | deposit | withdraw | transfer
  | login | logout | save | load | saveSqlite | loadSqlite | exportStatement | print =>
    exact h.elim
  | updateName id name =>
    rw [run]
    exact callBank_runsUnlogged (.updateName id name env.postedAt) rfl
      (fun _ => by rw [BankOp.run, map_run]) authorize_iff
  | updateEmail id email =>
    rw [run]
    exact callBank_runsUnlogged (.updateEmail id email env.postedAt) rfl
      (fun _ => by rw [BankOp.run, map_run]) authorize_iff
  | activate id =>
    rw [run]
    exact callBank_runsUnlogged (.activateAccount id env.postedAt) rfl
      (fun _ => by rw [BankOp.run, map_run]) authorize_iff
  | deactivate id =>
    rw [run]
    exact callBank_runsUnlogged (.deactivateAccount id env.postedAt) rfl
      (fun _ => by rw [BankOp.run, map_run]) authorize_iff
  | close id =>
    rw [run]
    exact callBank_runsUnlogged (.closeAccount id env.postedAt) rfl
      (fun _ => by rw [BankOp.run, map_run]) authorize_iff
  | delete id =>
    rw [run]
    exact callBank_runsUnlogged (.deleteAccount id) rfl
      (fun _ => by rw [BankOp.run, map_run]) authorize_iff
  | fee id amount =>
    rw [run]
    exact callBank_runsUnlogged (.applyFee id amount env.postedAt) rfl
      (fun _ => by rw [BankOp.run, map_run]) authorize_iff
  | interest id rate =>
    rw [run]
    exact callBank_runsUnlogged (.applyInterest id rate env.postedAt) rfl
      (fun _ => by rw [BankOp.run, map_run]) authorize_iff
  | loanRequest id amount =>
    rw [run]
    exact callBank_runsUnlogged (.requestLoan id amount env.postedAt) rfl
      (fun _ => by rw [BankOp.run, map_run]) authorize_iff
  | payLoan id amount =>
    rw [run]
    exact callBank_runsUnlogged (.payLoan id amount env.postedAt) rfl
      (fun _ => by rw [BankOp.run, map_run]) authorizeAccountMoneyOperation_iff
  | monthlyFee amount =>
    rw [run]
    refine ⟨.monthlyFee amount env.feePostedAt, rfl, ?_, rfl, rfl⟩
    by_cases hallowed : authorize state.session .moveMoney = true
    · rw [if_pos hallowed]
      exact .inl ⟨authorize_iff.mp hallowed, rfl⟩
    · rw [if_neg hallowed]
      exact .inr ⟨fun h => hallowed (authorize_iff.mpr h), rfl⟩

theorem RunsUnlogged.entries {command : Command}
    (h : RunsUnlogged argon2 env command state after) :
    after.app.auditLog = state.app.auditLog := by
  obtain ⟨move, -, ⟨-, rfl⟩ | ⟨-, rfl⟩, -, hlog⟩ := h
  · exact hlog
  · rfl

/-- An unlogged command changes something exactly if it is granted, and its
call is taken. -/
theorem RunsUnlogged.alters_iff {command : Command} (hunlogged : command.IsUnlogged)
    (h : RunsUnlogged argon2 env command state after) :
    Alters state after ↔ AltersUnlogged state (env, command) := by
  obtain ⟨move, hact, hcase, hidentities, -⟩ := h
  constructor
  · intro halters
    rcases hcase with ⟨hgranted, rfl⟩ | ⟨-, rfl⟩
    · refine ⟨hunlogged, hgranted, move, hact, (move.alters_iff argon2 state.app).mp ?_⟩
      exact halters.resolve_right fun hne => hne hidentities
    · rcases halters with hne | hne
      · exact absurd rfl hne
      · exact absurd rfl hne
  · intro halters
    obtain ⟨-, hgranted, move', hact', htaken⟩ := halters
    obtain rfl : move = move' := Option.some.inj (hact.symm.trans hact')
    rcases hcase with ⟨-, rfl⟩ | ⟨hdenied, -⟩
    · exact .inl ((move.alters_iff argon2 state.app).mpr htaken)
    · exact absurd hgranted hdenied

end Unlogged

/-! ## Commands with an entry -/

/-- Nothing was changed, and no entry tells of a change; or something was,
and it is logged. -/
def Reported (command : Command) (state after : CliState) : Prop :=
  (¬ Alters state after ∧ ∃ new,
      after.app.auditLog.entries = state.app.auditLog.entries ++ new ∧
        ∀ entry ∈ new, entry.isChange = false) ∨
    (Alters state after ∧ Logged command state after)

section Reported

variable {argon2 : Argon2} {json : SerdeJson} {state mid : CliState} {env : CliEnv}
  {command : Command}

theorem not_alters {after : CliState} (hbank : after.app.bank = state.app.bank)
    (hidentities : after.app.identities = state.app.identities) : ¬ Alters state after := by
  intro h
  rcases h with hne | hne
  · exact hne (by rw [hbank])
  · exact hne hidentities

theorem reported_of_same {after : CliState} (h : after.app = state.app) :
    Reported command state after :=
  .inl ⟨not_alters (by rw [h]) (by rw [h]), [], by rw [h]; simp, by simp⟩

theorem Reported.guarded {allowed : Bool} {after : CliState}
    (h : allowed = true → Reported command state after) :
    Reported command state (if allowed then after else state) := by
  cases allowed with
  | true => exact h rfl
  | false => exact reported_of_same rfl

theorem recordCliAudit_entries (env : CliEnv) (hid : mid.app.auditLog.HasId) (action : AuditAction)
    (outcome : AuditOutcome) (target : Option String) (message : String) :
    ∃ entry, (recordCliAudit env action outcome target message mid).app.auditLog.entries =
        mid.app.auditLog.entries ++ [entry] ∧
      entry.action = action ∧ entry.outcome = outcome ∧
      ∀ session ∈ mid.session, entry.actor = .fromSession session := by
  have hrecord := fun actor =>
    AuditLog.record_run hid actor action outcome target message env.auditedAt
  cases hsession : mid.session with
  | none =>
    refine ⟨⟨mid.app.auditLog.nextId, env.auditedAt, .system, action, outcome, target,
      message⟩, ?_, rfl, rfl, by simp⟩
    simp only [recordCliAudit, hsession, hrecord]
  | some session =>
    refine ⟨⟨mid.app.auditLog.nextId, env.auditedAt, .fromSession session, action, outcome,
      target, message⟩, ?_, rfl, rfl, by simp⟩
    simp only [recordCliAudit, hsession, hrecord]

/-- An entry of a failure, or of an action that changes nothing, where
nothing was changed. -/
theorem recordCliAudit_unaltered (hid : state.app.auditLog.HasId)
    (hlog : mid.app.auditLog = state.app.auditLog) (hsame : ¬ Alters state mid)
    {action : AuditAction} {outcome : AuditOutcome} (target : Option String) (message : String)
    (hentry : outcome = .failure ∨ action.isChange = false) :
    Reported command state (recordCliAudit env action outcome target message mid) := by
  rw [← hlog] at hid
  obtain ⟨entry, hentries, rfl, rfl, -⟩ :=
    recordCliAudit_entries env hid action outcome target message
  refine .inl ⟨hsame, [entry], by rw [hentries, hlog], fun e he => ?_⟩
  obtain rfl := List.mem_singleton.mp he
  rcases hentry with hfailure | haction
  · simp [AuditEntry.isChange, hfailure]
  · simp [AuditEntry.isChange, haction]

/-- The entry of a success, where something was changed. -/
theorem recordCliAudit_altered (hid : state.app.auditLog.HasId)
    (hlog : mid.app.auditLog = state.app.auditLog) (halters : Alters state mid)
    {action : AuditAction} (target : Option String) (message : String)
    (haction : command.auditAction = some action) {session : Session}
    (hsession : mid.session = some session)
    (hacting : command.actingSession state mid = some session) :
    Reported command state (recordCliAudit env action .success target message mid) := by
  rw [← hlog] at hid
  obtain ⟨entry, hentries, rfl, houtcome, hactor⟩ :=
    recordCliAudit_entries env hid action .success target message
  refine .inr ⟨halters, entry, session, by rw [hentries, hlog], houtcome, haction, ?_,
    hactor session hsession⟩
  cases command with
  | bootstrapAdmin => exact hacting
  | _ => exact hacting

theorem recordResult_reported {ε α : Type} (display : ε → String) {result : Except ε α}
    (hid : state.app.auditLog.HasId) (hlog : mid.app.auditLog = state.app.auditLog)
    (halters : Alters state mid ↔ ∃ a, result = .ok a) {action : AuditAction}
    (target : Option String) (message : String) (haction : command.auditAction = some action)
    {session : Session} (hsession : mid.session = some session)
    (hacting : command.actingSession state mid = some session) :
    Reported command state (recordResult env display action target message result mid) := by
  cases result with
  | ok a =>
    exact recordCliAudit_altered hid hlog (halters.mpr ⟨a, rfl⟩) _ _ haction hsession hacting
  | error e =>
    refine recordCliAudit_unaltered hid hlog (fun h => ?_) _ _ (.inl rfl)
    obtain ⟨a, ha⟩ := halters.mp h
    cases ha

/-- A recorded call of the bank: if it fails, it changes nothing. -/
theorem callBankWithAudit_reported {α : Type} {m : BankM α} {f : α → BankReply} (op : BankOp)
    (hop : op.run = map f m) (hspill : ∀ bank, ¬ op.SpillsLoan bank)
    (hid : state.app.auditLog.HasId) {action : AuditAction} (target : Option String)
    (message : String) (haction : command.auditAction = some action) {session : Session}
    (hsession : state.session = some session)
    (hacting : command.actingSession state (callBank m state) = some session) :
    Reported command state (callBankWithAudit env m action target message state) := by
  have hrun : (op.run state.app.bank).2 = (m state.app.bank).2 := by rw [hop, map_run]
  have hmid : (callBank m state).session = some session := hsession
  refine recordResult_reported _ hid (by rfl) ?_ _ _ haction hmid hacting
  constructor
  · intro halters
    have haccounts : (op.run state.app.bank).2.accounts ≠ state.app.bank.accounts := by
      rw [hrun]
      exact halters.resolve_right fun hne => hne rfl
    obtain ⟨reply, bank', hok⟩ := BankOp.accepts_iff.mp
      (((op.run_changes_iff _).mp haccounts).resolve_right (hspill _))
    rw [hop] at hok
    obtain ⟨a, ha, -⟩ := map_ok_iff.mp hok
    exact ⟨a, by rw [ha]⟩
  · intro hok
    obtain ⟨a, ha⟩ := hok
    have hreturned : op.run state.app.bank = (.ok (f a), (m state.app.bank).2) := by
      rw [hop, map_run, ha]
      rfl
    exact .inl (BankOp.run_ok_changes hreturned)

/-- A recorded call of the identities. -/
theorem callIdentitiesWithAudit_reported {α : Type} {m : IdentityM α}
    (hok : ∀ store store' a, m store = (.ok a, store') → store' ≠ store)
    (herror : ∀ store store' e, m store = (.error e, store') → store' = store)
    (hid : state.app.auditLog.HasId) {action : AuditAction} (target : Option String)
    (message : String) (haction : command.auditAction = some action) {session : Session}
    (hsession : state.session = some session)
    (hacting : ∀ after, command.actingSession state after = some session) :
    Reported command state (callIdentitiesWithAudit env m action target message state) := by
  refine recordResult_reported _ hid (by rfl) ?_ _ _ haction (by exact hsession) (hacting _)
  rcases hrun : m state.app.identities with ⟨e | a, store'⟩
  · have hsame := herror _ _ _ hrun
    exact ⟨fun halters => absurd hsame (halters.resolve_left fun hne => hne rfl),
      fun h => by obtain ⟨_, h⟩ := h; cases h⟩
  · exact ⟨fun _ => ⟨a, rfl⟩, fun _ => .inr (hok _ _ _ hrun)⟩

/-- An entry of an action that changes nothing. -/
theorem recordResult_unaltered {ε α : Type} (display : ε → String) (result : Except ε α)
    (hid : state.app.auditLog.HasId) (hlog : mid.app.auditLog = state.app.auditLog)
    (hsame : ¬ Alters state mid) {action : AuditAction} (target : Option String)
    (message : String) (haction : action.isChange = false) :
    Reported command state (recordResult env display action target message result mid) := by
  cases result with
  | ok a => exact recordCliAudit_unaltered hid hlog hsame _ _ (.inr haction)
  | error e => exact recordCliAudit_unaltered hid hlog hsame _ _ (.inr haction)

theorem bootstrapAdmin_reported (hargon : argon2.VerifiesOwnHashes)
    (hid : state.app.auditLog.HasId) (id : UserId) (username password : String) :
    Reported (.bootstrapAdmin id username password) state
      (bootstrapAdmin argon2 env id username password state) := by
  unfold bootstrapAdmin
  by_cases husers : state.app.identities.hasUsers = true
  · rw [if_pos husers]
    exact reported_of_same rfl
  · rw [if_neg husers]
    rcases hcreate : IdentityStore.createUser argon2 env.salt id username .admin none password
        state.app.identities with ⟨e | user, identities⟩
    · obtain rfl := IdentityStore.createUser_error hcreate
      exact recordCliAudit_unaltered hid rfl (not_alters rfl rfl) _ _ (.inl rfl)
    · -- the password was just hashed, so the first login succeeds
      have hlogin := IdentityStore.authenticate_created hargon hcreate
      dsimp only
      rw [hlogin]
      exact recordCliAudit_altered hid (by rfl)
        (.inr (IdentityStore.createUser_changes hcreate)) _ _ rfl (by rfl) (by rfl)

theorem login_reported (hid : state.app.auditLog.HasId) (username password : String) :
    Reported (.login username password) state (login argon2 env username password state) := by
  unfold login
  cases state.app.identities.authenticate argon2 username password with
  | ok session =>
    exact recordCliAudit_unaltered hid (by rfl) (not_alters (by rfl) (by rfl)) _ _
      (.inr (by rfl))
  | error e => exact recordCliAudit_unaltered hid rfl (not_alters rfl rfl) _ _ (.inl rfl)

theorem replaceState_reported {ε : Type} (display : ε → String) (path message : String)
    {result : Except ε AppState} (hid : state.app.auditLog.HasId)
    (hload : result.toOption = none) :
    Reported command state (replaceState env display path message result state) := by
  cases result with
  | ok app => cases hload
  | error e => exact recordResult_unaltered _ _ hid rfl (not_alters rfl rfl) _ _ rfl

/-- A command that loads nothing and is not one of the eleven reports what it
changes. -/
theorem run_reported (hargon : argon2.VerifiesOwnHashes) (hid : state.app.auditLog.HasId)
    (hload : command.loaded argon2 json env = none) (hlogged : ¬ command.IsUnlogged) :
    Reported command state (run argon2 json env state command) := by
  cases command with
  | updateName | updateEmail | activate | deactivate | close | delete | fee | monthlyFee
  | interest | loanRequest | payLoan => exact absurd trivial hlogged
  | bootstrapAdmin id username password =>
    rw [run]
    exact bootstrapAdmin_reported hargon hid id username password
  | login username password =>
    rw [run]
    exact login_reported hid username password
  | logout =>
    rw [run]
    exact reported_of_same rfl
  | createCustomer id fullName email =>
    rw [run]
    refine .guarded fun hallowed => ?_
    obtain ⟨session, hsession, -⟩ := authorize_iff.mp hallowed
    exact callIdentitiesWithAudit_reported
      (fun _ _ _ => IdentityStore.createCustomer_changes)
      (fun _ _ _ => IdentityStore.createCustomer_error) hid _ _ rfl hsession fun _ => hsession
  | createUser id username role linkedCustomerId password =>
    rw [run]
    refine .guarded fun hallowed => ?_
    obtain ⟨session, hsession, -⟩ := authorize_iff.mp hallowed
    exact callIdentitiesWithAudit_reported
      (fun _ _ _ => IdentityStore.createUser_changes)
      (fun _ _ _ => IdentityStore.createUser_error) hid _ _ rfl hsession fun _ => hsession
  | create id ownerId name email openingBalance =>
    rw [run]
    refine .guarded fun hallowed => ?_
    obtain ⟨session, hsession, -⟩ := authorize_iff.mp (Bool.and_eq_true_iff.mp hallowed).1
    exact callBankWithAudit_reported
      (.createAccount id ownerId name email openingBalance env.postedAt) (by rw [BankOp.run])
      (fun _ h => h) hid _ _ rfl hsession hsession
  | deposit id amount =>
    rw [run]
    refine .guarded fun hallowed => ?_
    obtain ⟨session, hsession, -⟩ := authorizeAccountMoneyOperation_iff.mp hallowed
    exact callBankWithAudit_reported (.deposit id amount env.postedAt) (by rw [BankOp.run])
      (fun _ h => h) hid _ _ rfl hsession hsession
  | withdraw id amount =>
    rw [run]
    refine .guarded fun hallowed => ?_
    obtain ⟨session, hsession, -⟩ := authorizeAccountMoneyOperation_iff.mp hallowed
    exact callBankWithAudit_reported (.withdraw id amount env.postedAt) (by rw [BankOp.run])
      (fun _ h => h) hid _ _ rfl hsession hsession
  | transfer fromId toId amount =>
    rw [run]
    refine .guarded fun hallowed => ?_
    obtain ⟨session, hsession, -⟩ := authorizeAccountMoneyOperation_iff.mp hallowed
    exact callBankWithAudit_reported
      (.transfer fromId toId amount env.postedAt env.postedNextAt) (by rw [BankOp.run])
      (fun _ h => h) hid _ _ rfl hsession hsession
  | save path =>
    rw [run]
    exact .guarded fun _ => recordResult_unaltered _ _ hid rfl (not_alters rfl rfl) _ _ rfl
  | saveSqlite path =>
    rw [run]
    exact .guarded fun _ => recordResult_unaltered _ _ hid rfl (not_alters rfl rfl) _ _ rfl
  | exportStatement path =>
    rw [run]
    exact .guarded fun _ => recordResult_unaltered _ _ hid rfl (not_alters rfl rfl) _ _ rfl
  | load path =>
    rw [run]
    cases state.session.isSome && !authorize state.session .persistState with
    | true => exact reported_of_same rfl
    | false => exact replaceState_reported _ _ _ hid hload
  | loadSqlite path =>
    rw [run]
    cases state.session.isSome && !authorize state.session .persistState with
    | true => exact reported_of_same rfl
    | false => exact replaceState_reported _ _ _ hid hload
  | print =>
    rw [run]
    exact reported_of_same rfl

end Reported

/-! ## One command -/

section Step

variable {argon2 : Argon2} {json : SerdeJson} {state : CliState} {input : CliEnv × Command}

/-- What a command changes is reported, unless it is an unlogged change. -/
theorem step_reported (hargon : argon2.VerifiesOwnHashes) (hid : state.app.auditLog.HasId)
    (hload : input.2.loaded argon2 json input.1 = none) (h : ¬ AltersUnlogged state input) :
    Reported input.2 state (step argon2 json state input).2 := by
  by_cases hunlogged : input.2.IsUnlogged
  · have hrun : RunsUnlogged argon2 input.1 input.2 state
        (run argon2 json input.1 state input.2) := run_unlogged hunlogged
    exact .inl ⟨fun halters => h ((hrun.alters_iff hunlogged).mp halters), [],
      by rw [step, hrun.entries]; simp, by simp⟩
  · exact run_reported hargon hid hload hunlogged

theorem audited_iff (hargon : argon2.VerifiesOwnHashes) (hid : state.app.auditLog.HasId)
    (hload : input.2.loaded argon2 json input.1 = none) :
    Audited argon2 json state input ↔ ¬ AltersUnlogged state input := by
  constructor
  · intro haudited hunlogged
    have hrun : RunsUnlogged argon2 input.1 input.2 state
        (run argon2 json input.1 state input.2) := run_unlogged hunlogged.1
    obtain ⟨entry, session, hentries, -⟩ :=
      haudited ((hrun.alters_iff hunlogged.1).mpr hunlogged)
    rw [step, hrun.entries] at hentries
    simp at hentries
  · intro h halters
    rcases step_reported hargon hid hload h with ⟨hsame, -⟩ | ⟨-, hlogged⟩
    · exact absurd halters hsame
    · exact hlogged

/-- What the log tells of after a command is what it told of before, and the
command's change. -/
theorem loggedChanges_step (hargon : argon2.VerifiesOwnHashes)
    (hid : state.app.auditLog.HasId) (hload : input.2.loaded argon2 json input.1 = none)
    (h : ¬ AltersUnlogged state input) :
    loggedChanges (step argon2 json state input).2.app.auditLog.entries =
      loggedChanges state.app.auditLog.entries ++ changes argon2 json state [input] := by
  unfold loggedChanges
  rcases step_reported hargon hid hload h with ⟨hsame, new, hentries, hnone⟩ |
    ⟨halters, entry, session, hentries, houtcome, haction, hacting, hactor⟩
  · have hfilter : new.filter (·.isChange) = [] := by
      rw [List.filter_eq_nil_iff]
      intro entry hentry
      rw [hnone entry hentry]
      exact Bool.false_ne_true
    rw [hentries, List.filter_append, hfilter]
    simp [changes, hsame]
  · have hchange : entry.isChange = true := by
      simp [AuditEntry.isChange, houtcome, Command.auditAction_isChange haction]
    rw [hentries, List.filter_append, List.map_append]
    simp [changes, halters, hchange, haction, hacting, hactor]

end Step

/-! ## Runs -/

section Runs

variable (argon2 : Argon2) (json : SerdeJson)

/-- The command loads nothing, and the audit log has an id for an entry. -/
def Recordable (state : CliState) (input : CliEnv × Command) : Prop :=
  state.app.auditLog.HasId ∧ input.2.loaded argon2 json input.1 = none

variable {argon2 json}

theorem loggedChanges_final (hargon : argon2.VerifiesOwnHashes) :
    ∀ (inputs : List (CliEnv × Command)) (state : CliState),
      Guarded (step argon2 json) (Recordable argon2 json) state inputs →
      Guarded (step argon2 json) (fun state input => ¬ AltersUnlogged state input) state
        inputs →
      loggedChanges (final (step argon2 json) state inputs).app.auditLog.entries =
        loggedChanges state.app.auditLog.entries ++ changes argon2 json state inputs := by
  intro inputs
  induction inputs with
  | nil => intro state _ _; simp [changes]
  | cons input rest ih =>
    intro state hrecordable hlogged
    obtain ⟨⟨hid, hload⟩, hrest⟩ := hrecordable
    rw [final_cons, ih _ hrest hlogged.2, loggedChanges_step hargon hid hload hlogged.1]
    simp [changes]

end Runs

/-- In a run of the loop that loads nothing and does not run out of audit
ids, every command that changes accounts or identities logs it exactly if
none of them is one of the eleven unlogged commands, run by a session that
may, on a bank that takes its call. And if so, the successes in the log
under actions that change anything are the changes of the run, in order. -/
theorem changes_are_audited_iff (argon2 : Argon2) (hargon : argon2.VerifiesOwnHashes)
    (json : SerdeJson) (inputs : List (CliEnv × Command))
    (hrun : Guarded (step argon2 json) (Recordable argon2 json) CliState.new inputs) :
    (Guarded (step argon2 json) (Audited argon2 json) CliState.new inputs ↔
      Guarded (step argon2 json) (fun state input => ¬ AltersUnlogged state input)
        CliState.new inputs) ∧
    (Guarded (step argon2 json) (fun state input => ¬ AltersUnlogged state input)
        CliState.new inputs →
      loggedChanges (final (step argon2 json) CliState.new inputs).app.auditLog.entries =
        changes argon2 json CliState.new inputs) := by
  refine ⟨guarded_congr_of _ (fun state input hrecordable => ?_) inputs CliState.new hrun, ?_⟩
  · exact audited_iff hargon hrecordable.1 hrecordable.2
  · intro hlogged
    rw [loggedChanges_final hargon inputs CliState.new hrun hlogged]
    rfl

/-- The first administrator opens an empty account. -/
def openingRun : List (CliEnv × Command) :=
  [(sampleEnv 5, .bootstrapAdmin 1 "root" "correct-password"),
   (sampleEnv 6, .create 1 none "Ann" "ann@b" Money.zero)]

theorem changes_are_audited_iff_opened :
    Guarded (step sampleArgon2 sampleJson) (Audited sampleArgon2 sampleJson) CliState.new
      openingRun :=
  (changes_are_audited_iff sampleArgon2 sampleArgon2_verifies sampleJson openingRun
    ⟨⟨by decide +kernel, rfl⟩, ⟨by decide +kernel, rfl⟩, trivial⟩).1.mpr
    ⟨fun h => h.1, fun h => h.1, trivial⟩

/-- The account is closed, and the log does not tell. -/
theorem close_leaves_no_entry :
    let state := final (step sampleArgon2 sampleJson) CliState.new openingRun
    Recordable sampleArgon2 sampleJson state (sampleEnv 7, .close 1) ∧
      ¬ Audited sampleArgon2 sampleJson state (sampleEnv 7, .close 1) := by
  refine ⟨⟨by decide +kernel, rfl⟩, fun haudited => ?_⟩
  obtain ⟨entry, session, hentries, -⟩ := haudited (by decide +kernel)
  have hsame : (step sampleArgon2 sampleJson
      (final (step sampleArgon2 sampleJson) CliState.new openingRun)
      (sampleEnv 7, .close 1)).2.app.auditLog.entries =
    (final (step sampleArgon2 sampleJson) CliState.new openingRun).app.auditLog.entries := by
    decide +kernel
  rw [hsame] at hentries
  simp at hentries

end Cli

end Banck
