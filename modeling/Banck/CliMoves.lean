/-
Banck.CliMoves — what a command does to the application.

`run_serves` is the counterpart of what is proved of requests: whatever a
command does, it makes at most the one call that it stands for
(`Command.act`), and that only if the session permits it, and leaves audit
records. The one exception is a load that succeeds: then the application is
what was loaded (`Command.loaded`), and a record.
-/
import Banck.AppMoves
import Banck.Cli

namespace Banck.Cli

open Lib Mut

/-! ## The call of a command -/

/-- The session in whose name a command acts. The first administrator is
created in nobody's. -/
def Command.session (state : CliState) : Command → Option Session
  | bootstrapAdmin _ _ _ => none
  | _ => state.session

/-- The call that a command stands for, if it stands for one. -/
def Command.act (env : CliEnv) : Command → Option AppMove
  | bootstrapAdmin id username password => some (.bootstrapAdmin env.salt id username password)
  | createCustomer id fullName email => some (.createCustomer id fullName email)
  | createUser id username role linkedCustomerId password =>
      some (.createUser env.salt id username role
        (if role = .customer then some linkedCustomerId else none) password)
  | create id ownerId name email openingBalance =>
      some (.bank (.createAccount id ownerId name email openingBalance env.postedAt))
  | updateName id name => some (.bank (.updateName id name env.postedAt))
  | updateEmail id email => some (.bank (.updateEmail id email env.postedAt))
  | activate id => some (.bank (.activateAccount id env.postedAt))
  | deactivate id => some (.bank (.deactivateAccount id env.postedAt))
  | close id => some (.bank (.closeAccount id env.postedAt))
  | delete id => some (.bank (.deleteAccount id))
  | deposit id amount => some (.bank (.deposit id amount env.postedAt))
  | withdraw id amount => some (.bank (.withdraw id amount env.postedAt))
  | transfer fromId toId amount =>
      some (.bank (.transfer fromId toId amount env.postedAt env.postedNextAt))
  | fee id amount => some (.bank (.applyFee id amount env.postedAt))
  | monthlyFee amount => some (.monthlyFee amount env.feePostedAt)
  | interest id rate => some (.bank (.applyInterest id rate env.postedAt))
  | loanRequest id amount => some (.bank (.requestLoan id amount env.postedAt))
  | payLoan id amount => some (.bank (.payLoan id amount env.postedAt))
  | login _ _ | logout | save _ | load _ | saveSqlite _ | loadSqlite _ | exportStatement _
  | print => none

/-- The state that a command finds in a file, if it loads one. -/
def Command.loaded (argon2 : Argon2) (json : SerdeJson) (env : CliEnv) :
    Command → Option AppState
  | load path => (loadAppFromJsonFile argon2 json env.read path).toOption
  | loadSqlite path =>
      (loadAppFromSqliteFile argon2 json { env.store with path } env.database).1.toOption
  | _ => none

/-! ## Checks -/

theorem authorize_iff {session : Option Session} {permission : Permission} :
    authorize session permission = true ↔ ∃ s ∈ session, s.can permission = true := by
  cases session with
  | none => simp [authorize]
  | some s =>
    cases hcan : s.can permission with
    | false => simp [authorize, IdentityStore.authorize, hcan, Except.isOk, Except.toBool]
    | true => simp [authorize, IdentityStore.authorize, hcan, Except.isOk, Except.toBool]

theorem authorizeAccountAccess_iff {app : AppState} {session : Option Session}
    {id : AccountId} {anyPermission ownPermission : Permission} :
    authorizeAccountAccess app session id anyPermission ownPermission = true ↔
      ∃ s ∈ session, s.can anyPermission = true ∨ s.can ownPermission = true ∧
        ∃ account, app.bank.accounts[id]? = some account ∧ s.Owns account := by
  unfold authorizeAccountAccess
  cases session with
  | none => simp
  | some s =>
    simp only [Option.mem_some_iff, exists_eq_left']
    by_cases hany : s.can anyPermission = true
    · simp [hany]
    · by_cases hown : s.can ownPermission = true
      · rw [if_neg hany, if_neg (by simp [hown])]
        unfold Bank.account Session.Owns
        cases app.bank.accounts[id]? with
        | none => simp [hany]
        | some account =>
          cases howner : account.ownerId with
          | none => simp [hany, howner]
          | some ownerId =>
            simp only [hany, hown, howner, Option.isSome_some, Bool.true_and, beq_iff_eq,
              Option.some.injEq, exists_eq_left', true_and, reduceCtorEq, false_or]
            exact ⟨fun h => ⟨ownerId, h.symm, rfl⟩, fun ⟨c, hc, he⟩ => by rw [hc, he]⟩
      · rw [if_neg hany, if_pos (by simpa using hown)]
        simp [hany, hown]

theorem authorizeAccountMoneyOperation_iff {app : AppState} {session : Option Session}
    {id : AccountId} :
    authorizeAccountMoneyOperation app session id = true ↔
      ∃ s ∈ session, s.MovesMoneyOf app.bank id :=
  authorizeAccountAccess_iff

theorem customerExists_iff {identities : IdentityStore} {ownerId : Option CustomerId} :
    customerExists identities ownerId = true ↔
      ∀ customerId ∈ ownerId, identities.customers[customerId]? ≠ none := by
  unfold customerExists IdentityStore.customer
  cases ownerId with
  | none => simp
  | some customerId =>
    simp only [Option.mem_some_iff, forall_eq']
    cases identities.customers[customerId]? with
    | none => simp [Except.isOk, Except.toBool]
    | some customer => simp [Except.isOk, Except.toBool]

/-! ## Parts of a command -/

section Parts

variable {argon2 : Argon2} {json : SerdeJson} {env : CliEnv} {session : Option Session}
  {acts : AppMove → Prop} {app₀ : AppState} {state : CliState}

theorem recordCliAudit_serves (action : AuditAction) (outcome : AuditOutcome)
    (target : Option String) (message : String)
    (h : Serves argon2 session acts app₀ state.app) :
    Serves argon2 session acts app₀
      (recordCliAudit env action outcome target message state).app := by
  unfold recordCliAudit
  cases state.session with
  | none => exact h.audit (m := .audit .system action outcome target message _) trivial
  | some s =>
    exact h.audit (m := .audit (.fromSession s) action outcome target message _) trivial

theorem recordResult_serves {ε α : Type} (display : ε → String) (action : AuditAction)
    (target : Option String) (message : String) (result : Except ε α)
    (h : Serves argon2 session acts app₀ state.app) :
    Serves argon2 session acts app₀
      (recordResult env display action target message result state).app := by
  cases result with
  | ok a => exact recordCliAudit_serves _ _ _ _ h
  | error e => exact recordCliAudit_serves _ _ _ _ h

/-- A permitted call of the bank. -/
theorem callBank_serves {α : Type} {m : BankM α} (op : BankOp)
    (hm : (m state.app.bank).2 = (op.run state.app.bank).2)
    (hperm : (AppMove.bank op).Permitted session state.app) (hact : acts (.bank op)) :
    Serves argon2 session acts state.app (callBank m state).app := by
  unfold callBank
  rw [hm]
  exact Serves.act hperm hact

theorem callBankWithAudit_serves {α : Type} {m : BankM α} (op : BankOp)
    (action : AuditAction) (target : Option String) (message : String)
    (hm : (m state.app.bank).2 = (op.run state.app.bank).2)
    (hperm : (AppMove.bank op).Permitted session state.app) (hact : acts (.bank op)) :
    Serves argon2 session acts state.app
      (callBankWithAudit env m action target message state).app :=
  recordResult_serves _ _ _ _ _ (callBank_serves op hm hperm hact)

/-- A permitted call of the identities. -/
theorem callIdentities_serves {α : Type} {m : IdentityM α} (move : AppMove)
    (action : AuditAction) (target : Option String) (message : String)
    (hm : { state.app with identities := (m state.app.identities).2 }
      = move.run argon2 state.app)
    (hperm : move.Permitted session state.app) (hact : acts move) :
    Serves argon2 session acts state.app
      (callIdentitiesWithAudit env m action target message state).app := by
  refine recordResult_serves _ _ _ _ _ ?_
  dsimp only
  rw [hm]
  exact Serves.act hperm hact

/-- A command that is refused changes nothing. -/
theorem guarded_serves {allowed : Bool} {after : CliState}
    (h : allowed = true → Serves argon2 session acts state.app after.app) :
    Serves argon2 session acts state.app (if allowed then after else state).app := by
  cases allowed with
  | false => exact Serves.refl _
  | true => exact h rfl

theorem bootstrapAdmin_serves (id : UserId) (username password : String) :
    Serves argon2 none (fun m => m ∈ (Command.bootstrapAdmin id username password).act env)
      state.app (bootstrapAdmin argon2 env id username password state).app := by
  unfold bootstrapAdmin
  by_cases husers : state.app.identities.hasUsers = true
  · rw [if_pos husers]
    exact Serves.refl _
  · rw [if_neg husers]
    rcases hcreate : IdentityStore.createUser argon2 env.salt id username .admin none password
        state.app.identities with ⟨result, identities⟩
    have hmade : Serves argon2 none
        (fun m => m ∈ (Command.bootstrapAdmin id username password).act env) state.app
        { state.app with identities } := by
      have hact := @Serves.act argon2 none
        (fun m => m ∈ (Command.bootstrapAdmin id username password).act env) state.app
        (.bootstrapAdmin env.salt id username password) ⟨rfl, by simpa using husers⟩ rfl
      rwa [AppMove.run, hcreate] at hact
    cases result with
    | error e => exact recordCliAudit_serves _ _ _ _ hmade
    | ok user =>
      dsimp only
      cases identities.authenticate argon2 username password with
      | error e => exact hmade
      | ok s => exact recordCliAudit_serves _ _ _ _ hmade

theorem login_serves (username password : String) :
    Serves argon2 session acts state.app (login argon2 env username password state).app := by
  unfold login
  cases state.app.identities.authenticate argon2 username password with
  | error e => exact recordCliAudit_serves _ _ _ _ (Serves.refl _)
  | ok s => exact recordCliAudit_serves _ _ _ _ (Serves.refl _)

/-- A load that fails leaves a record; one that succeeds starts from what it
found. -/
theorem replaceState_serves {ε : Type} (display : ε → String) (path message : String)
    (result : Except ε AppState) :
    Serves argon2 session acts state.app
        (replaceState env display path message result state).app ∨
      ∃ app ∈ result.toOption, Serves argon2 none acts app
        (replaceState env display path message result state).app := by
  cases result with
  | error e => exact .inl (recordResult_serves _ _ _ _ _ (Serves.refl _))
  | ok app => exact .inr ⟨app, rfl, recordResult_serves _ _ _ _ _ (Serves.refl _)⟩

end Parts

/-! ## Every command -/

section Run

variable (argon2 : Argon2) (json : SerdeJson) (env : CliEnv) (state : CliState)

/-- The bank calls that need a permission for accounts or money only. -/
theorem authorized_serves {acts : AppMove → Prop} {α : Type} {m : BankM α} (op : BankOp)
    (permission : Permission)
    (hmay : ∀ s : Session, s.can permission = true → s.MayCall state.app op)
    (hm : (m state.app.bank).2 = (op.run state.app.bank).2) (hact : acts (.bank op)) :
    Serves argon2 state.session acts state.app
      (if authorize state.session permission then callBank m state else state).app := by
  refine guarded_serves fun hallowed => callBank_serves op hm ?_ hact
  obtain ⟨s, hs, hcan⟩ := authorize_iff.mp hallowed
  exact ⟨s, hs, hmay s hcan⟩

/-- The bank calls on the money of an account. -/
theorem moneyOperation_permitted {id : AccountId} (op : BankOp)
    (hmay : ∀ s : Session, s.MovesMoneyOf state.app.bank id → s.MayCall state.app op)
    (hallowed : authorizeAccountMoneyOperation state.app state.session id = true) :
    (AppMove.bank op).Permitted state.session state.app := by
  obtain ⟨s, hs, hmoves⟩ := authorizeAccountMoneyOperation_iff.mp hallowed
  exact ⟨s, hs, hmay s hmoves⟩

/-- Whatever a command does, it makes at most the one call it stands for,
with permission, and leaves records; or it loaded a state and left
records. -/
theorem run_serves (command : Command) :
    Serves argon2 (command.session state) (fun m => m ∈ command.act env) state.app
        (run argon2 json env state command).app ∨
      ∃ app ∈ command.loaded argon2 json env,
        Serves argon2 none (fun m => m ∈ command.act env) app
          (run argon2 json env state command).app := by
  cases command with
  | bootstrapAdmin id username password =>
    rw [run]
    exact .inl (bootstrapAdmin_serves id username password)
  | login username password =>
    rw [run]
    exact .inl (login_serves username password)
  | logout =>
    rw [run]
    exact .inl (Serves.refl _)
  | createCustomer id fullName email =>
    rw [run]
    refine .inl (guarded_serves fun hallowed => ?_)
    exact callIdentities_serves (.createCustomer id fullName email) _ _ _ rfl
      (authorize_iff.mp hallowed) rfl
  | createUser id username role linkedCustomerId password =>
    rw [run]
    refine .inl (guarded_serves fun hallowed => ?_)
    exact callIdentities_serves (.createUser env.salt id username role _ password) _ _ _ rfl
      (authorize_iff.mp hallowed) rfl
  | create id ownerId name email openingBalance =>
    rw [run]
    refine .inl (guarded_serves fun hallowed => ?_)
    obtain ⟨hauth, hexists⟩ := Bool.and_eq_true_iff.mp hallowed
    obtain ⟨s, hs, hcan⟩ := authorize_iff.mp hauth
    exact callBankWithAudit_serves
      (.createAccount id ownerId name email openingBalance env.postedAt) _ _ _
      (by rw [BankOp.run, map_run]) ⟨s, hs, hcan, customerExists_iff.mp hexists⟩ rfl
  | updateName id name =>
    rw [run]
    exact .inl (authorized_serves argon2 state (.updateName id name env.postedAt)
      .manageAccounts (fun _ h => h) (by rw [BankOp.run, map_run]) rfl)
  | updateEmail id email =>
    rw [run]
    exact .inl (authorized_serves argon2 state (.updateEmail id email env.postedAt)
      .manageAccounts (fun _ h => h) (by rw [BankOp.run, map_run]) rfl)
  | activate id =>
    rw [run]
    exact .inl (authorized_serves argon2 state (.activateAccount id env.postedAt)
      .manageAccounts (fun _ h => h) (by rw [BankOp.run, map_run]) rfl)
  | deactivate id =>
    rw [run]
    exact .inl (authorized_serves argon2 state (.deactivateAccount id env.postedAt)
      .manageAccounts (fun _ h => h) (by rw [BankOp.run, map_run]) rfl)
  | close id =>
    rw [run]
    exact .inl (authorized_serves argon2 state (.closeAccount id env.postedAt)
      .manageAccounts (fun _ h => h) (by rw [BankOp.run, map_run]) rfl)
  | delete id =>
    rw [run]
    exact .inl (authorized_serves argon2 state (.deleteAccount id)
      .manageAccounts (fun _ h => h) (by rw [BankOp.run, map_run]) rfl)
  | deposit id amount =>
    rw [run]
    refine .inl (guarded_serves fun hallowed => ?_)
    exact callBankWithAudit_serves (.deposit id amount env.postedAt) _ _ _
      (by rw [BankOp.run, map_run])
      (moneyOperation_permitted state _ (fun _ h => h) hallowed) rfl
  | withdraw id amount =>
    rw [run]
    refine .inl (guarded_serves fun hallowed => ?_)
    exact callBankWithAudit_serves (.withdraw id amount env.postedAt) _ _ _
      (by rw [BankOp.run, map_run])
      (moneyOperation_permitted state _ (fun _ h => h) hallowed) rfl
  | transfer fromId toId amount =>
    rw [run]
    refine .inl (guarded_serves fun hallowed => ?_)
    exact callBankWithAudit_serves
      (.transfer fromId toId amount env.postedAt env.postedNextAt) _ _ _
      (by rw [BankOp.run, map_run])
      (moneyOperation_permitted state _ (fun _ h => h) hallowed) rfl
  | fee id amount =>
    rw [run]
    exact .inl (authorized_serves argon2 state (.applyFee id amount env.postedAt)
      .moveMoney (fun _ h => h) (by rw [BankOp.run, map_run]) rfl)
  | monthlyFee amount =>
    rw [run]
    refine .inl (guarded_serves fun hallowed => ?_)
    exact Serves.act (m := .monthlyFee amount env.feePostedAt) (authorize_iff.mp hallowed) rfl
  | interest id rate =>
    rw [run]
    exact .inl (authorized_serves argon2 state (.applyInterest id rate env.postedAt)
      .moveMoney (fun _ h => h) (by rw [BankOp.run, map_run]) rfl)
  | loanRequest id amount =>
    rw [run]
    exact .inl (authorized_serves argon2 state (.requestLoan id amount env.postedAt)
      .moveMoney (fun _ h => h) (by rw [BankOp.run, map_run]) rfl)
  | payLoan id amount =>
    rw [run]
    refine .inl (guarded_serves fun hallowed => ?_)
    exact callBank_serves (.payLoan id amount env.postedAt) (by rw [BankOp.run, map_run])
      (moneyOperation_permitted state _ (fun _ h => h) hallowed) rfl
  | save path =>
    rw [run]
    exact .inl (guarded_serves fun _ => recordResult_serves _ _ _ _ _ (Serves.refl _))
  | load path =>
    rw [run]
    cases state.session.isSome && !authorize state.session .persistState with
    | true => exact .inl (Serves.refl _)
    | false => exact replaceState_serves _ _ _ _
  | saveSqlite path =>
    rw [run]
    exact .inl (guarded_serves fun _ => recordResult_serves _ _ _ _ _ (Serves.refl _))
  | loadSqlite path =>
    rw [run]
    cases state.session.isSome && !authorize state.session .persistState with
    | true => exact .inl (Serves.refl _)
    | false => exact replaceState_serves _ _ _ _
  | exportStatement path =>
    rw [run]
    exact .inl (guarded_serves fun _ => recordResult_serves _ _ _ _ _ (Serves.refl _))
  | print =>
    rw [run]
    exact .inl (Serves.refl _)

end Run

end Banck.Cli
