/-
Banck.FrontEnds — the terminal can do whatever the API does.

The two front ends reach the same books, the accounts and the identities.
A handler changes them by the call of its request, which its session
permits (`Act.serves`); the command that stands for the same call is then
allowed (`allowed_of_permitted`) and makes it (`run_books`). And the session
of a handler is that of a user (`Sound.acting`), whose password opens the
same session at the terminal (`exists_login`). A terminal reads lines,
though: if the texts of the requests fit on one (`Typable`), every run of
the server is imitated by lines typed at a terminal, change for change, in
the names of the same users (`terminal_imitates_server`).
-/
import Banck.Api.Provenance
import Banck.TerminalScripts

namespace Banck

open Lib Mut Machine

/-- The accounts and the identities: what is left of the application
without its audit log. -/
def AppState.books (app : AppState) : Bank × IdentityStore := (app.bank, app.identities)

theorem AppState.books_eq_iff {app app' : AppState} :
    app.books = app'.books ↔ app.bank = app'.bank ∧ app.identities = app'.identities :=
  Prod.ext_iff

section Moves

variable {argon2 : Argon2} {session : Option Session} {app app' : AppState}

/-- A call reads and changes nothing else. -/
theorem AppMove.run_books_congr (m : AppMove) (h : app.books = app'.books) :
    (m.run argon2 app).books = (m.run argon2 app').books := by
  obtain ⟨hbank, hidentities⟩ := AppState.books_eq_iff.mp h
  cases m <;> simp only [AppMove.run, AppState.books, hbank, hidentities]

theorem AppMove.permitted_congr (m : AppMove) (h : app.books = app'.books)
    (hperm : m.Permitted session app) : m.Permitted session app' := by
  obtain ⟨hbank, hidentities⟩ := AppState.books_eq_iff.mp h
  cases m with
  | bank op =>
    obtain ⟨s, hs, hmay⟩ := hperm
    refine ⟨s, hs, ?_⟩
    cases op <;> simp only [Session.MayCall, hbank, hidentities] at hmay ⊢ <;> exact hmay
  | bootstrapAdmin =>
    rw [Permitted, hidentities] at hperm
    exact hperm
  | monthlyFee | createCustomer | createUser | audit => exact hperm

/-- Serving changes the books by a permitted call, or not at all. -/
theorem Serves.books {acts : AppMove → Prop} (h : Serves argon2 session acts app app') :
    app'.books = app.books ∨ ∃ m, acts m ∧ m.Permitted session app ∧
      app'.books = (m.run argon2 app).books := by
  obtain ⟨mid, hmid, hrecords⟩ := h
  have hsame : app'.books = mid.books := AppState.books_eq_iff.mpr hrecords.rest
  rcases hmid with rfl | ⟨m, hact, hperm, rfl⟩
  · exact .inl hsame
  · exact .inr ⟨m, hact, hperm, hsame⟩

end Moves

/-! ## Logging in -/

theorem isUsernameChar_not_space {c : Char} (h : isUsernameChar c = true) :
    Unicode.isWhitespace c = false := by
  have hascii : 0x20 < c.toNat ∧ c.toNat < 0x80 := by
    simp only [isUsernameChar, Char.isAlphanum, Char.isAlpha, Char.isUpper, Char.isLower,
      Char.isDigit, Bool.or_eq_true, Bool.and_eq_true, decide_eq_true_eq, beq_iff_eq,
      ge_iff_le, UInt32.le_iff_toNat_le, Char.reduceVal, UInt32.reduceToNat] at h
    rcases h with (((hupper | hlower) | hdigit) | rfl) | rfl
    · simp only [Char.toNat]
      omega
    · simp only [Char.toNat]
      omega
    · simp only [Char.toNat]
      omega
    · decide
    · decide
  exact Unicode.printable_not_space hascii

/-- A normalized username fits on a line. -/
theorem isAnswer_normalizeUsername {username name : String}
    (h : normalizeUsername username = .ok name) : Cli.IsAnswer name := by
  obtain ⟨-, -, hchars⟩ := normalizeUsername_ok_iff.mp h
  exact Cli.isAnswer_of_not_space fun c hc =>
    isUsernameChar_not_space (List.all_eq_true.mp hchars c hc)

namespace IdentityStore

variable {argon2 : Argon2} {store store' : IdentityStore}

/-- Every user has a password that can be typed. -/
def HavePasswords (argon2 : Argon2) (store : IdentityStore) : Prop :=
  ∀ (id : UserId) (user : User), store.users[id]? = some user →
    ∃ password, Cli.IsAnswer password ∧
      argon2.verifyPassword password user.passwordHash = true

theorem HavePasswords.createUser (hargon : argon2.VerifiesOwnHashes)
    (h : store.HavePasswords argon2) (salt : String) (id : UserId) (username : String)
    (role : Role) (customerId : Option CustomerId) {password : String}
    (hpassword : Cli.IsAnswer password) :
    (IdentityStore.createUser argon2 salt id username role customerId password
      store).2.HavePasswords argon2 := by
  rcases hrun : IdentityStore.createUser argon2 salt id username role customerId password store
    with ⟨e | user, store'⟩
  · rw [createUser_error hrun]
    exact h
  · obtain ⟨-, -, -, name, hash, -, -, hhash, rfl, rfl⟩ := createUser_ok_iff.mp hrun
    intro id' user' hfound
    by_cases hid : id' = id
    · rw [hid, OrdMap.get_insert_self] at hfound
      obtain rfl := Option.some.inj hfound
      exact ⟨password, hpassword, (hargon salt password hash (hashPassword_ok_iff.mp hhash)).2⟩
    · rw [OrdMap.get_insert_ne _ _ hid] at hfound
      exact h id' user' hfound

theorem HavePasswords.createCustomer (h : store.HavePasswords argon2) (id : CustomerId)
    (fullName email : String) :
    (IdentityStore.createCustomer id fullName email store).2.HavePasswords argon2 := by
  rcases hrun : IdentityStore.createCustomer id fullName email store with ⟨e | customer, store'⟩
  · rw [createCustomer_error hrun]
    exact h
  · obtain ⟨-, _, _, -, -, -, rfl⟩ := createCustomer_ok_iff.mp hrun
    exact h

/-- The session of a user is one that the user can open, by what can be
typed. -/
theorem exists_login (hwf : store.WellFormed argon2) (hpasswords : store.HavePasswords argon2)
    {session : Session} (hnames : session.Names store) :
    ∃ username password, Cli.IsAnswer username ∧ Cli.IsAnswer password ∧
      store.authenticate argon2 username password = .ok session := by
  obtain ⟨user, hfound, rfl⟩ := hnames.user
  obtain ⟨password, hpassword, hverify⟩ := hpasswords _ user hfound
  obtain ⟨⟨name, hname⟩, -, hparse⟩ :=
    validateImportedUser_ok_iff.mp (hwf.usersValid _ user hfound)
  have hindex := (hwf.index name _).mpr ⟨user, hfound, hname⟩
  exact ⟨name, password, isAnswer_normalizeUsername hname, hpassword,
    authenticate_ok_iff.mpr
      ⟨name, _, user, normalizeUsername_clean hname, hindex, hfound, hparse, hverify, rfl⟩⟩

end IdentityStore

/-! ## Commands -/

namespace Cli

section Run

variable {argon2 : Argon2} {json : SerdeJson} {env : CliEnv} {state : CliState}

theorem recordResult_books {ε α : Type} (display : ε → String) (action : AuditAction)
    (target : Option String) (message : String) (result : Except ε α) :
    (recordResult env display action target message result state).app.books =
      state.app.books := by
  cases result <;> rfl

/-- A command whose call is permitted is allowed. -/
theorem allowed_of_permitted {command : Command} {m : AppMove} (hact : m ∈ command.act env)
    (hperm : m.Permitted (command.session state) state.app) : command.Allowed state := by
  cases command with
  | bootstrapAdmin =>
    cases hact
    exact hperm.2
  | createCustomer | createUser | updateName | updateEmail | activate | deactivate | close
  | delete | fee | monthlyFee | interest | loanRequest =>
    cases hact
    exact authorize_iff.mpr hperm
  | create =>
    cases hact
    obtain ⟨s, hs, hcan, hexists⟩ := hperm
    exact ⟨authorize_iff.mpr ⟨s, hs, hcan⟩, customerExists_iff.mpr hexists⟩
  | deposit | withdraw | transfer | payLoan =>
    cases hact
    exact authorizeAccountMoneyOperation_iff.mpr hperm
  | login | logout | save | load | saveSqlite | loadSqlite | exportStatement | print => cases hact

/-- An allowed command makes its call. -/
theorem run_books {command : Command} {m : AppMove} (hact : m ∈ command.act env)
    (hallowed : command.Allowed state) :
    (run argon2 json env state command).app.books = (m.run argon2 state.app).books := by
  cases command with
  | bootstrapAdmin id username password =>
    cases hact
    rw [Command.Allowed] at hallowed
    rw [run, bootstrapAdmin, if_neg (by simp [hallowed])]
    simp only [AppMove.run]
    rcases IdentityStore.createUser argon2 env.salt id username .admin none password
      state.app.identities with ⟨e | user, identities⟩
    · rfl
    · dsimp only
      cases identities.authenticate argon2 username password <;> rfl
  | createCustomer | createUser =>
    cases hact
    rw [Command.Allowed] at hallowed
    rw [run, if_pos hallowed]
    exact recordResult_books _ _ _ _ _
  | create =>
    cases hact
    rw [Command.Allowed, ← Bool.and_eq_true_iff] at hallowed
    rw [run, if_pos hallowed]
    refine (recordResult_books _ _ _ _ _).trans ?_
    simp only [callBank, AppMove.run, AppState.books, BankOp.run, map_run]
  | deposit | withdraw | transfer =>
    cases hact
    rw [Command.Allowed] at hallowed
    rw [run, if_pos hallowed]
    refine (recordResult_books _ _ _ _ _).trans ?_
    simp only [callBank, AppMove.run, AppState.books, BankOp.run, map_run]
  | updateName | updateEmail | activate | deactivate | close | delete | fee | interest
  | loanRequest | payLoan =>
    cases hact
    rw [Command.Allowed] at hallowed
    rw [run, if_pos hallowed]
    simp only [callBank, AppMove.run, AppState.books, BankOp.run, map_run]
  | monthlyFee =>
    cases hact
    rw [Command.Allowed] at hallowed
    rw [run, if_pos hallowed]
    rfl
  | login | logout | save | load | saveSqlite | loadSqlite | exportStatement | print => cases hact

/-- A login that succeeds opens the session of the user, and changes no
books. -/
theorem run_login {username password : String} {session : Session}
    (h : state.app.identities.authenticate argon2 username password = .ok session) :
    let after := run argon2 json env state (.login username password)
    after.session = some session ∧ after.app.books = state.app.books := by
  rw [run, login, h]
  exact ⟨rfl, rfl⟩

end Run

/-- The change that a command makes: in whose name, and by which call (none
if a state was loaded). -/
def bookChanges (argon2 : Argon2) (json : SerdeJson) (state : CliState)
    (input : CliEnv × Command) : List (Option Session × Option AppMove) :=
  if (step argon2 json state input).2.app.books = state.app.books then []
  else [(input.2.session state, input.2.act input.1)]

/-- The change that a reading makes: that of the command that is carried out. -/
def Terminal.bookChanges (argon2 : Argon2) (json : SerdeJson) (terminal : Terminal)
    (input : CliEnv × Reading) : List (Option Session × Option AppMove) :=
  noted (Cli.step argon2 json) (Cli.bookChanges argon2 json) terminal.state
    (terminal.step argon2 json input).1.performed.toList

/-- They are the changes of the commands that are carried out. -/
theorem Terminal.bookChanges_run (argon2 : Argon2) (json : SerdeJson)
    (readings : List (CliEnv × Reading)) :
    noted (Terminal.step argon2 json) (Terminal.bookChanges argon2 json) Terminal.new readings =
      noted (Cli.step argon2 json) (Cli.bookChanges argon2 json) CliState.new
        ((outputs (Terminal.step argon2 json) Terminal.new readings).filterMap
          Shown.performed) :=
  noted_emits (f := Terminal.state) (fun t i h => (Terminal.step_runs t i h).1)
    (fun t i h => (Terminal.step_runs t i h).2.1) readings Terminal.new Terminal.new_reads

end Cli

namespace Api

/-- The change that an event makes. -/
def Server.bookChanges (argon2 : Argon2) (server : Server) (event : Event) :
    List (Option Session × Option AppMove) :=
  if (server.step argon2 event).2.state.app.books = server.state.app.books then []
  else
    match event with
    | .arrive _ => []
    | .act i env =>
        (server.handlings[i]?.map fun handling =>
          (handling.actor, handling.request.act env)).toList

/-! ## The command for a request -/

/-- The terminal at the time of an act. -/
def Env.terminal (env : Env) : Cli.CliEnv where
  postedAt := env.postedAt
  postedNextAt := env.postedNextAt
  feePostedAt _ := env.postedAt
  auditedAt := env.auditedAt
  salt := env.salt
  write _ := .ok ()
  read := .error "no file"
  store := ⟨"", env.postedAt, env.postedAt, env.postedAt, env.postedAt⟩
  database := Database.empty
  sqlText _ := "no database"

/-- The command that asks for what a request asks for. The terminal asks for
the customer of a user exactly if the user is one. -/
def Request.command : Request → Option Cli.Command
  | bootstrapAdmin payload =>
      some (.bootstrapAdmin payload.userId payload.username payload.password)
  | createCustomer _ payload => some (.createCustomer payload.id payload.fullName payload.email)
  | createUser _ payload =>
      some (.createUser payload.id payload.username payload.role (payload.customerId.getD 0)
        payload.password)
  | createAccount _ payload =>
      some (.create payload.id payload.ownerId payload.name payload.email
        (.fromCents payload.openingBalanceCents))
  | deposit _ accountId payload => some (.deposit accountId (.fromCents payload.amountCents))
  | withdraw _ accountId payload => some (.withdraw accountId (.fromCents payload.amountCents))
  | applyFee _ accountId payload => some (.fee accountId (.fromCents payload.amountCents))
  | requestLoan _ accountId payload =>
      some (.loanRequest accountId (.fromCents payload.amountCents))
  | payLoan _ accountId payload => some (.payLoan accountId (.fromCents payload.amountCents))
  | transfer _ payload =>
      some (.transfer payload.fromAccountId payload.toAccountId (.fromCents payload.amountCents))
  | health | login _ | logout _ | listAudit _ _ | listCustomers _ | listUsers _
  | listAccounts _ | getAccount _ _ | listAccountTransactions _ _ _ => none

/-- The texts of a request fit on lines of their own: no line feed in them,
no white space around them. -/
def Request.Typable : Request → Prop
  | bootstrapAdmin payload => Cli.IsAnswer payload.username ∧ Cli.IsAnswer payload.password
  | createCustomer _ payload => Cli.IsAnswer payload.fullName ∧ Cli.IsAnswer payload.email
  | createUser _ payload => Cli.IsAnswer payload.username ∧ Cli.IsAnswer payload.password
  | createAccount _ payload => Cli.IsAnswer payload.name ∧ Cli.IsAnswer payload.email
  | deposit _ _ _ | withdraw _ _ _ | applyFee _ _ _ | requestLoan _ _ _ | payLoan _ _ _
  | transfer _ _ | health | login _ | logout _ | listAudit _ _ | listCustomers _ | listUsers _
  | listAccounts _ | getAccount _ _ | listAccountTransactions _ _ _ => True

section Command

variable {argon2 : Argon2} {env : Env} {app : AppState}

/-- A call that changes the bank had a positive amount to begin with. -/
theorem positive_of_changed {α : Type} {amount : Money} {rest : Unit → BankM α} {bank : Bank}
    (h : ((Mut.lift (ensurePositive amount) >>= rest) bank).2 ≠ bank) :
    Money.zero < amount := by
  cases hchecked : ensurePositive amount with
  | ok u => exact ensurePositive_ok_iff.mp hchecked
  | error e =>
    rw [hchecked] at h
    exact absurd rfl h

/-- An account that is opened had a balance that is not negative. -/
theorem nonNegative_of_changed {id : AccountId} {ownerId : Option CustomerId}
    {name email : String} {openingBalance : Money} {now : Nat} {bank : Bank}
    (h : (Bank.createAccount id ownerId name email openingBalance now bank).2 ≠ bank) :
    Money.zero ≤ openingBalance := by
  cases hchecked : ensureNonNegative openingBalance with
  | ok u => exact ensureNonNegative_ok_iff.mp hchecked
  | error e =>
    refine absurd ?_ h
    rw [Bank.createAccount, hchecked]
    by_cases hnew : bank.accounts.contains id = false <;> simp [bind_run, ensure, hnew]

/-- A user whose link the store accepts is linked as the terminal asks. -/
theorem link_asked {store : IdentityStore} {role : Role} {customerId : Option CustomerId}
    (h : store.validateRoleCustomerLink role customerId = .ok ()) :
    (if role = .customer then some (customerId.getD 0) else none) = customerId := by
  rcases IdentityStore.validateRoleCustomerLink_ok_iff.mp h with
    ⟨hrole, id, _, rfl, -⟩ | ⟨hrole, rfl⟩
  · rw [if_pos hrole]
    rfl
  · rw [if_neg hrole]

/-- A call that changes the books is also that of a command, which can be
typed if the texts of the request can. -/
theorem Request.command_act {request : Request} {m : AppMove} (htypable : request.Typable)
    (hact : m ∈ request.act env) (hchanged : (m.run argon2 app).books ≠ app.books) :
    ∃ command, request.command = some command ∧ m ∈ command.act env.terminal ∧
      command.Speakable := by
  have hbank : ∀ {op : BankOp}, ((AppMove.bank op).run argon2 app).books ≠ app.books →
      (op.run app.bank).2 ≠ app.bank := fun h heq => h (AppState.books_eq_iff.mpr ⟨heq, rfl⟩)
  cases request with
  | createUser headers payload =>
    cases hact
    refine ⟨_, rfl, ?_⟩
    rcases hrun : IdentityStore.createUser argon2 env.salt payload.id payload.username
      payload.role payload.customerId payload.password app.identities with ⟨e | user, store'⟩
    · refine absurd ?_ hchanged
      simp only [AppMove.run, AppState.books, hrun, IdentityStore.createUser_error hrun]
    · obtain ⟨-, -, hlink, -⟩ := IdentityStore.createUser_ok_iff.mp hrun
      obtain ⟨husername, hpassword⟩ := htypable
      rw [Cli.Command.act, link_asked hlink]
      refine ⟨rfl, husername, hpassword, fun hstaff => ?_⟩
      rcases IdentityStore.validateRoleCustomerLink_ok_iff.mp hlink with
        ⟨hrole, -⟩ | ⟨-, hnone⟩
      · exact absurd hrole hstaff
      · rw [hnone]
        rfl
  | bootstrapAdmin | createCustomer =>
    cases hact
    exact ⟨_, rfl, rfl, htypable⟩
  | createAccount headers payload =>
    cases hact
    have hopened := hbank hchanged
    rw [BankOp.run, map_run] at hopened
    exact ⟨_, rfl, rfl, htypable.1, htypable.2, nonNegative_of_changed hopened⟩
  | deposit | withdraw | applyFee | requestLoan | payLoan | transfer =>
    cases hact
    have hpaid := hbank hchanged
    rw [BankOp.run, map_run] at hpaid
    exact ⟨_, rfl, rfl, positive_of_changed hpaid⟩
  | health | login | logout | listAudit | listCustomers | listUsers | listAccounts | getAccount
  | listAccountTransactions => cases hact

/-- The password of a new user is one that can be typed. -/
theorem Request.run_havePasswords {request : Request} {m : AppMove}
    (hargon : argon2.VerifiesOwnHashes) (htypable : request.Typable) (hact : m ∈ request.act env)
    (h : app.identities.HavePasswords argon2) :
    (m.run argon2 app).identities.HavePasswords argon2 := by
  cases request with
  | bootstrapAdmin payload =>
    cases hact
    exact h.createUser hargon _ _ _ _ _ htypable.2
  | createUser headers payload =>
    cases hact
    exact h.createUser hargon _ _ _ _ _ htypable.2
  | createCustomer headers payload =>
    cases hact
    exact h.createCustomer _ _ _
  | createAccount | deposit | withdraw | applyFee | requestLoan | payLoan | transfer =>
    cases hact
    exact h
  | health | login | logout | listAudit | listCustomers | listUsers | listAccounts | getAccount
  | listAccountTransactions => cases hact

/-- The command acts in the name in which the handler acts. -/
theorem command_session {handling : Handling} {command : Cli.Command} {state : Cli.CliState}
    (hcommand : handling.request.command = some command)
    (hsession : state.session = handling.session) :
    command.session state = handling.actor := by
  obtain ⟨request, session, stage⟩ := handling
  cases request with
  | bootstrapAdmin =>
    cases hcommand
    rfl
  | createCustomer | createUser | createAccount | deposit | withdraw | applyFee | requestLoan
  | payLoan | transfer =>
    cases hcommand
    exact hsession
  | health | login | logout | listAudit | listCustomers | listUsers | listAccounts | getAccount
  | listAccountTransactions => cases hcommand

end Command

end Api

/-! ## One event -/

open Api

section Imitates

variable {argon2 : Argon2} {server : Server} {state : Cli.CliState}

/-- A terminal and a server with the same books, whose sessions are those of
users that can log in, and whose requests can be typed. -/
structure Imitates (argon2 : Argon2) (server : Server) (state : Cli.CliState) : Prop where
  sound : server.Sound argon2
  passwords : server.state.app.identities.HavePasswords argon2
  typable : ∀ (i : Nat) (handling : Handling), server.handlings[i]? = some handling →
    handling.request.Typable
  books : state.app.books = server.state.app.books

theorem imitates_new (argon2 : Argon2) :
    Imitates argon2 (Server.new AppState.new) Cli.CliState.new where
  sound := Server.sound_new argon2
  passwords := by
    intro id user hfound
    simp [Server.new, ApiState.new, AppState.new, IdentityStore.new] at hfound
  typable := by
    intro i handling found
    simp [Server.new] at found
  books := rfl

/-- Requests that can be typed are all that there is. -/
theorem Imitates.typable_step (h : Imitates argon2 server state) {event : Event}
    (hevent : ∀ request, event = .arrive request → request.Typable) (i : Nat)
    (handling : Handling) (found : (server.step argon2 event).2.handlings[i]? = some handling) :
    handling.request.Typable := by
  rcases (Server.step_moves argon2 server event).handling_cases found with
    hold | ⟨request, harrives, rfl⟩ | ⟨env, before, -, hbefore, -, act⟩
  · exact h.typable i handling hold
  · exact hevent request harrives
  · rw [act.request]
    exact h.typable i before hbefore

/-- At the terminal one can come to act with the session of a user, or with
none. -/
theorem Imitates.exists_opening (h : Imitates argon2 server state) (json : SerdeJson)
    (env : Cli.CliEnv) {session : Option Session}
    (hnames : ∀ s, session = some s → s.Names server.state.app.identities) :
    ∃ command, Cli.CanType state (env, command) ∧
      (Cli.run argon2 json env state command).session = session ∧
      (Cli.run argon2 json env state command).app.books = state.app.books := by
  cases session with
  | none => exact ⟨.logout, ⟨trivial, trivial⟩, rfl, rfl⟩
  | some s =>
    obtain ⟨username, password, husername, hpassword, hlogin⟩ :=
      IdentityStore.exists_login h.sound.wellFormed.identities h.passwords (hnames s rfl)
    rw [← (AppState.books_eq_iff.mp h.books).2] at hlogin
    exact ⟨.login username password, ⟨trivial, husername, hpassword⟩, Cli.run_login hlogin⟩

/-- An event that changes the books is imitated by two commands: one to act
with the session of the handler, and that of the request. -/
theorem Imitates.step (hargon : argon2.VerifiesOwnHashes) (json : SerdeJson)
    (h : Imitates argon2 server state) (event : Event)
    (hevent : ∀ request, event = .arrive request → request.Typable) :
    ∃ inputs, Guarded (Cli.step argon2 json) Cli.CanType state inputs ∧
      Imitates argon2 (server.step argon2 event).2 (final (Cli.step argon2 json) state inputs) ∧
      noted (Cli.step argon2 json) (Cli.bookChanges argon2 json) state inputs =
        server.bookChanges argon2 event := by
  have hmove := Server.step_moves argon2 server event
  have hsound := h.sound.moves hargon.parsesOwnHashes hmove
  have htypable := h.typable_step hevent
  by_cases hsame : (server.step argon2 event).2.state.app.books = server.state.app.books
  · refine ⟨[], trivial, ⟨hsound, ?_, htypable, h.books.trans hsame.symm⟩, ?_⟩
    · rw [(AppState.books_eq_iff.mp hsame).2]
      exact h.passwords
    · unfold Server.bookChanges
      rw [if_pos hsame]
      rfl
  · unfold Server.bookChanges
    rw [if_neg hsame]
    generalize (server.step argon2 event).2 = server' at hmove hsound hsame htypable
    cases hmove with
    | arrives | waits => exact absurd rfl hsame
    | @acts i env handling handling' after found free act =>
      rcases act.serves.books with hkept | ⟨m, hact, hperm, hmade⟩
      · exact absurd hkept hsame
      have hasked : handling.request.Typable := h.typable i handling found
      have hmade' : (m.run argon2 server.state.app).books ≠ server.state.app.books :=
        fun heq => hsame (hmade.trans heq)
      obtain ⟨command, hcommand, hact', hspeakable⟩ := Request.command_act hasked hact hmade'
      obtain ⟨opening, hopens, hopened, hkept⟩ := h.exists_opening json env.terminal
        fun s hs => h.sound.acting i handling s found hs
      generalize hstate : Cli.run argon2 json env.terminal state opening = opened at hopened hkept
      have hbooks : opened.app.books = server.state.app.books := hkept.trans h.books
      have hsession := command_session hcommand hopened
      have hallowed : command.Allowed opened :=
        Cli.allowed_of_permitted hact' (hsession ▸ m.permitted_congr hbooks.symm hperm)
      -- the command makes the call of the request
      have hran : (Cli.run argon2 json env.terminal opened command).app.books =
          after.app.books := by
        rw [Cli.run_books hact' hallowed, m.run_books_congr hbooks, ← hmade]
      refine ⟨[(env.terminal, opening), (env.terminal, command)], ⟨hopens, ?_, trivial⟩,
        ⟨hsound, ?_, htypable, ?_⟩, ?_⟩
      · rw [Cli.step, hstate]
        exact ⟨hallowed, hspeakable⟩
      · have hpasswords := Request.run_havePasswords hargon hasked hact h.passwords
        rwa [← (AppState.books_eq_iff.mp hmade).2] at hpasswords
      · rw [final_cons, final_cons, Cli.step, Cli.step, hstate]
        exact hran
      · have hchanged : after.app.books ≠ server.state.app.books := hsame
        simp only [noted, Cli.bookChanges, Cli.step, hstate, hran, hbooks, h.books, if_true,
          if_neg hchanged, hsession, found, Option.map_some]
        rw [show command.act env.terminal = some m from hact',
          show handling.request.act env = some m from hact]
        rfl

end Imitates

/-! ## The theorem -/

/-- Whatever requests come to a new server, if their texts can be typed, and
however their handlers take turns: there are lines that, typed at a new
terminal, bring it to the same accounts and identities, by the same changes
in the same order, each made in the name of the same user. -/
theorem terminal_imitates_server (argon2 : Argon2) (hargon : argon2.VerifiesOwnHashes)
    (json : SerdeJson) (events : List Event)
    (htypable : ∀ request, .arrive request ∈ events → request.Typable) :
    ∃ lines : List (Cli.CliEnv × Cli.Line),
      let step := Cli.Terminal.step argon2 json
      (final step Cli.Terminal.new (lines.map Cli.typed)).state.app.books =
          (Server.after argon2 events).state.app.books ∧
        noted step (Cli.Terminal.bookChanges argon2 json) Cli.Terminal.new
            (lines.map Cli.typed) =
          noted (Server.step argon2) (Server.bookChanges argon2) (Server.new AppState.new)
            events := by
  obtain ⟨commands, hguarded, himitates, hnoted⟩ := imitates (R := Imitates argon2) events
    (fun event hmem _ _ h => h.step hargon json event fun request heq => htypable request
      (heq ▸ hmem)) _ _ (imitates_new argon2)
  obtain ⟨lines, hperformed, hfinal⟩ := Cli.exists_typing commands Cli.CliState.new hguarded
  refine ⟨lines, ?_, ?_⟩
  · exact (congrArg (·.state.app.books) hfinal).trans himitates.books
  · rw [Cli.Terminal.bookChanges_run]
    exact (congrArg _ hperformed).trans hnoted

/-- The first administrator opens an account. -/
theorem terminal_imitates_server_root :
    let env : Env := ⟨5, 5, 5, 5, 5, 5, sampleSalt, ["token"]⟩
    let events :=
      [.arrive (.bootstrapAdmin ⟨1, "root", "correct-password"⟩), .act 0 env, .act 0 env,
       .arrive (.createAccount ⟨some (.text "Bearer token")⟩
         ⟨7, none, "Ann", "ann@b", i64FromU32 100⟩), .act 1 env, .act 1 env]
    ∃ lines : List (Cli.CliEnv × Cli.Line),
      let step := Cli.Terminal.step sampleArgon2 sampleJson
      (final step Cli.Terminal.new (lines.map Cli.typed)).state.app.books =
          (Server.after sampleArgon2 events).state.app.books ∧
        (noted step (Cli.Terminal.bookChanges sampleArgon2 sampleJson) Cli.Terminal.new
          (lines.map Cli.typed)).length = 2 := by
  intro env events
  have htypable : ∀ request, .arrive request ∈ events → request.Typable := by
    intro request hmem
    simp only [events, List.mem_cons, Event.arrive.injEq, reduceCtorEq, List.not_mem_nil,
      false_or, or_false] at hmem
    rcases hmem with rfl | rfl
    · exact ⟨⟨by decide +kernel, by decide +kernel⟩, ⟨by decide +kernel, by decide +kernel⟩⟩
    · exact ⟨⟨by decide +kernel, by decide +kernel⟩, ⟨by decide +kernel, by decide +kernel⟩⟩
  obtain ⟨lines, hbooks, hnoted⟩ :=
    terminal_imitates_server sampleArgon2 sampleArgon2_verifies sampleJson events htypable
  refine ⟨lines, hbooks, ?_⟩
  rw [hnoted]
  decide +kernel

end Banck
