/-
Banck.LoadedStates — the state of a program that loads whatever files it is
given.

`WellFormed` holds of what the program built itself. A file that somebody
else wrote may bring more: histories and audit logs whose ids do not
increase. What the loaders let in is `Consistent`, no more and no less, if
the counter of transaction ids is the one they set (`loads_iff`). It is an
invariant of the program as well, loads included, and enough for a saved
state to be accepted again (`files_keep_state_consistent`).
-/
import Banck.AuditRuns
import Banck.BankNumbering
import Banck.Program

namespace Banck

open Lib Mut

/-! ## Checks in a row -/

theorem checks_ok_iff {ε α β : Type} {check : Except ε α} {next : α → Except ε β} {b : β} :
    (check >>= next) = .ok b ↔ ∃ a, check = .ok a ∧ next a = .ok b := by
  cases check <;> simp [bind, Except.bind]

theorem renamed_ok_iff {ε δ α : Type} {rename : ε → δ} {check : Except ε α} {a : α} :
    check.mapError rename = .ok a ↔ check = .ok a := by
  cases check <;> simp [Except.mapError]

/-! ## The bank -/

namespace Bank

variable {bank bank' : Bank} {accounts : List Account}

/-- A well-formed bank, but for the order of the ids in a history. -/
structure Consistent (bank : Bank) : Prop where
  keyed : OrdMap.Keyed Account.id bank.accounts
  valid : bank.Each fun _ account => ValidImport account
  numbered : bank.Numbered

theorem consistent_new : new.Consistent := ⟨OrdMap.keyed_empty _, each_new, numbered_new⟩

theorem consistent_step (bank : Bank) (m : Move) (bank' : Bank)
    (hstep : Move.Step bank m bank') (h : bank.Consistent) : bank'.Consistent :=
  ⟨keyed_step hstep h.keyed, validImport_step hstep h.valid, numbered_step hstep h.numbered⟩

theorem consistent_of_fromAccounts (h : fromAccounts accounts = .ok bank) :
    bank.Consistent := by
  obtain ⟨hvalid, hids, -, -, -, hbank⟩ := fromAccounts_ok_iff.mp h
  refine ⟨?_, fun id account hfound => ?_, numbered_of_fromAccounts h⟩
  · rw [hbank]
    exact OrdMap.keyed_ofVals hids
  · exact hvalid account (mem_of_fromAccounts h hfound).1

/-- A bank that was loaded counts on from its largest id. -/
theorem latestId_of_fromAccounts (h : fromAccounts accounts = .ok bank) :
    bank.nextTransactionId = bank.latestId + 1 := by
  have hloaded := (fromAccounts_ok_iff_loaded.mp h).2
  have hids : ∀ n, n ∈ transactionIds bank.accountList ↔ n ∈ transactionIds accounts := by
    intro n
    simp only [transactionIds, List.mem_flatMap, accountList, OrdMap.mem_vals,
      hloaded.accounts_iff]
    constructor
    · intro hlisted
      obtain ⟨account, ⟨id, hmem, -⟩, hn⟩ := hlisted
      exact ⟨account, hmem, hn⟩
    · intro hgiven
      obtain ⟨account, hmem, hn⟩ := hgiven
      exact ⟨account, ⟨account.id, hmem, rfl⟩, hn⟩
  have hle : bank.latestId ≤ maxId (transactionIds accounts) :=
    maxId_le fun n hn => le_maxId ((hids n).mp hn)
  have hge : maxId (transactionIds accounts) ≤ bank.latestId :=
    maxId_le fun n hn => le_maxId ((hids n).mpr hn)
  rw [hloaded.next]
  omega

theorem Consistent.acceptable (h : bank.Consistent) : Acceptable bank.accountList := by
  have hbelow : maxId (transactionIds bank.accountList) ≤ bank.nextTransactionId - 1 := by
    refine maxId_le fun n hn => ?_
    obtain ⟨id, t, ht, rfl⟩ := mem_transactionIds.mp hn
    have := h.numbered.below id t ht
    omega
  refine ⟨h.keyed.nodup, fun account hmem => ?_, fun n hn => ?_, h.numbered.nodup h.keyed, ?_⟩
  · obtain ⟨id, hfound⟩ := OrdMap.mem_vals.mp hmem
    exact h.valid id account hfound
  · obtain ⟨id, t, ht, rfl⟩ := mem_transactionIds.mp hn
    exact h.numbered.nonzero id t ht
  · have hpositive := h.numbered.positive
    have hbounded := h.numbered.bounded
    omega

/-- The accounts of a consistent bank are loaded as they are. -/
theorem Consistent.reload (h : bank.Consistent) :
    fromAccounts bank.accountList = .ok ⟨bank.accounts, bank.latestId + 1⟩ := by
  refine fromAccounts_ok_iff_loaded.mpr ⟨h.acceptable, fun id account => ?_, rfl⟩
  rw [accountList, OrdMap.mem_vals]
  constructor
  · intro hfound
    exact ⟨⟨id, hfound⟩, h.keyed id account hfound⟩
  · intro hlisted
    obtain ⟨⟨id', hfound⟩, rfl⟩ := hlisted
    rwa [h.keyed id' account hfound]

end Bank

/-! ## The identities -/

namespace IdentityStore

variable {argon2 : Argon2} {store : IdentityStore}

/-- Whatever records are accepted: the store is well-formed. -/
theorem wellFormed_of_fromRecords {customers : List Customer} {users : List User}
    (h : fromRecords argon2 customers users = .ok store) : store.WellFormed argon2 := by
  obtain ⟨hcustomers, hcustomerIds, husers, huserIds, hnames, rfl⟩ := fromRecords_ok_iff.mp h
  refine ⟨OrdMap.keyed_ofVals hcustomerIds, OrdMap.keyed_ofVals huserIds, ?_, ?_, ?_⟩
  · intro id customer hfound
    exact hcustomers customer ((OrdMap.get_ofVals hcustomerIds id customer).mp hfound).1
  · intro id user hfound
    exact husers user ((OrdMap.get_ofVals huserIds id user).mp hfound).1
  · intro name id
    simp only [ofRecords, OrdMap.get_mapVals, Option.map_eq_some_iff, OrdMap.get_ofVals hnames,
      OrdMap.get_ofVals huserIds]
    constructor
    · intro hindexed
      obtain ⟨user, ⟨hmem, rfl⟩, rfl⟩ := hindexed
      obtain ⟨⟨name, hname⟩, -⟩ := validateImportedUser_ok_iff.mp (husers user hmem)
      exact ⟨user, ⟨hmem, rfl⟩, by rw [nameKey_eq hname, hname]⟩
    · intro hnamed
      obtain ⟨user, ⟨hmem, rfl⟩, hname⟩ := hnamed
      exact ⟨user, ⟨hmem, nameKey_eq hname⟩, rfl⟩

end IdentityStore

/-! ## The owners -/

/-- The loop passes when every account passes. -/
theorem forM_validateOwner {identities : IdentityStore} {accounts : List Account} {u : Unit}
    (h : accounts.forM (validateOwner identities) = .ok u) :
    ∀ account ∈ accounts, validateOwner identities account = .ok () := by
  induction accounts with
  | nil => simp
  | cons first rest ih =>
    rw [List.forM_eq_forM, List.forM_cons] at h
    cases hfirst : validateOwner identities first with
    | error e =>
      rw [hfirst] at h
      cases h
    | ok _ =>
      rw [hfirst] at h
      intro account hmem
      rcases List.mem_cons.mp hmem with hhead | hrest
      · rw [hhead, hfirst]
      · exact ih h account hrest

theorem validateAccountOwners_ok_iff {bank : Bank} {identities : IdentityStore} {u : Unit} :
    validateAccountOwners bank identities = .ok u ↔ AppState.OwnersExist bank identities := by
  constructor
  · intro h id account hfound
    have hmem : account ∈ bank.accountList := OrdMap.mem_vals.mpr ⟨id, hfound⟩
    unfold validateAccountOwners at h
    exact validateOwner_ok_iff.mp (forM_validateOwner h account hmem)
  · exact validateAccountOwners_ok

/-! ## The state -/

namespace AppState

variable {argon2 : Argon2} {session : Option Session} {app : AppState}

/-- What is known of a state, whatever files it comes from. -/
structure Consistent (argon2 : Argon2) (app : AppState) : Prop where
  bank : app.bank.Consistent
  identities : app.identities.WellFormed argon2
  auditLog : app.auditLog.Numbered
  owners : OwnersExist app.bank app.identities

theorem consistent_new : AppState.new.Consistent argon2 :=
  ⟨Bank.consistent_new, IdentityStore.wellFormed_new, AuditLog.wellFormed_new.numbered,
    Bank.each_new⟩

theorem Consistent.bankCall (h : app.Consistent argon2) (call : BankCall)
    (howners : OwnersExist (call.run app.bank).2 app.identities) :
    { app with bank := (call.run app.bank).2 }.Consistent argon2 := by
  obtain ⟨moves, hpath⟩ := BankCall.run_path call app.bank
  exact ⟨hpath.invariant Bank.consistent_step h.bank, h.identities, h.auditLog, howners⟩

theorem Consistent.move (hargon : argon2.ParsesOwnHashes) {m : AppMove}
    (hperm : m.Permitted session app) (h : app.Consistent argon2) :
    (m.run argon2 app).Consistent argon2 := by
  cases m with
  | bank op =>
    obtain ⟨s, -, hmay⟩ := hperm
    exact h.bankCall (.call op) (h.owners.call hmay)
  | monthlyFee amount clock =>
    exact h.bankCall (.applyMonthlyFee amount clock)
      (h.owners.bank (Bank.chargeFees_owners amount clock _ app.bank))
  | createCustomer id fullName email =>
    exact ⟨h.bank, h.identities.createCustomer id fullName email, h.auditLog,
      h.owners.identities (IdentityStore.createCustomer_keeps id fullName email _)⟩
  | createUser salt id username role customerId password =>
    exact ⟨h.bank, h.identities.createUser hargon salt id username role customerId password,
      h.auditLog, h.owners.identities (IdentityStore.createUser_keeps argon2 salt id username
        role customerId password _)⟩
  | bootstrapAdmin salt id username password =>
    exact ⟨h.bank, h.identities.createUser hargon salt id username .admin none password,
      h.auditLog, h.owners.identities (IdentityStore.createUser_keeps argon2 salt id username
        .admin none password _)⟩
  | audit actor action outcome target message now =>
    exact ⟨h.bank, h.identities, h.auditLog.record actor action outcome target message now,
      h.owners⟩

theorem reloaded_eq_iff :
    app.reloaded = app ↔ app.bank.nextTransactionId = app.bank.latestId + 1 := by
  obtain ⟨⟨accounts, next⟩, identities, auditLog⟩ := app
  simp only [reloaded, mk.injEq, Bank.mk.injEq, true_and, and_true]
  exact eq_comm

end AppState

open AppState (Consistent)

section Load

variable {argon2 : Argon2} {json : SerdeJson} {app : AppState} {snapshot : AppSnapshot}

/-! ## Snapshots -/

/-- What a snapshot is accepted as. -/
theorem appFromSnapshot_ok_iff :
    appFromSnapshot argon2 snapshot = .ok app ↔
      (minSupportedAppStorageVersion ≤ snapshot.version ∧
        snapshot.version ≤ currentAppStorageVersion) ∧
      IdentityStore.fromRecords argon2 snapshot.customers snapshot.users = .ok app.identities ∧
      Bank.fromAccounts snapshot.accounts = .ok app.bank ∧
      AuditLog.fromEntries snapshot.auditEntries = .ok app.auditLog ∧
      AppState.OwnersExist app.bank app.identities := by
  obtain ⟨bank, identities, auditLog⟩ := app
  unfold appFromSnapshot
  by_cases hversion : snapshot.version < minSupportedAppStorageVersion ∨
      currentAppStorageVersion < snapshot.version
  · rw [if_pos hversion]
    refine iff_of_false nofun fun h => ?_
    have := h.1
    omega
  · rw [if_neg hversion]
    have hsupported : minSupportedAppStorageVersion ≤ snapshot.version ∧
        snapshot.version ≤ currentAppStorageVersion := by omega
    simp only [hsupported, true_and]
    cases IdentityStore.fromRecords argon2 snapshot.customers snapshot.users with
    | error e => simp [Except.mapError, bind, Except.bind]
    | ok identities' =>
      cases Bank.fromAccounts snapshot.accounts with
      | error e => simp [Except.mapError, bind, Except.bind]
      | ok bank' =>
        cases AuditLog.fromEntries snapshot.auditEntries with
        | error e => simp [Except.mapError, bind, Except.bind]
        | ok auditLog' =>
          simp only [Except.mapError, bind, Except.bind, Except.ok.injEq]
          cases howners : validateAccountOwners bank' identities' with
          | error e =>
            refine iff_of_false nofun fun h => ?_
            obtain ⟨rfl, rfl, rfl, hexist⟩ := h
            rw [validateAccountOwners_ok hexist] at howners
            cases howners
          | ok _ =>
            have hexist := validateAccountOwners_ok_iff.mp howners
            simp only [AppState.mk.injEq, Except.ok.injEq]
            constructor
            · intro h
              obtain ⟨rfl, rfl, rfl⟩ := h
              exact ⟨rfl, rfl, rfl, hexist⟩
            · intro h
              obtain ⟨rfl, rfl, rfl, -⟩ := h
              exact ⟨rfl, rfl, rfl⟩

theorem consistent_of_fromSnapshot (h : appFromSnapshot argon2 snapshot = .ok app) :
    app.Consistent argon2 := by
  obtain ⟨-, hidentities, hbank, haudit, howners⟩ := appFromSnapshot_ok_iff.mp h
  exact ⟨Bank.consistent_of_fromAccounts hbank,
    IdentityStore.wellFormed_of_fromRecords hidentities,
    AuditLog.numbered_of_fromEntries haudit, howners⟩

theorem AppState.Consistent.fromSnapshot (h : app.Consistent argon2) :
    appFromSnapshot argon2 (.fromState app) = .ok app.reloaded :=
  appFromSnapshot_ok_iff.mpr ⟨⟨Nat.le_succ 2, Nat.le_refl 3⟩, h.identities.reload,
    h.bank.reload, h.auditLog.reload, h.owners⟩

theorem consistent_of_fromJson {text : String} (h : appFromJson argon2 json text = .ok app) :
    app.Consistent argon2 := by
  obtain ⟨snapshot, -, hsnapshot⟩ := checks_ok_iff.mp h
  exact consistent_of_fromSnapshot hsnapshot

/-! ## Databases -/

theorem consistent_of_tables {tables : StateTables}
    (h : tables.readNormalizedState argon2 = .ok (some app)) : app.Consistent argon2 := by
  unfold StateTables.readNormalizedState at h
  split at h
  · cases h
  · obtain ⟨customers, -, h⟩ := checks_ok_iff.mp h
    obtain ⟨users, -, h⟩ := checks_ok_iff.mp h
    obtain ⟨identities, hidentities, h⟩ := checks_ok_iff.mp h
    obtain ⟨bank, hbank, h⟩ := checks_ok_iff.mp h
    obtain ⟨auditLog, haudit, h⟩ := checks_ok_iff.mp h
    obtain ⟨_, howners, h⟩ := checks_ok_iff.mp h
    obtain ⟨accounts, -, hbank⟩ := checks_ok_iff.mp hbank
    obtain ⟨entries, -, haudit⟩ := checks_ok_iff.mp haudit
    obtain rfl : (⟨bank, identities, auditLog⟩ : AppState) = app :=
      Option.some.inj (Except.ok.inj h)
    exact ⟨Bank.consistent_of_fromAccounts (renamed_ok_iff.mp hbank),
      IdentityStore.wellFormed_of_fromRecords (renamed_ok_iff.mp hidentities),
      AuditLog.numbered_of_fromEntries (renamed_ok_iff.mp haudit),
      validateAccountOwners_ok_iff.mp (renamed_ok_iff.mp howners)⟩

/-- Whatever a database holds, in its tables or as a text. -/
theorem consistent_of_database {env : StoreEnv} {db db' : Database}
    (h : loadAppFromSqliteFile argon2 json env db = (.ok app, db')) :
    app.Consistent argon2 := by
  obtain ⟨_, _, -, h⟩ := bind_ok_iff.mp h
  obtain ⟨found, _, hfound, h⟩ := bind_ok_iff.mp h
  cases found with
  | some state =>
    obtain ⟨rfl, -⟩ := pure_ok_iff.mp h
    obtain ⟨tables, _, -, htables⟩ := bind_ok_iff.mp hfound
    exact consistent_of_tables (lift_ok_iff.mp htables).1
  | none =>
    obtain ⟨snapshot, _, hsnapshot, h⟩ := bind_ok_iff.mp h
    obtain ⟨rfl, -⟩ := okOr_ok_iff.mp h
    obtain ⟨table, _, -, hrow⟩ := bind_ok_iff.mp hsnapshot
    cases htext : table[(1 : Int)]? with
    | none =>
      rw [htext] at hrow
      obtain ⟨hnone, -⟩ := pure_ok_iff.mp hrow
      cases hnone
    | some record =>
      rw [htext] at hrow
      obtain ⟨state, _, hstate, hsome⟩ := bind_ok_iff.mp hrow
      obtain ⟨hsome, -⟩ := pure_ok_iff.mp hsome
      obtain rfl := Option.some.inj hsome
      exact consistent_of_fromJson (renamed_ok_iff.mp (lift_ok_iff.mp hstate).1)

/-! ## Runs -/

/-- Whatever a command loads is consistent. -/
theorem consistent_of_loaded {env : Cli.CliEnv} {command : Cli.Command}
    (h : app ∈ command.loaded argon2 json env) : app.Consistent argon2 := by
  cases command with
  | load path =>
    cases hfile : loadAppFromJsonFile argon2 json env.read path with
    | error e =>
      rw [Cli.Command.loaded, hfile] at h
      cases h
    | ok found =>
      rw [Cli.Command.loaded, hfile] at h
      obtain rfl : found = app := Option.some.inj h
      obtain ⟨text, -, htext⟩ := checks_ok_iff.mp hfile
      exact consistent_of_fromJson htext
  | loadSqlite path =>
    rcases hfile : loadAppFromSqliteFile argon2 json { env.store with path } env.database with
      ⟨e | found, db⟩
    · rw [Cli.Command.loaded, hfile] at h
      cases h
    · rw [Cli.Command.loaded, hfile] at h
      obtain rfl : found = app := Option.some.inj h
      exact consistent_of_database hfile
  | _ => cases h

theorem consistent_of_serves (hargon : argon2.ParsesOwnHashes) {session : Option Session}
    {acts : AppMove → Prop} {app' : AppState} (h : Serves argon2 session acts app app')
    (hconsistent : app.Consistent argon2) : app'.Consistent argon2 :=
  h.invariant (fun _ _ hperm hi => hi.move hargon hperm) hconsistent

/-- Every input keeps the invariant, whatever it loads. -/
theorem Program.step_consistent (hargon : argon2.ParsesOwnHashes) {program : Program}
    (input : Input) (h : program.app.Consistent argon2) :
    (step argon2 json program input).2.app.Consistent argon2 := by
  cases input with
  | request env request => exact consistent_of_serves hargon (Api.handle_serves _ _ _ _) h
  | command env command =>
    rcases Cli.run_serves argon2 json env ⟨program.app, program.session⟩ command with
      hserves | ⟨loaded, hloaded, hserves⟩
    · exact consistent_of_serves hargon hserves h
    · exact consistent_of_serves hargon hserves (consistent_of_loaded hloaded)

theorem Program.after_consistent (hargon : argon2.ParsesOwnHashes) (inputs : List Input) :
    (after argon2 json inputs).Consistent argon2 :=
  Machine.final_invariant (step argon2 json) (I := fun program => program.app.Consistent argon2)
    (fun _ input h => step_consistent hargon input h) inputs new AppState.consistent_new

end Load

/-! ## The theorems -/

/-- The states that some snapshot is accepted as are the consistent ones
whose bank counts on from its largest transaction id. -/
theorem loads_iff (argon2 : Argon2) (app : AppState) :
    (∃ snapshot, appFromSnapshot argon2 snapshot = .ok app) ↔
      app.Consistent argon2 ∧ app.bank.nextTransactionId = app.bank.latestId + 1 := by
  constructor
  · intro h
    obtain ⟨snapshot, hsnapshot⟩ := h
    obtain ⟨-, -, hbank, -⟩ := appFromSnapshot_ok_iff.mp hsnapshot
    exact ⟨consistent_of_fromSnapshot hsnapshot, Bank.latestId_of_fromAccounts hbank⟩
  · intro h
    obtain ⟨hconsistent, hnext⟩ := h
    have hload := hconsistent.fromSnapshot
    rw [AppState.reloaded_eq_iff.mpr hnext] at hload
    exact ⟨.fromState app, hload⟩

/-- Whatever requests and commands do, with whatever files: the state is
consistent, and its text is read back as the same accounts, identities and
audit log. -/
theorem files_keep_state_consistent (argon2 : Argon2) (hargon : argon2.ParsesOwnHashes)
    (json : SerdeJson) (inputs : List Input) :
    let app := Program.after argon2 json inputs
    app.Consistent argon2 ∧
      (json.RoundTrips (.fromState app) →
        ∃ text, appToJson json app = .ok text ∧
          appFromJson argon2 json text = .ok app.reloaded) := by
  intro app
  have hconsistent : app.Consistent argon2 := Program.after_consistent hargon inputs
  refine ⟨hconsistent, fun hjson => ?_⟩
  obtain ⟨text, hwrite, hread⟩ := hjson
  refine ⟨text, ?_, ?_⟩
  · rw [appToJson, hwrite]
    rfl
  · exact checks_ok_iff.mpr ⟨_, by rw [hread]; rfl, hconsistent.fromSnapshot⟩

/-- An account whose later entry comes first. -/
def shuffledSnapshot : AppSnapshot where
  version := 3
  accounts :=
    [⟨1, none, "Ann", "ann@b", Money.zero, Money.zero, .active,
      [⟨2, 5, .activated, Money.zero, "Account activated"⟩,
       ⟨1, 5, .accountCreated, Money.zero, "Account created"⟩]⟩]
  customers := []
  users := []
  auditEntries := []

def shuffledText : String := String.join
  ["\x7b\"version\":3,\"accounts\":[\x7b\"id\":1,\"owner_id\":null,\"name\":\"Ann\",",
   "\"email\":\"ann@b\",\"balance\":0,\"loan_balance\":0,\"status\":\"active\",",
   "\"transactions\":[\x7b\"id\":2,\"occurred_at_epoch_seconds\":5,",
   "\"kind\":\"activated\",\"amount\":0,\"description\":\"Account activated\"\x7d,",
   "\x7b\"id\":1,\"occurred_at_epoch_seconds\":5,\"kind\":\"account_created\",",
   "\"amount\":0,\"description\":\"Account created\"\x7d]\x7d],",
   "\"customers\":[],\"users\":[]\x7d"]

/-- The state that it is loaded as: the load is on record. -/
def loadedSnapshot : AppSnapshot :=
  { shuffledSnapshot with
    auditEntries :=
      [⟨1, 5, .system, .loadState, .success, some "bank.json", "state loaded"⟩] }

def loadedText : String := String.intercalate "\n"
  ["\x7b", "  \"version\": 3,", "  \"accounts\": [", "    \x7b", "      \"id\": 1,",
   "      \"owner_id\": null,", "      \"name\": \"Ann\",", "      \"email\": \"ann@b\",",
   "      \"balance\": 0,", "      \"loan_balance\": 0,", "      \"status\": \"active\",",
   "      \"transactions\": [", "        \x7b", "          \"id\": 2,",
   "          \"occurred_at_epoch_seconds\": 5,", "          \"kind\": \"activated\",",
   "          \"amount\": 0,", "          \"description\": \"Account activated\"",
   "        \x7d,", "        \x7b", "          \"id\": 1,",
   "          \"occurred_at_epoch_seconds\": 5,", "          \"kind\": \"account_created\",",
   "          \"amount\": 0,", "          \"description\": \"Account created\"",
   "        \x7d", "      ]", "    \x7d", "  ],", "  \"customers\": [],", "  \"users\": [],",
   "  \"audit_entries\": [", "    \x7b", "      \"id\": 1,",
   "      \"occurred_at_epoch_seconds\": 5,", "      \"actor\": \"system\",",
   "      \"action\": \"load_state\",", "      \"outcome\": \"success\",",
   "      \"target\": \"bank.json\",", "      \"message\": \"state loaded\"", "    \x7d",
   "  ]", "\x7d"]

/-- The JSON library on these texts. -/
def shuffledJson : SerdeJson where
  toStringPretty snapshot :=
    if snapshot = loadedSnapshot then .ok loadedText else .error "another snapshot"
  fromStr text :=
    if text = shuffledText then .ok shuffledSnapshot
    else if text = loadedText then .ok loadedSnapshot
    else .error "another text"

theorem shuffledJson_roundTrips : shuffledJson.RoundTrips loadedSnapshot := by
  have hother : loadedText ≠ shuffledText := by decide +kernel
  exact ⟨loadedText, by simp [shuffledJson], by simp [shuffledJson, hother]⟩

def shuffledInputs : List Input :=
  [.command { sampleEnv 5 with read := .ok shuffledText } (.load "bank.json")]

/-- The state that is loaded is consistent, and saved and loaded again it is
the same. -/
theorem files_keep_state_consistent_shuffled :
    let app := Program.after sampleArgon2 shuffledJson shuffledInputs
    (app.bank.history 1).map Transaction.id = [2, 1] ∧ app.Consistent sampleArgon2 ∧
      ∃ text, appToJson shuffledJson app = .ok text ∧
        appFromJson sampleArgon2 shuffledJson text = .ok app.reloaded := by
  intro app
  obtain ⟨hconsistent, hreads⟩ :=
    files_keep_state_consistent sampleArgon2 sampleArgon2_parses shuffledJson shuffledInputs
  have hsnapshot : AppSnapshot.fromState app = loadedSnapshot := by decide +kernel
  exact ⟨by decide +kernel, hconsistent, hreads (hsnapshot ▸ shuffledJson_roundTrips)⟩

end Banck
