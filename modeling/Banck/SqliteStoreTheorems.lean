/-
Banck.SqliteStoreTheorems — what was saved last is what is loaded.

A database that calls of this program left `Holds` at most one state: it is
empty, or has the first version's one row, or the tables and the row of the
version of today. Whichever it is, `migrate` brings it to `Current` without
losing the state (`Holds.migrate`), a save that returns puts its state in
the place of the other, and one that fails leaves what migrating made. A
state without any row is found in the snapshot, which is the snapshot of
the same state.

The clock is read in seconds of a signed 64-bit count, so a reading fits
(`ClockFits`).
-/
import Banck.Program
import Banck.SqliteRecords

namespace Banck

open Lib Mut

/-- The library reads what it writes. -/
def SerdeJson.ReadsBack (json : SerdeJson) : Prop :=
  ∀ snapshot text, json.toStringPretty snapshot = .ok text → json.fromStr text = .ok snapshot

/-- The readings of the clock fit the integers of the database. -/
structure StoreEnv.ClockFits (env : StoreEnv) : Prop where
  firstMigratedAt : FitsI64 env.firstMigratedAt
  secondMigratedAt : FitsI64 env.secondMigratedAt
  thirdMigratedAt : FitsI64 env.thirdMigratedAt
  updatedAt : FitsI64 env.updatedAt

theorem AppState.WellFormed.readsBack {argon2 : Argon2} {app : AppState}
    (h : app.WellFormed argon2) {json : SerdeJson} (hjson : json.ReadsBack) {text : String}
    (hwrite : appToJson json app = .ok text) :
    appFromJson argon2 json text = .ok app.reloaded := by
  have hprinted : json.toStringPretty (.fromState app) = .ok text := by
    rw [appToJson] at hwrite
    rcases hresult : json.toStringPretty (.fromState app) with _ | printed
    · rw [hresult] at hwrite
      cases hwrite
    · rw [hresult] at hwrite
      exact congrArg Except.ok (Except.ok.inj hwrite)
  rw [appFromJson, hjson _ _ hprinted]
  exact h.fromSnapshot

/-! ## The forms of a database -/

/-- The table of the migrations that were applied. -/
def migrationsTable (records : List MigrationRecord) : Table MigrationRecord :=
  OrdMap.ofVals (fun record => record.version.val) records

def versions (records : List MigrationRecord) : List Int :=
  records.map fun record => record.version.val

/-- What the one row of `app_state` says. -/
def SnapshotRow (argon2 : Argon2) (json : SerdeJson) (table : Table SnapshotRecord) :
    Option AppState → Prop
  | none => table[(1 : Int)]? = none
  | some app => ∃ record, table[(1 : Int)]? = some record ∧
      appFromJson argon2 json record.json = .ok app.reloaded

def storedTables : Option AppState → StateTables
  | none => StateTables.empty
  | some app => tablesOf app

/-- A database of the first version, with a snapshot. -/
def Database.schemaV1 (migration : MigrationRecord) (row : SnapshotRecord)
    (metadata : OrdMap String String) : Database :=
  ⟨some (migrationsTable [migration]), some ((∅ : Table SnapshotRecord).insert 1 row),
    some metadata, none, []⟩

/-- The state may be stored. -/
def Storable (argon2 : Argon2) (stored : Option AppState) : Prop :=
  ∀ app ∈ stored, app.WellFormed argon2 ∧ app.FitsSqlite

/-- A database of the version of today that holds the state. -/
inductive Database.Current (argon2 : Argon2) (json : SerdeJson) (stored : Option AppState) :
    Database → Prop
  | tables {records : List MigrationRecord} {table : Table SnapshotRecord}
      {metadata : Option (OrdMap String String)} {indexes : List String}
      (hversions : versions records = [1, 2, 3])
      (hrow : SnapshotRow argon2 json table stored) (hstorable : Storable argon2 stored) :
      Current argon2 json stored
        ⟨some (migrationsTable records), some table, metadata, some (storedTables stored),
          indexes⟩

/-- A database of any version that holds the state. -/
inductive Database.Holds (argon2 : Argon2) (json : SerdeJson) :
    Database → Option AppState → Prop
  | empty : Holds argon2 json Database.empty none
  | schemaV1 {migration : MigrationRecord} {row : SnapshotRecord}
      {metadata : OrdMap String String} {app : AppState}
      (hversion : migration.version.val = 1)
      (hread : appFromJson argon2 json row.json = .ok app.reloaded)
      (hstorable : Storable argon2 (some app)) :
      Holds argon2 json (Database.schemaV1 migration row metadata) (some app)
  | current {db : Database} {stored : Option AppState}
      (h : db.Current argon2 json stored) : Holds argon2 json db stored

/-! ## Migrations -/

section Runs

variable {argon2 : Argon2} {json : SerdeJson} {env : StoreEnv}
  {records : List MigrationRecord} {appState : Option (Table SnapshotRecord)}
  {table : Table SnapshotRecord} {metadata : Option (OrdMap String String)}
  {tables : Option StateTables} {indexes : List String} {stored : Option AppState}

theorem currentEpochI64_ok {now : Nat} (h : FitsI64 now) :
    currentEpochI64 now = .ok (i64OfNat now) := u64ToI64_ok h _

theorem currentSchemaVersion_run
    (h : (versions records).Pairwise (· < ·)) :
    currentSchemaVersion env ⟨some (migrationsTable records), appState, metadata, tables,
        indexes⟩ =
      (.ok ((versions records).max?.getD 0),
        ⟨some (migrationsTable records), appState, metadata, tables, indexes⟩) := by
  have hvals : (migrationsTable records).vals = records :=
    OrdMap.vals_ofVals ((List.pairwise_map.mp h).imp fun hlt => Std.compare_eq_lt.mpr hlt)
  rw [← congrArg versions hvals]
  rfl

/-- A migration that was not applied is written down. -/
theorem insertMigration_run (version : I64) (name : String) {now : Nat} (hnow : FitsI64 now)
    (hfresh : (versions records ++ [version.val]).Nodup) :
    insertMigration env version name now ⟨some (migrationsTable records), appState, metadata,
        tables, indexes⟩ =
      (.ok (), ⟨some (migrationsTable (records ++ [⟨version, name, i64OfNat now⟩])), appState,
        metadata, tables, indexes⟩) := by
  have hrecords : ((records ++ [(⟨version, name, i64OfNat now⟩ : MigrationRecord)]).map
      fun record => record.version.val).Nodup := by
    rwa [List.map_append]
  have habsent : (migrationsTable records).contains version.val = false :=
    OrdMap.ofVals_fresh hrecords
  have hinsert : (do
      let table ← get
      Table.ensureFresh "schema_migrations.version" table version.val
      modify fun table => table.insert version.val ⟨version, name, i64OfNat now⟩ :
        Mut (Table MigrationRecord) SqlError Unit) (migrationsTable records) =
      (.ok (), migrationsTable (records ++ [⟨version, name, i64OfNat now⟩])) := by
    rw [bind_run_ok (get_run _), bind_run_ok (Table.ensureFresh_run habsent), modify_run,
      migrationsTable, migrationsTable, OrdMap.ofVals_snoc]
  rw [insertMigration, currentEpochI64_ok hnow, bind_run_ok (lift_run _ _)]
  refine sqlite_ok env (Eq.trans (Table.onTable_run (by rfl)) ?_)
  rw [hinsert]

theorem applyMigration1_run (hclock : env.ClockFits) :
    applyMigration1 env ⟨some (migrationsTable []), none, none, tables, indexes⟩ =
      (.ok (), ⟨some (migrationsTable
          [⟨⟨1, by decide⟩, "create_app_state_snapshot", i64OfNat env.firstMigratedAt⟩]),
        some ∅, some ∅, tables, indexes⟩) := by
  rw [applyMigration1, bind_run_ok (sqlite_ok env (Table.create_run rfl)),
    bind_run_ok (sqlite_ok env (Table.create_run rfl)),
    insertMigration_run _ _ hclock.firstMigratedAt (by simp [versions])]
  rfl

variable (env records metadata tables indexes) in
theorem readSnapshotState_run (h : SnapshotRow argon2 json table stored) :
    readSnapshotState argon2 json env ⟨some (migrationsTable records), some table, metadata,
        tables, indexes⟩ =
      (.ok (stored.map AppState.reloaded), ⟨some (migrationsTable records), some table,
        metadata, tables, indexes⟩) := by
  have hget : sqlite env (onAppState get) ⟨some (migrationsTable records), some table,
      metadata, tables, indexes⟩ = (.ok table, ⟨some (migrationsTable records), some table,
      metadata, tables, indexes⟩) := rfl
  rw [readSnapshotState, bind_run_ok hget]
  cases stored with
  | none =>
    rw [show table[(1 : Int)]? = none from h]
    rfl
  | some app =>
    obtain ⟨record, hrow, hread⟩ := h
    rw [hrow]
    dsimp only
    rw [hread]
    rfl

/-- The tables are written in a transaction. -/
theorem onStateTables_run {α : Type} {m : Mut StateTables SqliteStoreError α}
    {before after : StateTables} {a : α} (first : String) (h : m before = (.ok a, after)) :
    onStateTables env first m ⟨some (migrationsTable records), appState, metadata, some before,
        indexes⟩ =
      (.ok a, ⟨some (migrationsTable records), appState, metadata, some after, indexes⟩) := by
  rw [onStateTables, Table.onTable_run (by rfl), h]

theorem Storable.reloaded (h : Storable argon2 stored) :
    Storable argon2 (stored.map AppState.reloaded) := by
  intro app happ
  obtain ⟨original, horiginal, rfl⟩ := Option.mem_map.mp happ
  obtain ⟨hwf, hfits⟩ := h original horiginal
  exact ⟨hwf.reloaded, ⟨hfits.transactions, hfits.auditEntries⟩⟩

theorem applyMigration2_run (hclock : env.ClockFits) (hrow : SnapshotRow argon2 json table stored)
    (hstorable : Storable argon2 stored)
    (hfresh : (versions records ++ [2]).Nodup) :
    applyMigration2 argon2 json env ⟨some (migrationsTable records), some table, metadata, none,
        indexes⟩ =
      (.ok (), ⟨some (migrationsTable (records ++
          [⟨⟨2, by decide⟩, "create_normalized_state_tables", i64OfNat env.secondMigratedAt⟩])),
        some table, metadata, some (storedTables stored), indexes⟩) := by
  have hcreate : sqlite env (Table.create "customers" Database.stateTables
      (fun tables db => { db with stateTables := some tables }) StateTables.empty)
      ⟨some (migrationsTable records), some table, metadata, none, indexes⟩ =
      (.ok (), ⟨some (migrationsTable records), some table, metadata, some StateTables.empty,
        indexes⟩) := rfl
  rw [applyMigration2, bind_run_ok (readSnapshotState_run _ _ _ _ _ hrow), atomically_run,
    bind_run_ok hcreate, bind_run_ok (insertMigration_run _ _ hclock.secondMigratedAt hfresh)]
  cases stored with
  | none => rfl
  | some app =>
    obtain ⟨hwf, hfits⟩ := hstorable.reloaded app.reloaded rfl
    dsimp only [Option.map_some]
    rw [onStateTables_run _ (writeNormalizedState_run env hwf hfits _)]
    rfl

variable (env records appState metadata) in
theorem createIndexes_run (list : List (String × String)) (tables : StateTables) :
    ∀ indexes, ∃ indexes', forEach (createIndex env) list
        ⟨some (migrationsTable records), appState, metadata, some tables, indexes⟩ =
      (.ok (), ⟨some (migrationsTable records), appState, metadata, some tables, indexes'⟩) := by
  induction list with
  | nil => exact fun indexes => ⟨indexes, rfl⟩
  | cons index rest ih =>
    intro indexes
    rw [forEach, andThen, createIndex, bind_run_ok (onStateTables_run _ (pure_run () tables)),
      modify_run]
    split_ifs with hthere
    · exact ih indexes
    · exact ih (indexes ++ [index.1])

variable (records appState metadata indexes) in
theorem applyMigration3_run (hclock : env.ClockFits) (tables : StateTables)
    (hfresh : (versions records ++ [3]).Nodup) :
    ∃ indexes', applyMigration3 env ⟨some (migrationsTable records), appState, metadata,
        some tables, indexes⟩ =
      (.ok (), ⟨some (migrationsTable (records ++
          [⟨⟨3, by decide⟩, "add_query_indexes", i64OfNat env.thirdMigratedAt⟩])),
        appState, metadata, some tables, indexes'⟩) := by
  obtain ⟨indexes', hindexes⟩ := createIndexes_run env records appState metadata queryIndexes
    tables indexes
  refine ⟨indexes', ?_⟩
  rw [applyMigration3, bind_run_ok hindexes,
    insertMigration_run _ _ hclock.thirdMigratedAt hfresh]

end Runs

/-! ## The calls -/

section Calls

variable {argon2 : Argon2} {json : SerdeJson} {env : StoreEnv} {db : Database}
  {stored : Option AppState}

theorem Database.Current.migrate (h : db.Current argon2 json stored) (env : StoreEnv) :
    migrate argon2 json env db = (.ok (), db) := by
  obtain ⟨hversions, hrow, hstorable⟩ := h
  rename_i records table metadata indexes
  have hensure : ensureMigrationTable ⟨some (migrationsTable records), some table, metadata,
      some (storedTables stored), indexes⟩ = (.ok (), ⟨some (migrationsTable records),
      some table, metadata, some (storedTables stored), indexes⟩) := rfl
  rw [Banck.migrate, bind_run_ok hensure,
    bind_run_ok (currentSchemaVersion_run (by rw [hversions]; decide)), hversions,
    bind_run_ok (ensure_run (by decide) _ _), bind_run_ok (runIf_neg (by decide) _ _),
    bind_run_ok (runIf_neg (by decide) _ _), runIf_neg (by decide)]

/-- Migrating loses nothing. -/
theorem Database.Holds.migrate (h : db.Holds argon2 json stored) (hclock : env.ClockFits) :
    ∃ db', migrate argon2 json env db = (.ok (), db') ∧ db'.Current argon2 json stored := by
  cases h with
  | current h => exact ⟨db, h.migrate env, h⟩
  | empty =>
    have hensure : ensureMigrationTable Database.empty =
        (.ok (), ⟨some (migrationsTable []), none, none, none, []⟩) := rfl
    have hrow : SnapshotRow argon2 json ∅ none := Std.ExtTreeMap.getElem?_empty
    have hstorable : Storable argon2 none := fun app happ => by cases happ
    obtain ⟨indexes, hindexes⟩ := applyMigration3_run
      ([⟨⟨1, by decide⟩, "create_app_state_snapshot", i64OfNat env.firstMigratedAt⟩]
        ++ [⟨⟨2, by decide⟩, "create_normalized_state_tables", i64OfNat env.secondMigratedAt⟩])
      (some ∅) (some ∅) [] hclock (storedTables none) (by simp [versions])
    refine ⟨_, Eq.trans ?_ hindexes, .tables (by simp [versions]) hrow hstorable⟩
    rw [Banck.migrate, bind_run_ok hensure,
      bind_run_ok (currentSchemaVersion_run (by simp [versions])),
      bind_run_ok (ensure_run (by decide) _ _), runIf_pos (by decide),
      bind_run_ok (applyMigration1_run hclock), runIf_pos (by decide),
      bind_run_ok (applyMigration2_run hclock hrow hstorable (by simp [versions])),
      runIf_pos (by decide)]
  | schemaV1 hversion hread hstorable =>
    rename_i migration row metadata app
    have hensure : ensureMigrationTable (Database.schemaV1 migration row metadata) =
        (.ok (), Database.schemaV1 migration row metadata) := rfl
    have hrow : SnapshotRow argon2 json ((∅ : Table SnapshotRecord).insert 1 row) (some app) :=
      ⟨row, OrdMap.get_insert_self _ _ _, hread⟩
    have hversions : versions [migration] = [1] := congrArg (fun v => [v]) hversion
    obtain ⟨indexes, hindexes⟩ := applyMigration3_run
      ([migration]
        ++ [⟨⟨2, by decide⟩, "create_normalized_state_tables", i64OfNat env.secondMigratedAt⟩])
      (some ((∅ : Table SnapshotRecord).insert 1 row)) (some metadata) [] hclock
      (storedTables (some app)) (by simp [versions, hversion])
    refine ⟨_, Eq.trans ?_ hindexes, .tables (by simp [versions, hversion]) hrow hstorable⟩
    rw [Banck.migrate, bind_run_ok hensure, Database.schemaV1,
      bind_run_ok (currentSchemaVersion_run (by rw [hversions]; decide)), hversions,
      bind_run_ok (ensure_run (by decide) _ _), bind_run_ok (runIf_neg (by decide) _ _),
      runIf_pos (by decide), bind_run_ok (applyMigration2_run hclock hrow hstorable
        (by rw [hversions]; decide)), runIf_pos (by decide)]

def loadResult : Option AppState → SqliteStoreResult AppState
  | some app => .ok app.reloaded
  | none => .error .missingState

/-- The state that was saved last is read from the tables, or, if it has no
rows, from its snapshot. -/
theorem Database.Current.load (h : db.Current argon2 json stored) (env : StoreEnv) :
    loadAppFromSqliteFile argon2 json env db = (loadResult stored, db) := by
  rw [loadAppFromSqliteFile, bind_run_ok (h.migrate env)]
  obtain ⟨hversions, hrow, hstorable⟩ := h
  rename_i records table metadata indexes
  have hsnapshot := readSnapshotState_run env records metadata (some (storedTables stored))
    indexes hrow
  have hread : readNormalizedState argon2 env ⟨some (migrationsTable records), some table,
      metadata, some (storedTables stored), indexes⟩ =
      ((storedTables stored).readNormalizedState argon2, ⟨some (migrationsTable records),
        some table, metadata, some (storedTables stored), indexes⟩) := rfl
  cases stored with
  | none =>
    have hnone : (storedTables none).readNormalizedState argon2 = .ok none := rfl
    rw [hnone] at hread
    rw [bind_run_ok hread]
    dsimp only
    rw [bind_run_ok hsnapshot]
    rfl
  | some app =>
    obtain ⟨hwf, hfits⟩ := hstorable app rfl
    have hrows := readNormalizedState_tablesOf hwf hfits
    rw [show (storedTables (some app)).readNormalizedState argon2 = _ from hrows] at hread
    rw [bind_run_ok hread]
    cases (tablesOf app).hasNormalizedRows with
    | true => rfl
    | false =>
      show (readSnapshotState argon2 json env >>= _) _ = _
      rw [bind_run_ok hsnapshot]
      rfl

/-- What is loaded does not depend on the version of the database. -/
theorem Database.Holds.load (h : db.Holds argon2 json stored) (hclock : env.ClockFits) :
    (loadAppFromSqliteFile argon2 json env db).1 = loadResult stored ∧
      (loadAppFromSqliteFile argon2 json env db).2.Holds argon2 json stored := by
  obtain ⟨db', hmigrate, hcurrent⟩ := h.migrate hclock
  have hload := hcurrent.load env
  rw [loadAppFromSqliteFile, bind_run_ok (hcurrent.migrate env)] at hload
  rw [loadAppFromSqliteFile, bind_run_ok hmigrate, hload]
  exact ⟨rfl, .current hcurrent⟩

/-- The transaction of a save. -/
def writeState (json : SerdeJson) (env : StoreEnv) (state : AppState) : StoreM Unit :=
  atomically do
    onStateTables env "transactions" (writeNormalizedState env state)
    writeSnapshotState json env state

/-- The tables and the row are written together. -/
theorem writeState_run {records : List MigrationRecord} {table : Table SnapshotRecord}
    {metadata : Option (OrdMap String String)} {before : StateTables} {indexes : List String}
    {app : AppState} (hwf : app.WellFormed argon2) (hfits : app.FitsSqlite)
    (hclock : env.ClockFits) {text : String} (htext : appToJson json app = .ok text) :
    writeState json env app ⟨some (migrationsTable records), some table, metadata, some before,
        indexes⟩ =
      (.ok (), ⟨some (migrationsTable records),
        some (table.insert 1 ⟨text, i64OfNat env.updatedAt⟩), metadata, some (tablesOf app),
        indexes⟩) := by
  have hsnapshot : writeSnapshotState json env app ⟨some (migrationsTable records), some table,
      metadata, some (tablesOf app), indexes⟩ =
      (.ok (), ⟨some (migrationsTable records),
        some (table.insert 1 ⟨text, i64OfNat env.updatedAt⟩), metadata, some (tablesOf app),
        indexes⟩) := by
    rw [writeSnapshotState, htext]
    show (lift (currentEpochI64 env.updatedAt) >>= _) _ = _
    rw [currentEpochI64_ok hclock.updatedAt]
    rfl
  rw [writeState, atomically_run,
    bind_run_ok (onStateTables_run _ (writeNormalizedState_run env hwf hfits _)), hsnapshot]

theorem Database.Current.writeState (h : db.Current argon2 json stored) {app : AppState}
    (hwf : app.WellFormed argon2) (hfits : app.FitsSqlite) (hclock : env.ClockFits)
    (hjson : json.ReadsBack) {text : String} (htext : appToJson json app = .ok text) :
    ∃ db', writeState json env app db = (.ok (), db') ∧ db'.Current argon2 json (some app) := by
  obtain ⟨hversions, hrow, hstorable⟩ := h
  refine ⟨_, writeState_run hwf hfits hclock htext, .tables hversions
    ⟨_, OrdMap.get_insert_self _ _ _, hwf.readsBack hjson htext⟩ fun app' happ' => ?_⟩
  obtain rfl := Option.some.inj happ'
  exact ⟨hwf, hfits⟩

/-- A save that returns puts its state in the place of the other. -/
theorem Database.Holds.save (h : db.Holds argon2 json stored) {app : AppState}
    (hwf : app.WellFormed argon2) (hfits : app.FitsSqlite) (hclock : env.ClockFits)
    (hjson : json.ReadsBack) {text : String} (htext : appToJson json app = .ok text) :
    (saveAppToSqliteFile argon2 json env app db).1 = .ok () ∧
      (saveAppToSqliteFile argon2 json env app db).2.Holds argon2 json (some app) := by
  obtain ⟨db', hmigrate, hcurrent⟩ := h.migrate hclock
  obtain ⟨after, hwrite, hafter⟩ := hcurrent.writeState hwf hfits hclock hjson htext
  have hsave : saveAppToSqliteFile argon2 json env app db = (.ok (), after) := by
    rw [saveAppToSqliteFile, bind_run_ok hmigrate]
    exact hwrite
  rw [hsave]
  exact ⟨rfl, .current hafter⟩

/-- A save that fails leaves the state as it was, whatever it was to
save. -/
theorem Database.Holds.save_error (h : db.Holds argon2 json stored) (hclock : env.ClockFits)
    {app : AppState} {e : SqliteStoreError}
    (hfail : (saveAppToSqliteFile argon2 json env app db).1 = .error e) :
    (saveAppToSqliteFile argon2 json env app db).2.Holds argon2 json stored := by
  obtain ⟨db', hmigrate, hcurrent⟩ := h.migrate hclock
  have hsave : saveAppToSqliteFile argon2 json env app db = Banck.writeState json env app db' := by
    rw [saveAppToSqliteFile, bind_run_ok hmigrate]
    rfl
  rw [hsave, Banck.writeState, atomically_run] at hfail ⊢
  split at hfail
  · cases hfail
  · exact .current hcurrent

end Calls

/-! ## What this program builds -/

/-- What calls of this program may pass on to later calls: a program with
its state, a text, and a database with the state that it should hold. -/
inductive Artifact where
  | program (program : Program)
  | text (text : String)
  | database (db : Database) (stored : Option AppState)

section OpBuilt

variable (argon2 : Argon2) (json : SerdeJson)

/-- Built by requests, commands and files of this program only. A database
is written by saves of states that fit it and by saves that fail. -/
inductive OpBuilt : Artifact → Prop
  | new : OpBuilt (.program Program.new)
  | step {program : Program} (input : Input) (h : OpBuilt (.program program))
      (hload : input.loaded argon2 json = none) :
      OpBuilt (.program (Program.step argon2 json program input).2)
  | load {program : Program} {env : Cli.CliEnv} {text : String} (path : String)
      (h : OpBuilt (.program program)) (hread : env.read = .ok text)
      (htext : OpBuilt (.text text)) :
      OpBuilt (.program (Program.step argon2 json program (.command env (.load path))).2)
  | loadSqlite {program : Program} {env : Cli.CliEnv} {stored : Option AppState} (path : String)
      (h : OpBuilt (.program program)) (hdatabase : OpBuilt (.database env.database stored))
      (hclock : env.store.ClockFits) :
      OpBuilt (.program (Program.step argon2 json program (.command env (.loadSqlite path))).2)
  | text {program : Program} {text : String} (h : OpBuilt (.program program))
      (htext : appToJson json program.app = .ok text) : OpBuilt (.text text)
  | emptyDatabase : OpBuilt (.database Database.empty none)
  | schemaV1 {program : Program} {migration : MigrationRecord} {row : SnapshotRecord}
      (metadata : OrdMap String String) (h : OpBuilt (.program program))
      (hfits : program.app.FitsSqlite) (hversion : migration.version.val = 1)
      (hrow : appToJson json program.app = .ok row.json) :
      OpBuilt (.database (Database.schemaV1 migration row metadata) (some program.app))
  | saved {db : Database} {stored : Option AppState} {env : StoreEnv} {program : Program}
      {text : String} (hdatabase : OpBuilt (.database db stored)) (hclock : env.ClockFits)
      (h : OpBuilt (.program program)) (hfits : program.app.FitsSqlite)
      (htext : appToJson json program.app = .ok text) :
      OpBuilt (.database (saveAppToSqliteFile argon2 json env program.app db).2
        (some program.app))
  | refused {db : Database} {stored : Option AppState} {env : StoreEnv} {app : AppState}
      {e : SqliteStoreError} (hdatabase : OpBuilt (.database db stored))
      (hclock : env.ClockFits)
      (hfail : (saveAppToSqliteFile argon2 json env app db).1 = .error e) :
      OpBuilt (.database (saveAppToSqliteFile argon2 json env app db).2 stored)
  | loaded {db : Database} {stored : Option AppState} {env : StoreEnv}
      (hdatabase : OpBuilt (.database db stored)) (hclock : env.ClockFits) :
      OpBuilt (.database (loadAppFromSqliteFile argon2 json env db).2 stored)

/-- A well-formed state, its text, or a database that holds it. -/
def Artifact.Sound : Artifact → Prop
  | .program built => built.app.WellFormed argon2
  | .text written => ∃ app : AppState, app.WellFormed argon2 ∧
      appToJson json app = .ok written
  | .database db stored => db.Holds argon2 json stored

end OpBuilt

section Sound

variable {argon2 : Argon2} {json : SerdeJson}

theorem Database.Holds.wellFormed {db : Database} {app : AppState}
    (h : db.Holds argon2 json (some app)) : app.WellFormed argon2 ∧ app.FitsSqlite := by
  cases h with
  | schemaV1 hversion hread hstorable => exact hstorable app rfl
  | current h =>
    obtain ⟨hversions, hrow, hstorable⟩ := h
    exact hstorable app rfl

theorem OpBuilt.sound (hargon : argon2.ParsesOwnHashes) (hjson : json.ReadsBack)
    {artifact : Artifact} (h : OpBuilt argon2 json artifact) :
    artifact.Sound argon2 json := by
  induction h with
  | new => exact AppState.wellFormed_new
  | step input _ hload ih => exact Program.step_wellFormed hargon ih hload
  | load path _ hread _ ih ihtext =>
    obtain ⟨app, hwf, htext⟩ := ihtext
    refine Cli.run_wellFormed hargon _ _ ih fun app' happ' => ?_
    rw [Cli.Command.loaded, loadAppFromJsonFile, hread] at happ'
    have hloaded : app' ∈ (appFromJson argon2 json _).toOption := happ'
    rw [hwf.readsBack hjson htext] at hloaded
    obtain rfl := Option.some.inj hloaded
    exact hwf.reloaded
  | loadSqlite path _ _ hclock ih ihdatabase =>
    rename_i program env stored hprogram hdatabase
    refine Cli.run_wellFormed hargon _ _ ih fun app' happ' => ?_
    have hclock' : ({ env.store with path } : StoreEnv).ClockFits :=
      ⟨hclock.1, hclock.2, hclock.3, hclock.4⟩
    rw [Cli.Command.loaded, (Database.Holds.load ihdatabase hclock').1] at happ'
    cases stored with
    | none => cases happ'
    | some app =>
      obtain rfl := Option.some.inj happ'
      exact (Database.Holds.wellFormed ihdatabase).1.reloaded
  | text _ htext ih => exact ⟨_, ih, htext⟩
  | emptyDatabase => exact .empty
  | schemaV1 metadata _ hfits hversion hrow ih =>
    refine .schemaV1 hversion (ih.readsBack hjson hrow) fun app happ => ?_
    obtain rfl := Option.some.inj happ
    exact ⟨ih, hfits⟩
  | saved _ hclock _ hfits htext ihdatabase ih =>
    exact (ihdatabase.save ih hfits hclock hjson htext).2
  | refused _ hclock hfail ih => exact ih.save_error hclock hfail
  | loaded _ hclock ih => exact (ih.load hclock).2

theorem OpBuilt.run {inputs : List Input}
    (hload : ∀ input ∈ inputs, input.loaded argon2 json = none) :
    ∀ {program : Program}, OpBuilt argon2 json (.program program) →
      OpBuilt argon2 json
        (.program (Machine.final (Program.step argon2 json) program inputs)) := by
  induction inputs with
  | nil => exact fun h => h
  | cons input rest ih =>
    intro program h
    exact ih (fun i hi => hload i (by simp [hi])) (h.step input (hload input (by simp)))

end Sound

/-! ## Saves in a row -/

structure Save where
  env : StoreEnv
  state : AppState

section Saves

variable (argon2 : Argon2) (json : SerdeJson)

/-- A save of a state that was built here, fits the database and is
written by the library. -/
structure Save.OpBuilt (save : Save) : Prop where
  clock : save.env.ClockFits
  built : ∃ program, Banck.OpBuilt argon2 json (.program program) ∧ program.app = save.state
  fits : save.state.FitsSqlite
  written : ∃ text, appToJson json save.state = .ok text

def saveAll (saves : List Save) (db : Database) : Database :=
  saves.foldl (fun db save => (saveAppToSqliteFile argon2 json save.env save.state db).2) db

/-- The state of the last save; `stored` if there is none. -/
def lastSaved (saves : List Save) (stored : Option AppState) : Option AppState :=
  (saves.getLast?.map Save.state).or stored

/-- The result of a load has the accounts, customers, users and audit
entries of the state; without a state it is the error that none is there. -/
def LoadsAs (result : SqliteStoreResult AppState) : Option AppState → Prop
  | none => result = .error .missingState
  | some app => ∃ restored, result = .ok restored ∧
      restored.bank.accounts = app.bank.accounts ∧ restored.identities = app.identities ∧
        restored.auditLog = app.auditLog

variable {argon2 json}

theorem loadResult_loadsAs (stored : Option AppState) : LoadsAs (loadResult stored) stored := by
  cases stored with
  | none => rfl
  | some app => exact ⟨app.reloaded, rfl, rfl, rfl, rfl⟩

theorem saveAll_opBuilt {saves : List Save} (hsaves : ∀ save ∈ saves, save.OpBuilt argon2 json) :
    ∀ {db : Database} {stored : Option AppState}, OpBuilt argon2 json (.database db stored) →
      OpBuilt argon2 json
        (.database (saveAll argon2 json saves db) (lastSaved saves stored)) := by
  induction saves with
  | nil => exact fun h => h
  | cons save rest ih =>
    intro db stored h
    obtain ⟨hclock, ⟨program, hprogram, happ⟩, hfits, ⟨text, htext⟩⟩ :=
      hsaves save List.mem_cons_self
    rw [← happ] at hfits htext
    have hrest := ih (fun s hs => hsaves s (List.mem_cons_of_mem save hs))
      (h.saved hclock hprogram hfits htext)
    rw [happ] at hrest
    have hlast : lastSaved (save :: rest) stored = lastSaved rest (some save.state) := by
      unfold lastSaved
      rw [List.getLast?_cons]
      cases rest.getLast? <;> rfl
    rw [hlast]
    exact hrest

end Saves

/-- On a database that this program made, or one of the first version with
a text it wrote, saves in a row all return; a load afterwards gives the
state saved last, or the one that was there; and a save that fails, of
whatever state, changes nothing of this. -/
theorem sqlite_loads_last_save (argon2 : Argon2) (hargon : argon2.ParsesOwnHashes)
    (json : SerdeJson) (hjson : json.ReadsBack) (start : Database) (stored : Option AppState)
    (hstart : OpBuilt argon2 json (.database start stored)) (saves : List Save)
    (hsaves : ∀ save ∈ saves, save.OpBuilt argon2 json) :
    let db := saveAll argon2 json saves start
    (∀ env : StoreEnv, env.ClockFits →
      LoadsAs (loadAppFromSqliteFile argon2 json env db).1 (lastSaved saves stored)) ∧
    (∀ save : Save, save.OpBuilt argon2 json →
      (saveAppToSqliteFile argon2 json save.env save.state db).1 = .ok ()) ∧
    (∀ (save : Save) (e : SqliteStoreError), save.env.ClockFits →
      (saveAppToSqliteFile argon2 json save.env save.state db).1 = .error e →
      ∀ env : StoreEnv, env.ClockFits →
        (loadAppFromSqliteFile argon2 json env
          (saveAppToSqliteFile argon2 json save.env save.state db).2).1 =
        (loadAppFromSqliteFile argon2 json env db).1) := by
  intro db
  have hholds : db.Holds argon2 json (lastSaved saves stored) :=
    (saveAll_opBuilt hsaves hstart).sound hargon hjson
  refine ⟨fun env hclock => ?_, fun save hsave => ?_, fun save e hclock hfail env henv => ?_⟩
  · rw [(hholds.load hclock).1]
    exact loadResult_loadsAs _
  · obtain ⟨hclock, ⟨program, hprogram, happ⟩, hfits, ⟨text, htext⟩⟩ := hsave
    have hwf : save.state.WellFormed argon2 := happ ▸ hprogram.sound hargon hjson
    exact (hholds.save hwf hfits hclock hjson htext).1
  · rw [((hholds.save_error hclock hfail).load henv).1, (hholds.load henv).1]

theorem sampleJson_readsBack : sampleJson.ReadsBack := by
  intro snapshot text h
  unfold sampleJson at h ⊢
  dsimp only at h ⊢
  split at h
  · next hsame => rw [if_pos (Except.ok.inj h).symm, hsame]
  · split at h
    · next hsame =>
      obtain rfl := Except.ok.inj h
      have hother : emptyText ≠ sampleText := by decide +kernel
      rw [if_neg hother, if_pos rfl, hsame]
    · cases h

theorem sampleEnv_clockFits (now : Nat) : (sampleEnv now).store.ClockFits :=
  ⟨show FitsI64 5 by decide, show FitsI64 5 by decide, show FitsI64 5 by decide,
    show FitsI64 5 by decide⟩

/-- The state of the first administrator's run. -/
def sampleSave : Save :=
  ⟨(sampleEnv 7).store, Program.after sampleArgon2 sampleJson sampleInputs⟩

theorem sampleSave_opBuilt : sampleSave.OpBuilt sampleArgon2 sampleJson := by
  have hsnapshot : AppSnapshot.fromState sampleSave.state = sampleSnapshot := by decide +kernel
  have haccounts : sampleSave.state.bank.accountList = sampleSnapshot.accounts :=
    congrArg AppSnapshot.accounts hsnapshot
  have hentries : sampleSave.state.auditLog.entries = sampleSnapshot.auditEntries :=
    congrArg AppSnapshot.auditEntries hsnapshot
  refine ⟨sampleEnv_clockFits 7,
    ⟨_, OpBuilt.new.run (by simp [sampleInputs, Input.loaded, Cli.Command.loaded]), rfl⟩, ⟨?_, ?_⟩,
    ⟨sampleText, by simp [appToJson, hsnapshot, sampleJson, Except.mapError]⟩⟩
  · rw [haccounts]
    simp [sampleSnapshot, FitsI64, i64Max]
  · rw [hentries]
    simp [sampleSnapshot, FitsI64, i64Max]

/-- The state of a new program. -/
def newSave : Save := ⟨(sampleEnv 6).store, AppState.new⟩

theorem newSave_opBuilt : newSave.OpBuilt sampleArgon2 sampleJson := by
  have hsnapshot : AppSnapshot.fromState newSave.state = emptySnapshot := by decide +kernel
  have haccounts : newSave.state.bank.accountList = [] :=
    congrArg AppSnapshot.accounts hsnapshot
  have hentries : newSave.state.auditLog.entries = [] :=
    congrArg AppSnapshot.auditEntries hsnapshot
  have hother : emptySnapshot ≠ sampleSnapshot := by decide
  refine ⟨sampleEnv_clockFits 6, ⟨_, OpBuilt.new, rfl⟩, ⟨?_, ?_⟩,
    ⟨emptyText, by simp [appToJson, hsnapshot, sampleJson, hother, Except.mapError]⟩⟩
  · rw [haccounts]
    simp
  · rw [hentries]
    simp

/-- A new file is saved to before and after the first administrator's run,
and loaded from. -/
theorem sqlite_loads_last_save_sample :
    newSave.state.bank.accountList ≠ sampleSave.state.bank.accountList ∧
    LoadsAs (loadAppFromSqliteFile sampleArgon2 sampleJson (sampleEnv 8).store
      (saveAll sampleArgon2 sampleJson [newSave, sampleSave] Database.empty)).1
      (some sampleSave.state) := by
  have hsaves : ∀ save ∈ [newSave, sampleSave], save.OpBuilt sampleArgon2 sampleJson := by
    simpa using ⟨newSave_opBuilt, sampleSave_opBuilt⟩
  exact ⟨by decide +kernel,
    (sqlite_loads_last_save sampleArgon2 sampleArgon2_parses sampleJson sampleJson_readsBack
      Database.empty none .emptyDatabase _ hsaves).1 (sampleEnv 8).store (sampleEnv_clockFits 8)⟩

end Banck
