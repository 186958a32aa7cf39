/-
Banck.SqliteMigrations — a run of the migrations that is cut off and
started again.

`migrate` commits statement by statement, except that the second migration
is one transaction. `migrationStatements` lists what a run commits
(`migrate_eq`), and `migrateUntil` is the database a run leaves that is cut
off between two of them. What the program leaves at a version (`Left`) it
leaves at a version again (`Left.migrateUntil`), so a new run finds
something it can go on with. The one exception is the first migration: its
tables are made before its version is written down, and not with
`IF NOT EXISTS`.
-/
import Banck.SqliteStoreTheorems

namespace Banck

open Lib Mut

/-! ## The statements of a run -/

section Statements

variable (argon2 : Argon2) (json : SerdeJson) (env : StoreEnv)

/-- What the first migration commits, one after the other. -/
def migration1Statements : List (StoreM Unit) :=
  [sqlite env (Table.create "app_state" Database.appState
      (fun table db => { db with appState := some table }) ∅),
    sqlite env (Table.create "app_metadata" Database.appMetadata
      (fun table db => { db with appMetadata := some table }) ∅),
    insertMigration env ⟨1, inI64_one⟩ "create_app_state_snapshot" env.firstMigratedAt]

def migration3Statements : List (StoreM Unit) :=
  queryIndexes.map (createIndex env) ++
    [insertMigration env ⟨3, inI64_three⟩ "add_query_indexes" env.thirdMigratedAt]

/-- What a run commits after it read the version. -/
def migrationStatements (version : Int) : List (StoreM Unit) :=
  (if version < 1 then migration1Statements env else []) ++
    ((if version < 2 then [applyMigration2 argon2 json env] else []) ++
      (if version < 3 then migration3Statements env else []))

/-- The database a run leaves that is cut off after so many commits. The
table of the migrations is the first. -/
def migrateUntil (commits : Nat) (db : Database) : Database :=
  match commits with
  | 0 => db
  | commits + 1 =>
      let prepared := (ensureMigrationTable db).2
      match currentSchemaVersion env prepared with
      | (.ok version, _) =>
          (inOrder ((migrationStatements argon2 json env version).take commits) prepared).2
      | (.error _, _) => prepared

variable {argon2 json env}

theorem inOrder_migration1 : inOrder (migration1Statements env) = applyMigration1 env := by
  unfold migration1Statements inOrder
  simp only [forEach, andThen_ret]
  rfl

theorem inOrder_migration3 : inOrder (migration3Statements env) = applyMigration3 env := by
  unfold migration3Statements inOrder
  rw [forEach_append, forEach_map]
  simp only [forEach, andThen_ret]
  rfl

theorem inOrder_if {p : Prop} [Decidable p] (steps : List (StoreM Unit)) :
    inOrder (if p then steps else []) = runIf p (inOrder steps) := by
  unfold runIf
  split_ifs <;> rfl

theorem inOrder_migrationStatements (version : Int) :
    inOrder (migrationStatements argon2 json env version) = (do
      runIf (version < 1) (applyMigration1 env)
      runIf (version < 2) (applyMigration2 argon2 json env)
      runIf (version < 3) (applyMigration3 env)) := by
  have h1 := inOrder_if (p := version < 1) (migration1Statements env)
  have h2 := inOrder_if (p := version < 2) [applyMigration2 argon2 json env]
  have h3 := inOrder_if (p := version < 3) (migration3Statements env)
  rw [inOrder_migration1] at h1
  rw [show inOrder [applyMigration2 argon2 json env] = _ from andThen_ret _] at h2
  rw [inOrder_migration3] at h3
  rw [migrationStatements, inOrder, forEach_append, forEach_append]
  rw [inOrder] at h1 h2 h3
  rw [h1, h2, h3]
  rfl

/-- A run is the sequence of its statements. -/
theorem migrate_eq : migrate argon2 json env = (do
    ensureMigrationTable
    let version ← currentSchemaVersion env
    ensure (version ≤ currentSqliteSchemaVersion) (.unsupportedSchemaVersion version)
    inOrder (migrationStatements argon2 json env version)) := by
  simp only [inOrder_migrationStatements]
  rfl

section Run

variable {db prepared : Database} {version : Int}
  (hensure : ensureMigrationTable db = (.ok (), prepared))
  (hread : currentSchemaVersion env prepared = (.ok version, prepared))

include hensure hread

theorem migrate_run (hversion : version ≤ currentSqliteSchemaVersion) :
    migrate argon2 json env db =
      inOrder (migrationStatements argon2 json env version) prepared := by
  rw [migrate_eq, bind_run_ok hensure, bind_run_ok hread, bind_run_ok (ensure_run hversion _ _)]

theorem migrateUntil_run (commits : Nat) :
    migrateUntil argon2 json env (commits + 1) db =
      (inOrder ((migrationStatements argon2 json env version).take commits) prepared).2 := by
  simp only [migrateUntil, hensure, hread]

end Run

end Statements

/-! ## What the program leaves -/

/-- The one row of `app_state` is the text of the state. -/
def WrittenRow (json : SerdeJson) (table : Table SnapshotRecord) : Option AppState → Prop
  | none => table[(1 : Int)]? = none
  | some app => ∃ record, table[(1 : Int)]? = some record ∧ appToJson json app = .ok record.json

/-- A database that this program left at a version, with the state that was
saved in it. One that has no version yet is empty, up to the table of the
migrations. From the second version on the state is in the tables too. -/
inductive Database.Left (json : SerdeJson) : Database → Int → Option AppState → Prop
  | empty : Left json Database.empty 0 none
  | prepared : Left json ⟨some (migrationsTable []), none, none, none, []⟩ 0 none
  | schemaV1 {records : List MigrationRecord} {table : Table SnapshotRecord}
      {metadata : Option (OrdMap String String)} {stored : Option AppState}
      (hversions : versions records = [1]) (hrow : WrittenRow json table stored) :
      Left json ⟨some (migrationsTable records), some table, metadata, none, []⟩ 1 stored
  | schemaV2 {records : List MigrationRecord} {table : Table SnapshotRecord}
      {metadata : Option (OrdMap String String)} {indexes : List String}
      {stored : Option AppState} (hversions : versions records = [1, 2])
      (hrow : WrittenRow json table stored) (hfits : ∀ app ∈ stored, app.FitsSqlite) :
      Left json ⟨some (migrationsTable records), some table, metadata,
        some (storedTables stored), indexes⟩ 2 stored
  | schemaV3 {records : List MigrationRecord} {table : Table SnapshotRecord}
      {metadata : Option (OrdMap String String)} {indexes : List String}
      {stored : Option AppState} (hversions : versions records = [1, 2, 3])
      (hrow : WrittenRow json table stored) (hfits : ∀ app ∈ stored, app.FitsSqlite) :
      Left json ⟨some (migrationsTable records), some table, metadata,
        some (storedTables stored), indexes⟩ 3 stored

section Left

variable {argon2 : Argon2} {json : SerdeJson} {env : StoreEnv} {db : Database} {version : Int}
  {stored : Option AppState} {records : List MigrationRecord} {table : Table SnapshotRecord}
  {metadata : Option (OrdMap String String)}

theorem WrittenRow.snapshotRow (h : WrittenRow json table stored) (hjson : json.ReadsBack)
    (hwf : ∀ app ∈ stored, app.WellFormed argon2) : SnapshotRow argon2 json table stored := by
  cases stored with
  | none => exact h
  | some app =>
    obtain ⟨record, hrecord, hwritten⟩ := h
    exact ⟨record, hrecord, (hwf app rfl).readsBack hjson hwritten⟩

/-- A database of the version of today holds what was left in it. -/
theorem Database.Left.current (h : db.Left json 3 stored) (hjson : json.ReadsBack)
    (hwf : ∀ app ∈ stored, app.WellFormed argon2) : db.Current argon2 json stored := by
  cases h with
  | schemaV3 hversions hrow hfits =>
    exact .tables hversions (hrow.snapshotRow hjson hwf)
      fun app happ => ⟨hwf app happ, hfits app happ⟩

/-- The version is the last one that was written down. -/
theorem currentSchemaVersion_last (records : List MigrationRecord) (env : StoreEnv)
    (hmigrations : db.schemaMigrations = some (migrationsTable records))
    (hascending : (versions records).Pairwise (· < ·))
    (hlast : (versions records).max?.getD 0 = version) :
    currentSchemaVersion env db = (.ok version, db) := by
  obtain ⟨migrations, appState, metadata, tables, indexes⟩ := db
  obtain rfl : migrations = some (migrationsTable records) := hmigrations
  rw [currentSchemaVersion_run hascending, hlast]

theorem Database.Left.currentSchemaVersion_eq (h : db.Left json version stored)
    (hpositive : 0 < version) (env : StoreEnv) :
    currentSchemaVersion env db = (.ok version, db) := by
  cases h with
  | empty => cases hpositive
  | prepared => cases hpositive
  | schemaV1 hversions hrow =>
    exact currentSchemaVersion_last _ env rfl (by rw [hversions]; decide) (by rw [hversions]; rfl)
  | schemaV2 hversions hrow hfits =>
    exact currentSchemaVersion_last _ env rfl (by rw [hversions]; decide) (by rw [hversions]; rfl)
  | schemaV3 hversions hrow hfits =>
    exact currentSchemaVersion_last _ env rfl (by rw [hversions]; decide) (by rw [hversions]; rfl)

/-- A run finds its table of the migrations, and the version in it. -/
theorem Database.Left.prepare (h : db.Left json version stored) (env : StoreEnv) :
    ∃ db', ensureMigrationTable db = (.ok (), db') ∧ db'.Left json version stored ∧
      currentSchemaVersion env db' = (.ok version, db') := by
  have hnothing : currentSchemaVersion env ⟨some (migrationsTable []), none, none, none, []⟩ = _ :=
    currentSchemaVersion_last [] env rfl .nil rfl
  cases h with
  | empty => exact ⟨_, rfl, .prepared, hnothing⟩
  | prepared => exact ⟨_, rfl, .prepared, hnothing⟩
  | schemaV1 hversions hrow =>
    exact ⟨_, rfl, .schemaV1 hversions hrow,
      (Left.schemaV1 hversions hrow).currentSchemaVersion_eq (by decide) env⟩
  | schemaV2 hversions hrow hfits =>
    exact ⟨_, rfl, .schemaV2 hversions hrow hfits,
      (Left.schemaV2 hversions hrow hfits).currentSchemaVersion_eq (by decide) env⟩
  | schemaV3 hversions hrow hfits =>
    exact ⟨_, rfl, .schemaV3 hversions hrow hfits,
      (Left.schemaV3 hversions hrow hfits).currentSchemaVersion_eq (by decide) env⟩

/-! ### Cut off -/

theorem versions_snoc (records : List MigrationRecord) (record : MigrationRecord) :
    versions (records ++ [record]) = versions records ++ [record.version.val] := by
  rw [versions, List.map_append]
  rfl

/-- The third migration, cut off after so many of its statements. -/
theorem cutMigration3_run (hclock : env.ClockFits) (hversions : versions records = [1, 2])
    (hrow : WrittenRow json table stored) (hfits : ∀ app ∈ stored, app.FitsSqlite)
    (metadata : Option (OrdMap String String)) (indexes : List String) (commits : Nat) :
    ∃ db' version, inOrder ((migration3Statements env).take commits)
        ⟨some (migrationsTable records), some table, metadata, some (storedTables stored),
          indexes⟩ = (.ok (), db') ∧
      db'.Left json version stored ∧
      ((migration3Statements env).length ≤ commits → version = 3) := by
  by_cases hall : (migration3Statements env).length ≤ commits
  · obtain ⟨indexes', hrun⟩ := applyMigration3_run records (some table) metadata indexes
      hclock (storedTables stored) (by rw [hversions]; decide)
    rw [← inOrder_migration3, ← List.take_of_length_le hall] at hrun
    exact ⟨_, 3, hrun, .schemaV3 (by rw [versions_snoc, hversions]; rfl) hrow hfits,
      fun _ => rfl⟩
  · have hindexes : (migration3Statements env).take commits =
        (queryIndexes.take commits).map (createIndex env) := by
      have hfew : commits ≤ (queryIndexes.map (createIndex env)).length := by
        simp only [migration3Statements, List.length_append, List.length_singleton] at hall
        omega
      rw [migration3Statements, List.take_append_of_le_length hfew, List.map_take]
    obtain ⟨indexes', hrun⟩ := createIndexes_run env records (some table) metadata
      (queryIndexes.take commits) (storedTables stored) indexes
    rw [← inOrder_map, ← hindexes] at hrun
    exact ⟨_, 2, hrun, .schemaV2 hversions hrow hfits, fun h => absurd h hall⟩

/-- The second and the third migration. The second is one transaction. -/
theorem cutMigration2_run (hclock : env.ClockFits) (hversions : versions records = [1])
    (hrow : WrittenRow json table stored) (hstorable : Storable argon2 stored)
    (hjson : json.ReadsBack) (metadata : Option (OrdMap String String)) (commits : Nat) :
    ∃ db' version, inOrder ((applyMigration2 argon2 json env :: migration3Statements env).take
        commits) ⟨some (migrationsTable records), some table, metadata, none, []⟩ =
        (.ok (), db') ∧
      db'.Left json version stored ∧
      ((applyMigration2 argon2 json env :: migration3Statements env).length ≤ commits →
        version = 3) := by
  cases commits with
  | zero => exact ⟨_, 1, rfl, .schemaV1 hversions hrow, fun h => by simp at h⟩
  | succ commits =>
    have hsecond : applyMigration2 argon2 json env
        ⟨some (migrationsTable records), some table, metadata, none, []⟩ = _ :=
      applyMigration2_run hclock (hrow.snapshotRow hjson fun app happ => (hstorable app happ).1)
        hstorable (by rw [hversions]; decide)
    have hversions2 : versions (records ++ [⟨⟨2, by decide⟩, "create_normalized_state_tables",
        i64OfNat env.secondMigratedAt⟩]) = [1, 2] := by
      rw [versions_snoc, hversions]
      rfl
    obtain ⟨db', version, hrun, hleft, hall⟩ := cutMigration3_run hclock hversions2 hrow
      (fun app happ => (hstorable app happ).2) metadata [] commits
    refine ⟨db', version, Eq.trans ?_ hrun, hleft, fun h => hall (by simpa using h)⟩
    exact bind_run_ok hsecond fun _ => inOrder ((migration3Statements env).take commits)

/-- A run that is cut off leaves a database of some version, unless only the
tables of the first migration are there. One that is not is complete. -/
theorem Database.Left.cutMigrations_run (h : db.Left json version stored)
    (hread : currentSchemaVersion env db = (.ok version, db)) (hclock : env.ClockFits)
    (hjson : json.ReadsBack) (hstorable : Storable argon2 stored) (commits : Nat)
    (hcut : version = 0 → commits ≠ 1 ∧ commits ≠ 2) :
    ∃ db' version', inOrder ((migrationStatements argon2 json env version).take commits) db =
        (.ok (), db') ∧
      db'.Left json version' stored ∧
      ((migrationStatements argon2 json env version).length ≤ commits → version' = 3) := by
  cases h with
  | empty => cases hread
  | prepared =>
    obtain _ | _ | _ | commits := commits
    · exact ⟨_, 0, rfl, .prepared, fun h => absurd h (Nat.not_succ_le_zero _)⟩
    · exact absurd rfl (hcut rfl).1
    · exact absurd rfl (hcut rfl).2
    · have hfirst : inOrder (migration1Statements env)
          ⟨some (migrationsTable []), none, none, none, []⟩ = _ :=
        (congrFun inOrder_migration1 _).trans (applyMigration1_run hclock)
      have hversions : versions [⟨⟨1, by decide⟩, "create_app_state_snapshot",
        i64OfNat env.firstMigratedAt⟩] = [1] := rfl
      obtain ⟨db', version, hrun, hleft, hall⟩ := cutMigration2_run hclock hversions
        (show WrittenRow json ∅ none from Std.ExtTreeMap.getElem?_empty) hstorable hjson
        (some ∅) commits
      refine ⟨db', version, Eq.trans ?_ hrun, hleft,
        fun h => hall ((Nat.add_le_add_iff_right (n := 3)).mp h)⟩
      exact inOrder_append_run hfirst _
  | schemaV1 hversions hrow =>
    exact cutMigration2_run hclock hversions hrow hstorable hjson _ commits
  | schemaV2 hversions hrow hfits =>
    exact cutMigration3_run hclock hversions hrow hfits _ _ commits
  | schemaV3 hversions hrow hfits =>
    have hnone : (migrationStatements argon2 json env 3).take commits = [] := List.take_nil
    rw [hnone]
    exact ⟨_, 3, rfl, .schemaV3 hversions hrow hfits, fun _ => rfl⟩

theorem Database.Left.version_le (h : db.Left json version stored) :
    version ≤ currentSqliteSchemaVersion := by
  cases h <;> decide

/-- A run that is not cut off. -/
theorem Database.Left.migrate (h : db.Left json version stored) (hclock : env.ClockFits)
    (hjson : json.ReadsBack) (hstorable : Storable argon2 stored) :
    ∃ db', migrate argon2 json env db = (.ok (), db') ∧ db'.Left json 3 stored := by
  obtain ⟨prepared, hprepare, hleft, hread⟩ := h.prepare env
  have hlong : version = 0 →
      (migrationStatements argon2 json env version).length ≠ 1 ∧
        (migrationStatements argon2 json env version).length ≠ 2 := by
    intro hzero
    have hlength : (migrationStatements argon2 json env version).length = 11 := by
      rw [hzero]
      rfl
    omega
  obtain ⟨db', version', hrun, hafter, hall⟩ := hleft.cutMigrations_run hread hclock hjson
    hstorable _ hlong
  rw [List.take_length] at hrun
  rw [hall le_rfl] at hafter
  exact ⟨db', (migrate_run hprepare hread h.version_le).trans hrun, hafter⟩

/-- A run that is cut off leaves what a run can go on with. -/
theorem Database.Left.migrateUntil (h : db.Left json version stored) (hclock : env.ClockFits)
    (hjson : json.ReadsBack) (hstorable : Storable argon2 stored) {commits : Nat}
    (hcut : ¬(version = 0 ∧ (commits = 2 ∨ commits = 3))) :
    ∃ version', (migrateUntil argon2 json env commits db).Left json version' stored := by
  cases commits with
  | zero => exact ⟨version, h⟩
  | succ commits =>
    obtain ⟨prepared, hprepare, hleft, hread⟩ := h.prepare env
    obtain ⟨db', version', hrun, hafter, -⟩ := hleft.cutMigrations_run hread hclock hjson
      hstorable commits (fun h0 => by omega)
    have hcommitted : Banck.migrateUntil argon2 json env (commits + 1) db = db' := by
      rw [migrateUntil_run hprepare hread, hrun]
    exact ⟨version', hcommitted ▸ hafter⟩

/-! ### A run that cannot go on -/

/-- The tables of the first migration are not made twice. -/
theorem migrate_tableExists {indexes : List String} (metadata : Option (OrdMap String String)) :
    (migrate argon2 json env ⟨some (migrationsTable []), some table, metadata, none,
      indexes⟩).1 = .error (.sqlite env.path (.tableExists "app_state")) := by
  have hensure : ensureMigrationTable ⟨some (migrationsTable []), some table, metadata, none,
      indexes⟩ = (.ok (), ⟨some (migrationsTable []), some table, metadata, none, indexes⟩) := rfl
  have hread : currentSchemaVersion env ⟨some (migrationsTable []), some table, metadata, none,
      indexes⟩ = _ := currentSchemaVersion_last [] env rfl .nil rfl
  rw [migrate_run hensure hread (by decide)]
  rfl

variable (argon2 env) in
/-- A run from nothing that is cut off within the first migration. -/
theorem Database.Left.migrateUntil_first (h : db.Left json 0 stored) {commits : Nat}
    (hcut : commits = 2 ∨ commits = 3) :
    ∃ metadata, Banck.migrateUntil argon2 json env commits db =
      ⟨some (migrationsTable []), some ∅, metadata, none, []⟩ := by
  have hread : currentSchemaVersion env ⟨some (migrationsTable []), none, none, none, []⟩ = _ :=
    currentSchemaVersion_last [] env rfl .nil rfl
  have hprepare : ensureMigrationTable db =
      (.ok (), ⟨some (migrationsTable []), none, none, none, []⟩) := by
    cases h <;> rfl
  rcases hcut with rfl | rfl
  · exact ⟨none, migrateUntil_run hprepare hread 1⟩
  · exact ⟨some ∅, migrateUntil_run hprepare hread 2⟩

/-- A number that was converted fits, and the rest was done with it. -/
theorem fits_of_u64ToI64 {α : Type} {n : Nat} {field : String} {f : I64 → SqliteStoreResult α}
    {a : α} (h : (u64ToI64 field n >>= f) = .ok a) : FitsI64 n ∧ ∃ value, f value = .ok a := by
  unfold u64ToI64 at h
  split at h
  · next hfits => exact ⟨hfits, _, h⟩
  · cases h

theorem fits_of_transactionRecord {accountId : AccountId} {t : Transaction}
    {record : TransactionRecord} (h : transactionRecord accountId t = .ok record) :
    FitsI64 t.id ∧ FitsI64 t.occurredAtEpochSeconds := by
  obtain ⟨hid, id, hrest⟩ := fits_of_u64ToI64 h
  exact ⟨hid, (fits_of_u64ToI64 hrest).1⟩

theorem fits_of_auditRecord {entry : AuditEntry} {record : AuditRecord}
    (h : auditRecord entry = .ok record) :
    FitsI64 entry.id ∧ FitsI64 entry.occurredAtEpochSeconds := by
  obtain ⟨hid, id, hrest⟩ := fits_of_u64ToI64 h
  exact ⟨hid, (fits_of_u64ToI64 hrest).1⟩

/-- What is written fits the integers of the database. -/
theorem fitsSqlite_of_written {app : AppState} {tables tables' : StateTables} {u : Unit}
    (h : writeNormalizedState env app tables = (.ok u, tables')) : app.FitsSqlite := by
  simp only [writeNormalizedState, bind_ok_iff] at h
  obtain ⟨_, _, -, _, _, -, _, _, -, _, _, -, _, _, -, _, _, -, _, _, -, _, _, haccounts,
    hentries⟩ := h
  refine ⟨fun account hmem t ht => ?_, fun entry hmem => ?_⟩
  · obtain ⟨_, _, haccount⟩ := forEach_ok_mem haccounts hmem
    obtain ⟨_, _, -, htransactions⟩ := bind_ok_iff.mp haccount
    obtain ⟨_, _, htransaction⟩ := forEach_ok_mem htransactions ht
    obtain ⟨_, _, hrecord, -⟩ := bind_ok_iff.mp htransaction
    exact fits_of_transactionRecord (lift_ok_iff.mp hrecord).1
  · obtain ⟨_, _, hentry⟩ := forEach_ok_mem hentries hmem
    obtain ⟨_, _, hrecord, -⟩ := bind_ok_iff.mp hentry
    exact fits_of_auditRecord (lift_ok_iff.mp hrecord).1

/-- A state that does not fit the integers of the database keeps it at the
first version. -/
theorem applyMigration2_unfit {app : AppState} (hrow : SnapshotRow argon2 json table (some app))
    (hunfit : ¬app.FitsSqlite) (metadata : Option (OrdMap String String))
    (hclock : env.ClockFits) (hfresh : (versions records ++ [2]).Nodup) :
    ∃ e, applyMigration2 argon2 json env
        ⟨some (migrationsTable records), some table, metadata, none, []⟩ =
      (.error e, ⟨some (migrationsTable records), some table, metadata, none, []⟩) := by
  have hcreate : sqlite env (Table.create "customers" Database.stateTables
      (fun tables db => { db with stateTables := some tables }) StateTables.empty)
      ⟨some (migrationsTable records), some table, metadata, none, []⟩ =
      (.ok (), ⟨some (migrationsTable records), some table, metadata, some StateTables.empty,
        []⟩) := rfl
  rw [applyMigration2, bind_run_ok (readSnapshotState_run _ _ _ _ _ hrow), atomically_run,
    bind_run_ok hcreate, bind_run_ok (insertMigration_run _ _ hclock.secondMigratedAt hfresh)]
  dsimp only [Option.map_some]
  rw [onStateTables, Table.onTable_run (by rfl)]
  rcases hwrite : writeNormalizedState env app.reloaded StateTables.empty with ⟨e | u, tables⟩
  · exact ⟨e, rfl⟩
  · have hfits := fitsSqlite_of_written hwrite
    exact absurd ⟨hfits.transactions, hfits.auditEntries⟩ hunfit

/-- Such a state keeps every run at the first version. -/
theorem Database.Left.unfit {app : AppState} (h : db.Left json version (some app))
    (hunfit : ¬app.FitsSqlite) (hclock : env.ClockFits) (hjson : json.ReadsBack)
    (hwf : app.WellFormed argon2) :
    (∃ e, Banck.migrate argon2 json env db = (.error e, db)) ∧
      ∀ commits, Banck.migrateUntil argon2 json env commits db = db := by
  cases h with
  | schemaV2 _ _ hfits => exact absurd (hfits app rfl) hunfit
  | schemaV3 _ _ hfits => exact absurd (hfits app rfl) hunfit
  | @schemaV1 records table metadata _ hversions hrow =>
    have hensure : ensureMigrationTable ⟨some (migrationsTable records), some table, metadata,
        none, []⟩ = (.ok (), ⟨some (migrationsTable records), some table, metadata, none, []⟩) :=
      rfl
    have hread : currentSchemaVersion env ⟨some (migrationsTable records), some table, metadata,
        none, []⟩ = (.ok 1, _) := currentSchemaVersion_last _ env rfl
      (by rw [hversions]; decide) (by rw [hversions]; rfl)
    have hsnapshot : SnapshotRow argon2 json table (some app) :=
      hrow.snapshotRow hjson fun app' happ' => Option.some.inj happ' ▸ hwf
    obtain ⟨e, hsecond⟩ := applyMigration2_unfit hsnapshot hunfit metadata hclock
      (by rw [hversions]; decide)
    have hcut : ∀ commits, (inOrder ((migrationStatements argon2 json env 1).take commits)
        ⟨some (migrationsTable records), some table, metadata, none, []⟩).2 =
        ⟨some (migrationsTable records), some table, metadata, none, []⟩ := by
      intro commits
      cases commits with
      | zero => rfl
      | succ commits =>
        show (andThen (applyMigration2 argon2 json env) _ _).2 = _
        rw [andThen, hsecond]
    refine ⟨⟨e, ?_⟩, fun commits => ?_⟩
    · rw [migrate_run hensure hread (by decide)]
      show andThen (applyMigration2 argon2 json env) _ _ = _
      rw [andThen, hsecond]
    · cases commits with
      | zero => rfl
      | succ commits =>
        rw [migrateUntil_run hensure hread]
        exact hcut commits

end Left

/-! ## The calls of the program -/

section OpBuilt

variable {argon2 : Argon2} {json : SerdeJson}

/-- The state that is stored was built by the program. -/
def StoredOpBuilt (argon2 : Argon2) (json : SerdeJson) (stored : Option AppState) : Prop :=
  ∀ app ∈ stored, ∃ program, OpBuilt argon2 json (.program program) ∧ program.app = app

def Artifact.LeftAtVersion (argon2 : Argon2) (json : SerdeJson) : Artifact → Prop
  | .program _ => True
  | .text _ => True
  | .database db stored => StoredOpBuilt argon2 json stored ∧
      ∃ version, db.Left json version stored

theorem StoredOpBuilt.wellFormed {stored : Option AppState}
    (h : StoredOpBuilt argon2 json stored) (hargon : argon2.ParsesOwnHashes)
    (hjson : json.ReadsBack) : ∀ app ∈ stored, app.WellFormed argon2 := by
  intro app happ
  obtain ⟨program, hprogram, hstate⟩ := h app happ
  exact hstate ▸ hprogram.sound hargon hjson

theorem storedOpBuilt_none : StoredOpBuilt argon2 json none := by
  intro app happ
  cases happ

/-- What saves and loads make of a database is of those forms. -/
theorem OpBuilt.left (hargon : argon2.ParsesOwnHashes) (hjson : json.ReadsBack)
    {artifact : Artifact} (h : OpBuilt argon2 json artifact) :
    artifact.LeftAtVersion argon2 json := by
  have hmigrate : ∀ {db : Database} {stored : Option AppState} {env : StoreEnv},
      OpBuilt argon2 json (.database db stored) →
      Artifact.LeftAtVersion argon2 json (.database db stored) → env.ClockFits →
      ∃ db', migrate argon2 json env db = (.ok (), db') ∧ db'.Left json 3 stored := by
    intro db stored env hdatabase hleft hclock
    obtain ⟨-, version, hleft⟩ := hleft
    refine hleft.migrate hclock hjson fun app happ => ?_
    subst happ
    exact Database.Holds.wellFormed (hdatabase.sound hargon hjson)
  induction h with
  | new => trivial
  | step => trivial
  | load => trivial
  | loadSqlite => trivial
  | text => trivial
  | emptyDatabase => exact ⟨storedOpBuilt_none, 0, .empty⟩
  | schemaV1 metadata h hfits hversion hrow ih =>
    refine ⟨fun app happ => ⟨_, h, Option.some.inj happ⟩, 1, ?_⟩
    exact .schemaV1 (congrArg (fun v => [v]) hversion) ⟨_, OrdMap.get_insert_self _ _ _, hrow⟩
  | saved hdatabase hclock h hfits htext ihdatabase ih =>
    rename_i db stored env program text
    obtain ⟨db', hrun, hleft⟩ := hmigrate hdatabase ihdatabase hclock
    refine ⟨fun app happ => ⟨_, h, Option.some.inj happ⟩, 3, ?_⟩
    cases hleft with
    | @schemaV3 records table _ _ _ hversions _ _ =>
      have hrow : WrittenRow json (table.insert 1 ⟨text, i64OfNat env.updatedAt⟩)
          (some program.app) := ⟨_, OrdMap.get_insert_self _ _ _, htext⟩
      have hsave : (saveAppToSqliteFile argon2 json env program.app db).2 = _ :=
        congrArg Prod.snd ((bind_run_ok hrun _).trans
          (writeState_run (h.sound hargon hjson) hfits hclock htext))
      rw [hsave]
      exact .schemaV3 hversions hrow
        fun app happ => Option.some.inj happ ▸ hfits
  | refused hdatabase hclock hfail ih =>
    rename_i db stored env app e
    obtain ⟨db', hrun, hleft⟩ := hmigrate hdatabase ih hclock
    have hsave : saveAppToSqliteFile argon2 json env app db = writeState json env app db' :=
      bind_run_ok hrun _
    rw [hsave, writeState, atomically_run] at hfail ⊢
    split at hfail
    · cases hfail
    · exact ⟨ih.1, 3, hleft⟩
  | loaded hdatabase hclock ih =>
    rename_i db stored env
    obtain ⟨db', hrun, hleft⟩ := hmigrate hdatabase ih hclock
    have hcurrent := hleft.current hjson (ih.1.wellFormed hargon hjson)
    have hload := hcurrent.load env
    rw [loadAppFromSqliteFile, bind_run_ok (hcurrent.migrate env)] at hload
    rw [loadAppFromSqliteFile, bind_run_ok hrun, hload]
    exact ⟨ih.1, 3, hleft⟩

end OpBuilt

/-! ## Going on after a cut -/

/-- A run that is cut off after so many commits is made up for by another
one: it returns, at version 3, and what is loaded then is what is loaded
after a run that was not cut off. -/
def ResumesAfter (argon2 : Argon2) (json : SerdeJson) (env env' : StoreEnv) (commits : Nat)
    (db : Database) : Prop :=
  let resumed := migrate argon2 json env' (migrateUntil argon2 json env commits db)
  resumed.1 = .ok () ∧ (currentSchemaVersion env' resumed.2).1 = .ok 3 ∧
    ∀ later : StoreEnv, later.ClockFits →
      (loadAppFromSqliteFile argon2 json later resumed.2).1 =
        (loadAppFromSqliteFile argon2 json later (migrate argon2 json env db).2).1

/-- A run that is cut off can be made up for, unless it started from nothing
and made a table of the first migration without writing the version down.
A state of the first version that does not fit the integers of the database
is never migrated. -/
theorem migrate_resumes_iff (argon2 : Argon2) (hargon : argon2.ParsesOwnHashes)
    (json : SerdeJson) (hjson : json.ReadsBack) (env env' : StoreEnv) (hclock : env.ClockFits)
    (hclock' : env'.ClockFits) (db : Database) (version : Int) (stored : Option AppState)
    (hleft : db.Left json version stored) (hbuilt : StoredOpBuilt argon2 json stored)
    (commits : Nat) :
    ResumesAfter argon2 json env env' commits db ↔
      ¬(version = 0 ∧ (commits = 2 ∨ commits = 3)) ∧ ∀ app ∈ stored, app.FitsSqlite := by
  have hwf := hbuilt.wellFormed hargon hjson
  constructor
  · intro hresumes
    have hreturns := hresumes.1
    refine ⟨fun hcut => ?_, fun app happ => ?_⟩
    · obtain ⟨rfl, hcommits⟩ := hcut
      obtain ⟨metadata, hfirst⟩ := hleft.migrateUntil_first argon2 env hcommits
      rw [hfirst, migrate_tableExists] at hreturns
      cases hreturns
    · by_contra hunfit
      subst happ
      have hkept := (hleft.unfit hunfit hclock hjson (hwf app rfl)).2 commits
      obtain ⟨e, hfails⟩ := (hleft.unfit hunfit hclock' hjson (hwf app rfl)).1
      rw [hkept, hfails] at hreturns
      cases hreturns
  · intro hcondition
    obtain ⟨hcut, hfits⟩ := hcondition
    have hstorable : Storable argon2 stored := fun app happ => ⟨hwf app happ, hfits app happ⟩
    obtain ⟨version', hafter⟩ := hleft.migrateUntil hclock hjson hstorable hcut
    obtain ⟨resumed, hrun, hresumed⟩ := hafter.migrate hclock' hjson hstorable
    obtain ⟨whole, hwhole, hcomplete⟩ := hleft.migrate hclock hjson hstorable
    unfold ResumesAfter
    rw [hrun, hwhole]
    refine ⟨rfl, ?_, fun later hlater => ?_⟩
    · rw [hresumed.currentSchemaVersion_eq (by decide) env']
    rw [(hresumed.current hjson hwf).load later,
      (hcomplete.current hjson hwf).load later]

/-- A run over the state of the first administrator, cut off after its second
migration. -/
theorem migrate_resumes_iff_sample : ∃ text,
    ResumesAfter sampleArgon2 sampleJson (sampleEnv 7).store (sampleEnv 8).store 2
      (Database.schemaV1 ⟨⟨1, by decide⟩, "create_app_state_snapshot", ⟨5, by decide⟩⟩
        ⟨text, ⟨5, by decide⟩⟩ ∅) := by
  obtain ⟨-, hbuilt, hfits, text, htext⟩ := sampleSave_opBuilt
  refine ⟨text, (migrate_resumes_iff sampleArgon2 sampleArgon2_parses sampleJson
    sampleJson_readsBack _ _ (sampleEnv_clockFits 7) (sampleEnv_clockFits 8) _ 1
    (some sampleSave.state) (.schemaV1 rfl ⟨_, OrdMap.get_insert_self _ _ _, htext⟩)
    (fun app happ => Option.some.inj happ ▸ hbuilt) 2).mpr ⟨by decide, fun app happ => ?_⟩⟩
  exact Option.some.inj happ ▸ hfits

/-- Only the first table was made of a new file: the file is of no use any
more. -/
theorem migrate_stuck_after_first_table :
    Database.empty.Left sampleJson 0 none ∧
      (migrate sampleArgon2 sampleJson (sampleEnv 8).store
        (migrateUntil sampleArgon2 sampleJson (sampleEnv 7).store 2 Database.empty)).1 =
          .error (.sqlite (sampleEnv 8).store.path (.tableExists "app_state")) ∧
      ¬ResumesAfter sampleArgon2 sampleJson (sampleEnv 7).store (sampleEnv 8).store 2
        Database.empty := by
  have hstuck : (migrate sampleArgon2 sampleJson (sampleEnv 8).store
      (migrateUntil sampleArgon2 sampleJson (sampleEnv 7).store 2 Database.empty)).1 =
        .error (.sqlite (sampleEnv 8).store.path (.tableExists "app_state")) := by
    decide +kernel
  refine ⟨.empty, hstuck, fun hresumes => ?_⟩
  have hreturns := hresumes.1
  rw [hstuck] at hreturns
  cases hreturns

end Banck
