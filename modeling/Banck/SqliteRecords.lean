/-
Banck.SqliteRecords — the rows of a state, written and read back.

`tablesOf` is what the tables hold of a state. `writeNormalizedState` leaves
exactly these tables, whatever was there before
(`writeNormalizedState_run`), and reading them gives the state back, as
reloaded (`readNormalizedState_tablesOf`). Both need the invariants of the
state: its ids are distinct, so no row is refused; its references lead
somewhere, so no foreign key is; and its histories and its log are in the
order of their ids, in which the rows are read. The numbers must fit the
integers of the database (`FitsSqlite`).
-/
import Banck.SqliteStore
import Banck.StorageTheorems

namespace Banck

open Lib Mut

/-! ## Integers -/

/-- The number is at most the largest integer of the database. -/
def FitsI64 (n : Nat) : Prop := (n : Int) ≤ i64Max

instance (n : Nat) : Decidable (FitsI64 n) := inferInstanceAs (Decidable ((n : Int) ≤ i64Max))

/-- The number as an integer of the database, if it fits. -/
def i64OfNat (n : Nat) : I64 :=
  if h : (n : Int) ≤ i64Max then ⟨n, inI64_natCast h⟩ else ⟨0, inI64_zero⟩

theorem i64OfNat_val {n : Nat} (h : FitsI64 n) : (i64OfNat n).val = n := by
  rw [i64OfNat, dif_pos (show (n : Int) ≤ i64Max from h)]

theorem u64ToI64_ok {n : Nat} (h : FitsI64 n) (field : String) :
    u64ToI64 field n = .ok (i64OfNat n) := by
  rw [u64ToI64, i64OfNat, dif_pos (show (n : Int) ≤ i64Max from h),
    dif_pos (show (n : Int) ≤ i64Max from h)]

theorem i64ToU64_i64OfNat {n : Nat} (h : FitsI64 n) (field : String) :
    i64ToU64 field (i64OfNat n) = .ok n := by
  rw [i64ToU64, i64OfNat_val h, if_pos (Int.natCast_nonneg n), Int.toNat_natCast]

theorem i64FromU32_val (n : UInt32) : (i64FromU32 n).val = n.toNat := rfl

theorem i64FromU32_inj {m n : UInt32} : i64FromU32 m = i64FromU32 n ↔ m = n := by
  rw [Subtype.ext_iff, i64FromU32_val, i64FromU32_val, Int.natCast_inj, UInt32.toNat_inj]

theorem i64ToU32_i64FromU32 (field : String) (n : UInt32) :
    i64ToU32 field (i64FromU32 n) = .ok n := by
  have hlt := n.toNat_lt
  rw [i64ToU32, i64FromU32_val, if_pos (by omega), Int.toNat_natCast, UInt32.ofNat_toNat]

theorem optionalI64ToU32_map (field : String) (id : Option UInt32) :
    optionalI64ToU32 field (id.map i64FromU32) = .ok id := by
  cases id with
  | none => rfl
  | some id => rw [Option.map_some, optionalI64ToU32, i64ToU32_i64FromU32]; rfl

/-! ## Enumerations -/

theorem roleFromDb_display (field : String) (role : Role) :
    roleFromDb field role.display = .ok role := by
  cases role <;> rfl

theorem accountStatusFromDb_display (field : String) (status : AccountStatus) :
    accountStatusFromDb field status.display = .ok status := by
  cases status <;> rfl

theorem transactionKindFromDb_display (field : String) (kind : TransactionKind) :
    transactionKindFromDb field kind.display = .ok kind := by
  cases kind <;> rfl

theorem auditActionFromDb_display (field : String) (action : AuditAction) :
    auditActionFromDb field action.display = .ok action := by
  cases action <;> rfl

theorem auditOutcomeFromDb_display (field : String) (outcome : AuditOutcome) :
    auditOutcomeFromDb field outcome.display = .ok outcome := by
  cases outcome <;> rfl

theorem actorFromDb_actorToDb (auditId : Nat) (actor : AuditActor) :
    actorFromDb auditId (actorToDb actor).1 (actorToDb actor).2.1 (actorToDb actor).2.2.1
      (actorToDb actor).2.2.2 = .ok actor := by
  cases actor with
  | system => rfl
  | user userId username role =>
    simp only [actorToDb, actorFromDb, i64ToU32_i64FromU32, roleFromDb_display]
    rfl

/-! ## Rows -/

/-- The numbers of the state fit the integers of the database. -/
structure AppState.FitsSqlite (app : AppState) : Prop where
  transactions : ∀ account ∈ app.bank.accountList, ∀ t ∈ account.transactions,
    FitsI64 t.id ∧ FitsI64 t.occurredAtEpochSeconds
  auditEntries : ∀ entry ∈ app.auditLog.entries,
    FitsI64 entry.id ∧ FitsI64 entry.occurredAtEpochSeconds

def transactionRow (accountId : AccountId) (transaction : Transaction) : TransactionRecord :=
  { id := i64OfNat transaction.id, accountId := i64FromU32 accountId,
    occurredAtEpochSeconds := i64OfNat transaction.occurredAtEpochSeconds,
    kind := transaction.kind.display, amountCents := transaction.amount.toCents,
    description := transaction.description }

def auditRow (entry : AuditEntry) : AuditRecord :=
  { id := i64OfNat entry.id,
    occurredAtEpochSeconds := i64OfNat entry.occurredAtEpochSeconds,
    actorKind := (actorToDb entry.actor).1, actorUserId := (actorToDb entry.actor).2.1,
    actorUsername := (actorToDb entry.actor).2.2.1,
    actorRole := (actorToDb entry.actor).2.2.2, action := entry.action.display,
    outcome := entry.outcome.display, target := entry.target, message := entry.message }

theorem transactionRecord_ok {t : Transaction}
    (h : FitsI64 t.id ∧ FitsI64 t.occurredAtEpochSeconds) (accountId : AccountId) :
    transactionRecord accountId t = .ok (transactionRow accountId t) := by
  simp only [transactionRecord, u64ToI64_ok h.1, u64ToI64_ok h.2]
  rfl

theorem auditRecord_ok {entry : AuditEntry}
    (h : FitsI64 entry.id ∧ FitsI64 entry.occurredAtEpochSeconds) :
    auditRecord entry = .ok (auditRow entry) := by
  simp only [auditRecord, u64ToI64_ok h.1, u64ToI64_ok h.2]
  rfl

theorem customerFromRecord_customerRecord (customer : Customer) :
    customerFromRecord (customerRecord customer) = .ok customer := by
  simp only [customerFromRecord, customerRecord, i64ToU32_i64FromU32]
  rfl

theorem userFromRecord_userRecord (user : User) :
    userFromRecord (userRecord user) = .ok user := by
  simp only [userFromRecord, userRecord, i64ToU32_i64FromU32, roleFromDb_display,
    optionalI64ToU32_map]
  rfl

theorem transactionFromRecord_transactionRow {t : Transaction}
    (h : FitsI64 t.id ∧ FitsI64 t.occurredAtEpochSeconds) (accountId : AccountId) :
    transactionFromRecord (transactionRow accountId t) = .ok t := by
  simp only [transactionFromRecord, transactionRow, i64ToU64_i64OfNat h.1,
    i64ToU64_i64OfNat h.2, transactionKindFromDb_display]
  rfl

theorem auditEntryFromRecord_auditRow {entry : AuditEntry}
    (h : FitsI64 entry.id ∧ FitsI64 entry.occurredAtEpochSeconds) :
    auditEntryFromRecord (auditRow entry) = .ok entry := by
  simp only [auditEntryFromRecord, auditRow, i64ToU64_i64OfNat h.1, i64ToU64_i64OfNat h.2,
    actorFromDb_actorToDb, auditActionFromDb_display, auditOutcomeFromDb_display]
  rfl

/-! ## Order -/

/-- Values are listed in ascending order of their ids. -/
theorem ids_ascending {ν : Type} {m : OrdMap UInt32 ν} {id : ν → UInt32}
    (h : OrdMap.Keyed id m) : (m.vals.map fun v => (id v).toNat).Pairwise (· < ·) := by
  rw [List.pairwise_map]
  refine h.ascending.imp fun {v w} hvw => ?_
  rw [Std.compare_eq_lt, UInt32.lt_iff_toNat_lt] at hvw
  exact hvw

/-! ## Tables -/

/-- The rows of an account's history. -/
def historyRows (account : Account) : List TransactionRecord :=
  account.transactions.map (transactionRow account.id)

/-- What the tables hold of a state. -/
def tablesOf (app : AppState) : StateTables where
  customers := OrdMap.ofVals (fun row => row.id.val)
    (app.identities.customerList.map customerRecord)
  users := OrdMap.ofVals (fun row => row.id.val) (app.identities.userList.map userRecord)
  accounts := OrdMap.ofVals (fun row => row.id.val) (app.bank.accountList.map accountRecord)
  transactions := OrdMap.ofVals (fun row => row.id.val)
    (app.bank.accountList.flatMap historyRows)
  auditEntries := OrdMap.ofVals (fun row => row.id.val) (app.auditLog.entries.map auditRow)

section Tables

variable {argon2 : Argon2} {app : AppState}

theorem customers_ascending (h : app.WellFormed argon2) :
    (app.identities.customerList.map customerRecord).Pairwise
      fun v w => compare v.id.val w.id.val = .lt :=
  Table.ascending_map (n := fun customer => customer.id.toNat) (fun _ _ => rfl)
    (ids_ascending h.identities.customersKeyed)

theorem users_ascending (h : app.WellFormed argon2) :
    (app.identities.userList.map userRecord).Pairwise
      fun v w => compare v.id.val w.id.val = .lt :=
  Table.ascending_map (n := fun user => user.id.toNat) (fun _ _ => rfl)
    (ids_ascending h.identities.usersKeyed)

theorem accounts_ascending (h : app.WellFormed argon2) :
    (app.bank.accountList.map accountRecord).Pairwise
      fun v w => compare v.id.val w.id.val = .lt :=
  Table.ascending_map (n := fun account => account.id.toNat) (fun _ _ => rfl)
    (ids_ascending h.bank.keyed)

theorem auditEntries_ascending (h : app.WellFormed argon2) (hfits : app.FitsSqlite) :
    (app.auditLog.entries.map auditRow).Pairwise
      fun v w => compare v.id.val w.id.val = .lt :=
  Table.ascending_map (fun entry hentry => i64OfNat_val (hfits.auditEntries entry hentry).1)
    h.auditLog.increasing

/-- An account of the list is the one that is found under its id. -/
theorem found_of_mem (h : app.WellFormed argon2) {account : Account}
    (hmem : account ∈ app.bank.accountList) :
    app.bank.accounts[account.id]? = some account := by
  obtain ⟨id, hfound⟩ := OrdMap.mem_vals.mp hmem
  rwa [h.bank.keyed id account hfound]

theorem history_ascending (h : app.WellFormed argon2) (hfits : app.FitsSqlite)
    {account : Account} (hmem : account ∈ app.bank.accountList) :
    (historyRows account).Pairwise fun v w => compare v.id.val w.id.val = .lt := by
  refine Table.ascending_map (fun t ht => i64OfNat_val (hfits.transactions account hmem t ht).1) ?_
  have hchronological := h.bank.chronological account.id
  rwa [Bank.history_found (found_of_mem h hmem)] at hchronological

/-- No two transactions of the bank share an id. -/
theorem transactions_nodup (h : app.WellFormed argon2) (hfits : app.FitsSqlite) :
    ((app.bank.accountList.flatMap historyRows).map fun row => row.id.val).Nodup := by
  have hkeys : (app.bank.accountList.flatMap historyRows).map (fun row => row.id.val) =
      (Bank.transactionIds app.bank.accountList).map (fun id : Nat => (id : Int)) := by
    rw [Bank.transactionIds, List.map_flatMap, List.map_flatMap]
    refine List.flatMap_congr fun account hmem => ?_
    rw [historyRows, List.map_map, List.map_map]
    exact List.map_congr_left fun t ht =>
      i64OfNat_val (hfits.transactions account hmem t ht).1
  rw [hkeys]
  exact (h.bank.numbered.nodup h.bank.keyed).map fun _ _ => Int.ofNat.inj

/-! ## Writing -/

theorem ascending_nodup {ρ : Type} {key : ρ → Int} {rows : List ρ}
    (h : rows.Pairwise fun v w => compare (key v) (key w) = .lt) : (rows.map key).Nodup := by
  rw [List.Nodup, List.pairwise_map]
  exact h.imp fun {v w} hvw => Int.ne_of_lt (Std.compare_eq_lt.mp hvw)

variable (env : StoreEnv)

theorem sqlite_ok {σ α : Type} {m : Mut σ SqlError α} {s s' : σ} {a : α}
    (h : m s = (.ok a, s')) : sqlite env m s = (.ok a, s') := mapError_run_ok h _

theorem vals_empty {ρ : Type} : (∅ : Table ρ).vals = [] := by
  simp [OrdMap.vals, Std.ExtTreeMap.toList_eq_nil_iff.mpr rfl]

theorem deleteTransactions_run (tables : StateTables) :
    StateTables.deleteTransactions tables = (.ok (), { tables with transactions := ∅ }) := rfl

theorem deleteUsers_run (tables : StateTables) :
    StateTables.deleteUsers tables = (.ok (), { tables with users := ∅ }) := rfl

theorem deleteAuditEntries_run (tables : StateTables) :
    StateTables.deleteAuditEntries tables = (.ok (), { tables with auditEntries := ∅ }) := rfl

/-- There are no rows left that go with an account. -/
theorem deleteAccounts_run {tables : StateTables} (h : tables.transactions = ∅) :
    StateTables.deleteAccounts tables = (.ok (), { tables with accounts := ∅ }) := by
  rw [StateTables.deleteAccounts, modify_run, h, OrdMap.retain_empty, ← h]

/-- There are no rows left that refer to a customer. -/
theorem deleteCustomers_run {tables : StateTables} (husers : tables.users = ∅)
    (haccounts : tables.accounts = ∅) :
    StateTables.deleteCustomers tables = (.ok (), { tables with customers := ∅ }) := by
  rw [StateTables.deleteCustomers, bind_run_ok (get_run _),
    bind_run_ok (ensure_run (by simp [husers, vals_empty]) _ _),
    bind_run_ok (ensure_run (by simp [haccounts, vals_empty]) _ _)]
  rfl

section Statements

variable {tables : StateTables}

theorem insertCustomer_run {record : CustomerRecord}
    (hfresh : tables.customers.contains record.id.val = false) :
    StateTables.insertCustomer record tables =
      (.ok (), { tables with customers := tables.customers.insert record.id.val record }) := by
  rw [StateTables.insertCustomer, bind_run_ok (get_run _),
    bind_run_ok (Table.ensureFresh_run hfresh)]
  rfl

theorem insertUser_run {record : UserRecord}
    (hfresh : tables.users.contains record.id.val = false)
    (hname : ∀ user ∈ tables.users.vals, user.username ≠ record.username)
    (hcustomer : ∀ k ∈ record.customerId.map Subtype.val, tables.customers.contains k = true) :
    StateTables.insertUser record tables =
      (.ok (), { tables with users := tables.users.insert record.id.val record }) := by
  rw [StateTables.insertUser, bind_run_ok (get_run _),
    bind_run_ok (Table.ensureFresh_run hfresh), bind_run_ok (ensure_run hname _ _),
    bind_run_ok (Table.ensureReferences_run hcustomer)]
  rfl

theorem insertAccount_run {record : AccountRecord}
    (hfresh : tables.accounts.contains record.id.val = false)
    (howner : ∀ k ∈ record.ownerId.map Subtype.val, tables.customers.contains k = true) :
    StateTables.insertAccount record tables =
      (.ok (), { tables with accounts := tables.accounts.insert record.id.val record }) := by
  rw [StateTables.insertAccount, bind_run_ok (get_run _),
    bind_run_ok (Table.ensureFresh_run hfresh), bind_run_ok (Table.ensureReferences_run howner)]
  rfl

theorem insertTransaction_run {record : TransactionRecord}
    (hfresh : tables.transactions.contains record.id.val = false)
    (haccount : tables.accounts.contains record.accountId.val = true) :
    StateTables.insertTransaction record tables =
      (.ok (), { tables with
        transactions := tables.transactions.insert record.id.val record }) := by
  rw [StateTables.insertTransaction, bind_run_ok (get_run _),
    bind_run_ok (Table.ensureFresh_run hfresh), bind_run_ok (Table.ensureReferences_run (by simpa))]
  rfl

theorem insertAuditEntry_run {record : AuditRecord}
    (hfresh : tables.auditEntries.contains record.id.val = false) :
    StateTables.insertAuditEntry record tables =
      (.ok (), { tables with
        auditEntries := tables.auditEntries.insert record.id.val record }) := by
  rw [StateTables.insertAuditEntry, bind_run_ok (get_run _),
    bind_run_ok (Table.ensureFresh_run hfresh)]
  rfl

end Statements

section Writing

variable (h : app.WellFormed argon2) {customers : Table CustomerRecord}
  {users : Table UserRecord} {accounts : Table AccountRecord}
  {transactions : Table TransactionRecord} {auditEntries : Table AuditRecord}

include h

theorem writeCustomers_run :
    forEach (fun customer => sqlite env (StateTables.insertCustomer (customerRecord customer)))
        app.identities.customerList ⟨∅, users, accounts, transactions, auditEntries⟩ =
      (.ok (), ⟨(tablesOf app).customers, users, accounts, transactions, auditEntries⟩) := by
  refine forEach_run (fun done => (⟨OrdMap.ofVals (fun row => row.id.val)
    (done.map customerRecord), users, accounts, transactions, auditEntries⟩ : StateTables)) ?_
  intro before customer rest hlist
  have hnodup := ascending_nodup (customers_ascending h)
  rw [hlist, List.map_append, List.map_cons] at hnodup
  rw [sqlite_ok env (insertCustomer_run (OrdMap.ofVals_fresh hnodup)), List.map_append,
    List.map_singleton, OrdMap.ofVals_snoc]

/-- A customer that somebody is linked to has a row. -/
theorem references_customers {reference : Option CustomerId}
    (hlinked : ∀ id ∈ reference, app.identities.customers[id]? ≠ none) :
    ∀ k ∈ (reference.map i64FromU32).map Subtype.val,
      (tablesOf app).customers.contains k = true := by
  intro k hk
  cases reference with
  | none => cases hk
  | some id =>
    obtain rfl := Option.some.inj hk
    obtain ⟨customer, hfound⟩ := Option.ne_none_iff_exists'.mp (hlinked id rfl)
    have hmem : customer ∈ app.identities.customerList := OrdMap.mem_vals.mpr ⟨id, hfound⟩
    refine (OrdMap.contains_ofVals _ _).mpr ⟨_, List.mem_map.mpr ⟨customer, hmem, rfl⟩, ?_⟩
    rw [← h.identities.customersKeyed id customer hfound]
    rfl

/-- The customer of a user is there. -/
theorem user_linked {user : User} (hmem : user ∈ app.identities.userList) :
    ∀ id ∈ user.customerId, app.identities.customers[id]? ≠ none := by
  intro id hid
  obtain ⟨userId, hfound⟩ := OrdMap.mem_vals.mp hmem
  obtain ⟨-, hlink, -⟩ := IdentityStore.validateImportedUser_ok_iff.mp
    (h.identities.usersValid userId user hfound)
  rcases IdentityStore.validateRoleCustomerLink_ok_iff.mp hlink with
    ⟨-, customerId, customer, hc, hcustomer⟩ | ⟨-, hnone⟩
  · rw [hc] at hid
    obtain rfl := Option.some.inj hid
    rw [hcustomer]
    exact Option.some_ne_none _
  · rw [hnone] at hid
    cases hid

theorem writeUsers_run :
    forEach (fun user => sqlite env (StateTables.insertUser (userRecord user)))
        app.identities.userList
        ⟨(tablesOf app).customers, ∅, accounts, transactions, auditEntries⟩ =
      (.ok (), ⟨(tablesOf app).customers, (tablesOf app).users, accounts, transactions,
        auditEntries⟩) := by
  refine forEach_run (fun done => (⟨(tablesOf app).customers,
    OrdMap.ofVals (fun row => row.id.val) (done.map userRecord), accounts, transactions,
    auditEntries⟩ : StateTables)) ?_
  intro before user rest hlist
  have hmem : user ∈ app.identities.userList := by rw [hlist]; simp
  have hsorted := users_ascending h
  have hnodup := ascending_nodup hsorted
  have hnames := h.identities.usernames_nodup
  rw [hlist, List.map_append, List.map_cons] at hsorted hnodup hnames
  have hname : ∀ row ∈ (OrdMap.ofVals (fun row : UserRecord => row.id.val)
      (before.map userRecord)).vals, row.username ≠ (userRecord user).username := by
    rw [OrdMap.vals_ofVals (List.pairwise_append.mp hsorted).1]
    intro row hrow
    obtain ⟨other, hother, rfl⟩ := List.mem_map.mp hrow
    exact (List.nodup_append.mp hnames).2.2 _ (List.mem_map.mpr ⟨other, hother, rfl⟩) _
      (List.mem_cons_self ..)
  rw [sqlite_ok env (insertUser_run (OrdMap.ofVals_fresh hnodup) hname
    (references_customers h (user_linked h hmem))), List.map_append, List.map_singleton,
    OrdMap.ofVals_snoc]

theorem writeAccounts_run (hfits : app.FitsSqlite) :
    forEach (writeAccount env) app.bank.accountList
        ⟨(tablesOf app).customers, users, ∅, ∅, auditEntries⟩ =
      (.ok (), ⟨(tablesOf app).customers, users, (tablesOf app).accounts,
        (tablesOf app).transactions, auditEntries⟩) := by
  refine forEach_run (fun done => (⟨(tablesOf app).customers, users,
    OrdMap.ofVals (fun row => row.id.val) (done.map accountRecord),
    OrdMap.ofVals (fun row => row.id.val) (done.flatMap historyRows),
    auditEntries⟩ : StateTables)) ?_
  intro before account rest hlist
  have hmem : account ∈ app.bank.accountList := by rw [hlist]; simp
  have hnodup := ascending_nodup (accounts_ascending h)
  have hrows := transactions_nodup h hfits
  rw [hlist, List.map_append, List.map_cons] at hnodup
  rw [hlist, List.flatMap_append, List.flatMap_cons] at hrows
  rw [writeAccount, bind_run_ok (sqlite_ok env (insertAccount_run (OrdMap.ofVals_fresh hnodup)
    (references_customers h (h.owners account.id account (found_of_mem h hmem)))))]
  -- the history goes in behind the rows of the accounts before
  have hloop := forEach_run (f := writeTransaction env account.id)
    (fun done => (⟨(tablesOf app).customers, users,
      OrdMap.ofVals (fun row => row.id.val) ((before ++ [account]).map accountRecord),
      OrdMap.ofVals (fun row => row.id.val)
        (before.flatMap historyRows ++ done.map (transactionRow account.id)),
      auditEntries⟩ : StateTables)) (l := account.transactions) ?_
  · simpa [OrdMap.ofVals_snoc, historyRows] using hloop
  · intro done t later hhistory
    have ht : t ∈ account.transactions := by rw [hhistory]; simp
    have hsplit : before.flatMap historyRows ++ (historyRows account ++ rest.flatMap historyRows) =
        (before.flatMap historyRows ++ done.map (transactionRow account.id)) ++
          transactionRow account.id t ::
            (later.map (transactionRow account.id) ++ rest.flatMap historyRows) := by
      simp [historyRows, hhistory]
    rw [hsplit] at hrows
    have hthere : (OrdMap.ofVals (fun row : AccountRecord => row.id.val)
        ((before ++ [account]).map accountRecord)).contains (i64FromU32 account.id).val = true :=
      (OrdMap.contains_ofVals _ _).mpr ⟨accountRecord account, by simp, rfl⟩
    have hsnoc : before.flatMap historyRows ++ (done ++ [t]).map (transactionRow account.id) =
        (before.flatMap historyRows ++ done.map (transactionRow account.id)) ++
          [transactionRow account.id t] := by simp
    rw [writeTransaction, transactionRecord_ok (hfits.transactions account hmem t ht) account.id,
      bind_run_ok (lift_run _ _), sqlite_ok env (insertTransaction_run
        (OrdMap.ofVals_fresh hrows) hthere), hsnoc, OrdMap.ofVals_snoc]

theorem writeAuditEntries_run (hfits : app.FitsSqlite) :
    forEach (writeAuditEntry env) app.auditLog.entries
        ⟨customers, users, accounts, transactions, ∅⟩ =
      (.ok (), ⟨customers, users, accounts, transactions, (tablesOf app).auditEntries⟩) := by
  refine forEach_run (fun done => (⟨customers, users, accounts, transactions,
    OrdMap.ofVals (fun row => row.id.val) (done.map auditRow)⟩ : StateTables)) ?_
  intro before entry rest hlist
  have hmem : entry ∈ app.auditLog.entries := by rw [hlist]; simp
  have hnodup := ascending_nodup (auditEntries_ascending h hfits)
  rw [hlist, List.map_append, List.map_cons] at hnodup
  rw [writeAuditEntry, auditRecord_ok (hfits.auditEntries entry hmem),
    bind_run_ok (lift_run _ _), sqlite_ok env (insertAuditEntry_run
      (OrdMap.ofVals_fresh hnodup)), List.map_append, List.map_singleton, OrdMap.ofVals_snoc]

/-- Whatever the tables held, they hold the state afterwards. -/
theorem writeNormalizedState_run (hfits : app.FitsSqlite) (tables : StateTables) :
    writeNormalizedState env app tables = (.ok (), tablesOf app) := by
  rw [writeNormalizedState, bind_run_ok (sqlite_ok env (deleteTransactions_run tables)),
    bind_run_ok (sqlite_ok env (deleteAccounts_run rfl)),
    bind_run_ok (sqlite_ok env (deleteUsers_run _)),
    bind_run_ok (sqlite_ok env (deleteCustomers_run rfl rfl)),
    bind_run_ok (sqlite_ok env (deleteAuditEntries_run _)),
    bind_run_ok (writeCustomers_run env h),
    bind_run_ok (writeUsers_run env h), bind_run_ok (writeAccounts_run env h hfits)]
  exact writeAuditEntries_run env h hfits

end Writing

/-! ## Reading -/

theorem readCustomers_tablesOf (h : app.WellFormed argon2) :
    (tablesOf app).readCustomers = .ok app.identities.customerList := by
  rw [StateTables.readCustomers, tablesOf, OrdMap.vals_ofVals (customers_ascending h)]
  exact Table.mapM_map fun customer _ => customerFromRecord_customerRecord customer

theorem readUsers_tablesOf (h : app.WellFormed argon2) :
    (tablesOf app).readUsers = .ok app.identities.userList := by
  rw [StateTables.readUsers, tablesOf, OrdMap.vals_ofVals (users_ascending h)]
  exact Table.mapM_map fun user _ => userFromRecord_userRecord user

/-- The rows of an account are its history, in order. -/
theorem readAccountTransactions_tablesOf (h : app.WellFormed argon2) (hfits : app.FitsSqlite)
    {account : Account} (hmem : account ∈ app.bank.accountList) :
    (tablesOf app).readAccountTransactions account.id = .ok account.transactions := by
  have hrows : (tablesOf app).transactions.vals.filter (fun record =>
      record.accountId = i64FromU32 account.id) = historyRows account := by
    refine OrdMap.filter_vals_ofVals (transactions_nodup h hfits) (fun row => ?_)
      (history_ascending h hfits hmem)
    rw [List.mem_flatMap, decide_eq_true_iff]
    constructor
    · intro hrow
      refine ⟨⟨account, hmem, hrow⟩, ?_⟩
      obtain ⟨t, -, rfl⟩ := List.mem_map.mp hrow
      rfl
    · rintro ⟨⟨other, hother, hrow⟩, haccount⟩
      obtain ⟨t, -, rfl⟩ := List.mem_map.mp hrow
      have hid : other.id = account.id := i64FromU32_inj.mp haccount
      have hsame := found_of_mem h hother
      rw [hid, found_of_mem h hmem] at hsame
      rwa [Option.some.inj hsame]
  rw [StateTables.readAccountTransactions, hrows]
  exact Table.mapM_map fun t ht =>
    transactionFromRecord_transactionRow (hfits.transactions account hmem t ht) account.id

theorem accountFromRecord_tablesOf (h : app.WellFormed argon2) (hfits : app.FitsSqlite)
    {account : Account} (hmem : account ∈ app.bank.accountList) :
    (tablesOf app).accountFromRecord (accountRecord account) = .ok account := by
  simp only [StateTables.accountFromRecord, accountRecord, i64ToU32_i64FromU32,
    optionalI64ToU32_map, accountStatusFromDb_display]
  show (tablesOf app).readAccountTransactions account.id >>= _ = _
  rw [readAccountTransactions_tablesOf h hfits hmem]
  rfl

theorem readBank_tablesOf (h : app.WellFormed argon2) (hfits : app.FitsSqlite) :
    (tablesOf app).readBank = .ok app.reloaded.bank := by
  have hread : (tablesOf app).accounts.vals.mapM (tablesOf app).accountFromRecord =
      .ok app.bank.accountList := by
    rw [tablesOf, OrdMap.vals_ofVals (accounts_ascending h)]
    exact Table.mapM_map fun account hmem => accountFromRecord_tablesOf h hfits hmem
  rw [StateTables.readBank, hread]
  exact congrArg (Except.mapError _) h.parts.2.1

theorem readAuditLog_tablesOf (h : app.WellFormed argon2) (hfits : app.FitsSqlite) :
    (tablesOf app).readAuditLog = .ok app.auditLog := by
  have hread : (tablesOf app).auditEntries.vals.mapM auditEntryFromRecord =
      .ok app.auditLog.entries := by
    rw [tablesOf, OrdMap.vals_ofVals (auditEntries_ascending h hfits)]
    exact Table.mapM_map fun entry hentry =>
      auditEntryFromRecord_auditRow (hfits.auditEntries entry hentry)
  rw [StateTables.readAuditLog, hread]
  exact congrArg (Except.mapError _) h.parts.2.2.1

/-- Tables that hold rows of a state are read back as that state. -/
theorem readNormalizedState_tablesOf (h : app.WellFormed argon2) (hfits : app.FitsSqlite) :
    (tablesOf app).readNormalizedState argon2 =
      .ok (if (tablesOf app).hasNormalizedRows then some app.reloaded else none) := by
  obtain ⟨hidentities, -, -, howners⟩ := h.parts
  unfold StateTables.readNormalizedState
  cases (tablesOf app).hasNormalizedRows with
  | false => rfl
  | true =>
    simp only [Bool.true_eq_false, if_false, if_true, readCustomers_tablesOf h,
      readUsers_tablesOf h, readBank_tablesOf h hfits, readAuditLog_tablesOf h hfits,
      hidentities, howners, Except.mapError, bind, Except.bind]
    rfl

end Tables

end Banck
