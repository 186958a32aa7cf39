/-
Banck.IdentityIndex — the username index over whole runs of the identity
store.

Whatever the password library returns, the index and the users stay in step
(`Indexed`): a user is filed under the normal form of its name, and what the
index leads to is a user of that name. New users come from `create_user` and
from the loader, and both file them the same way (`Indexed.addUser`).
-/
import Banck.IdentityTheorems
import Banck.Lib.Machine

namespace Banck.IdentityStore

open Lib Lib.Machine Mut

variable {argon2 : Argon2} {store store' : IdentityStore}

/-! ## The invariant -/

/-- Users are filed under their ids and linked as their roles ask, and the
index leads from each normalized username to its user. -/
structure Indexed (store : IdentityStore) : Prop where
  usersKeyed : OrdMap.Keyed User.id store.users
  normal : ∀ (id : UserId) (user : User), store.users[id]? = some user →
    ∃ name, normalizeUsername user.username = .ok name
  linked : ∀ (id : UserId) (user : User), store.users[id]? = some user →
    store.validateRoleCustomerLink user.role user.customerId = .ok ()
  index : ∀ (name : String) (id : UserId), store.usernameIndex[name]? = some id ↔
    ∃ user : User, store.users[id]? = some user ∧ normalizeUsername user.username = .ok name

theorem indexed_new : new.Indexed := by
  constructor
  · exact OrdMap.keyed_empty _
  · intro id user h; simp [new] at h
  · intro id user h; simp [new] at h
  · intro name id; simp [new]

/-- More customers leave every link valid. -/
theorem Indexed.addCustomer (h : store.Indexed) (customer : Customer) :
    (store.addCustomer customer).Indexed := by
  refine ⟨h.usersKeyed, h.normal, fun id user hfound => ?_, h.index⟩
  refine link_mono (fun id' customer' hcustomer => ?_) (h.linked id user hfound)
  by_cases hid : id' = customer.id
  · subst hid
    exact ⟨customer, OrdMap.get_insert_self _ _ _⟩
  · refine ⟨customer', ?_⟩
    rw [IdentityStore.addCustomer, OrdMap.get_insert_ne _ _ hid]
    exact hcustomer

/-- A new user under a new name. -/
theorem Indexed.addUser (h : store.Indexed) (user : User) (name : String)
    (hfresh : store.users[user.id]? = none) (hnew : store.usernameIndex[name]? = none)
    (hname : normalizeUsername user.username = .ok name)
    (hlink : store.validateRoleCustomerLink user.role user.customerId = .ok ()) :
    Indexed { store with
      users := store.users.insert user.id user
      usernameIndex := store.usernameIndex.insert name user.id } := by
  have hsame : ∀ (id : CustomerId) (customer : Customer), store.customers[id]? = some customer →
      ∃ customer' : Customer, store.customers[id]? = some customer' :=
    fun _ customer hc => ⟨customer, hc⟩
  refine ⟨OrdMap.Keyed.insert _ h.usersKeyed rfl, fun id user' hfound => ?_,
    fun id user' hfound => ?_, index_insert h.index hfresh hnew hname⟩
  · by_cases hid : id = user.id
    · subst hid
      rw [OrdMap.get_insert_self] at hfound
      obtain rfl := Option.some.inj hfound
      exact ⟨name, hname⟩
    · rw [OrdMap.get_insert_ne _ _ hid] at hfound
      exact h.normal id user' hfound
  · by_cases hid : id = user.id
    · subst hid
      rw [OrdMap.get_insert_self] at hfound
      obtain rfl := Option.some.inj hfound
      exact link_mono hsame hlink
    · rw [OrdMap.get_insert_ne _ _ hid] at hfound
      exact link_mono hsame (h.linked id user' hfound)

/-! ## Creating -/

theorem Indexed.createCustomer (h : store.Indexed) (id : CustomerId) (fullName email : String) :
    (createCustomer id fullName email store).2.Indexed := by
  rcases hrun : IdentityStore.createCustomer id fullName email store with ⟨e | customer, store'⟩
  · rw [createCustomer_error hrun]
    exact h
  · obtain ⟨-, name, address, -, -, rfl, rfl⟩ := createCustomer_ok_iff.mp hrun
    exact h.addCustomer ⟨id, name, address⟩

theorem Indexed.createUser (h : store.Indexed) (argon2 : Argon2) (salt : String) (id : UserId)
    (username : String) (role : Role) (customerId : Option CustomerId) (password : String) :
    (createUser argon2 salt id username role customerId password store).2.Indexed := by
  rcases hrun : IdentityStore.createUser argon2 salt id username role customerId password store
    with ⟨e | user, store'⟩
  · rw [createUser_error hrun]
    exact h
  · obtain ⟨hfresh, -, hlink, name, hash, hname, hnew, -, rfl, rfl⟩ := createUser_ok_iff.mp hrun
    exact h.addUser ⟨id, name, role, customerId, hash⟩ name hfresh hnew
      (normalizeUsername_clean hname) hlink

/-! ## Loading -/

theorem Indexed.importCustomer (h : store.Indexed) {customer : Customer}
    (hok : importCustomer store customer = .ok store') : store'.Indexed := by
  obtain ⟨-, rfl⟩ := (importCustomer_ok_iff store customer store').mp hok
  exact h.addCustomer customer

theorem Indexed.importUser (h : store.Indexed) {user : User}
    (hok : importUser argon2 store user = .ok store') : store'.Indexed := by
  obtain ⟨⟨hvalid, hfresh, hnew⟩, rfl⟩ := (importUser_ok_iff store user store').mp hok
  obtain ⟨⟨name, hname⟩, hlink, -⟩ := validateImportedUser_ok_iff.mp hvalid
  rw [← nameKey_eq hname] at hname
  rw [HasUser, Bool.not_eq_true, contains_false_iff] at hfresh
  rw [HasName, Bool.not_eq_true, contains_false_iff] at hnew
  exact h.addUser user (nameKey user) hfresh hnew hname hlink

theorem indexed_of_fromRecords {customers : List Customer} {users : List User}
    (h : fromRecords argon2 customers users = .ok store) : store.Indexed := by
  unfold fromRecords at h
  cases hcustomers : customers.foldlM importCustomer new with
  | error e => simp [hcustomers, bind, Except.bind] at h
  | ok start =>
    rw [hcustomers] at h
    have hstart : start.Indexed :=
      CheckedFold.foldlM_kept (fun _ _ _ hs hok => hs.importCustomer hok) customers indexed_new
        hcustomers
    exact CheckedFold.foldlM_kept (fun _ _ _ hs hok => hs.importUser hok) users hstart h

/-! ## What the index says -/

/-- A user has one entry, and who has an entry is a user. -/
theorem Indexed.bijective (h : store.Indexed) :
    (∀ (id : UserId) (user : User), store.users[id]? = some user →
      ∃! name : String, store.usernameIndex[name]? = some id) ∧
    (∀ (name : String) (id : UserId), store.usernameIndex[name]? = some id →
      ∃! user : User, store.users[id]? = some user ∧
        normalizeUsername user.username = .ok name) := by
  constructor
  · intro id user hfound
    obtain ⟨name, hname⟩ := h.normal id user hfound
    refine ⟨name, (h.index name id).mpr ⟨user, hfound, hname⟩, fun name' hindex => ?_⟩
    obtain ⟨user', hfound', hname'⟩ := (h.index name' id).mp hindex
    obtain rfl := Option.some.inj (hfound'.symm.trans hfound)
    exact Except.ok.inj (hname'.symm.trans hname)
  · intro name id hindex
    obtain ⟨user, hfound, hname⟩ := (h.index name id).mp hindex
    exact ⟨user, ⟨hfound, hname⟩, fun user' h' => Option.some.inj (h'.1.symm.trans hfound)⟩

/-- Users whose names normalise alike are one user. -/
theorem Indexed.eq_of_name (h : store.Indexed) {id id' : UserId} {user user' : User}
    {name : String} (hu : store.users[id]? = some user) (hu' : store.users[id']? = some user')
    (hname : normalizeUsername user.username = .ok name)
    (hname' : normalizeUsername user'.username = .ok name) : id = id' := by
  have hindex := (h.index name id).mpr ⟨user, hu, hname⟩
  have hindex' := (h.index name id').mpr ⟨user', hu', hname'⟩
  exact Option.some.inj (hindex.symm.trans hindex')

/-! ## Runs -/

inductive Call where
  | createCustomer (id : CustomerId) (fullName email : String)
  | createUser (salt : String) (id : UserId) (username : String) (role : Role)
      (customerId : Option CustomerId) (password : String)
  deriving DecidableEq, Repr

def step (argon2 : Argon2) (store : IdentityStore) :
    Call → Except IdentityError (Customer ⊕ User) × IdentityStore
  | .createCustomer id fullName email =>
      let (result, store') := createCustomer id fullName email store
      (result.map .inl, store')
  | .createUser salt id username role customerId password =>
      let (result, store') := createUser argon2 salt id username role customerId password store
      (result.map .inr, store')

/-- Where a run starts: `new`, or what was loaded. -/
def Started (argon2 : Argon2) (store : IdentityStore) : Prop :=
  store = new ∨ ∃ customers users, fromRecords argon2 customers users = .ok store

theorem Started.indexed (h : store.Started argon2) : store.Indexed := by
  rcases h with rfl | ⟨customers, users, hload⟩
  · exact indexed_new
  · exact indexed_of_fromRecords hload

theorem Indexed.step (h : store.Indexed) (argon2 : Argon2) (call : Call) :
    (step argon2 store call).2.Indexed := by
  cases call with
  | createCustomer id fullName email => exact h.createCustomer id fullName email
  | createUser salt id username role customerId password =>
    exact h.createUser argon2 salt id username role customerId password

theorem step_error {call : Call} {e : IdentityError}
    (h : step argon2 store call = (.error e, store')) : store' = store := by
  cases call with
  | createCustomer id fullName email =>
    rcases hrun : createCustomer id fullName email store with ⟨e' | customer, after⟩
    · simp only [step, hrun, Except.map, Prod.mk.injEq] at h
      rw [← h.2]
      exact createCustomer_error hrun
    · simp [step, hrun, Except.map] at h
  | createUser salt id username role customerId password =>
    rcases hrun : createUser argon2 salt id username role customerId password store with
      ⟨e' | user, after⟩
    · simp only [step, hrun, Except.map, Prod.mk.injEq] at h
      rw [← h.2]
      exact createUser_error hrun
    · simp [step, hrun, Except.map] at h

/-- After any calls the index and the users are in step, and a login gives
the session of the one user of that name. -/
theorem usernameIndex_run (hstart : store.Started argon2) (calls : List Call) :
    let last := final (step argon2) store calls
    (∀ (id : UserId) (user : User), last.users[id]? = some user → user.id = id ∧
      ∃ name, normalizeUsername user.username = .ok name ∧
        ∀ name', last.usernameIndex[name']? = some id ↔ name' = name) ∧
    (∀ (name : String) (id : UserId), last.usernameIndex[name]? = some id →
      ∃! user : User, last.users[id]? = some user ∧
        normalizeUsername user.username = .ok name) ∧
    (∀ (id id' : UserId) (user user' : User) (name : String), last.users[id]? = some user →
      last.users[id']? = some user' → normalizeUsername user.username = .ok name →
      normalizeUsername user'.username = .ok name → id = id') ∧
    (∀ (id : UserId) (user : User), last.users[id]? = some user →
      last.validateRoleCustomerLink user.role user.customerId = .ok ()) ∧
    (∀ (call : Call) (e : IdentityError) (after : IdentityStore),
      step argon2 last call = (.error e, after) → after = last) ∧
    ∀ (username password : String) (session : Session),
      last.authenticate argon2 username password = .ok session →
      ∃ name, ∃ user : User, normalizeUsername username = .ok name ∧
        session = Session.new user ∧ last.users[user.id]? = some user ∧
        ∀ (id : UserId) (other : User), last.users[id]? = some other →
          (normalizeUsername other.username = .ok name ↔ other = user) := by
  intro last
  have hlast : last.Indexed :=
    final_invariant (step argon2) (fun _ call hs => hs.step argon2 call) calls store
      hstart.indexed
  refine ⟨fun id user hfound => ?_, hlast.bijective.2,
    fun _ _ _ _ _ hu hu' hname hname' => hlast.eq_of_name hu hu' hname hname', hlast.linked,
    fun _ _ _ herror => step_error herror, fun username password session hok => ?_⟩
  · obtain ⟨name, hname⟩ := hlast.normal id user hfound
    have hentry := (hlast.index name id).mpr ⟨user, hfound, hname⟩
    refine ⟨hlast.usersKeyed id user hfound, name, hname, fun name' => ⟨fun hindex => ?_, ?_⟩⟩
    · exact (hlast.bijective.1 id user hfound).unique hindex hentry
    · intro heq
      rw [heq]
      exact hentry
  · obtain ⟨name, id, user, hnormal, hindex, hfound, hsession⟩ := authenticate_ok hok
    obtain ⟨user', hfound', hname⟩ := (hlast.index name id).mp hindex
    obtain rfl := Option.some.inj (hfound'.symm.trans hfound)
    have hid : user'.id = id := hlast.usersKeyed id user' hfound
    rw [← hid] at hfound
    refine ⟨name, user', hnormal, hsession, hfound, fun id' other hother => ⟨fun hsame => ?_, ?_⟩⟩
    · obtain rfl := hlast.eq_of_name hother hfound hsame hname
      exact Option.some.inj (hother.symm.trans hfound)
    · intro heq
      rw [heq]
      exact hname

/-- A user that was loaded keeps its spelling, and one that is created under
another spelling of the name is refused. -/
theorem usernameIndex_run_spelling :
    let argon2 : Argon2 := ⟨fun salt _ => .ok salt, fun _ => .ok (), fun _ _ => true⟩
    let ada : User := ⟨1, " Ada_1 ", .admin, none, "hash"⟩
    let loaded : IdentityStore := ⟨∅, OrdMap.ofVals User.id [ada],
      OrdMap.mapVals User.id (OrdMap.ofVals nameKey [ada])⟩
    let last := final (step argon2) loaded [.createUser "salt" 2 "ADA_1" .teller none "password"]
    (last.users[(1 : UserId)]? = some ada ∧ last.users[(2 : UserId)]? = none) ∧
      last.authenticate argon2 "aDa_1" "password" = .ok (Session.new ada) ∧
      ∃ name, normalizeUsername ada.username = .ok name ∧
        ∀ name', last.usernameIndex[name']? = some 1 ↔ name' = name := by
  intro argon2 ada loaded last
  have hload : fromRecords argon2 [] [ada] = .ok loaded := by decide +kernel
  have hada : last.users[(1 : UserId)]? = some ada := by decide +kernel
  have h := usernameIndex_run (.inr ⟨[], [ada], hload⟩)
    [.createUser "salt" 2 "ADA_1" .teller none "password"]
  exact ⟨⟨hada, by decide +kernel⟩, by decide +kernel, (h.1 1 ada hada).2⟩

end Banck.IdentityStore
