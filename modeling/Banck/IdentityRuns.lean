/-
Banck.IdentityRuns — what the identities keep, whatever calls are made.

Customers and users are added and never removed or changed (`Extends`), so
a session that names a user goes on to name that user (`Session.Names`).
A user is only added by the call that asks for it (`Serves.added`).
-/
import Banck.AppInvariants

namespace Banck

open Lib Mut

/-! ## Nothing is removed or changed -/

namespace IdentityStore

/-- Every customer and every user is still there, as before. -/
structure Extends (before after : IdentityStore) : Prop where
  customers : ∀ (id : CustomerId) (customer : Customer),
    before.customers[id]? = some customer → after.customers[id]? = some customer
  users : ∀ (id : UserId) (user : User),
    before.users[id]? = some user → after.users[id]? = some user

variable {argon2 : Argon2} {store store' store'' : IdentityStore}

theorem Extends.refl (store : IdentityStore) : store.Extends store :=
  ⟨fun _ _ h => h, fun _ _ h => h⟩

theorem Extends.trans (h : store.Extends store') (h' : store'.Extends store'') :
    store.Extends store'' :=
  ⟨fun id customer hc => h'.customers id customer (h.customers id customer hc),
    fun id user hu => h'.users id user (h.users id user hu)⟩

theorem createCustomer_extends (id : CustomerId) (fullName email : String)
    (store : IdentityStore) : store.Extends (createCustomer id fullName email store).2 := by
  rcases hrun : createCustomer id fullName email store with ⟨e | customer, store'⟩
  · rw [createCustomer_error hrun]
    exact .refl store
  · obtain ⟨hfresh, _, _, -, -, -, rfl⟩ := createCustomer_ok_iff.mp hrun
    refine ⟨fun id' customer' hfound => ?_, fun _ _ h => h⟩
    have hne : id' ≠ id := fun hid => by rw [hid, hfresh] at hfound; cases hfound
    rw [OrdMap.get_insert_ne _ _ hne]
    exact hfound

theorem createUser_extends (argon2 : Argon2) (salt : String) (id : UserId) (username : String)
    (role : Role) (customerId : Option CustomerId) (password : String) (store : IdentityStore) :
    store.Extends (createUser argon2 salt id username role customerId password store).2 := by
  rcases hrun : createUser argon2 salt id username role customerId password store with
    ⟨e | user, store'⟩
  · rw [createUser_error hrun]
    exact .refl store
  · obtain ⟨hfresh, -, -, _, _, -, -, -, -, rfl⟩ := createUser_ok_iff.mp hrun
    refine ⟨fun _ _ h => h, fun id' user' hfound => ?_⟩
    have hne : id' ≠ id := fun hid => by rw [hid, hfresh] at hfound; cases hfound
    rw [OrdMap.get_insert_ne _ _ hne]
    exact hfound

/-- At most the user that was asked for is new. -/
theorem createUser_added {salt : String} {id id' : UserId} {username : String} {role : Role}
    {customerId : Option CustomerId} {password : String}
    (hnone : store.users[id']? = none)
    (hsome : (createUser argon2 salt id username role customerId password store).2.users[id']? ≠
      none) : id' = id := by
  by_contra hne
  rcases hrun : createUser argon2 salt id username role customerId password store with
    ⟨e | user, store'⟩
  · rw [hrun] at hsome
    exact hsome (by rw [createUser_error hrun]; exact hnone)
  · rw [hrun] at hsome
    obtain ⟨-, -, -, _, _, -, -, -, -, rfl⟩ := createUser_ok_iff.mp hrun
    exact hsome (by rw [OrdMap.get_insert_ne _ _ hne]; exact hnone)

theorem hasUsers_iff : store.hasUsers = true ↔ ∃ (id : UserId) (user : User),
    store.users[id]? = some user := by
  unfold hasUsers
  rw [Bool.not_eq_true', Std.ExtTreeMap.isEmpty_eq_false_iff]
  constructor
  · intro hne
    by_contra hno
    refine hne (Std.ExtTreeMap.ext_getElem? fun id => ?_)
    cases hfound : store.users[id]? with
    | none => simp
    | some user => exact absurd ⟨id, user, hfound⟩ hno
  · intro h
    obtain ⟨id, user, hfound⟩ := h
    intro hempty
    rw [hempty] at hfound
    simp at hfound

theorem Extends.hasUsers (h : store.Extends store') (husers : store.hasUsers = true) :
    store'.hasUsers = true := by
  obtain ⟨id, user, hfound⟩ := hasUsers_iff.mp husers
  exact hasUsers_iff.mpr ⟨id, user, h.users id user hfound⟩

end IdentityStore

/-! ## Sessions -/

/-- The session is that of a user of the store, and is linked to a customer
of the store exactly if the user is a customer. -/
structure Session.Names (session : Session) (store : IdentityStore) : Prop where
  user : ∃ user : User, store.users[session.userId]? = some user ∧ Session.new user = session
  customer : session.role = .customer ↔ ∃ customerId, session.customerId = some customerId ∧
    store.customers[customerId]? ≠ none
  staff : session.role ≠ .customer → session.customerId = none

section Names

variable {argon2 : Argon2} {store store' : IdentityStore} {session : Session}

theorem Session.Names.extends (h : session.Names store) (hmore : store.Extends store') :
    session.Names store' := by
  refine ⟨?_, ?_, h.staff⟩
  · obtain ⟨user, hfound, hnew⟩ := h.user
    exact ⟨user, hmore.users _ user hfound, hnew⟩
  · constructor
    · intro hrole
      obtain ⟨customerId, hid, hthere⟩ := h.customer.mp hrole
      obtain ⟨customer, hfound⟩ := Option.ne_none_iff_exists'.mp hthere
      exact ⟨customerId, hid, by rw [hmore.customers _ customer hfound]; simp⟩
    · intro hlinked
      obtain ⟨customerId, hid, -⟩ := hlinked
      by_contra hrole
      rw [h.staff hrole] at hid
      cases hid

/-- A user of a well-formed store is linked as its role asks. -/
theorem IdentityStore.WellFormed.names (h : store.WellFormed argon2) {id : UserId} {user : User}
    (hfound : store.users[id]? = some user) : (Session.new user).Names store := by
  obtain ⟨-, hlink, -⟩ := validateImportedUser_ok_iff.mp (h.usersValid id user hfound)
  have hid : user.id = id := h.usersKeyed id user hfound
  subst hid
  refine ⟨⟨user, hfound, rfl⟩, ?_, ?_⟩
  · rcases validateRoleCustomerLink_ok_iff.mp hlink with
      ⟨hrole, id, customer, hid, hcustomer⟩ | ⟨hrole, hnone⟩
    · have hthere : store.customers[id]? ≠ none := by rw [hcustomer]; exact Option.some_ne_none _
      exact ⟨fun _ => ⟨id, hid, hthere⟩, fun _ => hrole⟩
    · simp [Session.new, hrole, hnone]
  · intro hrole
    rcases validateRoleCustomerLink_ok_iff.mp hlink with ⟨hcustomer, -⟩ | ⟨-, hnone⟩
    · exact absurd hcustomer hrole
    · exact hnone

/-- Whoever can log in is a user. -/
theorem authenticate_names (h : store.WellFormed argon2) {username password : String}
    (hok : store.authenticate argon2 username password = .ok session) : session.Names store := by
  -- the index leads to a user
  obtain ⟨name, id, user, -, -, hfound, rfl⟩ := IdentityStore.authenticate_ok hok
  exact h.names hfound

/-- Who is logged in, and how. -/
theorem IdentityStore.authenticate_ok_iff {username password : String} :
    store.authenticate argon2 username password = .ok session ↔
      ∃ name id, ∃ user : User, normalizeUsername username = .ok name ∧
        store.usernameIndex[name]? = some id ∧ store.users[id]? = some user ∧
        argon2.parseHash user.passwordHash = .ok () ∧
        argon2.verifyPassword password user.passwordHash = true ∧ session = Session.new user := by
  constructor
  · intro hok
    obtain ⟨name, id, user, hname, hindex, hfound, rfl⟩ := authenticate_ok hok
    refine ⟨name, id, user, hname, hindex, hfound, ?_⟩
    simp only [authenticate, hname, hindex, IdentityStore.user, hfound, bind, Except.bind] at hok
    cases hparse : argon2.parseHash user.passwordHash with
    | error e =>
      rw [hparse] at hok
      cases hok
    | ok u =>
      rw [hparse] at hok
      simp only [Except.mapError] at hok
      split at hok
      · next hverify => exact ⟨rfl, hverify, rfl⟩
      · cases hok
  · intro h
    obtain ⟨name, id, user, hname, hindex, hfound, hparse, hverify, rfl⟩ := h
    simp only [authenticate, hname, hindex, IdentityStore.user, hfound, hparse, hverify, bind,
      Except.bind, Except.mapError, if_true]

/-- Who could log in still can. -/
theorem IdentityStore.Extends.authenticate (hmore : store.Extends store')
    (h : store.WellFormed argon2) (h' : store'.WellFormed argon2) {username password : String}
    (hok : store.authenticate argon2 username password = .ok session) :
    store'.authenticate argon2 username password = .ok session := by
  obtain ⟨name, id, user, hname, hindex, hfound, hvalid⟩ := authenticate_ok_iff.mp hok
  obtain ⟨user', hfound', hname'⟩ := (h.index name id).mp hindex
  obtain rfl := Option.some.inj (hfound.symm.trans hfound')
  have hthere := hmore.users id user hfound
  exact authenticate_ok_iff.mpr
    ⟨name, id, user, hname, (h'.index name id).mpr ⟨user, hthere, hname'⟩, hthere, hvalid⟩

end Names

/-! ## What serving a request adds -/

section Serves

variable {argon2 : Argon2} {session : Option Session} {acts : AppMove → Prop}
  {app app' : AppState}

theorem AppMove.run_extends (argon2 : Argon2) (app : AppState) (m : AppMove) :
    app.identities.Extends (m.run argon2 app).identities := by
  cases m with
  | bank | monthlyFee | audit => exact .refl _
  | createCustomer id fullName email =>
    exact IdentityStore.createCustomer_extends id fullName email _
  | createUser salt id username role customerId password =>
    exact IdentityStore.createUser_extends argon2 salt id username role customerId password _
  | bootstrapAdmin salt id username password =>
    exact IdentityStore.createUser_extends argon2 salt id username .admin none password _

theorem Serves.extends (h : Serves argon2 session acts app app') :
    app.identities.Extends app'.identities :=
  h.invariant (I := fun current => app.identities.Extends current.identities)
    (fun current m _ hext => hext.trans (m.run_extends argon2 current)) (.refl _)

/-- Who is new was asked for, by a session that manages the identities, or
as the first administrator. -/
theorem Serves.added (h : Serves argon2 session acts app app') {id : UserId}
    (hnone : app.identities.users[id]? = none) (hsome : app'.identities.users[id]? ≠ none) :
    (∃ s ∈ session, s.can .manageIdentity = true ∧
      ∃ salt username role customerId password,
        acts (.createUser salt id username role customerId password)) ∨
    session = none ∧ app.identities.hasUsers = false ∧
      ∃ salt username password, acts (.bootstrapAdmin salt id username password) := by
  obtain ⟨mid, hmid, hrecords⟩ := h
  rw [hrecords.rest.2] at hsome
  rcases hmid with rfl | ⟨m, hact, hperm, rfl⟩
  · exact absurd hnone hsome
  cases m with
  | bank | monthlyFee | audit => exact absurd hnone hsome
  | createCustomer id' fullName email =>
    refine absurd hnone ?_
    rcases hrun : IdentityStore.createCustomer id' fullName email app.identities with
      ⟨e | customer, store'⟩
    · simpa [AppMove.run, hrun, IdentityStore.createCustomer_error hrun] using hsome
    · obtain ⟨-, _, _, -, -, -, rfl⟩ := IdentityStore.createCustomer_ok_iff.mp hrun
      simpa [AppMove.run, hrun] using hsome
  | createUser salt id' username role customerId password =>
    obtain ⟨s, hs, hcan⟩ := hperm
    obtain rfl := IdentityStore.createUser_added hnone hsome
    exact .inl ⟨s, hs, hcan, salt, username, role, customerId, password, hact⟩
  | bootstrapAdmin salt id' username password =>
    obtain ⟨hsession, husers⟩ := hperm
    obtain rfl := IdentityStore.createUser_added hnone hsome
    exact .inr ⟨hsession, husers, salt, username, password, hact⟩

end Serves

end Banck
