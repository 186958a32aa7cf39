/-
Banck.IdentityTheorems — the invariant of the identity store, and that the
loader gives back what the operations built.

The loader runs the checks of the constructors again on what they stored.
It accepts it because a stored name, address or username is a fixed point
of its check, and it builds the same index because the index of a
well-formed store is determined by its users (`WellFormed.reload`).
-/
import Banck.Identity
import Banck.Lib.CheckedFold

namespace Banck

open Lib Mut

/-! ## Usernames -/

theorem normalizeUsername_ok_iff {username clean : String} :
    normalizeUsername username = .ok clean ↔
      clean = Text.toLowercase (Text.trim username) ∧ 3 ≤ clean.utf8ByteSize ∧
        clean.toList.all isUsernameChar = true := by
  unfold normalizeUsername
  by_cases h : (Text.toLowercase (Text.trim username)).utf8ByteSize < 3 ∨
      ¬ (Text.toLowercase (Text.trim username)).toList.all isUsernameChar
  · rw [if_pos h]
    simp only [reduceCtorEq, false_iff]
    intro hclean
    obtain ⟨rfl, hlen, hchars⟩ := hclean
    rcases h with h | h
    · omega
    · exact h hchars
  · rw [if_neg h, Except.ok.injEq]
    rw [not_or, not_not, not_lt] at h
    constructor
    · intro hclean
      subst hclean
      exact ⟨rfl, h⟩
    · intro hclean
      exact hclean.1.symm

/-- A normalized username is its own normal form. -/
theorem normalizeUsername_clean {username clean : String}
    (h : normalizeUsername username = .ok clean) : normalizeUsername clean = .ok clean := by
  obtain ⟨rfl, hlen, hchars⟩ := normalizeUsername_ok_iff.mp h
  exact normalizeUsername_ok_iff.mpr ⟨(Text.clean_clean username).symm, hlen, hchars⟩

namespace IdentityStore

variable {argon2 : Argon2} {store store' : IdentityStore}

/-! ## Checks -/

theorem customer_ok_iff {id : CustomerId} {customer : Customer} :
    store.customer id = .ok customer ↔ store.customers[id]? = some customer := by
  unfold IdentityStore.customer
  cases store.customers[id]? <;> simp

/-- A customer is linked to an existing customer, staff to none. -/
theorem validateRoleCustomerLink_ok_iff {role : Role} {customerId : Option CustomerId}
    {u : Unit} :
    store.validateRoleCustomerLink role customerId = .ok u ↔
      (role = .customer ∧ ∃ id customer, customerId = some id ∧
        store.customers[id]? = some customer) ∨ role ≠ .customer ∧ customerId = none := by
  cases role with
  | customer =>
    cases customerId with
    | none => simp [validateRoleCustomerLink]
    | some id =>
      cases hfound : store.customer id with
      | error e =>
        have hnone : ∀ customer, store.customers[id]? ≠ some customer := fun customer h => by
          rw [customer_ok_iff.mpr h] at hfound; cases hfound
        simp [validateRoleCustomerLink, hfound, hnone, bind, Except.bind]
      | ok customer =>
        simp [validateRoleCustomerLink, hfound, customer_ok_iff.mp hfound, bind, Except.bind]
  | teller | admin => cases customerId <;> simp [validateRoleCustomerLink]

theorem validateCustomer_ok_iff {customer : Customer} {u : Unit} :
    validateCustomer customer = .ok u ↔
      (∃ name, cleanName customer.fullName = .ok name) ∧
        ∃ email, cleanEmail customer.email = .ok email := by
  unfold validateCustomer
  cases cleanName customer.fullName with
  | error e => simp [bind, Except.bind]
  | ok name => cases cleanEmail customer.email <;> simp [bind, Except.bind]

theorem validateImportedUser_ok_iff {user : User} {u : Unit} :
    validateImportedUser argon2 store user = .ok u ↔
      (∃ name, normalizeUsername user.username = .ok name) ∧
      store.validateRoleCustomerLink user.role user.customerId = .ok () ∧
      argon2.parseHash user.passwordHash = .ok () := by
  unfold validateImportedUser
  cases normalizeUsername user.username with
  | error e => simp [bind, Except.bind]
  | ok name =>
    cases store.validateRoleCustomerLink user.role user.customerId with
    | error e => simp [bind, Except.bind]
    | ok _ =>
      cases argon2.parseHash user.passwordHash <;> simp [bind, Except.bind, Except.mapError]

/-! ## Operations -/

theorem contains_false_iff {κ ν : Type} [Ord κ] [Std.TransOrd κ] [Std.LawfulEqOrd κ]
    {m : OrdMap κ ν} {k : κ} : m.contains k = false ↔ m[k]? = none := by
  rw [OrdMap.contains_eq_isSome]
  cases m[k]? <;> simp

theorem createCustomer_ok_iff {id : CustomerId} {fullName email : String}
    {customer : Customer} :
    createCustomer id fullName email store = (.ok customer, store') ↔
      store.customers[id]? = none ∧
      ∃ cleanedName cleanedEmail, cleanName fullName = .ok cleanedName ∧
        cleanEmail email = .ok cleanedEmail ∧ customer = ⟨id, cleanedName, cleanedEmail⟩ ∧
        store' = { store with customers := store.customers.insert id customer } := by
  simp only [createCustomer, bind_ok_iff, get_ok_iff, ensure_ok_iff, lift_ok_iff,
    modify_ok_iff, pure_ok_iff, contains_false_iff]
  constructor
  · intro h
    obtain ⟨_, _, ⟨rfl, rfl⟩, _, _, ⟨hfresh, rfl⟩, name, _, ⟨hname, rfl⟩, email, _,
      ⟨hemail, rfl⟩, _, _, rfl, rfl, rfl⟩ := h
    exact ⟨hfresh, name, email, hname, hemail, rfl, rfl⟩
  · intro h
    obtain ⟨hfresh, name, email, hname, hemail, rfl, rfl⟩ := h
    exact ⟨store, store, ⟨rfl, rfl⟩, (), store, ⟨hfresh, rfl⟩, name, store, ⟨hname, rfl⟩,
      email, store, ⟨hemail, rfl⟩, (), _, rfl, rfl, rfl⟩

/-- A call that failed changed nothing. -/
theorem createCustomer_error {id : CustomerId} {fullName email : String} {e : IdentityError}
    (h : createCustomer id fullName email store = (.error e, store')) : store' = store := by
  have htriple : Triple (fun s => s = store) (createCustomer id fullName email)
      (fun _ _ => True) (fun _ s => s = store) :=
    keeps_get.bind fun _ => (keeps_ensure _ _).bind fun _ => (keeps_lift _).bind fun _ =>
      (keeps_lift _).bind fun _ =>
        (Triple.modify (Q := fun _ _ => True) fun _ _ => trivial).bind fun _ =>
          Triple.pure _ fun _ _ => trivial
  exact (htriple store rfl).2 _ _ h

theorem createUser_ok_iff {salt : String} {id : UserId} {username : String} {role : Role}
    {customerId : Option CustomerId} {password : String} {user : User} :
    createUser argon2 salt id username role customerId password store = (.ok user, store') ↔
      store.users[id]? = none ∧ validatePassword password = .ok () ∧
      store.validateRoleCustomerLink role customerId = .ok () ∧
      ∃ name hash, normalizeUsername username = .ok name ∧
        store.usernameIndex[name]? = none ∧ hashPassword argon2 salt password = .ok hash ∧
        user = ⟨id, name, role, customerId, hash⟩ ∧
        store' = { store with
          users := store.users.insert id user
          usernameIndex := store.usernameIndex.insert name id } := by
  simp only [createUser, bind_ok_iff, get_ok_iff, ensure_ok_iff, lift_ok_iff,
    modify_ok_iff, pure_ok_iff, contains_false_iff]
  constructor
  · intro h
    obtain ⟨_, _, ⟨rfl, rfl⟩, _, _, ⟨hfresh, rfl⟩, _, _, ⟨hpassword, rfl⟩, _, _, ⟨hlink, rfl⟩,
      name, _, ⟨hname, rfl⟩, _, _, ⟨hnew, rfl⟩, hash, _, ⟨hhash, rfl⟩, _, _, rfl, _, _, rfl,
      rfl, rfl⟩ := h
    exact ⟨hfresh, hpassword, hlink, name, hash, hname, hnew, hhash, rfl, rfl⟩
  · intro h
    obtain ⟨hfresh, hpassword, hlink, name, hash, hname, hnew, hhash, rfl, rfl⟩ := h
    exact ⟨store, store, ⟨rfl, rfl⟩, (), store, ⟨hfresh, rfl⟩, (), store, ⟨hpassword, rfl⟩, (),
      store, ⟨hlink, rfl⟩, name, store, ⟨hname, rfl⟩, (), store, ⟨hnew, rfl⟩, hash, store,
      ⟨hhash, rfl⟩, (), _, rfl, (), _, rfl, rfl, rfl⟩

theorem createUser_error {salt : String} {id : UserId} {username : String} {role : Role}
    {customerId : Option CustomerId} {password : String} {e : IdentityError}
    (h : createUser argon2 salt id username role customerId password store =
      (.error e, store')) : store' = store := by
  have htriple : Triple (fun s => s = store)
      (createUser argon2 salt id username role customerId password)
      (fun _ _ => True) (fun _ s => s = store) :=
    keeps_get.bind fun _ => (keeps_ensure _ _).bind fun _ => (keeps_lift _).bind fun _ =>
      (keeps_lift _).bind fun _ => (keeps_lift _).bind fun _ => (keeps_ensure _ _).bind fun _ =>
        (keeps_lift _).bind fun _ =>
          (Triple.modify (Q := fun _ _ => True) fun _ _ => trivial).bind fun _ =>
            (Triple.modify (Q := fun _ _ => True) fun _ _ => trivial).bind fun _ =>
              Triple.pure _ fun _ _ => trivial
  exact (htriple store rfl).2 _ _ h

theorem createCustomer_changes {id : CustomerId} {fullName email : String}
    {customer : Customer} (h : createCustomer id fullName email store = (.ok customer, store')) :
    store' ≠ store := by
  obtain ⟨hfresh, _, _, -, -, -, rfl⟩ := createCustomer_ok_iff.mp h
  exact fun hsame => OrdMap.insert_ne_self customer hfresh (congrArg customers hsame)

theorem createUser_changes {salt : String} {id : UserId} {username : String} {role : Role}
    {customerId : Option CustomerId} {password : String} {user : User}
    (h : createUser argon2 salt id username role customerId password store =
      (.ok user, store')) : store' ≠ store := by
  obtain ⟨hfresh, -, -, _, _, -, -, -, -, rfl⟩ := createUser_ok_iff.mp h
  exact fun hsame => OrdMap.insert_ne_self user hfresh (congrArg users hsame)

theorem hashPassword_ok_iff {salt password hash : String} :
    hashPassword argon2 salt password = .ok hash ↔
      argon2.hashPassword salt password = .ok hash := by
  unfold hashPassword
  cases argon2.hashPassword salt password with
  | error e => simp [Except.mapError]
  | ok raw => simp [Except.mapError]

/-- A user who was just created can log in. -/
theorem authenticate_created (hargon : argon2.VerifiesOwnHashes) {salt : String} {id : UserId}
    {username : String} {role : Role} {customerId : Option CustomerId} {password : String}
    {user : User}
    (h : createUser argon2 salt id username role customerId password store =
      (.ok user, store')) :
    store'.authenticate argon2 username password = .ok (Session.new user) := by
  obtain ⟨-, -, -, name, hash, hname, -, hhash, rfl, rfl⟩ := createUser_ok_iff.mp h
  obtain ⟨hparse, hverify⟩ := hargon salt password hash (hashPassword_ok_iff.mp hhash)
  simp [authenticate, IdentityStore.user, hname, hparse, hverify, bind, Except.bind,
    Except.mapError]

/-- Who is logged in is who the index leads to. -/
theorem authenticate_ok {username password : String} {session : Session}
    (hok : store.authenticate argon2 username password = .ok session) :
    ∃ name id, ∃ user : User, normalizeUsername username = .ok name ∧
      store.usernameIndex[name]? = some id ∧ store.users[id]? = some user ∧
      session = Session.new user := by
  unfold authenticate at hok
  cases hname : normalizeUsername username with
  | error e => simp [hname, bind, Except.bind] at hok
  | ok name =>
    cases hindex : store.usernameIndex[name]? with
    | none => simp [hname, hindex, bind, Except.bind] at hok
    | some id =>
      cases hfound : store.users[id]? with
      | none => simp [hname, hindex, user, hfound, bind, Except.bind] at hok
      | some found =>
        refine ⟨name, id, found, rfl, hindex, hfound, ?_⟩
        cases hparse : argon2.parseHash found.passwordHash with
        | error e =>
          simp [hname, hindex, user, hfound, hparse, bind, Except.bind, Except.mapError] at hok
        | ok u =>
          simp only [hname, hindex, user, hfound, hparse, bind, Except.bind,
            Except.mapError] at hok
          split at hok
          · exact (Except.ok.inj hok).symm
          · cases hok

/-! ## The invariant -/

/-- Every record is filed under its id and passes the checks of the loader,
and the index leads from each normalized username to its user. -/
structure WellFormed (argon2 : Argon2) (store : IdentityStore) : Prop where
  customersKeyed : OrdMap.Keyed Customer.id store.customers
  usersKeyed : OrdMap.Keyed User.id store.users
  customersValid : ∀ (id : CustomerId) (customer : Customer),
    store.customers[id]? = some customer →
    validateCustomer customer = .ok ()
  usersValid : ∀ (id : UserId) (user : User), store.users[id]? = some user →
    validateImportedUser argon2 store user = .ok ()
  index : ∀ (name : String) (id : UserId), store.usernameIndex[name]? = some id ↔
    ∃ user : User, store.users[id]? = some user ∧ normalizeUsername user.username = .ok name

theorem wellFormed_new : new.WellFormed argon2 := by
  constructor
  · exact OrdMap.keyed_empty _
  · exact OrdMap.keyed_empty _
  · intro id customer h; simp [new] at h
  · intro id user h; simp [new] at h
  · intro name id; simp [new]

/-- A link stays valid when customers are added. -/
theorem link_mono {role : Role} {customerId : Option CustomerId}
    (hmore : ∀ (id : CustomerId) (customer : Customer), store.customers[id]? = some customer →
      ∃ customer' : Customer, store'.customers[id]? = some customer')
    (h : store.validateRoleCustomerLink role customerId = .ok ()) :
    store'.validateRoleCustomerLink role customerId = .ok () := by
  rcases validateRoleCustomerLink_ok_iff.mp h with ⟨hrole, id, customer, hid, hfound⟩ | hstaff
  · obtain ⟨customer', hfound'⟩ := hmore id customer hfound
    exact validateRoleCustomerLink_ok_iff.mpr (.inl ⟨hrole, id, customer', hid, hfound'⟩)
  · exact validateRoleCustomerLink_ok_iff.mpr (.inr hstaff)

theorem WellFormed.createCustomer (h : store.WellFormed argon2) (id : CustomerId)
    (fullName email : String) :
    (createCustomer id fullName email store).2.WellFormed argon2 := by
  rcases hrun : IdentityStore.createCustomer id fullName email store with ⟨e | customer, store'⟩
  · rw [createCustomer_error hrun]; exact h
  obtain ⟨hfresh, name, address, hname, hemail, rfl, rfl⟩ := createCustomer_ok_iff.mp hrun
  constructor
  · exact OrdMap.Keyed.insert _ h.customersKeyed rfl
  · exact h.usersKeyed
  · intro id' customer' hfound
    by_cases hid : id' = id
    · subst hid
      rw [OrdMap.get_insert_self] at hfound
      obtain rfl := Option.some.inj hfound
      exact validateCustomer_ok_iff.mpr
        ⟨⟨name, Profile.cleanName_clean hname⟩, ⟨address, Profile.cleanEmail_clean hemail⟩⟩
    · rw [OrdMap.get_insert_ne _ _ hid] at hfound
      exact h.customersValid id' customer' hfound
  · intro id' user hfound
    obtain ⟨hnormal, hlink, hhash⟩ := validateImportedUser_ok_iff.mp (h.usersValid id' user hfound)
    refine validateImportedUser_ok_iff.mpr ⟨hnormal, link_mono ?_ hlink, hhash⟩
    intro id'' customer'' hcustomer
    by_cases hid : id'' = id
    · subst hid
      exact ⟨_, OrdMap.get_insert_self _ _ _⟩
    · exact ⟨customer'', by rw [OrdMap.get_insert_ne _ _ hid]; exact hcustomer⟩
  · exact h.index

/-- The index goes on to lead from each name to its user, when a new user
is filed under a new name. -/
theorem index_insert
    (h : ∀ (name : String) (id : UserId), store.usernameIndex[name]? = some id ↔
      ∃ user : User, store.users[id]? = some user ∧ normalizeUsername user.username = .ok name)
    {id : UserId} {name : String} {user : User} (hfresh : store.users[id]? = none)
    (hnew : store.usernameIndex[name]? = none) (hname : normalizeUsername user.username = .ok name)
    (name' : String) (id' : UserId) :
    (store.usernameIndex.insert name id)[name']? = some id' ↔
      ∃ user' : User, (store.users.insert id user)[id']? = some user' ∧
        normalizeUsername user'.username = .ok name' := by
  by_cases hid : id' = id
  · subst hid
    rw [OrdMap.get_insert_self]
    by_cases hn : name' = name
    · subst hn
      rw [OrdMap.get_insert_self]
      simp [hname]
    · -- the user is new, so no other name leads to it
      have hold : ¬ store.usernameIndex[name']? = some id' := fun hindex => by
        obtain ⟨old, hfound, -⟩ := (h name' id').mp hindex
        rw [hfresh] at hfound; cases hfound
      rw [OrdMap.get_insert_ne _ _ hn]
      simp [hold, hname, Ne.symm hn]
  · rw [OrdMap.get_insert_ne _ _ hid]
    by_cases hn : name' = name
    · subst hn
      -- the name is new, so no other user has it
      have hold := (h name' id').not.mp (by simp [hnew])
      rw [OrdMap.get_insert_self]
      simp only [hold, iff_false, Option.some.injEq]
      exact Ne.symm hid
    · rw [OrdMap.get_insert_ne _ _ hn]
      exact h name' id'

theorem WellFormed.createUser (h : store.WellFormed argon2) (hargon : argon2.ParsesOwnHashes)
    (salt : String) (id : UserId) (username : String) (role : Role)
    (customerId : Option CustomerId) (password : String) :
    (createUser argon2 salt id username role customerId password store).2.WellFormed argon2 := by
  rcases hrun : IdentityStore.createUser argon2 salt id username role customerId password store
    with ⟨e | user, store'⟩
  · rw [createUser_error hrun]; exact h
  obtain ⟨hfresh, -, hlink, name, hash, hname, hnew, hhash, rfl, rfl⟩ :=
    createUser_ok_iff.mp hrun
  have hstored := normalizeUsername_clean hname
  have hparse : argon2.parseHash hash = .ok () :=
    hargon salt password hash (hashPassword_ok_iff.mp hhash)
  constructor
  · exact h.customersKeyed
  · exact OrdMap.Keyed.insert _ h.usersKeyed rfl
  · exact h.customersValid
  · intro id' user hfound
    by_cases hid : id' = id
    · subst hid
      rw [OrdMap.get_insert_self] at hfound
      obtain rfl := Option.some.inj hfound
      exact validateImportedUser_ok_iff.mpr
        ⟨⟨name, hstored⟩, link_mono (fun _ customer hc => ⟨customer, hc⟩) hlink, hparse⟩
    · rw [OrdMap.get_insert_ne _ _ hid] at hfound
      obtain ⟨hnormal, hlink', hhash'⟩ :=
        validateImportedUser_ok_iff.mp (h.usersValid id' user hfound)
      exact validateImportedUser_ok_iff.mpr
        ⟨hnormal, link_mono (fun _ customer hc => ⟨customer, hc⟩) hlink', hhash'⟩
  · exact index_insert h.index hfresh hnew hstored

/-! ## Loading -/

/-- The key a user has in the index. -/
def nameKey (user : User) : String := (normalizeUsername user.username).toOption.getD ""

theorem nameKey_eq {user : User} {name : String}
    (h : normalizeUsername user.username = .ok name) : nameKey user = name := by
  simp [nameKey, h, Except.toOption]

def HasCustomer (store : IdentityStore) (id : CustomerId) : Prop :=
  store.customers.contains id = true

def HasUser (store : IdentityStore) (id : UserId) : Prop := store.users.contains id = true

def HasName (store : IdentityStore) (name : String) : Prop :=
  store.usernameIndex.contains name = true

/-- A customer the loop takes in, and the store then. -/
def AcceptsCustomer (store : IdentityStore) (customer : Customer) : Prop :=
  validateCustomer customer = .ok () ∧ ¬ store.HasCustomer customer.id

def addCustomer (store : IdentityStore) (customer : Customer) : IdentityStore :=
  { store with customers := store.customers.insert customer.id customer }

theorem importCustomer_ok_iff (store : IdentityStore) (customer : Customer)
    (store' : IdentityStore) :
    importCustomer store customer = .ok store' ↔
      store.AcceptsCustomer customer ∧ store' = store.addCustomer customer := by
  unfold importCustomer AcceptsCustomer HasCustomer
  cases validateCustomer customer with
  | error e => simp [bind, Except.bind]
  | ok u =>
    cases store.customers.contains customer.id with
    | true => simp [bind, Except.bind]
    | false => simp [bind, Except.bind, addCustomer, eq_comm (a := store')]

def IsImportable (argon2 : Argon2) (store : IdentityStore) (user : User) : Prop :=
  validateImportedUser argon2 store user = .ok ()

/-- A user the loop takes in, and the store then. -/
def AcceptsUser (argon2 : Argon2) (store : IdentityStore) (user : User) : Prop :=
  IsImportable argon2 store user ∧
    ¬ store.HasUser user.id ∧ ¬ store.HasName (nameKey user)

def addUser (store : IdentityStore) (user : User) : IdentityStore :=
  { store with
    users := store.users.insert user.id user
    usernameIndex := store.usernameIndex.insert (nameKey user) user.id }

theorem importUser_ok_iff (store : IdentityStore) (user : User) (store' : IdentityStore) :
    importUser argon2 store user = .ok store' ↔
      AcceptsUser argon2 store user ∧ store' = store.addUser user := by
  unfold importUser AcceptsUser IsImportable HasUser HasName
  cases hvalid : validateImportedUser argon2 store user with
  | error e => simp [bind, Except.bind]
  | ok u =>
    obtain ⟨⟨name, hname⟩, -⟩ := validateImportedUser_ok_iff.mp hvalid
    rw [addUser, nameKey_eq hname, hname]
    simp only [bind, Except.bind]
    generalize store.users.contains user.id = seen
    generalize store.usernameIndex.contains name = named
    cases seen with
    | true => simp
    | false =>
      cases named with
      | true => simp
      | false => simp [eq_comm (a := store')]

theorem contains_insert_iff {κ ν : Type} [Ord κ] [Std.TransOrd κ] [Std.LawfulEqOrd κ]
    (m : OrdMap κ ν) (k k' : κ) (v : ν) :
    (m.insert k v).contains k' = true ↔ k' = k ∨ m.contains k' = true := by
  rw [Std.ExtTreeMap.contains_insert, Bool.or_eq_true, beq_iff_eq, Std.compare_eq_iff_eq,
    eq_comm (a := k)]

theorem hasCustomer_add (store : IdentityStore) (customer : Customer) (id : CustomerId) :
    (store.addCustomer customer).HasCustomer id ↔ id = customer.id ∨ store.HasCustomer id :=
  contains_insert_iff _ _ _ _

/-- The check of a user looks at the customers only. -/
theorem isImportable_add (store : IdentityStore) (user added : User) :
    IsImportable argon2 (store.addUser added) user ↔ IsImportable argon2 store user := Iff.rfl

theorem hasUser_add (store : IdentityStore) (user : User) (id : UserId) :
    (store.addUser user).HasUser id ↔ id = user.id ∨ store.HasUser id :=
  contains_insert_iff _ _ _ _

theorem hasName_add (store : IdentityStore) (user : User) (name : String) :
    (store.addUser user).HasName name ↔ name = nameKey user ∨ store.HasName name :=
  contains_insert_iff _ _ _ _

theorem foldl_addCustomer (customers : List Customer) (store : IdentityStore) :
    customers.foldl addCustomer store =
      { store with customers := OrdMap.addVals Customer.id store.customers customers } := by
  induction customers generalizing store with
  | nil => rfl
  | cons customer rest ih => rw [List.foldl_cons, ih]; rfl

theorem foldl_addUser (users : List User) (customers : OrdMap CustomerId Customer)
    (filed : OrdMap UserId User) (named : OrdMap String User) :
    users.foldl addUser ⟨customers, filed, OrdMap.mapVals User.id named⟩ =
      ⟨customers, OrdMap.addVals User.id filed users,
        OrdMap.mapVals User.id (OrdMap.addVals nameKey named users)⟩ := by
  induction users generalizing filed named with
  | nil => rfl
  | cons user rest ih =>
    rw [List.foldl_cons, addUser, ← OrdMap.mapVals_insert, ih]
    rfl

theorem mapVals_empty {κ ν μ : Type} [Ord κ] [Std.TransOrd κ] [Std.LawfulEqOrd κ]
    (f : ν → μ) : OrdMap.mapVals f (∅ : OrdMap κ ν) = ∅ := by
  apply Std.ExtTreeMap.ext_getElem?
  intro k
  rw [OrdMap.get_mapVals]
  simp

/-- The store of the records: users are filed under their ids and indexed
under their normalized names. -/
def ofRecords (customers : List Customer) (users : List User) : IdentityStore :=
  ⟨OrdMap.ofVals Customer.id customers, OrdMap.ofVals User.id users,
    OrdMap.mapVals User.id (OrdMap.ofVals nameKey users)⟩

/-- Which records are accepted, and what becomes of them. -/
theorem fromRecords_ok_iff {customers : List Customer} {users : List User} :
    fromRecords argon2 customers users = .ok store ↔
      (∀ customer ∈ customers, validateCustomer customer = .ok ()) ∧
      (customers.map Customer.id).Nodup ∧
      (∀ user ∈ users, validateImportedUser argon2 (ofRecords customers []) user = .ok ()) ∧
      (users.map User.id).Nodup ∧ (users.map nameKey).Nodup ∧
      store = ofRecords customers users := by
  have hcustomers := fun store' => @CheckedFold.foldlM_ok_iff _ _ _ _ _ _
    importCustomer_ok_iff customers new store'
  have husers := fun start store' => @CheckedFold.foldlM_ok_iff _ _ _ _ _ _
    (@importUser_ok_iff argon2) users start store'
  have hpassC : CheckedFold.Passes AcceptsCustomer addCustomer new customers ↔
      (∀ customer ∈ customers, validateCustomer customer = .ok ()) ∧
        (customers.map Customer.id).Nodup := by
    refine (CheckedFold.passes_and customers).trans ?_
    rw [CheckedFold.passes_forall, CheckedFold.passes_distinct hasCustomer_add]
    simp [new, HasCustomer]
  have hstart : customers.foldl addCustomer new = ofRecords customers [] := by
    rw [foldl_addCustomer]
    simp [ofRecords, OrdMap.ofVals, OrdMap.addVals, new, mapVals_empty]
  have hpassU : CheckedFold.Passes (AcceptsUser argon2) addUser (ofRecords customers []) users ↔
      (∀ user ∈ users, validateImportedUser argon2 (ofRecords customers []) user = .ok ()) ∧
        (users.map User.id).Nodup ∧ (users.map nameKey).Nodup := by
    refine (CheckedFold.passes_and users).trans ?_
    rw [CheckedFold.passes_of_kept isImportable_add]
    refine and_congr Iff.rfl ((CheckedFold.passes_and users).trans ?_)
    rw [CheckedFold.passes_distinct hasUser_add, CheckedFold.passes_distinct hasName_add]
    simp [ofRecords, OrdMap.ofVals, OrdMap.addVals, mapVals_empty, HasUser, HasName]
  have hend : users.foldl addUser (ofRecords customers []) = ofRecords customers users :=
    foldl_addUser users _ _ _
  unfold fromRecords
  cases hloop : customers.foldlM importCustomer new with
  | error e =>
    have hno : ¬ CheckedFold.Passes AcceptsCustomer addCustomer new customers := fun hp => by
      rw [(hcustomers _).mpr ⟨hp, rfl⟩] at hloop; cases hloop
    rw [hpassC] at hno
    simp only [bind, Except.bind, reduceCtorEq, false_iff]
    exact fun h => hno ⟨h.1, h.2.1⟩
  | ok start =>
    obtain ⟨hp, rfl⟩ := (hcustomers start).mp hloop
    have hfirst := hpassC.mp hp
    simp only [bind, Except.bind]
    rw [husers, hstart, hpassU, hend]
    constructor
    · intro h
      exact ⟨hfirst.1, hfirst.2, h.1.1, h.1.2.1, h.1.2.2, h.2⟩
    · intro h
      obtain ⟨-, -, hvalid, hids, hnames, hstore⟩ := h
      exact ⟨⟨hvalid, hids, hnames⟩, hstore⟩

theorem WellFormed.nameKey_ok (h : store.WellFormed argon2) {id : UserId} {user : User}
    (hfound : store.users[id]? = some user) :
    normalizeUsername user.username = .ok (nameKey user) := by
  obtain ⟨⟨name, hn⟩, -⟩ := validateImportedUser_ok_iff.mp (h.usersValid id user hfound)
  rw [nameKey_eq hn, hn]

/-- Two users with one key are both what the index has under it. -/
theorem WellFormed.eq_of_nameKey (h : store.WellFormed argon2) {id id' : UserId}
    {user user' : User} (hu : store.users[id]? = some user)
    (hu' : store.users[id']? = some user') (hkey : nameKey user = nameKey user') : id = id' := by
  have hindex := (h.index (nameKey user) id).mpr ⟨user, hu, h.nameKey_ok hu⟩
  have hindex' := (h.index (nameKey user') id').mpr ⟨user', hu', h.nameKey_ok hu'⟩
  rw [← hkey, hindex] at hindex'
  exact Option.some.inj hindex'

/-- No two users share a username. -/
theorem WellFormed.usernames_nodup (h : store.WellFormed argon2) :
    (store.userList.map User.username).Nodup :=
  OrdMap.nodup_vals_map _ _ fun _ _ _ _ hu hu' hname =>
    h.eq_of_nameKey hu hu' (by rw [nameKey, nameKey, hname])

/-- The store that was saved is the store that is loaded. -/
theorem WellFormed.reload (h : store.WellFormed argon2) :
    fromRecords argon2 store.customerList store.userList = .ok store := by
  have hcustomers : OrdMap.ofVals Customer.id store.customerList = store.customers :=
    h.customersKeyed.ofVals_vals
  have husers : OrdMap.ofVals User.id store.userList = store.users := h.usersKeyed.ofVals_vals
  have hmem : ∀ user ∈ store.userList, store.users[user.id]? = some user := by
    intro user hu
    obtain ⟨id, hfound⟩ := OrdMap.mem_vals.mp hu
    rw [h.usersKeyed id user hfound]
    exact hfound
  have hnames : (store.userList.map nameKey).Nodup :=
    OrdMap.nodup_vals_map _ _ fun _ _ _ _ hu hu' hkey => h.eq_of_nameKey hu hu' hkey
  have hindexed : store.usernameIndex =
      OrdMap.mapVals User.id (OrdMap.ofVals nameKey store.userList) := by
    apply Std.ExtTreeMap.ext_getElem?
    intro name
    ext id
    rw [h.index, OrdMap.get_mapVals, Option.map_eq_some_iff]
    simp only [OrdMap.get_ofVals hnames]
    constructor
    · intro hfound
      obtain ⟨user, hu, hn⟩ := hfound
      exact ⟨user, ⟨OrdMap.mem_vals.mpr ⟨id, hu⟩, nameKey_eq hn⟩, h.usersKeyed id user hu⟩
    · intro hlisted
      obtain ⟨user, ⟨hu, rfl⟩, rfl⟩ := hlisted
      exact ⟨user, hmem user hu, h.nameKey_ok (hmem user hu)⟩
  refine fromRecords_ok_iff.mpr ⟨fun customer hc => ?_, h.customersKeyed.nodup,
    fun user hu => ?_, h.usersKeyed.nodup, hnames, ?_⟩
  · obtain ⟨id, hfound⟩ := OrdMap.mem_vals.mp hc
    exact h.customersValid id customer hfound
  · obtain ⟨hnormal, hlink, hhash⟩ :=
      validateImportedUser_ok_iff.mp (h.usersValid _ user (hmem user hu))
    refine validateImportedUser_ok_iff.mpr ⟨hnormal, link_mono ?_ hlink, hhash⟩
    intro id customer hfound
    exact ⟨customer, by rw [ofRecords, hcustomers]; exact hfound⟩
  · rw [ofRecords, hcustomers, husers, ← hindexed]

end IdentityStore

end Banck
