/-
Banck.Identity — customers, users and their permissions
(`src/identity.rs`).

Passwords are hashed by a library that is not part of the repository: an
`Argon2` is the three of its functions the program calls, and what the
program relies on is stated about it where a theorem needs it. The salt
that `hash_password` draws is an argument.
-/
import Banck.Lib.Mut
import Banck.Lib.OrdMap
import Banck.Profile

namespace Banck

open Lib

abbrev UserId := UInt32

/-! ## Roles -/

inductive Role where
  | customer
  | teller
  | admin
  deriving DecidableEq, Repr

inductive Permission where
  | manageIdentity
  | manageAccounts
  | moveMoney
  | moveOwnMoney
  | viewAnyAccount
  | viewOwnAccount
  | exportStatements
  | persistState
  deriving DecidableEq, Repr

def Role.can : Role → Permission → Bool
  | admin, _ => true
  | teller, permission =>
      permission ∈ [.manageAccounts, .moveMoney, .viewAnyAccount, .exportStatements,
        .persistState]
  | customer, permission => permission ∈ [.moveOwnMoney, .viewOwnAccount]

def Role.display : Role → String
  | customer => "customer"
  | teller => "teller"
  | admin => "admin"

def Permission.display : Permission → String
  | manageIdentity => "manage_identity"
  | manageAccounts => "manage_accounts"
  | moveMoney => "move_money"
  | moveOwnMoney => "move_own_money"
  | viewAnyAccount => "view_any_account"
  | viewOwnAccount => "view_own_account"
  | exportStatements => "export_statements"
  | persistState => "persist_state"

/-! ## Records -/

structure Customer where
  id : CustomerId
  fullName : String
  email : String
  deriving DecidableEq, Repr

structure User where
  id : UserId
  username : String
  role : Role
  customerId : Option CustomerId
  passwordHash : String
  deriving DecidableEq, Repr

structure Session where
  userId : UserId
  username : String
  role : Role
  customerId : Option CustomerId
  deriving DecidableEq, Repr

def Session.new (user : User) : Session :=
  { userId := user.id, username := user.username, role := user.role,
    customerId := user.customerId }

def Session.can (session : Session) (permission : Permission) : Bool :=
  session.role.can permission

/-! ## Errors -/

inductive IdentityError where
  | customerAlreadyExists (id : CustomerId)
  | customerNotFound (id : CustomerId)
  | userAlreadyExists (id : UserId)
  | usernameAlreadyExists (username : String)
  | userNotFound (id : UserId)
  | invalidCredentials
  | invalidProfileField (field : String)
  | passwordTooWeak
  | roleRequiresCustomer
  | roleCannotHaveCustomer
  | permissionDenied (role : Role) (permission : Permission)
  /-- With the text of the library's error. -/
  | passwordHash (source : String)
  deriving DecidableEq, Repr

def IdentityError.display : IdentityError → String
  | customerAlreadyExists id => "customer " ++ toString id ++ " already exists"
  | customerNotFound id => "customer " ++ toString id ++ " was not found"
  | userAlreadyExists id => "user " ++ toString id ++ " already exists"
  | usernameAlreadyExists username => "username " ++ username ++ " already exists"
  | userNotFound id => "user " ++ toString id ++ " was not found"
  | invalidCredentials => "invalid username or password"
  | invalidProfileField field => field ++ " is invalid"
  | passwordTooWeak => "password must be at least 8 characters long"
  | roleRequiresCustomer => "customer users require a customer id"
  | roleCannotHaveCustomer => "staff users cannot be linked to a customer id"
  | permissionDenied role permission =>
      role.display ++ " cannot perform " ++ permission.display
  | passwordHash source => "password hashing failed: " ++ source

/-! ## The password library -/

/-- `hash_password`, `PasswordHash::new` and `verify_password`. -/
structure Argon2 where
  hashPassword : (salt password : String) → Except String String
  parseHash : (hash : String) → Except String Unit
  verifyPassword : (password hash : String) → Bool

/-- What the library returns as a hash it accepts as one. -/
def Argon2.ParsesOwnHashes (argon2 : Argon2) : Prop :=
  ∀ salt password hash, argon2.hashPassword salt password = .ok hash →
    argon2.parseHash hash = .ok ()

/-- The library verifies a password against the hash that it made of it. -/
def Argon2.VerifiesOwnHashes (argon2 : Argon2) : Prop :=
  ∀ salt password hash, argon2.hashPassword salt password = .ok hash →
    argon2.parseHash hash = .ok () ∧ argon2.verifyPassword password hash = true

theorem Argon2.VerifiesOwnHashes.parsesOwnHashes {argon2 : Argon2}
    (h : argon2.VerifiesOwnHashes) : argon2.ParsesOwnHashes :=
  fun salt password hash hhash => (h salt password hash hhash).1

/-! ## Checks -/

namespace IdentityStore

def cleanName (name : String) : Except IdentityError String :=
  Profile.cleanName (.invalidProfileField "name") name

def cleanEmail (email : String) : Except IdentityError String :=
  Profile.cleanEmail (.invalidProfileField "email") email

end IdentityStore

/-- The characters a username may have. -/
def isUsernameChar (c : Char) : Bool := c.isAlphanum || c == '_' || c == '-'

/-- The length is counted in bytes. -/
def normalizeUsername (username : String) : Except IdentityError String :=
  let username := Text.toLowercase (Text.trim username)
  if username.utf8ByteSize < 3 ∨ ¬ username.toList.all isUsernameChar then
    .error (.invalidProfileField "username")
  else
    .ok username

def validatePassword (password : String) : Except IdentityError Unit :=
  if password.utf8ByteSize < 8 then .error .passwordTooWeak else .ok ()

def hashPassword (argon2 : Argon2) (salt password : String) : Except IdentityError String :=
  (argon2.hashPassword salt password).mapError .passwordHash

/-! ## The store -/

structure IdentityStore where
  customers : OrdMap CustomerId Customer
  users : OrdMap UserId User
  usernameIndex : OrdMap String UserId
  deriving DecidableEq

/-- A method on `&mut self` that returns an `IdentityResult`. -/
abbrev IdentityM (α : Type) : Type := Mut IdentityStore IdentityError α

namespace IdentityStore

def new : IdentityStore := ⟨∅, ∅, ∅⟩

def hasUsers (store : IdentityStore) : Bool := !store.users.isEmpty

/-- The customers in ascending id order. -/
def customerList (store : IdentityStore) : List Customer := store.customers.vals

/-- The users in ascending id order. -/
def userList (store : IdentityStore) : List User := store.users.vals

def customer (store : IdentityStore) (id : CustomerId) : Except IdentityError Customer :=
  match store.customers[id]? with
  | some customer => .ok customer
  | none => .error (.customerNotFound id)

def user (store : IdentityStore) (id : UserId) : Except IdentityError User :=
  match store.users[id]? with
  | some user => .ok user
  | none => .error (.userNotFound id)

def validateRoleCustomerLink (store : IdentityStore) :
    Role → Option CustomerId → Except IdentityError Unit
  | .customer, some customerId => do
      let _ ← store.customer customerId
      .ok ()
  | .customer, none => .error .roleRequiresCustomer
  | .teller, some _ | .admin, some _ => .error .roleCannotHaveCustomer
  | .teller, none | .admin, none => .ok ()

def createCustomer (id : CustomerId) (fullName email : String) : IdentityM Customer := do
  let store ← Mut.get
  Mut.ensure (store.customers.contains id = false) (.customerAlreadyExists id)
  let fullName ← Mut.lift (cleanName fullName)
  let email ← Mut.lift (cleanEmail email)
  let customer : Customer := { id, fullName, email }
  Mut.modify fun store => { store with customers := store.customers.insert id customer }
  pure customer

def createUser (argon2 : Argon2) (salt : String) (id : UserId) (username : String)
    (role : Role) (customerId : Option CustomerId) (password : String) :
    IdentityM User := do
  let store ← Mut.get
  Mut.ensure (store.users.contains id = false) (.userAlreadyExists id)
  Mut.lift (validatePassword password)
  Mut.lift (store.validateRoleCustomerLink role customerId)
  let username ← Mut.lift (normalizeUsername username)
  Mut.ensure (store.usernameIndex.contains username = false) (.usernameAlreadyExists username)
  let passwordHash ← Mut.lift (hashPassword argon2 salt password)
  let user : User := { id, username, role, customerId, passwordHash }
  Mut.modify fun store => { store with users := store.users.insert id user }
  Mut.modify fun store => { store with usernameIndex := store.usernameIndex.insert username id }
  pure user

def authenticate (argon2 : Argon2) (store : IdentityStore) (username password : String) :
    Except IdentityError Session := do
  let username ← normalizeUsername username
  match store.usernameIndex[username]? with
  | none => .error .invalidCredentials
  | some userId =>
      let user ← store.user userId
      let _ ← (argon2.parseHash user.passwordHash).mapError .passwordHash
      if argon2.verifyPassword password user.passwordHash then .ok (Session.new user)
      else .error .invalidCredentials

def authorize (session : Session) (permission : Permission) : Except IdentityError Unit :=
  if session.can permission then .ok ()
  else .error (.permissionDenied session.role permission)

/-! ## Loading -/

def validateCustomer (customer : Customer) : Except IdentityError Unit := do
  let _ ← cleanName customer.fullName
  let _ ← cleanEmail customer.email
  .ok ()

def validateImportedUser (argon2 : Argon2) (store : IdentityStore) (user : User) :
    Except IdentityError Unit := do
  let _ ← normalizeUsername user.username
  store.validateRoleCustomerLink user.role user.customerId
  (argon2.parseHash user.passwordHash).mapError .passwordHash

def importCustomer (store : IdentityStore) (customer : Customer) :
    Except IdentityError IdentityStore := do
  validateCustomer customer
  if store.customers.contains customer.id then
    .error (.customerAlreadyExists customer.id)
  else
    .ok { store with customers := store.customers.insert customer.id customer }

def importUser (argon2 : Argon2) (store : IdentityStore) (user : User) :
    Except IdentityError IdentityStore := do
  validateImportedUser argon2 store user
  let username ← normalizeUsername user.username
  if store.users.contains user.id then
    .error (.userAlreadyExists user.id)
  else if store.usernameIndex.contains username then
    .error (.usernameAlreadyExists username)
  else
    .ok { store with
      users := store.users.insert user.id user
      usernameIndex := store.usernameIndex.insert username user.id }

def fromRecords (argon2 : Argon2) (customers : List Customer) (users : List User) :
    Except IdentityError IdentityStore := do
  let store ← customers.foldlM importCustomer new
  users.foldlM (importUser argon2) store

end IdentityStore

end Banck
