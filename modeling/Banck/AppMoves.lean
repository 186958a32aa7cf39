/-
Banck.AppMoves — what the two front ends do to the application.

An `AppMove` is one call that a handler of the API or a command of the
command line makes on the bank, the identities or the audit log.
`AppMove.Permitted` is the permission rule both front ends follow: what a
session must be allowed before the call is made in its name. Each front
end proves once that serving a request or command comes to at most one
permitted call and then audit records (`Serves`); what such calls preserve
both front ends preserve.
-/
import Banck.App
import Banck.BankMoves

namespace Banck

open Lib Mut Machine

/-! ## Moves -/

inductive AppMove where
  | bank (op : BankOp)
  | monthlyFee (amount : Money) (clock : AccountId → Nat)
  | createCustomer (id : CustomerId) (fullName email : String)
  | createUser (salt : String) (id : UserId) (username : String) (role : Role)
      (customerId : Option CustomerId) (password : String)
  | bootstrapAdmin (salt : String) (id : UserId) (username password : String)
  | audit (actor : AuditActor) (action : AuditAction) (outcome : AuditOutcome)
      (target : Option String) (message : String) (now : Nat)

namespace AppMove

/-- The application after the call, whether it returned or failed. -/
def run (argon2 : Argon2) (app : AppState) : AppMove → AppState
  | bank op => { app with bank := (op.run app.bank).2 }
  | monthlyFee amount clock => { app with bank := (app.bank.applyMonthlyFee amount clock).2 }
  | createCustomer id fullName email =>
      { app with
        identities := (IdentityStore.createCustomer id fullName email app.identities).2 }
  | createUser salt id username role customerId password =>
      { app with
        identities := (IdentityStore.createUser argon2 salt id username role customerId
          password app.identities).2 }
  | bootstrapAdmin salt id username password =>
      { app with
        identities := (IdentityStore.createUser argon2 salt id username .admin none password
          app.identities).2 }
  | audit actor action outcome target message now =>
      { app with
        auditLog := (AuditLog.record actor action outcome target message now
          app.auditLog).2 }

def IsAudit : AppMove → Prop
  | audit _ _ _ _ _ _ => True
  | bank _ | monthlyFee _ _ | createCustomer _ _ _ | createUser _ _ _ _ _ _
  | bootstrapAdmin _ _ _ _ => False

end AppMove

/-! ## Permissions -/

/-- The account belongs to the customer of the session. -/
def Session.Owns (session : Session) (account : Account) : Prop :=
  ∃ customerId, session.customerId = some customerId ∧ account.ownerId = some customerId

/-- The session may move the money of the account. -/
def Session.MovesMoneyOf (session : Session) (bank : Bank) (id : AccountId) : Prop :=
  session.can .moveMoney = true ∨
    session.can .moveOwnMoney = true ∧
      ∃ account, bank.accounts[id]? = some account ∧ session.Owns account

/-- The session may make the call. -/
def Session.MayCall (session : Session) (app : AppState) : BankOp → Prop
  | .createAccount _ ownerId _ _ _ _ =>
      session.can .manageAccounts = true ∧
        ∀ customerId ∈ ownerId, app.identities.customers[customerId]? ≠ none
  | .updateName _ _ _ | .updateEmail _ _ _ | .activateAccount _ _ | .deactivateAccount _ _
  | .closeAccount _ _ | .deleteAccount _ => session.can .manageAccounts = true
  | .deposit id _ _ | .withdraw id _ _ | .payLoan id _ _ | .transfer id _ _ _ _ =>
      session.MovesMoneyOf app.bank id
  | .applyFee _ _ _ | .applyInterest _ _ _ | .requestLoan _ _ _ =>
      session.can .moveMoney = true

/-- The move may be made in the name of the session. Without a session the
first administrator may be created. -/
def AppMove.Permitted (session : Option Session) (app : AppState) : AppMove → Prop
  | bank op => ∃ s ∈ session, s.MayCall app op
  | monthlyFee _ _ => ∃ s ∈ session, s.can .moveMoney = true
  | createCustomer _ _ _ | createUser _ _ _ _ _ _ =>
      ∃ s ∈ session, s.can .manageIdentity = true
  | bootstrapAdmin _ _ _ _ => session = none ∧ app.identities.hasUsers = false
  | audit _ _ _ _ _ _ => True

/-! ## What serving one request or command comes to -/

section Serves

variable (argon2 : Argon2) (session : Option Session) (acts : AppMove → Prop)
  {app app' : AppState}

/-- Only records were added to the audit log. -/
def Records (app app' : AppState) : Prop :=
  ∃ moves, Path (fun s m t => m.IsAudit ∧ t = AppMove.run argon2 s m) app moves app'

/-- At most one of the `acts` was made, with permission, and then records
were added. -/
def Serves (app app' : AppState) : Prop :=
  ∃ mid, (mid = app ∨ ∃ m, acts m ∧ m.Permitted session app ∧ mid = m.run argon2 app) ∧
    Records argon2 mid app'

variable {argon2 session acts}

theorem Records.refl (app : AppState) : Records argon2 app app := ⟨[], .nil app⟩

theorem Records.audit (h : Records argon2 app app') {m : AppMove} (hm : m.IsAudit) :
    Records argon2 app (m.run argon2 app') := by
  obtain ⟨moves, hpath⟩ := h
  exact ⟨moves ++ [m], hpath.append (.single ⟨hm, rfl⟩)⟩

/-- Records change neither the bank nor the identities. -/
theorem Records.rest (h : Records argon2 app app') :
    app'.bank = app.bank ∧ app'.identities = app.identities := by
  obtain ⟨moves, hpath⟩ := h
  refine hpath.invariant (I := fun s => s.bank = app.bank ∧ s.identities = app.identities)
    ?_ ⟨rfl, rfl⟩
  intro s m t hstep hs
  obtain ⟨haudit, rfl⟩ := hstep
  cases m with
  | audit => exact hs
  | bank | monthlyFee | createCustomer | createUser | bootstrapAdmin => exact haudit.elim

theorem Serves.refl (app : AppState) : Serves argon2 session acts app app :=
  ⟨app, .inl rfl, .refl app⟩

theorem Serves.act {m : AppMove} (hperm : m.Permitted session app) (hact : acts m) :
    Serves argon2 session acts app (m.run argon2 app) :=
  ⟨_, .inr ⟨m, hact, hperm, rfl⟩, .refl _⟩

theorem Serves.audit (h : Serves argon2 session acts app app') {m : AppMove}
    (hm : m.IsAudit) : Serves argon2 session acts app (m.run argon2 app') := by
  obtain ⟨mid, hmid, hrecords⟩ := h
  exact ⟨mid, hmid, hrecords.audit hm⟩

theorem Serves.mono {acts' : AppMove → Prop} (h : Serves argon2 session acts app app')
    (hacts : ∀ m, acts m → acts' m) : Serves argon2 session acts' app app' := by
  obtain ⟨mid, hmid, hrecords⟩ := h
  refine ⟨mid, hmid.imp_right fun hact => ?_, hrecords⟩
  obtain ⟨m, hm, hperm, hrun⟩ := hact
  exact ⟨m, hacts m hm, hperm, hrun⟩

/-- What every permitted move preserves is preserved. -/
theorem Serves.invariant {I : AppState → Prop} (h : Serves argon2 session acts app app')
    (hstep : ∀ app m, AppMove.Permitted session app m → I app → I (m.run argon2 app))
    (hi : I app) : I app' := by
  obtain ⟨mid, hmid, moves, hpath⟩ := h
  have hmidI : I mid := by
    rcases hmid with rfl | ⟨m, -, hperm, rfl⟩
    · exact hi
    · exact hstep app m hperm hi
  refine hpath.invariant ?_ hmidI
  intro s m t hm hs
  obtain ⟨haudit, rfl⟩ := hm
  refine hstep s m ?_ hs
  cases m with
  | audit => trivial
  | bank | monthlyFee | createCustomer | createUser | bootstrapAdmin => exact haudit.elim

end Serves

end Banck
