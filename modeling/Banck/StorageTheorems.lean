/-
Banck.StorageTheorems — a well-formed state is read back as it was
written.

What comes back is `AppState.reloaded`: the same accounts, identities and
audit log, and a counter of transaction ids one above the largest id that
is still there. It is well-formed again.
-/
import Banck.AppInvariants
import Banck.BankReload
import Banck.Storage

namespace Banck

open Lib

/-! ## Owners -/

theorem validateOwner_ok_iff {identities : IdentityStore} {account : Account} {u : Unit} :
    validateOwner identities account = .ok u ↔
      ∀ customerId ∈ account.ownerId, identities.customers[customerId]? ≠ none := by
  unfold validateOwner IdentityStore.customer
  cases account.ownerId with
  | none => simp
  | some customerId =>
    simp only [Option.mem_some_iff, forall_eq']
    cases identities.customers[customerId]? with
    | none => simp [Except.mapError, bind, Except.bind]
    | some customer => simp [Except.mapError, bind, Except.bind]

theorem validateAccountOwners_ok {bank : Bank} {identities : IdentityStore}
    (h : AppState.OwnersExist bank identities) :
    validateAccountOwners bank identities = .ok () := by
  have hall : ∀ account ∈ bank.accountList, validateOwner identities account = .ok () := by
    intro account hmem
    obtain ⟨id, hfound⟩ := OrdMap.mem_vals.mp hmem
    exact validateOwner_ok_iff.mpr (h id account hfound)
  unfold validateAccountOwners
  generalize bank.accountList = accounts at hall
  induction accounts with
  | nil => rfl
  | cons account rest ih =>
    rw [List.forM_eq_forM, List.forM_cons, hall account (by simp)]
    exact ih fun account' hmem => hall account' (by simp [hmem])

/-! ## The state that is read back -/

namespace AppState

variable {argon2 : Argon2} {app : AppState}

/-- The state with the counter of its bank set anew. -/
def reloaded (app : AppState) : AppState :=
  { app with bank := ⟨app.bank.accounts, app.bank.latestId + 1⟩ }

theorem WellFormed.reloaded (h : app.WellFormed argon2) :
    app.reloaded.WellFormed argon2 := by
  refine ⟨?_, h.identities, h.auditLog, h.owners⟩
  have hbank := Bank.reload_wellFormed h.bank
  rwa [Bank.reload_eq h.bank] at hbank

/-- The loaders of the parts take back what they are given, and so does the
check of the owners. -/
theorem WellFormed.parts (h : app.WellFormed argon2) :
    IdentityStore.fromRecords argon2 app.identities.customerList app.identities.userList =
        .ok app.identities ∧
      Bank.fromAccounts app.bank.accountList = .ok app.reloaded.bank ∧
      AuditLog.fromEntries app.auditLog.entries = .ok app.auditLog ∧
      validateAccountOwners app.reloaded.bank app.identities = .ok () :=
  ⟨h.identities.reload, h.bank.reload, h.auditLog.reload,
    validateAccountOwners_ok h.reloaded.owners⟩

/-- The snapshot of a well-formed state is accepted. -/
theorem WellFormed.fromSnapshot (h : app.WellFormed argon2) :
    appFromSnapshot argon2 (.fromState app) = .ok app.reloaded := by
  obtain ⟨hidentities, hbank, haudit, howners⟩ := h.parts
  unfold appFromSnapshot
  simp only [AppSnapshot.fromState, hidentities, hbank, haudit, howners, Except.mapError,
    bind, Except.bind]
  rfl

/-- The text of a well-formed state is accepted, if the library reads what
it writes. -/
theorem WellFormed.fromJson (h : app.WellFormed argon2) {json : SerdeJson}
    (hjson : json.RoundTrips (.fromState app)) :
    ∃ text, appToJson json app = .ok text ∧
      appFromJson argon2 json text = .ok app.reloaded := by
  obtain ⟨text, hwrite, hread⟩ := hjson
  refine ⟨text, ?_, ?_⟩
  · rw [appToJson, hwrite]
    rfl
  · rw [appFromJson, hread]
    exact h.fromSnapshot

end AppState

end Banck
