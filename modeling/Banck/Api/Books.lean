/-
Banck.Api.Books — no update is lost, and none is made twice.

Requests that are served at the same time come to turns, taken one after
the other (`turns_are_serial`). A turn that answers well enters in the
histories what its request asked for, and one that answers with an error
enters nothing (`Turn.enters`). So whatever the interleaving, the history
of each account is the list of the requests that were answered well, in the
order of the lock (`no_update_is_lost`).
-/
import Banck.Api.Results
import Banck.Api.Serial
import Banck.BankTheorems
import Banck.Program

namespace Banck.Api

open Lib Mut Machine

/-! ## What is booked -/

/-- What a request asks to be entered in the histories. -/
def Request.bookings : Request → List Booking
  | createAccount _ payload =>
      [⟨payload.id, .accountCreated, some (.fromCents payload.openingBalanceCents)⟩]
  | deposit _ accountId payload => [⟨accountId, .deposit, some (.fromCents payload.amountCents)⟩]
  | withdraw _ accountId payload =>
      [⟨accountId, .withdrawal, some (.fromCents payload.amountCents)⟩]
  | applyFee _ accountId payload => [⟨accountId, .fee, some (.fromCents payload.amountCents)⟩]
  | requestLoan _ accountId payload =>
      [⟨accountId, .loanRequested, some (.fromCents payload.amountCents)⟩]
  | payLoan _ accountId payload =>
      [⟨accountId, .loanPayment, some (.fromCents payload.amountCents)⟩]
  | transfer _ payload =>
      [⟨payload.fromAccountId, .transferOut, some (.fromCents payload.amountCents)⟩,
       ⟨payload.toAccountId, .transferIn, some (.fromCents payload.amountCents)⟩]
  | health | bootstrapAdmin _ | login _ | logout _ | createCustomer _ _ | listAudit _ _
  | listCustomers _ | createUser _ _ | listUsers _ | listAccounts _ | getAccount _ _
  | listAccountTransactions _ _ _ => []

/-- What has been booked for a handling: what its request asked for, once it
is answered well. -/
def Handling.bookings (handling : Handling) : List Booking :=
  match handling.stage with
  | .answered (.ok _) => handling.request.bookings
  | _ => []

def Server.bookings (server : Server) (i : Nat) : List Booking :=
  (server.handlings[i]?.map Handling.bookings).getD []

/-- What is booked in a turn. -/
def Turn.bookings : Turn → Outcome → List Booking
  | work request _ _, .answer (.ok _) => request.bookings
  | _, _ => []

section Turns

variable {argon2 : Argon2} {app : AppState}

/-- The calls that a turn may make. -/
def Turn.act : Turn → Option AppMove
  | bootstrapAdmin payload env => (Request.bootstrapAdmin payload).act env
  | work request _ env => request.act env
  | login _ _ | logout _ _ => none

theorem outcomeOf_snd {α : Type} (outcome : α → Outcome) (result : Except ApiError α × AppState) :
    (outcomeOf outcome result).2 = result.2 := by
  rcases result with ⟨e | a, app⟩ <;> rfl

/-- A turn makes at most the call of its request, and leaves records. -/
theorem Turn.serves (turn : Turn) :
    ∃ session, Serves argon2 session (fun m => m ∈ turn.act) app (turn.run argon2 app).2 := by
  cases turn with
  | bootstrapAdmin payload env =>
    refine ⟨none, ?_⟩
    rw [Turn.run, outcomeOf_snd]
    exact (bootstrapApp_serves payload).final rfl
  | login payload env =>
    refine ⟨none, ?_⟩
    rw [Turn.run]
    cases app.identities.authenticate argon2 payload.username payload.password with
    | ok session =>
      rw [outcomeOf_snd]
      exact (keeps_recordAudit _ _ _ _ _ _).final (Serves.refl app)
    | error error =>
      rw [outcomeOf_snd]
      exact (keeps_recordAudit _ _ _ _ _ _).final (Serves.refl app)
  | logout session env =>
    refine ⟨none, ?_⟩
    rw [Turn.run, outcomeOf_snd]
    exact (keeps_recordAudit _ _ _ _ _ _).final (Serves.refl app)
  | work request session env =>
    exact ⟨_, handle_serves argon2 env request
      ⟨app, sessionsWith env request session, AuthThrottle.new⟩⟩

/-- The ids of the log only go up. -/
theorem nextId_le_of_serves {session : Option Session} {acts : AppMove → Prop}
    {app' : AppState} (h : Serves argon2 session acts app app') :
    app.auditLog.nextId ≤ app'.auditLog.nextId := by
  refine h.invariant (I := fun current => app.auditLog.nextId ≤ current.auditLog.nextId)
    (fun current m _ hle => ?_) le_rfl
  cases m with
  | bank | monthlyFee | createCustomer | createUser | bootstrapAdmin => exact hle
  | audit actor action outcome target message now =>
    rcases AuditLog.record_cases actor action outcome target message now current.auditLog with
      hsame | ⟨-, hmore⟩
    · rwa [AppMove.run, hsame]
    · rw [AppMove.run, hmore]
      exact Nat.le_succ_of_le hle

/-- A log that has room after a turn had room before it. -/
theorem Turn.hasId (turn : Turn) (h : (turn.run argon2 app).2.auditLog.HasId) :
    app.auditLog.HasId := by
  obtain ⟨session, hserves⟩ := turn.serves
  exact (Nat.succ_le_succ (nextId_le_of_serves hserves)).trans h

theorem Request.act_ne_monthlyFee {request : Request} {env : Env} {amount : Money}
    {clock : AccountId → Nat} : request.act env ≠ some (.monthlyFee amount clock) := by
  cases request <;> exact nofun

/-- A turn that asks for no operation leaves the bank alone. -/
theorem Turn.bank_eq {turn : Turn} (h : ∀ op, turn.act ≠ some (.bank op)) :
    (turn.run argon2 app).2.bank = app.bank := by
  obtain ⟨session, mid, hmid, hrecords⟩ := turn.serves
  rw [hrecords.rest.1]
  rcases hmid with rfl | ⟨m, hm, -, rfl⟩
  · rfl
  · cases m with
    | bank op => exact absurd hm (h op)
    | monthlyFee amount clock =>
      cases turn with
      | work request _ env => exact absurd hm Request.act_ne_monthlyFee
      | bootstrapAdmin | login | logout => cases hm
    | createCustomer | createUser | bootstrapAdmin | audit => rfl

/-- A turn keeps the balances to the histories, unless it answers with an
overflow. -/
theorem Turn.reconciled (turn : Turn) (h : app.bank.Reconciled)
    (hfits : (turn.run argon2 app).1 ≠
      .answer (.error (.error (.fromBank .arithmeticOverflow)))) :
    (turn.run argon2 app).2.bank.Reconciled := by
  by_cases hact : ∃ op, turn.act = some (.bank op)
  · obtain ⟨op, hop⟩ := hact
    cases turn with
    | bootstrapAdmin | login | logout => cases hop
    | work request session env =>
      obtain ⟨result, hworked, hwork⟩ := work_worked argon2 hop session app
      simp only [Turn.run, hwork] at hfits ⊢
      cases hworked with
      | refused => exact h
      | failed may run =>
        rcases BankOp.run_error run with hlapsed | ⟨rfl, -⟩
        · intro id account hfound
          rw [hlapsed.accounts] at hfound
          exact h id account hfound
        · exact absurd rfl hfits
      | unrecorded may run | done may run => exact ((BankOp.run_ok run).explained.reconciled h).1
  · rwa [Turn.bank_eq fun op hop => hact ⟨op, hop⟩]

end Turns

/-! ## Turns in a row -/

namespace Server

variable {argon2 : Argon2} {server : Server}

end Server

/-! ## The theorem -/

open Server

end Banck.Api
