/-
Banck.Api.Results — what a request comes to that asks for an operation of
the bank.

The handlers differ in what they check and in what they answer with. What
they do to the application is the same (`Worked`): nothing, or the
operation, and after an operation that returned one entry in the audit log.
So the answer tells what was done, but for one case: the log is full, the
operation is done, and the answer is an error all the same.
-/
import Banck.Api.ServerAlone
import Banck.BankEntries

namespace Banck.Api

open Lib Mut

/-! ## The cases -/

/-- The answer to a request for an operation, with the application then. -/
inductive Worked {α : Type} (op : BankOp) (session : Session) (app : AppState) :
    Except ApiError α × AppState → Prop
  | refused {error : ApiError} : Worked op session app (.error error, app)
  | failed {error : BankError} {bank : Bank} (may : session.MayCall app op)
      (run : op.run app.bank = (.error error, bank)) :
      Worked op session app (.error (.fromBank error), { app with bank })
  | unrecorded {error : ApiError} {reply : BankReply} {bank : Bank}
      (may : session.MayCall app op) (run : op.run app.bank = (.ok reply, bank))
      (full : ¬ app.auditLog.HasId) :
      Worked op session app (.error error, { app with bank })
  | done {a : α} {reply : BankReply} {bank : Bank} {entry : AuditEntry}
      (may : session.MayCall app op) (run : op.run app.bank = (.ok reply, bank))
      (room : app.auditLog.HasId) :
      Worked op session app
        (.ok a, ⟨bank, app.identities,
          ⟨app.auditLog.entries ++ [entry], app.auditLog.nextId + 1⟩⟩)

section Parts

variable {α β : Type} {op : BankOp} {session : Session} {app app' : AppState}

theorem Worked.map {result : Except ApiError α × AppState} (h : Worked op session app result)
    (f : α → β) : Worked op session app (result.1.map f, result.2) := by
  cases h with
  | refused => exact .refused
  | failed may run => exact .failed may run
  | unrecorded may run full => exact .unrecorded may run full
  | done may run room => exact .done may run room

/-- A check of the handler, before the operation. -/
theorem worked_lift {check : Except ApiError β} {k : β → AppM α}
    (h : ∀ b, check = .ok b → Worked op session app (k b app)) :
    Worked op session app ((do let b ← lift check; k b : AppM α) app) := by
  rw [bind_run, lift_run]
  cases hcheck : check with
  | error e => exact .refused
  | ok b => exact h b hcheck

theorem worked_get {k : AppState → AppM α} (h : Worked op session app (k app app)) :
    Worked op session app ((do let app ← get; k app : AppM α) app) := by
  rwa [bind_run, get_run]

/-- The operation, if what follows it is right. -/
theorem worked_onBank {m : BankM β} {k : β → AppM α} (may : session.MayCall app op)
    (hok : ∀ b bank, m app.bank = (.ok b, bank) → ∃ reply, op.run app.bank = (.ok reply, bank))
    (herror : ∀ e bank, m app.bank = (.error e, bank) → op.run app.bank = (.error e, bank))
    (h : ∀ b bank reply, op.run app.bank = (.ok reply, bank) →
      Worked op session app (k b { app with bank })) :
    Worked op session app ((do let b ← onBank m; k b : AppM α) app) := by
  rw [bind_run, onBank, zoom_run]
  rcases hm : m app.bank with ⟨e | b, bank⟩
  · exact .failed may (herror e bank hm)
  · obtain ⟨reply, hrun⟩ := hok b bank hm
    exact h b bank reply hrun

/-- An account that is there is read back. -/
theorem worked_readAccount {id : AccountId} {account : Account} {k : Account → AppM α}
    (hfound : app'.bank.accounts[id]? = some account)
    (h : Worked op session app (k account app')) :
    Worked op session app ((do let account ← onBank (Bank.readAccount id); k account : AppM α)
      app') := by
  rw [bind_run, onBank, zoom_run, Bank.readAccount, Bank.account, hfound]
  exact h

/-- The entry in the log, after an operation that returned. -/
theorem worked_recordSuccess {reply : BankReply} {bank : Bank} (may : session.MayCall app op)
    (run : op.run app.bank = (.ok reply, bank)) (action : AuditAction)
    (target : Option String) (message : String) (env : Env) (a : α) :
    Worked op session app
      ((do recordSuccess session action target message env; pure a : AppM α)
        { app with bank }) := by
  rw [bind_run, recordSuccess]
  by_cases hroom : app.auditLog.HasId
  · have hthen : ({ app with bank } : AppState).auditLog.HasId := hroom
    rw [recordAudit_run hthen]
    exact .done may run hroom
  · have hthen : ¬ ({ app with bank } : AppState).auditLog.HasId := hroom
    obtain ⟨error, hfull⟩ := recordAudit_full hthen (.fromSession session) action .success target
      message env.auditedAt
    rw [hfull]
    exact .unrecorded may run hroom

end Parts

/-! ## The handlers -/

section Handlers

variable {argon2 : Argon2} {env : Env} {headers : HeaderMap} {app : AppState}

/-- An account on which the operation entered something is there. -/
theorem found_of_booked {op : BankOp} {bank bank' : Bank} {reply : BankReply}
    (hrun : op.run bank = (.ok reply, bank')) {booking : Booking} (hmem : booking ∈ op.bookings) :
    ∃ account, bank'.accounts[booking.account]? = some account := by
  refine (BankOp.run_enters (fun id hop => ?_) hrun).found hmem
  rw [hop] at hmem
  cases hmem

/-- The money handlers, for an operation on their account. -/
theorem operateOnAccount_worked (op : BankOp) (operation : Money → BankM Unit)
    (allowed : AppState → Session → Except ApiError Unit) {accountId : AccountId}
    {amountCents : I64} {action : AuditAction} {message : String}
    (hallowed : ∀ session u, allowed app session = .ok u → session.MayCall app op)
    (hok : ∀ u bank, operation (.fromCents amountCents) app.bank = (.ok u, bank) →
      ∃ reply, op.run app.bank = (.ok reply, bank))
    (herror : ∀ e bank, operation (.fromCents amountCents) app.bank = (.error e, bank) →
      op.run app.bank = (.error e, bank))
    (hbooked : ∃ kind amount, ⟨accountId, kind, amount⟩ ∈ op.bookings) :
    ∃ m : Session → AppM AccountResponse,
      operateOnAccount headers env accountId amountCents action message allowed operation =
        authenticated headers env m ∧ ∀ session, Worked op session app (m session app) := by
  refine ⟨_, rfl, fun session => worked_get (worked_lift fun _ hpass =>
    worked_lift fun amount hamount => ?_)⟩
  obtain ⟨-, rfl⟩ := moneyFromCents_ok_iff.mp hamount
  have may := hallowed session _ hpass
  refine worked_onBank may hok herror fun _ bank reply hrun => ?_
  obtain ⟨kind, amount, hmem⟩ := hbooked
  obtain ⟨account, hfound⟩ := found_of_booked hrun hmem
  exact worked_readAccount hfound (worked_recordSuccess may hrun _ _ _ _ _)

theorem createAccount_worked (payload : CreateAccountRequest) :
    ∃ m : Session → AppM AccountResponse,
      createAccount headers env payload = authenticated headers env m ∧
      ∀ session, Worked (.createAccount payload.id payload.ownerId payload.name payload.email
        (.fromCents payload.openingBalanceCents) env.postedAt) session app (m session app) := by
  refine ⟨_, rfl, fun session => worked_lift fun _ hmanage => worked_get (worked_lift
    fun _ howner => worked_lift fun openingBalance hopening => ?_)⟩
  obtain ⟨-, rfl⟩ := nonNegativeMoneyFromCents_ok_iff.mp hopening
  have may : session.MayCall app (.createAccount payload.id payload.ownerId payload.name
      payload.email (.fromCents payload.openingBalanceCents) env.postedAt) :=
    ⟨authorize_ok_iff.mp hmanage, ensureOwnerExists_ok howner⟩
  refine worked_onBank may (fun _ _ h => ⟨_, map_ok_iff.mpr ⟨_, h, rfl⟩⟩)
    (fun _ _ h => map_error_iff.mpr h) fun _ bank reply hrun => ?_
  obtain ⟨account, hfound⟩ := found_of_booked hrun (List.mem_singleton_self _)
  exact worked_readAccount hfound (worked_recordSuccess may hrun _ _ _ _ _)

theorem transfer_worked (payload : TransferRequest) :
    ∃ m : Session → AppM TransferResponse,
      transfer headers env payload = authenticated headers env m ∧
      ∀ session, Worked (.transfer payload.fromAccountId payload.toAccountId
        (.fromCents payload.amountCents) env.postedAt env.postedNextAt) session app
        (m session app) := by
  refine ⟨_, rfl, fun session => worked_get (worked_lift fun _ haccess =>
    worked_lift fun amount hamount => ?_)⟩
  obtain ⟨-, rfl⟩ := moneyFromCents_ok_iff.mp hamount
  have may : session.MayCall app (.transfer payload.fromAccountId payload.toAccountId
      (.fromCents payload.amountCents) env.postedAt env.postedNextAt) :=
    ensureAccountMoneyAccess_ok_iff.mp haccess
  refine worked_onBank may (fun _ _ h => ⟨_, map_ok_iff.mpr ⟨_, h, rfl⟩⟩)
    (fun _ _ h => map_error_iff.mpr h) fun _ bank reply hrun => ?_
  obtain ⟨payer, hpayer⟩ := found_of_booked hrun List.mem_cons_self
  obtain ⟨payee, hpayee⟩ :=
    found_of_booked hrun (List.mem_cons_of_mem _ (List.mem_singleton_self _))
  exact worked_readAccount hpayer (worked_readAccount hpayee
    (worked_recordSuccess may hrun _ _ _ _ _))

/-- The handler of a request for an operation comes to one of the cases. -/
theorem handle_worked (argon2 : Argon2) {request : Request} {op : BankOp}
    (hact : request.act env = some (.bank op)) (app : AppState) :
    ∃ (α : Type) (headers : HeaderMap) (m : Session → AppM α) (f : α → Response),
      request.OpensSession headers ∧
      handle argon2 env request = Mut.map f (authenticated headers env m) ∧
      ∀ session, Worked op session app (m session app) := by
  cases request with
  | createAccount headers payload =>
    obtain rfl := AppMove.bank.inj (Option.some.inj hact)
    obtain ⟨m, hm, hworked⟩ := createAccount_worked payload
    exact ⟨_, headers, m, _, ⟨rfl, nofun⟩, congrArg (Mut.map Response.account) hm, hworked⟩
  | transfer headers payload =>
    obtain rfl := AppMove.bank.inj (Option.some.inj hact)
    obtain ⟨m, hm, hworked⟩ := transfer_worked payload
    exact ⟨_, headers, m, _, ⟨rfl, nofun⟩, congrArg (Mut.map Response.transfer) hm, hworked⟩
  | deposit headers accountId payload =>
    obtain rfl := AppMove.bank.inj (Option.some.inj hact)
    obtain ⟨m, hm, hworked⟩ := operateOnAccount_worked
      (.deposit accountId (.fromCents payload.amountCents) env.postedAt)
      (fun amount => Bank.deposit accountId amount env.postedAt)
      (fun app session => ensureAccountMoneyAccess app session accountId)
      (fun session _ h => ensureAccountMoneyAccess_ok_iff.mp h)
      (fun _ _ h => ⟨_, map_ok_iff.mpr ⟨_, h, rfl⟩⟩) (fun _ _ h => map_error_iff.mpr h)
      ⟨_, _, List.mem_singleton_self _⟩
    exact ⟨_, headers, m, _, ⟨rfl, nofun⟩, congrArg (Mut.map Response.account) hm, hworked⟩
  | withdraw headers accountId payload =>
    obtain rfl := AppMove.bank.inj (Option.some.inj hact)
    obtain ⟨m, hm, hworked⟩ := operateOnAccount_worked
      (.withdraw accountId (.fromCents payload.amountCents) env.postedAt)
      (fun amount => Bank.withdraw accountId amount env.postedAt)
      (fun app session => ensureAccountMoneyAccess app session accountId)
      (fun session _ h => ensureAccountMoneyAccess_ok_iff.mp h)
      (fun _ _ h => ⟨_, map_ok_iff.mpr ⟨_, h, rfl⟩⟩) (fun _ _ h => map_error_iff.mpr h)
      ⟨_, _, List.mem_singleton_self _⟩
    exact ⟨_, headers, m, _, ⟨rfl, nofun⟩, congrArg (Mut.map Response.account) hm, hworked⟩
  | applyFee headers accountId payload =>
    obtain rfl := AppMove.bank.inj (Option.some.inj hact)
    obtain ⟨m, hm, hworked⟩ := operateOnAccount_worked
      (.applyFee accountId (.fromCents payload.amountCents) env.postedAt)
      (fun amount => Bank.applyFee accountId amount env.postedAt)
      (fun _ session => authorize session .moveMoney)
      (fun session _ h => authorize_ok_iff.mp h)
      (fun _ _ h => ⟨_, map_ok_iff.mpr ⟨_, h, rfl⟩⟩) (fun _ _ h => map_error_iff.mpr h)
      ⟨_, _, List.mem_singleton_self _⟩
    exact ⟨_, headers, m, _, ⟨rfl, nofun⟩, congrArg (Mut.map Response.account) hm, hworked⟩
  | requestLoan headers accountId payload =>
    obtain rfl := AppMove.bank.inj (Option.some.inj hact)
    obtain ⟨m, hm, hworked⟩ := operateOnAccount_worked
      (.requestLoan accountId (.fromCents payload.amountCents) env.postedAt)
      (fun amount => Bank.requestLoan accountId amount env.postedAt)
      (fun _ session => authorize session .moveMoney)
      (fun session _ h => authorize_ok_iff.mp h)
      (fun _ _ h => ⟨_, map_ok_iff.mpr ⟨_, h, rfl⟩⟩) (fun _ _ h => map_error_iff.mpr h)
      ⟨_, _, List.mem_singleton_self _⟩
    exact ⟨_, headers, m, _, ⟨rfl, nofun⟩, congrArg (Mut.map Response.account) hm, hworked⟩
  | payLoan headers accountId payload =>
    obtain rfl := AppMove.bank.inj (Option.some.inj hact)
    obtain ⟨m, hm, hworked⟩ := operateOnAccount_worked
      (.payLoan accountId (.fromCents payload.amountCents) env.postedAt)
      (fun amount => map (fun _ => ()) (Bank.payLoan accountId amount env.postedAt))
      (fun app session => ensureAccountMoneyAccess app session accountId)
      (fun session _ h => ensureAccountMoneyAccess_ok_iff.mp h)
      (fun _ _ h => by
        obtain ⟨paid, hrun, -⟩ := map_ok_iff.mp h
        exact ⟨_, map_ok_iff.mpr ⟨paid, hrun, rfl⟩⟩)
      (fun _ _ h => map_error_iff.mpr (map_error_iff.mp h)) ⟨_, _, List.mem_singleton_self _⟩
    exact ⟨_, headers, m, _, ⟨rfl, nofun⟩, congrArg (Mut.map Response.account) hm, hworked⟩
  | health | bootstrapAdmin | login | logout | createCustomer | listAudit | listCustomers
  | createUser | listUsers | listAccounts | getAccount | listAccountTransactions => cases hact

/-- Whatever the operation that a request asks for, its work comes to one of
the cases. -/
theorem work_worked (argon2 : Argon2) {request : Request} {op : BankOp}
    (hact : request.act env = some (.bank op)) (session : Session) (app : AppState) :
    ∃ result : Except ApiError Response × AppState, Worked op session app result ∧
      work argon2 env request session app = (result.1.mapError .error, result.2) := by
  obtain ⟨α, headers, m, f, hopens, hhandle, hworked⟩ := handle_worked argon2 hact app
  cases htoken : bearerToken headers with
  | error error => exact ⟨(.error error, app), .refused, work_error hopens htoken session app⟩
  | ok token =>
    exact ⟨_, (hworked session).map f, work_run hhandle hopens.1 htoken session app⟩

end Handlers

end Banck.Api
