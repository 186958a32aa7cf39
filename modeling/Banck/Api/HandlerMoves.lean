/-
Banck.Api.HandlerMoves — what a request does to the application.

`handle_serves`: whatever a handler answers, it made at most the one call
that the request asks for (`Request.act`), and that only if the session of
the request permits it; all else it did is to leave audit records.
-/
import Banck.Api.Handlers
import Banck.AppMoves

namespace Banck.Api

open Lib Mut

/-! ## The session and the call of a request -/

/-- The session that the request is made with, if it is made with one. -/
def ApiState.session? (state : ApiState) (env : Env) (request : Request) : Option Session :=
  request.headers.bind fun headers =>
    (authenticateRequest headers env.authenticatedAt state).1.toOption

/-- The call that a request asks for, if it asks for one. -/
def Request.act (env : Env) : Request → Option AppMove
  | bootstrapAdmin payload =>
      some (.bootstrapAdmin env.salt payload.userId payload.username payload.password)
  | createCustomer _ payload => some (.createCustomer payload.id payload.fullName payload.email)
  | createUser _ payload =>
      some (.createUser env.salt payload.id payload.username payload.role payload.customerId
        payload.password)
  | createAccount _ payload =>
      some (.bank (.createAccount payload.id payload.ownerId payload.name payload.email
        (.fromCents payload.openingBalanceCents) env.postedAt))
  | deposit _ accountId payload =>
      some (.bank (.deposit accountId (.fromCents payload.amountCents) env.postedAt))
  | withdraw _ accountId payload =>
      some (.bank (.withdraw accountId (.fromCents payload.amountCents) env.postedAt))
  | applyFee _ accountId payload =>
      some (.bank (.applyFee accountId (.fromCents payload.amountCents) env.postedAt))
  | requestLoan _ accountId payload =>
      some (.bank (.requestLoan accountId (.fromCents payload.amountCents) env.postedAt))
  | payLoan _ accountId payload =>
      some (.bank (.payLoan accountId (.fromCents payload.amountCents) env.postedAt))
  | transfer _ payload =>
      some (.bank (.transfer payload.fromAccountId payload.toAccountId
        (.fromCents payload.amountCents) env.postedAt env.postedNextAt))
  | health | login _ | logout _ | listAudit _ _ | listCustomers _ | listUsers _
  | listAccounts _ | getAccount _ _ | listAccountTransactions _ _ _ => none

/-! ## Checks -/

theorem authorize_ok_iff {session : Session} {permission : Permission} {u : Unit} :
    authorize session permission = .ok u ↔ session.can permission = true := by
  unfold authorize IdentityStore.authorize
  cases session.can permission <;> simp [Except.mapError]

theorem isOwnedBy_iff {account : Account} {session : Session} :
    IsOwnedBy account session ↔ session.Owns account := by
  unfold IsOwnedBy Session.Owns
  cases account.ownerId with
  | none => simp
  | some ownerId => simp [eq_comm]

theorem ensureAccountAccess_ok_iff {app : AppState} {session : Session} {id : AccountId}
    {anyPermission ownPermission : Permission} {u : Unit} :
    ensureAccountAccess app session id anyPermission ownPermission = .ok u ↔
      session.can anyPermission = true ∨ session.can ownPermission = true ∧
        ∃ account, app.bank.accounts[id]? = some account ∧ session.Owns account := by
  unfold ensureAccountAccess
  by_cases hany : session.can anyPermission = true
  · simp [hany]
  · rw [if_neg hany]
    cases hown : authorize session ownPermission with
    | error e =>
      have hno : ¬ session.can ownPermission = true := by
        rw [← authorize_ok_iff (u := ()), hown]; simp
      simp [hany, hno, bind, Except.bind]
    | ok u' =>
      have hyes := authorize_ok_iff.mp hown
      unfold Bank.account
      cases app.bank.accounts[id]? with
      | none => simp [hany, hyes, bind, Except.bind, Except.mapError]
      | some account =>
        by_cases howned : IsOwnedBy account session
        · simp [hany, hyes, bind, Except.bind, Except.mapError, howned, ← isOwnedBy_iff]
        · simp [hany, hyes, bind, Except.bind, Except.mapError, howned, ← isOwnedBy_iff]

theorem ensureAccountMoneyAccess_ok_iff {app : AppState} {session : Session}
    {id : AccountId} {u : Unit} :
    ensureAccountMoneyAccess app session id = .ok u ↔ session.MovesMoneyOf app.bank id :=
  ensureAccountAccess_ok_iff

theorem moneyFromCents_ok_iff {cents : I64} {amount : Money} :
    moneyFromCents cents = .ok amount ↔ 0 < cents.val ∧ amount = .fromCents cents := by
  unfold moneyFromCents
  by_cases h : cents.val ≤ 0
  · simp [h]
  · simp [h, eq_comm]; omega

theorem nonNegativeMoneyFromCents_ok_iff {cents : I64} {amount : Money} :
    nonNegativeMoneyFromCents cents = .ok amount ↔
      0 ≤ cents.val ∧ amount = .fromCents cents := by
  unfold nonNegativeMoneyFromCents
  by_cases h : cents.val < 0
  · simp [h]
  · simp [h, eq_comm]; omega

theorem ensureOwnerExists_ok {app : AppState} {ownerId : Option CustomerId} {u : Unit}
    (h : ensureOwnerExists app ownerId = .ok u) :
    ∀ customerId ∈ ownerId, app.identities.customers[customerId]? ≠ none := by
  intro customerId hc
  obtain rfl := Option.mem_def.mp hc
  intro hnone
  simp [ensureOwnerExists, IdentityStore.customer, hnone, Except.mapError, bind,
    Except.bind] at h

/-! ## Parts of a handler -/

section Parts

variable {argon2 : Argon2} {session : Option Session} {acts : AppMove → Prop}
  {app₀ : AppState}

theorem keeps_recordAudit (actor : AuditActor) (action : AuditAction)
    (outcome : AuditOutcome) (target : Option String) (message : String) (now : Nat) :
    Keeps (Serves argon2 session acts app₀)
      (recordAudit actor action outcome target message now) := by
  refine triple_of_final fun app h => ?_
  rw [recordAudit, map_run, zoom_run]
  exact h.audit (m := .audit actor action outcome target message now) trivial

theorem keeps_readAccount (I : AppState → Prop) (id : AccountId) :
    Keeps I (onBank (Bank.readAccount id)) :=
  keeps_of_readOnly fun app => by rw [onBank, zoom_run]; rfl

/-- A permitted call of the bank. -/
theorem onBank_serves {α : Type} {m : BankM α} (op : BankOp)
    (hm : ∀ bank, (m bank).2 = (op.run bank).2)
    (hperm : (AppMove.bank op).Permitted session app₀) (hact : acts (.bank op)) :
    Triple (fun app => app = app₀) (onBank m) (fun _ => Serves argon2 session acts app₀)
      (fun _ => Serves argon2 session acts app₀) := by
  refine triple_of_final fun app happ => ?_
  subst happ
  rw [onBank, zoom_run]
  rw [hm]
  exact Serves.act hperm hact

/-- A permitted call of the identities. -/
theorem onIdentities_serves {α : Type} {m : IdentityM α} (move : AppMove)
    (hm : { app₀ with identities := (m app₀.identities).2 } = move.run argon2 app₀)
    (hperm : move.Permitted session app₀) (hact : acts move) :
    Triple (fun app => app = app₀) (onIdentities m)
      (fun _ => Serves argon2 session acts app₀)
      (fun _ => Serves argon2 session acts app₀) := by
  refine triple_of_final fun app happ => ?_
  subst happ
  rw [onIdentities, zoom_run, hm]
  exact Serves.act hperm hact

/-- A check that failed leaves the application as it was. -/
theorem refused {α : Type} (r : Except ApiError α) :
    Triple (fun app => app = app₀) (Mut.lift r) (fun a app => app = app₀ ∧ r = .ok a)
      (fun _ => Serves argon2 session acts app₀) :=
  triple_lift r fun _ app _ happ => happ ▸ Serves.refl app

/-- A permitted call of the identities whose result was looked at. -/
theorem setIdentities_serves {identities : IdentityStore} (move : AppMove)
    (hm : { app₀ with identities } = move.run argon2 app₀)
    (hperm : move.Permitted session app₀) (hact : acts move) :
    Triple (fun app => app = app₀) (Mut.modify fun app => { app with identities } : AppM Unit)
      (fun _ => Serves argon2 session acts app₀)
      (fun _ => Serves argon2 session acts app₀) := by
  refine triple_of_final fun app happ => ?_
  subst happ
  rw [modify_run, hm]
  exact Serves.act hperm hact

theorem triple_of_keeps {α : Type} {m : AppM α}
    (h : Keeps (Serves argon2 session acts app₀) m) :
    Triple (fun app => app = app₀) m (fun _ => Serves argon2 session acts app₀)
      (fun _ => Serves argon2 session acts app₀) :=
  h.weaken (fun _ happ => happ ▸ Serves.refl _) (fun _ _ happ => happ)
    (fun _ _ happ => happ)

end Parts

/-! ## Handlers with a session -/

section Authenticated

variable {argon2 : Argon2} {acts : AppMove → Prop} {headers : HeaderMap} {env : Env}

theorem lockApp_run {α : Type} (m : AppM α) (state : ApiState) :
    lockApp m state = ((m state.app).1.mapError .error, { state with app := (m state.app).2 }) :=
  zoom_run _ _ _ _ _

/-- Finding the session leaves the application alone. -/
theorem authenticateRequest_app (headers : HeaderMap) (now : Nat) (state : ApiState) :
    (authenticateRequest headers now state).2.app = state.app := by
  unfold authenticateRequest
  cases bearerToken headers with
  | error e => rfl
  | ok token =>
    simp only [Except.mapError, bind_run, lift_run]
    rw [lockSessions, zoom_run]

/-- What a handler with a session does to the application, its second part
does in the name of the session. -/
theorem authenticated_serves {α : Type} {m : Session → AppM α}
    (h : ∀ session app₀, Triple (fun app => app = app₀) (m session)
      (fun _ => Serves argon2 (some session) acts app₀)
      (fun _ => Serves argon2 (some session) acts app₀)) (state : ApiState) :
    Serves argon2 (authenticateRequest headers env.authenticatedAt state).1.toOption acts
      state.app (authenticated headers env m state).2.app := by
  have happ := authenticateRequest_app headers env.authenticatedAt state
  rw [authenticated, bind_run, ← happ]
  generalize authenticateRequest headers env.authenticatedAt state = answer
  rcases answer with ⟨e | session, mid⟩
  · exact Serves.refl _
  · have hbody := (h session mid.app).final rfl
    have hrun := lockApp_run (m session) mid
    rw [Prod.ext_iff] at hrun
    exact (congrArg ApiState.app hrun.2).symm ▸ hbody

theorem keeps_recordSuccess {session : Session} {app₀ : AppState} (action : AuditAction)
    (target : Option String) (message : String) (env : Env) :
    Keeps (Serves argon2 (some session) acts app₀)
      (recordSuccess session action target message env) := keeps_recordAudit _ _ _ _ _ _

theorem keeps_pure {α : Type} {I : AppState → Prop} (a : α) : Keeps I (pure a : AppM α) :=
  keeps_of_readOnly fun _ => rfl

/-- The end of every handler that changed something. -/
theorem keeps_recordSuccess_pure {α : Type} {session : Session} {app₀ : AppState}
    (action : AuditAction) (target : Option String) (message : String) (env : Env) (a : α) :
    Keeps (Serves argon2 (some session) acts app₀) (do
      recordSuccess session action target message env
      pure a) := (keeps_recordSuccess action target message env).bind fun _ => keeps_pure a

theorem operateOnAccount_serves {accountId : AccountId} {amountCents : I64}
    {action : AuditAction} {message : String}
    {allowed : AppState → Session → Except ApiError Unit} {operation : Money → BankM Unit}
    (op : BankOp) (hop : ∀ bank, (operation (.fromCents amountCents) bank).2 = (op.run bank).2)
    (hallowed : ∀ app session, allowed app session = .ok () → session.MayCall app op)
    (state : ApiState) :
    Serves argon2 (authenticateRequest headers env.authenticatedAt state).1.toOption
      (fun m => m = .bank op) state.app
      (operateOnAccount headers env accountId amountCents action message allowed operation
        state).2.app := by
  refine authenticated_serves (fun session app₀ => ?_) state
  refine (triple_get app₀).bind fun app => Triple.assume fun happ => ?_
  subst happ
  refine (refused _).bind fun _ => Triple.assume fun hallow => ?_
  refine (refused _).bind fun amount => Triple.assume fun hamount => ?_
  obtain ⟨-, rfl⟩ := moneyFromCents_ok_iff.mp hamount
  refine Triple.bind (onBank_serves op hop ⟨session, rfl, hallowed _ _ hallow⟩ rfl) fun _ => ?_
  exact (keeps_readAccount _ _).bind fun account => keeps_recordSuccess_pure _ _ _ _ _

theorem mutateAccountMoney_serves {accountId : AccountId} {amountCents : I64}
    {action : AuditAction} {operation : Money → BankM Unit} (op : BankOp)
    (hop : ∀ bank, (operation (.fromCents amountCents) bank).2 = (op.run bank).2)
    (hmay : ∀ app session, Session.MovesMoneyOf session app.bank accountId →
      session.MayCall app op)
    (state : ApiState) :
    Serves argon2 (authenticateRequest headers env.authenticatedAt state).1.toOption
      (fun m => m = .bank op) state.app
      (mutateAccountMoney headers env accountId amountCents action operation state).2.app :=
  operateOnAccount_serves op hop
    (fun _ _ h => hmay _ _ (ensureAccountMoneyAccess_ok_iff.mp h)) state

theorem createCustomer_serves (payload : CreateCustomerRequest) (state : ApiState) :
    Serves argon2 (authenticateRequest headers env.authenticatedAt state).1.toOption
      (fun m => m ∈ (Request.createCustomer headers payload).act env) state.app
      (createCustomer headers env payload state).2.app := by
  refine authenticated_serves (fun session app₀ => ?_) state
  refine (refused _).bind fun _ => Triple.assume fun hauth => ?_
  refine Triple.bind (onIdentities_serves
    (.createCustomer payload.id payload.fullName payload.email) rfl
    ⟨session, rfl, authorize_ok_iff.mp hauth⟩ rfl) fun customer => ?_
  exact keeps_recordSuccess_pure _ _ _ _ _

theorem createUser_serves (payload : CreateUserRequest) (state : ApiState) :
    Serves argon2 (authenticateRequest headers env.authenticatedAt state).1.toOption
      (fun m => m ∈ (Request.createUser headers payload).act env) state.app
      (createUser argon2 headers env payload state).2.app := by
  refine authenticated_serves (fun session app₀ => ?_) state
  refine (refused _).bind fun _ => Triple.assume fun hauth => ?_
  refine Triple.bind (onIdentities_serves
    (.createUser env.salt payload.id payload.username payload.role payload.customerId
      payload.password) rfl
    ⟨session, rfl, authorize_ok_iff.mp hauth⟩ rfl) fun user => ?_
  exact keeps_recordSuccess_pure _ _ _ _ _

theorem createAccount_serves (payload : CreateAccountRequest) (state : ApiState) :
    Serves argon2 (authenticateRequest headers env.authenticatedAt state).1.toOption
      (fun m => m ∈ (Request.createAccount headers payload).act env) state.app
      (createAccount headers env payload state).2.app := by
  refine authenticated_serves (fun session app₀ => ?_) state
  refine (refused _).bind fun _ => Triple.assume fun hauth => ?_
  refine (triple_get app₀).bind fun app => Triple.assume fun happ => ?_
  subst happ
  refine (refused _).bind fun _ => Triple.assume fun howner => ?_
  refine (refused _).bind fun amount => Triple.assume fun hamount => ?_
  obtain ⟨-, rfl⟩ := nonNegativeMoneyFromCents_ok_iff.mp hamount
  have hmay := And.intro (authorize_ok_iff.mp hauth) (ensureOwnerExists_ok howner)
  refine Triple.bind (onBank_serves (.createAccount payload.id payload.ownerId payload.name
    payload.email (.fromCents payload.openingBalanceCents) env.postedAt) (fun bank => ?_)
    ⟨session, rfl, hmay⟩ rfl) fun _ => ?_
  · rw [BankOp.run, map_run]
  · exact (keeps_readAccount _ _).bind fun account => keeps_recordSuccess_pure _ _ _ _ _

theorem transfer_serves (payload : TransferRequest) (state : ApiState) :
    Serves argon2 (authenticateRequest headers env.authenticatedAt state).1.toOption
      (fun m => m ∈ (Request.transfer headers payload).act env) state.app
      (transfer headers env payload state).2.app := by
  refine authenticated_serves (fun session app₀ => ?_) state
  refine (triple_get app₀).bind fun app => Triple.assume fun happ => ?_
  subst happ
  refine (refused _).bind fun _ => Triple.assume fun hallow => ?_
  refine (refused _).bind fun amount => Triple.assume fun hamount => ?_
  obtain ⟨-, rfl⟩ := moneyFromCents_ok_iff.mp hamount
  have hmay := ensureAccountMoneyAccess_ok_iff.mp hallow
  refine Triple.bind (onBank_serves (.transfer payload.fromAccountId payload.toAccountId
    (.fromCents payload.amountCents) env.postedAt env.postedNextAt) (fun bank => ?_)
    ⟨session, rfl, hmay⟩ rfl) fun _ => ?_
  · rw [BankOp.run, map_run]
  · exact (keeps_readAccount _ _).bind fun _ => (keeps_readAccount _ _).bind fun _ =>
      keeps_recordSuccess_pure _ _ _ _ _

end Authenticated

/-! ## Handlers that look for no session -/

section Unauthenticated

variable {argon2 : Argon2} {session : Option Session} {acts : AppMove → Prop} {env : Env}
  {app₀ : AppState}

/-- What was served of the application so far. -/
def Since (argon2 : Argon2) (session : Option Session) (acts : AppMove → Prop)
    (app₀ : AppState) (state : ApiState) : Prop :=
  Serves argon2 session acts app₀ state.app

theorem keeps_lockSessions {ε α : Type} (halt : ε → Halt) (m : Mut ApiSessionStore ε α) :
    Keeps (Since argon2 session acts app₀) (lockSessions halt m) :=
  triple_of_final fun state h => by rwa [lockSessions, zoom_run]

theorem keeps_lockThrottle {α : Type} (m : Mut AuthThrottle ApiError α) :
    Keeps (Since argon2 session acts app₀) (lockThrottle m) :=
  triple_of_final fun state h => by rwa [lockThrottle, zoom_run]

theorem keeps_lockApp {α : Type} {m : AppM α}
    (h : Keeps (Serves argon2 session acts app₀) m) :
    Keeps (Since argon2 session acts app₀) (lockApp m) :=
  triple_of_final fun state hstate => by
    rw [lockApp_run]
    exact h.final hstate

theorem keeps_issueSession (s : Session) (env : Env) :
    Keeps (Since argon2 session acts app₀) (issueSession s env) :=
  (keeps_lockSessions _ _).bind fun _ => keeps_of_readOnly fun _ => rfl

/-- A login leaves records and nothing else. -/
theorem keeps_login (payload : LoginRequest) :
    Keeps (Since argon2 session acts app₀) (login argon2 env payload) := by
  refine (keeps_lockThrottle _).bind fun _ => keeps_get.bind fun state => ?_
  cases state.app.identities.authenticate argon2 payload.username payload.password with
  | ok s =>
    exact (keeps_lockThrottle _).bind fun _ =>
      (keeps_lockApp (keeps_recordAudit _ _ _ _ _ _)).bind fun _ => keeps_issueSession s env
  | error e =>
    exact (keeps_lockThrottle _).bind fun _ =>
      (keeps_lockApp (keeps_recordAudit _ _ _ _ _ _)).bind fun _ => keeps_fail _

theorem keeps_logout (headers : HeaderMap) :
    Keeps (Since argon2 session acts app₀) (logout headers env) :=
  (keeps_lift _).bind fun _ => (keeps_lockSessions _ _).bind fun _ =>
    (keeps_lockSessions _ _).bind fun _ =>
      (keeps_lockApp (keeps_recordAudit _ _ _ _ _ _)).bind fun _ =>
        keeps_of_readOnly fun _ => rfl

/-- The first administrator is created on a store without users only. -/
theorem bootstrapApp_serves (payload : CreateBootstrapAdminRequest) :
    Triple (fun app => app = app₀) (bootstrapApp argon2 env payload)
      (fun _ => Serves argon2 none
        (fun m => m ∈ (Request.bootstrapAdmin payload).act env) app₀)
      (fun _ => Serves argon2 none
        (fun m => m ∈ (Request.bootstrapAdmin payload).act env) app₀) := by
  refine (triple_get app₀).bind fun app => Triple.assume fun happ => ?_
  subst happ
  by_cases husers : app.identities.hasUsers = true
  · rw [if_pos husers]
    exact triple_of_keeps ((keeps_recordAudit _ _ _ _ _ _).bind fun _ => keeps_fail _)
  · rw [if_neg husers]
    rcases hcreate : IdentityStore.createUser argon2 env.salt payload.userId payload.username
        .admin none payload.password app.identities with ⟨result, identities⟩
    have hmove : { app with identities } = (AppMove.bootstrapAdmin env.salt payload.userId
        payload.username payload.password).run argon2 app := by
      rw [AppMove.run, hcreate]
    have hperm : (AppMove.bootstrapAdmin env.salt payload.userId payload.username
        payload.password).Permitted none app := ⟨rfl, by simpa using husers⟩
    cases result with
    | error e =>
      exact Triple.bind (setIdentities_serves _ hmove hperm rfl) fun _ =>
        (keeps_recordAudit _ _ _ _ _ _).bind fun _ => keeps_fail _
    | ok user =>
      exact Triple.bind (setIdentities_serves _ hmove hperm rfl) fun _ =>
        (keeps_lift _).bind fun s => (keeps_recordAudit _ _ _ _ _ _).bind fun _ => keeps_pure s

theorem bootstrapAdmin_serves (payload : CreateBootstrapAdminRequest) (state : ApiState) :
    Serves argon2 none (fun m => m ∈ (Request.bootstrapAdmin payload).act env) state.app
      (bootstrapAdmin argon2 env payload state).2.app := by
  have hlock : Triple (fun s => s = state) (lockApp (bootstrapApp argon2 env payload))
      (fun _ => Since argon2 none _ state.app) (fun _ => Since argon2 none _ state.app) :=
    triple_of_final fun s hs => by
      subst hs
      rw [lockApp_run]
      exact (bootstrapApp_serves payload).final rfl
  have hall := hlock.bind fun s => keeps_issueSession s env
  exact hall.final rfl

end Unauthenticated

/-! ## Every request -/

section Handle

variable (argon2 : Argon2) (env : Env)

/-- A handler that reads only leaves the application as it was. -/
theorem authenticated_reads {α : Type} {headers : HeaderMap} {m : Session → AppM α}
    (h : ∀ session app₀, Keeps (fun app => app = app₀) (m session)) (state : ApiState) :
    (authenticated headers env m state).2.app = state.app := by
  refine Triple.final (P := fun s => s = state) (F := fun s : ApiState => s.app = state.app)
    ?_ rfl
  refine Triple.bind (Q := fun _ s => s.app = state.app)
    (triple_of_final fun s hs => by rw [authenticateRequest_app, hs]) fun session => ?_
  refine triple_of_final fun s hs => ?_
  rw [lockApp_run]
  exact (h session state.app).final hs

/-- The request only asks for what is there. -/
def Request.Reads : Request → Prop
  | health | listAudit _ _ | listCustomers _ | listUsers _ | listAccounts _ | getAccount _ _
  | listAccountTransactions _ _ _ => True
  | _ => False

theorem handle_reads {request : Request} (h : request.Reads) (state : ApiState) :
    (handle argon2 env request state).2.app = state.app := by
  cases request with
  | health => rfl
  | listAudit headers query =>
    rw [handle, map_run]
    exact authenticated_reads env (fun _ _ => (keeps_lift _).bind fun _ =>
      keeps_get.bind fun _ => (keeps_lift _).bind fun _ => (keeps_lift _).bind fun _ =>
        keeps_pure _) state
  | listCustomers headers =>
    rw [handle, map_run]
    exact authenticated_reads env (fun _ _ => (keeps_lift _).bind fun _ =>
      keeps_get.bind fun _ => keeps_pure _) state
  | listUsers headers =>
    rw [handle, map_run]
    exact authenticated_reads env (fun _ _ => (keeps_lift _).bind fun _ =>
      keeps_get.bind fun _ => keeps_pure _) state
  | listAccounts headers =>
    rw [handle, map_run]
    exact authenticated_reads env (fun _ _ => keeps_get.bind fun _ => keeps_lift _) state
  | getAccount headers accountId =>
    rw [handle, map_run]
    exact authenticated_reads env (fun _ _ => keeps_get.bind fun _ =>
      (keeps_lift _).bind fun _ => (keeps_readAccount _ _).bind fun _ => keeps_pure _) state
  | listAccountTransactions headers accountId query =>
    rw [handle, map_run]
    exact authenticated_reads env (fun _ _ => keeps_get.bind fun _ =>
      (keeps_lift _).bind fun _ => (keeps_lift _).bind fun _ => (keeps_lift _).bind fun _ =>
        (keeps_readAccount _ _).bind fun _ => keeps_pure _) state
  | _ => cases h

/-- Whatever a handler answers, it made at most the one call that the
request asks for, with the permission of the request's session, and left
records. -/
theorem handle_serves (request : Request) (state : ApiState) :
    Serves argon2 (state.session? env request) (fun m => m ∈ request.act env) state.app
      (handle argon2 env request state).2.app := by
  cases request with
  | health | listAudit | listCustomers | listUsers | listAccounts | getAccount
  | listAccountTransactions =>
    rw [handle_reads argon2 env (by trivial)]
    exact Serves.refl _
  | bootstrapAdmin payload =>
    rw [handle, map_run]
    exact bootstrapAdmin_serves payload state
  | login payload =>
    rw [handle, map_run]
    exact (keeps_login payload).final (Serves.refl _)
  | logout headers =>
    rw [handle, map_run]
    exact (keeps_logout headers).final (Serves.refl _)
  | createCustomer headers payload =>
    rw [handle, map_run]
    exact createCustomer_serves payload state
  | createUser headers payload =>
    rw [handle, map_run]
    exact createUser_serves payload state
  | createAccount headers payload =>
    rw [handle, map_run]
    exact createAccount_serves payload state
  | deposit headers accountId payload =>
    rw [handle, map_run]
    refine (mutateAccountMoney_serves (.deposit accountId (.fromCents payload.amountCents)
      env.postedAt) (fun bank => ?_) (fun _ _ h => h) state).mono ?_
    · rw [BankOp.run, map_run]
    · intro m hm; exact hm ▸ rfl
  | withdraw headers accountId payload =>
    rw [handle, map_run]
    refine (mutateAccountMoney_serves (.withdraw accountId (.fromCents payload.amountCents)
      env.postedAt) (fun bank => ?_) (fun _ _ h => h) state).mono ?_
    · rw [BankOp.run, map_run]
    · intro m hm; exact hm ▸ rfl
  | applyFee headers accountId payload =>
    rw [handle, map_run]
    refine (operateOnAccount_serves (.applyFee accountId (.fromCents payload.amountCents)
      env.postedAt) (fun bank => ?_)
      (fun _ _ h => authorize_ok_iff.mp h) state).mono ?_
    · rw [BankOp.run, map_run]
    · intro m hm; exact hm ▸ rfl
  | requestLoan headers accountId payload =>
    rw [handle, map_run]
    refine (operateOnAccount_serves (.requestLoan accountId (.fromCents payload.amountCents)
      env.postedAt) (fun bank => ?_)
      (fun _ _ h => authorize_ok_iff.mp h) state).mono ?_
    · rw [BankOp.run, map_run]
    · intro m hm; exact hm ▸ rfl
  | payLoan headers accountId payload =>
    rw [handle, map_run]
    refine (operateOnAccount_serves (.payLoan accountId (.fromCents payload.amountCents)
      env.postedAt) (fun bank => ?_)
      (fun _ _ h => ensureAccountMoneyAccess_ok_iff.mp h) state).mono ?_
    · rw [BankOp.run, map_run, map_run]
    · intro m hm; exact hm ▸ rfl
  | transfer headers payload =>
    rw [handle, map_run]
    exact transfer_serves payload state

end Handle

end Banck.Api
