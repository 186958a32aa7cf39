/-
Banck.Api.AuditTrail — the audit log of a server is what was committed.

A handler that changes something leaves one entry of a success, under the
lock of the application and after all that can fail (`opens_leaves`,
`Act.grows`). As the holder of that lock is the last that took it, the
successes of the log are, in order, the marks of the handlings that took it
(`audit_trail`).
-/
import Banck.Api.ServerAlone
import Banck.AppInvariants
import Banck.BankSteps

namespace Banck.Api

open Lib Mut Machine

/-! ## Marks -/

/-- What the log tells of a success: whose it was, what was done, and to
what. -/
structure Mark where
  actor : AuditActor
  action : AuditAction
  target : Option String
  deriving DecidableEq, Repr

/-- The successes of a log, in order. -/
def successes (entries : List AuditEntry) : List Mark :=
  (entries.filter fun entry => entry.outcome == .success).map fun entry =>
    ⟨entry.actor, entry.action, entry.target⟩

/-- The request asks for a change. -/
def Request.IsChange : Request → Prop
  | bootstrapAdmin _ | login _ | logout _ | createCustomer _ _ | createUser _ _
  | createAccount _ _ | deposit _ _ _ | withdraw _ _ _ | applyFee _ _ _ | requestLoan _ _ _
  | payLoan _ _ _ | transfer _ _ => True
  | health | listAudit _ _ | listCustomers _ | listUsers _ | listAccounts _ | getAccount _ _
  | listAccountTransactions _ _ _ => False

/-- What the log is to tell of a request that succeeds in the name of a
session. -/
def Request.mark (session : Session) : Request → Option Mark
  | bootstrapAdmin _ =>
      some ⟨.fromSession session, .bootstrapAdmin, userTarget session.userId⟩
  | login _ => some ⟨.fromSession session, .login, userTarget session.userId⟩
  | logout _ => some ⟨.fromSession session, .logout, userTarget session.userId⟩
  | createCustomer _ payload =>
      some ⟨.fromSession session, .createCustomer, some ("customer:" ++ toString payload.id)⟩
  | createUser _ payload => some ⟨.fromSession session, .createUser, userTarget payload.id⟩
  | createAccount _ payload =>
      some ⟨.fromSession session, .createAccount, accountTarget payload.id⟩
  | deposit _ accountId _ => some ⟨.fromSession session, .deposit, accountTarget accountId⟩
  | withdraw _ accountId _ => some ⟨.fromSession session, .withdraw, accountTarget accountId⟩
  | applyFee _ accountId _ => some ⟨.fromSession session, .fee, accountTarget accountId⟩
  | requestLoan _ accountId _ =>
      some ⟨.fromSession session, .loanRequest, accountTarget accountId⟩
  | payLoan _ accountId _ => some ⟨.fromSession session, .loanPayment, accountTarget accountId⟩
  | transfer _ payload =>
      some ⟨.fromSession session, .transfer, some ("account:" ++ toString payload.fromAccountId
        ++ "->account:" ++ toString payload.toAccountId)⟩
  | health | listAudit _ _ | listCustomers _ | listUsers _ | listAccounts _ | getAccount _ _
  | listAccountTransactions _ _ _ => none

/-- What the log is to tell of a handling: nothing before it has succeeded.
One that has only its session left to issue is sure to succeed. -/
def Handling.mark (handling : Handling) : Option Mark :=
  match handling.stage with
  | .issuing | .answered (.ok _) =>
      handling.session.bind fun session => handling.request.mark session
  | _ => none

theorem Request.mark_isSome {request : Request} (session : Session) :
    (request.mark session).isSome = true ↔ request.IsChange := by
  cases request <;> simp [Request.mark, Request.IsChange]

theorem Handling.mark_eq_some {handling : Handling} {mark : Mark} (h : handling.mark = some mark) :
    (∃ session, handling.session = some session ∧ handling.request.mark session = some mark) ∧
      (handling.stage = .issuing ∨ ∃ answer, handling.stage = .answered (.ok answer)) := by
  unfold Handling.mark at h
  split at h
  · next hstage => exact ⟨Option.bind_eq_some_iff.mp h, .inl hstage⟩
  · next answer hstage => exact ⟨Option.bind_eq_some_iff.mp h, .inr ⟨answer, hstage⟩⟩
  · cases h

theorem successes_append (entries more : List AuditEntry) :
    successes (entries ++ more) = successes entries ++ successes more := by
  simp [successes]

/-- The successes of a log with one more entry. -/
theorem successes_snoc (entries : List AuditEntry) (id now : Nat) (actor : AuditActor)
    (action : AuditAction) (outcome : AuditOutcome) (target : Option String) (message : String) :
    successes (entries ++ [⟨id, now, actor, action, outcome, target, message⟩]) =
      successes entries ++ if outcome = .success then [⟨actor, action, target⟩] else [] := by
  rw [successes_append]
  cases outcome <;> rfl

theorem successes_of_failures {entries : List AuditEntry}
    (h : ∀ entry ∈ entries, entry.outcome = .failure) : successes entries = [] := by
  simp only [successes, List.map_eq_nil_iff, List.filter_eq_nil_iff]
  intro entry hentry
  simp [h entry hentry]

theorem recordAudit_tells {actor : AuditActor} {action : AuditAction} {outcome : AuditOutcome}
    {target : Option String} {message : String} {now : Nat} {app app' : AppState} {u : Unit}
    (run : recordAudit actor action outcome target message now app = (.ok u, app')) :
    successes app'.auditLog.entries = successes app.auditLog.entries ++
      if outcome = .success then [⟨actor, action, target⟩] else [] := by
  obtain rfl := recordAudit_ok run
  exact successes_snoc _ _ _ _ _ _ _ _

/-! ## What a part of a handler leaves in the log -/

/-- The successes in the log are these. -/
def Tells (marks : List Mark) (app : AppState) : Prop := successes app.auditLog.entries = marks

/-- If it returns, the marks were added to the log; if it fails, none. -/
def Leaves {α : Type} (m : AppM α) (marks : List Mark) : Prop :=
  ∀ told, Triple (Tells told) m (fun _ => Tells (told ++ marks)) (fun _ => Tells told)

section Leaves

variable {α β : Type} {marks told : List Mark}

theorem keeps_onBank (m : BankM α) : Keeps (Tells told) (onBank m) :=
  triple_of_final fun app h => by rwa [onBank, zoom_run]

theorem Leaves.after {m : AppM α} {k : α → AppM β} (h : ∀ told, Keeps (Tells told) m)
    (hk : ∀ a, Leaves (k a) marks) : Leaves (m >>= k) marks :=
  fun told => (h told).bind fun a => hk a told

theorem leaves_nothing {m : AppM α} (h : ∀ told, Keeps (Tells told) m) : Leaves m [] := by
  intro told
  rw [List.append_nil]
  exact h told

/-- What a call of the identities returns, with the log as it was. -/
theorem onIdentities_returns {m : IdentityM α} {R : α → Prop}
    (h : ∀ store a store', m store = (.ok a, store') → R a) :
    Triple (Tells told) (onIdentities m) (fun a app => Tells told app ∧ R a)
      (fun _ => Tells told) := by
  intro app htold
  rw [onIdentities, zoom_run]
  rcases hrun : m app.identities with ⟨e | a, store⟩
  · refine ⟨fun b app' hok => (by cases hok), fun e' app' herr => ?_⟩
    obtain ⟨-, rfl⟩ := Prod.mk.inj herr
    exact htold
  · refine ⟨fun b app' hok => ?_, fun e' app' herr => (by cases herr)⟩
    obtain ⟨hb, rfl⟩ := Prod.mk.inj hok
    obtain rfl := Except.ok.inj hb
    exact ⟨htold, h _ _ _ hrun⟩

/-- What a call of the bank returns and leaves, with the log as it was. -/
theorem onBank_returns {m : BankM α} {P : Bank → Prop} {Q : α → Bank → Prop}
    (h : ∀ bank a bank', P bank → m bank = (.ok a, bank') → Q a bank') :
    Triple (fun app => Tells told app ∧ P app.bank) (onBank m)
      (fun a app => Tells told app ∧ Q a app.bank) (fun _ => Tells told) := by
  intro app happ
  rw [onBank, zoom_run]
  rcases hrun : m app.bank with ⟨e | a, bank⟩
  · refine ⟨fun b app' hok => (by cases hok), fun e' app' herr => ?_⟩
    obtain ⟨-, rfl⟩ := Prod.mk.inj herr
    exact happ.1
  · refine ⟨fun b app' hok => ?_, fun e' app' herr => (by cases herr)⟩
    obtain ⟨hb, rfl⟩ := Prod.mk.inj hok
    obtain rfl := Except.ok.inj hb
    exact ⟨happ.1, h _ _ _ happ.2 hrun⟩

/-- The record of a success, and the answer. -/
theorem leaves_recordSuccess (session : Session) (action : AuditAction) (target : Option String)
    (message : String) (env : Env) (a : α) :
    Leaves (do recordSuccess session action target message env; pure a)
      [⟨.fromSession session, action, target⟩] := by
  intro told app htold
  rw [bind_run, recordSuccess]
  rcases hrecord : recordAudit (.fromSession session) action .success target message env.auditedAt
    app with ⟨error | u, recorded⟩
  · obtain ⟨-, rfl⟩ := recordAudit_error hrecord
    refine ⟨fun b app' h => (by cases h), fun e app' h => ?_⟩
    obtain ⟨-, rfl⟩ := Prod.mk.inj h
    exact htold
  · refine ⟨fun b app' h => ?_, fun e app' h => (by cases h)⟩
    obtain ⟨-, rfl⟩ := Prod.mk.inj h
    have htells := recordAudit_tells hrecord
    rwa [if_pos rfl, show successes app.auditLog.entries = told from htold] at htells

end Leaves

/-! ## The work of a handler -/

section Work

variable {argon2 : Argon2} {env : Env} {request : Request} {headers : HeaderMap}

theorem operateOnAccount_leaves (headers : HeaderMap) (env : Env) (accountId : AccountId)
    (amountCents : I64) (action : AuditAction) (message : String)
    (allowed : AppState → Session → Except ApiError Unit) (operation : Money → BankM Unit) :
    ∃ m : Session → AppM AccountResponse,
      operateOnAccount headers env accountId amountCents action message allowed operation =
        authenticated headers env m ∧
      ∀ session, Leaves (m session) [⟨.fromSession session, action, accountTarget accountId⟩] :=
  ⟨_, rfl, fun session => .after (fun _ => keeps_get) fun _ =>
    .after (fun _ => keeps_lift _) fun _ => .after (fun _ => keeps_lift _) fun _ =>
      .after (fun _ => keeps_onBank _) fun _ => .after (fun _ => keeps_onBank _) fun _ =>
        leaves_recordSuccess session _ _ _ env _⟩

theorem createCustomer_leaves (headers : HeaderMap) (env : Env) (payload : CreateCustomerRequest) :
    ∃ m : Session → AppM CustomerResponse,
      createCustomer headers env payload = authenticated headers env m ∧
      ∀ session, Leaves (m session)
        [⟨.fromSession session, .createCustomer, some ("customer:" ++ toString payload.id)⟩] := by
  refine ⟨_, rfl, fun session => .after (fun _ => keeps_lift _) fun _ told => ?_⟩
  refine (onIdentities_returns (R := fun customer => customer.id = payload.id) ?_).bind
    fun customer => Triple.assume fun hid => ?_
  · intro store customer store' hok
    obtain ⟨-, _, _, -, -, rfl, -⟩ := IdentityStore.createCustomer_ok_iff.mp hok
    rfl
  · rw [← hid]
    exact leaves_recordSuccess session _ _ _ env _ told

theorem createUser_leaves (argon2 : Argon2) (headers : HeaderMap) (env : Env)
    (payload : CreateUserRequest) :
    ∃ m : Session → AppM UserResponse,
      createUser argon2 headers env payload = authenticated headers env m ∧
      ∀ session, Leaves (m session)
        [⟨.fromSession session, .createUser, userTarget payload.id⟩] := by
  refine ⟨_, rfl, fun session => .after (fun _ => keeps_lift _) fun _ told => ?_⟩
  refine (onIdentities_returns (R := fun user => user.id = payload.id) ?_).bind
    fun user => Triple.assume fun hid => ?_
  · intro store user store' hok
    obtain ⟨-, -, -, _, _, -, -, -, rfl, -⟩ := IdentityStore.createUser_ok_iff.mp hok
    rfl
  · rw [← hid]
    exact leaves_recordSuccess session _ _ _ env _ told

theorem createAccount_leaves (headers : HeaderMap) (env : Env) (payload : CreateAccountRequest) :
    ∃ m : Session → AppM AccountResponse,
      createAccount headers env payload = authenticated headers env m ∧
      ∀ session, Leaves (m session)
        [⟨.fromSession session, .createAccount, accountTarget payload.id⟩] := by
  refine ⟨_, rfl, fun session => .after (fun _ => keeps_lift _) fun _ =>
    .after (fun _ => keeps_get) fun _ => .after (fun _ => keeps_lift _) fun _ =>
      .after (fun _ => keeps_lift _) fun _ told => ?_⟩
  -- the account that is opened, and read back, has the id that was asked for
  let Opened (bank : Bank) : Prop := ∀ account : Account,
    bank.accounts[payload.id]? = some account → account.id = payload.id
  refine Triple.bind (Q := fun _ app => Tells told app ∧ Opened app.bank) ?_ fun _ => ?_
  · refine (onBank_returns (P := fun _ => True) (Q := fun _ bank => Opened bank) ?_).weaken
      (fun _ h => ⟨h, trivial⟩) (fun _ _ h => h) (fun _ _ h => h)
    intro bank created bank' _ hok account hfound
    obtain ⟨-, -, -, _, _, -, -, -, rfl⟩ := Bank.createAccount_ok_iff.mp hok
    simp only [Bank.post, OrdMap.get_insert_self] at hfound
    obtain rfl := Option.some.inj hfound
    rfl
  · refine (onBank_returns (Q := fun account _ => account.id = payload.id) ?_).bind
      fun account => Triple.assume fun hid => ?_
    · intro bank account bank' hopened hok
      exact hopened account (Bank.readAccount_ok_iff.mp hok).1
    · rw [← hid]
      exact leaves_recordSuccess session _ _ _ env _ told

theorem transfer_leaves (headers : HeaderMap) (env : Env) (payload : TransferRequest) :
    ∃ m : Session → AppM TransferResponse,
      transfer headers env payload = authenticated headers env m ∧
      ∀ session, Leaves (m session) [⟨.fromSession session, .transfer,
        some ("account:" ++ toString payload.fromAccountId ++ "->account:"
          ++ toString payload.toAccountId)⟩] :=
  ⟨_, rfl, fun session => .after (fun _ => keeps_get) fun _ =>
    .after (fun _ => keeps_lift _) fun _ => .after (fun _ => keeps_lift _) fun _ =>
      .after (fun _ => keeps_onBank _) fun _ => .after (fun _ => keeps_onBank _) fun _ =>
        .after (fun _ => keeps_onBank _) fun _ => leaves_recordSuccess session _ _ _ env _⟩

/-- The handler of a request with a session leaves the mark of the request,
and that of one that only reads leaves nothing. -/
theorem opens_leaves (argon2 : Argon2) (env : Env) (h : request.OpensSession headers) :
    ∃ (α : Type) (m : Session → AppM α) (f : α → Response),
      handle argon2 env request = Mut.map f (authenticated headers env m) ∧
      ∀ session, Leaves (m session) (request.mark session).toList := by
  obtain ⟨hheaders, hlogout⟩ := h
  cases request with
  | health | bootstrapAdmin | login => cases hheaders
  | logout headers' => exact absurd rfl (hlogout headers')
  | createCustomer headers' payload =>
    obtain rfl := Option.some.inj hheaders
    obtain ⟨m, hm, hleaves⟩ := createCustomer_leaves headers' env payload
    exact ⟨_, m, _, congrArg (Mut.map Response.customer) hm, hleaves⟩
  | createUser headers' payload =>
    obtain rfl := Option.some.inj hheaders
    obtain ⟨m, hm, hleaves⟩ := createUser_leaves argon2 headers' env payload
    exact ⟨_, m, _, congrArg (Mut.map Response.user) hm, hleaves⟩
  | createAccount headers' payload =>
    obtain rfl := Option.some.inj hheaders
    obtain ⟨m, hm, hleaves⟩ := createAccount_leaves headers' env payload
    exact ⟨_, m, _, congrArg (Mut.map Response.account) hm, hleaves⟩
  | deposit headers' accountId payload | withdraw headers' accountId payload
  | applyFee headers' accountId payload | requestLoan headers' accountId payload
  | payLoan headers' accountId payload =>
    obtain rfl := Option.some.inj hheaders
    obtain ⟨m, hm, hleaves⟩ := operateOnAccount_leaves headers' env
      accountId payload.amountCents _ _ _ _
    exact ⟨_, m, _, congrArg (Mut.map Response.account) hm, hleaves⟩
  | transfer headers' payload =>
    obtain rfl := Option.some.inj hheaders
    obtain ⟨m, hm, hleaves⟩ := transfer_leaves headers' env payload
    exact ⟨_, m, _, congrArg (Mut.map Response.transfer) hm, hleaves⟩
  | listAudit headers' query =>
    obtain rfl := Option.some.inj hheaders
    exact ⟨_, _, _, rfl, fun session => leaves_nothing fun _ => (keeps_lift _).bind fun _ =>
      keeps_get.bind fun _ => (keeps_lift _).bind fun _ => (keeps_lift _).bind fun _ =>
        keeps_pure _⟩
  | listCustomers headers' | listUsers headers' =>
    obtain rfl := Option.some.inj hheaders
    exact ⟨_, _, _, rfl, fun session => leaves_nothing fun _ => (keeps_lift _).bind fun _ =>
      keeps_get.bind fun _ => keeps_pure _⟩
  | listAccounts headers' =>
    obtain rfl := Option.some.inj hheaders
    exact ⟨_, _, _, rfl, fun session => leaves_nothing fun _ => keeps_get.bind fun _ =>
      keeps_lift _⟩
  | getAccount headers' accountId =>
    obtain rfl := Option.some.inj hheaders
    exact ⟨_, _, _, rfl, fun session => leaves_nothing fun _ => keeps_get.bind fun _ =>
      (keeps_lift _).bind fun _ => (keeps_readAccount _ _).bind fun _ => keeps_pure _⟩
  | listAccountTransactions headers' accountId query =>
    obtain rfl := Option.some.inj hheaders
    exact ⟨_, _, _, rfl, fun session => leaves_nothing fun _ => keeps_get.bind fun _ =>
      (keeps_lift _).bind fun _ => (keeps_lift _).bind fun _ => (keeps_lift _).bind fun _ =>
        (keeps_readAccount _ _).bind fun _ => keeps_pure _⟩

/-- Work that succeeds adds the mark of its request to the log, and work
that fails adds no success. -/
theorem work_tells (h : request.OpensSession headers) (session : Session) (app : AppState) :
    let after := work argon2 env request session app
    successes after.2.auditLog.entries = successes app.auditLog.entries ++
      (Handling.mark ⟨request, some session, .answered after.1⟩).toList := by
  obtain ⟨α, m, f, hhandle, hleaves⟩ := opens_leaves argon2 env h
  cases htoken : bearerToken headers with
  | error error =>
    rw [work_error h htoken]
    simp [Handling.mark]
  | ok token =>
    simp only [work_run hhandle h.1 htoken]
    have hrun := hleaves session (successes app.auditLog.entries) app rfl
    rcases hm : m session app with ⟨e | a, app'⟩
    · have htells : successes app'.auditLog.entries = _ := hrun.2 e app' hm
      rw [htells]
      simp [Handling.mark, Except.mapError, Except.map]
    · have htells : successes app'.auditLog.entries = _ := hrun.1 a app' hm
      rw [htells]
      simp [Handling.mark, Except.mapError, Except.map]

end Work

/-! ## What an act leaves in the log -/

section Acts

variable {argon2 : Argon2} {env : Env} {handling handling' : Handling} {state state' : ApiState}

/-- The log grows by what the mark of the handling grows, and that only
under the lock of the application. -/
theorem Act.grows (act : Act argon2 env handling state handling' state') :
    ∃ grown : List Mark, handling'.mark.toList = handling.mark.toList ++ grown ∧
      successes state'.app.auditLog.entries = successes state.app.auditLog.entries ++ grown ∧
      (handling.takesApp = false → grown = []) := by
  cases act with
  | idle | allowed | throttled | opened | turnedAway | accepted | refused | countedSuccess
  | countedFailure | issued | drawing => exact ⟨[], by simp [Handling.mark], by simp, fun _ => rfl⟩
  | @health session => exact ⟨[], by cases session <;> rfl, by simp, fun _ => rfl⟩
  | @bootstrapped payload session _ made app run =>
    obtain ⟨-, user, identities, -, -, rfl⟩ := bootstrapApp_ok run
    exact ⟨[⟨.fromSession made, .bootstrapAdmin, userTarget made.userId⟩], rfl,
      successes_snoc _ _ _ _ _ _ _ _, nofun⟩
  | bootstrapFailed run =>
    obtain ⟨more, hentries, hfailures⟩ := bootstrapApp_failures run
    refine ⟨[], rfl, ?_, nofun⟩
    simp only [hentries, successes_append, successes_of_failures hfailures]
  | @loggedOut headers session _ app response run =>
    exact ⟨[⟨.fromSession session, .logout, userTarget session.userId⟩], rfl,
      recordAudit_tells run, nofun⟩
  | @unrecorded request session stage _ halt _ _ _ _ _ _ _ progress run =>
    obtain ⟨-, rfl⟩ := recordAudit_error run
    refine ⟨[], ?_, by simp, fun _ => rfl⟩
    rcases progress with rfl | ⟨refusal, rfl⟩ <;> rfl
  | @worked request headers session _ opens =>
    exact ⟨_, rfl, work_tells opens session state.app, nofun⟩
  | @loggedIn payload session _ app run =>
    exact ⟨[⟨.fromSession session, .login, userTarget session.userId⟩], rfl,
      recordAudit_tells run, nofun⟩
  | refusalRecorded run => exact ⟨[], rfl, recordAudit_tells run, nofun⟩

/-! ## How far a handling has come -/

/-- The handler has taken the lock of the application, or has answered. -/
def Stage.IsPast : Stage → Prop
  | arrived | waiting => False
  | checked _ | counted _ | issuing | answered _ => True

/-- What waits for the lock of the application has work to do under it. -/
def Handling.IsReady (handling : Handling) : Prop :=
  handling.stage = .waiting → (∃ payload, handling.request = .login payload) ∨
    handling.session ≠ none ∧ handling.request.headers ≠ none

/-- A change that was answered well was made in the name of a session. -/
def Handling.IsOwned (handling : Handling) : Prop :=
  ∀ answer, handling.stage = .answered (.ok answer) → handling.request.IsChange →
    handling.session ≠ none

theorem Act.stays_past (act : Act argon2 env handling state handling' state')
    (h : handling.stage.IsPast) : handling'.stage.IsPast := by
  cases act with
  | idle => exact h
  | health | bootstrapped | bootstrapFailed | allowed | throttled | opened | turnedAway
  | accepted | refused | loggedOut | worked => exact h.elim
  | unrecorded | countedSuccess | countedFailure | loggedIn | refusalRecorded | issued
  | drawing => trivial

/-- An act under the lock of the application is not the last before it. -/
theorem Act.past (act : Act argon2 env handling state handling' state') (hready : handling.IsReady)
    (htakes : handling.takesApp = true) : handling'.stage.IsPast := by
  cases act with
  | idle _ _ rests =>
    obtain ⟨request, session, stage⟩ := handling
    cases stage with
    | arrived => exact absurd rfl rests.1
    | waiting =>
      obtain ⟨hlogin, hnone⟩ := rests.2 rfl
      rcases hready rfl with ⟨payload, hpayload⟩ | ⟨hsession, hheaders⟩
      · exact absurd hpayload (hlogin payload)
      · exact absurd hnone (not_or.mpr ⟨hsession, hheaders⟩)
    | checked | counted | issuing | answered => trivial
  | @opened request _ _ _ _ _ reads =>
    cases request with
    | bootstrapAdmin => cases reads
    | _ => cases htakes
  | allowed => cases htakes
  | health | bootstrapped | bootstrapFailed | throttled | turnedAway | accepted | refused
  | loggedOut | unrecorded | worked | countedSuccess | countedFailure | loggedIn
  | refusalRecorded | issued | drawing => trivial

theorem Act.ready (act : Act argon2 env handling state handling' state') (h : handling.IsReady) :
    handling'.IsReady := by
  cases act with
  | idle => exact h
  | allowed => exact fun _ => .inl ⟨_, rfl⟩
  | opened reads => exact fun _ => .inr ⟨by simp, by rw [reads]; simp⟩
  | health | bootstrapped | bootstrapFailed | throttled | turnedAway | accepted | refused
  | loggedOut | unrecorded | worked | countedSuccess | countedFailure | loggedIn
  | refusalRecorded | issued | drawing => exact nofun

theorem Act.owned (act : Act argon2 env handling state handling' state') (h : handling.IsOwned) :
    handling'.IsOwned := by
  cases act with
  | idle => exact h
  | health => exact fun _ _ hchange => hchange.elim
  | loggedOut | worked | issued => exact fun _ _ _ => by simp
  | bootstrapped | bootstrapFailed | allowed | throttled | opened | turnedAway | accepted
  | refused | unrecorded | countedSuccess | countedFailure | loggedIn | refusalRecorded
  | drawing =>
    intro answer hstage
    cases hstage

end Acts

/-! ## The invariant -/

namespace Server

/-- The mark of the `i`-th handling. -/
def mark (server : Server) (i : Nat) : Option Mark := server.handlings[i]?.bind Handling.mark

/-- The handlings that took the lock of the application did so once each,
the holder last; and the successes of the log are their marks. -/
structure Logged (server : Server) : Prop where
  exclusive : server.Exclusive
  last : ∀ i, server.holder = some i → ∃ before, server.acquired = before ++ [i]
  nodup : server.acquired.Nodup
  past : ∀ i ∈ server.acquired, ∃ handling, server.handlings[i]? = some handling ∧
    handling.stage.IsPast
  ready : ∀ (i : Nat) (handling : Handling), server.handlings[i]? = some handling →
    handling.IsReady ∧ handling.IsOwned
  tells : successes server.state.app.auditLog.entries = server.acquired.filterMap server.mark
  committed : ∀ i, server.mark i ≠ none → i ∈ server.acquired

variable {argon2 : Argon2} {env : Env} {server server' : Server} {event : Event} {i : Nat}
  {handling handling' : Handling} {state : ApiState}

theorem logged_new : (new AppState.new).Logged := by
  refine ⟨exclusive_new _, ?_, List.nodup_nil, ?_, ?_, rfl, ?_⟩
  · intro i h
    cases h
  · intro i h
    cases h
  · intro i handling h
    simp [new] at h
  · intro i h
    simp [mark, new] at h

/-- A handling that is free to take the lock has not taken it before. -/
theorem Logged.not_acquired (h : server.Logged) (found : server.handlings[i]? = some handling)
    (htakes : handling.takesApp = true) (hholder : server.holder = none) :
    i ∉ server.acquired ∧ handling.mark = none := by
  have hnot : handling.stage.holdsApp = false := by
    by_contra hholds
    have := (h.exclusive i).mpr ⟨handling, found, by simpa using hholds⟩
    rw [hholder] at this
    cases this
  obtain ⟨request, session, stage⟩ := handling
  cases stage with
  | checked | counted | issuing => cases hnot
  | answered => cases htakes
  | arrived | waiting =>
    refine ⟨fun hmem => ?_, rfl⟩
    obtain ⟨other, hother, hpast⟩ := h.past i hmem
    obtain rfl := Option.some.inj (found.symm.trans hother)
    exact hpast

theorem mark_put (found : server.handlings[i]? = some handling) (j : Nat) :
    (server.put i handling handling' state).mark j =
      if i = j then handling'.mark else server.mark j := by
  unfold mark
  rw [getElem?_put found]
  split <;> rfl

/-- Where only the mark of `i` changed, the marks of the others are as they
were. -/
theorem filterMap_mark_put (found : server.handlings[i]? = some handling) {others : List Nat}
    (hi : i ∉ others) :
    others.filterMap (server.put i handling handling' state).mark =
      others.filterMap server.mark := by
  refine List.filterMap_congr fun j hj => ?_
  have hij : i ≠ j := fun hij => hi (by rw [hij]; exact hj)
  rw [mark_put found, if_neg hij]

/-- The last that took the lock acts: its mark grows at the end. -/
theorem filterMap_mark_last (found : server.handlings[i]? = some handling) {others : List Nat}
    (hi : i ∉ others) {grown : List Mark}
    (hmark : handling'.mark.toList = handling.mark.toList ++ grown) :
    (others ++ [i]).filterMap (server.put i handling handling' state).mark =
      (others ++ [i]).filterMap server.mark ++ grown := by
  have hnew : [i].filterMap (server.put i handling handling' state).mark =
      handling'.mark.toList := by
    simp only [List.filterMap_cons, mark_put found, if_pos, List.filterMap_nil]
    cases handling'.mark <;> rfl
  have hold : [i].filterMap server.mark = handling.mark.toList := by
    simp only [List.filterMap_cons, mark, found, Option.bind_some, List.filterMap_nil]
    cases handling.mark <;> rfl
  rw [List.filterMap_append, List.filterMap_append, filterMap_mark_put found hi, hnew, hold, hmark,
    List.append_assoc]

theorem Logged.tells_put (h : server.Logged) (found : server.handlings[i]? = some handling)
    (free : ¬ server.Blocks i handling)
    (act : Act argon2 env handling server.state handling' state) :
    successes state.app.auditLog.entries =
      (server.put i handling handling' state).acquired.filterMap
        (server.put i handling handling' state).mark := by
  obtain ⟨grown, hmark, hentries, hquiet⟩ := act.grows
  rw [hentries, h.tells]
  cases htakes : handling.takesApp with
  | false =>
    -- without the lock nothing is logged
    obtain rfl := hquiet htakes
    have hacquired : (server.put i handling handling' state).acquired = server.acquired := by
      simp [put, htakes]
    have hsame : handling'.mark = handling.mark := by
      rw [List.append_nil] at hmark
      cases h' : handling'.mark <;> cases h'' : handling.mark <;> simp_all
    rw [hacquired, List.append_nil]
    refine List.filterMap_congr fun j _ => ?_
    rw [mark_put found]
    split
    · next hij =>
      subst hij
      simp only [mark, found, Option.bind_some, hsame]
    · rfl
  | true =>
    cases hholder : server.holder with
    | none =>
      obtain ⟨hnew, hnone⟩ := h.not_acquired found htakes hholder
      have hacquired : (server.put i handling handling' state).acquired =
          server.acquired ++ [i] := by simp [put, htakes, hholder]
      rw [hacquired, filterMap_mark_last found hnew hmark, List.filterMap_append]
      simp [mark, found, hnone]
    | some j =>
      obtain rfl : j = i := by
        by_contra hji
        exact free ⟨htakes, by simp [hholder], by simp [hholder, hji]⟩
      obtain ⟨before, hbefore⟩ := h.last j hholder
      have hacquired : (server.put j handling handling' state).acquired = before ++ [j] := by
        simp [put, hholder, hbefore]
      have hnew : j ∉ before := by
        have hnodup := h.nodup
        rw [hbefore, List.nodup_append] at hnodup
        exact fun hmem => hnodup.2.2 j hmem j (by simp) rfl
      rw [hacquired, hbefore, filterMap_mark_last found hnew hmark]

/-- The lock is taken at the end of the list, once. -/
theorem Logged.acquires (h : server.Logged) (found : server.handlings[i]? = some handling)
    (free : ¬ server.Blocks i handling) (handling' : Handling) (state : ApiState) :
    let after := server.put i handling handling' state
    (∀ j, after.holder = some j → ∃ before, after.acquired = before ++ [j]) ∧
      after.acquired.Nodup ∧
      (∀ j, j ∈ after.acquired ↔ j ∈ server.acquired ∨ j = i ∧ handling.takesApp = true) := by
  intro after
  cases htakes : handling.takesApp with
  | false =>
    have hacquired : after.acquired = server.acquired := by simp [after, put, htakes]
    have hholder : after.holder = server.holder := by simp [after, put, htakes]
    rw [hacquired, hholder]
    exact ⟨h.last, h.nodup, by simp⟩
  | true =>
    have hafter : ∀ j, after.holder = some j → j = i := by
      intro j hj
      simp only [after, put, htakes, if_true] at hj
      split at hj
      · exact (Option.some.inj hj).symm
      · cases hj
    cases hholder : server.holder with
    | none =>
      have hacquired : after.acquired = server.acquired ++ [i] := by
        simp [after, put, htakes, hholder]
      obtain ⟨hnew, -⟩ := h.not_acquired found htakes hholder
      rw [hacquired]
      refine ⟨fun j hj => ⟨server.acquired, by rw [hafter j hj]⟩, ?_, by simp⟩
      rw [List.nodup_append]
      refine ⟨h.nodup, List.nodup_singleton i, fun a ha b hb => ?_⟩
      obtain rfl := List.mem_singleton.mp hb
      exact fun hab => hnew (hab ▸ ha)
    | some k =>
      obtain rfl : k = i := by
        by_contra hki
        exact free ⟨htakes, by simp [hholder], by simp [hholder, hki]⟩
      have hacquired : after.acquired = server.acquired := by simp [after, put, hholder]
      obtain ⟨before, hbefore⟩ := h.last k hholder
      rw [hacquired]
      refine ⟨fun j hj => ⟨before, by rw [hafter j hj, hbefore]⟩, h.nodup, fun j => ?_⟩
      rw [hbefore]
      simp

theorem Logged.put (h : server.Logged) (found : server.handlings[i]? = some handling)
    (free : ¬ server.Blocks i handling)
    (act : Act argon2 env handling server.state handling' state) :
    (server.put i handling handling' state).Logged := by
  obtain ⟨hlast, hnodup, hacquired⟩ := h.acquires found free handling' state
  obtain ⟨hready, howned⟩ := h.ready i handling found
  refine ⟨exclusive_put found free act h.exclusive, hlast, hnodup, ?_, ?_,
    h.tells_put found free act, ?_⟩
  · intro j hj
    rw [getElem?_put found]
    split
    · next hij =>
      subst hij
      refine ⟨handling', rfl, ?_⟩
      rcases (hacquired i).mp hj with hbefore | ⟨-, htakes⟩
      · obtain ⟨other, hother, hpast⟩ := h.past i hbefore
        obtain rfl := Option.some.inj (found.symm.trans hother)
        exact act.stays_past hpast
      · exact act.past hready htakes
    · next hij =>
      rcases (hacquired j).mp hj with hbefore | ⟨hji, -⟩
      · exact h.past j hbefore
      · exact absurd hji.symm hij
  · intro j other hother
    rw [getElem?_put found] at hother
    split at hother
    · obtain rfl := Option.some.inj hother
      exact ⟨act.ready hready, act.owned howned⟩
    · exact h.ready j other hother
  · intro j hmark
    rw [hacquired]
    rw [mark_put found] at hmark
    split at hmark
    · next hij =>
      subst hij
      obtain ⟨grown, hgrown, -, hquiet⟩ := act.grows
      cases htakes : handling.takesApp with
      | true => exact .inr ⟨rfl, rfl⟩
      | false =>
        obtain rfl := hquiet htakes
        refine .inl (h.committed i ?_)
        intro hnone
        have hself : server.mark i = handling.mark := by simp [mark, found]
        rw [← hself, hnone, List.append_nil] at hgrown
        cases hmark' : handling'.mark with
        | none => exact hmark hmark'
        | some mark' =>
          rw [hmark'] at hgrown
          cases hgrown
    · exact .inl (h.committed j hmark)

theorem Logged.moves (h : server.Logged) (hmove : Moves argon2 server event server') :
    server'.Logged := by
  cases hmove with
  | waits => exact h
  | acts found free act => exact h.put found free act
  | arrives request =>
    have hmove : Moves argon2 server (.arrive request)
        { server with handlings := server.handlings ++ [⟨request, none, .arrived⟩] } :=
      .arrives request
    have hold : ∀ (j : Nat) (handling : Handling), server.handlings[j]? = some handling →
        (server.handlings ++ [⟨request, none, .arrived⟩])[j]? = some handling := by
      intro j handling hfound
      rw [List.getElem?_append_left (List.getElem?_eq_some_iff.mp hfound).1, hfound]
    have hmarks : ({ server with
        handlings := server.handlings ++ [⟨request, none, .arrived⟩] } : Server).mark =
          server.mark := by
      funext j
      unfold mark
      cases hfound : server.handlings[j]? with
      | some handling => rw [hold j handling hfound]
      | none =>
        rw [List.getElem?_append_right (List.getElem?_eq_none_iff.mp hfound),
          List.getElem?_singleton]
        split <;> rfl
    refine ⟨exclusive_moves hmove h.exclusive, h.last, h.nodup, ?_, ?_, ?_, ?_⟩
    · intro j hj
      obtain ⟨handling, hfound, hpast⟩ := h.past j hj
      exact ⟨handling, hold j handling hfound, hpast⟩
    · intro j handling hfound
      rcases hmove.handling_cases hfound with hbefore | ⟨request', -, rfl⟩ | ⟨env, _, hevent, -⟩
      · exact h.ready j handling hbefore
      · exact ⟨nofun, fun answer hstage => by cases hstage⟩
      · cases hevent
    · rw [hmarks]
      exact h.tells
    · rw [hmarks]
      exact h.committed

theorem logged_after (argon2 : Argon2) (events : List Event) : (after argon2 events).Logged :=
  after_invariant logged_new (fun _ _ _ hmove h => h.moves hmove) events

/-- Entries of the log are added and never removed or changed. -/
theorem after_entries (argon2 : Argon2) (events more : List Event) :
    (after argon2 events).state.app.auditLog.entries <+:
      (after argon2 (events ++ more)).state.app.auditLog.entries := by
  rw [after, after, final_append]
  refine final_invariant (I := fun server =>
      (after argon2 events).state.app.auditLog.entries <+: server.state.app.auditLog.entries)
    (step argon2) (fun server event h => h.trans ?_) more _ (List.prefix_refl _)
  have hmove := step_moves argon2 server event
  generalize (step argon2 server event).2 = server' at hmove
  cases hmove with
  | arrives | waits => exact List.prefix_refl _
  | acts found free act => exact act.serves.entries

end Server

/-! ## The theorem -/

open Server

/-- Whatever requests come to a new server and however their handlers take
turns: the handlings that took the lock of the application are in the
order in which they did, each once; the successes of the log are, in this
order, the marks of those among them that succeeded; every change that is
answered well is among them and has a mark; and what the log holds it holds
for ever. -/
theorem audit_trail (argon2 : Argon2) (events : List Event) :
    let server := after argon2 events
    let entries := server.state.app.auditLog.entries
    server.acquired.Nodup ∧
    successes entries = server.acquired.filterMap server.mark ∧
    (∀ (i : Nat) (handling : Handling) (answer : Response), server.handlings[i]? = some handling →
      handling.stage = .answered (.ok answer) → handling.request.IsChange →
      i ∈ server.acquired ∧ ∃ session, handling.session = some session ∧
        ∃ mark, handling.request.mark session = some mark ∧ server.mark i = some mark) ∧
    (∀ i, server.mark i ≠ none → ∃ handling, server.handlings[i]? = some handling ∧
      handling.request.IsChange ∧
      (handling.stage = .issuing ∨ ∃ answer, handling.stage = .answered (.ok answer))) ∧
    (∀ more, entries <+: (after argon2 (events ++ more)).state.app.auditLog.entries) := by
  intro server entries
  have hlogged := logged_after argon2 events
  refine ⟨hlogged.nodup, hlogged.tells, ?_, ?_, after_entries argon2 events⟩
  · intro i handling answer hfound hstage hchange
    obtain ⟨-, howned⟩ := hlogged.ready i handling hfound
    obtain ⟨session, hsession⟩ := Option.ne_none_iff_exists'.mp (howned answer hstage hchange)
    obtain ⟨mark, hmark⟩ := Option.isSome_iff_exists.mp
      ((Request.mark_isSome session).mpr hchange)
    have hself : server.mark i = some mark := by
      simp only [Server.mark, server, hfound, Option.bind_some, Handling.mark, hstage, hsession,
        hmark]
    exact ⟨hlogged.committed i (by rw [hself]; simp), session, hsession, mark, hmark, hself⟩
  · intro i hmark
    cases hfound : server.handlings[i]? with
    | none => exact absurd (by simp [Server.mark, hfound]) hmark
    | some handling =>
      obtain ⟨mark, hself⟩ := Option.ne_none_iff_exists'.mp hmark
      simp only [Server.mark, hfound, Option.bind_some] at hself
      obtain ⟨⟨session, -, hrequest⟩, hstage⟩ := Handling.mark_eq_some hself
      have hchange := (Request.mark_isSome session).mp (by rw [hrequest]; rfl)
      exact ⟨handling, rfl, hchange, hstage⟩

end Banck.Api
