/-
Banck.Api.ServerSteps — what one act, and one event, can do.

A request is one of four whose handlers have sections of their own, or its
handler looks for a session and then works on the application
(`Request.bySections`). `Act` lists what one act can be, with all that is
known of it, and `act_spec` says that it is complete. An event adds a
handling, lets one act, or finds none that may (`Server.Moves`); so what
holds at first and is kept by each `Act` holds in every state of a server
(`Server.after_invariant`). The first such invariant is that at most one
handling is between two acts under the lock of the application
(`Server.Exclusive`).
-/
import Banck.Api.HandlerMoves
import Banck.Api.Server
import Banck.Api.SessionTheorems
import Banck.AuditTheorems
import Banck.IdentityTheorems

namespace Banck.Api

open Lib Mut Machine

/-! ## Kinds of requests -/

/-- The handler first looks for a session, and does no more under the lock
of the sessions. -/
def Request.OpensSession (request : Request) (headers : HeaderMap) : Prop :=
  request.headers = some headers ∧ ∀ headers', request ≠ .logout headers'

theorem Request.bySections {P : Request → Prop} (health : P .health)
    (bootstrapAdmin : ∀ payload, P (.bootstrapAdmin payload))
    (login : ∀ payload, P (.login payload)) (logout : ∀ headers, P (.logout headers))
    (opens : ∀ request headers, request.OpensSession headers → P request)
    (request : Request) : P request := by
  cases request with
  | health => exact health
  | bootstrapAdmin payload => exact bootstrapAdmin payload
  | login payload => exact login payload
  | logout headers => exact logout headers
  | _ => exact opens _ _ ⟨rfl, fun _ h => by cases h⟩

namespace Handling

variable {argon2 : Argon2} {env : Env} {state : ApiState} {request : Request}
  {headers : HeaderMap} {session : Option Session} {stage : Stage}

theorem enter_opens (h : request.OpensSession headers) :
    enter argon2 env ⟨request, session, stage⟩ state =
      goOn ⟨request, session, stage⟩ (fun found => ⟨request, some found, .waiting⟩)
        (authenticateRequest headers env.authenticatedAt state) := by
  obtain ⟨hheaders, hlogout⟩ := h
  cases request with
  | health | bootstrapAdmin | login => cases hheaders
  | logout headers' => exact absurd rfl (hlogout headers')
  | _ => obtain rfl := Option.some.inj hheaders; rfl

theorem proceed_opens (h : request.OpensSession headers) (found : Session) :
    proceed argon2 env ⟨request, some found, stage⟩ state =
      (⟨request, some found, .answered (work argon2 env request found state.app).1⟩,
        { state with app := (work argon2 env request found state.app).2 }) := by
  obtain ⟨hheaders, hlogout⟩ := h
  cases request with
  | health | bootstrapAdmin | login => cases hheaders
  | logout headers' => exact absurd rfl (hlogout headers')
  | _ => rfl

theorem proceed_none (h : request.OpensSession headers) :
    proceed argon2 env ⟨request, none, stage⟩ state = (⟨request, none, stage⟩, state) := by
  obtain ⟨hheaders, hlogout⟩ := h
  cases request with
  | health | bootstrapAdmin | login => cases hheaders
  | logout headers' => exact absurd rfl (hlogout headers')
  | _ => rfl

end Handling

/-! ## What an act can be -/

/-- Only sessions were removed. -/
def ApiSessionStore.Shrinks (before after : ApiSessionStore) : Prop :=
  ∀ (token : String) (stored : StoredApiSession),
    after.sessionsByToken[token]? = some stored → before.sessionsByToken[token]? = some stored

/-- The handler has no act for where it is: it has answered, or it is in a
place to which requests like its own do not come. -/
def Handling.Rests (handling : Handling) : Prop :=
  handling.stage ≠ .arrived ∧ (handling.stage = .waiting →
    (∀ payload, handling.request ≠ .login payload) ∧
      (handling.session = none ∨ handling.request.headers = none))

/-- An act of a handling, from a state to a state. -/
inductive Act (argon2 : Argon2) (env : Env) :
    Handling → ApiState → Handling → ApiState → Prop
  | idle (handling : Handling) (state : ApiState) (rests : handling.Rests) :
      Act argon2 env handling state handling state
  | health {session : Option Session} {state : ApiState} (response : HealthResponse) :
      Act argon2 env ⟨.health, session, .arrived⟩ state
        ⟨.health, session, .answered (.ok (.health response))⟩ state
  | bootstrapped {payload : CreateBootstrapAdminRequest} {session : Option Session}
      {state : ApiState} {made : Session} {app : AppState}
      (run : bootstrapApp argon2 env payload state.app = (.ok made, app)) :
      Act argon2 env ⟨.bootstrapAdmin payload, session, .arrived⟩ state
        ⟨.bootstrapAdmin payload, some made, .issuing⟩ { state with app }
  | bootstrapFailed {payload : CreateBootstrapAdminRequest} {session : Option Session}
      {state : ApiState} {error : ApiError} {app : AppState}
      (run : bootstrapApp argon2 env payload state.app = (.error error, app)) :
      Act argon2 env ⟨.bootstrapAdmin payload, session, .arrived⟩ state
        ⟨.bootstrapAdmin payload, session, .answered (.error (.error error))⟩
        { state with app }
  | allowed {payload : LoginRequest} {session : Option Session} {state : ApiState}
      {authThrottle : AuthThrottle}
      (run : AuthThrottle.ensureAllowed payload.username env.authenticatedAt
        state.authThrottle = (.ok (), authThrottle)) :
      Act argon2 env ⟨.login payload, session, .arrived⟩ state
        ⟨.login payload, session, .waiting⟩ { state with authThrottle }
  | throttled {payload : LoginRequest} {session : Option Session} {state : ApiState}
      {error : ApiError} {authThrottle : AuthThrottle}
      (run : AuthThrottle.ensureAllowed payload.username env.authenticatedAt
        state.authThrottle = (.error error, authThrottle)) :
      Act argon2 env ⟨.login payload, session, .arrived⟩ state
        ⟨.login payload, session, .answered (.error (.error error))⟩ { state with authThrottle }
  | opened {request : Request} {headers : HeaderMap} {session : Option Session}
      {state : ApiState} {found : Session} {sessions : ApiSessionStore}
      (reads : request.headers = some headers)
      (finds : (authenticateRequest headers env.authenticatedAt state).1 = .ok found)
      (shrinks : state.sessions.Shrinks sessions) :
      Act argon2 env ⟨request, session, .arrived⟩ state ⟨request, some found, .waiting⟩
        { state with sessions }
  | turnedAway {request : Request} {headers : HeaderMap} {session : Option Session}
      {state : ApiState} {halt : Halt} {sessions : ApiSessionStore}
      (reads : request.headers = some headers) (shrinks : state.sessions.Shrinks sessions) :
      Act argon2 env ⟨request, session, .arrived⟩ state
        ⟨request, session, .answered (.error halt)⟩ { state with sessions }
  | accepted {payload : LoginRequest} {session : Option Session} {state : ApiState}
      {found : Session}
      (run : state.app.identities.authenticate argon2 payload.username payload.password =
        .ok found) :
      Act argon2 env ⟨.login payload, session, .waiting⟩ state
        ⟨.login payload, some found, .checked none⟩ state
  | refused {payload : LoginRequest} {session : Option Session} {state : ApiState}
      {error : IdentityError}
      (run : state.app.identities.authenticate argon2 payload.username payload.password =
        .error error) :
      Act argon2 env ⟨.login payload, session, .waiting⟩ state
        ⟨.login payload, session, .checked (some error)⟩ state
  | loggedOut {headers : HeaderMap} {session : Session} {state : ApiState} {app : AppState}
      (response : LogoutResponse)
      (run : recordAudit (.fromSession session) .logout .success (userTarget session.userId)
        "logout succeeded" env.auditedAt state.app = (.ok (), app)) :
      Act argon2 env ⟨.logout headers, some session, .waiting⟩ state
        ⟨.logout headers, some session, .answered (.ok (.logout response))⟩ { state with app }
  | unrecorded {request : Request} {session : Option Session} {stage : Stage}
      {state : ApiState} {halt : Halt} {actor : AuditActor} {action : AuditAction}
      {outcome : AuditOutcome} {target : Option String} {message : String} {error : ApiError}
      {app : AppState} (progress : stage = .waiting ∨ ∃ refusal, stage = .counted refusal)
      (run : recordAudit actor action outcome target message env.auditedAt state.app =
        (.error error, app)) :
      Act argon2 env ⟨request, session, stage⟩ state
        ⟨request, session, .answered (.error halt)⟩ { state with app }
  | worked {request : Request} {headers : HeaderMap} {session : Session} {state : ApiState}
      (opens : request.OpensSession headers) :
      Act argon2 env ⟨request, some session, .waiting⟩ state
        ⟨request, some session, .answered (work argon2 env request session state.app).1⟩
        { state with app := (work argon2 env request session state.app).2 }
  | countedSuccess {payload : LoginRequest} {session : Option Session} {state : ApiState} :
      Act argon2 env ⟨.login payload, session, .checked none⟩ state
        ⟨.login payload, session, .counted none⟩
        { state with authThrottle := state.authThrottle.recordSuccess payload.username }
  | countedFailure {payload : LoginRequest} {session : Option Session} {state : ApiState}
      {error : IdentityError} :
      Act argon2 env ⟨.login payload, session, .checked (some error)⟩ state
        ⟨.login payload, session, .counted (some error)⟩
        { state with
          authThrottle := state.authThrottle.recordFailure payload.username env.failedAt }
  | loggedIn {payload : LoginRequest} {session : Session} {state : ApiState} {app : AppState}
      (run : recordAudit (.fromSession session) .login .success (userTarget session.userId)
        "login succeeded" env.auditedAt state.app = (.ok (), app)) :
      Act argon2 env ⟨.login payload, some session, .counted none⟩ state
        ⟨.login payload, some session, .issuing⟩ { state with app }
  | refusalRecorded {payload : LoginRequest} {session : Option Session} {state : ApiState}
      {error : IdentityError} {app : AppState}
      (run : recordAudit .system .login .failure (some ("username:" ++ payload.username))
        error.display env.auditedAt state.app = (.ok (), app)) :
      Act argon2 env ⟨.login payload, session, .counted (some error)⟩ state
        ⟨.login payload, session, .answered (.error (.error (.fromIdentity error)))⟩
        { state with app }
  | issued {request : Request} {session : Session} {state : ApiState} {issued : IssuedSession}
      {sessions : ApiSessionStore}
      (run : ApiSessionStore.issue session env.issuedAt env.drawnTokens state.sessions =
        (.ok issued, sessions)) :
      Act argon2 env ⟨request, some session, .issuing⟩ state
        ⟨request, some session, .answered (.ok (.session (.fromSession session issued)))⟩
        { state with sessions }
  | drawing {request : Request} {session : Session} {state : ApiState}
      {sessions : ApiSessionStore}
      (run : ApiSessionStore.issue session env.issuedAt env.drawnTokens state.sessions =
        (.error (), sessions)) :
      Act argon2 env ⟨request, some session, .issuing⟩ state ⟨request, some session, .issuing⟩
        { state with sessions }

theorem Act.request {argon2 : Argon2} {env : Env} {handling handling' : Handling}
    {state state' : ApiState} (act : Act argon2 env handling state handling' state') :
    handling'.request = handling.request := by
  cases act <;> rfl

section Spec

variable {argon2 : Argon2} {env : Env} {state : ApiState}

theorem ApiSessionStore.shrinks_removeExpired (store : ApiSessionStore) (now : Nat) :
    store.Shrinks (store.removeExpired now) := by
  intro token stored h
  rw [removeExpired, OrdMap.get_retain] at h
  exact (Option.filter_eq_some_iff.mp h).1

theorem ApiSessionStore.shrinks_revoke (store : ApiSessionStore) (token : String) :
    store.Shrinks (store.revoke token) := by
  intro token' stored h
  by_cases he : token' = token
  · rw [he, revoke, OrdMap.get_erase_self] at h
    cases h
  · rwa [revoke, OrdMap.get_erase_ne _ he] at h

/-- A section under the lock of the sessions changes nothing else. -/
theorem lockSessions_run {ε α : Type} (halt : ε → Halt) (m : Mut ApiSessionStore ε α)
    (state : ApiState) :
    lockSessions halt m state = ((m state.sessions).1.mapError halt,
      { state with sessions := (m state.sessions).2 }) := zoom_run _ _ _ _ _

theorem lockThrottle_run {α : Type} (m : Mut AuthThrottle ApiError α) (state : ApiState) :
    lockThrottle m state = ((m state.authThrottle).1.mapError .error,
      { state with authThrottle := (m state.authThrottle).2 }) := zoom_run _ _ _ _ _

theorem authenticateRequest_state (headers : HeaderMap) (now : Nat) (state : ApiState) :
    ∃ sessions, (authenticateRequest headers now state).2 = { state with sessions } ∧
      state.sessions.Shrinks sessions := by
  unfold authenticateRequest
  cases bearerToken headers with
  | error e => exact ⟨state.sessions, rfl, fun _ _ h => h⟩
  | ok token =>
    refine ⟨state.sessions.removeExpired now, ?_, state.sessions.shrinks_removeExpired now⟩
    simp only [Except.mapError, bind_run, lift_run]
    rw [lockSessions_run, ApiSessionStore.authenticate_state]

theorem endSession_cases (env : Env) (headers : HeaderMap) (state : ApiState) :
    ∃ sessions, state.sessions.Shrinks sessions ∧
      ((∃ error, endSession env headers state = (.error (.error error), { state with sessions })) ∨
        ∃ found, endSession env headers state = (.ok found, { state with sessions }) ∧
          (authenticateRequest headers env.authenticatedAt state).1 = .ok found) := by
  unfold endSession authenticateRequest
  cases bearerToken headers with
  | error e => exact ⟨state.sessions, fun _ _ h => h, .inl ⟨_, rfl⟩⟩
  | ok token =>
    have hpruned := state.sessions.shrinks_removeExpired env.authenticatedAt
    simp only [Except.mapError, bind_run, lift_run, lockSessions_run,
      ApiSessionStore.authenticate_state]
    cases (ApiSessionStore.authenticate token env.authenticatedAt state.sessions).1 with
    | error e => exact ⟨_, hpruned, .inl ⟨_, rfl⟩⟩
    | ok found =>
      exact ⟨_, fun token' stored h =>
        hpruned token' stored (ApiSessionStore.shrinks_revoke _ token token' stored h),
        .inr ⟨found, rfl, rfl⟩⟩

/-- With an id left, a record adds its entry. -/
theorem recordAudit_run {app : AppState} (h : app.auditLog.HasId) (actor : AuditActor)
    (action : AuditAction) (outcome : AuditOutcome) (target : Option String) (message : String)
    (now : Nat) :
    recordAudit actor action outcome target message now app =
      (.ok (), { app with
        auditLog := ⟨app.auditLog.entries ++
          [⟨app.auditLog.nextId, now, actor, action, outcome, target, message⟩],
          app.auditLog.nextId + 1⟩ }) := by
  rw [recordAudit, map_run, zoom_run, AuditLog.record_run h]
  rfl

/-- With no id left, it fails and changes nothing. -/
theorem recordAudit_full {app : AppState} (h : ¬ app.auditLog.HasId) (actor : AuditActor)
    (action : AuditAction) (outcome : AuditOutcome) (target : Option String) (message : String)
    (now : Nat) :
    ∃ error, recordAudit actor action outcome target message now app = (.error error, app) := by
  rw [recordAudit, map_run, zoom_run]
  rcases hrun : AuditLog.record actor action outcome target message now app.auditLog with
    ⟨e | entry, log⟩
  · obtain ⟨-, -, rfl⟩ := AuditLog.record_error hrun
    exact ⟨_, rfl⟩
  · exact absurd (AuditLog.record_ok_iff.mp hrun).1 h

theorem recordAudit_cases (actor : AuditActor) (action : AuditAction) (outcome : AuditOutcome)
    (target : Option String) (message : String) (now : Nat) (app : AppState) :
    (∃ app', recordAudit actor action outcome target message now app = (.ok (), app')) ∨
      ∃ error app', recordAudit actor action outcome target message now app =
        (.error error, app') := by
  by_cases h : app.auditLog.HasId
  · exact .inl ⟨_, recordAudit_run h _ _ _ _ _ _⟩
  · obtain ⟨error, hrun⟩ := recordAudit_full h actor action outcome target message now
    exact .inr ⟨error, app, hrun⟩

section RecordAudit

variable {actor : AuditActor} {action : AuditAction} {outcome : AuditOutcome}
  {target : Option String} {message : String} {now : Nat} {app app' : AppState}

theorem recordAudit_ok {u : Unit}
    (h : recordAudit actor action outcome target message now app = (.ok u, app')) :
    app' = { app with
      auditLog := ⟨app.auditLog.entries ++
        [⟨app.auditLog.nextId, now, actor, action, outcome, target, message⟩],
        app.auditLog.nextId + 1⟩ } := by
  by_cases hid : app.auditLog.HasId
  · rw [recordAudit_run hid] at h
    exact (Prod.mk.inj h).2.symm
  · obtain ⟨error, hfull⟩ := recordAudit_full hid actor action outcome target message now
    rw [hfull] at h
    cases h

theorem recordAudit_error {error : ApiError}
    (h : recordAudit actor action outcome target message now app = (.error error, app')) :
    ¬ app.auditLog.HasId ∧ app' = app := by
  by_cases hid : app.auditLog.HasId
  · rw [recordAudit_run hid] at h
    cases h
  · obtain ⟨other, hfull⟩ := recordAudit_full hid actor action outcome target message now
    rw [hfull] at h
    exact ⟨hid, (Prod.mk.inj h).2.symm⟩

end RecordAudit

/-- A record of a failure, and the error. -/
theorem recordFailure_run {α : Type} {target : Option String} {message : String} {now : Nat}
    {error : ApiError} {app app' : AppState} {result : Except ApiError α}
    (h : (do
      recordAudit .system .bootstrapAdmin .failure target message now
      Mut.fail error : AppM α) app = (result, app')) :
    (∃ e, result = .error e) ∧ app'.identities = app.identities ∧
      ∃ more, app'.auditLog.entries = app.auditLog.entries ++ more ∧
        ∀ entry ∈ more, entry.outcome = .failure := by
  rw [bind_run] at h
  rcases hrecord : recordAudit .system .bootstrapAdmin .failure target message now app with
    ⟨full | u, recorded⟩
  · obtain ⟨-, rfl⟩ := recordAudit_error hrecord
    rw [hrecord] at h
    obtain ⟨rfl, rfl⟩ := Prod.mk.inj h
    exact ⟨⟨full, rfl⟩, rfl, [], by simp, by simp⟩
  · obtain rfl := recordAudit_ok hrecord
    rw [hrecord] at h
    obtain ⟨rfl, rfl⟩ := Prod.mk.inj h
    exact ⟨⟨error, rfl⟩, rfl, _, rfl, by simp⟩

section Bootstrap

variable {payload : CreateBootstrapAdminRequest} {app app' : AppState}

/-- A request for the first administrator is refused, with the users as they
were; or it finds no users and creates one, and fails still if they cannot
log in or no id is left for the record; or it succeeds. -/
theorem bootstrapApp_cases {result : Except ApiError Session}
    (h : bootstrapApp argon2 env payload app = (result, app')) :
    (∃ error, result = .error error) ∧ app'.identities = app.identities ∧
      (∃ more, app'.auditLog.entries = app.auditLog.entries ++ more ∧
        ∀ entry ∈ more, entry.outcome = .failure) ∨
    app.identities.hasUsers = false ∧ ∃ user identities,
      IdentityStore.createUser argon2 env.salt payload.userId payload.username .admin none
        payload.password app.identities = (.ok user, identities) ∧
      ((∃ error, result = .error error) ∧ app' = { app with identities } ∧
          ((identities.authenticate argon2 payload.username payload.password).isOk = false ∨
            ¬ app.auditLog.HasId) ∨
        ∃ made, result = .ok made ∧
          identities.authenticate argon2 payload.username payload.password = .ok made ∧
          app' = { app with
            identities
            auditLog := ⟨app.auditLog.entries ++
              [⟨app.auditLog.nextId, env.auditedAt, .fromSession made, .bootstrapAdmin, .success,
                userTarget made.userId, "admin bootstrapped"⟩],
              app.auditLog.nextId + 1⟩ }) := by
  simp only [bootstrapApp, bind_run, get_run] at h
  by_cases husers : app.identities.hasUsers = true
  · rw [if_pos husers] at h
    exact .inl (recordFailure_run h)
  rw [if_neg husers] at h
  rcases hcreate : IdentityStore.createUser argon2 env.salt payload.userId payload.username
      .admin none payload.password app.identities with ⟨error | user, identities⟩
  · obtain rfl := IdentityStore.createUser_error hcreate
    rw [hcreate] at h
    exact .inl (recordFailure_run h)
  refine .inr ⟨by simpa using husers, user, identities, rfl, ?_⟩
  rw [hcreate] at h
  simp only [bind_run, modify_run, lift_run] at h
  cases hlogin : identities.authenticate argon2 payload.username payload.password with
  | error error =>
    rw [hlogin] at h
    obtain ⟨rfl, rfl⟩ := Prod.mk.inj h
    exact .inl ⟨⟨_, rfl⟩, rfl, .inl rfl⟩
  | ok made =>
    simp only [hlogin, Except.mapError] at h
    rcases hrecord : recordAudit (.fromSession made) .bootstrapAdmin .success
        (userTarget made.userId) "admin bootstrapped" env.auditedAt { app with identities } with
      ⟨full | u, recorded⟩
    · obtain ⟨hfull, rfl⟩ := recordAudit_error hrecord
      rw [hrecord] at h
      obtain ⟨rfl, rfl⟩ := Prod.mk.inj h
      exact .inl ⟨⟨full, rfl⟩, rfl, .inr hfull⟩
    · obtain rfl := recordAudit_ok hrecord
      rw [hrecord] at h
      obtain ⟨rfl, rfl⟩ := Prod.mk.inj h
      exact .inr ⟨made, rfl, rfl, rfl⟩

/-- The first administrator is created where no user is, and can log in. -/
theorem bootstrapApp_ok {made : Session}
    (h : bootstrapApp argon2 env payload app = (.ok made, app')) :
    app.identities.hasUsers = false ∧ ∃ user identities,
      IdentityStore.createUser argon2 env.salt payload.userId payload.username .admin none
        payload.password app.identities = (.ok user, identities) ∧
      identities.authenticate argon2 payload.username payload.password = .ok made ∧
      app' = { app with
        identities
        auditLog := ⟨app.auditLog.entries ++
          [⟨app.auditLog.nextId, env.auditedAt, .fromSession made, .bootstrapAdmin, .success,
            userTarget made.userId, "admin bootstrapped"⟩],
          app.auditLog.nextId + 1⟩ } := by
  rcases bootstrapApp_cases h with ⟨⟨_, herror⟩, -⟩ | ⟨husers, user, identities, hcreate, hends⟩
  · cases herror
  · rcases hends with ⟨⟨_, herror⟩, -⟩ | ⟨_, hmade, hlogin, happ⟩
    · cases herror
    · obtain rfl := Except.ok.inj hmade
      exact ⟨husers, user, identities, hcreate, hlogin, happ⟩

variable {error : ApiError}

/-- A failed request for the first administrator leaves the users as they
were, unless no id was left for its record. -/
theorem bootstrapApp_error (hargon : argon2.VerifiesOwnHashes)
    (h : bootstrapApp argon2 env payload app = (.error error, app')) :
    app'.identities = app.identities ∨ ¬ app.auditLog.HasId := by
  rcases bootstrapApp_cases h with ⟨-, hsame, -⟩ | ⟨-, user, identities, hcreate, hends⟩
  · exact .inl hsame
  · rcases hends with ⟨-, -, hlogin | hfull⟩ | ⟨_, hmade, -⟩
    · rw [IdentityStore.authenticate_created hargon hcreate] at hlogin
      cases hlogin
    · exact .inr hfull
    · cases hmade

/-- A failed request for the first administrator leaves no record of a
success. -/
theorem bootstrapApp_failures
    (h : bootstrapApp argon2 env payload app = (.error error, app')) :
    ∃ more, app'.auditLog.entries = app.auditLog.entries ++ more ∧
      ∀ entry ∈ more, entry.outcome = .failure := by
  rcases bootstrapApp_cases h with ⟨-, -, hmore⟩ | ⟨-, user, identities, -, hends⟩
  · exact hmore
  · rcases hends with ⟨-, rfl, -⟩ | ⟨_, hmade, -⟩
    · exact ⟨[], by simp, by simp⟩
    · cases hmade

end Bootstrap

variable (argon2 env)

theorem enter_spec (request : Request) (session : Option Session) (state : ApiState) :
    Act argon2 env ⟨request, session, .arrived⟩ state
      (Handling.enter argon2 env ⟨request, session, .arrived⟩ state).1
      (Handling.enter argon2 env ⟨request, session, .arrived⟩ state).2 := by
  induction request using Request.bySections with
  | health => exact .health _
  | bootstrapAdmin payload =>
    simp only [Handling.enter, lockApp_run]
    rcases hrun : bootstrapApp argon2 env payload state.app with ⟨e | made, app⟩
    · exact .bootstrapFailed hrun
    · exact .bootstrapped hrun
  | login payload =>
    simp only [Handling.enter, lockThrottle_run]
    rcases hrun : AuthThrottle.ensureAllowed payload.username env.authenticatedAt
        state.authThrottle with ⟨e | u, throttle⟩
    · exact .throttled hrun
    · exact .allowed hrun
  | logout headers =>
    simp only [Handling.enter]
    obtain ⟨sessions, hshrinks, ⟨error, hrun⟩ | ⟨found, hrun, hfound⟩⟩ :=
      endSession_cases env headers state
    · rw [hrun]
      exact .turnedAway rfl hshrinks
    · rw [hrun]
      exact .opened rfl hfound hshrinks
  | opens request headers h =>
    rw [Handling.enter_opens h]
    obtain ⟨sessions, hstate, hshrinks⟩ :=
      authenticateRequest_state headers env.authenticatedAt state
    rcases hrun : authenticateRequest headers env.authenticatedAt state with ⟨halt | found, after⟩
    · rw [hrun] at hstate
      subst hstate
      exact .turnedAway h.1 hshrinks
    · rw [hrun] at hstate
      subst hstate
      exact .opened h.1 (by rw [hrun]) hshrinks

theorem proceed_spec (request : Request) (session : Option Session) (state : ApiState) :
    Act argon2 env ⟨request, session, .waiting⟩ state
      (Handling.proceed argon2 env ⟨request, session, .waiting⟩ state).1
      (Handling.proceed argon2 env ⟨request, session, .waiting⟩ state).2 := by
  induction request using Request.bySections with
  | health => exact .idle _ _ ⟨nofun, fun _ => ⟨nofun, .inr rfl⟩⟩
  | bootstrapAdmin payload => exact .idle _ _ ⟨nofun, fun _ => ⟨nofun, .inr rfl⟩⟩
  | login payload =>
    simp only [Handling.proceed]
    cases hrun : state.app.identities.authenticate argon2 payload.username payload.password with
    | ok found => exact .accepted hrun
    | error error => exact .refused hrun
  | logout headers =>
    cases session with
    | none => exact .idle _ _ ⟨nofun, fun _ => ⟨nofun, .inl rfl⟩⟩
    | some session =>
      simp only [Handling.proceed, lockApp_run]
      rcases recordAudit_cases (.fromSession session) .logout .success
        (userTarget session.userId) "logout succeeded" env.auditedAt state.app with
        ⟨app, hrun⟩ | ⟨error, app, hrun⟩
      · rw [hrun]
        exact .loggedOut _ hrun
      · rw [hrun]
        exact .unrecorded (.inl rfl) hrun
  | opens request headers h =>
    cases session with
    | none =>
      rw [Handling.proceed_none h]
      refine .idle _ _ ⟨nofun, fun _ => ⟨fun payload hlogin => ?_, .inl rfl⟩⟩
      obtain rfl := hlogin
      cases h.1
    | some session =>
      rw [Handling.proceed_opens h]
      exact .worked h

theorem count_spec (request : Request) (session : Option Session)
    (refusal : Option IdentityError) (state : ApiState) :
    Act argon2 env ⟨request, session, .checked refusal⟩ state
      (Handling.count env ⟨request, session, .checked refusal⟩ state refusal).1
      (Handling.count env ⟨request, session, .checked refusal⟩ state refusal).2 := by
  cases request with
  | login payload =>
    cases refusal with
    | none => exact .countedSuccess
    | some error => exact .countedFailure
  | _ => exact .idle _ _ ⟨nofun, nofun⟩

theorem record_spec (request : Request) (session : Option Session)
    (refusal : Option IdentityError) (state : ApiState) :
    Act argon2 env ⟨request, session, .counted refusal⟩ state
      (Handling.record env ⟨request, session, .counted refusal⟩ state refusal).1
      (Handling.record env ⟨request, session, .counted refusal⟩ state refusal).2 := by
  cases request with
  | login payload =>
    cases refusal with
    | none =>
      cases session with
      | none => exact .idle _ _ ⟨nofun, nofun⟩
      | some session =>
        simp only [Handling.record, lockApp_run]
        rcases recordAudit_cases (.fromSession session) .login .success
          (userTarget session.userId) "login succeeded" env.auditedAt state.app with
          ⟨app, hrun⟩ | ⟨error, app, hrun⟩
        · rw [hrun]
          exact .loggedIn hrun
        · rw [hrun]
          exact .unrecorded (.inr ⟨_, rfl⟩) hrun
    | some error =>
      simp only [Handling.record, lockApp_run]
      rcases recordAudit_cases .system .login .failure (some ("username:" ++ payload.username))
        error.display env.auditedAt state.app with ⟨app, hrun⟩ | ⟨failure, app, hrun⟩
      · rw [hrun]
        exact .refusalRecorded hrun
      · rw [hrun]
        exact .unrecorded (.inr ⟨_, rfl⟩) hrun
  | _ => exact .idle _ _ ⟨nofun, nofun⟩

theorem issue_spec (request : Request) (session : Option Session) (state : ApiState) :
    Act argon2 env ⟨request, session, .issuing⟩ state
      (Handling.issue env ⟨request, session, .issuing⟩ state).1
      (Handling.issue env ⟨request, session, .issuing⟩ state).2 := by
  cases session with
  | none => exact .idle _ _ ⟨nofun, nofun⟩
  | some session =>
    simp only [Handling.issue]
    rcases hrun : ApiSessionStore.issue session env.issuedAt env.drawnTokens state.sessions with
      ⟨u | issued, sessions⟩
    · exact .drawing hrun
    · exact .issued hrun

/-- Every act is in the list. -/
theorem act_spec (handling : Handling) (state : ApiState) :
    Act argon2 env handling state (handling.act argon2 env state).1
      (handling.act argon2 env state).2 := by
  obtain ⟨request, session, stage⟩ := handling
  cases stage with
  | arrived => exact enter_spec argon2 env request session state
  | waiting => exact proceed_spec argon2 env request session state
  | checked refusal => exact count_spec argon2 env request session refusal state
  | counted refusal => exact record_spec argon2 env request session refusal state
  | issuing => exact issue_spec argon2 env request session state
  | answered answer => exact .idle _ _ ⟨nofun, nofun⟩

end Spec

/-! ## Events -/

namespace Server

variable {argon2 : Argon2} {env : Env} {server server' : Server} {event : Event} {i j : Nat}
  {handling handling' : Handling} {state state' : ApiState}

/-- The `i`-th handling has become another, and the state another. -/
def put (server : Server) (i : Nat) (handling handling' : Handling) (state : ApiState) :
    Server :=
  { state
    handlings := server.handlings.set i handling'
    holder :=
      if handling.takesApp then
        if handling'.stage.holdsApp then some i else none
      else
        server.holder
    acquired :=
      if handling.takesApp = true ∧ server.holder = none then server.acquired ++ [i]
      else server.acquired }

@[simp] theorem put_state : (server.put i handling handling' state).state = state := rfl

theorem getElem?_put (found : server.handlings[i]? = some handling) :
    (server.put i handling handling' state).handlings[j]? =
      if i = j then some handling' else server.handlings[j]? := by
  have hlt : i < server.handlings.length := (List.getElem?_eq_some_iff.mp found).1
  simp only [put, List.getElem?_set, hlt, if_true]

/-- An event adds a handling, or lets one do its next act, or comes for a
handling that waits or for none. -/
inductive Moves (argon2 : Argon2) (server : Server) : Event → Server → Prop
  | arrives (request : Request) :
      Moves argon2 server (.arrive request)
        { server with handlings := server.handlings ++ [⟨request, none, .arrived⟩] }
  | waits {i : Nat} {env : Env}
      (blocked : ∀ handling, server.handlings[i]? = some handling → server.Blocks i handling) :
      Moves argon2 server (.act i env) server
  | acts {i : Nat} {env : Env} {handling handling' : Handling} {state : ApiState}
      (found : server.handlings[i]? = some handling) (free : ¬ server.Blocks i handling)
      (act : Act argon2 env handling server.state handling' state) :
      Moves argon2 server (.act i env) (server.put i handling handling' state)

theorem step_act (argon2 : Argon2) (env : Env)
    (found : server.handlings[i]? = some handling) (free : ¬ server.Blocks i handling) :
    (step argon2 server (.act i env)).2 =
      server.put i handling (handling.act argon2 env server.state).1
        (handling.act argon2 env server.state).2 := by
  simp only [step, found, if_neg free]
  rfl

theorem step_moves (argon2 : Argon2) (server : Server) (event : Event) :
    Moves argon2 server event (step argon2 server event).2 := by
  cases event with
  | arrive request => exact .arrives request
  | act i env =>
    cases hfound : server.handlings[i]? with
    | none =>
      simp only [step, hfound]
      exact .waits fun handling h => by rw [hfound] at h; cases h
    | some handling =>
      by_cases hblocked : server.Blocks i handling
      · simp only [step, hfound, if_pos hblocked]
        refine .waits fun handling' h => ?_
        obtain rfl := Option.some.inj (hfound.symm.trans h)
        exact hblocked
      · rw [step_act argon2 env hfound hblocked]
        exact .acts hfound hblocked (act_spec argon2 env handling server.state)

/-- What holds of an empty server and is kept by every move holds after all
events. -/
theorem after_invariant {I : Server → Prop} (start : I (new AppState.new))
    (keeps : ∀ server event server', Moves argon2 server event server' → I server → I server')
    (events : List Event) : I (after argon2 events) :=
  final_invariant (step argon2)
    (fun server event h => keeps server event _ (step_moves argon2 server event) h) events _ start

/-- A handling of the new server was there before, or has just arrived, or
is the one that acted. -/
theorem Moves.handling_cases (h : Moves argon2 server event server')
    (found : server'.handlings[j]? = some handling') :
    server.handlings[j]? = some handling' ∨
    (∃ request, event = .arrive request ∧ handling' = ⟨request, none, .arrived⟩) ∨
    ∃ env handling, event = .act j env ∧ server.handlings[j]? = some handling ∧
      ¬ server.Blocks j handling ∧
      Act argon2 env handling server.state handling' server'.state := by
  cases h with
  | arrives request =>
    rw [List.getElem?_append] at found
    split at found
    · exact .inl found
    · next hge =>
      rw [List.getElem?_singleton] at found
      split at found
      · exact .inr (.inl ⟨request, rfl, (Option.some.inj found).symm⟩)
      · cases found
  | waits => exact .inl found
  | acts hfound free act =>
    rw [getElem?_put hfound] at found
    split at found
    · next hij =>
      subst hij
      obtain rfl := Option.some.inj found
      exact .inr (.inr ⟨_, _, rfl, hfound, free, act⟩)
    · exact .inl found

/-! ## The lock of the application -/

/-- The holder of the lock is the one handling that is between two acts
under it. -/
def Exclusive (server : Server) : Prop :=
  ∀ i, server.holder = some i ↔
    ∃ handling, server.handlings[i]? = some handling ∧ handling.stage.holdsApp = true

theorem takesApp_of_holdsApp (h : handling.stage.holdsApp = true) : handling.takesApp = true := by
  obtain ⟨request, session, stage⟩ := handling
  cases stage with
  | checked | counted | issuing => rfl
  | arrived | waiting | answered => cases h

/-- A handling that does not need the lock for its next act does not hold it
after. -/
theorem holdsApp_of_act (act : Act argon2 env handling state handling' state')
    (htakes : handling.takesApp = false) : handling'.stage.holdsApp = false := by
  cases act with
  | idle =>
    by_contra hholds
    rw [takesApp_of_holdsApp (by simpa using hholds)] at htakes
    cases htakes
  | health | bootstrapFailed | allowed | throttled | opened | turnedAway | loggedOut | unrecorded
  | worked | refusalRecorded | issued => rfl
  | bootstrapped | accepted | refused | countedSuccess | countedFailure | loggedIn | drawing =>
    cases htakes

theorem exclusive_new (app : AppState) : (new app).Exclusive := by
  intro i
  simp [new]

theorem exclusive_put (found : server.handlings[i]? = some handling)
    (free : ¬ server.Blocks i handling)
    (act : Act argon2 env handling server.state handling' state) (hex : server.Exclusive) :
    (server.put i handling handling' state).Exclusive := by
  intro j
  rw [getElem?_put found]
  have hold := hex j
  cases htakes : handling.takesApp with
  | false =>
    have hafter := holdsApp_of_act act htakes
    have hholder : (server.put i handling handling' state).holder = server.holder := by
      simp [put, htakes]
    rw [hholder, hold]
    by_cases hij : i = j
    · subst hij
      have hbefore : handling.stage.holdsApp = false := by
        by_contra hholds
        rw [takesApp_of_holdsApp (by simpa using hholds)] at htakes
        cases htakes
      simp [found, hafter, hbefore]
    · rw [if_neg hij]
  | true =>
    have hholder : (server.put i handling handling' state).holder =
        if handling'.stage.holdsApp then some i else none := by simp [put, htakes]
    rw [hholder]
    by_cases hij : i = j
    · subst hij
      cases hafter : handling'.stage.holdsApp <;> simp [hafter]
    · -- no other handling holds the lock that this one was free to use
      have hother : server.holder ≠ some j := by
        intro hj
        exact free ⟨htakes, by simp [hj], by simp [hj, Ne.symm hij]⟩
      rw [if_neg hij, ← hold]
      cases handling'.stage.holdsApp <;> simp [hij, hother]

theorem exclusive_moves (h : Moves argon2 server event server') (hex : server.Exclusive) :
    server'.Exclusive := by
  cases h with
  | arrives request =>
    intro i
    rw [hex i]
    constructor
    · rintro ⟨handling, hfound, hholds⟩
      have hlt := (List.getElem?_eq_some_iff.mp hfound).1
      exact ⟨handling, by rw [List.getElem?_append_left hlt, hfound], hholds⟩
    · rintro ⟨handling, hfound, hholds⟩
      rcases (Moves.arrives request : Moves argon2 server _ _).handling_cases hfound with
        hold | ⟨request', -, rfl⟩ | ⟨env, _, h, -⟩
      · exact ⟨handling, hold, hholds⟩
      · cases hholds
      · cases h
  | waits => exact hex
  | acts found free act => exact exclusive_put found free act hex

end Server

end Banck.Api
