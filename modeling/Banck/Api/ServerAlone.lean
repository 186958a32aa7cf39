/-
Banck.Api.ServerAlone — a request that is served alone.

The handler of a request that looks for a session first is the lookup and
then its work (`handle_opens`, `work_run`). So the sections of a handler,
done one after the other with nothing in between, come to what `handle`
says (`acts_alone`): what differs between a server and `handle` is only
what others do between two sections. And every act does to the application
what a handler may (`Act.serves`).
-/
import Banck.Api.ServerSteps

namespace Banck.Api

open Lib Mut

section Work

variable {argon2 : Argon2} {env : Env} {request : Request} {headers : HeaderMap}
  {token : String} {session : Session} {app : AppState}

theorem handle_opens (argon2 : Argon2) (env : Env) (h : request.OpensSession headers) :
    ∃ (α : Type) (m : Session → AppM α) (f : α → Response),
      handle argon2 env request = Mut.map f (authenticated headers env m) := by
  obtain ⟨hheaders, hlogout⟩ := h
  cases request with
  | health | bootstrapAdmin | login => cases hheaders
  | logout headers' => exact absurd rfl (hlogout headers')
  | _ => obtain rfl := Option.some.inj hheaders; exact ⟨_, _, _, rfl⟩

theorem authenticated_ok {α : Type} {m : Session → AppM α} {state : ApiState}
    (h : (authenticateRequest headers env.authenticatedAt state).1 = .ok session) :
    authenticated headers env m state =
      lockApp (m session) (authenticateRequest headers env.authenticatedAt state).2 := by
  rw [authenticated, bind_run]
  rcases hrun : authenticateRequest headers env.authenticatedAt state with ⟨halt | found, after⟩
  · rw [hrun] at h
    cases h
  · rw [hrun] at h
    obtain rfl := Except.ok.inj h
    rfl

theorem authenticated_error {α : Type} {m : Session → AppM α} {state : ApiState} {halt : Halt}
    (h : (authenticateRequest headers env.authenticatedAt state).1 = .error halt) :
    authenticated headers env m state =
      (.error halt, (authenticateRequest headers env.authenticatedAt state).2) := by
  rw [authenticated, bind_run]
  rcases hrun : authenticateRequest headers env.authenticatedAt state with ⟨other | found, after⟩
  · rw [hrun] at h
    obtain rfl := Except.error.inj h
    rfl
  · rw [hrun] at h
    cases h

/-- Only a lookup fails for want of a session. -/
theorem authenticateRequest_error {now : Nat} {state : ApiState} {halt : Halt}
    (h : (authenticateRequest headers now state).1 = .error halt) :
    ∃ error, halt = .error error := by
  unfold authenticateRequest at h
  cases htoken : bearerToken headers with
  | error error =>
    rw [htoken] at h
    exact ⟨error, (Except.error.inj h).symm⟩
  | ok token =>
    simp only [htoken, Except.mapError, bind_run, lift_run, lockSessions_run] at h
    split at h
    · next error _ => exact ⟨error, (Except.error.inj h).symm⟩
    · cases h

/-- A lookup that succeeds has a token to look for. -/
theorem bearerToken_of_ok {now : Nat} {state : ApiState}
    (h : (authenticateRequest headers now state).1 = .ok session) :
    ∃ token, bearerToken headers = .ok token := by
  unfold authenticateRequest at h
  cases htoken : bearerToken headers with
  | error error =>
    rw [htoken] at h
    cases h
  | ok token => exact ⟨token, rfl⟩

/-- In the sessions made for it, the token opens its session. -/
theorem authenticateRequest_sessionsWith (env : Env) (hheaders : request.headers = some headers)
    (htoken : bearerToken headers = .ok token) (session : Session) (app : AppState) :
    (authenticateRequest headers env.authenticatedAt
      ⟨app, sessionsWith env request session, AuthThrottle.new⟩).1 = .ok session := by
  unfold authenticateRequest sessionsWith
  simp only [htoken, hheaders, Option.map_some, Except.mapError, bind_run, lift_run,
    lockSessions_run, ApiSessionStore.authenticate, modify_run, get_run]
  simp [ApiSessionStore.removeExpired, OrdMap.get_retain, Option.filter]

/-- Without a token there is no work. -/
theorem work_error (h : request.OpensSession headers) {error : ApiError}
    (htoken : bearerToken headers = .error error) (session : Session) (app : AppState) :
    work argon2 env request session app = (.error (.error error), app) := by
  obtain ⟨α, m, f, hhandle⟩ := handle_opens argon2 env h
  have hfails : (authenticateRequest headers env.authenticatedAt
      ⟨app, sessionsWith env request session, AuthThrottle.new⟩).1 = .error (.error error) := by
    simp only [authenticateRequest, htoken, bind_run, lift_run, Except.mapError]
  have happ := authenticateRequest_app headers env.authenticatedAt
    ⟨app, sessionsWith env request session, AuthThrottle.new⟩
  rw [work, hhandle, map_run, authenticated_error hfails]
  simp only [happ]
  rfl

/-- The work of a handler is what it does after its lookup. -/
theorem work_run {α : Type} {m : Session → AppM α} {f : α → Response}
    (h : handle argon2 env request = Mut.map f (authenticated headers env m))
    (hheaders : request.headers = some headers) (htoken : bearerToken headers = .ok token)
    (session : Session) (app : AppState) :
    work argon2 env request session app =
      (((m session app).1.map f).mapError .error, (m session app).2) := by
  have hfound := authenticateRequest_sessionsWith env hheaders htoken session app
  have happ := authenticateRequest_app headers env.authenticatedAt
    ⟨app, sessionsWith env request session, AuthThrottle.new⟩
  simp only [work, h, map_run, authenticated_ok hfound, lockApp_run, happ]
  cases (m session app).1 <;> rfl

end Work

/-! ## What an act does to the application -/

/-- The session in whose name a handler makes its call. -/
def Handling.actor (handling : Handling) : Option Session :=
  match handling.request with
  | .bootstrapAdmin _ => none
  | _ => handling.session

section Acts

variable {argon2 : Argon2} {env : Env} {request : Request} {headers : HeaderMap}
  {handling handling' : Handling} {state state' : ApiState}

/-- The work of a handler is the call of its request, in the name of its
session. -/
theorem work_serves (h : request.OpensSession headers) (session : Session) (app : AppState) :
    Serves argon2 (some session) (fun m => m ∈ request.act env) app
      (work argon2 env request session app).2 := by
  cases htoken : bearerToken headers with
  | error error =>
    rw [work_error h htoken]
    exact .refl app
  | ok token =>
    have hfound := authenticateRequest_sessionsWith env h.1 htoken session app
    have hserves := handle_serves argon2 env request
      ⟨app, sessionsWith env request session, AuthThrottle.new⟩
    rw [ApiState.session?, h.1, Option.bind_some, hfound] at hserves
    exact hserves

theorem recordAudit_serves {session : Option Session} {acts : AppMove → Prop} {actor : AuditActor}
    {action : AuditAction} {outcome : AuditOutcome} {target : Option String} {message : String}
    {now : Nat} {app app' : AppState} {result : Except ApiError Unit}
    (run : recordAudit actor action outcome target message now app = (result, app')) :
    Serves argon2 session acts app app' := by
  have h : Serves argon2 session acts app
      (recordAudit actor action outcome target message now app).2 :=
    (keeps_recordAudit actor action outcome target message now).final (Serves.refl app)
  rwa [run] at h

/-- An act makes at most the call of its request, in the name of its
session, and leaves records. -/
theorem Act.serves (act : Act argon2 env handling state handling' state') :
    Serves argon2 handling.actor (fun m => m ∈ handling.request.act env) state.app state'.app := by
  cases act with
  | idle | health | allowed | throttled | opened | turnedAway | accepted | refused
  | countedSuccess | countedFailure | issued | drawing => exact .refl _
  | @bootstrapped payload _ _ _ _ run | @bootstrapFailed payload _ _ _ _ run =>
    have h : Serves argon2 none _ state.app (bootstrapApp argon2 env payload state.app).2 :=
      (bootstrapApp_serves payload).final rfl
    rwa [run] at h
  | loggedOut response run => exact recordAudit_serves run
  | unrecorded progress run => exact recordAudit_serves run
  | loggedIn run => exact recordAudit_serves run
  | refusalRecorded run => exact recordAudit_serves run
  | @worked request headers session _ opens =>
    have hactor : Handling.actor ⟨request, some session, .waiting⟩ = some session := by
      obtain ⟨hheaders, -⟩ := opens
      cases request with
      | bootstrapAdmin => cases hheaders
      | _ => rfl
    rw [hactor]
    exact work_serves opens session state.app

end Acts

/-! ## All sections in a row -/

/-- The next acts of one handling, with nothing in between. -/
def Handling.actAlone (argon2 : Argon2) (env : Env) :
    Nat → Handling × ApiState → Handling × ApiState
  | 0, result => result
  | n + 1, (handling, state) => actAlone argon2 env n (handling.act argon2 env state)

/-- How many sections the handler of a request has at most. -/
def Request.sections : Request → Nat
  | health => 1
  | login _ => 5
  | _ => 2

/-- Where a handler is when it has come to this. -/
def Stage.ofResult : Except Halt Response → Stage
  | .error .drawing => .issuing
  | result => .answered result

section Alone

variable (argon2 : Argon2) (env : Env) (state : ApiState)

/-- Issuing a session, as an act and as the end of a handler. -/
theorem issue_alone (request : Request) (session : Session) :
    Handling.act argon2 env ⟨request, some session, .issuing⟩ state =
      (⟨request, some session,
          .ofResult ((issueSession session env state).1.map Response.session)⟩,
        (issueSession session env state).2) := by
  simp only [Handling.act, Handling.issue, issueSession, bind_run, lockSessions_run]
  rcases hrun : ApiSessionStore.issue session env.issuedAt env.drawnTokens state.sessions with
    ⟨u | issued, sessions⟩
  · rfl
  · rfl

theorem bootstrapAdmin_alone (payload : CreateBootstrapAdminRequest) :
    ∃ session, Handling.actAlone argon2 env 2 (⟨.bootstrapAdmin payload, none, .arrived⟩, state) =
      (⟨.bootstrapAdmin payload, session,
          .ofResult (handle argon2 env (.bootstrapAdmin payload) state).1⟩,
        (handle argon2 env (.bootstrapAdmin payload) state).2) := by
  simp only [Handling.actAlone, handle, map_run, bootstrapAdmin, bind_run, lockApp_run]
  simp only [Handling.act, Handling.enter, lockApp_run]
  rcases hrun : bootstrapApp argon2 env payload state.app with ⟨error | made, app⟩
  · exact ⟨none, rfl⟩
  · exact ⟨some made, issue_alone argon2 env { state with app } _ made⟩

/-- What `login` does when the password is right. -/
def acceptLogin (payload : LoginRequest) (session : Session) : HandlerM SessionResponse := do
  lockThrottle (Mut.modify fun throttle => throttle.recordSuccess payload.username)
  lockApp (recordAudit (.fromSession session) .login .success (userTarget session.userId)
    "login succeeded" env.auditedAt)
  issueSession session env

/-- What `login` does when it is wrong. -/
def refuseLogin (payload : LoginRequest) (error : IdentityError) : HandlerM SessionResponse := do
  lockThrottle
    (Mut.modify fun throttle => throttle.recordFailure payload.username env.failedAt)
  lockApp (recordAudit .system .login .failure (some ("username:" ++ payload.username))
    error.display env.auditedAt)
  Mut.fail (.error (.fromIdentity error))

theorem login_throttled {payload : LoginRequest} {error : ApiError} {throttle : AuthThrottle}
    (hasked : AuthThrottle.ensureAllowed payload.username env.authenticatedAt
      state.authThrottle = (.error error, throttle)) :
    login argon2 env payload state =
      (.error (.error error), { state with authThrottle := throttle }) := by
  simp only [login, bind_run, lockThrottle_run, hasked, Except.mapError]

theorem login_checked {payload : LoginRequest} {u : Unit} {throttle : AuthThrottle}
    (hasked : AuthThrottle.ensureAllowed payload.username env.authenticatedAt
      state.authThrottle = (.ok u, throttle)) :
    login argon2 env payload state =
      match state.app.identities.authenticate argon2 payload.username payload.password with
      | .ok session =>
          acceptLogin env payload session { state with authThrottle := throttle }
      | .error error =>
          refuseLogin env payload error { state with authThrottle := throttle } := by
  simp only [login, bind_run, lockThrottle_run, hasked, Except.mapError, get_run]
  cases state.app.identities.authenticate argon2 payload.username payload.password with
  | ok session => simp only [acceptLogin, bind_run, lockThrottle_run]
  | error error => simp only [refuseLogin, bind_run, lockThrottle_run]

theorem acceptLogin_alone (payload : LoginRequest) (session : Session) :
    Handling.actAlone argon2 env 3 (⟨.login payload, some session, .checked none⟩, state) =
      (⟨.login payload, some session,
          .ofResult ((acceptLogin env payload session state).1.map Response.session)⟩,
        (acceptLogin env payload session state).2) := by
  simp only [Handling.actAlone, Handling.act, Handling.count, Handling.record, acceptLogin,
    lockApp_run, bind_run, lockThrottle_run, modify_run, Except.mapError]
  rcases recordAudit_cases (.fromSession session) .login .success (userTarget session.userId)
    "login succeeded" env.auditedAt state.app with ⟨app, hrecord⟩ | ⟨error, app, hrecord⟩
  · simp only [hrecord]
    exact issue_alone argon2 env _ _ session
  · simp only [hrecord]
    rfl

theorem refuseLogin_alone (payload : LoginRequest) (session : Option Session)
    (error : IdentityError) :
    Handling.actAlone argon2 env 3 (⟨.login payload, session, .checked (some error)⟩, state) =
      (⟨.login payload, session,
          .ofResult ((refuseLogin env payload error state).1.map Response.session)⟩,
        (refuseLogin env payload error state).2) := by
  simp only [Handling.actAlone, Handling.act, Handling.count, Handling.record, refuseLogin,
    lockApp_run, bind_run, lockThrottle_run, modify_run, Except.mapError]
  rcases recordAudit_cases .system .login .failure (some ("username:" ++ payload.username))
    error.display env.auditedAt state.app with ⟨app, hrecord⟩ | ⟨failure, app, hrecord⟩
  · simp only [hrecord]
    rfl
  · simp only [hrecord]
    rfl

theorem login_alone (payload : LoginRequest) :
    ∃ session, Handling.actAlone argon2 env 5 (⟨.login payload, none, .arrived⟩, state) =
      (⟨.login payload, session, .ofResult (handle argon2 env (.login payload) state).1⟩,
        (handle argon2 env (.login payload) state).2) := by
  simp only [handle, map_run]
  rcases hasked : AuthThrottle.ensureAllowed payload.username env.authenticatedAt
    state.authThrottle with ⟨error | u, throttle⟩
  · have hact : Handling.act argon2 env ⟨.login payload, none, .arrived⟩ state =
        (⟨.login payload, none, .answered (.error (.error error))⟩,
          { state with authThrottle := throttle }) := by
      simp only [Handling.act, Handling.enter, lockThrottle_run, hasked]
      rfl
    rw [Handling.actAlone, hact, login_throttled argon2 env state hasked]
    exact ⟨none, rfl⟩
  · have hact : Handling.act argon2 env ⟨.login payload, none, .arrived⟩ state =
        (⟨.login payload, none, .waiting⟩, { state with authThrottle := throttle }) := by
      simp only [Handling.act, Handling.enter, lockThrottle_run, hasked]
      rfl
    rw [Handling.actAlone, hact, Handling.actAlone, login_checked argon2 env state hasked]
    cases hcheck : state.app.identities.authenticate argon2 payload.username payload.password with
    | ok session =>
      have hchecked : Handling.act argon2 env ⟨.login payload, none, .waiting⟩
          { state with authThrottle := throttle } =
          (⟨.login payload, some session, .checked none⟩,
            { state with authThrottle := throttle }) := by
        simp only [Handling.act, Handling.proceed, hcheck]
      rw [hchecked]
      exact ⟨some session, acceptLogin_alone argon2 env _ payload session⟩
    | error error =>
      have hchecked : Handling.act argon2 env ⟨.login payload, none, .waiting⟩
          { state with authThrottle := throttle } =
          (⟨.login payload, none, .checked (some error)⟩,
            { state with authThrottle := throttle }) := by
        simp only [Handling.act, Handling.proceed, hcheck]
      rw [hchecked]
      exact ⟨none, refuseLogin_alone argon2 env _ payload none error⟩

/-- `logout` is its two sections. -/
theorem logout_run (headers : HeaderMap) :
    logout headers env state =
      match endSession env headers state with
      | (.error halt, mid) => (.error halt, mid)
      | (.ok session, mid) =>
          Mut.map (fun _ => { loggedOut := true }) (lockApp (recordAudit (.fromSession session)
            .logout .success (userTarget session.userId) "logout succeeded" env.auditedAt))
            mid := by
  simp only [logout, endSession, bind_run, lift_run, pure_run]
  cases bearerToken headers with
  | error error => rfl
  | ok token =>
    simp only [Except.mapError, lockSessions_run, modify_run]
    cases (ApiSessionStore.authenticate token env.authenticatedAt state.sessions).1 with
    | error error => rfl
    | ok session =>
      simp only [map_run, lockApp_run]
      rcases recordAudit_cases (.fromSession session) .logout .success (userTarget session.userId)
        "logout succeeded" env.auditedAt state.app with ⟨app, hrecord⟩ | ⟨error, app, hrecord⟩
      · simp only [hrecord]
        rfl
      · simp only [hrecord]
        rfl

theorem logout_alone (headers : HeaderMap) :
    ∃ session, Handling.actAlone argon2 env 2 (⟨.logout headers, none, .arrived⟩, state) =
      (⟨.logout headers, session, .ofResult (handle argon2 env (.logout headers) state).1⟩,
        (handle argon2 env (.logout headers) state).2) := by
  simp only [handle, map_run, logout_run]
  simp only [Handling.actAlone, Handling.act, Handling.enter]
  obtain ⟨sessions, -, ⟨error, hrun⟩ | ⟨session, hrun, -⟩⟩ := endSession_cases env headers state
  · rw [hrun]
    exact ⟨none, rfl⟩
  · rw [hrun]
    refine ⟨some session, ?_⟩
    simp only [Handling.goOn, Handling.proceed, lockApp_run]
    rcases recordAudit_cases (.fromSession session) .logout .success (userTarget session.userId)
      "logout succeeded" env.auditedAt state.app with ⟨app, hrecord⟩ | ⟨error, app, hrecord⟩
    · simp only [hrecord]
      rfl
    · simp only [hrecord]
      rfl

theorem opens_alone {request : Request} {headers : HeaderMap} (h : request.OpensSession headers) :
    ∃ session, Handling.actAlone argon2 env 2 (⟨request, none, .arrived⟩, state) =
      (⟨request, session, .ofResult (handle argon2 env request state).1⟩,
        (handle argon2 env request state).2) := by
  obtain ⟨α, m, f, hhandle⟩ := handle_opens argon2 env h
  have henter : Handling.act argon2 env ⟨request, none, .arrived⟩ state =
      Handling.goOn ⟨request, none, .arrived⟩ (fun found => ⟨request, some found, .waiting⟩)
        (authenticateRequest headers env.authenticatedAt state) := Handling.enter_opens h
  rw [Handling.actAlone, henter, hhandle, map_run]
  have happ := authenticateRequest_app headers env.authenticatedAt state
  cases hfound : (authenticateRequest headers env.authenticatedAt state).1 with
  | error halt =>
    obtain ⟨error, rfl⟩ := authenticateRequest_error hfound
    rw [authenticated_error hfound]
    rcases hrun : authenticateRequest headers env.authenticatedAt state with ⟨other | found, mid⟩
    · rw [hrun] at hfound
      obtain rfl := Except.error.inj hfound
      exact ⟨none, rfl⟩
    · rw [hrun] at hfound
      cases hfound
  | ok session =>
    obtain ⟨token, htoken⟩ := bearerToken_of_ok hfound
    have hwork := work_run hhandle h.1 htoken session state.app
    rw [authenticated_ok hfound, lockApp_run, happ]
    rcases hrun : authenticateRequest headers env.authenticatedAt state with ⟨halt | found, mid⟩
    · rw [hrun] at hfound
      cases hfound
    · rw [hrun] at hfound happ
      obtain rfl := Except.ok.inj hfound
      refine ⟨some found, ?_⟩
      simp only at happ
      show Handling.proceed argon2 env ⟨request, some found, .waiting⟩ mid = _
      rw [Handling.proceed_opens h, happ, hwork]
      cases (m found state.app).1 <;> rfl

/-- A request that is served with nothing in between is answered, and
leaves the state, as `handle` says; or it still draws a token, as there. -/
theorem acts_alone (request : Request) :
    ∃ session, Handling.actAlone argon2 env request.sections (⟨request, none, .arrived⟩, state) =
      (⟨request, session, .ofResult (handle argon2 env request state).1⟩,
        (handle argon2 env request state).2) := by
  induction request using Request.bySections with
  | health => exact ⟨none, rfl⟩
  | bootstrapAdmin payload => exact bootstrapAdmin_alone argon2 env state payload
  | login payload => exact login_alone argon2 env state payload
  | logout headers => exact logout_alone argon2 env state headers
  | opens request headers h =>
    have hsections : request.sections = 2 := by
      obtain ⟨hheaders, -⟩ := h
      cases request with
      | health | login => cases hheaders
      | _ => rfl
    rw [hsections]
    exact opens_alone argon2 env state h

end Alone

end Banck.Api
