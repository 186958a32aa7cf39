/-
Banck.Api.Server — requests that are served at the same time.

A handler works in sections, each under a lock. The sessions and the
throttle have a mutex of their own, held for one call. The application has
a lock that a handler takes once and keeps until it has answered; under it
`login` takes the mutex of the throttle, and `login` and `bootstrap_admin`
that of the sessions. A `Handling` is a request and how far its handler has
come, and one `act` is what it does under the innermost lock.

An `Event` is the arrival of a request or the next act of one that arrived.
An act under the lock of the application has no effect while another
handling holds that lock: its task waits. So every list of events is an
interleaving, and every interleaving is a list of events. A handler that
only reads holds its lock for one act; that others may read in it too makes
no difference.
-/
import Banck.Api.Handlers

namespace Banck.Api

open Lib Machine

/-! ## Handlings -/

/-- How far a handler has come. It has `checked` the password of a login,
and `counted` the outcome in the throttle; `refusal` is what the check
returned, if it was not a session. -/
inductive Stage where
  | arrived
  /-- Allowed to log in, or found its session; the application comes next. -/
  | waiting
  | checked (refusal : Option IdentityError)
  | counted (refusal : Option IdentityError)
  /-- Only a session is left to be issued. -/
  | issuing
  | answered (answer : Except Halt Response)
  deriving DecidableEq

/-- Between two acts the lock of the application is held. -/
def Stage.holdsApp : Stage → Bool
  | checked _ | counted _ | issuing => true
  | arrived | waiting | answered _ => false

structure Handling where
  request : Request
  /-- The session in whose name the handler acts, once it has one. -/
  session : Option Session
  stage : Stage

namespace Handling

/-- The next act is done under the lock of the application. -/
def takesApp (handling : Handling) : Bool :=
  match handling.stage with
  | .arrived =>
      match handling.request with
      | .bootstrapAdmin _ => true
      | _ => false
  | .waiting | .checked _ | .counted _ | .issuing => true
  | .answered _ => false

def answer (handling : Handling) (answer : Except Halt Response) : Handling :=
  { handling with stage := .answered answer }

/-- Go on from the result of a section, or answer with its error. -/
def goOn {α : Type} (handling : Handling) (next : α → Handling) :
    Except Halt α × ApiState → Handling × ApiState
  | (.ok a, state) => (next a, state)
  | (.error halt, state) => (handling.answer (.error halt), state)

end Handling

/-! ## Sections -/

section Sections

variable (argon2 : Argon2) (env : Env)

/-- The first section of `logout`. -/
def endSession (headers : HeaderMap) : HandlerM Session := do
  let token ← Mut.lift ((bearerToken headers).mapError .error)
  let session ← lockSessions .error (ApiSessionStore.authenticate token env.authenticatedAt)
  lockSessions .error (Mut.modify fun sessions => sessions.revoke token)
  pure session

/-- Sessions in which the token of the request opens this one session. -/
def sessionsWith (request : Request) (session : Session) : ApiSessionStore :=
  match request.headers.map bearerToken with
  | some (.ok token) =>
      ⟨(∅ : OrdMap String StoredApiSession).insert token ⟨session, env.authenticatedAt + 1⟩⟩
  | _ => ApiSessionStore.new

/-- The second section of a handler with a session: the handler, its lookup
answered with the session that was found in the first. It looks at the
application only. -/
def work (request : Request) (session : Session) (app : AppState) :
    Except Halt Response × AppState :=
  let (answer, state) := handle argon2 env request
    ⟨app, sessionsWith env request session, AuthThrottle.new⟩
  (answer, state.app)

end Sections

namespace Handling

variable (argon2 : Argon2) (env : Env) (handling : Handling) (state : ApiState)

/-- The first section. -/
def enter : Handling × ApiState :=
  match handling.request with
  | .health => (handling.answer (.ok (.health { status := "ok" })), state)
  | .bootstrapAdmin payload =>
      handling.goOn (fun session => { handling with session := some session, stage := .issuing })
        (lockApp (bootstrapApp argon2 env payload) state)
  | .login payload =>
      handling.goOn (fun _ => { handling with stage := .waiting })
        (lockThrottle (AuthThrottle.ensureAllowed payload.username env.authenticatedAt) state)
  | .logout headers =>
      handling.goOn (fun session => { handling with session := some session, stage := .waiting })
        (endSession env headers state)
  | request =>
      match request.headers with
      | some headers =>
          handling.goOn
            (fun session => { handling with session := some session, stage := .waiting })
            (authenticateRequest headers env.authenticatedAt state)
      | none => (handling, state)

/-- The section under the lock of the application, or its beginning. -/
def proceed : Handling × ApiState :=
  match handling.request, handling.session with
  | .login payload, _ =>
      match state.app.identities.authenticate argon2 payload.username payload.password with
      | .ok session => ({ handling with session := some session, stage := .checked none }, state)
      | .error error => ({ handling with stage := .checked (some error) }, state)
  | .logout _, some session =>
      handling.goOn (fun _ => handling.answer (.ok (.logout { loggedOut := true })))
        (lockApp (recordAudit (.fromSession session) .logout .success (userTarget session.userId)
          "logout succeeded" env.auditedAt) state)
  | .health, _ | .bootstrapAdmin _, _ => (handling, state)
  | request, some session =>
      let (answer, app) := work argon2 env request session state.app
      (handling.answer answer, { state with app })
  | _, none => (handling, state)

/-- What a login does in the throttle. -/
def count (refusal : Option IdentityError) : Handling × ApiState :=
  match handling.request, refusal with
  | .login payload, none =>
      ({ handling with stage := .counted none },
        { state with authThrottle := state.authThrottle.recordSuccess payload.username })
  | .login payload, some error =>
      ({ handling with stage := .counted (some error) },
        { state with
          authThrottle := state.authThrottle.recordFailure payload.username env.failedAt })
  | _, _ => (handling, state)

/-- The record of a login. -/
def record (refusal : Option IdentityError) : Handling × ApiState :=
  match handling.request, refusal, handling.session with
  | .login _, none, some session =>
      handling.goOn (fun _ => { handling with stage := .issuing })
        (lockApp (recordAudit (.fromSession session) .login .success (userTarget session.userId)
          "login succeeded" env.auditedAt) state)
  | .login payload, some error, _ =>
      handling.goOn (fun _ => handling.answer (.error (.error (.fromIdentity error))))
        (lockApp (recordAudit .system .login .failure (some ("username:" ++ payload.username))
          error.display env.auditedAt) state)
  | _, _, _ => (handling, state)

/-- Issue the session; while no unused token was drawn, the handler stays
where it is. -/
def issue : Handling × ApiState :=
  match handling.session with
  | some session =>
      match ApiSessionStore.issue session env.issuedAt env.drawnTokens state.sessions with
      | (.ok issued, sessions) =>
          (handling.answer (.ok (.session (.fromSession session issued))),
            { state with sessions })
      | (.error _, sessions) => (handling, { state with sessions })
  | none => (handling, state)

/-- The next act. -/
def act : Handling × ApiState :=
  match handling.stage with
  | .arrived => handling.enter argon2 env state
  | .waiting => handling.proceed argon2 env state
  | .checked refusal => handling.count env state refusal
  | .counted refusal => handling.record env state refusal
  | .issuing => handling.issue env state
  | .answered _ => (handling, state)

end Handling

/-! ## The server -/

/-- Handlings are listed in the order of their arrival. `holder` is the one
that holds the lock of the application; `acquired` are those that ever took
it, in that order, and is kept for the statements only. -/
structure Server where
  state : ApiState
  handlings : List Handling
  holder : Option Nat
  acquired : List Nat

inductive Event where
  | arrive (request : Request)
  | act (i : Nat) (env : Env)

namespace Server

def new (app : AppState) : Server := ⟨ApiState.new app, [], none, []⟩

/-- Another handling than the `i`-th holds the lock that its next act
needs. -/
def Blocks (server : Server) (i : Nat) (handling : Handling) : Prop :=
  handling.takesApp = true ∧ server.holder ≠ none ∧ server.holder ≠ some i

instance (server : Server) (i : Nat) (handling : Handling) :
    Decidable (server.Blocks i handling) := inferInstanceAs (Decidable (_ ∧ _ ∧ _))

/-- The `i`-th handling has done its next act. -/
def advance (argon2 : Argon2) (env : Env) (server : Server) (i : Nat) (handling : Handling) :
    Server :=
  let (handling', state) := handling.act argon2 env server.state
  { state
    handlings := server.handlings.set i handling'
    holder :=
      if handling.takesApp then
        if handling'.stage.holdsApp then some i else none
      else
        server.holder
    acquired :=
      if handling.takesApp = true ∧ server.holder = none then server.acquired ++ [i]
      else server.acquired }

def step (argon2 : Argon2) (server : Server) : Event → Unit × Server
  | .arrive request =>
      ((), { server with handlings := server.handlings ++ [⟨request, none, .arrived⟩] })
  | .act i env =>
      match server.handlings[i]? with
      | some handling =>
          if server.Blocks i handling then ((), server)
          else ((), server.advance argon2 env i handling)
      | none => ((), server)

/-- The server after the events, from an empty one. -/
def after (argon2 : Argon2) (events : List Event) : Server :=
  final (step argon2) (new AppState.new) events

end Server

end Banck.Api
