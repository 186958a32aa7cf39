/-
Banck.Api.LockOrder — the locks of the API, and why no handlers wait for
each other.

Each handler of `src/api.rs` is written down once more as the locks see it
(`Request.lockCode`): the guards it takes, with the statement or the scope
in which each lives, and the places where it is left with an error. The
application has a lock for readers and writers, the throttle and the
sessions a mutex each. A guard that is a temporary is dropped at the end of
its statement, also where that statement leaves the function through `?`.

The handlers take the locks in one order: the application, the throttle,
the sessions (`Request.lockCode_ordered`). So some handler can always go on
(`handlers_never_deadlock`). What a handler changes, it has the lock of
(`handle_changes_locked`).
-/
import Banck.Lib.Locks
import Banck.Api.HandlerMoves

namespace Banck.Api

open Lib Mut
open Lib.Locks (Access Code Trace)

/-! ## The locks -/

/-- The locks of `ApiState`. -/
inductive ApiLock where
  | app
  | authThrottle
  | sessions
  deriving DecidableEq, Repr

def ApiLock.rank : ApiLock → Nat
  | app => 0
  | authThrottle => 1
  | sessions => 2

/-! ## The handlers -/

namespace LockCode

open Locks.Code

/-- A guard of a mutex that is a temporary of one statement. -/
def lock (taken : ApiLock) (fallible : Bool) (rest : Code ApiLock) : Code ApiLock :=
  brief taken .exclusive fallible rest

def appWrite (rest : Code ApiLock) : Code ApiLock := guard .app .exclusive rest

def appRead (rest : Code ApiLock) : Code ApiLock := guard .app .shared rest

/-- So many calls, each of which may fail, until the handler answers. -/
def checks : Nat → Code ApiLock
  | 0 => finish
  | n + 1 => mayLeave (checks n)

/-- `authenticate_request` before the rest of a handler. -/
def authenticateRequest (rest : Code ApiLock) : Code ApiLock :=
  mayLeave (lock .sessions true rest)

/-- The check of a permission before the rest of a handler. -/
def authorize (rest : Code ApiLock) : Code ApiLock := mayLeave rest

def health : Code ApiLock := finish

def bootstrapAdmin : Code ApiLock :=
  appWrite <|
    -- there are users: a record, then the error
    either (mayLeave finish) <|
      -- the user cannot be created: a record, then the error
      either (mayLeave finish) <|
        -- the password is checked, a record left, a session issued
        mayLeave (mayLeave (lock .sessions false finish))

def login : Code ApiLock :=
  lock .authThrottle true <|
    appWrite <|
      either
        (lock .authThrottle false (mayLeave (lock .sessions false finish)))
        (lock .authThrottle false (mayLeave finish))

/-- The guard of the sessions lives in a block of its own, which may be left
at the lookup. -/
def logout : Code ApiLock :=
  mayLeave (lock .sessions true (appWrite (mayLeave finish)))

def createCustomer : Code ApiLock := authenticateRequest (authorize (appWrite (checks 2)))

def listAudit : Code ApiLock := authenticateRequest (authorize (appRead (checks 2)))

def listCustomers : Code ApiLock := authenticateRequest (authorize (appRead finish))

def createUser : Code ApiLock := authenticateRequest (authorize (appWrite (checks 2)))

def listUsers : Code ApiLock := authenticateRequest (authorize (appRead finish))

/-- The owner is looked up if there is one. -/
def createAccount : Code ApiLock :=
  authenticateRequest (authorize (appWrite (either (checks 5) (checks 4))))

def listAccounts : Code ApiLock := authenticateRequest (appRead (checks 1))

def getAccount : Code ApiLock := authenticateRequest (appRead (checks 2))

def listAccountTransactions : Code ApiLock := authenticateRequest (appRead (checks 4))

def mutateAccountMoney : Code ApiLock := authenticateRequest (appWrite (checks 5))

def deposit : Code ApiLock := mutateAccountMoney

def withdraw : Code ApiLock := mutateAccountMoney

def applyFee : Code ApiLock := authenticateRequest (authorize (appWrite (checks 4)))

def requestLoan : Code ApiLock := authenticateRequest (authorize (appWrite (checks 4)))

def payLoan : Code ApiLock := authenticateRequest (appWrite (checks 5))

def transfer : Code ApiLock := authenticateRequest (appWrite (checks 6))

end LockCode

def Request.lockCode : Request → Code ApiLock
  | health => LockCode.health
  | bootstrapAdmin _ => LockCode.bootstrapAdmin
  | login _ => LockCode.login
  | logout _ => LockCode.logout
  | createCustomer _ _ => LockCode.createCustomer
  | listAudit _ _ => LockCode.listAudit
  | listCustomers _ => LockCode.listCustomers
  | createUser _ _ => LockCode.createUser
  | listUsers _ => LockCode.listUsers
  | createAccount _ _ => LockCode.createAccount
  | listAccounts _ => LockCode.listAccounts
  | getAccount _ _ => LockCode.getAccount
  | listAccountTransactions _ _ _ => LockCode.listAccountTransactions
  | deposit _ _ _ => LockCode.deposit
  | withdraw _ _ _ => LockCode.withdraw
  | applyFee _ _ _ => LockCode.applyFee
  | requestLoan _ _ _ => LockCode.requestLoan
  | payLoan _ _ _ => LockCode.payLoan
  | transfer _ _ => LockCode.transfer

theorem Request.lockCode_ordered (request : Request) :
    request.lockCode.Ordered ApiLock.rank [] := by
  cases request <;> exact of_decide_eq_true rfl

/-- A login is refused by the throttle, or its record fails, or a session is
issued; or it is refused, and the record of that fails or not. -/
example : LockCode.login.exits =
    [[.acquire .authThrottle .exclusive, .release .authThrottle],
     [.acquire .authThrottle .exclusive, .release .authThrottle, .acquire .app .exclusive,
      .acquire .authThrottle .exclusive, .release .authThrottle, .release .app],
     [.acquire .authThrottle .exclusive, .release .authThrottle, .acquire .app .exclusive,
      .acquire .authThrottle .exclusive, .release .authThrottle,
      .acquire .sessions .exclusive, .release .sessions, .release .app],
     [.acquire .authThrottle .exclusive, .release .authThrottle, .acquire .app .exclusive,
      .acquire .authThrottle .exclusive, .release .authThrottle, .release .app],
     [.acquire .authThrottle .exclusive, .release .authThrottle, .acquire .app .exclusive,
      .acquire .authThrottle .exclusive, .release .authThrottle, .release .app]] := rfl

/-! ## What is changed under a lock -/

section Changes

variable (argon2 : Argon2) (env : Env)

variable {throttle : AuthThrottle}

theorem throttle_lockApp {α : Type} (m : AppM α) :
    Keeps (fun state => state.authThrottle = throttle) (lockApp m) :=
  triple_of_final fun state h => by rwa [lockApp_run]

theorem throttle_lockSessions {ε α : Type} (halt : ε → Halt) (m : Mut ApiSessionStore ε α) :
    Keeps (fun state => state.authThrottle = throttle) (lockSessions halt m) :=
  triple_of_final fun state h => by rwa [lockSessions, zoom_run]

theorem throttle_authenticated {α : Type} (headers : HeaderMap) (m : Session → AppM α) :
    Keeps (fun state => state.authThrottle = throttle) (authenticated headers env m) :=
  ((keeps_lift _).bind fun _ => throttle_lockSessions _ _).bind fun _ => throttle_lockApp _

theorem throttle_issueSession (session : Session) :
    Keeps (fun state => state.authThrottle = throttle) (issueSession session env) :=
  (throttle_lockSessions _ _).bind fun _ => keeps_of_readOnly fun _ => rfl

theorem throttle_logout (headers : HeaderMap) :
    Keeps (fun state => state.authThrottle = throttle) (logout headers env) :=
  (keeps_lift _).bind fun _ => (throttle_lockSessions _ _).bind fun _ =>
    (throttle_lockSessions _ _).bind fun _ => (throttle_lockApp _).bind fun _ =>
      keeps_of_readOnly fun _ => rfl

/-- Only a login is counted. -/
theorem handle_authThrottle {request : Request} (h : ∀ payload, request ≠ .login payload)
    (state : ApiState) :
    (handle argon2 env request state).2.authThrottle = state.authThrottle := by
  cases request with
  | health => rfl
  | login payload => exact absurd rfl (h payload)
  | bootstrapAdmin payload =>
    rw [handle, map_run]
    exact ((throttle_lockApp _).bind fun session => throttle_issueSession env session).final rfl
  | logout headers =>
    rw [handle, map_run]
    exact (throttle_logout env headers).final rfl
  | _ =>
    rw [handle, map_run]
    exact (throttle_authenticated env _ _).final rfl

/-- What a handler changes, it has the lock of. -/
theorem handle_changes_locked (request : Request) (state : ApiState) :
    let state' := (handle argon2 env request state).2
    (state'.app ≠ state.app → request.lockCode.takes .app .exclusive = true) ∧
    (state'.authThrottle ≠ state.authThrottle →
      request.lockCode.takes .authThrottle .exclusive = true) ∧
    (state'.sessions ≠ state.sessions →
      request.lockCode.takes .sessions .exclusive = true) := by
  intro state'
  refine ⟨fun happ => ?_, fun hthrottle => ?_, fun hsessions => ?_⟩
  · by_cases hreads : request.Reads
    · exact absurd (handle_reads argon2 env hreads state) happ
    · cases request <;> first | rfl | exact absurd trivial hreads
  · by_cases hlogin : ∃ payload, request = .login payload
    · obtain ⟨payload, rfl⟩ := hlogin
      rfl
    · exact absurd (handle_authThrottle argon2 env (not_exists.mp hlogin) state) hthrottle
  · cases request with
    | health => exact absurd rfl hsessions
    | _ => rfl

end Changes

/-! ## Handlers at the same time -/

/-- A run of a handler, along one of its ways out. -/
structure HandlerRun where
  request : Request
  exit : Trace ApiLock
  isExit : exit ∈ request.lockCode.exits

theorem HandlerRun.walk_exit (run : HandlerRun) :
    Locks.walk ApiLock.rank [] run.exit = some [] :=
  Code.Ordered.walk_exits run.request.lockCode_ordered _ run.isExit

/-- The locks after handlers arrived and went on in any order. -/
def locksAfter (events : List (Locks.Event HandlerRun)) : Locks.Config ApiLock :=
  .after HandlerRun.exit events

/-- Whatever handlers run at the same time, and in whatever order they take
their steps, it never comes to handlers that all wait. None waits for the
application while it holds a lock, nor for a lock that it holds, and one
that is done holds none. -/
theorem handlers_never_deadlock (events : List (Locks.Event HandlerRun)) :
    ¬(locksAfter events).Deadlocked ∧
    ∀ task ∈ (locksAfter events).tasks,
      (∀ access rest, task.rest = .acquire .app access :: rest → task.held = []) ∧
      (∀ lock access rest, task.rest = .acquire lock access :: rest →
        ∀ hold ∈ task.held, hold.1 ≠ lock) ∧
      (task.rest = [] → task.held = []) := by
  have hsound : (locksAfter events).Sound ApiLock.rank :=
    Locks.Config.sound_after HandlerRun.walk_exit events
  refine ⟨hsound.not_deadlocked, fun task htask => ?_⟩
  have hordered := hsound.ordered task htask
  refine ⟨fun access rest hrest => ?_, fun lock access rest hrest hold hhold heq => ?_,
    fun hrest => ?_⟩
  · rw [hrest] at hordered
    have hbelow := (Locks.walk_acquire hordered).1
    -- no lock is below that of the application
    exact List.eq_nil_iff_forall_not_mem.mpr fun hold hhold =>
      absurd (hbelow hold hhold) (Nat.not_lt_zero _)
  · rw [hrest] at hordered
    have hbelow := (Locks.walk_acquire hordered).1 hold hhold
    rw [heq] at hbelow
    exact absurd hbelow (lt_irrefl _)
  · rw [hrest] at hordered
    exact Option.some.inj hordered

end Banck.Api
