/-
Banck.Api.Provenance — where the users and the sessions of a server come
from.

Identities only grow, each act by what its request asks for and its session
permits (`Act.serves`). So a session that once named a user names that user
for ever, in whatever store it is kept (`Server.Sound`), the first user ends
the time of the first administrator, and every other user was added by the
act of a request to create one, in the name of an administrator whom its
lookup found (`privilege_provenance`).
-/
import Banck.Api.ServerAlone
import Banck.IdentityRuns
import Banck.Program

namespace Banck.Api

open Lib Mut Machine

section Acts

variable {argon2 : Argon2} {env : Env} {headers : HeaderMap} {handling handling' : Handling}
  {state state' : ApiState}

/-! ## What an act does to sessions -/

/-- A session that a lookup finds is stored. -/
theorem stored_of_authenticateRequest {now : Nat} {found : Session}
    (h : (authenticateRequest headers now state).1 = .ok found) :
    ∃ token stored, state.sessions.sessionsByToken[(token : String)]? = some stored ∧
      stored.session = found := by
  obtain ⟨token, htoken⟩ := bearerToken_of_ok h
  simp only [authenticateRequest, htoken, bind_run, lift_run, Except.mapError, lockSessions_run,
    ApiSessionStore.authenticate, modify_run, get_run] at h
  cases hfound : (state.sessions.removeExpired now).sessionsByToken[token]? with
  | none =>
    rw [hfound] at h
    cases h
  | some stored =>
    rw [hfound] at h
    exact ⟨token, stored, state.sessions.shrinks_removeExpired now token stored hfound,
      Except.ok.inj h⟩

/-- A handler has its session from before, from the sessions, from the
users, or has just made the first user. -/
theorem Act.session_cases (act : Act argon2 env handling state handling' state')
    {session : Session} (h : handling'.session = some session) :
    handling.session = some session ∨
    (∃ token stored, state.sessions.sessionsByToken[(token : String)]? = some stored ∧
      stored.session = session) ∨
    (∃ username password, state.app.identities.authenticate argon2 username password =
      .ok session) ∨
    ∃ payload, bootstrapApp argon2 env payload state.app = (.ok session, state'.app) := by
  cases act with
  | idle | health | bootstrapFailed | allowed | throttled | turnedAway | refused | loggedOut
  | unrecorded | worked | countedSuccess | countedFailure | loggedIn | refusalRecorded | issued
  | drawing => exact .inl h
  | bootstrapped run =>
    obtain rfl := Option.some.inj h
    exact .inr (.inr (.inr ⟨_, run⟩))
  | opened reads finds shrinks =>
    obtain rfl := Option.some.inj h
    exact .inr (.inl (stored_of_authenticateRequest finds))
  | accepted run =>
    obtain rfl := Option.some.inj h
    exact .inr (.inr (.inl ⟨_, _, run⟩))

/-- What is stored was stored before, or is the session of the handler. -/
theorem Act.stored_cases (act : Act argon2 env handling state handling' state') {token : String}
    {stored : StoredApiSession} (h : state'.sessions.sessionsByToken[token]? = some stored) :
    state.sessions.sessionsByToken[token]? = some stored ∨
      handling.session = some stored.session := by
  cases act with
  | idle | health | bootstrapped | bootstrapFailed | allowed | throttled | accepted | refused
  | loggedOut | unrecorded | worked | countedSuccess | countedFailure | loggedIn
  | refusalRecorded => exact .inl h
  | opened reads finds shrinks => exact .inl (shrinks token stored h)
  | turnedAway reads shrinks => exact .inl (shrinks token stored h)
  | @issued request session _ issued sessions run =>
    obtain ⟨-, hsessions⟩ := ApiSessionStore.issue_ok run
    simp only at h
    rw [hsessions] at h
    by_cases htoken : token = issued.accessToken
    · rw [htoken, OrdMap.get_insert_self] at h
      obtain rfl := Option.some.inj h
      exact .inr rfl
    · rw [OrdMap.get_insert_ne _ _ htoken] at h
      exact .inl (state.sessions.shrinks_removeExpired env.issuedAt token stored h)
  | drawing run =>
    rw [ApiSessionStore.issue_error run] at h
    exact .inl (state.sessions.shrinks_removeExpired env.issuedAt token stored h)

/-- A request that waits with a session waited before, or has just found
it. -/
theorem Act.waits (act : Act argon2 env handling state handling' state')
    (hstage : handling'.stage = .waiting) (hopens : handling'.request.OpensSession headers)
    {session : Session} (hsession : handling'.session = some session) :
    handling' = handling ∨
      (authenticateRequest headers env.authenticatedAt state).1 = .ok session := by
  cases act with
  | idle => exact .inl rfl
  | opened reads finds shrinks =>
    obtain rfl := Option.some.inj (reads.symm.trans hopens.1)
    obtain rfl := Option.some.inj hsession
    exact .inr finds
  | allowed => cases hopens.1
  | health | bootstrapped | bootstrapFailed | throttled | turnedAway | accepted | refused
  | loggedOut | unrecorded | worked | countedSuccess | countedFailure | loggedIn
  | refusalRecorded | issued | drawing => cases hstage

/-! ## The first administrator -/

/-- The request made the first administrator. -/
def Handling.Founds (handling : Handling) : Prop :=
  (∃ payload, handling.request = .bootstrapAdmin payload) ∧
    (handling.stage = .issuing ∨ ∃ answer, handling.stage = .answered (.ok answer))

/-- A request that makes the first administrator finds no users, and leaves
one. -/
theorem Act.founds (act : Act argon2 env handling state handling' state') (h : handling'.Founds) :
    handling.Founds ∨ state.app.identities.hasUsers = false ∧
      state'.app.identities.hasUsers = true := by
  obtain ⟨⟨payload, hrequest⟩, hstage⟩ := h
  cases act with
  | idle => exact .inl ⟨⟨payload, hrequest⟩, hstage⟩
  | bootstrapped run =>
    obtain ⟨husers, user, identities, hcreate, -, rfl⟩ := bootstrapApp_ok run
    obtain ⟨-, -, -, _, _, -, -, -, rfl, rfl⟩ := IdentityStore.createUser_ok_iff.mp hcreate
    exact .inr ⟨husers, IdentityStore.hasUsers_iff.mpr ⟨_, _, OrdMap.get_insert_self _ _ _⟩⟩
  | issued | drawing => exact .inl ⟨⟨payload, hrequest⟩, .inl rfl⟩
  | worked opens =>
    obtain rfl := hrequest
    cases opens.1
  | health | allowed | throttled | accepted | refused | loggedOut | countedSuccess
  | countedFailure | loggedIn | refusalRecorded => cases hrequest
  | bootstrapFailed | opened | turnedAway | unrecorded =>
    rcases hstage with hissuing | ⟨answer, hanswered⟩
    · cases hissuing
    · cases hanswered

/-! ## Who adds a user -/

theorem identities_of_recordAudit {actor : AuditActor} {action : AuditAction}
    {outcome : AuditOutcome} {target : Option String} {message : String} {now : Nat}
    {app app' : AppState} {result : Except ApiError Unit}
    (run : recordAudit actor action outcome target message now app = (result, app')) :
    app'.identities = app.identities := by
  rcases result with error | u
  · rw [(recordAudit_error run).2]
  · rw [recordAudit_ok run]

/-- Only administrators manage the identities. -/
theorem Session.can_manageIdentity {session : Session} (h : session.can .manageIdentity = true) :
    session.role = .admin := by
  cases hrole : session.role with
  | admin => rfl
  | customer | teller => simp [Session.can, hrole, Role.can] at h

/-- A user is added by a request to create it, acting with the session of an
administrator; or by a request for the first administrator, which then
succeeds unless no id is left for its record. -/
theorem Act.adds (hargon : argon2.VerifiesOwnHashes)
    (act : Act argon2 env handling state handling' state') {id : UserId}
    (hnone : state.app.identities.users[id]? = none)
    (hsome : state'.app.identities.users[id]? ≠ none) :
    (∃ headers payload session, handling =
        ⟨.createUser headers payload, some session, .waiting⟩ ∧
      payload.id = id ∧ session.role = .admin) ∨
    ∃ payload session, handling = ⟨.bootstrapAdmin payload, session, .arrived⟩ ∧
      payload.userId = id ∧ state.app.identities.hasUsers = false ∧
      ((∃ made, handling' = ⟨.bootstrapAdmin payload, some made, .issuing⟩) ∨
        ¬ state.app.auditLog.HasId) := by
  have hadded := act.serves.added hnone hsome
  cases act with
  | idle | health | allowed | throttled | opened | turnedAway | accepted | refused
  | countedSuccess | countedFailure | issued | drawing => exact absurd hnone hsome
  | loggedOut response run | unrecorded progress run | loggedIn run | refusalRecorded run =>
    have hsame := identities_of_recordAudit run
    simp only [hsame] at hsome
    exact absurd hnone hsome
  | @bootstrapped payload session _ made _ run =>
    rcases hadded with ⟨s, hs, -⟩ | ⟨-, husers, salt, username, password, hact⟩
    · cases hs
    · obtain ⟨rfl, rfl, rfl, rfl⟩ := AppMove.bootstrapAdmin.inj (Option.some.inj hact)
      exact .inr ⟨payload, session, rfl, rfl, husers, .inl ⟨made, rfl⟩⟩
  | @bootstrapFailed payload session _ error _ run =>
    rcases hadded with ⟨s, hs, -⟩ | ⟨-, husers, salt, username, password, hact⟩
    · cases hs
    · obtain ⟨rfl, rfl, rfl, rfl⟩ := AppMove.bootstrapAdmin.inj (Option.some.inj hact)
      rcases bootstrapApp_error hargon run with hsame | hfull
      · simp only [hsame] at hsome
        exact absurd hnone hsome
      · exact .inr ⟨payload, session, rfl, rfl, husers, .inr hfull⟩
  | @worked request headers session _ opens =>
    rcases hadded with ⟨s, hs, hcan, salt, username, role, customerId, password, hact⟩ |
      ⟨-, -, salt, username, password, hact⟩
    · cases request with
      | createUser headers' payload =>
        obtain rfl := Option.some.inj hs
        obtain ⟨-, rfl, -⟩ := AppMove.createUser.inj (Option.some.inj hact)
        exact .inl ⟨headers', payload, session, rfl, rfl, Session.can_manageIdentity hcan⟩
      | _ => cases hact
    · cases request with
      | bootstrapAdmin payload => cases opens.1
      | _ => cases hact

end Acts

/-! ## The invariant -/

namespace Server

/-- Every session, stored or acted with, names a user; and at most one
request made the first administrator. -/
structure Sound (argon2 : Argon2) (server : Server) : Prop where
  wellFormed : server.state.app.WellFormed argon2
  stored : ∀ (token : String) (stored : StoredApiSession),
    server.state.sessions.sessionsByToken[token]? = some stored →
    stored.session.Names server.state.app.identities
  acting : ∀ (i : Nat) (handling : Handling) (session : Session),
    server.handlings[i]? = some handling → handling.session = some session →
    session.Names server.state.app.identities
  founded : ∀ (i : Nat) (handling : Handling), server.handlings[i]? = some handling →
    handling.Founds → server.state.app.identities.hasUsers = true
  once : ∀ (i j : Nat) (handling other : Handling), server.handlings[i]? = some handling →
    server.handlings[j]? = some other → handling.Founds → other.Founds → i = j

variable {argon2 : Argon2} {server server' : Server} {event : Event}

theorem sound_new (argon2 : Argon2) : (new AppState.new).Sound argon2 := by
  refine ⟨AppState.wellFormed_new, ?_, ?_, ?_, ?_⟩
  · intro token stored h
    simp [new, ApiState.new, ApiSessionStore.new] at h
  · intro i handling session h
    simp [new] at h
  · intro i handling h
    simp [new] at h
  · intro i j handling other h
    simp [new] at h

theorem Moves.extends (h : Moves argon2 server event server') :
    server.state.app.identities.Extends server'.state.app.identities := by
  cases h with
  | arrives | waits => exact .refl _
  | acts found free act => exact act.serves.extends

theorem Moves.wellFormed (hargon : argon2.ParsesOwnHashes) (h : Moves argon2 server event server')
    (hwf : server.state.app.WellFormed argon2) : server'.state.app.WellFormed argon2 := by
  cases h with
  | arrives | waits => exact hwf
  | acts found free act => exact act.serves.wellFormed hargon hwf

theorem Moves.founds (h : Moves argon2 server event server') {j : Nat} {handling' : Handling}
    (found : server'.handlings[j]? = some handling') (hfounds : handling'.Founds) :
    (∃ handling, server.handlings[j]? = some handling ∧ handling.Founds) ∨
      server.state.app.identities.hasUsers = false ∧
        server'.state.app.identities.hasUsers = true ∧ ∃ env, event = .act j env := by
  rcases h.handling_cases found with
    hold | ⟨request, -, rfl⟩ | ⟨env, handling, hevent, hbefore, -, act⟩
  · exact .inl ⟨handling', hold, hfounds⟩
  · rcases hfounds.2 with hstage | ⟨answer, hstage⟩ <;> cases hstage
  · rcases act.founds hfounds with hbefore' | ⟨hnone, husers⟩
    · exact .inl ⟨handling, hbefore, hbefore'⟩
    · exact .inr ⟨hnone, husers, env, hevent⟩

theorem Sound.moves (hargon : argon2.ParsesOwnHashes) (h : server.Sound argon2)
    (hmove : Moves argon2 server event server') : server'.Sound argon2 := by
  have hmore := hmove.extends
  have hwf := hmove.wellFormed hargon h.wellFormed
  refine ⟨hwf, ?_, ?_, ?_, ?_⟩
  · intro token stored hstored
    cases hmove with
    | arrives | waits => exact h.stored token stored hstored
    | acts found free act =>
      rcases act.stored_cases hstored with hbefore | hactor
      · exact (h.stored token stored hbefore).extends hmore
      · exact (h.acting _ _ _ found hactor).extends hmore
  · intro j handling' session hfound hsession
    rcases hmove.handling_cases hfound with
      hold | ⟨request, -, rfl⟩ | ⟨env, handling, -, hbefore, -, act⟩
    · exact (h.acting j handling' session hold hsession).extends hmore
    · cases hsession
    · rcases act.session_cases hsession with hkept | ⟨token, stored, hstored, rfl⟩ |
        ⟨username, password, hlogin⟩ | ⟨payload, hboot⟩
      · exact (h.acting j handling session hbefore hkept).extends hmore
      · exact (h.stored token stored hstored).extends hmore
      · exact (authenticate_names h.wellFormed.identities hlogin).extends hmore
      · obtain ⟨-, user, identities, -, hlogin, happ⟩ := bootstrapApp_ok hboot
        have hidentities : server'.state.app.identities = identities := by rw [happ]
        rw [hidentities]
        exact authenticate_names (hidentities ▸ hwf.identities) hlogin
  · intro j handling' hfound hfounds
    rcases hmove.founds hfound hfounds with ⟨handling, hbefore, hbefore'⟩ | ⟨-, husers, -⟩
    · exact hmore.hasUsers (h.founded j handling hbefore hbefore')
    · exact husers
  · intro i j handling other hi hj hfi hfj
    rcases hmove.founds hi hfi with ⟨first, hfirst, hfirst'⟩ | ⟨hnone, -, env, hevent⟩
    · rcases hmove.founds hj hfj with ⟨second, hsecond, hsecond'⟩ | ⟨hnone, -⟩
      · exact h.once i j first second hfirst hsecond hfirst' hsecond'
      · rw [h.founded i first hfirst hfirst'] at hnone
        cases hnone
    · rcases hmove.founds hj hfj with ⟨second, hsecond, hsecond'⟩ | ⟨-, -, env', hevent'⟩
      · rw [h.founded j second hsecond hsecond'] at hnone
        cases hnone
      · rw [hevent] at hevent'
        exact (Event.act.inj hevent').1

theorem sound_after (hargon : argon2.ParsesOwnHashes) (events : List Event) :
    (after argon2 events).Sound argon2 :=
  after_invariant (sound_new argon2) (fun _ _ _ hmove h => h.moves hargon hmove) events

theorem after_snoc (argon2 : Argon2) (events : List Event) (event : Event) :
    after argon2 (events ++ [event]) = (step argon2 (after argon2 events) event).2 := by
  rw [after, final_append]
  rfl

theorem after_extends (argon2 : Argon2) (events more : List Event) :
    (after argon2 events).state.app.identities.Extends
      (after argon2 (events ++ more)).state.app.identities := by
  rw [after, after, final_append]
  exact final_invariant (I := fun server =>
      (after argon2 events).state.app.identities.Extends server.state.app.identities)
    (step argon2) (fun server event h => h.trans (step_moves argon2 server event).extends) more _
    (.refl _)

/-! ## Histories -/

/-- The `i`-th handling found the session by the lookup of its first act. -/
def Found (argon2 : Argon2) (events : List Event) (i : Nat) (headers : HeaderMap)
    (session : Session) : Prop :=
  ∃ earlier env later, events = earlier ++ .act i env :: later ∧
    (authenticateRequest headers env.authenticatedAt (after argon2 earlier).state).1 = .ok session

/-- The act of the `i`-th handling, after the `earlier` events, adds the
user. -/
def Adds (argon2 : Argon2) (earlier : List Event) (i : Nat) (env : Env) (id : UserId) : Prop :=
  (after argon2 earlier).state.app.identities.users[id]? = none ∧
    (after argon2 (earlier ++ [.act i env])).state.app.identities.users[id]? ≠ none

/-- The user was added by a request to create it, which acted with the
session of an administrator that its token had opened. -/
def CreatedByAdmin (argon2 : Argon2) (events : List Event) (id : UserId) : Prop :=
  ∃ earlier i env later headers payload session,
    events = earlier ++ .act i env :: later ∧ Adds argon2 earlier i env id ∧
    (after argon2 earlier).handlings[i]? =
      some ⟨.createUser headers payload, some session, .waiting⟩ ∧
    payload.id = id ∧ session.role = .admin ∧ Found argon2 earlier i headers session

/-- The user was added by a request for the first administrator, which
found no users, and goes on to succeed unless no id is left for its
record. -/
def Bootstrapped (argon2 : Argon2) (events : List Event) (id : UserId) : Prop :=
  ∃ earlier i env later payload session,
    events = earlier ++ .act i env :: later ∧ Adds argon2 earlier i env id ∧
    (after argon2 earlier).handlings[i]? = some ⟨.bootstrapAdmin payload, session, .arrived⟩ ∧
    payload.userId = id ∧ (after argon2 earlier).state.app.identities.hasUsers = false ∧
    ((∃ made, (after argon2 (earlier ++ [.act i env])).handlings[i]? =
        some ⟨.bootstrapAdmin payload, some made, .issuing⟩) ∨
      ¬ (after argon2 earlier).state.app.auditLog.HasId)

/-- A request that waits with a session has found it. -/
theorem found_of_waiting (argon2 : Argon2) (events : List Event) (i : Nat) {request : Request}
    {headers : HeaderMap} {session : Session} (hopens : request.OpensSession headers)
    (h : (after argon2 events).handlings[i]? = some ⟨request, some session, .waiting⟩) :
    Found argon2 events i headers session := by
  induction events using List.reverseRecOn with
  | nil => simp [after, new] at h
  | append_singleton events event ih =>
    rw [after_snoc] at h
    rcases (step_moves argon2 (after argon2 events) event).handling_cases h with
      hold | ⟨request, -, hnew⟩ | ⟨env, handling, rfl, hbefore, -, act⟩
    · obtain ⟨earlier, env, later, rfl, hfound⟩ := ih hold
      exact ⟨earlier, env, later ++ [event], by simp, hfound⟩
    · cases hnew
    · rcases act.waits rfl hopens rfl with rfl | hfound
      · obtain ⟨earlier, env', later, rfl, hfound⟩ := ih hbefore
        exact ⟨earlier, env', later ++ [.act i env], by simp, hfound⟩
      · exact ⟨events, env, [], rfl, hfound⟩

/-- Every user was added by an administrator's request or by one for the
first administrator. -/
theorem added (hargon : argon2.VerifiesOwnHashes) (events : List Event) {id : UserId}
    (h : (after argon2 events).state.app.identities.users[id]? ≠ none) :
    CreatedByAdmin argon2 events id ∨ Bootstrapped argon2 events id := by
  induction events using List.reverseRecOn with
  | nil => simp [after, new, ApiState.new, AppState.new, IdentityStore.new] at h
  | append_singleton events event ih =>
    cases hbefore : (after argon2 events).state.app.identities.users[id]? with
    | some user =>
      -- the user was there before the event
      refine (ih (by simp [hbefore])).imp ?_ ?_
      · intro hcreated
        obtain ⟨earlier, i, env, later, headers, payload, session, rfl, hrest⟩ := hcreated
        exact ⟨earlier, i, env, later ++ [event], headers, payload, session, by simp, hrest⟩
      · intro hboot
        obtain ⟨earlier, i, env, later, payload, session, rfl, hrest⟩ := hboot
        exact ⟨earlier, i, env, later ++ [event], payload, session, by simp, hrest⟩
    | none =>
      rw [after_snoc] at h
      have hmove := step_moves argon2 (after argon2 events) event
      generalize hserver : (step argon2 (after argon2 events) event).2 = server' at hmove h
      cases hmove with
      | arrives | waits => exact absurd hbefore h
      | @acts i env handling handling' state found free act =>
        have hadds : Adds argon2 events i env id := ⟨hbefore, by rw [after_snoc, hserver]; exact h⟩
        rcases act.adds hargon hbefore h with ⟨headers, payload, session, rfl, hid, hrole⟩ |
          ⟨payload, session, rfl, hid, husers, hends⟩
        · have hfound := found_of_waiting argon2 events i ⟨rfl, fun _ h => by cases h⟩ found
          exact .inl ⟨events, i, env, [], headers, payload, session, rfl, hadds, found, hid, hrole,
            hfound⟩
        · refine .inr ⟨events, i, env, [], payload, session, rfl, hadds, found, hid, husers, ?_⟩
          refine hends.imp_left fun hissuing => ?_
          obtain ⟨made, rfl⟩ := hissuing
          exact ⟨made, by rw [after_snoc, hserver, getElem?_put found, if_pos rfl]⟩

/-- Once a user was added there are users. -/
theorem Adds.hasUsers {earlier : List Event} {i : Nat} {env : Env} {id : UserId}
    (h : Adds argon2 earlier i env id) (later : List Event) :
    (after argon2 (earlier ++ .act i env :: later)).state.app.identities.hasUsers = true := by
  obtain ⟨user, huser⟩ := Option.ne_none_iff_exists'.mp h.2
  have hmore := after_extends argon2 (earlier ++ [.act i env]) later
  rw [List.append_assoc, List.singleton_append] at hmore
  exact hmore.hasUsers (IdentityStore.hasUsers_iff.mpr ⟨id, user, huser⟩)

/-- Two requests for the first administrator do not both add a user. -/
theorem Bootstrapped.unique {events : List Event} {id id' : UserId}
    (h : Bootstrapped argon2 events id) (h' : Bootstrapped argon2 events id') : id = id' := by
  obtain ⟨earlier, i, env, later, payload, session, rfl, hadds, hfound, hid, husers, -⟩ := h
  obtain ⟨earlier', i', env', later', payload', session', heq, hadds', hfound', hid', husers', -⟩ :=
    h'
  rcases List.append_eq_append_iff.mp heq with ⟨between, rfl, hrest⟩ | ⟨between, rfl, hrest⟩
  · cases between with
    | nil =>
      obtain ⟨hevent, -⟩ := List.cons.inj hrest
      obtain ⟨rfl, -⟩ := Event.act.inj hevent
      rw [List.append_nil, hfound] at hfound'
      obtain rfl := Request.bootstrapAdmin.inj (Handling.mk.inj (Option.some.inj hfound')).1
      rw [← hid, hid']
    | cons event between =>
      obtain ⟨rfl, -⟩ := List.cons.inj hrest
      rw [hadds.hasUsers between] at husers'
      cases husers'
  · cases between with
    | nil =>
      obtain ⟨hevent, -⟩ := List.cons.inj hrest
      obtain ⟨rfl, -⟩ := Event.act.inj hevent
      rw [List.append_nil, hfound'] at hfound
      obtain rfl := Request.bootstrapAdmin.inj (Handling.mk.inj (Option.some.inj hfound)).1
      rw [← hid, hid']
    | cons event between =>
      obtain ⟨rfl, -⟩ := List.cons.inj hrest
      rw [hadds'.hasUsers between] at husers
      cases husers

end Server

/-! ## The theorem -/

open Server

/-- Whatever requests come to a new server and however their handlers take
turns, at most one request for the first administrator succeeds; every user
was added by a request to create it that acted with the session of an
administrator which its token had opened, or by one request for the first
administrator; customers and users stay as they were added; and every
session that is stored, or that a handler acts with, is that of a user, and
linked to a customer exactly if it is a customer's. -/
theorem privilege_provenance (argon2 : Argon2) (hargon : argon2.VerifiesOwnHashes)
    (events : List Event) :
    let server := after argon2 events
    let identities := server.state.app.identities
    (∀ (i j : Nat) (handling other : Handling), server.handlings[i]? = some handling →
      server.handlings[j]? = some other → handling.Founds → other.Founds → i = j) ∧
    (∀ id : UserId, identities.users[id]? ≠ none →
      CreatedByAdmin argon2 events id ∨ Bootstrapped argon2 events id) ∧
    (∀ id id', Bootstrapped argon2 events id → Bootstrapped argon2 events id' → id = id') ∧
    (∀ more, identities.Extends (after argon2 (events ++ more)).state.app.identities) ∧
    (∀ (token : String) (stored : StoredApiSession),
      server.state.sessions.sessionsByToken[token]? = some stored →
      stored.session.Names identities) ∧
    (∀ (i : Nat) (handling : Handling) (session : Session),
      server.handlings[i]? = some handling → handling.session = some session →
      session.Names identities) := by
  intro server identities
  have hsound := sound_after hargon.parsesOwnHashes events
  exact ⟨hsound.once, fun id h => added hargon events h, fun id id' h h' => h.unique h',
    after_extends argon2 events, hsound.stored, hsound.acting⟩

/-- The first administrator of a new server, and the session issued to
them. -/
theorem privilege_provenance_root :
    let env : Env := ⟨5, 5, 5, 5, 5, 5, sampleSalt, ["token"]⟩
    let events :=
      [.arrive (.bootstrapAdmin ⟨1, "root", "correct-password"⟩), .act 0 env, .act 0 env]
    (CreatedByAdmin sampleArgon2 events 1 ∨ Bootstrapped sampleArgon2 events 1) ∧
      (⟨1, "root", .admin, none⟩ : Session).Names
        (after sampleArgon2 events).state.app.identities :=
  ⟨(privilege_provenance sampleArgon2 sampleArgon2_verifies _).2.1 1 (by decide +kernel),
    (privilege_provenance sampleArgon2 sampleArgon2_verifies _).2.2.2.2.1 "token"
      ⟨⟨1, "root", .admin, none⟩, 5 + sessionTtlSeconds⟩ (by decide +kernel)⟩

end Banck.Api
