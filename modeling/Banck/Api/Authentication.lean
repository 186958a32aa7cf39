/-
Banck.Api.Authentication — in whose name a request acts.

A token is stored when it is answered to a login or to the request for the
first administrator, and a handler that looks for a session finds what is
stored. So whoever acts in a session presents a token that was given in
answer to the username and the password of that user, and was not ended
since by a logout (`held_of_stored`, `requests_act_for_logins`). The other
way round a token that was answered stays stored until it expires or is
ended, so it opens its session (`stored_of_granted`, `held_tokens_open`).
-/
import Banck.Api.Provenance
import Banck.Api.Serial

namespace Banck.Api

open Lib Mut Machine

/-- The username and the password for which a request is given a session. -/
def Request.credentials : Request → Option (String × String)
  | bootstrapAdmin payload => some (payload.username, payload.password)
  | login payload => some (payload.username, payload.password)
  | health | logout _ | createCustomer _ _ | listAudit _ _ | listCustomers _ | createUser _ _
  | listUsers _ | createAccount _ _ | listAccounts _ | getAccount _ _
  | listAccountTransactions _ _ _ | deposit _ _ _ | withdraw _ _ _ | applyFee _ _ _
  | requestLoan _ _ _ | payLoan _ _ _ | transfer _ _ => none

/-- The request was answered with a token for the session. -/
structure Handling.Grants (handling : Handling) (session : Session) (issued : IssuedSession) :
    Prop where
  asked : handling.request.credentials ≠ none
  acting : handling.session = some session
  answered : handling.stage = .answered (.ok (.session (.fromSession session issued)))

section Acts

variable {argon2 : Argon2} {env : Env} {handling handling' : Handling} {state state' : ApiState}

theorem Request.credentials_of_headers {request : Request} {headers : HeaderMap}
    (h : request.headers = some headers) : request.credentials = none := by
  cases request with
  | health | bootstrapAdmin | login => cases h
  | _ => rfl

/-- A lookup finds what is stored under the token of the request and has
not expired. -/
theorem authenticateRequest_ok_iff {headers : HeaderMap} {now : Nat} {found : Session} :
    (authenticateRequest headers now state).1 = .ok found ↔
      ∃ token stored, bearerToken headers = .ok token ∧
        state.sessions.sessionsByToken[(token : String)]? = some stored ∧
        now < stored.expiresAtEpochSeconds ∧ stored.session = found := by
  cases htoken : bearerToken headers with
  | error error =>
    simp only [authenticateRequest, htoken, bind_run, lift_run, Except.mapError]
    simp
  | ok token =>
    simp only [authenticateRequest, htoken, bind_run, lift_run, Except.mapError, lockSessions_run,
      ApiSessionStore.authenticate, modify_run, get_run, ApiSessionStore.get_removeExpired]
    cases hfound : state.sessions.sessionsByToken[token]? with
    | none => simp [hfound, okOr]
    | some stored =>
      by_cases hlive : now < stored.expiresAtEpochSeconds
      · have hkept : ApiSessionStore.live now stored = true := decide_eq_true hlive
        simp [hfound, hlive, Option.filter_some_pos hkept, okOr]
      · have hgone : ApiSessionStore.live now stored = false := decide_eq_false hlive
        simp [hfound, hlive, Option.filter_some_neg hgone, okOr]

/-- A handler that was asked for a session has it from the password. -/
theorem Act.login_cases (act : Act argon2 env handling state handling' state')
    {session : Session} {username password : String}
    (hsession : handling'.session = some session)
    (hasked : handling'.request.credentials = some (username, password)) :
    handling.session = some session ∧ handling.request.credentials = some (username, password) ∨
      state'.app.identities.authenticate argon2 username password = .ok session := by
  cases act with
  | bootstrapped run =>
    obtain rfl := Option.some.inj hsession
    obtain ⟨rfl, rfl⟩ := Prod.mk.inj (Option.some.inj hasked)
    obtain ⟨-, user, identities, -, hlogin, rfl⟩ := bootstrapApp_ok run
    exact .inr hlogin
  | opened reads =>
    rw [Request.credentials_of_headers reads] at hasked
    cases hasked
  | accepted run =>
    obtain rfl := Option.some.inj hsession
    obtain ⟨rfl, rfl⟩ := Prod.mk.inj (Option.some.inj hasked)
    exact .inr run
  | idle | health | bootstrapFailed | allowed | throttled | turnedAway | refused | loggedOut
  | unrecorded | worked | countedSuccess | countedFailure | loggedIn | refusalRecorded | issued
  | drawing => exact .inl ⟨hsession, hasked⟩

/-- A session is only issued to who was asked for credentials. -/
theorem Act.issuing (act : Act argon2 env handling state handling' state')
    (hstage : handling'.stage = .issuing) :
    handling' = handling ∨ handling'.request.credentials ≠ none := by
  cases act with
  | idle | drawing => exact .inl rfl
  | bootstrapped | loggedIn => exact .inr (Option.some_ne_none _)
  | health | bootstrapFailed | allowed | throttled | opened | turnedAway | accepted | refused
  | loggedOut | unrecorded | worked | countedSuccess | countedFailure | refusalRecorded | issued =>
    cases hstage

theorem issue_expires {session : Session} {now : Nat} {drawn : List String}
    {issued : IssuedSession} {store store' : ApiSessionStore}
    (h : ApiSessionStore.issue session now drawn store = (.ok issued, store')) :
    issued.expiresAtEpochSeconds = saturatingAddU64 now sessionTtlSeconds := by
  simp only [ApiSessionStore.issue, bind_ok_iff, modify_ok_iff, get_ok_iff, okOr_ok_iff,
    pure_ok_iff] at h
  obtain ⟨_, _, -, _, _, -, token, _, -, _, _, -, rfl, -⟩ := h
  rfl

/-- What is newly stored is the answer of the handler. -/
theorem Act.stored_grants (act : Act argon2 env handling state handling' state')
    (hissuing : handling.stage = .issuing → handling.request.credentials ≠ none)
    {token : String} {stored : StoredApiSession}
    (h : state'.sessions.sessionsByToken[token]? = some stored) :
    state.sessions.sessionsByToken[token]? = some stored ∨
      handling.stage = .issuing ∧
        handling'.Grants stored.session ⟨token, stored.expiresAtEpochSeconds⟩ ∧
        stored.expiresAtEpochSeconds = saturatingAddU64 env.issuedAt sessionTtlSeconds := by
  cases act with
  | idle | health | bootstrapped | bootstrapFailed | allowed | throttled | accepted | refused
  | loggedOut | unrecorded | worked | countedSuccess | countedFailure | loggedIn
  | refusalRecorded => exact .inl h
  | opened reads finds shrinks => exact .inl (shrinks token stored h)
  | turnedAway reads shrinks => exact .inl (shrinks token stored h)
  | @issued request session _ issued sessions run =>
    obtain ⟨-, hsessions⟩ := ApiSessionStore.issue_ok run
    simp only [hsessions] at h
    by_cases htoken : token = issued.accessToken
    · rw [htoken, OrdMap.get_insert_self] at h
      obtain rfl := Option.some.inj h
      have hissued : issued = ⟨token, saturatingAddU64 env.issuedAt sessionTtlSeconds⟩ := by
        rw [htoken, ← issue_expires run]
      exact .inr ⟨rfl, ⟨hissuing rfl, rfl, by rw [hissued]; rfl⟩, rfl⟩
    · rw [OrdMap.get_insert_ne _ _ htoken] at h
      exact .inl (state.sessions.shrinks_removeExpired env.issuedAt token stored h)
  | drawing run =>
    rw [ApiSessionStore.issue_error run] at h
    exact .inl (state.sessions.shrinks_removeExpired env.issuedAt token stored h)

/-- A request finds its session in the sessions, or has it from before. -/
theorem Act.acting_cases (act : Act argon2 env handling state handling' state')
    {headers : HeaderMap} (hheaders : handling'.request.headers = some headers)
    {session : Session} (hsession : handling'.session = some session) :
    handling.session = some session ∧ handling.request.headers = some headers ∨
      (authenticateRequest headers env.authenticatedAt state).1 = .ok session := by
  cases act with
  | opened reads finds =>
    obtain rfl := Option.some.inj (reads.symm.trans hheaders)
    obtain rfl := Option.some.inj hsession
    exact .inr finds
  | bootstrapped | accepted => cases hheaders
  | idle | health | bootstrapFailed | allowed | throttled | turnedAway | refused | loggedOut
  | unrecorded | worked | countedSuccess | countedFailure | loggedIn | refusalRecorded | issued
  | drawing => exact .inl ⟨hsession, hheaders⟩

theorem goOn_state {α : Type} (next : α → Handling) (result : Except Halt α × ApiState) :
    (handling.goOn next result).2 = result.2 := by
  rcases result with ⟨_ | _, _⟩ <;> rfl

/-- After a logout nothing is stored under its token, whether it was there
or not. -/
theorem endSession_token {headers : HeaderMap} {token : String}
    (htoken : bearerToken headers = .ok token) :
    (endSession env headers state).2.sessions.sessionsByToken[token]? = none := by
  simp only [endSession, htoken, Except.mapError, bind_run, lift_run, lockSessions_run,
    ApiSessionStore.authenticate_state]
  cases hfound : (ApiSessionStore.authenticate token env.authenticatedAt state.sessions).1 with
  | ok session => exact OrdMap.get_erase_self _ _
  | error error =>
    simp only [ApiSessionStore.authenticate, bind_run, modify_run, get_run] at hfound
    cases hstored : (state.sessions.removeExpired env.authenticatedAt).sessionsByToken[token]? with
    | none => rfl
    | some stored =>
      rw [hstored] at hfound
      cases hfound

/-- What has not expired is kept by every act but a logout with its
token. -/
theorem enter_keeps {request : Request} {headers : HeaderMap} {session : Option Session}
    (reads : request.headers = some headers) {token : String} {stored : StoredApiSession}
    (hstored : state.sessions.sessionsByToken[token]? = some stored)
    (hlive : env.authenticatedAt < stored.expiresAtEpochSeconds)
    (hnot : ∀ headers', request = .logout headers' → bearerToken headers' ≠ .ok token) :
    (Handling.enter argon2 env ⟨request, session, .arrived⟩
      state).2.sessions.sessionsByToken[token]? = some stored := by
  have hkept : ((state.sessions.removeExpired env.authenticatedAt).sessionsByToken[token]?) =
      some stored := by
    rw [ApiSessionStore.get_removeExpired, hstored]
    exact Option.filter_some_pos (decide_eq_true hlive)
  by_cases hlogout : ∃ headers', request = .logout headers'
  · obtain ⟨headers', rfl⟩ := hlogout
    rw [Handling.enter, goOn_state, endSession]
    cases htoken : bearerToken headers' with
    | error error => exact hstored
    | ok ended =>
      have hne : token ≠ ended := fun he => hnot headers' rfl (by rw [htoken, he])
      simp only [Except.mapError, bind_run, lift_run, lockSessions_run,
        ApiSessionStore.authenticate_state]
      cases (ApiSessionStore.authenticate ended env.authenticatedAt state.sessions).1 with
      | error error => exact hkept
      | ok found => exact (OrdMap.get_erase_ne _ hne).trans hkept
  · rw [Handling.enter_opens ⟨reads, fun headers' h => hlogout ⟨headers', h⟩⟩, goOn_state,
      authenticateRequest]
    cases bearerToken headers with
    | error error => exact hstored
    | ok asked =>
      simp only [Except.mapError, bind_run, lift_run, lockSessions_run,
        ApiSessionStore.authenticate_state]
      exact hkept

theorem Handling.act_keeps (argon2 : Argon2) (env : Env) (handling : Handling) (state : ApiState)
    {token : String} {stored : StoredApiSession}
    (hstored : state.sessions.sessionsByToken[token]? = some stored)
    (hlooked : env.authenticatedAt < stored.expiresAtEpochSeconds)
    (hissued : env.issuedAt < stored.expiresAtEpochSeconds)
    (hnot : ∀ headers session, handling = ⟨.logout headers, session, .arrived⟩ →
      bearerToken headers ≠ .ok token) :
    (handling.act argon2 env state).2.sessions.sessionsByToken[token]? = some stored := by
  have hkept : ((state.sessions.removeExpired env.issuedAt).sessionsByToken[token]?) =
      some stored := by
    rw [ApiSessionStore.get_removeExpired, hstored]
    exact Option.filter_some_pos (decide_eq_true hissued)
  have act := act_spec argon2 env handling state
  rcases hrun : handling.act argon2 env state with ⟨handling', state'⟩
  rw [hrun] at act
  cases act with
  | idle | health | bootstrapped | bootstrapFailed | allowed | throttled | accepted | refused
  | loggedOut | unrecorded | worked | countedSuccess | countedFailure | loggedIn
  | refusalRecorded => exact hstored
  | @opened request headers session _ _ _ reads | @turnedAway request headers session _ _ _ reads =>
    have hkeeps : (Handling.enter argon2 env ⟨request, session, .arrived⟩
        state).2.sessions.sessionsByToken[token]? = some stored :=
      enter_keeps reads hstored hlooked fun headers' he => hnot headers' session (by rw [he])
    rwa [show Handling.enter argon2 env ⟨request, session, .arrived⟩ state = _ from hrun] at hkeeps
  | issued run =>
    obtain ⟨hfree, hsessions⟩ := ApiSessionStore.issue_ok run
    simp only [hsessions]
    rw [OrdMap.get_insert_ne _ _ fun he => by rw [← he, hkept] at hfree; cases hfree]
    exact hkept
  | drawing run =>
    rw [ApiSessionStore.issue_error run]
    exact hkept

end Acts

/-! ## What happened to a token -/

namespace Server

/-- In this act a request is answered with a token for a session. -/
structure GrantedIn (argon2 : Argon2) (past : List Event) (j : Nat) (env : Env)
    (session : Session) (issued : IssuedSession) : Prop where
  before : ∃ handling, (after argon2 past).handlings[j]? = some handling ∧
    handling.stage = .issuing
  granted : ∃ handling, (after argon2 (past ++ [.act j env])).handlings[j]? = some handling ∧
    handling.Grants session issued
  expires : issued.expiresAtEpochSeconds = saturatingAddU64 env.issuedAt sessionTtlSeconds

/-- In this act a logout looks for the session of its token, to end it. -/
def EndedIn (argon2 : Argon2) (past : List Event) (k : Nat) (token : String) : Prop :=
  ∃ headers session, (after argon2 past).handlings[k]? = some ⟨.logout headers, session, .arrived⟩ ∧
    bearerToken headers = .ok token

/-- No logout ended the session of the token in these events. -/
def Lasts (argon2 : Argon2) (past between : List Event) (token : String) : Prop :=
  ∀ front k env back, between = front ++ .act k env :: back →
    ¬ EndedIn argon2 (past ++ front) k token

/-- The token was answered to the `j`-th request, for the session, and not
ended since. -/
def Held (argon2 : Argon2) (events : List Event) (j : Nat) (session : Session)
    (issued : IssuedSession) : Prop :=
  ∃ first env between, events = first ++ .act j env :: between ∧
    GrantedIn argon2 first j env session issued ∧
    Lasts argon2 (first ++ [.act j env]) between issued.accessToken

variable {argon2 : Argon2} {server server' : Server} {event : Event} {events : List Event}

theorem lasts_nil (past : List Event) (token : String) : Lasts argon2 past [] token := by
  intro front k env back h
  simp at h

theorem Lasts.snoc {past between : List Event} {token : String}
    (h : Lasts argon2 past between token)
    (hlast : ∀ k env, event = .act k env → ¬ EndedIn argon2 (past ++ between) k token) :
    Lasts argon2 past (between ++ [event]) token := by
  intro front k env back hsplit
  rcases List.eq_nil_or_concat' back with rfl | ⟨back', last, rfl⟩
  · obtain ⟨rfl, hevent⟩ := List.append_inj' hsplit rfl
    exact hlast k env (List.cons.inj hevent).1
  · rw [← List.cons_append, ← List.append_assoc] at hsplit
    obtain ⟨rfl, -⟩ := List.append_inj' hsplit rfl
    exact h front k env back' rfl

theorem Held.snoc {j : Nat} {session : Session} {issued : IssuedSession}
    (h : Held argon2 events j session issued)
    (hlast : ∀ k env, event = .act k env → ¬ EndedIn argon2 events k issued.accessToken) :
    Held argon2 (events ++ [event]) j session issued := by
  obtain ⟨first, env, between, rfl, hgranted, hlasts⟩ := h
  refine ⟨first, env, between ++ [event], by simp, hgranted, hlasts.snoc fun k env' he => ?_⟩
  rw [List.append_assoc, List.singleton_append]
  exact hlast k env' he

/-- Sessions are only issued to who was asked for credentials. -/
theorem issuing_asked (argon2 : Argon2) (events : List Event) :
    ∀ (i : Nat) (handling : Handling), (after argon2 events).handlings[i]? = some handling →
      handling.stage = .issuing → handling.request.credentials ≠ none := by
  refine after_invariant (I := fun server => ∀ (i : Nat) (handling : Handling),
    server.handlings[i]? = some handling → handling.stage = .issuing →
      handling.request.credentials ≠ none) ?_ ?_ events
  · intro i handling hfound
    simp [new] at hfound
  · intro server event server' hmove h i handling hfound hstage
    rcases hmove.handling_cases hfound with
      hold | ⟨request, -, rfl⟩ | ⟨env, before, -, hbefore, -, act⟩
    · exact h i handling hold hstage
    · cases hstage
    · rcases act.issuing hstage with rfl | hasked
      · exact h i handling hbefore hstage
      · exact hasked

/-- What is stored under a token was answered to a request, and not ended
since. -/
theorem held_of_stored (argon2 : Argon2) (events : List Event) :
    ∀ (token : String) (stored : StoredApiSession),
      (after argon2 events).state.sessions.sessionsByToken[token]? = some stored →
      ∃ j, Held argon2 events j stored.session ⟨token, stored.expiresAtEpochSeconds⟩ := by
  induction events using List.reverseRecOn with
  | nil =>
    intro token stored h
    simp [after, new, ApiState.new, ApiSessionStore.new] at h
  | append_singleton events event ih =>
    intro token stored h
    have hsame : ∀ hstored : (after argon2 events).state.sessions.sessionsByToken[token]? =
        some stored, (∀ k env, event = .act k env → ¬ EndedIn argon2 events k token) →
        ∃ j, Held argon2 (events ++ [event]) j stored.session
          ⟨token, stored.expiresAtEpochSeconds⟩ :=
      fun hstored hlast => (ih token stored hstored).imp fun j hheld => hheld.snoc hlast
    rw [after_snoc] at h
    cases event with
    | arrive request => exact hsame h fun k env he => by cases he
    | act i env =>
      cases hfound : (after argon2 events).handlings[i]? with
      | none =>
        refine hsame (by simpa only [step, hfound] using h) ?_
        rintro k _ ⟨⟩ ⟨headers, session, hthere, -⟩
        rw [hfound] at hthere
        cases hthere
      | some handling =>
        by_cases hblocked : (after argon2 events).Blocks i handling
        · refine hsame (by simpa only [step, hfound, if_pos hblocked] using h) ?_
          rintro k _ ⟨⟩ ⟨headers, session, hthere, -⟩
          rw [hfound] at hthere
          obtain rfl := Option.some.inj hthere
          cases hblocked.1
        · have hafter := step_act argon2 env hfound hblocked
          have act := act_spec argon2 env handling (after argon2 events).state
          rw [hafter, put_state] at h
          rcases act.stored_grants (issuing_asked argon2 events i handling hfound) h with
            hstored | hgrants
          · refine hsame hstored ?_
            rintro k _ ⟨⟩ ⟨headers, session, hthere, htoken⟩
            rw [hfound] at hthere
            obtain rfl := Option.some.inj hthere
            -- the logout has ended it
            have hended : (Handling.act argon2 env ⟨.logout headers, session, .arrived⟩
                (after argon2 events).state).2.sessions.sessionsByToken[token]? = none := by
              rw [Handling.act, Handling.enter, goOn_state]
              exact endSession_token htoken
            rw [h] at hended
            cases hended
          · obtain ⟨hstage, hgranted, hexpires⟩ := hgrants
            refine ⟨i, events, env, [], by simp, ⟨⟨handling, hfound, hstage⟩, ⟨_, ?_, hgranted⟩,
              hexpires⟩, lasts_nil _ _⟩
            rw [after_snoc, hafter, getElem?_put hfound, if_pos rfl]

/-- What is answered stays answered. -/
theorem Moves.answered (h : Moves argon2 server event server') {j : Nat} {handling : Handling}
    (found : server.handlings[j]? = some handling) {answer : Except Halt Response}
    (hstage : handling.stage = .answered answer) :
    server'.handlings[j]? = some handling := by
  cases h with
  | arrives request =>
    rw [List.getElem?_append_left (List.getElem?_eq_some_iff.mp found).1]
    exact found
  | waits => exact found
  | @acts i env acting acted state hfound free act =>
    rw [getElem?_put hfound]
    split
    · next hij =>
      subst hij
      obtain rfl := Option.some.inj (found.symm.trans hfound)
      rw [act.answered hstage]
    · exact found

theorem after_answered (argon2 : Argon2) (events more : List Event) {j : Nat} {handling : Handling}
    (found : (after argon2 events).handlings[j]? = some handling) {answer : Except Halt Response}
    (hstage : handling.stage = .answered answer) :
    (after argon2 (events ++ more)).handlings[j]? = some handling := by
  rw [after, final_append]
  exact final_invariant (I := fun server => server.handlings[j]? = some handling) (step argon2)
    (fun server event h => (step_moves argon2 server event).answered h hstage) more _ found

/-- The credentials that a session was given for open it, at any time. -/
theorem login_opens (hargon : argon2.ParsesOwnHashes) (events : List Event) :
    ∀ (i : Nat) (handling : Handling) (session : Session) (username password : String),
      (after argon2 events).handlings[i]? = some handling → handling.session = some session →
      handling.request.credentials = some (username, password) →
      (after argon2 events).state.app.identities.authenticate argon2 username password =
        .ok session := by
  induction events using List.reverseRecOn with
  | nil =>
    intro i handling session username password hfound
    simp [after, new] at hfound
  | append_singleton events event ih =>
    intro i handling session username password hfound hsession hasked
    have hmore := after_extends argon2 events [event]
    have hwf := (sound_after hargon events).wellFormed.identities
    have hwf' := (sound_after hargon (events ++ [event])).wellFormed.identities
    have hmove := step_moves argon2 (after argon2 events) event
    rw [← after_snoc] at hmove
    rcases hmove.handling_cases hfound with
      hold | ⟨request, -, rfl⟩ | ⟨env, before, -, hbefore, -, act⟩
    · exact hmore.authenticate hwf hwf' (ih i handling session _ _ hold hsession hasked)
    · cases hsession
    · rcases act.login_cases hsession hasked with ⟨hsession', hasked'⟩ | hlogin
      · exact hmore.authenticate hwf hwf' (ih i before session _ _ hbefore hsession' hasked')
      · exact hlogin

/-- A request that acts in a session looked it up, under a token that was
held then. -/
theorem looked_up (argon2 : Argon2) (events : List Event) :
    ∀ (i : Nat) (handling : Handling) (headers : HeaderMap) (session : Session),
      (after argon2 events).handlings[i]? = some handling →
      handling.request.headers = some headers → handling.session = some session →
      ∃ earlier lookup later j issued, events = earlier ++ .act i lookup :: later ∧
        bearerToken headers = .ok issued.accessToken ∧ Held argon2 earlier j session issued ∧
        lookup.authenticatedAt < issued.expiresAtEpochSeconds := by
  induction events using List.reverseRecOn with
  | nil =>
    intro i handling headers session hfound
    simp [after, new] at hfound
  | append_singleton events event ih =>
    intro i handling headers session hfound hheaders hsession
    have hbefore : ∀ before, (after argon2 events).handlings[i]? = some before →
        before.request.headers = some headers → before.session = some session → _ :=
      fun before => ih i before headers session
    rw [after_snoc] at hfound
    rcases (step_moves argon2 (after argon2 events) event).handling_cases hfound with
      hold | ⟨request, -, rfl⟩ | ⟨env, before, rfl, hthere, -, act⟩
    · obtain ⟨earlier, lookup, later, j, issued, rfl, hheld⟩ :=
        hbefore handling hold hheaders hsession
      exact ⟨earlier, lookup, later ++ [event], j, issued, by simp, hheld⟩
    · cases hsession
    · rcases act.acting_cases hheaders hsession with ⟨hsession', hheaders'⟩ | hfinds
      · obtain ⟨earlier, lookup, later, j, issued, rfl, hheld⟩ :=
          hbefore before hthere hheaders' hsession'
        exact ⟨earlier, lookup, later ++ [.act i env], j, issued, by simp, hheld⟩
      · obtain ⟨token, stored, htoken, hstored, hlive, rfl⟩ := authenticateRequest_ok_iff.mp hfinds
        obtain ⟨j, hheld⟩ := held_of_stored argon2 events token stored hstored
        exact ⟨events, env, [], j, ⟨token, stored.expiresAtEpochSeconds⟩, rfl, htoken, hheld,
          hlive⟩

/-- A token is stored in the act in which it is answered. -/
theorem GrantedIn.stored {past : List Event} {j : Nat} {env : Env} {session : Session}
    {issued : IssuedSession} (h : GrantedIn argon2 past j env session issued) :
    (after argon2 (past ++ [.act j env])).state.sessions.sessionsByToken[issued.accessToken]? =
      some ⟨session, issued.expiresAtEpochSeconds⟩ := by
  obtain ⟨⟨before, hbefore, hissuing⟩, ⟨opener, hopener, hgrants⟩, -⟩ := h
  rw [after_snoc] at hopener ⊢
  have hmove := step_moves argon2 (after argon2 past) (.act j env)
  generalize (step argon2 (after argon2 past) (.act j env)).2 = server' at hmove hopener ⊢
  have hanswered := hgrants.answered
  cases hmove with
  | waits =>
    obtain rfl := Option.some.inj (hbefore.symm.trans hopener)
    rw [hissuing] at hanswered
    cases hanswered
  | @acts _ _ handling handling' state found free act =>
    obtain rfl := Option.some.inj (hbefore.symm.trans found)
    rw [getElem?_put found, if_pos rfl] at hopener
    obtain rfl := Option.some.inj hopener
    cases act with
    | @issued request acting _ given sessions run =>
      have hsame : acting = session := Option.some.inj hgrants.acting
      have hresponse : SessionResponse.fromSession acting given = .fromSession session issued := by
        simpa using hanswered
      obtain ⟨-, -, -, -, htoken, -, hexpires⟩ := SessionResponse.mk.inj hresponse
      rw [put_state, (ApiSessionStore.issue_ok run).2, ← htoken, OrdMap.get_insert_self,
        ← hexpires, ← hsame, issue_expires run]
      rfl
    | drawing => cases hanswered
    | idle =>
      rw [hissuing] at hanswered
      cases hanswered
    | health | bootstrapped | bootstrapFailed | allowed | throttled | opened | turnedAway
    | accepted | refused | loggedOut | worked | countedSuccess | countedFailure | loggedIn
    | refusalRecorded => cases hissuing
    | unrecorded progress => rcases progress with rfl | ⟨_, rfl⟩ <;> cases hissuing

/-- The session calls of the events come before the time. -/
def Before (events : List Event) (time : Nat) : Prop :=
  ∀ i env, Event.act i env ∈ events → env.authenticatedAt < time ∧ env.issuedAt < time

/-- A token that is answered stays stored until it expires or a logout ends
it. -/
theorem stored_of_granted {past : List Event} {j : Nat} {env : Env} {session : Session}
    {issued : IssuedSession} (h : GrantedIn argon2 past j env session issued)
    (between : List Event) (hlasts : Lasts argon2 (past ++ [.act j env]) between issued.accessToken)
    (htimes : Before between issued.expiresAtEpochSeconds) :
    (after argon2 (past ++ [.act j env] ++ between)).state.sessions.sessionsByToken[
      issued.accessToken]? = some ⟨session, issued.expiresAtEpochSeconds⟩ := by
  induction between using List.reverseRecOn with
  | nil => simpa using h.stored
  | append_singleton between event ih =>
    have hstored := ih
      (fun front k env' back hsplit => hlasts front k env' (back ++ [event]) (by simp [hsplit]))
      fun i env' hmem => htimes i env' (List.mem_append_left _ hmem)
    rw [← List.append_assoc, after_snoc]
    generalize hserver : after argon2 (past ++ [.act j env] ++ between) = server at hstored
    cases event with
    | arrive request => exact hstored
    | act i env' =>
      cases hfound : server.handlings[i]? with
      | none => simpa only [step, hfound] using hstored
      | some handling =>
        by_cases hblocked : server.Blocks i handling
        · simpa only [step, hfound, if_pos hblocked] using hstored
        · obtain ⟨hlooked, hissuedAt⟩ := htimes i env' (List.mem_append_right _ List.mem_cons_self)
          rw [step_act argon2 env' hfound hblocked, put_state]
          refine Handling.act_keeps argon2 env' handling server.state hstored hlooked hissuedAt ?_
          rintro headers session' rfl htoken
          refine hlasts between i env' [] rfl ⟨headers, session', ?_, htoken⟩
          rw [hserver]
          exact hfound

/-- A request acts in the session that is stored under its token. -/
theorem step_looks_up {k : Nat} {request : Request} {headers : HeaderMap} {lookup : Env}
    (harrived : server.handlings[k]? = some ⟨request, none, .arrived⟩)
    (hheaders : request.headers = some headers) {token : String} {stored : StoredApiSession}
    (htoken : bearerToken headers = .ok token)
    (hstored : server.state.sessions.sessionsByToken[token]? = some stored)
    (hlive : lookup.authenticatedAt < stored.expiresAtEpochSeconds) :
    (step argon2 server (.act k lookup)).2.handlings[k]? =
      some ⟨request, some stored.session, .waiting⟩ := by
  have hfree : ¬ server.Blocks k ⟨request, none, .arrived⟩ := by
    intro hblocked
    cases request with
    | bootstrapAdmin => cases hheaders
    | _ => cases hblocked.1
  have hopens : (ApiSessionStore.authenticate token lookup.authenticatedAt
      server.state.sessions).1 = .ok stored.session := by
    simp only [ApiSessionStore.authenticate, bind_run, modify_run, get_run,
      ApiSessionStore.get_removeExpired, hstored]
    rw [Option.filter_some_pos (show ApiSessionStore.live _ stored = true from
      decide_eq_true hlive)]
    rfl
  have hfinds := authenticateRequest_ok_iff.mpr ⟨token, stored, htoken, hstored, hlive, rfl⟩
  rw [step_act argon2 lookup harrived hfree, getElem?_put harrived, if_pos rfl, Handling.act]
  by_cases hlogout : ∃ headers', request = .logout headers'
  · obtain ⟨headers', rfl⟩ := hlogout
    obtain rfl := Option.some.inj hheaders
    simp only [Handling.enter, endSession, htoken, Except.mapError, bind_run, lift_run,
      lockSessions_run, hopens]
    rfl
  · rw [Handling.enter_opens ⟨hheaders, fun headers' h => hlogout ⟨headers', h⟩⟩]
    rcases hrun : authenticateRequest headers lookup.authenticatedAt server.state with
      ⟨result, state⟩
    rw [hrun] at hfinds
    obtain rfl : result = .ok stored.session := hfinds
    rfl

end Server

/-! ## Who acts has logged in -/

open Server

/-- Whatever requests come to a new server and however their handlers take
turns: a request that acts in a session found it under its bearer token,
before that expired; the token had been answered to an earlier request, and
no logout had ended it since; and that request named the username and the
password with which the user of the session logs in. -/
theorem requests_act_for_logins (argon2 : Argon2) (hargon : argon2.ParsesOwnHashes)
    (events : List Event) :
    let server := after argon2 events
    ∀ (i : Nat) (handling : Handling) (headers : HeaderMap) (session : Session),
      server.handlings[i]? = some handling → handling.request.headers = some headers →
      handling.session = some session →
      ∃ earlier lookup later j issued, events = earlier ++ .act i lookup :: later ∧
        bearerToken headers = .ok issued.accessToken ∧ Held argon2 earlier j session issued ∧
        lookup.authenticatedAt < issued.expiresAtEpochSeconds ∧
        ∃ opener username password, server.handlings[j]? = some opener ∧
          opener.Grants session issued ∧
          opener.request.credentials = some (username, password) ∧
          server.state.app.identities.authenticate argon2 username password = .ok session := by
  intro server i handling headers session hfound hheaders hsession
  obtain ⟨earlier, lookup, later, j, issued, rfl, htoken, hheld, hlive⟩ :=
    looked_up argon2 events i handling headers session hfound hheaders hsession
  refine ⟨earlier, lookup, later, j, issued, rfl, htoken, hheld, hlive, ?_⟩
  obtain ⟨first, env, between, rfl, hgranted, -⟩ := hheld
  obtain ⟨opener, hopener, hgrants⟩ := hgranted.granted
  obtain ⟨⟨username, password⟩, hasked⟩ := Option.ne_none_iff_exists'.mp hgrants.asked
  have hnow : server.handlings[j]? = some opener := by
    have hall : first ++ .act j env :: between ++ .act i lookup :: later =
        first ++ [.act j env] ++ (between ++ .act i lookup :: later) := by simp
    have hlater := after_answered argon2 _ (between ++ .act i lookup :: later) hopener
      hgrants.answered
    rwa [← hall] at hlater
  exact ⟨opener, username, password, hnow, hgrants, hasked,
    login_opens hargon _ j opener session username password hnow hgrants.acting hasked⟩

def rootEnv : Env := ⟨5, 5, 5, 5, 5, 5, sampleSalt, ["token"]⟩

def rootHeaders : HeaderMap := ⟨some (.text "Bearer token")⟩

/-- The first administrator asks for the users. -/
def rootEvents : List Event :=
  [.arrive (.bootstrapAdmin ⟨1, "root", "correct-password"⟩), .act 0 rootEnv, .act 0 rootEnv,
   .arrive (.listUsers rootHeaders), .act 1 rootEnv]

theorem requests_act_for_logins_root :
    let server := after sampleArgon2 rootEvents
    ∃ (j : Nat) (opener : Handling) (username password : String) (issued : IssuedSession),
      server.handlings[j]? = some opener ∧ opener.Grants ⟨1, "root", .admin, none⟩ issued ∧
      opener.request.credentials = some (username, password) ∧
      server.state.app.identities.authenticate sampleArgon2 username password =
        .ok ⟨1, "root", .admin, none⟩ := by
  have hthere : (after sampleArgon2 rootEvents).handlings[1]?.map
      (fun handling => (handling.request.headers, handling.session)) =
      some (some rootHeaders, some ⟨1, "root", .admin, none⟩) := by
    decide +kernel
  obtain ⟨handling, hfound, hacting⟩ := Option.map_eq_some_iff.mp hthere
  obtain ⟨-, -, -, j, issued, -, -, -, -, opener, username, password, hrest⟩ :=
    requests_act_for_logins sampleArgon2 sampleArgon2_parses rootEvents 1 handling _ _ hfound
      (Prod.mk.inj hacting).1 (Prod.mk.inj hacting).2
  exact ⟨j, opener, username, password, issued, hrest⟩

/-- A token that was answered to a request opens the session of that request
to any other, until it expires or a logout ends it: whatever else came to
the server in between, a request that looks the token up in time goes on to
act in the session. -/
theorem held_tokens_open (argon2 : Argon2) {past between : List Event} {j k : Nat}
    {env lookup : Env} {session : Session} {issued : IssuedSession} {request : Request}
    {headers : HeaderMap}
    (hgranted : GrantedIn argon2 past j env session issued)
    (hlasts : Lasts argon2 (past ++ [.act j env]) between issued.accessToken)
    (htimes : Before (between ++ [.act k lookup]) issued.expiresAtEpochSeconds)
    (harrived : (after argon2 (past ++ [.act j env] ++ between)).handlings[k]? =
      some ⟨request, none, .arrived⟩)
    (hheaders : request.headers = some headers)
    (htoken : bearerToken headers = .ok issued.accessToken) :
    (after argon2 (past ++ [.act j env] ++ between ++ [.act k lookup])).handlings[k]? =
      some ⟨request, some session, .waiting⟩ := by
  have hstored := stored_of_granted hgranted between hlasts
    fun i env' hmem => htimes i env' (List.mem_append_left _ hmem)
  rw [after_snoc]
  exact step_looks_up harrived hheaders htoken hstored
    (htimes k lookup (List.mem_append_right _ List.mem_cons_self)).1

/-- The first administrator has arrived, and its session is not issued. -/
def rootPast : List Event :=
  [.arrive (.bootstrapAdmin ⟨1, "root", "correct-password"⟩), .act 0 rootEnv]

theorem held_tokens_open_root :
    (after sampleArgon2 (rootPast ++ [.act 0 rootEnv] ++ [.arrive (.listUsers rootHeaders)] ++
        [.act 1 rootEnv])).handlings[1]? =
      some ⟨.listUsers rootHeaders, some ⟨1, "root", .admin, none⟩, .waiting⟩ := by
  have hissuing : (after sampleArgon2 rootPast).handlings[0]?.map Handling.stage =
      some .issuing := by decide +kernel
  have hanswered : (after sampleArgon2 (rootPast ++ [.act 0 rootEnv])).handlings[0]?.map
        (fun handling => (handling.request.credentials.isSome, handling.session, handling.stage)) =
      some (true, some ⟨1, "root", .admin, none⟩, .answered (.ok (.session
        (.fromSession ⟨1, "root", .admin, none⟩ ⟨"token", 5 + sessionTtlSeconds⟩)))) := by
    decide +kernel
  obtain ⟨before, hbefore, hstage⟩ := Option.map_eq_some_iff.mp hissuing
  obtain ⟨opener, hopener, hgrants⟩ := Option.map_eq_some_iff.mp hanswered
  obtain ⟨hasked, hrest⟩ := Prod.mk.inj hgrants
  obtain ⟨hsession, hstage'⟩ := Prod.mk.inj hrest
  have hgranted : GrantedIn sampleArgon2 rootPast 0 rootEnv ⟨1, "root", .admin, none⟩
      ⟨"token", 5 + sessionTtlSeconds⟩ :=
    ⟨⟨before, hbefore, hstage⟩,
      ⟨opener, hopener, Option.isSome_iff_ne_none.mp hasked, hsession, hstage'⟩,
      by decide +kernel⟩
  refine held_tokens_open sampleArgon2 hgranted ?_ ?_ rfl rfl (by decide +kernel)
  · intro front k env back hsplit
    rcases front with _ | ⟨event, front⟩
    · simp at hsplit
    · simp at hsplit
  · intro i env hmem
    simp only [List.cons_append, List.nil_append, List.mem_cons, reduceCtorEq, List.not_mem_nil,
      or_false, false_or] at hmem
    obtain ⟨rfl, rfl⟩ := Event.act.inj hmem
    decide +kernel

end Banck.Api
