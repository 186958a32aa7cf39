/-
Banck.Api.Serial — requests that are served at the same time are served one
after the other, as far as the application is concerned.

A `Turn` is all that a handler does to the application while it has the
lock, as one step: it leaves the application changed and answers, or leaves
a session to be issued. The turns of a run are taken where the handlers
change the application (`Server.turns`), and whatever the interleaving, the
application is that of the turns run one by one from the start, in the
order in which the handlers took the lock, and each handler that is done
answers what its turn does (`turns_are_serial`). A turn is taken between
the arrival of its request and the answer, so this order is one that nobody
who waits for answers can tell from the real one.

A handler of a login decides long before it changes anything. That nobody
changes the application in between is the invariant (`Server.Serial`).
-/
import Banck.Api.AuditTrail

namespace Banck.Api

open Lib Mut Machine

/-! ## Turns -/

/-- The answer, or the session that is left to be issued. -/
inductive Outcome where
  | answer (answer : Except Halt Response)
  | grant (session : Session)
  deriving DecidableEq

inductive Turn where
  | bootstrapAdmin (payload : CreateBootstrapAdminRequest) (env : Env)
  | login (payload : LoginRequest) (env : Env)
  | logout (session : Session) (env : Env)
  | work (request : Request) (session : Session) (env : Env)

section Definitions

variable (argon2 : Argon2)

/-- The outcome of what may fail: this, or the error as the answer. -/
def outcomeOf {α : Type} (outcome : α → Outcome) : Except ApiError α × AppState → Outcome × AppState
  | (.ok a, app) => (outcome a, app)
  | (.error e, app) => (.answer (.error (.error e)), app)

def Turn.run (app : AppState) : Turn → Outcome × AppState
  | bootstrapAdmin payload env => outcomeOf .grant (bootstrapApp argon2 env payload app)
  | login payload env =>
      match app.identities.authenticate argon2 payload.username payload.password with
      | .ok session =>
          outcomeOf (fun _ => .grant session)
            (recordAudit (.fromSession session) .login .success (userTarget session.userId)
              "login succeeded" env.auditedAt app)
      | .error error =>
          outcomeOf (fun _ => .answer (.error (.error (.fromIdentity error))))
            (recordAudit .system .login .failure (some ("username:" ++ payload.username))
              error.display env.auditedAt app)
  | logout session env =>
      outcomeOf (fun _ => .answer (.ok (.logout { loggedOut := true })))
        (recordAudit (.fromSession session) .logout .success (userTarget session.userId)
          "logout succeeded" env.auditedAt app)
  | work request session env =>
      let (answer, app) := Api.work argon2 env request session app
      (.answer answer, app)

/-- The turn that the next act of a handling takes, if it takes one. -/
def Handling.turn (handling : Handling) (env : Env) : Option Turn :=
  match handling.stage, handling.request, handling.session with
  | .arrived, .bootstrapAdmin payload, _ => some (.bootstrapAdmin payload env)
  | .counted _, .login payload, _ => some (.login payload env)
  | .waiting, .logout _, some session => some (.logout session env)
  | .waiting, .health, _ | .waiting, .bootstrapAdmin _, _ | .waiting, .login _, _ => none
  | .waiting, request, some session => some (.work request session env)
  | _, _, _ => none

/-- The handler has done what its turn says. -/
def Handling.Shows (handling : Handling) : Outcome → Prop
  | .answer answer => handling.stage = .answered answer
  | .grant session =>
      handling.session = some session ∧ (handling.stage = .issuing ∨ ∃ issued,
        handling.stage = .answered (.ok (.session (.fromSession session issued))))

/-- The handler has answered well, or is about to, a request that looks at
the application. -/
def Handling.IsServed (handling : Handling) : Prop :=
  handling.request ≠ .health ∧
    (handling.stage = .issuing ∨ ∃ response, handling.stage = .answered (.ok response))

/-- The turn is one for the request of the handling, in its session. -/
def Turn.Of (handling : Handling) : Turn → Prop
  | bootstrapAdmin payload _ => handling.request = .bootstrapAdmin payload
  | login payload _ => handling.request = .login payload
  | logout session _ =>
      (∃ headers, handling.request = .logout headers) ∧ handling.session = some session
  | work request session _ => handling.request = request ∧ handling.session = some session

/-- The handler has decided on a login, and changed nothing yet. -/
def Stage.isUndecided : Stage → Bool
  | checked _ | counted _ => true
  | arrived | waiting | issuing | answered _ => false

namespace Server

/-- The turn that is taken in an event, with the place of its handling. -/
def turn (server : Server) : Event → Option (Nat × Turn)
  | .arrive _ => none
  | .act i env =>
      match server.handlings[i]? with
      | some handling =>
          if server.Blocks i handling then none else (handling.turn env).map fun turn => (i, turn)
      | none => none

/-- The turns that are taken in a run. -/
def turns (server : Server) : List Event → List (Nat × Turn)
  | [] => []
  | event :: rest => (server.turn event).toList ++ turns (step argon2 server event).2 rest

/-- The `i`-th handling is not in the middle of a login. -/
def decided (server : Server) (i : Nat) : Bool :=
  server.handlings[i]?.all fun handling => !handling.stage.isUndecided

end Server

end Definitions

/-! ## One act -/

section Acts

variable {argon2 : Argon2} {env : Env} {handling handling' : Handling} {state state' : ApiState}

/-- What has been decided in a login is what the application says now. -/
def Handling.Checked (argon2 : Argon2) (handling : Handling) (app : AppState) : Prop :=
  ∀ refusal, handling.stage = .checked refusal ∨ handling.stage = .counted refusal →
    ∃ payload, handling.request = .login payload ∧
      match refusal with
      | none => ∃ session, handling.session = some session ∧
          app.identities.authenticate argon2 payload.username payload.password = .ok session
      | some error =>
          app.identities.authenticate argon2 payload.username payload.password = .error error

theorem Handling.turn_opens {request : Request} {headers : HeaderMap}
    (h : request.OpensSession headers) (session : Option Session) :
    turn ⟨request, session, .waiting⟩ env = session.map fun s => .work request s env := by
  obtain ⟨hheaders, hlogout⟩ := h
  cases request with
  | health | bootstrapAdmin | login => cases hheaders
  | logout headers' => exact absurd rfl (hlogout headers')
  | _ => cases session <;> rfl

/-- An act that takes a turn changes the application as the turn does, and
has the outcome of it. -/
theorem Handling.act_turn {turn : Turn} (h : handling.turn env = some turn)
    (hchecked : handling.Checked argon2 state.app) :
    (handling.act argon2 env state).2.app = (turn.run argon2 state.app).2 ∧
      turn.Of (handling.act argon2 env state).1 ∧
      (handling.act argon2 env state).1.Shows (turn.run argon2 state.app).1 := by
  obtain ⟨request, session, stage⟩ := handling
  cases stage with
  | checked | issuing | answered => cases request <;> cases h
  | arrived =>
    cases request with
    | bootstrapAdmin payload =>
      obtain rfl := Option.some.inj h
      simp only [act, enter, lockApp_run, Turn.run]
      rcases bootstrapApp argon2 env payload state.app with ⟨e | made, app⟩
      · exact ⟨rfl, rfl, rfl⟩
      · exact ⟨rfl, rfl, rfl, .inl rfl⟩
    | _ => cases h
  | waiting =>
    cases request using Request.bySections with
    | health | bootstrapAdmin | login => cases session <;> cases h
    | logout headers =>
      cases session with
      | none => cases h
      | some session =>
        obtain rfl := Option.some.inj h
        simp only [act, proceed, lockApp_run, Turn.run]
        rcases recordAudit (.fromSession session) .logout .success (userTarget session.userId)
          "logout succeeded" env.auditedAt state.app with ⟨e | u, app⟩
        · exact ⟨rfl, ⟨⟨headers, rfl⟩, rfl⟩, rfl⟩
        · exact ⟨rfl, ⟨⟨headers, rfl⟩, rfl⟩, rfl⟩
    | opens request headers hopens =>
      rw [turn_opens hopens] at h
      cases session with
      | none => cases h
      | some session =>
        obtain rfl := Option.some.inj h
        simp only [act, proceed_opens hopens]
        exact ⟨rfl, ⟨rfl, rfl⟩, rfl⟩
  | counted refusal =>
    cases request with
    | login payload =>
      obtain rfl := Option.some.inj h
      obtain ⟨payload', hpayload, hrefusal⟩ := hchecked refusal (.inr rfl)
      obtain rfl := Request.login.inj hpayload
      cases refusal with
      | none =>
        obtain ⟨found, hsession, hlogin⟩ := hrefusal
        obtain rfl : session = some found := hsession
        simp only [act, record, lockApp_run, Turn.run, hlogin]
        rcases recordAudit (.fromSession found) .login .success (userTarget found.userId)
          "login succeeded" env.auditedAt state.app with ⟨e | u, app⟩
        · exact ⟨rfl, rfl, rfl⟩
        · exact ⟨rfl, rfl, rfl, .inl rfl⟩
      | some error =>
        have hlogin : state.app.identities.authenticate argon2 payload.username
          payload.password = .error error := hrefusal
        simp only [act, record, lockApp_run, Turn.run, hlogin]
        rcases recordAudit .system .login .failure (some ("username:" ++ payload.username))
          error.display env.auditedAt state.app with ⟨e | u, app⟩
        · exact ⟨rfl, rfl, rfl⟩
        · exact ⟨rfl, rfl, rfl⟩
    | _ => cases h

/-- An act that takes no turn leaves the application alone. -/
theorem Act.app_of_no_turn (act : Act argon2 env handling state handling' state')
    (h : handling.turn env = none) : state'.app = state.app := by
  cases act with
  | idle | health | allowed | throttled | opened | turnedAway | accepted | refused
  | countedSuccess | countedFailure | issued | drawing => rfl
  | bootstrapped | bootstrapFailed | loggedOut | loggedIn | refusalRecorded => cases h
  | unrecorded _ run => exact (recordAudit_error run).2
  | worked opens =>
    rw [Handling.turn_opens opens] at h
    cases h

/-- What a handling shows, it shows for ever. -/
theorem Act.shows (act : Act argon2 env handling state handling' state') {outcome : Outcome}
    (h : handling.Shows outcome) : handling'.Shows outcome := by
  cases outcome with
  | answer answer =>
    have hstage : handling.stage = .answered answer := h
    cases act with
    | idle => exact h
    | unrecorded progress =>
      rcases progress with rfl | ⟨refusal, rfl⟩ <;> cases hstage
    | _ => cases hstage
  | grant session =>
    obtain ⟨hsession, hstage⟩ := h
    cases act with
    | idle => exact ⟨hsession, hstage⟩
    | issued =>
      obtain rfl := Option.some.inj hsession
      exact ⟨rfl, .inr ⟨_, rfl⟩⟩
    | drawing => exact ⟨hsession, .inl rfl⟩
    | unrecorded progress =>
      rcases progress with rfl | ⟨refusal, rfl⟩ <;> rcases hstage with h | ⟨_, h⟩ <;> cases h
    | _ => rcases hstage with h | ⟨_, h⟩ <;> cases h

/-- The handling of a turn that is done remains the one of the turn. -/
theorem Act.of (act : Act argon2 env handling state handling' state') {turn : Turn}
    {outcome : Outcome} (hshows : handling.Shows outcome) (h : turn.Of handling) :
    turn.Of handling' := by
  have hsame : handling'.request = handling.request ∧ handling'.session = handling.session := by
    have hstage : handling.stage = .issuing ∨ ∃ answer, handling.stage = .answered answer := by
      cases outcome with
      | answer answer => exact .inr ⟨answer, hshows⟩
      | grant session => exact hshows.2.imp id fun ⟨_, h⟩ => ⟨_, h⟩
    cases act with
    | bootstrapped | opened | accepted => rcases hstage with h | ⟨_, h⟩ <;> cases h
    | _ => exact ⟨rfl, rfl⟩
  cases turn <;> simpa only [Turn.Of, hsame.1, hsame.2] using h

theorem Act.checked (act : Act argon2 env handling state handling' state')
    (h : handling.Checked argon2 state.app) : handling'.Checked argon2 state'.app := by
  cases act with
  | idle => exact h
  | @accepted payload session _ found run =>
    rintro refusal (hstage | hstage)
    · obtain rfl := Stage.checked.inj hstage
      exact ⟨payload, rfl, found, rfl, run⟩
    · cases hstage
  | @refused payload session _ error run =>
    rintro refusal (hstage | hstage)
    · obtain rfl := Stage.checked.inj hstage
      exact ⟨payload, rfl, run⟩
    · cases hstage
  | countedSuccess =>
    rintro refusal (hstage | hstage)
    · cases hstage
    · obtain rfl := Stage.counted.inj hstage
      exact h none (.inl rfl)
  | @countedFailure payload session _ error =>
    rintro refusal (hstage | hstage)
    · cases hstage
    · obtain rfl := Stage.counted.inj hstage
      exact h (some error) (.inl rfl)
  | health | bootstrapped | bootstrapFailed | allowed | throttled | opened | turnedAway
  | loggedOut | unrecorded | worked | loggedIn | refusalRecorded | issued | drawing =>
    rintro refusal (hstage | hstage) <;> cases hstage

/-- A turn is taken under the lock, and decides. -/
theorem Handling.takesApp_of_turn {turn : Turn} (h : handling.turn env = some turn) :
    handling.takesApp = true := by
  obtain ⟨request, session, stage⟩ := handling
  cases stage with
  | arrived =>
    cases request with
    | bootstrapAdmin payload => rfl
    | _ => cases h
  | waiting | checked | counted | issuing => rfl
  | answered => cases request <;> cases h

theorem Handling.Shows.decided {outcome : Outcome} (h : handling.Shows outcome) :
    handling.stage.isUndecided = false := by
  cases outcome with
  | answer answer =>
    rw [show handling.stage = .answered answer from h]
    rfl
  | grant session => rcases h.2 with h | ⟨_, h⟩ <;> rw [h] <;> rfl

/-- What takes the lock without a turn is a login. -/
theorem Handling.undecided_of_act (hready : handling.IsReady) (hturn : handling.turn env = none)
    (htakes : handling.takesApp = true) (hfree : handling.stage.holdsApp = false) :
    (handling.act argon2 env state).1.stage.isUndecided = true := by
  obtain ⟨request, session, stage⟩ := handling
  cases stage with
  | answered => cases htakes
  | checked | counted | issuing => cases hfree
  | arrived =>
    cases request with
    | bootstrapAdmin => cases hturn
    | _ => cases htakes
  | waiting =>
    cases request using Request.bySections with
    | health | bootstrapAdmin =>
      rcases hready rfl with ⟨payload, hpayload⟩ | ⟨-, hheaders⟩
      · cases hpayload
      · exact absurd rfl hheaders
    | login payload =>
      simp only [act, proceed]
      cases state.app.identities.authenticate argon2 payload.username payload.password <;> rfl
    | logout headers =>
      rcases hready rfl with ⟨payload, hpayload⟩ | ⟨hsession, -⟩
      · cases hpayload
      · obtain ⟨found, rfl⟩ := Option.ne_none_iff_exists'.mp hsession
        cases hturn
    | opens request headers hopens =>
      rw [turn_opens hopens] at hturn
      rcases hready rfl with ⟨payload, rfl⟩ | ⟨hsession, -⟩
      · cases hopens.1
      · obtain ⟨found, rfl⟩ := Option.ne_none_iff_exists'.mp hsession
        cases hturn

/-- What holds the lock does not decide without a turn. -/
theorem Act.undecided_iff (act : Act argon2 env handling state handling' state')
    (hchecked : handling.Checked argon2 state.app) (hturn : handling.turn env = none)
    (hholds : handling.stage.holdsApp = true) :
    handling'.stage.isUndecided = handling.stage.isUndecided := by
  cases act with
  | idle | countedSuccess | countedFailure | issued | drawing => rfl
  | health | bootstrapped | bootstrapFailed | allowed | throttled | opened | turnedAway | accepted
  | refused | loggedOut | worked => cases hholds
  | loggedIn | refusalRecorded => cases hturn
  | unrecorded progress =>
    rcases progress with rfl | ⟨refusal, rfl⟩
    · cases hholds
    · obtain ⟨payload, rfl, -⟩ := hchecked refusal (.inr rfl)
      cases hturn

/-- Nothing is served without a turn. -/
theorem Act.served (act : Act argon2 env handling state handling' state')
    (hturn : handling.turn env = none) (h : handling'.IsServed) : handling.IsServed := by
  obtain ⟨hrequest, hstage⟩ := h
  cases act with
  | idle => exact ⟨hrequest, hstage⟩
  | health => exact absurd rfl hrequest
  | issued => exact ⟨hrequest, .inl rfl⟩
  | drawing => exact ⟨hrequest, .inl rfl⟩
  | bootstrapped | loggedOut | loggedIn => cases hturn
  | worked opens =>
    rw [Handling.turn_opens opens] at hturn
    cases hturn
  | bootstrapFailed | allowed | throttled | opened | turnedAway | accepted | refused | unrecorded
  | countedSuccess | countedFailure | refusalRecorded =>
    rcases hstage with h | ⟨_, h⟩ <;> cases h

theorem Act.answered (act : Act argon2 env handling state handling' state')
    {answer : Except Halt Response} (h : handling.stage = .answered answer) :
    handling' = handling := by
  cases act with
  | idle => rfl
  | unrecorded progress => rcases progress with rfl | ⟨refusal, rfl⟩ <;> cases h
  | _ => cases h

end Acts

/-! ## Runs -/

namespace Server

variable {argon2 : Argon2} {env : Env} {server server' : Server} {event : Event} {i : Nat}
  {handling handling' : Handling} {state : ApiState} {told : List (Nat × Turn)}

/-- The outcome is what the handling of the turn shows. -/
def Showed (server : Server) (told : Nat × Turn) (outcome : Outcome) : Prop :=
  ∃ handling, server.handlings[told.1]? = some handling ∧ told.2.Of handling ∧
    handling.Shows outcome

/-- The application is that of the turns run one by one, in the order of
the lock, each with the outcome that its handling shows. -/
structure Serial (argon2 : Argon2) (server : Server) (told : List (Nat × Turn)) : Prop where
  logged : server.Logged
  app : server.state.app = final (Turn.run argon2) AppState.new (told.map Prod.snd)
  order : told.map Prod.fst = server.acquired.filter server.decided
  showed : List.Forall₂ server.Showed told
    (outputs (Turn.run argon2) AppState.new (told.map Prod.snd))
  checked : ∀ (i : Nat) (handling : Handling), server.handlings[i]? = some handling →
    handling.Checked argon2 server.state.app
  served : ∀ (i : Nat) (handling : Handling), server.handlings[i]? = some handling →
    handling.IsServed → i ∈ told.map Prod.fst

theorem serial_new : (new AppState.new).Serial argon2 [] := by
  refine ⟨logged_new, rfl, rfl, .nil, ?_, ?_⟩
  · intro i handling h
    simp [new] at h
  · intro i handling h
    simp [new] at h

theorem decided_put (found : server.handlings[i]? = some handling) (j : Nat) :
    (server.put i handling handling' state).decided j =
      if i = j then !handling'.stage.isUndecided else server.decided j := by
  unfold decided
  rw [getElem?_put found]
  split <;> rfl

theorem decided_found (found : server.handlings[i]? = some handling) :
    server.decided i = !handling.stage.isUndecided := by
  simp [decided, found]

theorem filter_decided_put (found : server.handlings[i]? = some handling) {others : List Nat}
    (hnot : i ∉ others) :
    others.filter (server.put i handling handling' state).decided =
      others.filter server.decided := by
  refine List.filter_congr fun j hj => ?_
  rw [decided_put found, if_neg]
  rintro rfl
  exact hnot hj

/-- The lock is taken for the first time, or is held. -/
theorem Logged.lock_cases (h : server.Logged) (found : server.handlings[i]? = some handling)
    (free : ¬ server.Blocks i handling) (htakes : handling.takesApp = true) (handling' : Handling)
    (state : ApiState) :
    (handling.stage.holdsApp = false ∧ i ∉ server.acquired ∧
      (server.put i handling handling' state).acquired = server.acquired ++ [i]) ∨
    handling.stage.holdsApp = true ∧ ∃ before, server.acquired = before ++ [i] ∧ i ∉ before ∧
      (server.put i handling handling' state).acquired = server.acquired := by
  cases hholder : server.holder with
  | none =>
    refine .inl ⟨?_, (h.not_acquired found htakes hholder).1, by simp [Server.put, htakes, hholder]⟩
    by_contra hholds
    have hself := (h.exclusive i).mpr ⟨handling, found, by simpa using hholds⟩
    rw [hholder] at hself
    cases hself
  | some k =>
    obtain rfl : k = i := by
      by_contra hki
      exact free ⟨htakes, by simp [hholder], by simp [hholder, hki]⟩
    obtain ⟨other, hother, hholds⟩ := (h.exclusive k).mp hholder
    obtain rfl := Option.some.inj (found.symm.trans hother)
    obtain ⟨before, hbefore⟩ := h.last k hholder
    refine .inr ⟨hholds, before, hbefore, ?_, by simp [Server.put, hholder]⟩
    have hnodup := h.nodup
    rw [hbefore, List.nodup_append] at hnodup
    exact fun hmem => hnodup.2.2 k hmem k (by simp) rfl

/-- The order after an act. -/
theorem Serial.order_put (h : server.Serial argon2 told)
    (found : server.handlings[i]? = some handling) (free : ¬ server.Blocks i handling)
    (act : Act argon2 env handling server.state
      (handling.act argon2 env server.state).1 (handling.act argon2 env server.state).2) :
    let after := server.put i handling (handling.act argon2 env server.state).1
      (handling.act argon2 env server.state).2
    (told ++ ((handling.turn env).map fun turn => (i, turn)).toList).map Prod.fst =
      after.acquired.filter after.decided := by
  intro after
  have hself : after.decided i = !(handling.act argon2 env server.state).1.stage.isUndecided := by
    rw [decided_put found, if_pos rfl]
  cases htakes : handling.takesApp with
  | false =>
    have hturn : handling.turn env = none := by
      by_contra hsome
      obtain ⟨turn, hturn⟩ := Option.ne_none_iff_exists'.mp hsome
      rw [Handling.takesApp_of_turn hturn] at htakes
      cases htakes
    have hacquired : after.acquired = server.acquired := by simp [after, put, htakes]
    rw [hturn, hacquired]
    simp only [Option.map_none, Option.toList_none, List.append_nil]
    rw [h.order]
    refine List.filter_congr fun j hj => ?_
    rw [decided_put found]
    split
    · next hij =>
      subst hij
      -- it has taken the lock, and needs it no more: it has answered
      obtain ⟨other, hother, hpast⟩ := h.logged.past i hj
      obtain rfl := Option.some.inj (found.symm.trans hother)
      rw [decided_found found]
      obtain ⟨request, session, stage⟩ := handling
      cases stage with
      | answered answer => rw [act.answered rfl]
      | arrived | waiting => exact hpast.elim
      | checked | counted | issuing => cases htakes
    · rfl
  | true =>
    have hdone : ∀ turn, handling.turn env = some turn → after.decided i = true := by
      intro turn hturn
      rw [hself, ((handling.act_turn hturn (h.checked i handling found)).2.2).decided]
      rfl
    have hlock : (handling.stage.holdsApp = false ∧ i ∉ server.acquired ∧
        after.acquired = server.acquired ++ [i]) ∨
        handling.stage.holdsApp = true ∧ ∃ before, server.acquired = before ++ [i] ∧ i ∉ before ∧
          after.acquired = server.acquired :=
      h.logged.lock_cases found free htakes _ _
    rcases hlock with ⟨hfree, hnew, hacquired⟩ | ⟨hholds, before, hbefore, hnew, hacquired⟩
    · rw [hacquired, List.filter_append, filter_decided_put found hnew, List.map_append, h.order]
      refine congrArg _ ?_
      cases hturn : handling.turn env with
      | none =>
        have hundecided : after.decided i = false := by
          rw [hself, Handling.undecided_of_act (h.logged.ready i handling found).1 hturn htakes
            hfree]
          rfl
        simp [hundecided]
      | some turn => simp [hdone turn hturn]
    · rw [hacquired, hbefore, List.filter_append, filter_decided_put found hnew, List.map_append,
        h.order, hbefore, List.filter_append, List.append_assoc]
      refine congrArg _ ?_
      cases hturn : handling.turn env with
      | none =>
        have hsame : after.decided i = server.decided i := by
          rw [hself, decided_found found,
            act.undecided_iff (h.checked i handling found) hturn hholds]
        cases hdecided : server.decided i <;> simp [hsame, hdecided]
      | some turn =>
        have hbegun : server.decided i = false := by
          rw [decided_found found]
          obtain ⟨request, session, stage⟩ := handling
          cases stage with
          | checked | counted => rfl
          | issuing => cases request <;> cases hturn
          | arrived | waiting | answered => cases hholds
        simp [hdone turn hturn, hbegun]

/-- The application after an act: the handlings but the one that acted do
not depend on it, unless it stayed. -/
theorem Serial.put (h : server.Serial argon2 told)
    (found : server.handlings[i]? = some handling) (free : ¬ server.Blocks i handling)
    (act : Act argon2 env handling server.state
      (handling.act argon2 env server.state).1 (handling.act argon2 env server.state).2) :
    (server.put i handling (handling.act argon2 env server.state).1
      (handling.act argon2 env server.state).2).Serial argon2
        (told ++ ((handling.turn env).map fun turn => (i, turn)).toList) := by
  have hchecked := h.checked i handling found
  have hshowed : ∀ told outcome, server.Showed told outcome →
      (server.put i handling (handling.act argon2 env server.state).1
        (handling.act argon2 env server.state).2).Showed told outcome := by
    rintro ⟨j, turn⟩ outcome ⟨other, hother, hof, hshows⟩
    unfold Showed
    rw [getElem?_put found]
    split
    · next hij =>
      subst hij
      obtain rfl := Option.some.inj (found.symm.trans hother)
      exact ⟨_, rfl, act.of hshows hof, act.shows hshows⟩
    · exact ⟨other, hother, hof, hshows⟩
  refine ⟨h.logged.put found free act, ?_, h.order_put found free act, ?_, ?_, ?_⟩
  · rw [put_state]
    cases hturn : handling.turn env with
    | none =>
      rw [act.app_of_no_turn hturn, h.app]
      simp
    | some turn =>
      rw [(handling.act_turn hturn hchecked).1, h.app]
      simp [final_append]
  · cases hturn : handling.turn env with
    | none => simpa using h.showed.imp hshowed
    | some turn =>
      obtain ⟨-, hof, hshows⟩ := handling.act_turn hturn hchecked
      rw [List.map_append, outputs_append, ← h.app]
      refine List.rel_append (h.showed.imp hshowed) (.cons ⟨_, ?_, hof, hshows⟩ .nil)
      rw [getElem?_put found, if_pos rfl]
  · intro j other hother
    rw [put_state]
    rw [getElem?_put found] at hother
    split at hother
    · obtain rfl := Option.some.inj hother
      exact act.checked hchecked
    · next hij =>
      cases hturn : handling.turn env with
      | none =>
        rw [act.app_of_no_turn hturn]
        exact h.checked j other hother
      | some turn =>
        -- the lock is not held by another, so no other login is under way
        intro refusal hstage
        have hholds : other.stage.holdsApp = true := by
          rcases hstage with h | h <;> rw [h] <;> rfl
        have hholder := (h.logged.exclusive j).mpr ⟨other, hother, hholds⟩
        refine absurd ⟨Handling.takesApp_of_turn hturn, ?_, ?_⟩ free
        · rw [hholder]
          exact Option.some_ne_none j
        · rw [hholder]
          exact fun he => hij (Option.some.inj he).symm
  · intro j other hother hserved
    rw [getElem?_put found] at hother
    rw [List.map_append, List.mem_append]
    split at hother
    · next hij =>
      subst hij
      obtain rfl := Option.some.inj hother
      cases hturn : handling.turn env with
      | none => exact .inl (h.served i handling found (act.served hturn hserved))
      | some turn => exact .inr (by simp)
    · exact .inl (h.served j other hother hserved)

theorem serial_step (h : server.Serial argon2 told) (event : Event) :
    (step argon2 server event).2.Serial argon2 (told ++ (server.turn event).toList) := by
  cases event with
  | arrive request =>
    have hmove : Moves argon2 server (.arrive request) (step argon2 server (.arrive request)).2 :=
      step_moves argon2 server (.arrive request)
    have hold : ∀ {j : Nat} {handling : Handling}, server.handlings[j]? = some handling →
        (server.handlings ++ [⟨request, none, .arrived⟩])[j]? = some handling := by
      intro j handling hfound
      rw [List.getElem?_append_left (List.getElem?_eq_some_iff.mp hfound).1, hfound]
    refine ⟨h.logged.moves hmove, by simpa [step, turn] using h.app, ?_, ?_, ?_, ?_⟩
    · simp only [turn, Option.toList_none, List.append_nil]
      rw [h.order]
      refine List.filter_congr fun j hj => ?_
      obtain ⟨handling, hfound, -⟩ := h.logged.past j hj
      rw [decided_found hfound]
      exact (decided_found (hold hfound)).symm
    · simp only [turn, Option.toList_none, List.append_nil]
      refine h.showed.imp ?_
      rintro _ _ ⟨handling, hfound, hshown⟩
      exact ⟨handling, hold hfound, hshown⟩
    · intro j handling hfound
      rcases hmove.handling_cases hfound with hbefore | ⟨request', -, rfl⟩ | ⟨env, _, hevent, -⟩
      · exact h.checked j handling hbefore
      · rintro refusal (hstage | hstage) <;> cases hstage
      · cases hevent
    · intro j handling hfound hserved
      rw [List.map_append, List.mem_append]
      rcases hmove.handling_cases hfound with hbefore | ⟨request', -, rfl⟩ | ⟨env, _, hevent, -⟩
      · exact .inl (h.served j handling hbefore hserved)
      · rcases hserved.2 with hstage | ⟨_, hstage⟩ <;> cases hstage
      · cases hevent
  | act i env =>
    cases hfound : server.handlings[i]? with
    | none => simpa [step, turn, hfound] using h
    | some handling =>
      by_cases hblocked : server.Blocks i handling
      · simpa [step, turn, hfound, hblocked] using h
      · rw [step_act argon2 env hfound hblocked]
        have hturn : server.turn (.act i env) = (handling.turn env).map fun turn => (i, turn) := by
          simp only [turn, hfound, if_neg hblocked]
        rw [hturn]
        exact h.put hfound hblocked (act_spec argon2 env handling server.state)

theorem serial_run (events : List Event) :
    ∀ {server : Server} {told : List (Nat × Turn)}, server.Serial argon2 told →
      (final (step argon2) server events).Serial argon2 (told ++ turns argon2 server events) := by
  induction events with
  | nil =>
    intro server told h
    simpa [turns] using h
  | cons event rest ih =>
    intro server told h
    have hrest := ih (serial_step h event)
    rwa [List.append_assoc] at hrest

theorem turns_append (argon2 : Argon2) (events more : List Event) :
    ∀ server : Server, turns argon2 server (events ++ more) =
      turns argon2 server events ++ turns argon2 (final (step argon2) server events) more := by
  induction events with
  | nil => exact fun _ => rfl
  | cons event rest ih =>
    intro server
    rw [List.cons_append, turns, turns, ih, final_cons, List.append_assoc]

end Server

/-! ## The theorem -/

open Server

/-- Whatever requests come to a new server and however their handlers take
turns: the application is that of the turns, run one after the other. They
are those of the handlings that took the lock and are not in the middle of
a login, in the order in which they took it; each is one for the request of
its handling, whose answer is the outcome of the turn; whoever is answered
well has had a turn, unless only the health of the server was asked for;
and a turn that was taken keeps its place. -/
theorem turns_are_serial (argon2 : Argon2) (events : List Event) :
    let server := after argon2 events
    let told := turns argon2 (new AppState.new) events
    server.state.app = final (Turn.run argon2) AppState.new (told.map Prod.snd) ∧
    told.map Prod.fst = server.acquired.filter server.decided ∧
    List.Forall₂ server.Showed told
      (outputs (Turn.run argon2) AppState.new (told.map Prod.snd)) ∧
    (∀ (i : Nat) (handling : Handling) (response : Response),
      server.handlings[i]? = some handling → handling.stage = .answered (.ok response) →
      handling.request ≠ .health → i ∈ told.map Prod.fst) ∧
    ∀ more, told <+: turns argon2 (new AppState.new) (events ++ more) := by
  intro server told
  have hserial : server.Serial argon2 told := serial_run events serial_new
  refine ⟨hserial.app, hserial.order, hserial.showed, ?_, fun more => ?_⟩
  · intro i handling response hfound hstage hrequest
    exact hserial.served i handling hfound ⟨hrequest, .inr ⟨response, hstage⟩⟩
  · rw [turns_append]
    exact List.prefix_append _ _

end Banck.Api
