/-
Banck.Api.SessionTheorems — what a token opens, against the whole history
of the session store.

The store forgets sessions that are over at two of its three calls, and may
give out a token again once it has forgotten it. `latest` reads off the
history what was last issued under a token and not revoked since. The store
agrees with it on every session that is not over (`Represents`), and every
call keeps that.
-/
import Banck.Lib.Machine
import Banck.Api.Sessions

namespace Banck.Api.ApiSessionStore

open Lib Machine

/-! ## Calls and histories -/

inductive Call where
  | issue (session : Session) (now : Nat) (drawn : List String)
  | authenticate (token : String) (now : Nat)
  | revoke (token : String)

/-- What a call returns; an `issue` whose loop found no token returns
nothing. -/
inductive Reply where
  | issued (issued : Option IssuedSession)
  | authenticated (result : Except ApiError Session)
  | revoked

def run (store : ApiSessionStore) : Call → Reply × ApiSessionStore
  | .issue session now drawn =>
      let (result, store) := ApiSessionStore.issue session now drawn store
      (.issued result.toOption, store)
  | .authenticate token now =>
      let (result, store) := ApiSessionStore.authenticate token now store
      (.authenticated result, store)
  | .revoke token => (.revoked, store.revoke token)

/-- The reading of the clock that a call is given. -/
def Call.time : Call → Option Nat
  | issue _ now _ => some now
  | authenticate _ now => some now
  | revoke _ => none

/-- The times of the calls do not decrease. -/
def Timely (calls : List Call) : Prop := (calls.filterMap Call.time).Pairwise (· ≤ ·)

/-- A call with what it returned. -/
abbrev Event : Type := Call × Reply

/-- The calls of a run with what they returned. -/
def history (calls : List Call) : List Event := calls.zip (outputs run new calls)

/-- The event is an issue of the token, for the session, at the time. -/
def Issues (token : String) (session : Session) (now : Nat) (event : Event) : Prop :=
  ∃ drawn issued, event = (.issue session now drawn, .issued (some issued)) ∧
    issued.accessToken = token

def Revokes (token : String) (event : Event) : Prop := event.1 = .revoke token

/-- The last issue of the token was for the session at the time, and the
token was not revoked since. -/
def LatestIssue (events : List Event) (token : String) (session : Session) (now : Nat) : Prop :=
  ∃ earlier issue later, events = earlier ++ issue :: later ∧ Issues token session now issue ∧
    ∀ event ∈ later, (∀ session now, ¬ Issues token session now event) ∧ ¬ Revokes token event

/-! ## What is stored under a token -/

/-- What an event leaves under a token. -/
def afterEvent (token : String) (stored : Option (Session × Nat)) :
    Event → Option (Session × Nat)
  | (.issue session now _, .issued (some issued)) =>
      if issued.accessToken = token then some (session, now) else stored
  | (.revoke revoked, _) => if revoked = token then none else stored
  | _ => stored

/-- The session that was last issued under a token, and when. -/
def latest (events : List Event) (token : String) : Option (Session × Nat) :=
  events.foldl (afterEvent token) none

theorem latest_snoc (events : List Event) (event : Event) (token : String) :
    latest (events ++ [event]) token = afterEvent token (latest events token) event := by
  rw [latest, List.foldl_append]
  rfl

/-- An event issues the token, revokes it, or leaves what is under it. -/
theorem afterEvent_cases (token : String) (event : Event) :
    (∃ session now, Issues token session now event ∧
        ∀ stored, afterEvent token stored event = some (session, now)) ∨
      (Revokes token event ∧ ∀ stored, afterEvent token stored event = none) ∨
      ((∀ session now, ¬ Issues token session now event) ∧ ¬ Revokes token event ∧
        ∀ stored, afterEvent token stored event = stored) := by
  obtain ⟨call, reply⟩ := event
  cases call with
  | authenticate other now =>
    refine .inr (.inr ⟨?_, by simp [Revokes], fun stored => by simp [afterEvent]⟩)
    rintro session now ⟨drawn, issued, h, -⟩
    cases h
  | revoke other =>
    have hnot : ∀ session now, ¬ Issues token session now (.revoke other, reply) := by
      rintro session now ⟨drawn, issued, h, -⟩
      cases h
    by_cases hsame : other = token
    · exact .inr (.inl ⟨congrArg Call.revoke hsame, fun stored => by simp [afterEvent, hsame]⟩)
    · refine .inr (.inr ⟨hnot, fun h => hsame ?_, fun stored => by simp [afterEvent, hsame]⟩)
      exact Call.revoke.inj h
  | issue session now drawn =>
    have hrevoke : ¬ Revokes token (.issue session now drawn, reply) := by simp [Revokes]
    rcases reply with issued | _ | _
    · cases issued with
      | none =>
        refine .inr (.inr ⟨?_, hrevoke, fun stored => by simp [afterEvent]⟩)
        rintro session' now' ⟨drawn', issued, h, -⟩
        cases h
      | some issued =>
        by_cases hsame : issued.accessToken = token
        · exact .inl ⟨session, now, ⟨drawn, issued, rfl, hsame⟩,
            fun stored => by simp [afterEvent, hsame]⟩
        · refine .inr (.inr ⟨?_, hrevoke, fun stored => by simp [afterEvent, hsame]⟩)
          rintro session' now' ⟨drawn', issued', h, htoken⟩
          cases h
          exact hsame htoken
    · refine .inr (.inr ⟨?_, hrevoke, fun stored => by simp [afterEvent]⟩)
      rintro session' now' ⟨drawn', issued, h, -⟩
      cases h
    · refine .inr (.inr ⟨?_, hrevoke, fun stored => by simp [afterEvent]⟩)
      rintro session' now' ⟨drawn', issued, h, -⟩
      cases h

theorem issues_unique {token : String} {event : Event} {session session' : Session}
    {now now' : Nat} (h : Issues token session now event)
    (h' : Issues token session' now' event) : session = session' ∧ now = now' := by
  obtain ⟨drawn, issued, rfl, -⟩ := h
  obtain ⟨drawn', issued', heq, -⟩ := h'
  cases heq
  exact ⟨rfl, rfl⟩

/-- The last event is the latest issue, or does not touch the token. -/
theorem latestIssue_snoc {events : List Event} {event : Event} {token : String}
    {session : Session} {now : Nat} :
    LatestIssue (events ++ [event]) token session now ↔
      Issues token session now event ∨
        (∀ session now, ¬ Issues token session now event) ∧ ¬ Revokes token event ∧
          LatestIssue events token session now := by
  constructor
  · rintro ⟨earlier, issue, later, heq, hissue, hlater⟩
    rcases List.eq_nil_or_concat later with rfl | ⟨init, last, rfl⟩
    · obtain ⟨-, hlast⟩ := List.append_inj' heq rfl
      obtain rfl := List.singleton_inj.mp hlast
      exact .inl hissue
    · rw [List.concat_eq_append, ← List.cons_append, ← List.append_assoc] at heq
      obtain ⟨rfl, hlast⟩ := List.append_inj' heq rfl
      obtain rfl := List.singleton_inj.mp hlast
      obtain ⟨hnot, hkeeps⟩ := hlater event (by simp)
      exact .inr ⟨hnot, hkeeps, earlier, issue, init, rfl, hissue,
        fun e he => hlater e (by simp [he])⟩
  · rintro (hissues | ⟨hnot, hkeeps, earlier, issue, later, rfl, hissue, hlater⟩)
    · exact ⟨events, event, [], rfl, hissues, by simp⟩
    · refine ⟨earlier, issue, later ++ [event], by simp, hissue, fun e he => ?_⟩
      rcases List.mem_append.mp he with he | he
      · exact hlater e he
      · obtain rfl := List.mem_singleton.mp he
        exact ⟨hnot, hkeeps⟩

/-- Reading off the history is finding the latest issue in it. -/
theorem latest_eq_some_iff (token : String) (session : Session) (now : Nat)
    (events : List Event) :
    latest events token = some (session, now) ↔ LatestIssue events token session now := by
  induction events using List.reverseRecOn with
  | nil => simp [latest, LatestIssue]
  | append_singleton events event ih =>
    rw [latest_snoc, latestIssue_snoc, ← ih]
    rcases afterEvent_cases token event with ⟨s, t, hissues, hafter⟩ | ⟨hrevokes, hafter⟩ |
      ⟨hnot, hkeeps, hafter⟩
    · rw [hafter, Option.some.injEq, Prod.mk.injEq]
      constructor
      · rintro ⟨rfl, rfl⟩
        exact .inl hissues
      · rintro (hissue | ⟨hnot, -⟩)
        · exact issues_unique hissues hissue
        · exact absurd hissues (hnot s t)
    · rw [hafter]
      constructor
      · intro h
        cases h
      · rintro (⟨drawn, issued, rfl, -⟩ | ⟨-, hkeeps, -⟩)
        · cases hrevokes
        · exact absurd hrevokes hkeeps
    · rw [hafter]
      constructor
      · exact fun h => .inr ⟨hnot, hkeeps, h⟩
      · rintro (hissue | ⟨-, -, h⟩)
        · exact absurd hissue (hnot session now)
        · exact h

/-! ## What the store keeps -/

/-- A session issued at a time, as it is stored. -/
def stored (issue : Session × Nat) : StoredApiSession :=
  ⟨issue.1, saturatingAddU64 issue.2 sessionTtlSeconds⟩

/-- At `now` the session is not over. -/
def live (now : Nat) (session : StoredApiSession) : Bool :=
  decide (now < session.expiresAtEpochSeconds)

/-- From `now` on, the store has under each token what the history says, if
that is not over. -/
def Represents (store : ApiSessionStore) (issues : String → Option (Session × Nat))
    (now : Nat) : Prop :=
  ∀ token t, now ≤ t →
    store.sessionsByToken[token]?.filter (live t) = ((issues token).map stored).filter (live t)

theorem filter_live_live {now t : Nat} (h : now ≤ t) (session : Option StoredApiSession) :
    (session.filter (live now)).filter (live t) = session.filter (live t) := by
  cases session with
  | none => rfl
  | some session =>
    by_cases hlive : t < session.expiresAtEpochSeconds
    · simp [Option.filter, live, hlive, Nat.lt_of_le_of_lt h hlive]
    · by_cases hnow : now < session.expiresAtEpochSeconds
      · simp [Option.filter, live, hlive, hnow]
      · simp [Option.filter, live, hlive, hnow]

theorem get_removeExpired (store : ApiSessionStore) (now : Nat) (token : String) :
    (store.removeExpired now).sessionsByToken[token]? =
      store.sessionsByToken[token]?.filter (live now) := by
  rw [removeExpired, OrdMap.get_retain]
  rfl

variable {store : ApiSessionStore} {issues : String → Option (Session × Nat)} {now : Nat}

theorem represents_new (now : Nat) : new.Represents (fun _ => none) now := by
  intro token t _
  simp [new]

theorem Represents.later (h : store.Represents issues now) {t : Nat} (ht : now ≤ t) :
    store.Represents issues t := fun token u hu => h token u (Nat.le_trans ht hu)

theorem Represents.removeExpired (h : store.Represents issues now) {t : Nat} (ht : now ≤ t) :
    (store.removeExpired t).Represents issues t := by
  intro token u hu
  rw [get_removeExpired, filter_live_live hu]
  exact h token u (Nat.le_trans ht hu)

/-- What authenticating answers, by what was issued. -/
def answer (now : Nat) (issue : Option (Session × Nat)) : Except ApiError Session :=
  match (issue.map stored).filter (live now) with
  | some session => .ok session.session
  | none => .error (.unauthorized "invalid or expired bearer token")

theorem Represents.authenticate (h : store.Represents issues now) (token : String) :
    (ApiSessionStore.authenticate token now store).1 = answer now (issues token) := by
  have hfound := h token now le_rfl
  rw [← get_removeExpired] at hfound
  simp only [ApiSessionStore.authenticate, Mut.bind_run, Mut.modify_run, Mut.get_run, hfound,
    answer]
  cases Option.filter (live now) ((issues token).map stored) <;> rfl

theorem answer_ok_iff {issue : Option (Session × Nat)} {session : Session} :
    answer now issue = .ok session ↔
      ∃ t, issue = some (session, t) ∧ now < min (t + sessionTtlSeconds) u64Max := by
  cases issue with
  | none => simp [answer, Option.filter]
  | some issue =>
    obtain ⟨session', t⟩ := issue
    by_cases h : now < min (t + sessionTtlSeconds) u64Max
    · have hlive : live now (stored (session', t)) = true := decide_eq_true h
      simp only [answer, Option.map_some, Option.filter_some_pos hlive]
      constructor
      · intro hok
        obtain rfl : session' = session := Except.ok.inj hok
        exact ⟨t, rfl, h⟩
      · rintro ⟨t', hissue, -⟩
        obtain ⟨rfl, rfl⟩ := Prod.mk.inj (Option.some.inj hissue)
        rfl
    · have hlive : live now (stored (session', t)) = false := decide_eq_false h
      simp only [answer, Option.map_some, Option.filter_some_neg hlive]
      constructor
      · intro hok
        cases hok
      · rintro ⟨t', hissue, ht⟩
        obtain ⟨rfl, rfl⟩ := Prod.mk.inj (Option.some.inj hissue)
        exact absurd ht h

/-- A token that is issued is one that opens nothing at the time. -/
theorem issue_ok {session : Session} {now : Nat} {drawn : List String}
    {issued : IssuedSession} {store' : ApiSessionStore}
    (h : ApiSessionStore.issue session now drawn store = (.ok issued, store')) :
    (store.removeExpired now).sessionsByToken[issued.accessToken]? = none ∧
      store'.sessionsByToken =
        (store.removeExpired now).sessionsByToken.insert issued.accessToken
          (stored (session, now)) := by
  simp only [ApiSessionStore.issue, Mut.bind_ok_iff, Mut.modify_ok_iff, Mut.get_ok_iff,
    Mut.okOr_ok_iff, Mut.pure_ok_iff] at h
  obtain ⟨_, _, rfl, _, _, ⟨rfl, rfl⟩, token, _, ⟨hunused, rfl⟩, _, _, rfl, rfl, rfl⟩ := h
  refine ⟨?_, rfl⟩
  have hfree := List.find?_some hunused
  rwa [Bool.not_eq_true', OrdMap.contains_eq_isSome, Option.isSome_eq_false_iff,
    Option.isNone_iff_eq_none] at hfree

theorem issue_error {session : Session} {now : Nat} {drawn : List String} {u : Unit}
    {store' : ApiSessionStore}
    (h : ApiSessionStore.issue session now drawn store = (.error u, store')) :
    store' = store.removeExpired now := by
  simp only [ApiSessionStore.issue, Mut.bind_run, Mut.modify_run, Mut.get_run] at h
  cases hunused : (store.removeExpired now).unusedToken drawn with
  | none =>
    rw [hunused] at h
    exact (Prod.mk.inj h).2.symm
  | some token =>
    rw [hunused] at h
    cases h

theorem authenticate_state (token : String) (now : Nat) :
    (ApiSessionStore.authenticate token now store).2 = store.removeExpired now := by
  simp only [ApiSessionStore.authenticate, Mut.bind_run, Mut.modify_run, Mut.get_run]
  cases ((store.removeExpired now).sessionsByToken[token]?).map StoredApiSession.session <;> rfl

/-! ## One call -/

/-- Every call keeps what the store represents, if it does not come from
the past. -/
theorem Represents.run (h : store.Represents issues now) (call : Call)
    (htime : ∀ t ∈ call.time, now ≤ t) :
    (run store call).2.Represents
      (fun token => afterEvent token (issues token) (call, (run store call).1))
      (call.time.getD now) := by
  cases call with
  | revoke revoked =>
    intro token t ht
    show (store.revoke revoked).sessionsByToken[token]?.filter (live t) = _
    rw [revoke]
    by_cases hsame : revoked = token
    · subst hsame
      rw [OrdMap.get_erase_self]
      simp [afterEvent]
    · rw [OrdMap.get_erase_ne _ fun he => hsame he.symm]
      simpa [afterEvent, hsame] using h token t ht
  | authenticate asked t =>
    have hkept := h.removeExpired (htime t rfl)
    rw [← authenticate_state asked t] at hkept
    exact hkept
  | issue session t drawn =>
    have hkept := h.removeExpired (htime t rfl)
    rcases hissue : ApiSessionStore.issue session t drawn store with ⟨_ | issued, store'⟩
    · have hrun : ApiSessionStore.run store (.issue session t drawn) =
          (.issued none, store') := by rw [ApiSessionStore.run, hissue]; rfl
      rw [hrun, issue_error hissue]
      exact hkept
    · have hrun : ApiSessionStore.run store (.issue session t drawn) =
          (.issued (some issued), store') := by rw [ApiSessionStore.run, hissue]; rfl
      rw [hrun]
      intro token u hu
      rw [(issue_ok hissue).2]
      by_cases hsame : issued.accessToken = token
      · rw [hsame, OrdMap.get_insert_self]
        simp [afterEvent, hsame]
      · rw [OrdMap.get_insert_ne _ _ fun he => hsame he.symm]
        simpa [afterEvent, hsame] using hkept token u hu

/-! ## Runs -/

theorem length_outputs (calls : List Call) :
    ∀ store : ApiSessionStore, (outputs run store calls).length = calls.length := by
  induction calls with
  | nil => exact fun _ => rfl
  | cons call rest ih => exact fun store => congrArg (· + 1) (ih _)

theorem history_snoc (calls : List Call) (call : Call) :
    history (calls ++ [call]) =
      history calls ++ [(call, (run (final run new calls) call).1)] := by
  rw [history, outputs_append, List.zip_append (length_outputs calls new).symm]
  rfl

/-- After every run in time, the store has what the history says. -/
theorem represents_of_run {calls : List Call} :
    ∀ {now : Nat}, Timely calls → (∀ t ∈ calls.filterMap Call.time, t ≤ now) →
      (final run new calls).Represents (latest (history calls)) now := by
  induction calls using List.reverseRecOn with
  | nil => exact fun _ _ => represents_new _
  | append_singleton calls call ih =>
    intro now htimely hpast
    rw [Timely, List.filterMap_append, List.pairwise_append] at htimely
    obtain ⟨hbefore, -, hlast⟩ := htimely
    rw [final_append, history_snoc, funext (latest_snoc _ _)]
    cases htime : call.time with
    | none =>
      have hstore := ih hbefore fun t ht => hpast t (by simp [ht])
      have hrun := hstore.run call (by simp [htime])
      rwa [htime] at hrun
    | some t =>
      have hmem : t ∈ [call].filterMap Call.time := by simp [htime]
      have hstore := ih hbefore fun t' ht' => hlast t' ht' t hmem
      have hrun := hstore.run call (by simp [htime])
      rw [htime] at hrun
      exact hrun.later (hpast t (by simp [htime]))

theorem represents_at {calls : List Call} {token : String} {now : Nat}
    (h : Timely (calls ++ [.authenticate token now])) :
    (final run new calls).Represents (latest (history calls)) now := by
  rw [Timely, List.filterMap_append, List.pairwise_append] at h
  obtain ⟨hcalls, -, hlast⟩ := h
  exact represents_of_run hcalls fun t ht => hlast t ht now (by simp [Call.time])

/-- After every run in time, a token opens a session exactly if the latest
issue of the token was for that session, it was not revoked since and its
time is not over. A token is only issued while it opens nothing, and a call
that neither issues nor revokes a token leaves what it opens. -/
theorem authenticate_iff_issued (calls : List Call) (token : String) (now : Nat)
    (h : Timely (calls ++ [.authenticate token now])) :
    let store := final run new calls
    (∀ session, (authenticate token now store).1 = .ok session ↔
      ∃ t, LatestIssue (history calls) token session t ∧
        now < min (t + sessionTtlSeconds) u64Max) ∧
    (∀ session drawn issued, (issue session now drawn store).1 = .ok issued →
      ∀ other, (authenticate issued.accessToken now store).1 ≠ .ok other) ∧
    (∀ call, Timely (calls ++ [call] ++ [.authenticate token now]) →
      (∀ session t, ¬ Issues token session t (call, (run store call).1)) →
      ¬ Revokes token (call, (run store call).1) →
      (authenticate token now (run store call).2).1 = (authenticate token now store).1) := by
  intro store
  have hstore : store.Represents (latest (history calls)) now := represents_at h
  refine ⟨fun session => ?_, fun session drawn issued hissue other hother => ?_,
    fun call hcall hissues hrevokes => ?_⟩
  · simp only [hstore.authenticate, answer_ok_iff, latest_eq_some_iff]
  · obtain ⟨hfree, -⟩ := issue_ok (Prod.ext hissue rfl)
    have hnone := (hstore issued.accessToken now le_rfl).symm
    rw [← get_removeExpired, hfree] at hnone
    rw [hstore.authenticate, answer, hnone] at hother
    cases hother
  · have hafter : (final run new (calls ++ [call])).Represents
        (latest (history (calls ++ [call]))) now := represents_at hcall
    rw [hstore.authenticate, show (run store call).2 = final run new (calls ++ [call]) from
      (final_append run calls [call] new).symm, hafter.authenticate, history_snoc, latest_snoc]
    rcases afterEvent_cases token (call, (run store call).1) with ⟨s, t, hissue, -⟩ |
      ⟨hrevoke, -⟩ | ⟨-, -, hkeeps⟩
    · exact absurd hissue (hissues s t)
    · exact absurd hrevoke hrevokes
    · rw [hkeeps]

/-- A token that is issued again after its first session is over. -/
theorem authenticate_iff_issued_again :
    let first : Session := ⟨1, "ann", .admin, none⟩
    let second : Session := ⟨2, "bob", .teller, none⟩
    let calls : List Call :=
      [.issue first 0 ["token"], .authenticate "token" 28799, .issue second 28800 ["token"]]
    (authenticate "token" 28800 (final run new calls)).1 = .ok second ↔
      ∃ t, LatestIssue (history calls) "token" second t ∧
        28800 < min (t + sessionTtlSeconds) u64Max :=
  (authenticate_iff_issued
    [.issue ⟨1, "ann", .admin, none⟩ 0 ["token"], .authenticate "token" 28799,
      .issue ⟨2, "bob", .teller, none⟩ 28800 ["token"]] "token" 28800
    (by simp [Timely, Call.time])).1 _

end Banck.Api.ApiSessionStore
