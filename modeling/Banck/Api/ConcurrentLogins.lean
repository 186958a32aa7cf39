/-
Banck.Api.ConcurrentLogins — how many guesses the throttle lets through
when they come at the same time.

A login asks the throttle, waits for the lock of the application, and has
its password checked and the outcome counted under that lock. The throttle
bounds the guesses as long as no failure locks a key while another login of
the key is between asking and being checked (`LocksTooLate`): then every
check finds the key unlocked, and no more than `failedLoginLimit` failures
are found before the key is. A login that has asked already is not asked
again, so six that ask together are all checked.
-/
import Banck.Api.ServerSteps
import Banck.Program

namespace Banck.Api

open Lib Machine AuthThrottle

/-! ## Logins of a key -/

/-- The key a request is throttled under. -/
def Request.throttleKey? : Request → Option String
  | login payload => some (throttleKey payload.username)
  | _ => none

/-- The identities have no session for the login. -/
def Request.isRefused (argon2 : Argon2) (identities : IdentityStore) : Request → Bool
  | login payload =>
      !(identities.authenticate argon2 payload.username payload.password).isOk
  | _ => false

/-- The password was checked and is wrong, which is not counted. -/
def Stage.hasFailed : Stage → Bool
  | checked (some _) => true
  | _ => false

theorem hasFailed_iff {stage : Stage} :
    stage.hasFailed = true ↔ ∃ error, stage = .checked (some error) := by
  unfold Stage.hasFailed
  split <;> simp_all

/-- The record of the key is locked at `now`, and neither the lock nor the
record is over. -/
def AuthThrottle.LockedAt (throttle : AuthThrottle) (key : String) (now : Nat) : Prop :=
  ∃ r ∈ remaining now (throttle.record key),
    ∃ lockedUntil ∈ r.lockedUntilEpochSeconds, now < lockedUntil

/-- How many failures of the key a record counts. -/
def attempts (record : Option FailedLoginRecord) : Nat :=
  record.elim 0 FailedLoginRecord.failedAttempts

namespace Server

variable (argon2 : Argon2) (server : Server) (key : String)

/-- The event is the check of a password for the key. -/
def ChecksPassword : Event → Prop
  | .arrive _ => False
  | .act i _ => ∃ handling ∈ server.handlings[i]?, ¬ server.Blocks i handling ∧
      handling.request.throttleKey? = some key ∧ handling.stage = .waiting

/-- The event is the check of a password for the key, and it fails. -/
def FailsCheck : Event → Prop
  | .arrive _ => False
  | .act i _ => ∃ handling ∈ server.handlings[i]?, ¬ server.Blocks i handling ∧
      handling.request.throttleKey? = some key ∧ handling.stage = .waiting ∧
      handling.request.isRefused argon2 server.state.app.identities = true

instance : ∀ event, Decidable (server.ChecksPassword key event)
  | .arrive _ => inferInstanceAs (Decidable False)
  | .act _ _ => inferInstanceAs (Decidable (∃ _ ∈ _, _))

instance : ∀ event, Decidable (server.FailsCheck argon2 key event)
  | .arrive _ => inferInstanceAs (Decidable False)
  | .act _ _ => inferInstanceAs (Decidable (∃ _ ∈ _, _))

/-- The event drops the failures of the key: a login succeeded, or the
record is found to be stale. -/
def Forgets : Event → Prop
  | .arrive _ => False
  | .act i env => ∃ handling ∈ server.handlings[i]?,
      handling.request.throttleKey? = some key ∧
      (handling.stage = .checked none ∨
        ∃ r ∈ server.state.authThrottle.record key,
          handling.stage = .arrived ∧ IsStale r env.authenticatedAt ∨
          handling.stage.hasFailed = true ∧ IsStale r env.failedAt)

instance : ∀ event, Decidable (server.Forgets key event)
  | .arrive _ => inferInstanceAs (Decidable False)
  | .act _ _ => inferInstanceAs (Decidable (∃ _ ∈ _, _))

/-- The event counts the failure that locks the key, and another login of
the key is between asking the throttle and being checked. -/
def LocksTooLate : Event → Prop
  | .arrive _ => False
  | .act i env =>
      (∃ handling ∈ server.handlings[i]?, handling.request.throttleKey? = some key ∧
        handling.stage.hasFailed = true) ∧
      failedLoginLimit ≤
        attempts (remaining env.failedAt (server.state.authThrottle.record key)) + 1 ∧
      ∃ other ∈ server.handlings, other.request.throttleKey? = some key ∧
        other.stage = .waiting

instance : ∀ event, Decidable (server.LocksTooLate key event)
  | .arrive _ => inferInstanceAs (Decidable False)
  | .act _ _ => inferInstanceAs (Decidable (_ ∧ _ ∧ _))

end Server

/-! ## What an act does to the record of a key -/

/-- The record does not lock its key. -/
def Unlocked (record : Option FailedLoginRecord) : Prop :=
  ∀ r ∈ record, r.lockedUntilEpochSeconds = none

/-- The throttle let the login through, and its outcome is not counted. -/
def Stage.IsAllowed (stage : Stage) : Prop :=
  stage = .waiting ∨ ∃ refusal, stage = .checked refusal

section Acts

variable {argon2 : Argon2} {env : Env} {handling handling' : Handling} {state state' : ApiState}
  {throttle : AuthThrottle} {key : String} {now : Nat}

theorem remaining_mem {record : Option FailedLoginRecord} {r : FailedLoginRecord}
    (h : r ∈ remaining now record) : r ∈ record := (remaining_eq_some.mp h).1

/-- A key that may log in is not locked. -/
theorem unlocked_of_allowed {username : String} {u : Unit}
    (h : (AuthThrottle.ensureAllowed username now throttle).1 = .ok u) :
    Unlocked (remaining now (throttle.record (throttleKey username))) := by
  intro r hr
  cases hlock : r.lockedUntilEpochSeconds with
  | none => rfl
  | some lockedUntil =>
    obtain ⟨-, hfresh⟩ := remaining_eq_some.mp hr
    have hover : ¬ now < lockedUntil := by
      intro hlt
      obtain ⟨e, he⟩ := (ensureAllowed_error_iff throttle username now).mpr
        ⟨r, hr, lockedUntil, hlock, hlt⟩
      rw [h] at he
      cases he
    exact absurd (.inl ⟨lockedUntil, hlock, Nat.le_of_not_lt hover⟩) hfresh

/-- A login comes without a bearer token. -/
theorem throttleKey?_of_headers {request : Request} {headers : HeaderMap}
    (h : request.headers = some headers) : request.throttleKey? = none := by
  cases request with
  | login payload => cases h
  | _ => rfl

/-- Only logins of the key reach its record: asking leaves what is not
stale, a success nothing, and a failure is counted. -/
theorem record_of_act (act : Act argon2 env handling state handling' state') (key : String) :
    state'.authThrottle.record key = state.authThrottle.record key ∨
    handling.request.throttleKey? = some key ∧
      (handling.stage = .arrived ∧ state'.authThrottle.record key =
          remaining env.authenticatedAt (state.authThrottle.record key) ∨
        handling.stage = .checked none ∧ state'.authThrottle.record key = none ∨
        (∃ error, handling.stage = .checked (some error)) ∧
          state'.authThrottle.record key = some (countFailure
            ((remaining env.failedAt (state.authThrottle.record key)).getD (.new env.failedAt))
            env.failedAt)) := by
  cases act with
  | idle | health | bootstrapped | bootstrapFailed | opened | turnedAway | accepted | refused
  | loggedOut | unrecorded | worked | loggedIn | refusalRecorded | issued | drawing =>
    exact .inl rfl
  | @allowed payload _ _ _ run | @throttled payload _ _ _ _ run =>
    have hstate := record_ensureAllowed state.authThrottle payload.username env.authenticatedAt
    rw [run] at hstate
    subst hstate
    by_cases hk : key = throttleKey payload.username
    · subst hk
      exact .inr ⟨rfl, .inl ⟨rfl, by rw [record_expireIfNeeded, if_pos rfl]⟩⟩
    · exact .inl (by rw [record_expireIfNeeded, if_neg hk])
  | @countedSuccess payload =>
    by_cases hk : key = throttleKey payload.username
    · subst hk
      exact .inr ⟨rfl, .inr (.inl ⟨rfl, OrdMap.get_erase_self _ _⟩)⟩
    · exact .inl (record_recordSuccess _ _ _ hk)
  | @countedFailure payload _ _ error =>
    by_cases hk : key = throttleKey payload.username
    · subst hk
      exact .inr ⟨rfl, .inr (.inr ⟨⟨error, rfl⟩, by rw [record_recordFailure, if_pos rfl]⟩)⟩
    · exact .inl (by rw [record_recordFailure, if_neg hk])

/-- A login that is let through finds its key unlocked, or was let through
before. -/
theorem allowed_of_act (act : Act argon2 env handling state handling' state')
    (hkey : handling.request.throttleKey? = some key) (hallowed : handling'.stage.IsAllowed) :
    Unlocked (state'.authThrottle.record key) ∨
      handling.stage.IsAllowed ∧ state'.authThrottle = state.authThrottle := by
  cases act with
  | idle => exact .inr ⟨hallowed, rfl⟩
  | @allowed payload _ _ throttle run =>
    obtain rfl := Option.some.inj hkey
    have hstate := record_ensureAllowed state.authThrottle payload.username env.authenticatedAt
    have hopen := unlocked_of_allowed (congrArg Prod.fst run)
    rw [run] at hstate
    subst hstate
    refine .inl ?_
    rw [record_expireIfNeeded, if_pos rfl]
    exact hopen
  | opened reads =>
    rw [throttleKey?_of_headers reads] at hkey
    cases hkey
  | accepted | refused => exact .inr ⟨.inl rfl, rfl⟩
  | health | bootstrapped | bootstrapFailed | throttled | turnedAway | loggedOut | unrecorded
  | worked | countedSuccess | countedFailure | loggedIn | refusalRecorded | issued | drawing =>
    rcases hallowed with h | ⟨_, h⟩ <;> cases h

theorem countFailure_low {r : FailedLoginRecord} (now : Nat)
    (hopen : r.lockedUntilEpochSeconds = none) (hlow : r.failedAttempts + 1 < failedLoginLimit) :
    (countFailure r now).failedAttempts = r.failedAttempts + 1 ∧
      (countFailure r now).lockedUntilEpochSeconds = none := by
  simp [countFailure, Nat.not_le.mpr hlow, hopen]

theorem countFailure_limit {r : FailedLoginRecord} (now : Nat)
    (hlimit : failedLoginLimit ≤ r.failedAttempts + 1) :
    (countFailure r now).failedAttempts = r.failedAttempts + 1 ∧
      (countFailure r now).lockedUntilEpochSeconds =
        some (saturatingAddU64 now failedLoginLockoutSeconds) := by
  simp [countFailure, hlimit]

end Acts

/-! ## The invariant -/

namespace Server

/-- Logins of the key that were let through find it unlocked, and the
failures counted are below the limit, or at it and the key is locked. -/
structure Bounded (server : Server) (key : String) : Prop where
  exclusive : server.Exclusive
  unlocked : ∀ (i : Nat) (handling : Handling), server.handlings[i]? = some handling →
    handling.request.throttleKey? = some key → handling.stage.IsAllowed →
    Unlocked (server.state.authThrottle.record key)
  few : ∀ r ∈ server.state.authThrottle.record key, r.failedAttempts ≤ failedLoginLimit ∧
    (r.lockedUntilEpochSeconds = none → r.failedAttempts < failedLoginLimit)

variable {argon2 : Argon2} {server server' : Server} {key : String} {event : Event}

theorem bounded_new (app : AppState) (key : String) : (new app).Bounded key := by
  refine ⟨exclusive_new app, fun i handling hfound => ?_, fun r hr => ?_⟩
  · simp [new] at hfound
  · simp [new, ApiState.new, AuthThrottle.new, AuthThrottle.record] at hr

/-- What is counted on: the record that is left, or a new one. -/
theorem Bounded.counted (h : server.Bounded key)
    (hopen : Unlocked (server.state.authThrottle.record key)) (now : Nat) :
    let r := (remaining now (server.state.authThrottle.record key)).getD (.new now)
    r.lockedUntilEpochSeconds = none ∧ r.failedAttempts < failedLoginLimit ∧
      r.failedAttempts = attempts (remaining now (server.state.authThrottle.record key)) := by
  intro r
  cases hrem : remaining now (server.state.authThrottle.record key) with
  | none =>
    have hr : r = .new now := by simp only [r, hrem, Option.getD_none]
    rw [hr]
    exact ⟨rfl, Nat.succ_pos 4, rfl⟩
  | some old =>
    have hr : r = old := by simp only [r, hrem, Option.getD_some]
    have hmem := remaining_mem hrem
    have hlock := hopen old hmem
    rw [hr]
    exact ⟨hlock, (h.few old hmem).2 hlock, rfl⟩

theorem Bounded.few_moves (h : server.Bounded key) (hmove : Moves argon2 server event server') :
    ∀ r ∈ server'.state.authThrottle.record key, r.failedAttempts ≤ failedLoginLimit ∧
      (r.lockedUntilEpochSeconds = none → r.failedAttempts < failedLoginLimit) := by
  cases hmove with
  | arrives | waits => exact h.few
  | @acts i env handling handling' state found free act =>
    intro r hr
    rw [put_state] at hr
    rcases record_of_act act key with
      hsame | ⟨hkey, ⟨-, hasked⟩ | ⟨-, hnone⟩ | ⟨⟨error, hstage⟩, hcount⟩⟩
    · exact h.few r (hsame ▸ hr)
    · exact h.few r (remaining_mem (hasked ▸ hr))
    · rw [hnone] at hr
      cases hr
    · have hopen := h.unlocked i handling found hkey (.inr ⟨_, hstage⟩)
      obtain ⟨hlock, hlt, -⟩ := h.counted hopen env.failedAt
      rw [hcount, Option.mem_some_iff] at hr
      subst hr
      by_cases hlimit : failedLoginLimit ≤
        ((remaining env.failedAt (server.state.authThrottle.record key)).getD
          (.new env.failedAt)).failedAttempts + 1
      · obtain ⟨hattempts, hlocked⟩ := countFailure_limit env.failedAt hlimit
        rw [hattempts, hlocked]
        exact ⟨hlt, fun h => by cases h⟩
      · obtain ⟨hattempts, hnone⟩ :=
          countFailure_low env.failedAt hlock (Nat.not_le.mp hlimit)
        rw [hattempts]
        exact ⟨hlt, fun _ => Nat.not_le.mp hlimit⟩

/-- An act of another handling than a login that was let through leaves the
key unlocked. -/
theorem Bounded.unlocked_other (h : server.Bounded key) {i j : Nat} {env : Env}
    {handling handling' other : Handling} {state : ApiState}
    (found : server.handlings[i]? = some handling)
    (act : Act argon2 env handling server.state handling' state)
    (intime : ¬ server.LocksTooLate key (.act i env)) (hij : i ≠ j)
    (hother : server.handlings[j]? = some other)
    (hkey : other.request.throttleKey? = some key) (hallowed : other.stage.IsAllowed) :
    Unlocked (state.authThrottle.record key) := by
  have hopen := h.unlocked j other hother hkey hallowed
  rcases record_of_act act key with hsame | ⟨hikey, ⟨-, hasked⟩ | ⟨-, hnone⟩ |
    ⟨⟨error, hstage⟩, hcount⟩⟩
  · rw [hsame]
    exact hopen
  · rw [hasked]
    exact fun r hr => hopen r (remaining_mem hr)
  · rw [hnone]
    exact fun r hr => by cases hr
  · obtain ⟨hlock, -, hcounted⟩ := h.counted hopen env.failedAt
    rcases hallowed with hwaiting | ⟨refusal, hchecked⟩
    · -- another login of the key waits, so the failure did not lock it
      have hlow : ¬ failedLoginLimit ≤
          attempts (remaining env.failedAt (server.state.authThrottle.record key)) + 1 :=
        fun hlimit => intime ⟨⟨handling, found, hikey, hasFailed_iff.mpr ⟨error, hstage⟩⟩, hlimit,
          other, List.mem_of_getElem? hother, hkey, hwaiting⟩
      rw [← hcounted] at hlow
      obtain ⟨-, hnone⟩ := countFailure_low env.failedAt hlock (Nat.not_le.mp hlow)
      rw [hcount]
      intro r hr
      rw [Option.mem_some_iff] at hr
      exact hr ▸ hnone
    · -- two handlings would hold the lock of the application
      have hi := (h.exclusive i).mpr ⟨handling, found, by rw [hstage]; rfl⟩
      have hj := (h.exclusive j).mpr ⟨other, hother, by rw [hchecked]; rfl⟩
      exact absurd (Option.some.inj (hi.symm.trans hj)) hij

theorem Bounded.moves (h : server.Bounded key) (hmove : Moves argon2 server event server')
    (intime : ¬ server.LocksTooLate key event) : server'.Bounded key := by
  refine ⟨exclusive_moves hmove h.exclusive, ?_, h.few_moves hmove⟩
  intro j other hother hkey hallowed
  cases hmove with
  | arrives request =>
    rcases (Moves.arrives request : Moves argon2 server _ _).handling_cases hother with
      hold | ⟨request', -, rfl⟩ | ⟨env, _, hevent, -⟩
    · exact h.unlocked j other hold hkey hallowed
    · rcases hallowed with hstage | ⟨_, hstage⟩ <;> cases hstage
    · cases hevent
  | waits => exact h.unlocked j other hother hkey hallowed
  | @acts i env handling handling' state found free act =>
    rw [getElem?_put found] at hother
    split at hother
    · next hij =>
      obtain rfl := Option.some.inj hother
      rw [act.request] at hkey
      rcases allowed_of_act act hkey hallowed with hopen | ⟨hbefore, hsame⟩
      · exact hopen
      · rw [put_state, hsame]
        exact h.unlocked i handling found hkey hbefore
    · next hij => exact h.unlocked_other found act intime hij hother hkey hallowed

/-- No key is checked while it is locked. -/
theorem Bounded.not_lockedAt (h : server.Bounded key) (hcheck : server.ChecksPassword key event)
    (now : Nat) : ¬ server.state.authThrottle.LockedAt key now := by
  cases event with
  | arrive request => exact hcheck.elim
  | act i env =>
    obtain ⟨handling, hfound, -, hkey, hwaiting⟩ := hcheck
    intro hlocked
    obtain ⟨r, hr, lockedUntil, hlock, -⟩ := hlocked
    have hopen := h.unlocked i handling hfound hkey (.inl hwaiting) r (remaining_mem hr)
    rw [hopen] at hlock
    cases hlock

/-! ## Failures -/

/-- A failure of the key was found and is not counted. -/
def uncounted (server : Server) (key : String) : Bool :=
  server.handlings.any fun handling =>
    handling.request.throttleKey? == some key && handling.stage.hasFailed

/-- The failures of the key: those counted, and the one that is found. -/
def failures (server : Server) (key : String) : Nat :=
  (if server.uncounted key then 1 else 0) + attempts (server.state.authThrottle.record key)

theorem uncounted_iff : server.uncounted key = true ↔
    ∃ (i : Nat) (handling : Handling), server.handlings[i]? = some handling ∧
      handling.request.throttleKey? = some key ∧ handling.stage.hasFailed = true := by
  simp only [uncounted, List.any_eq_true, Bool.and_eq_true, beq_iff_eq]
  constructor
  · intro h
    obtain ⟨handling, hmem, hkey, hfailed⟩ := h
    obtain ⟨i, hi⟩ := List.getElem?_of_mem hmem
    exact ⟨i, handling, hi, hkey, hfailed⟩
  · intro h
    obtain ⟨i, handling, hi, hkey, hfailed⟩ := h
    exact ⟨handling, List.mem_of_getElem? hi, hkey, hfailed⟩

theorem Bounded.failures_le (h : server.Bounded key) : server.failures key ≤ failedLoginLimit := by
  unfold failures
  cases hrecord : server.state.authThrottle.record key with
  | none =>
    have : attempts none = 0 := rfl
    split <;> simp [this, failedLoginLimit]
  | some r =>
    have hattempts : attempts (some r) = r.failedAttempts := rfl
    obtain ⟨hfew, hless⟩ := h.few r hrecord
    rw [hattempts]
    split
    · next huncounted =>
      obtain ⟨i, handling, hfound, hkey, hfailed⟩ := uncounted_iff.mp huncounted
      obtain ⟨error, hstage⟩ := hasFailed_iff.mp hfailed
      have hopen := h.unlocked i handling hfound hkey (.inr ⟨_, hstage⟩) r hrecord
      have := hless hopen
      omega
    · omega

/-- While a login is free to be checked, no failure of any key is found and
not counted: both would be under the lock of the application. -/
theorem Bounded.uncounted_eq_false (h : server.Bounded key) {i : Nat} {handling : Handling}
    (found : server.handlings[i]? = some handling) (free : ¬ server.Blocks i handling)
    (hwaiting : handling.stage = .waiting) : server.uncounted key = false := by
  by_contra huncounted
  obtain ⟨j, other, hother, -, hfailed⟩ := uncounted_iff.mp (by simpa using huncounted)
  obtain ⟨error, hstage⟩ := hasFailed_iff.mp hfailed
  have hholder := (h.exclusive j).mpr ⟨other, hother, by rw [hstage]; rfl⟩
  have hne : j ≠ i := by
    intro hji
    subst hji
    obtain rfl := Option.some.inj (found.symm.trans hother)
    rw [hwaiting] at hstage
    cases hstage
  refine free ⟨by rw [Handling.takesApp, hwaiting], by simp [hholder], ?_⟩
  rw [hholder]
  exact fun hsame => hne (Option.some.inj hsame)

/-- A check that fails is one failure more. -/
theorem Bounded.failures_check (h : server.Bounded key)
    (hfails : server.FailsCheck argon2 key event) :
    server.failures key + 1 ≤ (step argon2 server event).2.failures key := by
  cases event with
  | arrive request => exact hfails.elim
  | act i env =>
    obtain ⟨handling, hfound, hfree, hkey, hwaiting, hrefused⟩ := hfails
    have hnone := h.uncounted_eq_false hfound hfree hwaiting
    rw [step_act argon2 env hfound hfree]
    obtain ⟨request, session, stage⟩ := handling
    simp only at hkey hwaiting hrefused
    subst hwaiting
    cases request with
    | login payload =>
      cases hcheck : server.state.app.identities.authenticate argon2 payload.username
          payload.password with
      | ok session => simp [Request.isRefused, hcheck, Except.isOk, Except.toBool] at hrefused
      | error error =>
        have hact : Handling.act argon2 env ⟨.login payload, session, .waiting⟩ server.state =
            (⟨.login payload, session, .checked (some error)⟩, server.state) := by
          simp only [Handling.act, Handling.proceed, hcheck]
        rw [hact]
        have hafter : (server.put i ⟨.login payload, session, .waiting⟩
            ⟨.login payload, session, .checked (some error)⟩ server.state).uncounted key = true :=
          uncounted_iff.mpr ⟨i, _, by rw [getElem?_put hfound, if_pos rfl], hkey, rfl⟩
        simp only [failures, hnone, hafter, put_state]
        simp [Nat.add_comm]
    | _ => cases hkey

/-- A failure that was found is counted by the next act, if it does
anything. -/
theorem counted_of_act {env : Env} {handling handling' : Handling} {state state' : ApiState}
    (act : Act argon2 env handling state handling' state')
    (hkey : handling.request.throttleKey? = some key) (hfailed : handling.stage.hasFailed = true) :
    handling' = handling ∧ state' = state ∨
      state'.authThrottle.record key = some (countFailure
        ((remaining env.failedAt (state.authThrottle.record key)).getD (.new env.failedAt))
        env.failedAt) := by
  cases act with
  | idle => exact .inl ⟨rfl, rfl⟩
  | @countedFailure payload =>
    obtain rfl := Option.some.inj hkey
    exact .inr (by rw [record_recordFailure, if_pos rfl])
  | @unrecorded _ _ stage _ _ _ _ _ _ _ _ _ progress =>
    rcases progress with rfl | ⟨_, rfl⟩ <;> cases hfailed
  | health | bootstrapped | bootstrapFailed | allowed | throttled | opened | turnedAway | accepted
  | refused | loggedOut | worked | countedSuccess | loggedIn | refusalRecorded | issued
  | drawing => cases hfailed

theorem attempts_countFailure (r : FailedLoginRecord) (now : Nat) :
    (countFailure r now).failedAttempts = r.failedAttempts + 1 := by
  by_cases hlimit : failedLoginLimit ≤ r.failedAttempts + 1
  · exact (countFailure_limit now hlimit).1
  · simp [countFailure, hlimit]

/-- Where the found failure stays found and the counted ones counted, no
failure is lost. -/
theorem failures_put_le {i : Nat} {handling handling' : Handling} {state : ApiState}
    (found : server.handlings[i]? = some handling)
    (hfound : handling.request.throttleKey? = some key → handling.stage.hasFailed = true →
      handling' = handling)
    (hcounted : attempts (server.state.authThrottle.record key) ≤
      attempts (state.authThrottle.record key)) :
    server.failures key ≤ (server.put i handling handling' state).failures key := by
  have hstays : server.uncounted key = true →
      (server.put i handling handling' state).uncounted key = true := by
    intro h
    obtain ⟨j, other, hother, hkey, hfailed⟩ := uncounted_iff.mp h
    refine uncounted_iff.mpr ⟨j, other, ?_, hkey, hfailed⟩
    rw [getElem?_put found]
    split
    · next hij =>
      subst hij
      obtain rfl := Option.some.inj (found.symm.trans hother)
      rw [hfound hkey hfailed]
    · exact hother
  simp only [failures, put_state]
  cases huncounted : server.uncounted key with
  | false => simpa using Nat.le_add_left_of_le hcounted
  | true => simpa [hstays huncounted] using hcounted

/-- What is not forgotten is not less. -/
theorem failures_moves (hmove : Moves argon2 server event server')
    (hkept : ¬ server.Forgets key event) : server.failures key ≤ server'.failures key := by
  cases hmove with
  | arrives request =>
    have hsame : ({ server with
        handlings := server.handlings ++ [⟨request, none, .arrived⟩] } : Server).uncounted key =
          server.uncounted key := by simp [uncounted, Stage.hasFailed]
    simp only [failures, hsame, le_refl]
  | waits => exact le_rfl
  | @acts i env handling handling' state found free act =>
    -- a record that is not stale is left as it is
    have hleft : ∀ now, (∀ r ∈ server.state.authThrottle.record key, ¬ IsStale r now) →
        remaining now (server.state.authThrottle.record key) =
          server.state.authThrottle.record key := by
      intro now hfresh
      cases hrecord : server.state.authThrottle.record key with
      | none => rfl
      | some r => exact remaining_of_not_stale (hfresh r hrecord)
    by_cases hpending : handling.request.throttleKey? = some key ∧ handling.stage.hasFailed = true
    · obtain ⟨hkey, hfailed⟩ := hpending
      rcases counted_of_act act hkey hfailed with ⟨rfl, rfl⟩ | hcount
      · exact failures_put_le found (fun _ _ => rfl) le_rfl
      · have hfresh : ∀ r ∈ server.state.authThrottle.record key, ¬ IsStale r env.failedAt :=
          fun r hr hstale => hkept ⟨handling, found, hkey,
            .inr ⟨r, hr, .inr ⟨hfailed, hstale⟩⟩⟩
        rw [hleft _ hfresh] at hcount
        -- the failure that was found is one of those counted now
        have hmore : attempts (state.authThrottle.record key) =
            attempts (server.state.authThrottle.record key) + 1 := by
          rw [hcount]
          cases hrecord : server.state.authThrottle.record key with
          | none => exact attempts_countFailure _ _
          | some r => exact attempts_countFailure _ _
        simp only [failures, put_state, hmore]
        split <;> omega
    · refine failures_put_le found (fun hkey hfailed => absurd ⟨hkey, hfailed⟩ hpending) ?_
      rcases record_of_act act key with hsame | ⟨hkey, ⟨harrived, hasked⟩ | ⟨hchecked, -⟩ |
        ⟨⟨error, hstage⟩, -⟩⟩
      · rw [hsame]
      · have hfresh : ∀ r ∈ server.state.authThrottle.record key,
            ¬ IsStale r env.authenticatedAt := fun r hr hstale =>
          hkept ⟨handling, found, hkey, .inr ⟨r, hr, .inl ⟨harrived, hstale⟩⟩⟩
        rw [hasked, hleft _ hfresh]
      · exact absurd ⟨handling, found, hkey, .inl hchecked⟩ hkept
      · exact absurd ⟨hkey, hasFailed_iff.mpr ⟨error, hstage⟩⟩ hpending

end Server

/-! ## The theorem -/

open Server

/-- The events come in time: none counts the failure that locks the key
while another login of the key was let through and is not checked. -/
def InTime (argon2 : Argon2) (key : String) (events : List Event) : Prop :=
  Guarded (step argon2) (fun server event => ¬ server.LocksTooLate key event)
    (Server.new AppState.new) events

section Runs

variable {argon2 : Argon2} {key : String} {earlier later : List Event}

theorem InTime.append (h : InTime argon2 key (earlier ++ later)) :
    InTime argon2 key earlier ∧
      Guarded (step argon2) (fun server event => ¬ server.LocksTooLate key event)
        (after argon2 earlier) later :=
  (guarded_append _ _ earlier later _).mp h

theorem InTime.bounded (h : InTime argon2 key earlier) : (after argon2 earlier).Bounded key :=
  final_guarded (I := fun server => server.Bounded key) (step argon2)
    (fun server event hbounded intime => hbounded.moves (step_moves argon2 server event) intime)
    earlier _ (bounded_new _ key) h

/-- As long as nothing is forgotten, the checks that fail are at most as
many as the limit. -/
theorem tally_failsCheck_le (h : InTime argon2 key (earlier ++ later))
    (hkept : Guarded (step argon2) (fun server event => ¬ server.Forgets key event)
      (after argon2 earlier) later) :
    tally (step argon2) (fun server event => server.FailsCheck argon2 key event)
      (after argon2 earlier) later ≤ failedLoginLimit := by
  obtain ⟨hearlier, hlater⟩ := h.append
  have hrun := tally_le (step argon2) (I := fun server => server.Bounded key)
    (P := fun server event => server.FailsCheck argon2 key event)
    (μ := fun server => server.failures key)
    (fun server event hbounded hguard =>
      hbounded.moves (step_moves argon2 server event) hguard.1)
    (fun server event hbounded hguard => ?_) later _ hearlier.bounded
    ((guarded_and _ _ _ _ _).mpr ⟨hlater, hkept⟩)
  · have hlast := h.bounded.failures_le
    rw [after, final_append] at hlast
    exact le_trans (Nat.le_add_left _ _) (le_trans hrun hlast)
  · by_cases hfails : server.FailsCheck argon2 key event
    · rw [if_pos hfails]
      exact hbounded.failures_check hfails
    · rw [if_neg hfails]
      exact failures_moves (step_moves argon2 server event) hguard.2

end Runs

/-- In every run in which no failure locks the key while another login of
the key is between being let through and being checked, every check finds
the key unlocked; and after any beginning of the run, as long as no failure
is forgotten, at most `failedLoginLimit` checks fail. -/
theorem guesses_are_bounded (argon2 : Argon2) (username : String) (events : List Event)
    (h : InTime argon2 (throttleKey username) events) :
    let key := throttleKey username
    (∀ earlier event later, events = earlier ++ event :: later →
      (after argon2 earlier).ChecksPassword key event →
      ∀ now, ¬ (after argon2 earlier).state.authThrottle.LockedAt key now) ∧
    (∀ earlier later, events = earlier ++ later →
      Guarded (step argon2) (fun server event => ¬ server.Forgets key event)
        (after argon2 earlier) later →
      tally (step argon2) (fun server event => server.FailsCheck argon2 key event)
        (after argon2 earlier) later ≤ failedLoginLimit) := by
  intro key
  constructor
  · intro earlier event later hevents hcheck now
    rw [hevents] at h
    exact h.append.1.bounded.not_lockedAt hcheck now
  · intro earlier later hevents hkept
    rw [hevents] at h
    exact tally_failsCheck_le h hkept

/-- Every clock shows 100. -/
def guessEnv : Env := ⟨100, 100, 100, 100, 100, 100, sampleSalt, ["token"]⟩

/-- Five wrong guesses, each asked when the one before was answered, and
one more that asks and is refused. -/
theorem guesses_in_turn_are_bounded :
    let events := [.arrive (.bootstrapAdmin ⟨1, "root", "correct-password"⟩), .act 0 guessEnv,
      .act 0 guessEnv] ++ [1, 2, 3, 4, 5, 6].flatMap fun i =>
        .arrive (.login ⟨"root", "guess"⟩) :: List.replicate 4 (.act i guessEnv)
    tally (step sampleArgon2)
      (fun server event => server.FailsCheck sampleArgon2 (throttleKey "root") event)
      (Server.new AppState.new) events ≤ failedLoginLimit :=
  (guesses_are_bounded sampleArgon2 "root" _ (by unfold InTime; decide +kernel)).2 [] _ rfl
    (by decide +kernel)

/-- The administrator is there, six logins ask the throttle, and the first
five are checked, counted and recorded in turn. -/
def guesses : List Event :=
  [.arrive (.bootstrapAdmin ⟨1, "root", "correct-password"⟩), .act 0 guessEnv, .act 0 guessEnv] ++
    List.replicate 6 (.arrive (.login ⟨"root", "guess"⟩)) ++
    [1, 2, 3, 4, 5, 6].map (fun i => .act i guessEnv) ++
    [1, 2, 3, 4, 5].flatMap fun i => List.replicate 3 (.act i guessEnv)

/-- The sixth login is checked while its key is locked, and fails like the
five before it; nothing is forgotten in between. -/
theorem sixth_guess_is_checked :
    let server := after sampleArgon2 guesses
    let start := Server.new AppState.new
    server.ChecksPassword (throttleKey "root") (.act 6 guessEnv) ∧
      server.state.authThrottle.LockedAt (throttleKey "root") 100 ∧
      Guarded (step sampleArgon2) (fun server event => ¬ server.Forgets (throttleKey "root") event)
        start (guesses ++ [.act 6 guessEnv]) ∧
      tally (step sampleArgon2)
        (fun server event => server.FailsCheck sampleArgon2 (throttleKey "root") event)
        start (guesses ++ [.act 6 guessEnv]) = failedLoginLimit + 1 := by
  refine ⟨by decide +kernel, ?_, by decide +kernel, by decide +kernel⟩
  unfold LockedAt
  decide +kernel

/-! ## The condition is exact -/

section Late

variable {argon2 : Argon2} {key : String} {earlier : List Event}

/-- The failure that reaches the limit locks the key at once. -/
theorem lockedAt_of_limit {throttle : AuthThrottle} {username : String} {now : Nat}
    (hlimit : failedLoginLimit ≤
      attempts (remaining now (throttle.record (throttleKey username))) + 1)
    (hclock : now < u64Max) :
    (throttle.recordFailure username now).LockedAt (throttleKey username) now := by
  cases hrem : remaining now (throttle.record (throttleKey username)) with
  | none =>
    rw [hrem] at hlimit
    simp [attempts, failedLoginLimit] at hlimit
  | some r =>
    rw [hrem] at hlimit
    obtain ⟨-, hlocked⟩ := countFailure_limit now hlimit
    have hlater : now < saturatingAddU64 now failedLoginLockoutSeconds := by
      simp only [saturatingAddU64, failedLoginLockoutSeconds]
      omega
    refine ⟨countFailure r now, ?_, _, hlocked, hlater⟩
    rw [record_recordFailure, if_pos rfl, hrem, Option.getD_some, Option.mem_def,
      remaining_eq_some]
    refine ⟨rfl, fun hstale => (remaining_eq_some.mp hrem).2 ?_⟩
    rcases hstale with ⟨lockedUntil, hlock, hle⟩ | hwindow
    · obtain rfl := Option.some.inj (hlocked.symm.trans hlock)
      exact absurd hle (Nat.not_le.mpr hlater)
    · rw [first_countFailure] at hwindow
      exact .inr hwindow

/-- The next act of a login whose failure is counted answers it, and leaves
the throttle alone. -/
theorem record_answers (argon2 : Argon2) (env : Env) (payload : LoginRequest)
    (session : Option Session) (error : IdentityError) (state : ApiState) :
    let after := Handling.act argon2 env ⟨.login payload, session, .counted (some error)⟩ state
    after.1.stage.holdsApp = false ∧ after.2.authThrottle = state.authThrottle := by
  intro after
  simp only [after, Handling.act, Handling.record, lockApp_run]
  rcases recordAudit_cases .system .login .failure (some ("username:" ++ payload.username))
    error.display env.auditedAt state.app with ⟨app, hrun⟩ | ⟨failure, app, hrun⟩
  · rw [hrun]
    exact ⟨rfl, rfl⟩
  · rw [hrun]
    exact ⟨rfl, rfl⟩

/-- Where a failure locks the key too late, the other login can be checked
next, while the key is locked. -/
theorem check_follows_late_lock (h : InTime argon2 key earlier) {i : Nat} {env : Env}
    (hlate : (after argon2 earlier).LocksTooLate key (.act i env))
    (hclock : env.failedAt < u64Max) :
    ∃ j, ∀ env', (after argon2 (earlier ++ [.act i env, .act i env'])).ChecksPassword key
        (.act j env') ∧
      (after argon2 (earlier ++ [.act i env, .act i env'])).state.authThrottle.LockedAt key
        env.failedAt := by
  obtain ⟨⟨handling, hfound, hkey, hfailed⟩, hlimit, other, hmem, hother, hwaiting⟩ := hlate
  obtain ⟨error, hstage⟩ := hasFailed_iff.mp hfailed
  obtain ⟨j, hj⟩ := List.getElem?_of_mem hmem
  obtain ⟨request, session, stage⟩ := handling
  simp only at hkey hstage
  subst hstage
  cases request with
  | login payload =>
    have hpayload : throttleKey payload.username = key := Option.some.inj hkey
    subst hpayload
    have hholder := (h.bounded.exclusive i).mpr ⟨_, hfound, rfl⟩
    have hij : i ≠ j := by
      intro hij
      subst hij
      obtain rfl := Option.some.inj (hj.symm.trans hfound)
      cases hwaiting
    have hlocked := lockedAt_of_limit hlimit hclock
    refine ⟨j, fun env' => ?_⟩
    rw [after, final_append, final_cons, final_cons, final_nil, ← after]
    generalize after argon2 earlier = server at *
    -- the failure is counted
    rw [step_act argon2 env hfound (fun hblocks => hblocks.2.2 hholder)]
    let counted : Handling := ⟨.login payload, session, .counted (some error)⟩
    let locked : ApiState := { server.state with
      authThrottle := server.state.authThrottle.recordFailure payload.username env.failedAt }
    let mid := server.put i ⟨.login payload, session, .checked (some error)⟩ counted locked
    have hmid : mid.handlings[i]? = some counted := by
      rw [getElem?_put hfound, if_pos rfl]
    have hmidholder : mid.holder = some i := rfl
    -- and recorded, which frees the lock of the application
    obtain ⟨hfrees, hkeeps⟩ := record_answers argon2 env' payload session error locked
    have hlast := step_act argon2 env' hmid
      (fun hblocks => hblocks.2.2 hmidholder)
    have hmidstate : mid.state = locked := rfl
    rw [hmidstate] at hlast
    show (step argon2 mid (.act i env')).2.ChecksPassword _ _ ∧
      (step argon2 mid (.act i env')).2.state.authThrottle.LockedAt _ _
    rw [hlast]
    refine ⟨⟨other, ?_, fun hblocks => hblocks.2.1 ?_, hother, hwaiting⟩, ?_⟩
    · rw [Option.mem_def, getElem?_put hmid, if_neg hij, getElem?_put hfound, if_neg hij]
      exact hj
    · simp [put, counted, Handling.takesApp, hfrees]
    · rw [put_state, hkeeps]
      exact hlocked
  | _ => cases hkey

end Late

end Banck.Api
