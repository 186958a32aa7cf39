/-
Banck.Api.Throttle — the limit on failed logins (`AuthThrottle` of
`src/api.rs`), and how long a lockout lasts.

Failures are counted for each key from the first one on. At the limit the
key is locked until a set time. Every call first drops the record of its
key if its lock is over or if its first failure is a whole window ago; the
second rule also ends a lock that is not over. `lockout_is_kept_iff` is
the exact condition for a lock to last its full term.
-/
import Banck.Api.Error
import Banck.Lib.Machine

namespace Banck.Api

open Lib Machine

/-! ## The throttle -/

def failedLoginLimit : Nat := 5

def failedLoginWindowSeconds : Nat := 15 * 60

def failedLoginLockoutSeconds : Nat := 15 * 60

structure FailedLoginRecord where
  firstFailedAtEpochSeconds : Nat
  failedAttempts : Nat
  lockedUntilEpochSeconds : Option Nat
  deriving DecidableEq, Repr

def FailedLoginRecord.new (now : Nat) : FailedLoginRecord := ⟨now, 0, none⟩

def throttleKey (username : String) : String := Text.toAsciiLowercase (Text.trim username)

structure AuthThrottle where
  failuresByUsername : OrdMap String FailedLoginRecord
  deriving DecidableEq

namespace AuthThrottle

def new : AuthThrottle := ⟨∅⟩

/-- The lock is over, or the first failure is a whole window ago. -/
def IsStale (record : FailedLoginRecord) (now : Nat) : Prop :=
  (∃ lockedUntil ∈ record.lockedUntilEpochSeconds, lockedUntil ≤ now) ∨
    failedLoginWindowSeconds ≤ saturatingSub now record.firstFailedAtEpochSeconds

instance (record : FailedLoginRecord) (now : Nat) : Decidable (IsStale record now) :=
  inferInstanceAs (Decidable (_ ∨ _))

/-- Drop the record of a key if it is stale. -/
def expireIfNeeded (throttle : AuthThrottle) (key : String) (now : Nat) : AuthThrottle :=
  match throttle.failuresByUsername[key]? with
  | some record =>
      if IsStale record now then ⟨throttle.failuresByUsername.erase key⟩ else throttle
  | none => throttle

def ensureAllowed (username : String) (now : Nat) : Mut AuthThrottle ApiError Unit := do
  let key := throttleKey username
  Mut.modify fun throttle => throttle.expireIfNeeded key now
  let throttle ← Mut.get
  match throttle.failuresByUsername[key]? with
  | some record =>
      match record.lockedUntilEpochSeconds with
      | some lockedUntil =>
          Mut.ensure (¬ now < lockedUntil)
            (.tooManyRequests "too many failed login attempts; try again later")
      | none => pure ()
  | none => pure ()

def recordSuccess (throttle : AuthThrottle) (username : String) : AuthThrottle :=
  ⟨throttle.failuresByUsername.erase (throttleKey username)⟩

/-- One more failure; at the limit the lock starts again at `now`. -/
def countFailure (record : FailedLoginRecord) (now : Nat) : FailedLoginRecord :=
  let record := { record with failedAttempts := record.failedAttempts + 1 }
  if failedLoginLimit ≤ record.failedAttempts then
    { record with
      lockedUntilEpochSeconds := some (saturatingAddU64 now failedLoginLockoutSeconds) }
  else
    record

def recordFailure (throttle : AuthThrottle) (username : String) (now : Nat) :
    AuthThrottle :=
  let key := throttleKey username
  let throttle := throttle.expireIfNeeded key now
  let record := throttle.failuresByUsername[key]?.getD (.new now)
  ⟨throttle.failuresByUsername.insert key (countFailure record now)⟩

/-! ## Calls -/

inductive Call where
  | ensureAllowed (username : String) (now : Nat)
  | recordSuccess (username : String)
  | recordFailure (username : String) (now : Nat)

def run (throttle : AuthThrottle) : Call → Except ApiError Unit × AuthThrottle
  | .ensureAllowed username now => AuthThrottle.ensureAllowed username now throttle
  | .recordSuccess username => (.ok (), throttle.recordSuccess username)
  | .recordFailure username now => (.ok (), throttle.recordFailure username now)

/-- The key a call is about. -/
def Call.key : Call → String
  | ensureAllowed username _ | recordSuccess username | recordFailure username _ =>
      throttleKey username

def Call.IsSuccess : Call → Prop
  | recordSuccess _ => True
  | ensureAllowed _ _ | recordFailure _ _ => False

/-- The calls come at times that do not decrease, from `now` on, and that
are clock readings. -/
def Timely (now : Nat) : List Call → Prop
  | [] => now ≤ u64Max
  | .recordSuccess _ :: rest => Timely now rest
  | .ensureAllowed _ t :: rest | .recordFailure _ t :: rest => now ≤ t ∧ Timely t rest

instance decidableTimely : ∀ (now : Nat) (calls : List Call), Decidable (Timely now calls)
  | now, [] => inferInstanceAs (Decidable (now ≤ u64Max))
  | now, .recordSuccess _ :: rest => decidableTimely now rest
  | now, .ensureAllowed _ t :: rest =>
      have := decidableTimely t rest
      inferInstanceAs (Decidable (now ≤ t ∧ Timely t rest))
  | now, .recordFailure _ t :: rest =>
      have := decidableTimely t rest
      inferInstanceAs (Decidable (now ≤ t ∧ Timely t rest))

/-! ## What a call does to the record of a key -/

/-- The record of a key. -/
def record (throttle : AuthThrottle) (key : String) : Option FailedLoginRecord :=
  throttle.failuresByUsername[key]?

/-- What is left of a record at `now`. -/
def remaining (now : Nat) (record : Option FailedLoginRecord) : Option FailedLoginRecord :=
  record.filter fun record => ¬ IsStale record now

theorem remaining_eq_some {now : Nat} {record : Option FailedLoginRecord}
    {r : FailedLoginRecord} :
    remaining now record = some r ↔ record = some r ∧ ¬ IsStale r now := by
  simp [remaining, Option.filter_eq_some_iff]

theorem record_expireIfNeeded (throttle : AuthThrottle) (key : String) (now : Nat)
    (key' : String) :
    (throttle.expireIfNeeded key now).record key' =
      if key' = key then remaining now (throttle.record key) else throttle.record key' := by
  unfold expireIfNeeded remaining record
  cases h : throttle.failuresByUsername[key]? with
  | none =>
    by_cases hk : key' = key
    · simp [hk, h]
    · simp [hk]
  | some r =>
    by_cases hs : IsStale r now
    · by_cases hk : key' = key
      · simp [hk, hs, Option.filter]
      · simp [hk, hs, OrdMap.get_erase_ne _ hk]
    · by_cases hk : key' = key
      · simp [hk, hs, h, Option.filter]
      · simp [hk, hs]

/-- Asking drops a stale record, whatever the answer. -/
theorem record_ensureAllowed (throttle : AuthThrottle) (username : String) (now : Nat) :
    (AuthThrottle.ensureAllowed username now throttle).2 =
      throttle.expireIfNeeded (throttleKey username) now := by
  simp only [AuthThrottle.ensureAllowed, Mut.bind_run, Mut.modify_run, Mut.get_run]
  generalize throttle.expireIfNeeded (throttleKey username) now = expired
  cases expired.failuresByUsername[throttleKey username]? with
  | none => rfl
  | some r =>
    cases h : r.lockedUntilEpochSeconds with
    | none => simp [h]
    | some lockedUntil =>
      by_cases hn : now < lockedUntil <;> simp [h, Mut.ensure, hn]

/-- The answer is an error exactly while a record that is not stale is
locked. -/
theorem ensureAllowed_error_iff (throttle : AuthThrottle) (username : String) (now : Nat) :
    (∃ e, (AuthThrottle.ensureAllowed username now throttle).1 = .error e) ↔
      ∃ r ∈ remaining now (throttle.record (throttleKey username)),
        ∃ lockedUntil ∈ r.lockedUntilEpochSeconds, now < lockedUntil := by
  have hkey := record_expireIfNeeded throttle (throttleKey username) now (throttleKey username)
  rw [if_pos rfl] at hkey
  rw [← hkey]
  simp only [AuthThrottle.ensureAllowed, Mut.bind_run, Mut.modify_run, Mut.get_run]
  generalize throttle.expireIfNeeded (throttleKey username) now = expired
  unfold record
  cases expired.failuresByUsername[throttleKey username]? with
  | none => simp
  | some r =>
    cases h : r.lockedUntilEpochSeconds with
    | none => simp [h]
    | some lockedUntil =>
      by_cases hn : now < lockedUntil <;> simp [h, Mut.ensure, hn]

theorem record_recordFailure (throttle : AuthThrottle) (username : String) (now : Nat)
    (key : String) :
    (throttle.recordFailure username now).record key =
      if key = throttleKey username then
        some (countFailure
          ((remaining now (throttle.record (throttleKey username))).getD (.new now)) now)
      else throttle.record key := by
  have hexp := record_expireIfNeeded throttle (throttleKey username) now
  have hself := hexp (throttleKey username)
  rw [if_pos rfl] at hself
  by_cases hk : key = throttleKey username
  · subst hk
    rw [if_pos rfl, ← hself]
    simp only [recordFailure, record, OrdMap.get_insert_self]
  · have hother := hexp key
    rw [if_neg hk] at hother
    rw [if_neg hk, ← hother]
    simp only [recordFailure, record, OrdMap.get_insert_ne _ _ hk]

theorem record_recordSuccess (throttle : AuthThrottle) (username key : String)
    (h : key ≠ throttleKey username) :
    (throttle.recordSuccess username).record key = throttle.record key :=
  OrdMap.get_erase_ne _ h

/-- A call leaves the records of other keys alone. -/
theorem record_other (throttle : AuthThrottle) (call : Call) {key : String}
    (h : key ≠ call.key) : (run throttle call).2.record key = throttle.record key := by
  cases call with
  | ensureAllowed username now =>
    rw [run, record_ensureAllowed, record_expireIfNeeded]
    exact if_neg h
  | recordSuccess username => exact record_recordSuccess throttle username key h
  | recordFailure username now =>
    rw [run, record_recordFailure]
    exact if_neg h

/-! ## Calls in order of time -/

/-- The reading of the clock that a call makes. -/
def Call.time : Call → Option Nat
  | ensureAllowed _ now | recordFailure _ now => some now
  | recordSuccess _ => none

theorem timely_cons {now : Nat} {call : Call} {rest : List Call} :
    Timely now (call :: rest) ↔
      now ≤ call.time.getD now ∧ Timely (call.time.getD now) rest := by
  cases call with
  | ensureAllowed | recordFailure => exact Iff.rfl
  | recordSuccess => exact (and_iff_right le_rfl).symm

/-- Between the calls and those that follow them there is a time. -/
theorem Timely.split {now : Nat} {xs ys : List Call} (h : Timely now (xs ++ ys)) :
    ∃ t, now ≤ t ∧ Timely t ys ∧ ∀ call ∈ xs, ∀ s ∈ call.time, now ≤ s ∧ s ≤ t := by
  induction xs generalizing now with
  | nil => exact ⟨now, le_rfl, h, fun call hcall => by cases hcall⟩
  | cons call rest ih =>
    obtain ⟨hle, hrest⟩ := timely_cons.mp h
    obtain ⟨t, hlater, hys, hbetween⟩ := ih hrest
    refine ⟨t, le_trans hle hlater, hys, List.forall_mem_cons.mpr ⟨fun s hs => ?_, ?_⟩⟩
    · rw [Option.mem_def] at hs
      rw [hs, Option.getD_some] at hle hlater
      exact ⟨hle, hlater⟩
    · intro other hother s hs
      obtain ⟨hfrom, hto⟩ := hbetween other hother s hs
      exact ⟨le_trans hle hfrom, hto⟩

/-- The last of the calls comes at a clock reading. -/
theorem Timely.last {now : Nat} {calls : List Call} {call : Call}
    (h : Timely now (calls ++ [call])) {t : Nat} (ht : call.time = some t) :
    now ≤ t ∧ t ≤ u64Max := by
  obtain ⟨u, hle, hlast, -⟩ := h.split
  rw [timely_cons, ht] at hlast
  exact ⟨le_trans hle hlast.1, hlast.2⟩

/-! ## Records are no younger than the clock -/

/-- Every first failure is in the past. -/
def Past (now : Nat) (throttle : AuthThrottle) : Prop :=
  ∀ key, ∀ r ∈ throttle.record key, r.firstFailedAtEpochSeconds ≤ now

theorem past_new (now : Nat) : Past now new := by
  intro key r h
  simp [record, new] at h

theorem Past.mono {throttle : AuthThrottle} {now t : Nat} (h : Past now throttle)
    (hle : now ≤ t) : Past t throttle := fun key r hr => le_trans (h key r hr) hle

/-- A failure counted at `now` keeps the first time, or is the first. -/
theorem first_countFailure (r : FailedLoginRecord) (now : Nat) :
    (countFailure r now).firstFailedAtEpochSeconds = r.firstFailedAtEpochSeconds := by
  simp only [countFailure]
  split <;> rfl

theorem past_expire {throttle : AuthThrottle} {now : Nat} (h : Past now throttle)
    (key : String) : Past now (throttle.expireIfNeeded key now) := by
  intro key' r hr
  rw [record_expireIfNeeded] at hr
  by_cases hk : key' = key
  · rw [if_pos hk] at hr
    exact h key r (remaining_eq_some.mp hr).1
  · rw [if_neg hk] at hr
    exact h key' r hr

theorem past_failure {throttle : AuthThrottle} {now : Nat} (h : Past now throttle)
    (username : String) : Past now (throttle.recordFailure username now) := by
  intro key r hr
  rw [record_recordFailure] at hr
  by_cases hk : key = throttleKey username
  · rw [if_pos hk, Option.mem_some_iff] at hr
    rw [← hr, first_countFailure]
    cases hrem : remaining now (throttle.record (throttleKey username)) with
    | none => exact le_rfl
    | some old => exact h _ old (remaining_eq_some.mp hrem).1
  · rw [if_neg hk] at hr
    exact h key r hr

theorem past_success {throttle : AuthThrottle} {now : Nat} (h : Past now throttle)
    (username : String) : Past now (throttle.recordSuccess username) := by
  intro key r hr
  by_cases hk : key = throttleKey username
  · subst hk
    simp [record, recordSuccess] at hr
  · rw [record_recordSuccess _ _ _ hk] at hr
    exact h key r hr

/-- After calls in order of time, every first failure is in the past. -/
theorem past_of_run {username : String} {t : Nat} :
    ∀ (calls : List Call) (now : Nat) (throttle : AuthThrottle),
      Timely now (calls ++ [.recordFailure username t]) → Past now throttle →
      Past t (final run throttle calls)
  | [], _, _, h, hp => hp.mono h.1
  | .recordSuccess u :: rest, now, throttle, h, hp => by
      rw [List.cons_append, Timely] at h
      exact past_of_run rest now _ h (past_success hp u)
  | .ensureAllowed u t' :: rest, _, throttle, h, hp => by
      rw [List.cons_append, Timely] at h
      rw [final_cons, run, record_ensureAllowed]
      exact past_of_run rest t' _ h.2 (past_expire (hp.mono h.1) _)
  | .recordFailure u t' :: rest, _, throttle, h, hp => by
      rw [List.cons_append, Timely] at h
      exact past_of_run rest t' _ h.2 (past_failure (hp.mono h.1) u)

/-! ## A lock that is kept -/

/-- A key at the limit since `t`, locked until a full term after `t`. -/
def Held (throttle : AuthThrottle) (key : String) (t : Nat) : Prop :=
  ∃ r ∈ throttle.record key, r.firstFailedAtEpochSeconds = t ∧
    failedLoginLimit ≤ r.failedAttempts ∧
    ∃ lockedUntil ∈ r.lockedUntilEpochSeconds, t + failedLoginLockoutSeconds ≤ lockedUntil

/-- Within the term the record of a held key is not stale. -/
theorem not_stale {r : FailedLoginRecord} {t now lockedUntil : Nat}
    (hfirst : r.firstFailedAtEpochSeconds = t)
    (hlock : lockedUntil ∈ r.lockedUntilEpochSeconds)
    (hterm : t + failedLoginLockoutSeconds ≤ lockedUntil)
    (hnow : now < t + failedLoginLockoutSeconds) : ¬ IsStale r now := by
  intro hs
  rcases hs with ⟨other, hother, hle⟩ | hwindow
  · obtain rfl := Option.mem_unique hlock hother
    omega
  · rw [hfirst] at hwindow
    simp only [saturatingSub, failedLoginWindowSeconds, failedLoginLockoutSeconds] at *
    omega

theorem remaining_of_not_stale {r : FailedLoginRecord} {now : Nat} (h : ¬ IsStale r now) :
    remaining now (some r) = some r := remaining_eq_some.mpr ⟨rfl, h⟩

/-- A call within the term keeps a held key held, unless it is a success of
that key. -/
theorem held_step {throttle : AuthThrottle} {key : String} {t : Nat}
    (h : Held throttle key t) (hterm : t + failedLoginLockoutSeconds ≤ u64Max) (call : Call)
    (htime : ∀ now, (∃ u, call = .ensureAllowed u now ∨ call = .recordFailure u now) →
      t ≤ now ∧ now < t + failedLoginLockoutSeconds)
    (hsuccess : call.key = key → ¬ call.IsSuccess) : Held (run throttle call).2 key t := by
  obtain ⟨r, hr, hfirst, hlimit, lockedUntil, hlock, hle⟩ := h
  by_cases hk : key = call.key
  · have hkept : ∀ now, t ≤ now ∧ now < t + failedLoginLockoutSeconds →
        remaining now (throttle.record call.key) = some r := by
      intro now hnow
      rw [← hk, hr, remaining_of_not_stale (not_stale hfirst hlock hle hnow.2)]
    subst hk
    cases call with
    | ensureAllowed username now =>
      have hrec : (run throttle (.ensureAllowed username now)).2.record
          (throttleKey username) = some r := by
        rw [run, record_ensureAllowed, record_expireIfNeeded, if_pos rfl]
        exact hkept now (htime now ⟨username, .inl rfl⟩)
      exact ⟨r, hrec, hfirst, hlimit, lockedUntil, hlock, hle⟩
    | recordSuccess username => exact absurd trivial (hsuccess rfl)
    | recordFailure username now =>
      have hnow := htime now ⟨username, .inr rfl⟩
      have hcount : failedLoginLimit ≤ r.failedAttempts + 1 := Nat.le_succ_of_le hlimit
      have hrec : (run throttle (.recordFailure username now)).2.record
          (throttleKey username) = some (countFailure r now) := by
        have hr' := hkept now hnow
        rw [Call.key] at hr'
        rw [run, record_recordFailure, if_pos rfl, hr']
        rfl
      have hlate : t + failedLoginLockoutSeconds ≤
          saturatingAddU64 now failedLoginLockoutSeconds := by
        unfold saturatingAddU64
        omega
      have hcounted : countFailure r now =
          ⟨r.firstFailedAtEpochSeconds, r.failedAttempts + 1,
            some (saturatingAddU64 now failedLoginLockoutSeconds)⟩ := by
        simp only [countFailure, hcount, if_true]
      rw [hcounted] at hrec
      exact ⟨_, hrec, hfirst, hcount, _, rfl, hlate⟩
  · have hrec := record_other throttle call hk
    exact ⟨r, hrec.trans hr, hfirst, hlimit, lockedUntil, hlock, hle⟩

/-- A held key stays held until a success of that key, as long as the clock
stays within the term. -/
theorem held_of_run {key : String} {t : Nat} {username : String} {t' : Nat}
    (hterm : t + failedLoginLockoutSeconds ≤ u64Max)
    (hwithin : t' < t + failedLoginLockoutSeconds) :
    ∀ (calls : List Call) (now : Nat) (throttle : AuthThrottle), t ≤ now →
      Timely now (calls ++ [.ensureAllowed username t']) →
      (∀ call ∈ calls, call.key = key → ¬ call.IsSuccess) → Held throttle key t →
      Held (final run throttle calls) key t
  | [], _, _, _, _, _, h => h
  | call :: rest, now, throttle, hnow, htimely, hsuccess, h => by
      have hrest : ∀ c ∈ rest, c.key = key → ¬ c.IsSuccess := fun c hc =>
        hsuccess c (by simp [hc])
      have hcall := hsuccess call (by simp)
      cases call with
      | recordSuccess u =>
        rw [List.cons_append, Timely] at htimely
        have hstep := held_step h hterm (.recordSuccess u) (by simp) hcall
        exact held_of_run hterm hwithin rest now _ hnow htimely hrest hstep
      | ensureAllowed u s =>
        rw [List.cons_append, Timely] at htimely
        have hlast := (htimely.2.last rfl).1
        have hstep := held_step h hterm (.ensureAllowed u s)
          (by intro s' hs'; simp at hs'; omega) hcall
        exact held_of_run hterm hwithin rest s _ (le_trans hnow htimely.1) htimely.2 hrest hstep
      | recordFailure u s =>
        rw [List.cons_append, Timely] at htimely
        have hlast := (htimely.2.last rfl).1
        have hstep := held_step h hterm (.recordFailure u s)
          (by intro s' hs'; simp at hs'; omega) hcall
        exact held_of_run hterm hwithin rest s _ (le_trans hnow htimely.1) htimely.2 hrest hstep

theorem Held.refused {throttle : AuthThrottle} {username : String} {t now : Nat}
    (h : Held throttle (throttleKey username) t)
    (hnow : now < t + failedLoginLockoutSeconds) :
    ∃ e, (AuthThrottle.ensureAllowed username now throttle).1 = .error e := by
  obtain ⟨r, hr, hfirst, -, lockedUntil, hlock, hle⟩ := h
  rw [Option.mem_def] at hr
  have hkept : remaining now (throttle.record (throttleKey username)) = some r := by
    rw [hr, remaining_of_not_stale (not_stale hfirst hlock hle hnow)]
  exact (ensureAllowed_error_iff _ _ _).mpr ⟨r, hkept, lockedUntil, hlock, by omega⟩

/-! ## The failure that reaches the limit -/

/-- A failure at `t` that leaves the key at the limit was counted on a
record that was not stale, and locked it for a term from `t`. -/
theorem limit_reached {throttle : AuthThrottle} {username : String} {t : Nat}
    (h : ∃ r ∈ (throttle.recordFailure username t).record (throttleKey username),
      failedLoginLimit ≤ r.failedAttempts) :
    ∃ old ∈ throttle.record (throttleKey username), ¬ IsStale old t ∧
      failedLoginLimit ≤ old.failedAttempts + 1 ∧
      (throttle.recordFailure username t).record (throttleKey username) =
        some ⟨old.firstFailedAtEpochSeconds, old.failedAttempts + 1,
          some (saturatingAddU64 t failedLoginLockoutSeconds)⟩ := by
  obtain ⟨r, hr, hlimit⟩ := h
  rw [record_recordFailure, if_pos rfl, Option.mem_some_iff] at hr
  rw [record_recordFailure, if_pos rfl]
  cases hrem : remaining t (throttle.record (throttleKey username)) with
  | none =>
    -- the first failure of a key is one failure
    rw [hrem] at hr
    subst hr
    simp [FailedLoginRecord.new, countFailure, failedLoginLimit] at hlimit
  | some old =>
    rw [hrem] at hr
    have hcount : failedLoginLimit ≤ old.failedAttempts + 1 := by
      by_contra hlow
      subst hr
      simp [countFailure, hlow] at hlimit
    obtain ⟨hold, hstale⟩ := remaining_eq_some.mp hrem
    refine ⟨old, hold, hstale, hcount, ?_⟩
    simp only [Option.getD_some, countFailure, hcount, if_true]

/-- A lock lasts its full term, whatever calls come in between, exactly
when the first of the counted failures was made at the time of the last
one, and the term ends within the range of the clock. -/
theorem lockout_is_kept_iff (earlier : List Call) (username : String) (t : Nat)
    (htimely : Timely 0 (earlier ++ [.recordFailure username t]))
    (hlimit : ∃ r ∈ ((final run new earlier).recordFailure username t).record
      (throttleKey username), failedLoginLimit ≤ r.failedAttempts) :
    let before := final run new earlier
    let after := before.recordFailure username t
    (∀ (later : List Call) (asking : String) (t' : Nat),
      throttleKey asking = throttleKey username →
      Timely t (later ++ [.ensureAllowed asking t']) →
      (∀ call ∈ later, call.key = throttleKey username → ¬ call.IsSuccess) →
      t' < t + failedLoginLockoutSeconds →
      ∃ e, (AuthThrottle.ensureAllowed asking t' (final run after later)).1 = .error e) ↔
    (∃ r ∈ before.record (throttleKey username), r.firstFailedAtEpochSeconds = t) ∧
      t + failedLoginLockoutSeconds ≤ u64Max := by
  intro before after
  obtain ⟨old, hold, hstale, hcount, hafter⟩ := limit_reached hlimit
  have hpast : old.firstFailedAtEpochSeconds ≤ t :=
    past_of_run earlier 0 _ htimely (past_new 0) _ old hold
  have hopen : t < old.firstFailedAtEpochSeconds + failedLoginWindowSeconds := by
    by_contra hle
    refine hstale (.inr ?_)
    simp only [saturatingSub]
    omega
  have hclock : t ≤ u64Max := (htimely.last rfl).2
  constructor
  · intro hkept
    -- the instant at which the window or the range of the clock runs out
    have hask : old.firstFailedAtEpochSeconds = t ∧ t + failedLoginLockoutSeconds ≤ u64Max := by
      by_contra hno
      have hask := hkept [] username (min (old.firstFailedAtEpochSeconds
        + failedLoginWindowSeconds) u64Max) rfl ⟨by omega, by simp [Timely]⟩ (by simp)
        (by simp only [failedLoginWindowSeconds, failedLoginLockoutSeconds] at *; omega)
      obtain ⟨r, hr, lockedUntil, hlock, hlt⟩ := (ensureAllowed_error_iff _ _ _).mp hask
      rw [final_nil, Option.mem_def, hafter, remaining_eq_some] at hr
      obtain ⟨rfl, hfresh⟩ : _ = r ∧ _ := ⟨Option.some.inj hr.1, hr.2⟩
      obtain rfl : _ = lockedUntil := Option.some.inj hlock
      refine hfresh (.inr ?_)
      simp only [saturatingSub, saturatingAddU64, failedLoginWindowSeconds,
        failedLoginLockoutSeconds] at *
      omega
    exact ⟨⟨old, hold, hask.1⟩, hask.2⟩
  · intro hcond later asking t' hkey hlater hsuccess hwithin
    obtain ⟨⟨r, hr, hfirst⟩, hterm⟩ := hcond
    obtain rfl := Option.mem_unique hold hr
    have hheld : Held after (throttleKey username) t := by
      refine ⟨_, hafter, hfirst, hcount, _, rfl, ?_⟩
      unfold saturatingAddU64
      omega
    have hrun := held_of_run hterm hwithin later t after le_rfl hlater hsuccess hheld
    rw [← hkey] at hrun
    exact hrun.refused hwithin

/-- Five failures in the same second keep their lock to the last second. -/
theorem lockout_is_kept_same_second :
    ∃ e, (AuthThrottle.ensureAllowed "ann" 899
      (final run new (List.replicate 5 (.recordFailure "ann" 0)))).1 = .error e :=
  (lockout_is_kept_iff (List.replicate 4 (.recordFailure "ann" 0)) "ann" 0 (by decide)
    ⟨_, rfl, by decide⟩).mpr ⟨⟨_, rfl, rfl⟩, by decide⟩ [] "ann" 899 rfl (by decide) (by simp)
    (by decide)

/-- Four failures at 0 and a fifth at 899 lock the key until 1799, and
nothing but the first failure's window ends the lock at 900. -/
theorem lock_ends_with_first_window :
    let calls := List.replicate 4 (.recordFailure "ann" 0) ++ [.recordFailure "ann" 899]
    (final run new calls).record "ann" = some ⟨0, 5, some (899 + failedLoginLockoutSeconds)⟩ ∧
      (AuthThrottle.ensureAllowed "ann" 900 (final run new calls)).1 = .ok () ∧
      Timely 0 (calls ++ [.ensureAllowed "ann" 900]) := by
  decide +kernel

end AuthThrottle

end Banck.Api
