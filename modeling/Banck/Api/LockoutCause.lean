/-
Banck.Api.LockoutCause — what must have happened before a login is refused
without a look at the password.

The record of a key stands for the calls since its first counted failure:
that failure is among the calls, no success of the key came after it, and
every failure of the key that did was counted (`Earned`). A call for
another key changes nothing of this, so a refusal is due to failures of its
own key within one window (`no_false_lockout`).
-/
import Banck.Api.Throttle

namespace Banck.Api.AuthThrottle

open Lib Machine

/-! ## Failures of a key -/

/-- When a call is a failure of the key, its time. -/
def Call.failureTime (key : String) : Call → Option Nat
  | recordFailure username now => if throttleKey username = key then some now else none
  | ensureAllowed _ _ | recordSuccess _ => none

/-- The times of the failures of a key, in the order of the calls. -/
def failureTimes (key : String) (calls : List Call) : List Nat :=
  calls.filterMap (Call.failureTime key)

/-- No call is a success of the key. -/
def NoSuccess (key : String) (calls : List Call) : Prop :=
  ∀ call ∈ calls, call.key = key → ¬ call.IsSuccess

section Failures

variable {key : String} {calls : List Call} {call : Call} {now t : Nat}

theorem failureTimes_append (xs ys : List Call) :
    failureTimes key (xs ++ ys) = failureTimes key xs ++ failureTimes key ys :=
  List.filterMap_append

theorem failureTime_other (h : key ≠ call.key) : call.failureTime key = none := by
  cases call with
  | ensureAllowed | recordSuccess => rfl
  | recordFailure username t =>
    rw [Call.key] at h
    rw [Call.failureTime, if_neg (Ne.symm h)]

theorem NoSuccess.append (h : NoSuccess key calls) (hcall : call.key = key → ¬ call.IsSuccess) :
    NoSuccess key (calls ++ [call]) :=
  List.forall_mem_append.mpr ⟨h, List.forall_mem_singleton.mpr hcall⟩

/-- The time of a failure is that of one of the calls. -/
theorem mem_failureTimes {s : Nat} (h : s ∈ failureTimes key calls) :
    ∃ call ∈ calls, s ∈ call.time := by
  obtain ⟨call, hcall, hs⟩ := List.mem_filterMap.mp h
  refine ⟨call, hcall, ?_⟩
  cases call with
  | ensureAllowed | recordSuccess => cases hs
  | recordFailure username t =>
    rw [Call.failureTime] at hs
    split at hs
    · exact hs
    · cases hs

end Failures

/-! ## What a record stands for -/

/-- The record was opened by a failure of the key, and counts it and every
failure of the key since; there was no success of the key since. A lock is
put on at the limit only. -/
structure EarnedBy (key : String) (past : List Call) (r : FailedLoginRecord)
    (before : List Call) (username : String) (since : List Call) : Prop where
  past_eq : past = before ++ .recordFailure username r.firstFailedAtEpochSeconds :: since
  opened : throttleKey username = key
  noSuccess : NoSuccess key since
  counted : r.failedAttempts = (failureTimes key since).length + 1
  locked : r.lockedUntilEpochSeconds ≠ none → failedLoginLimit ≤ r.failedAttempts

/-- Every record is earned by the calls of the past. -/
def Earned (past : List Call) (throttle : AuthThrottle) : Prop :=
  ∀ key, ∀ r ∈ throttle.record key, ∃ before username since,
    EarnedBy key past r before username since

section Earned

variable {key username : String} {past before since : List Call} {r : FailedLoginRecord}
  {call : Call} {throttle : AuthThrottle} {now : Nat}

theorem earned_new : Earned [] new := by
  intro key r hr
  simp [record, new] at hr

/-- A call that leaves the record as it is, and is no failure of the key. -/
theorem EarnedBy.snoc (h : EarnedBy key past r before username since)
    (hfailure : call.failureTime key = none) (hcall : call.key = key → ¬ call.IsSuccess) :
    EarnedBy key (past ++ [call]) r before username (since ++ [call]) where
  past_eq := by rw [h.past_eq, List.append_assoc, List.cons_append]
  opened := h.opened
  noSuccess := h.noSuccess.append hcall
  counted := by
    rw [failureTimes_append, h.counted]
    simp [failureTimes, hfailure]
  locked := h.locked

theorem attempts_countFailure (r : FailedLoginRecord) (now : Nat) :
    (countFailure r now).failedAttempts = r.failedAttempts + 1 := by
  simp only [countFailure]
  split <;> rfl

theorem locked_countFailure (hlocked : r.lockedUntilEpochSeconds ≠ none →
      failedLoginLimit ≤ r.failedAttempts)
    (h : (countFailure r now).lockedUntilEpochSeconds ≠ none) :
    failedLoginLimit ≤ (countFailure r now).failedAttempts := by
  rw [attempts_countFailure]
  simp only [countFailure] at h
  split at h
  · next hlimit => exact hlimit
  · exact Nat.le_succ_of_le (hlocked h)

/-- One more failure of the key on a record that is kept. -/
theorem EarnedBy.count (h : EarnedBy (throttleKey username) past r before u since) :
    EarnedBy (throttleKey username) (past ++ [.recordFailure username now]) (countFailure r now)
      before u (since ++ [.recordFailure username now]) where
  past_eq := by rw [first_countFailure, h.past_eq, List.append_assoc, List.cons_append]
  opened := h.opened
  noSuccess := h.noSuccess.append fun _ => id
  counted := by
    rw [attempts_countFailure, failureTimes_append, h.counted]
    simp [failureTimes, Call.failureTime]
  locked := locked_countFailure h.locked

/-- The first failure of a key. -/
theorem earnedBy_first (past : List Call) (username : String) (now : Nat) :
    EarnedBy (throttleKey username) (past ++ [.recordFailure username now])
      (countFailure (.new now) now) past username [] where
  past_eq := rfl
  opened := rfl
  noSuccess := by intro call hcall; cases hcall
  counted := rfl
  locked := locked_countFailure fun h => absurd rfl h

/-- Every call keeps the records earned, the silent ends of records
included. -/
theorem Earned.step (h : Earned past throttle) (call : Call) :
    Earned (past ++ [call]) (run throttle call).2 := by
  intro key r hr
  by_cases hk : key = call.key
  · subst hk
    cases call with
    | ensureAllowed username now =>
      rw [run, record_ensureAllowed, Call.key, record_expireIfNeeded, if_pos rfl] at hr
      obtain ⟨before, u, since, hearned⟩ := h _ r (remaining_eq_some.mp hr).1
      exact ⟨before, u, _, hearned.snoc rfl fun _ => id⟩
    | recordSuccess username =>
      simp [run, Call.key, record, recordSuccess] at hr
    | recordFailure username now =>
      rw [run, Call.key, record_recordFailure, if_pos rfl, Option.mem_some_iff] at hr
      subst hr
      cases hrem : remaining now (throttle.record (throttleKey username)) with
      | none => exact ⟨past, username, [], earnedBy_first past username now⟩
      | some old =>
        obtain ⟨before, u, since, hearned⟩ := h _ old (remaining_eq_some.mp hrem).1
        exact ⟨before, u, _, hearned.count⟩
  · rw [record_other throttle call hk] at hr
    obtain ⟨before, u, since, hearned⟩ := h key r hr
    exact ⟨before, u, _, hearned.snoc (failureTime_other hk) fun he => absurd he.symm hk⟩

theorem earned_after (past : List Call) : Earned past (final run new past) :=
  final_history run (fun _ _ call h => h.step call) past new earned_new

end Earned

/-! ## Other keys -/

section OtherKeys

variable {throttle throttle' : AuthThrottle} {key username : String} {now : Nat}

/-- The answer depends on the record of the key alone. -/
theorem ensureAllowed_congr
    (h : throttle.record (throttleKey username) = throttle'.record (throttleKey username)) :
    (AuthThrottle.ensureAllowed username now throttle).1 =
      (AuthThrottle.ensureAllowed username now throttle').1 := by
  have hexpired : (throttle.expireIfNeeded (throttleKey username) now).record
      (throttleKey username) =
      (throttle'.expireIfNeeded (throttleKey username) now).record (throttleKey username) := by
    rw [record_expireIfNeeded, record_expireIfNeeded, if_pos rfl, if_pos rfl, h]
  simp only [AuthThrottle.ensureAllowed, Mut.bind_run, Mut.modify_run, Mut.get_run]
  generalize throttle.expireIfNeeded (throttleKey username) now = expired at hexpired
  generalize throttle'.expireIfNeeded (throttleKey username) now = expired' at hexpired
  unfold record at hexpired
  rw [hexpired]
  cases expired'.failuresByUsername[throttleKey username]? with
  | none => rfl
  | some r =>
    cases h : r.lockedUntilEpochSeconds with
    | none => simp [h]
    | some lockedUntil => by_cases hn : now < lockedUntil <;> simp [h, Mut.ensure, hn]

/-- What a call makes of the record of its key depends on that record
alone. -/
theorem record_congr (call : Call) (h : throttle.record call.key = throttle'.record call.key) :
    (run throttle call).2.record call.key = (run throttle' call).2.record call.key := by
  cases call with
  | ensureAllowed username now =>
    rw [Call.key] at h ⊢
    rw [run, run, record_ensureAllowed, record_ensureAllowed, record_expireIfNeeded,
      record_expireIfNeeded, if_pos rfl, if_pos rfl, h]
  | recordSuccess username => simp [run, Call.key, record, recordSuccess]
  | recordFailure username now =>
    rw [Call.key] at h ⊢
    rw [run, run, record_recordFailure, record_recordFailure, if_pos rfl, if_pos rfl, h]

/-- Calls for other keys may be left out. -/
theorem record_final_filter (calls : List Call) :
    ∀ {throttle throttle' : AuthThrottle}, throttle.record key = throttle'.record key →
      (final run throttle calls).record key =
        (final run throttle' (calls.filter fun call => call.key = key)).record key := by
  induction calls with
  | nil => exact id
  | cons call rest ih =>
    intro throttle throttle' h
    by_cases hk : call.key = key
    · rw [List.filter_cons_of_pos (by simpa using hk), final_cons, final_cons]
      subst hk
      exact ih (record_congr call h)
    · rw [List.filter_cons_of_neg (by simpa using hk), final_cons]
      exact ih ((record_other throttle call (Ne.symm hk)).trans h)

end OtherKeys

/-! ## A refusal -/

/-- A login is refused only after at least the limit of failures of its key
within the window that ends now, with no success of the key after the first
of them. Calls for other keys make no difference to the answer. -/
theorem no_false_lockout (earlier : List Call) (username : String) (t : Nat)
    (htimely : Timely 0 (earlier ++ [.ensureAllowed username t])) :
    let key := throttleKey username
    (∀ e, (AuthThrottle.ensureAllowed username t (final run new earlier)).1 = .error e →
      ∃ before first since, earlier = before ++ first :: since ∧
        first.failureTime key ≠ none ∧ NoSuccess key since ∧
        failedLoginLimit ≤ (failureTimes key (first :: since)).length ∧
        ∀ s ∈ failureTimes key (first :: since),
          t < s + failedLoginWindowSeconds ∧ s ≤ t) ∧
    (AuthThrottle.ensureAllowed username t (final run new earlier)).1 =
      (AuthThrottle.ensureAllowed username t
        (final run new (earlier.filter fun call => call.key = key))).1 := by
  intro key
  refine ⟨fun e hrefused => ?_, ensureAllowed_congr (record_final_filter earlier rfl)⟩
  obtain ⟨r, hr, lockedUntil, hlock, -⟩ := (ensureAllowed_error_iff _ _ _).mp ⟨e, hrefused⟩
  obtain ⟨hrecord, hfresh⟩ := remaining_eq_some.mp hr
  obtain ⟨before, u, since, hearned⟩ := earned_after earlier key r hrecord
  have hlimit := hearned.locked (by rw [hlock]; exact Option.some_ne_none _)
  obtain ⟨rfl, hopened, hnone, hcounted, -⟩ := hearned
  have hfirst : Call.failureTime key (.recordFailure u r.firstFailedAtEpochSeconds) =
      some r.firstFailedAtEpochSeconds := by
    rw [Call.failureTime, if_pos hopened]
  have htimes : failureTimes key (.recordFailure u r.firstFailedAtEpochSeconds :: since) =
      r.firstFailedAtEpochSeconds :: failureTimes key since := by
    rw [failureTimes, List.filterMap_cons, hfirst]
    rfl
  refine ⟨before, _, since, rfl, ?_, hnone, ?_, fun s hs => ?_⟩
  · rw [hfirst]
    exact Option.some_ne_none _
  · rw [htimes, List.length_cons, ← hcounted]
    exact hlimit
  · -- the first failure, those since, and the question, in order of time
    rw [List.append_assoc] at htimely
    obtain ⟨now, -, hordered, -⟩ := htimely.split
    obtain ⟨-, hsince⟩ := timely_cons.mp hordered
    obtain ⟨u, hfrom, hasked, hbetween⟩ := Timely.split hsince
    have hto : u ≤ t := hasked.1
    have hbounds : r.firstFailedAtEpochSeconds ≤ s ∧ s ≤ u := by
      rw [htimes] at hs
      rcases List.mem_cons.mp hs with rfl | hs
      · exact ⟨le_rfl, hfrom⟩
      · obtain ⟨call, hcall, hread⟩ := mem_failureTimes hs
        exact hbetween call hcall s hread
    have hopen : t < r.firstFailedAtEpochSeconds + failedLoginWindowSeconds := by
      by_contra hover
      refine hfresh (.inr ?_)
      simp only [saturatingSub]
      omega
    exact ⟨by omega, le_trans hbounds.2 hto⟩

/-- Five failures in the first second, and a question at 899. -/
theorem no_false_lockout_last_second :
    let calls := List.replicate 5 (Call.recordFailure "ann" 0)
    ∃ e before first since,
      (AuthThrottle.ensureAllowed "ann" 899 (final run new calls)).1 = .error e ∧
      calls = before ++ first :: since ∧
      failedLoginLimit ≤ (failureTimes (throttleKey "ann") (first :: since)).length := by
  intro calls
  obtain ⟨e, hrefused⟩ : ∃ e,
      (AuthThrottle.ensureAllowed "ann" 899 (final run new calls)).1 = .error e := ⟨_, rfl⟩
  obtain ⟨before, first, since, heq, -, -, hlimit, -⟩ :=
    (no_false_lockout calls "ann" 899 (by decide)).1 e hrefused
  exact ⟨e, before, first, since, hrefused, heq, hlimit⟩

end Banck.Api.AuthThrottle
