/-
Banck.AuditRuns — the audit log over whole runs of records and reloads.

A log that was loaded may have its ids in any order, so the invariant of
the operations alone (`WellFormed`) asks too much of it. What every log
keeps is `Numbered`, and that is all a reload needs to find the counter
again.
-/
import Banck.AuditTheorems
import Banck.Lib.Machine

namespace Banck.AuditLog

open Lib Lib.Machine Bank

variable {log log' : AuditLog}

/-! ## The counter -/

/-- The counter is one above the largest id, and 1 without an entry. -/
theorem Numbered.next_cases (h : log.Numbered) :
    log.entries = [] ∧ log.nextId = 1 ∨ ∃ id ∈ log.ids, log.nextId = id + 1 := by
  by_cases hempty : log.entries = []
  · have hnext := h.next
    rw [ids, hempty, List.map_nil, maxId_nil] at hnext
    exact .inl ⟨hempty, hnext⟩
  · have hids : log.ids ≠ [] := by simpa [ids] using hempty
    exact .inr ⟨maxId log.ids, maxId_mem hids, h.next⟩

/-! ## Recording and loading -/

theorem Numbered.record (h : log.Numbered) (actor : AuditActor) (action : AuditAction)
    (outcome : AuditOutcome) (target : Option String) (message : String) (now : Nat) :
    (record actor action outcome target message now log).2.Numbered := by
  rcases record_cases actor action outcome target message now log with hsame | ⟨hid, hnew⟩
  · rw [hsame]
    exact h
  · rw [hnew]
    exact h.append hid rfl

theorem numbered_of_fromEntries {entries : List AuditEntry}
    (h : fromEntries entries = .ok log) : log.Numbered := by
  obtain ⟨hnonzero, hdistinct, hmax, rfl⟩ := fromEntries_ok_iff.mp h
  constructor
  · simpa [ids] using hnonzero
  · exact hdistinct
  · rfl
  · exact hmax

/-! ## Runs -/

/-- A call on a log. A reload puts the log that `from_entries` makes of its
entries in its place. -/
inductive Call where
  | record (actor : AuditActor) (action : AuditAction) (outcome : AuditOutcome)
      (target : Option String) (message : String) (now : Nat)
  | reload
  deriving DecidableEq, Repr

/-- A record answers with its entry. -/
abbrev Answer : Type := Except AuditError (Option AuditEntry)

def step (log : AuditLog) : Call → Answer × AuditLog
  | .record actor action outcome target message now =>
      let (result, log') := AuditLog.record actor action outcome target message now log
      (result.map some, log')
  | .reload =>
      match fromEntries log.entries with
      | .ok log' => (.ok none, log')
      | .error e => (.error e, log)

/-- Where a run starts: `new`, or what was loaded. -/
def Started (log : AuditLog) : Prop := log = new ∨ ∃ entries, fromEntries entries = .ok log

theorem Started.numbered (h : log.Started) : log.Numbered := by
  rcases h with rfl | ⟨entries, hload⟩
  · exact wellFormed_new.numbered
  · exact numbered_of_fromEntries hload

theorem Numbered.step_reload (h : log.Numbered) : step log .reload = (.ok none, log) := by
  simp [step, h.reload]

theorem Numbered.step (h : log.Numbered) (call : Call) : (step log call).2.Numbered := by
  cases call with
  | record actor action outcome target message now =>
    exact h.record actor action outcome target message now
  | reload =>
    rw [h.step_reload]
    exact h

/-- The entries only grow, at the end. -/
theorem Numbered.step_prefix (h : log.Numbered) (call : Call) :
    log.entries <+: (AuditLog.step log call).2.entries := by
  cases call with
  | record actor action outcome target message now =>
    rcases record_cases actor action outcome target message now log with hsame | ⟨-, hnew⟩
    · simp [AuditLog.step, hsame]
    · simp [AuditLog.step, hnew]
  | reload => simp [h.step_reload]

/-- A call that fails is a record, and changes nothing. -/
theorem Numbered.step_error (h : log.Numbered) {call : Call} {e : AuditError}
    (herror : AuditLog.step log call = (.error e, log')) : call ≠ .reload ∧ log' = log := by
  cases call with
  | record actor action outcome target message now =>
    refine ⟨Call.noConfusion, ?_⟩
    rcases hrun : AuditLog.record actor action outcome target message now log with
      ⟨e' | entry, log''⟩
    · simp only [AuditLog.step, hrun, Except.map, Prod.mk.injEq] at herror
      rw [← herror.2]
      exact (record_error hrun).2.2
    · simp [AuditLog.step, hrun, Except.map] at herror
  | reload => simp [h.step_reload] at herror

theorem Numbered.final (h : log.Numbered) (calls : List Call) :
    (final AuditLog.step log calls).Numbered :=
  final_invariant AuditLog.step (fun _ call hlog => hlog.step call) calls log h

theorem Numbered.final_prefix (h : log.Numbered) (calls : List Call) :
    log.entries <+: (Machine.final AuditLog.step log calls).entries := by
  induction calls generalizing log with
  | nil => exact List.prefix_rfl
  | cons call rest ih => exact (h.step_prefix call).trans (ih (h.step call))

/-- The log is append-only and no id comes twice, whatever is recorded and
however often the log is loaded again. -/
theorem appendOnly_run (hstart : log.Started) (earlier later : List Call) :
    let mid := Machine.final AuditLog.step log earlier
    let last := Machine.final AuditLog.step log (earlier ++ later)
    (∀ id ∈ last.ids, id ≠ 0 ∧ id < last.nextId) ∧ last.ids.Nodup ∧
    (last.entries = [] ∧ last.nextId = 1 ∨ ∃ id ∈ last.ids, last.nextId = id + 1) ∧
    (∃ added, last.entries = mid.entries ++ added) ∧
    (∀ (call : Call) (e : AuditError) (after : AuditLog),
      AuditLog.step last call = (.error e, after) → call ≠ .reload ∧ after = last) ∧
    fromEntries last.entries = .ok last := by
  intro mid last
  have hmid : mid.Numbered := hstart.numbered.final earlier
  have hlast : last.Numbered := hstart.numbered.final (earlier ++ later)
  have hgrown : mid.entries <+: last.entries := by
    have happend := hmid.final_prefix later
    rw [← final_append] at happend
    exact happend
  obtain ⟨added, hadded⟩ := hgrown
  exact ⟨fun id hid => ⟨hlast.nonzero id hid, hlast.below hid⟩, hlast.distinct,
    hlast.next_cases, ⟨added, hadded.symm⟩, fun _ _ _ herror => hlast.step_error herror,
    hlast.reload⟩

/-- Loaded out of order and one id short of the end: two records, of which
the second fails, and a reload. -/
theorem appendOnly_run_full :
    let entry (id : Nat) : AuditEntry := ⟨id, 0, .system, .login, .success, none, ""⟩
    let loaded : AuditLog := ⟨[entry (u64Max - 2), entry 7], u64Max - 1⟩
    let call : Call := .record .system .logout .failure none "" 5
    (Machine.final AuditLog.step loaded ([call] ++ [call, .reload])).ids =
      [u64Max - 2, 7, u64Max - 1] ∧
    (Machine.final AuditLog.step loaded ([call] ++ [call, .reload])).ids.Nodup := by
  intro entry loaded call
  have hstart : loaded.Started := .inr ⟨[entry (u64Max - 2), entry 7], by decide⟩
  have h := appendOnly_run hstart [call] [call, .reload]
  exact ⟨by decide, h.2.1⟩

end Banck.AuditLog
