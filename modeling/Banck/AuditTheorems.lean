/-
Banck.AuditTheorems — the invariant of the audit log: ids that increase
from 1 on, and a counter one above the last of them.

A record keeps it and so does a reload, which finds the same counter:
`WellFormed.reload`.
-/
import Banck.Audit
import Banck.BankImport
import Banck.Lib.CheckedFold

namespace Banck.AuditLog

open Lib Mut Bank

variable {log log' : AuditLog} {actor : AuditActor} {action : AuditAction}
  {outcome : AuditOutcome} {target : Option String} {message : String} {now : Nat}

/-! ## Recording -/

theorem record_ok_iff {entry : AuditEntry} :
    record actor action outcome target message now log = (.ok entry, log') ↔
      log.nextId + 1 ≤ u64Max ∧
      entry = ⟨log.nextId, now, actor, action, outcome, target, message⟩ ∧
      log' = ⟨log.entries ++ [entry], log.nextId + 1⟩ := by
  simp only [record, bind_ok_iff, get_ok_iff, okOr_ok_iff, checkedAddU64_eq_some,
    modify_ok_iff, pure_ok_iff]
  constructor
  · rintro ⟨_, _, ⟨rfl, rfl⟩, _, _, ⟨⟨hle, rfl⟩, rfl⟩, _, _, rfl, _, _, rfl, rfl, rfl⟩
    exact ⟨hle, rfl, rfl⟩
  · rintro ⟨hle, rfl, rfl⟩
    exact ⟨log, log, ⟨rfl, rfl⟩, _, _, ⟨⟨hle, rfl⟩, rfl⟩, (), _, rfl, (), _, rfl, rfl, rfl⟩

/-- An id is left to take. -/
def HasId (log : AuditLog) : Prop := log.nextId + 1 ≤ u64Max

instance (log : AuditLog) : Decidable log.HasId := inferInstanceAs (Decidable (_ ≤ _))

/-- With an id left, the entry is appended. -/
theorem record_run (h : log.HasId) (actor : AuditActor) (action : AuditAction)
    (outcome : AuditOutcome) (target : Option String) (message : String) (now : Nat) :
    record actor action outcome target message now log =
      (.ok ⟨log.nextId, now, actor, action, outcome, target, message⟩,
        ⟨log.entries ++ [⟨log.nextId, now, actor, action, outcome, target, message⟩],
          log.nextId + 1⟩) :=
  record_ok_iff.mpr ⟨h, rfl, rfl⟩

/-- A record that fails for want of an id changes nothing. -/
theorem record_error {e : AuditError}
    (h : record actor action outcome target message now log = (.error e, log')) :
    e = .arithmeticOverflow ∧ u64Max < log.nextId + 1 ∧ log' = log := by
  simp only [record, bind_error_iff, okOr_error_iff, okOr_ok_iff, get_run,
    modify_run, pure_run, checkedAddU64_eq_none, Prod.mk.injEq, reduceCtorEq, false_and,
    and_false, exists_false, or_false, false_or, Except.ok.injEq] at h
  obtain ⟨_, _, ⟨rfl, rfl⟩, hfull, rfl, rfl⟩ := h
  exact ⟨rfl, hfull, rfl⟩

/-- A record adds one entry under the next id, or nothing. -/
theorem record_cases (actor : AuditActor) (action : AuditAction) (outcome : AuditOutcome)
    (target : Option String) (message : String) (now : Nat) (log : AuditLog) :
    (record actor action outcome target message now log).2 = log ∨
      log.nextId + 1 ≤ u64Max ∧
        (record actor action outcome target message now log).2 =
          ⟨log.entries ++ [⟨log.nextId, now, actor, action, outcome, target, message⟩],
            log.nextId + 1⟩ := by
  rcases hrun : record actor action outcome target message now log with ⟨e | entry, log'⟩
  · exact .inl (record_error hrun).2.2
  · obtain ⟨hle, rfl, rfl⟩ := record_ok_iff.mp hrun
    exact .inr ⟨hle, rfl⟩

/-! ## The invariant -/

/-- The ids of the entries, in order. -/
def ids (log : AuditLog) : List Nat := log.entries.map AuditEntry.id

theorem ids_append (log : AuditLog) (entry : AuditEntry) (nextId : Nat) :
    ids ⟨log.entries ++ [entry], nextId⟩ = log.ids ++ [entry.id] := by
  simp [ids]

/-- Positive and distinct ids, and a counter one above the largest. -/
structure Numbered (log : AuditLog) : Prop where
  nonzero : ∀ id ∈ log.ids, id ≠ 0
  distinct : log.ids.Nodup
  next : log.nextId = maxId log.ids + 1
  bounded : log.nextId ≤ u64Max

theorem Numbered.below (h : log.Numbered) {id : Nat} (hid : id ∈ log.ids) : id < log.nextId := by
  have hle := le_maxId hid
  rw [h.next]
  omega

/-- The next id is new, and the entry under it is the largest. -/
theorem Numbered.append (h : log.Numbered) (hid : log.HasId) {entry : AuditEntry}
    (hentry : entry.id = log.nextId) :
    Numbered ⟨log.entries ++ [entry], log.nextId + 1⟩ := by
  have hnext := h.next
  have hids : ids ⟨log.entries ++ [entry], log.nextId + 1⟩ = log.ids ++ [log.nextId] := by
    rw [ids_append, hentry]
  constructor
  · intro id hmem
    rw [hids] at hmem
    rcases List.mem_append.mp hmem with hold | hlast
    · exact h.nonzero id hold
    · rw [List.mem_singleton.mp hlast]
      omega
  · rw [hids, List.nodup_append]
    refine ⟨h.distinct, by simp, fun id hold id' hlast => ?_⟩
    have hbelow := h.below hold
    rw [List.mem_singleton.mp hlast]
    omega
  · rw [hids, maxId_append, maxId_cons, maxId_nil]
    show log.nextId + 1 = _
    omega
  · exact hid

/-- The ids of a log that was never loaded out of order. -/
structure WellFormed (log : AuditLog) : Prop where
  nonzero : ∀ id ∈ log.ids, id ≠ 0
  increasing : log.ids.Pairwise (· < ·)
  next : log.nextId = maxId log.ids + 1
  bounded : log.nextId ≤ u64Max

theorem WellFormed.numbered (h : log.WellFormed) : log.Numbered :=
  ⟨h.nonzero, h.increasing.imp fun hlt => Nat.ne_of_lt hlt, h.next, h.bounded⟩

theorem wellFormed_new : new.WellFormed :=
  ⟨by simp [ids, new], by simp [ids, new], rfl, by decide⟩

theorem WellFormed.record (h : log.WellFormed) (actor : AuditActor) (action : AuditAction)
    (outcome : AuditOutcome) (target : Option String) (message : String) (now : Nat) :
    (record actor action outcome target message now log).2.WellFormed := by
  rcases record_cases actor action outcome target message now log with hsame | ⟨hle, hnew⟩
  · rw [hsame]; exact h
  · rw [hnew]
    have happend : Numbered ⟨log.entries ++ [⟨log.nextId, now, actor, action, outcome, target,
        message⟩], log.nextId + 1⟩ := h.numbered.append hle rfl
    refine ⟨happend.nonzero, ?_, happend.next, hle⟩
    rw [ids_append, List.pairwise_append]
    refine ⟨h.increasing, by simp, fun id hid id' hid' => ?_⟩
    rw [List.mem_singleton.mp hid']
    exact h.numbered.below hid

/-! ## Loading -/

/-- An entry the loop takes in, and what the loop carries then. -/
def Import.Accepts (loaded : Import) (entry : AuditEntry) : Prop :=
  entry.id ≠ 0 ∧ ¬ entry.id ∈ loaded.seen

def Import.add (loaded : Import) (entry : AuditEntry) : Import :=
  ⟨insert entry.id loaded.seen, max loaded.maxId entry.id⟩

theorem importEntry_ok_iff (loaded : Import) (entry : AuditEntry) (loaded' : Import) :
    importEntry loaded entry = .ok loaded' ↔
      loaded.Accepts entry ∧ loaded' = loaded.add entry := by
  unfold importEntry Import.Accepts Import.add
  by_cases hz : entry.id = 0
  · simp [hz]
  · by_cases hs : entry.id ∈ loaded.seen
    · simp [hz, hs]
    · simp [hz, hs, eq_comm]

theorem foldl_maxId (entries : List AuditEntry) (loaded : Import) :
    (entries.foldl Import.add loaded).maxId =
      max loaded.maxId (Bank.maxId (entries.map AuditEntry.id)) := by
  induction entries generalizing loaded with
  | nil => simp
  | cons entry rest ih =>
    rw [List.foldl_cons, ih, List.map_cons, maxId_cons, Import.add, max_assoc]

/-- The loop goes through when the ids are positive and distinct. -/
theorem passes_iff (entries : List AuditEntry) :
    CheckedFold.Passes Import.Accepts Import.add ⟨∅, 0⟩ entries ↔
      (∀ entry ∈ entries, entry.id ≠ 0) ∧ (entries.map AuditEntry.id).Nodup := by
  have hseen : ∀ (loaded : Import) (entry : AuditEntry) (id : Nat),
      id ∈ (loaded.add entry).seen ↔ id = entry.id ∨ id ∈ loaded.seen := by
    intro loaded entry id
    exact Finset.mem_insert
  refine (CheckedFold.passes_and entries).trans ?_
  rw [CheckedFold.passes_forall, CheckedFold.passes_distinct hseen]
  simp

/-- Which entries are accepted, and what becomes of them. -/
theorem fromEntries_ok_iff {entries : List AuditEntry} :
    fromEntries entries = .ok log ↔
      (∀ entry ∈ entries, entry.id ≠ 0) ∧ (entries.map AuditEntry.id).Nodup ∧
      maxId (entries.map AuditEntry.id) < u64Max ∧
      log = ⟨entries, maxId (entries.map AuditEntry.id) + 1⟩ := by
  have hfold := fun loaded' => @CheckedFold.foldlM_ok_iff _ _ _ _ _ _ importEntry_ok_iff
    entries ⟨∅, 0⟩ loaded'
  have hmax := foldl_maxId entries ⟨∅, 0⟩
  rw [Nat.zero_max] at hmax
  rw [← and_assoc, ← passes_iff]
  unfold fromEntries
  cases hloop : entries.foldlM importEntry ⟨∅, 0⟩ with
  | error e =>
    have hno : ¬ CheckedFold.Passes Import.Accepts Import.add ⟨∅, 0⟩ entries := fun hp => by
      rw [(hfold _).mpr ⟨hp, rfl⟩] at hloop; cases hloop
    simp [hno, bind, Except.bind]
  | ok loaded =>
    obtain ⟨hpasses, rfl⟩ := (hfold loaded).mp hloop
    simp only [hpasses, bind, Except.bind, hmax, true_and]
    cases hnext : checkedAddU64 (maxId (entries.map AuditEntry.id)) 1 with
    | none =>
      have hfull := checkedAddU64_eq_none.mp hnext
      simp only [reduceCtorEq, false_iff, not_and]
      omega
    | some next =>
      obtain ⟨hle, rfl⟩ := checkedAddU64_eq_some.mp hnext
      simp only [Except.ok.injEq, eq_comm (a := log)]
      constructor
      · intro h
        exact ⟨by omega, h⟩
      · intro h
        exact h.2

/-- A reload finds the counter that was not stored. -/
theorem Numbered.reload (h : log.Numbered) : fromEntries log.entries = .ok log := by
  have hnext := h.next
  have hbounded := h.bounded
  have hnonzero : ∀ entry ∈ log.entries, entry.id ≠ 0 :=
    fun entry hentry => h.nonzero _ (List.mem_map.mpr ⟨entry, hentry, rfl⟩)
  have hmax : maxId (log.entries.map AuditEntry.id) < u64Max := by
    rw [ids] at hnext
    omega
  exact fromEntries_ok_iff.mpr ⟨hnonzero, h.distinct, hmax, by rw [← ids, ← hnext]⟩

/-- A well-formed log is loaded as it is. -/
theorem WellFormed.reload (h : log.WellFormed) : fromEntries log.entries = .ok log :=
  h.numbered.reload

end Banck.AuditLog
