/-
Banck.Lib.Locks — tasks that take locks, and an order of the locks that
keeps them from waiting for each other.

`Code` is what the locks see of a function: its guards, each with its
scope, and the places where it may be left. `Code.exits` are the traces of
its ways out, one for each. A `Config` is a number of tasks, each on a
trace of its own, and a queue before every lock; the locks are fair, shared
or exclusive, and a task that asks for one waits until it is first in the
queue and no hold is in its way.

Where every function takes its locks in the order of their rank
(`Code.Ordered`), some unfinished task can always go on
(`Sound.not_deadlocked`).
-/
import Banck.Lib.Machine

namespace Banck.Lib.Locks

open Machine

/-! ## Traces -/

inductive Access where
  | shared
  | exclusive
  deriving DecidableEq, Repr

/-- One step of a task. -/
inductive Step (L : Type) where
  | acquire (lock : L) (access : Access)
  | release (lock : L)
  deriving DecidableEq, Repr

abbrev Trace (L : Type) : Type := List (Step L)

/-- What a task holds, the newest first. -/
abbrev Holds (L : Type) : Type := List (L × Access)

section Walk

variable {L : Type} [DecidableEq L] (rank : L → Nat)

/-- The holds after a trace, if each lock that it takes is above those it
holds, and each that it gives back is the newest. -/
def walk : Holds L → Trace L → Option (Holds L)
  | held, [] => some held
  | held, .acquire lock access :: rest =>
      if ∀ hold ∈ held, rank hold.1 < rank lock then walk ((lock, access) :: held) rest else none
  | (newest, _) :: held, .release lock :: rest =>
      if newest = lock then walk held rest else none
  | [], .release _ :: _ => none

variable {rank} {held held' : Holds L} {trace : Trace L} {lock : L} {access : Access}

theorem walk_append (trace' : Trace L) (h : walk rank held trace = some held') :
    walk rank held (trace ++ trace') = walk rank held' trace' := by
  induction trace generalizing held with
  | nil =>
    obtain rfl : held = held' := Option.some.inj h
    rfl
  | cons step rest ih =>
    cases step with
    | acquire lock access =>
      simp only [walk, List.cons_append] at h ⊢
      split at h
      · next hranks => rw [if_pos hranks, ih h]
      · cases h
    | release lock =>
      cases held with
      | nil => cases h
      | cons newest held =>
        simp only [walk, List.cons_append] at h ⊢
        split at h
        · next hnewest => rw [if_pos hnewest, ih h]
        · cases h

theorem walk_acquire (h : walk rank held (.acquire lock access :: trace) = some held') :
    (∀ hold ∈ held, rank hold.1 < rank lock) ∧
      walk rank ((lock, access) :: held) trace = some held' := by
  simp only [walk] at h
  split at h
  · next hranks => exact ⟨hranks, h⟩
  · cases h

theorem walk_release (h : walk rank held (.release lock :: trace) = some held') :
    ∃ access older, held = (lock, access) :: older ∧ walk rank older trace = some held' := by
  cases held with
  | nil => cases h
  | cons newest older =>
    obtain ⟨newest, access⟩ := newest
    simp only [walk] at h
    split at h
    · next hnewest => exact ⟨access, older, by rw [hnewest], h⟩
    · cases h

end Walk

/-! ## Functions -/

/-- What the locks see of a function. -/
inductive Code (L : Type) where
  /-- The end of the function, or a `return`. -/
  | finish
  /-- The function may be left here with an error. -/
  | mayLeave (rest : Code L)
  /-- One of two branches. -/
  | either (left right : Code L)
  /-- A guard for one statement; `fallible` if the statement may leave the
  function. -/
  | brief (lock : L) (access : Access) (fallible : Bool) (rest : Code L)
  /-- A guard until the function is left. -/
  | guard (lock : L) (access : Access) (rest : Code L)
  deriving DecidableEq, Repr

namespace Code

section

variable {L : Type}

/-- The traces of the ways out. A guard is given back on every one. -/
def exits : Code L → List (Trace L)
  | finish => [[]]
  | mayLeave rest => [] :: rest.exits
  | either left right => left.exits ++ right.exits
  | brief lock access fallible rest =>
      (if fallible then [[.acquire lock access, .release lock]] else []) ++
        rest.exits.map fun trace => .acquire lock access :: .release lock :: trace
  | guard lock access rest =>
      rest.exits.map fun trace => .acquire lock access :: (trace ++ [.release lock])

/-- The lock is taken on some way out. -/
def takes [DecidableEq L] (code : Code L) (lock : L) (access : Access) : Bool :=
  code.exits.any fun trace => .acquire lock access ∈ trace

/-- Each lock is above those that are held where it is taken. -/
def Ordered (rank : L → Nat) : List L → Code L → Prop
  | _, finish => True
  | held, mayLeave rest => rest.Ordered rank held
  | held, either left right => left.Ordered rank held ∧ right.Ordered rank held
  | held, brief lock _ _ rest => (∀ other ∈ held, rank other < rank lock) ∧ rest.Ordered rank held
  | held, guard lock _ rest =>
      (∀ other ∈ held, rank other < rank lock) ∧ rest.Ordered rank (lock :: held)

instance decidableOrdered (rank : L → Nat) :
    ∀ (held : List L) (code : Code L), Decidable (code.Ordered rank held)
  | _, finish => inferInstanceAs (Decidable True)
  | held, mayLeave rest => decidableOrdered rank held rest
  | held, either left right =>
      have := decidableOrdered rank held left
      have := decidableOrdered rank held right
      inferInstanceAs (Decidable (_ ∧ _))
  | held, brief _ _ _ rest =>
      have := decidableOrdered rank held rest
      inferInstanceAs (Decidable (_ ∧ _))
  | held, guard taken _ rest =>
      have := decidableOrdered rank (taken :: held) rest
      inferInstanceAs (Decidable (_ ∧ _))

end

variable {L : Type} [DecidableEq L] {rank : L → Nat}

/-- Every way out of ordered code takes the locks in order and gives back
what it took. -/
theorem Ordered.walk_exits {code : Code L} {held : Holds L}
    (h : code.Ordered rank (held.map Prod.fst)) :
    ∀ trace ∈ code.exits, walk rank held trace = some held := by
  have hranks : ∀ {held : Holds L} {lock : L},
      (∀ other ∈ held.map Prod.fst, rank other < rank lock) →
      ∀ hold ∈ held, rank hold.1 < rank lock :=
    fun h hold hmem => h hold.1 (List.mem_map_of_mem hmem)
  induction code generalizing held with
  | finish =>
    intro trace htrace
    rw [List.mem_singleton.mp htrace]
    rfl
  | mayLeave rest ih =>
    intro trace htrace
    rcases List.mem_cons.mp htrace with rfl | htrace
    · rfl
    · exact ih h trace htrace
  | either left right ihleft ihright =>
    intro trace htrace
    rcases List.mem_append.mp htrace with htrace | htrace
    · exact ihleft h.1 trace htrace
    · exact ihright h.2 trace htrace
  | brief lock access fallible rest ih =>
    intro trace htrace
    have htaken : ∀ trace' : Trace L,
        walk rank held (.acquire lock access :: .release lock :: trace') =
          walk rank held trace' := by
      intro trace'
      rw [walk, if_pos (hranks h.1), walk, if_pos rfl]
    rcases List.mem_append.mp htrace with htrace | htrace
    · cases fallible with
      | false => cases htrace
      | true =>
        rw [List.mem_singleton.mp htrace, htaken]
        rfl
    · obtain ⟨trace', htrace', rfl⟩ := List.mem_map.mp htrace
      rw [htaken]
      exact ih h.2 trace' htrace'
  | guard lock access rest ih =>
    intro trace htrace
    obtain ⟨trace', htrace', rfl⟩ := List.mem_map.mp htrace
    have hordered : rest.Ordered rank (((lock, access) :: held).map Prod.fst) := h.2
    have hinner : walk rank ((lock, access) :: held) trace' = some ((lock, access) :: held) :=
      ih hordered trace' htrace'
    rw [walk, if_pos (hranks h.1), walk_append _ hinner, walk, if_pos rfl]
    rfl

end Code

/-! ## Tasks -/

/-- `rest` is what is left of the trace. A task that is `waiting` has asked
for the lock that comes next. -/
structure Task (L : Type) where
  rest : Trace L
  held : Holds L
  waiting : Bool
  deriving DecidableEq

/-- The rank of the lock that the task comes to next, if it takes one. -/
def Task.height {L : Type} (rank : L → Nat) (task : Task L) : Nat :=
  match task.rest with
  | .acquire lock _ :: _ => rank lock
  | _ => 0

/-- Tasks are numbered in the order of their arrival. -/
structure Config (L : Type) where
  tasks : List (Task L)
  queue : L → List Nat

/-- The arrival of a run of some function, or the next step of a task. -/
inductive Event (R : Type) where
  | arrive (run : R)
  | act (i : Nat)

namespace Config

section

variable {L : Type}

def new : Config L := ⟨[], fun _ => []⟩

/-- The task is first in the queue, and what others hold of the lock is
shared with it. -/
def Grants (config : Config L) (i : Nat) (lock : L) (access : Access) : Prop :=
  (config.queue lock).head? = some i ∧
    ∀ task ∈ config.tasks, ∀ hold ∈ task.held, hold.1 = lock →
      hold.2 = .shared ∧ access = .shared

variable [DecidableEq L]

instance (config : Config L) (i : Nat) (lock : L) (access : Access) :
    Decidable (config.Grants i lock access) := inferInstanceAs (Decidable (_ ∧ _))

def acquire (config : Config L) (i : Nat) (task : Task L) (lock : L) (access : Access)
    (rest : Trace L) : Config L :=
  if task.waiting then
    if config.Grants i lock access then
      { tasks := config.tasks.set i ⟨rest, (lock, access) :: task.held, false⟩
        queue := Function.update config.queue lock (config.queue lock).tail }
    else config
  else
    { tasks := config.tasks.set i { task with waiting := true }
      queue := Function.update config.queue lock (config.queue lock ++ [i]) }

def release (config : Config L) (i : Nat) (task : Task L) (lock : L) (rest : Trace L) :
    Config L :=
  { config with
    tasks := config.tasks.set i
      ⟨rest, task.held.eraseP fun hold => hold.1 = lock, task.waiting⟩ }

/-- A task that has to wait stays as it is. -/
def step {R : Type} (trace : R → Trace L) (config : Config L) : Event R → Unit × Config L
  | .arrive run => ((), { config with tasks := config.tasks ++ [⟨trace run, [], false⟩] })
  | .act i =>
      match config.tasks[i]? with
      | some task =>
          match task.rest with
          | [] => ((), config)
          | .acquire lock access :: rest => ((), config.acquire i task lock access rest)
          | .release lock :: rest => ((), config.release i task lock rest)
      | none => ((), config)

def after {R : Type} (trace : R → Trace L) (events : List (Event R)) : Config L :=
  final (step trace) new events

end

section

variable {L : Type} (config : Config L)

def Unfinished (i : Nat) : Prop := ∃ task, config.tasks[i]? = some task ∧ task.rest ≠ []

/-- The task has asked for the lock. -/
def Asks (i : Nat) (lock : L) (access : Access) : Prop :=
  ∃ task rest, config.tasks[i]? = some task ∧ task.waiting = true ∧
    task.rest = .acquire lock access :: rest

/-- The task has asked for a lock that it is not granted. -/
def Waits (i : Nat) : Prop :=
  ∃ lock access, config.Asks i lock access ∧ ¬config.Grants i lock access

/-- There are unfinished tasks, and all of them wait. -/
def Deadlocked : Prop :=
  (∃ i, config.Unfinished i) ∧ ∀ i, config.Unfinished i → config.Waits i

variable [DecidableEq L] (rank : L → Nat)

structure Sound : Prop where
  ordered : ∀ task ∈ config.tasks, walk rank task.held task.rest = some []
  asks : ∀ task ∈ config.tasks, task.waiting = true →
    ∃ lock access rest, task.rest = .acquire lock access :: rest
  queued : ∀ (lock : L) (i : Nat), i ∈ config.queue lock ↔ ∃ access, config.Asks i lock access
  nodup : ∀ lock, (config.queue lock).Nodup

end

variable {L R : Type} [DecidableEq L] {rank : L → Nat} {config : Config L} {i : Nat}
  {lock lock' : L} {access access' : Access}

/-! ### Progress -/

omit [DecidableEq L] in
theorem Asks.lock_eq (h : config.Asks i lock access) (h' : config.Asks i lock' access') :
    lock = lock' := by
  obtain ⟨task, rest, hfound, -, hrest⟩ := h
  obtain ⟨task', rest', hfound', -, hrest'⟩ := h'
  obtain rfl : task = task' := Option.some.inj (hfound.symm.trans hfound')
  rw [hrest] at hrest'
  injection hrest' with hstep
  injection hstep

omit [DecidableEq L] in
theorem Asks.unfinished (h : config.Asks i lock access) : config.Unfinished i := by
  obtain ⟨task, rest, hfound, -, hrest⟩ := h
  exact ⟨task, hfound, by rw [hrest]; exact List.cons_ne_nil _ _⟩

/-- Where all wait, a lock that is asked for is held by a task that asks for
a higher one. -/
theorem Sound.blocker (h : config.Sound rank)
    (hwaits : ∀ i, config.Unfinished i → config.Waits i) (hasks : config.Asks i lock access) :
    ∃ j lock' access', config.Asks j lock' access' ∧ rank lock < rank lock' := by
  -- the first in the queue waits for somebody who holds the lock
  have hmem : i ∈ config.queue lock := (h.queued lock i).mpr ⟨access, hasks⟩
  obtain ⟨first, others, hqueue⟩ := List.exists_cons_of_ne_nil (List.ne_nil_of_mem hmem)
  obtain ⟨_, hasksFirst⟩ := (h.queued lock first).mp (by rw [hqueue]; exact List.mem_cons_self)
  obtain ⟨lockFirst, _, hasksFirst', hgrants⟩ := hwaits first hasksFirst.unfinished
  obtain rfl := hasksFirst'.lock_eq hasksFirst
  have hholder : ∃ task ∈ config.tasks, ∃ hold ∈ task.held, hold.1 = lockFirst := by
    by_contra hnobody
    refine hgrants ⟨by rw [hqueue]; rfl, fun task htask hold hhold heq => ?_⟩
    exact absurd ⟨task, htask, hold, hhold, heq⟩ hnobody
  -- which is unfinished and waits too
  obtain ⟨task, htask, hold, hhold, rfl⟩ := hholder
  obtain ⟨j, hfound⟩ := List.mem_iff_getElem?.mp htask
  have hordered := h.ordered task htask
  have hunfinished : task.rest ≠ [] := by
    intro hrest
    rw [hrest] at hordered
    rw [Option.some.inj hordered] at hhold
    cases hhold
  obtain ⟨lock', access', hasks', -⟩ := hwaits j ⟨task, hfound, hunfinished⟩
  refine ⟨j, lock', access', hasks', ?_⟩
  obtain ⟨task', rest, hfound', -, hrest⟩ := hasks'
  obtain rfl : task = task' := Option.some.inj (hfound.symm.trans hfound')
  rw [hrest] at hordered
  exact (walk_acquire hordered).1 hold hhold

/-- Some unfinished task can go on. -/
theorem Sound.not_deadlocked (h : config.Sound rank) : ¬config.Deadlocked := by
  rintro ⟨⟨i, hunfinished⟩, hwaits⟩
  obtain ⟨lock, access, hasks, -⟩ := hwaits i hunfinished
  -- the locks that are asked for would have no highest one
  have hhigher : ∀ n, ∃ j lock access, config.Asks j lock access ∧ n ≤ rank lock := by
    intro n
    induction n with
    | zero => exact ⟨i, lock, access, hasks, Nat.zero_le _⟩
    | succ n ih =>
      obtain ⟨j, lock, access, hasks, hn⟩ := ih
      obtain ⟨j', lock', access', hasks', hlt⟩ := h.blocker hwaits hasks
      exact ⟨j', lock', access', hasks', by omega⟩
  obtain ⟨j, lock, access, ⟨task, rest, hfound, -, hrest⟩, hn⟩ :=
    hhigher ((config.tasks.map (Task.height rank)).sum + 1)
  have hheight : task.height rank = rank lock := by rw [Task.height, hrest]
  have hle : task.height rank ≤ (config.tasks.map (Task.height rank)).sum :=
    List.le_sum_of_mem (List.mem_map_of_mem (List.mem_of_getElem? hfound))
  omega

/-! ### Steps -/

theorem sound_new : (new : Config L).Sound rank where
  ordered task htask := by cases htask
  asks task htask := by cases htask
  queued lock i := by simp [new, Asks]
  nodup lock := List.nodup_nil

theorem Sound.arrive (h : config.Sound rank) {trace : Trace L}
    (htrace : walk rank [] trace = some []) :
    Sound { config with tasks := config.tasks ++ [⟨trace, [], false⟩] } rank := by
  have hmem : ∀ {p : Task L → Prop}, (∀ task ∈ config.tasks, p task) → p ⟨trace, [], false⟩ →
      ∀ task ∈ config.tasks ++ [⟨trace, [], false⟩], p task :=
    fun hold hnew => List.forall_mem_append.mpr ⟨hold, List.forall_mem_singleton.mpr hnew⟩
  refine ⟨hmem h.ordered htrace, hmem h.asks (fun hwaiting => by cases hwaiting),
    fun lock j => ?_, h.nodup⟩
  rw [show j ∈ config.queue lock ↔ _ from h.queued lock j]
  refine exists_congr fun access => exists_congr fun task => exists_congr fun rest => ?_
  rw [List.getElem?_append]
  split
  · exact Iff.rfl
  · next hge =>
    -- the new task is not waiting
    rw [List.getElem?_eq_none (by omega), List.getElem?_singleton]
    split
    · simp only [Option.some.injEq, reduceCtorEq, false_and, false_iff, not_and]
      rintro rfl hwaiting
      cases hwaiting
    · exact Iff.rfl

section Acts

variable {task : Task L} {rest : Trace L}

/-- A task may become another if the queues are told. -/
theorem Sound.set (h : config.Sound rank) (hfound : config.tasks[i]? = some task)
    (task' : Task L) (hordered : walk rank task'.held task'.rest = some [])
    (hasks : task'.waiting = true → ∃ lock access rest, task'.rest = .acquire lock access :: rest)
    {queue : L → List Nat} (hnodup : ∀ lock, (queue lock).Nodup)
    (hothers : ∀ lock j, j ≠ i → (j ∈ queue lock ↔ j ∈ config.queue lock))
    (hself : ∀ lock, i ∈ queue lock ↔
      task'.waiting = true ∧ ∃ access rest, task'.rest = .acquire lock access :: rest) :
    Sound ⟨config.tasks.set i task', queue⟩ rank := by
  have hlt := (List.getElem?_eq_some_iff.mp hfound).1
  have hmem : ∀ {p : Task L → Prop}, (∀ task ∈ config.tasks, p task) → p task' →
      ∀ task ∈ config.tasks.set i task', p task := by
    intro p hold hnew other hother
    rcases List.mem_or_eq_of_mem_set hother with hother | rfl
    · exact hold other hother
    · exact hnew
  refine ⟨hmem h.ordered hordered, hmem h.asks hasks, fun lock j => ?_, hnodup⟩
  by_cases hj : j = i
  · subst hj
    rw [show j ∈ queue lock ↔ _ from hself lock]
    constructor
    · rintro ⟨hwaiting, access, rest, hrest⟩
      exact ⟨access, task', rest, List.getElem?_set_self hlt, hwaiting, hrest⟩
    · rintro ⟨access, other, rest, hother, hwaiting, hrest⟩
      obtain rfl := Option.some.inj ((List.getElem?_set_self hlt).symm.trans hother)
      exact ⟨hwaiting, access, rest, hrest⟩
  · rw [show j ∈ queue lock ↔ _ from (hothers lock j hj).trans (h.queued lock j)]
    have hsame : (config.tasks.set i task')[j]? = config.tasks[j]? :=
      List.getElem?_set_ne (Ne.symm hj)
    simp only [Asks, hsame]

theorem Sound.queued_self (h : config.Sound rank) (hfound : config.tasks[i]? = some task)
    (lock : L) : i ∈ config.queue lock ↔
      task.waiting = true ∧ ∃ access rest, task.rest = .acquire lock access :: rest := by
  rw [h.queued lock i]
  constructor
  · rintro ⟨access, other, rest, hother, hwaiting, hrest⟩
    obtain rfl := Option.some.inj (hfound.symm.trans hother)
    exact ⟨hwaiting, access, rest, hrest⟩
  · rintro ⟨hwaiting, access, rest, hrest⟩
    exact ⟨access, task, rest, hfound, hwaiting, hrest⟩

theorem Sound.release (h : config.Sound rank) (hfound : config.tasks[i]? = some task)
    (hrest : task.rest = .release lock :: rest) : (config.release i task lock rest).Sound rank := by
  have hmem := List.mem_of_getElem? hfound
  have hordered := h.ordered task hmem
  rw [hrest] at hordered
  obtain ⟨access, older, hheld, hwalk⟩ := walk_release hordered
  have hnotWaiting : task.waiting ≠ true := by
    intro hwaiting
    obtain ⟨lock', access', rest', hrest'⟩ := h.asks task hmem hwaiting
    rw [hrest] at hrest'
    cases hrest'
  have hback : task.held.eraseP (fun hold => hold.1 = lock) = older := by simp [hheld]
  unfold Config.release
  rw [hback]
  refine h.set hfound ⟨rest, older, task.waiting⟩ hwalk (fun hw => absurd hw hnotWaiting) h.nodup
    (fun _ _ _ => Iff.rfl) fun lock' => ?_
  rw [h.queued_self hfound]
  simp [hnotWaiting]

/-- It leaves the queue of the lock, the only one that it was in. -/
theorem Sound.grant (h : config.Sound rank) (hfound : config.tasks[i]? = some task)
    (hrest : task.rest = .acquire lock access :: rest)
    (hfirst : (config.queue lock).head? = some i) :
    Sound ⟨config.tasks.set i ⟨rest, (lock, access) :: task.held, false⟩,
      Function.update config.queue lock (config.queue lock).tail⟩ rank := by
  have hordered := h.ordered task (List.mem_of_getElem? hfound)
  rw [hrest] at hordered
  obtain ⟨hranks, hwalk⟩ := walk_acquire hordered
  obtain ⟨others, hqueue⟩ : ∃ others, config.queue lock = i :: others :=
    List.head?_eq_some_iff.mp hfirst
  have hnodup := h.nodup lock
  rw [hqueue, List.nodup_cons] at hnodup
  rw [hqueue, List.tail_cons]
  refine h.set hfound ⟨rest, (lock, access) :: task.held, false⟩ hwalk (fun hw => by cases hw)
    ?_ ?_ ?_
  · exact (Function.forall_update_iff _ fun _ => List.Nodup).mpr
      ⟨hnodup.2, fun lock' _ => h.nodup lock'⟩
  · intro lock' j hj
    by_cases heq : lock' = lock
    · rw [heq, Function.update_self, hqueue, List.mem_cons, or_iff_right hj]
    · rw [Function.update_of_ne heq]
  · intro lock'
    by_cases heq : lock' = lock
    · rw [heq, Function.update_self]
      simp [hnodup.1]
    · rw [Function.update_of_ne heq, h.queued_self hfound, hrest]
      simp [Ne.symm heq]

/-- It comes last in the queue of the lock. -/
theorem Sound.ask (h : config.Sound rank) (hfound : config.tasks[i]? = some task)
    (hrest : task.rest = .acquire lock access :: rest) (hwaiting : ¬task.waiting = true) :
    Sound ⟨config.tasks.set i { task with waiting := true },
      Function.update config.queue lock (config.queue lock ++ [i])⟩ rank := by
  have hordered := h.ordered task (List.mem_of_getElem? hfound)
  have hnew : i ∉ config.queue lock := by
    rw [h.queued_self hfound]
    exact fun hi => hwaiting hi.1
  have hnodup : (config.queue lock ++ [i]).Nodup :=
    (h.nodup lock).append (List.nodup_singleton i) (List.disjoint_singleton.mpr hnew)
  refine h.set hfound { task with waiting := true } hordered
    (fun _ => ⟨lock, access, rest, hrest⟩) ?_ ?_ ?_
  · exact (Function.forall_update_iff _ fun _ => List.Nodup).mpr
      ⟨hnodup, fun lock' _ => h.nodup lock'⟩
  · intro lock' j hj
    by_cases heq : lock' = lock
    · rw [heq, Function.update_self, List.mem_append, List.mem_singleton, or_iff_left hj]
    · rw [Function.update_of_ne heq]
  · intro lock'
    by_cases heq : lock' = lock
    · rw [heq, Function.update_self, hrest]
      simp
    · rw [Function.update_of_ne heq, h.queued_self hfound, hrest]
      simp [Ne.symm heq]

theorem Sound.acquire (h : config.Sound rank) (hfound : config.tasks[i]? = some task)
    (hrest : task.rest = .acquire lock access :: rest) :
    (config.acquire i task lock access rest).Sound rank := by
  unfold Config.acquire
  split
  · split
    · next hgrants => exact h.grant hfound hrest hgrants.1
    · exact h
  · next hwaiting => exact h.ask hfound hrest hwaiting

end Acts

theorem Sound.step (h : config.Sound rank) {trace : R → Trace L}
    (htrace : ∀ run, walk rank [] (trace run) = some []) (event : Event R) :
    (step trace config event).2.Sound rank := by
  cases event with
  | arrive run => exact h.arrive (htrace run)
  | act i =>
    cases hfound : config.tasks[i]? with
    | none => simpa only [Config.step, hfound] using h
    | some task =>
      rcases hrest : task.rest with _ | ⟨⟨lock, access⟩ | lock, rest⟩
      · simpa only [Config.step, hfound, hrest] using h
      · simpa only [Config.step, hfound, hrest] using h.acquire hfound hrest
      · simpa only [Config.step, hfound, hrest] using h.release hfound hrest

/-- Whatever the order of events, the invariant holds. -/
theorem sound_after {trace : R → Trace L} (htrace : ∀ run, walk rank [] (trace run) = some [])
    (events : List (Event R)) : (after trace events).Sound rank :=
  final_invariant (step trace) (I := fun config => config.Sound rank)
    (fun _ event h => h.step htrace event) events new sound_new

end Config

end Banck.Lib.Locks
