/-
Banck.Lib.Mut — fallible computations over a mutable state, with a rule
of pre- and postconditions for each way of building one.

`Mut σ ε α` reads and writes a state `σ` and ends in a value of `α` or
in an error of `ε`. A write is not undone by a later error: the pair
`(Except ε α, σ)` carries the state reached on BOTH exits. This is what
a method that takes its receiver by mutable reference and leaves early
through `?` does, and it is what separates `Mut` from `Except` over a
state monad in the other order.

Two ways of reasoning are offered. `bind_ok_iff` and `bind_error_iff`
invert a whole `do` block to the chain of facts its run went through.
`Triple P m Q E` is the Hoare rule set: from `P`, a run of `m` ends in
`Q` when it returns and in `E` when it fails.
-/
import Mathlib

namespace Banck.Lib

/-- A computation that may change `σ` and ends in `α` or in an error. -/
def Mut (σ ε α : Type) : Type := σ → Except ε α × σ

namespace Mut

variable {σ τ ε δ α β : Type}

/-! ## Building blocks -/

/-- Return a value, changing nothing. -/
def ret (a : α) : Mut σ ε α := fun s => (.ok a, s)

/-- Run `m`, then `f` on its value; an error of `m` skips `f` and keeps
what `m` wrote. -/
def andThen (m : Mut σ ε α) (f : α → Mut σ ε β) : Mut σ ε β := fun s =>
  match m s with
  | (.ok a, s') => f a s'
  | (.error e, s') => (.error e, s')

instance : Monad (Mut σ ε) where
  pure := ret
  bind := andThen

/-- Leave with an error. -/
def fail (e : ε) : Mut σ ε α := fun s => (.error e, s)

/-- Read the state. -/
def get : Mut σ ε σ := fun s => (.ok s, s)

/-- Write the state. -/
def modify (f : σ → σ) : Mut σ ε Unit := fun s => (.ok (), f s)

/-- The value of a pure fallible computation. -/
def lift (r : Except ε α) : Mut σ ε α := fun s => (r, s)

/-- The value of an optional, or the given error. -/
def okOr (o : Option α) (e : ε) : Mut σ ε α := fun s =>
  match o with
  | some a => (.ok a, s)
  | none => (.error e, s)

/-- Go on only if `p` holds. -/
def ensure (p : Prop) [Decidable p] (e : ε) : Mut σ ε Unit := fun s =>
  if p then (.ok (), s) else (.error e, s)

/-- Change the value a computation returns. -/
def map (f : α → β) (m : Mut σ ε α) : Mut σ ε β := andThen m fun a => ret (f a)

/-- Run a computation over a part of the state, translating its error. -/
def zoom (view : σ → τ) (put : τ → σ → σ) (err : δ → ε) (m : Mut τ δ α) :
    Mut σ ε α := fun s =>
  match m (view s) with
  | (.ok a, t) => (.ok a, put t s)
  | (.error e, t) => (.error (err e), put t s)

/-- Translate the errors of a computation. -/
def mapError (f : δ → ε) (m : Mut σ δ α) : Mut σ ε α := zoom (fun s => s) (fun s _ => s) f m

/-- Run a computation that writes nothing if it fails. -/
def atomically (m : Mut σ ε α) : Mut σ ε α := fun s =>
  match m s with
  | (.ok a, s') => (.ok a, s')
  | (.error e, _) => (.error e, s)

/-- Run a computation if `p` holds. -/
def runIf (p : Prop) [Decidable p] (m : Mut σ ε Unit) : Mut σ ε Unit :=
  if p then m else ret ()

/-- Run `f` on every element in order, stopping at the first error. -/
def forEach (f : α → Mut σ ε Unit) : List α → Mut σ ε Unit
  | [] => ret ()
  | a :: rest => andThen (f a) fun _ => forEach f rest

/-- Run the steps of a list in order, stopping at the first error. -/
def inOrder (steps : List (Mut σ ε Unit)) : Mut σ ε Unit := forEach (fun step => step) steps

/-! ## Running a building block -/

@[simp] theorem pure_run (a : α) (s : σ) :
    (pure a : Mut σ ε α) s = (.ok a, s) := rfl

@[simp] theorem fail_run (e : ε) (s : σ) :
    (fail e : Mut σ ε α) s = (.error e, s) := rfl

@[simp] theorem get_run (s : σ) : (get : Mut σ ε σ) s = (.ok s, s) := rfl

@[simp] theorem modify_run (f : σ → σ) (s : σ) :
    (modify f : Mut σ ε Unit) s = (.ok (), f s) := rfl

@[simp] theorem lift_run (r : Except ε α) (s : σ) :
    (lift r : Mut σ ε α) s = (r, s) := rfl

@[simp] theorem okOr_some_run (a : α) (e : ε) (s : σ) :
    (okOr (some a) e : Mut σ ε α) s = (.ok a, s) := rfl

@[simp] theorem okOr_none_run (e : ε) (s : σ) :
    (okOr none e : Mut σ ε α) s = (.error e, s) := rfl

theorem ensure_run {p : Prop} [Decidable p] (h : p) (e : ε) (s : σ) :
    (ensure p e : Mut σ ε Unit) s = (.ok (), s) := if_pos h

theorem bind_run (m : Mut σ ε α) (f : α → Mut σ ε β) (s : σ) :
    (m >>= f) s = match m s with
      | (.ok a, s') => f a s'
      | (.error e, s') => (.error e, s') := rfl

/-- A computation over a part of the state changes that part only. -/
theorem zoom_run (view : σ → τ) (put : τ → σ → σ) (err : δ → ε) (m : Mut τ δ α) (s : σ) :
    zoom view put err m s = ((m (view s)).1.mapError err, put (m (view s)).2 s) := by
  unfold zoom
  rcases m (view s) with ⟨_ | a, t⟩ <;> rfl

theorem mapError_run (f : δ → ε) (m : Mut σ δ α) (s : σ) :
    mapError f m s = ((m s).1.mapError f, (m s).2) := zoom_run _ _ _ _ _

theorem atomically_run (m : Mut σ ε α) (s : σ) :
    atomically m s = match m s with
      | (.ok a, s') => (.ok a, s')
      | (.error e, _) => (.error e, s) := rfl

/-- The rest of a sequence runs where its first half returned. -/
theorem bind_run_ok {m : Mut σ ε α} {s s' : σ} {a : α} (h : m s = (.ok a, s'))
    (f : α → Mut σ ε β) : (m >>= f) s = f a s' := by rw [bind_run, h]

theorem mapError_run_ok {m : Mut σ δ α} {s s' : σ} {a : α} (h : m s = (.ok a, s'))
    (f : δ → ε) : mapError f m s = (.ok a, s') := by rw [mapError_run, h]; rfl

theorem runIf_pos {p : Prop} [Decidable p] (h : p) (m : Mut σ ε Unit) : runIf p m = m :=
  if_pos h

theorem runIf_neg {p : Prop} [Decidable p] (h : ¬p) (m : Mut σ ε Unit) (s : σ) :
    runIf p m s = (.ok (), s) := by rw [runIf, if_neg h]; rfl

/-- A loop, from what is there after each part of its list. -/
theorem forEach_run {f : α → Mut σ ε Unit} (after : List α → σ) {l : List α}
    (h : ∀ before a rest, l = before ++ a :: rest →
      f a (after before) = (.ok (), after (before ++ [a]))) :
    forEach f l (after []) = (.ok (), after l) := by
  have hrest : ∀ (rest before : List α), l = before ++ rest →
      forEach f rest (after before) = (.ok (), after l) := by
    intro rest
    induction rest with
    | nil =>
      intro before hlist
      rw [hlist, List.append_nil]
      rfl
    | cons a rest ih =>
      intro before hlist
      have hnext := ih (before ++ [a]) (by rw [hlist, List.append_assoc]; rfl)
      show andThen (f a) _ _ = _
      rw [andThen, h before a rest hlist]
      exact hnext
  exact hrest l [] rfl

/-- A last step that does nothing may be left out. -/
theorem andThen_ret (m : Mut σ ε Unit) : (andThen m fun _ => ret ()) = m := by
  funext s
  unfold andThen ret
  rcases m s with ⟨_ | _, _⟩ <;> rfl

theorem andThen_assoc (m : Mut σ ε α) (f : α → Mut σ ε β) {γ : Type} (g : β → Mut σ ε γ) :
    andThen (andThen m f) g = andThen m fun a => andThen (f a) g := by
  funext s
  unfold andThen
  rcases m s with ⟨_ | a, t⟩ <;> rfl

theorem forEach_map (f : β → Mut σ ε Unit) (g : α → β) (l : List α) :
    forEach f (l.map g) = forEach (fun a => f (g a)) l := by
  induction l with
  | nil => rfl
  | cons a rest ih => rw [List.map_cons, forEach, forEach, ih]

theorem inOrder_map (f : α → Mut σ ε Unit) (l : List α) : inOrder (l.map f) = forEach f l :=
  forEach_map _ f l

/-- A loop over two lists is a loop over the one, then over the other. -/
theorem forEach_append (f : α → Mut σ ε Unit) (l l' : List α) :
    forEach f (l ++ l') = andThen (forEach f l) fun _ => forEach f l' := by
  induction l with
  | nil => rfl
  | cons a rest ih => rw [List.cons_append, forEach, forEach, ih, andThen_assoc]

/-- The rest of the steps runs where the first ones returned. -/
theorem inOrder_append_run {steps : List (Mut σ ε Unit)} {s s' : σ}
    (h : inOrder steps s = (.ok (), s')) (rest : List (Mut σ ε Unit)) :
    inOrder (steps ++ rest) s = inOrder rest s' := by
  rw [inOrder, forEach_append]
  exact bind_run_ok h _

/-! ## Inverting a run -/

/-- A sequence returns exactly when both halves do. -/
theorem bind_ok_iff {m : Mut σ ε α} {f : α → Mut σ ε β} {s s' : σ} {b : β} :
    (m >>= f) s = (.ok b, s') ↔
      ∃ a t, m s = (.ok a, t) ∧ f a t = (.ok b, s') := by
  rw [bind_run]
  rcases h : m s with ⟨_ | a, t⟩ <;> simp

/-- A sequence fails in its first half, or in its second half after the
first returned. -/
theorem bind_error_iff {m : Mut σ ε α} {f : α → Mut σ ε β} {s s' : σ} {e : ε} :
    (m >>= f) s = (.error e, s') ↔
      m s = (.error e, s') ∨
        ∃ a t, m s = (.ok a, t) ∧ f a t = (.error e, s') := by
  rw [bind_run]
  rcases h : m s with ⟨_ | a, t⟩ <;> simp

/-- A mapped computation writes what the computation writes. -/
theorem map_run (f : α → β) (m : Mut σ ε α) (s : σ) :
    map f m s = ((m s).1.map f, (m s).2) := by
  unfold map andThen ret
  rcases m s with ⟨_ | a, t⟩ <;> rfl

theorem map_ok_iff {f : α → β} {m : Mut σ ε α} {s s' : σ} {b : β} :
    map f m s = (.ok b, s') ↔ ∃ a, m s = (.ok a, s') ∧ b = f a := by
  unfold map andThen ret
  rcases m s with ⟨_ | a, t⟩
  · simp
  · simp only [Prod.mk.injEq, Except.ok.injEq]
    constructor
    · rintro ⟨rfl, rfl⟩; exact ⟨a, ⟨rfl, rfl⟩, rfl⟩
    · rintro ⟨_, ⟨rfl, rfl⟩, rfl⟩; exact ⟨rfl, rfl⟩

/-- A computation that returns still does when its value is mapped. -/
theorem returns_map {f : α → β} {m : Mut σ ε α} {s s' : σ} {a : α} (h : m s = (.ok a, s')) :
    ∃ b s'', map f m s = (.ok b, s'') := ⟨f a, s', map_ok_iff.mpr ⟨a, h, rfl⟩⟩

theorem map_error_iff {f : α → β} {m : Mut σ ε α} {s s' : σ} {e : ε} :
    map f m s = (.error e, s') ↔ m s = (.error e, s') := by
  unfold map andThen ret
  rcases m s with ⟨_ | a, t⟩ <;> simp

/-- A loop that returns went through each of its steps. -/
theorem forEach_ok_mem {f : α → Mut σ ε Unit} {l : List α} {s s' : σ} {u : Unit}
    (h : forEach f l s = (.ok u, s')) {a : α} (ha : a ∈ l) :
    ∃ before after, f a before = (.ok (), after) := by
  induction l generalizing s with
  | nil => cases ha
  | cons b rest ih =>
    obtain ⟨_, t, hb, hrest⟩ := bind_ok_iff.mp h
    rcases List.mem_cons.mp ha with rfl | ha
    · exact ⟨s, t, hb⟩
    · exact ih hrest ha

theorem okOr_ok_iff {o : Option α} {e : ε} {s s' : σ} {a : α} :
    okOr o e s = (.ok a, s') ↔ o = some a ∧ s' = s := by
  cases o <;> simp [eq_comm]

theorem okOr_error_iff {o : Option α} {e e' : ε} {s s' : σ} :
    (okOr o e : Mut σ ε α) s = (.error e', s') ↔ o = none ∧ e' = e ∧ s' = s := by
  cases o <;> simp [eq_comm]

theorem ensure_ok_iff {p : Prop} [Decidable p] {e : ε} {s s' : σ} {u : Unit} :
    ensure p e s = (.ok u, s') ↔ p ∧ s' = s := by
  by_cases h : p <;> simp [ensure, h, eq_comm]

theorem ensure_error_iff {p : Prop} [Decidable p] {e e' : ε} {s s' : σ} :
    (ensure p e : Mut σ ε Unit) s = (.error e', s') ↔ ¬p ∧ e' = e ∧ s' = s := by
  by_cases h : p <;> simp [ensure, h, eq_comm]

theorem lift_ok_iff {r : Except ε α} {s s' : σ} {a : α} :
    lift r s = (.ok a, s') ↔ r = .ok a ∧ s' = s := by
  simp [eq_comm]

theorem modify_ok_iff {f : σ → σ} {s s' : σ} {u : Unit} :
    (modify f : Mut σ ε Unit) s = (.ok u, s') ↔ s' = f s := by
  simp [eq_comm]

theorem get_ok_iff {s s' t : σ} :
    (get : Mut σ ε σ) s = (.ok t, s') ↔ t = s ∧ s' = s := by
  simp [eq_comm]

theorem pure_ok_iff {a b : α} {s s' : σ} :
    (pure a : Mut σ ε α) s = (.ok b, s') ↔ b = a ∧ s' = s := by
  simp [eq_comm]

theorem zoom_ok_iff {view : σ → τ} {put : τ → σ → σ} {err : δ → ε}
    {m : Mut τ δ α} {s s' : σ} {a : α} :
    zoom view put err m s = (.ok a, s') ↔
      ∃ t, m (view s) = (.ok a, t) ∧ s' = put t s := by
  unfold zoom
  rcases h : m (view s) with ⟨_ | b, t⟩
  · simp
  · simp only [Prod.mk.injEq, Except.ok.injEq]
    constructor
    · rintro ⟨rfl, rfl⟩; exact ⟨t, ⟨rfl, rfl⟩, rfl⟩
    · rintro ⟨t', ⟨rfl, rfl⟩, rfl⟩; exact ⟨rfl, rfl⟩

/-! ## Pre- and postconditions -/

/-- From a state meeting `P`, `m` returns into `Q` or fails into `E`. -/
def Triple (P : σ → Prop) (m : Mut σ ε α) (Q : α → σ → Prop)
    (E : ε → σ → Prop) : Prop :=
  ∀ s, P s →
    (∀ a s', m s = (.ok a, s') → Q a s') ∧
    (∀ e s', m s = (.error e, s') → E e s')

/-- `m` keeps `I` on both exits. -/
abbrev Keeps (I : σ → Prop) (m : Mut σ ε α) : Prop :=
  Triple I m (fun _ => I) (fun _ => I)

variable {P : σ → Prop} {Q : α → σ → Prop} {R : β → σ → Prop}
  {E : ε → σ → Prop} {I : σ → Prop}

theorem Triple.bind {m : Mut σ ε α} {f : α → Mut σ ε β}
    (hm : Triple P m Q E) (hf : ∀ a, Triple (Q a) (f a) R E) :
    Triple P (m >>= f) R E := by
  intro s hs
  obtain ⟨hok, herr⟩ := hm s hs
  constructor
  · intro b s' h
    obtain ⟨a, t, ha, hb⟩ := bind_ok_iff.mp h
    exact (hf a t (hok a t ha)).1 b s' hb
  · intro e s' h
    rcases bind_error_iff.mp h with h | ⟨a, t, ha, hb⟩
    · exact herr e s' h
    · exact (hf a t (hok a t ha)).2 e s' hb

/-- Strengthen the precondition, weaken the postconditions. -/
theorem Triple.weaken {m : Mut σ ε α} {P' : σ → Prop} {Q' : α → σ → Prop}
    {E' : ε → σ → Prop} (hm : Triple P m Q E) (hP : ∀ s, P' s → P s)
    (hQ : ∀ a s, Q a s → Q' a s) (hE : ∀ e s, E e s → E' e s) :
    Triple P' m Q' E' := fun s hs =>
  ⟨fun a s' h => hQ a s' ((hm s (hP s hs)).1 a s' h),
   fun e s' h => hE e s' ((hm s (hP s hs)).2 e s' h)⟩

/-- A postcondition that does not look at the result. -/
theorem triple_of_final {m : Mut σ ε α} {F : σ → Prop} (h : ∀ s, P s → F (m s).2) :
    Triple P m (fun _ => F) (fun _ => F) := by
  intro s hs
  have hfinal := h s hs
  constructor
  · intro a s' ha
    rwa [ha] at hfinal
  · intro e s' he
    rwa [he] at hfinal

theorem Triple.final {m : Mut σ ε α} {F : σ → Prop}
    (h : Triple P m (fun _ => F) (fun _ => F)) {s : σ} (hs : P s) : F (m s).2 := by
  rcases hm : m s with ⟨_ | _, s'⟩
  · exact (h s hs).2 _ _ hm
  · exact (h s hs).1 _ _ hm

theorem Triple.pure (a : α) (h : ∀ s, P s → Q a s) :
    Triple P (Pure.pure a : Mut σ ε α) Q E := by
  intro s hs
  refine ⟨fun b s' hb => ?_, fun e s' he => by simp at he⟩
  obtain ⟨rfl, rfl⟩ := pure_ok_iff.mp hb
  exact h s' hs

theorem Triple.modify {f : σ → σ} {Q : Unit → σ → Prop}
    (h : ∀ s, P s → Q () (f s)) : Triple P (modify f : Mut σ ε Unit) Q E := by
  intro s hs
  refine ⟨fun b s' hb => ?_, fun e s' he => by simp at he⟩
  rw [modify_ok_iff.mp hb]
  exact h s hs

/-- What is read is the state. -/
theorem triple_get (s₀ : σ) :
    Triple (fun s => s = s₀) (get : Mut σ ε σ) (fun a s => s = s₀ ∧ a = s₀) E := by
  intro s hs
  refine ⟨fun a s' h => ?_, fun e s' he => by simp at he⟩
  obtain ⟨rfl, rfl⟩ := get_ok_iff.mp h
  exact ⟨hs, hs⟩

/-- A fact about no state in the precondition is a hypothesis. -/
theorem Triple.assume {m : Mut σ ε α} {c : Prop} (h : c → Triple P m Q E) :
    Triple (fun s => P s ∧ c) m Q E := fun s hs => h hs.2 s hs.1

/-- A check that passed is known afterwards. -/
theorem triple_lift (r : Except ε α) (h : ∀ e s, r = .error e → P s → E e s) :
    Triple P (lift r) (fun a s => P s ∧ r = .ok a) E := by
  intro s hs
  constructor
  · intro a s' ha
    obtain ⟨hr, rfl⟩ := lift_ok_iff.mp ha
    exact ⟨hs, hr⟩
  · intro e s' he
    obtain ⟨hr, rfl⟩ : r = .error e ∧ s' = s := by simpa [eq_comm] using he
    exact h e s' hr hs

theorem triple_ensure (p : Prop) [Decidable p] (e : ε) (h : ∀ s, P s → E e s) :
    Triple P (ensure p e) (fun _ s => P s ∧ p) E := by
  intro s hs
  constructor
  · intro _ s' ha
    obtain ⟨hp, rfl⟩ := ensure_ok_iff.mp ha
    exact ⟨hs, hp⟩
  · intro e' s' he
    obtain ⟨-, rfl, rfl⟩ := ensure_error_iff.mp he
    exact h _ hs

/-- A lookup that cannot miss cannot fail. -/
theorem triple_okOr_some (o : Option α) (e : ε) (h : o ≠ none) :
    Triple P (okOr o e) (fun a s => P s ∧ o = some a) E := by
  intro s hs
  refine ⟨fun a s' ha => ?_, fun e' s' he => absurd (okOr_error_iff.mp he).1 h⟩
  obtain ⟨ho, rfl⟩ := okOr_ok_iff.mp ha
  exact ⟨hs, ho⟩

/-- A computation that never changes the state keeps every assertion. -/
theorem keeps_of_readOnly {m : Mut σ ε α} (h : ∀ s, (m s).2 = s) : Keeps I m := by
  intro s hs
  have hsame := h s
  constructor
  · intro a s' ha
    rw [ha] at hsame
    subst hsame; exact hs
  · intro e s' he
    rw [he] at hsame
    subst hsame; exact hs

theorem keeps_get : Keeps I (get : Mut σ ε σ) := keeps_of_readOnly fun _ => rfl

theorem keeps_fail (e : ε) : Keeps I (fail e : Mut σ ε α) :=
  keeps_of_readOnly fun _ => rfl

theorem keeps_lift (r : Except ε α) : Keeps I (lift r : Mut σ ε α) :=
  keeps_of_readOnly fun _ => rfl

theorem keeps_okOr (o : Option α) (e : ε) : Keeps I (okOr o e : Mut σ ε α) :=
  keeps_of_readOnly fun _ => by cases o <;> rfl

theorem keeps_ensure (p : Prop) [Decidable p] (e : ε) :
    Keeps I (ensure p e : Mut σ ε Unit) :=
  keeps_of_readOnly fun s => by by_cases h : p <;> simp [ensure, h]

end Mut

end Banck.Lib
