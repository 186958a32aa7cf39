/-
Banck.Lib.Refinement — comparing the runs of two machines.

`final_emits` is the rule for a machine that answers some of its inputs
with an input of another: if each step commutes with the abstraction, the
abstraction of a run is the run of what was emitted. `final_related` is the
rule for two machines with the same inputs, and `imitates` for two with
inputs of their own: if every step of one has a run of the other, its inputs
all guarded, that keeps the states related and is noted as the same, every
run has.
-/
import Banck.Lib.Machine

namespace Banck.Lib.Machine

variable {σ τ ι κ ο ο' : Type}

/-! ## Emitted inputs -/

section Emits

variable {step : σ → ι → ο × σ} {spec : τ → κ → ο' × τ} {I : σ → Prop} {f : σ → τ}
  {emit : ο → Option κ}

theorem filterMap_outputs_cons (s : σ) (i : ι) (rest : List ι) :
    (outputs step s (i :: rest)).filterMap emit =
      (emit (step s i).1).toList ++ (outputs step (step s i).2 rest).filterMap emit := by
  rw [outputs_cons, List.filterMap_cons]
  cases emit (step s i).1 <;> rfl

/-- Each step is the run of what it emits, so every run is. -/
theorem final_emits (hI : ∀ s i, I s → I (step s i).2)
    (hstep : ∀ s i, I s → f (step s i).2 = final spec (f s) (emit (step s i).1).toList)
    (inputs : List ι) :
    ∀ s, I s → f (final step s inputs) =
      final spec (f s) ((outputs step s inputs).filterMap emit) := by
  induction inputs with
  | nil => intro s _; rfl
  | cons i rest ih =>
    intro s hs
    rw [filterMap_outputs_cons, final_append, ← hstep s i hs, final_cons]
    exact ih _ (hI s i hs)

/-- What each emitted input meets in the state it is emitted in, it meets in
the run of what was emitted. -/
theorem guarded_emits {G : τ → κ → Prop} (hI : ∀ s i, I s → I (step s i).2)
    (hstep : ∀ s i, I s → f (step s i).2 = final spec (f s) (emit (step s i).1).toList)
    (hG : ∀ s i, I s → ∀ k ∈ emit (step s i).1, G (f s) k) (inputs : List ι) :
    ∀ s, I s → Guarded spec G (f s) ((outputs step s inputs).filterMap emit) := by
  induction inputs with
  | nil => intro s _; trivial
  | cons i rest ih =>
    intro s hs
    rw [filterMap_outputs_cons, guarded_append, ← hstep s i hs]
    refine ⟨?_, ih _ (hI s i hs)⟩
    cases hemit : emit (step s i).1 with
    | none => trivial
    | some k => exact ⟨hG s i hs k hemit, trivial⟩

end Emits

/-! ## The same inputs -/

section Noted

variable {ν : Type} {note : σ → ι → List ν}

/-- What the inputs of a run are noted as, in the states they arrive in. -/
def noted (step : σ → ι → ο × σ) (note : σ → ι → List ν) (s : σ) : List ι → List ν
  | [] => []
  | i :: rest => note s i ++ noted step note (step s i).2 rest

theorem noted_append (xs ys : List ι) :
    ∀ s : σ, noted step note s (xs ++ ys) =
      noted step note s xs ++ noted step note (final step s xs) ys := by
  induction xs with
  | nil => intro s; rfl
  | cons i rest ih =>
    intro s
    simp only [List.cons_append, noted, final_cons, ih, List.append_assoc]

/-- Inputs that are noted as what they emit are noted as the run of what was
emitted. -/
theorem noted_emits {step : σ → ι → ο × σ} {spec : τ → κ → ο' × τ} {I : σ → Prop} {f : σ → τ}
    {emit : ο → Option κ} {note : τ → κ → List ν} (hI : ∀ s i, I s → I (step s i).2)
    (hstep : ∀ s i, I s → f (step s i).2 = final spec (f s) (emit (step s i).1).toList)
    (inputs : List ι) :
    ∀ s, I s → noted step (fun s i => noted spec note (f s) (emit (step s i).1).toList) s inputs =
      noted spec note (f s) ((outputs step s inputs).filterMap emit) := by
  induction inputs with
  | nil => intro s _; rfl
  | cons i rest ih =>
    intro s hs
    rw [filterMap_outputs_cons, noted_append, ← hstep s i hs, ← ih _ (hI s i hs), noted]

end Noted

/-! ## Inputs of their own -/

section Imitates

variable {step : σ → ι → ο × σ} {step' : τ → κ → ο' × τ} {R : σ → τ → Prop}
  {G : τ → κ → Prop} {ν : Type} {note : σ → ι → List ν} {note' : τ → κ → List ν}

/-- Each step has a guarded run that is noted as the same, so every run has. -/
theorem imitates (inputs : List ι)
    (h : ∀ i ∈ inputs, ∀ s t, R s t → ∃ answers, Guarded step' G t answers ∧
      R (step s i).2 (final step' t answers) ∧ noted step' note' t answers = note s i) :
    ∀ s t, R s t → ∃ answers, Guarded step' G t answers ∧
      R (final step s inputs) (final step' t answers) ∧
      noted step' note' t answers = noted step note s inputs := by
  induction inputs with
  | nil => intro s t hst; exact ⟨[], trivial, hst, rfl⟩
  | cons i rest ih =>
    intro s t hst
    obtain ⟨first, hguarded, hfirst, hnoted⟩ := h i List.mem_cons_self s t hst
    obtain ⟨others, hguardeds, hothers, hnoteds⟩ :=
      ih (fun j hmem => h j (List.mem_cons_of_mem i hmem)) _ _ hfirst
    refine ⟨first ++ others, (guarded_append _ _ _ _ _).mpr ⟨hguarded, hguardeds⟩, ?_, ?_⟩
    · rw [final_append]
      exact hothers
    · rw [noted_append, hnoted, hnoteds, noted]

end Imitates

end Banck.Lib.Machine
