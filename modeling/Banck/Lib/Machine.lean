/-
Banck.Lib.Machine — runs of a deterministic machine that answers each
input with an output, and the induction rules over such runs.

A machine is its step function `step : σ → ι → ο × σ`. `final` is the
state after a list of inputs and `outputs` the answers given on the way.
What one step preserves, a whole run preserves (`final_invariant`), and
`final_guarded` is the same for runs whose inputs all meet a condition in
the state they arrive in.
-/
import Mathlib

namespace Banck.Lib.Machine

variable {σ ι ο : Type} (step : σ → ι → ο × σ)

/-- The state after the inputs. -/
def final (s : σ) : List ι → σ
  | [] => s
  | i :: rest => final (step s i).2 rest

/-- The answers to the inputs, in order. -/
def outputs (s : σ) : List ι → List ο
  | [] => []
  | i :: rest => (step s i).1 :: outputs (step s i).2 rest

/-- Every input meets `G` in the state it arrives in. -/
def Guarded (G : σ → ι → Prop) (s : σ) : List ι → Prop
  | [] => True
  | i :: rest => G s i ∧ Guarded G (step s i).2 rest

instance decidableGuarded (G : σ → ι → Prop) [∀ s i, Decidable (G s i)] :
    ∀ (inputs : List ι) (s : σ), Decidable (Guarded step G s inputs)
  | [], _ => inferInstanceAs (Decidable True)
  | i :: rest, s =>
      have := decidableGuarded G rest (step s i).2
      inferInstanceAs (Decidable (_ ∧ _))

@[simp] theorem final_nil (s : σ) : final step s [] = s := rfl

@[simp] theorem final_cons (s : σ) (i : ι) (rest : List ι) :
    final step s (i :: rest) = final step (step s i).2 rest := rfl

@[simp] theorem outputs_nil (s : σ) : outputs step s [] = [] := rfl

@[simp] theorem outputs_cons (s : σ) (i : ι) (rest : List ι) :
    outputs step s (i :: rest) = (step s i).1 :: outputs step (step s i).2 rest := rfl

theorem final_append (xs ys : List ι) :
    ∀ s : σ, final step s (xs ++ ys) = final step (final step s xs) ys := by
  induction xs with
  | nil => intro s; rfl
  | cons i rest ih => intro s; exact ih (step s i).2

theorem outputs_append (xs ys : List ι) :
    ∀ s : σ, outputs step s (xs ++ ys)
      = outputs step s xs ++ outputs step (final step s xs) ys := by
  induction xs with
  | nil => intro s; rfl
  | cons i rest ih =>
    intro s
    simp only [List.cons_append, outputs_cons, final_cons, ih]

theorem guarded_append (G : σ → ι → Prop) (xs ys : List ι) :
    ∀ s : σ, Guarded step G s (xs ++ ys) ↔
      Guarded step G s xs ∧ Guarded step G (final step s xs) ys := by
  induction xs with
  | nil => intro s; simp [Guarded]
  | cons i rest ih =>
    intro s
    simp only [List.cons_append, Guarded, final_cons, ih, and_assoc]

theorem guarded_congr {G H : σ → ι → Prop} (h : ∀ s i, G s i ↔ H s i) :
    ∀ (inputs : List ι) (s : σ), Guarded step G s inputs ↔ Guarded step H s inputs := by
  intro inputs
  induction inputs with
  | nil => intro s; exact Iff.rfl
  | cons i rest ih => intro s; exact and_congr (h s i) (ih (step s i).2)

theorem guarded_and (G H : σ → ι → Prop) (inputs : List ι) :
    ∀ s : σ, Guarded step (fun s i => G s i ∧ H s i) s inputs ↔
      Guarded step G s inputs ∧ Guarded step H s inputs := by
  induction inputs with
  | nil => intro s; simp [Guarded]
  | cons i rest ih =>
    intro s
    simp only [Guarded, ih]
    exact and_and_and_comm

/-- Two conditions that agree where `K` holds agree on the runs that `K`
guards. -/
theorem guarded_congr_of {K G H : σ → ι → Prop} (h : ∀ s i, K s i → (G s i ↔ H s i)) :
    ∀ (inputs : List ι) (s : σ), Guarded step K s inputs →
      (Guarded step G s inputs ↔ Guarded step H s inputs) := by
  intro inputs
  induction inputs with
  | nil => intro s _; exact Iff.rfl
  | cons i rest ih => intro s hk; exact and_congr (h s i hk.1) (ih (step s i).2 hk.2)

/-- An invariant of the guarded steps holds after every guarded run. -/
theorem final_guarded {I : σ → Prop} {G : σ → ι → Prop}
    (h : ∀ s i, I s → G s i → I (step s i).2) :
    ∀ (inputs : List ι) (s : σ), I s → Guarded step G s inputs →
      I (final step s inputs) := by
  intro inputs
  induction inputs with
  | nil => intro s hs _; exact hs
  | cons i rest ih =>
    intro s hs hg
    exact ih (step s i).2 (h s i hs hg.1) hg.2

/-- An invariant of the step holds after every run. -/
theorem final_invariant {I : σ → Prop} (h : ∀ s i, I s → I (step s i).2)
    (inputs : List ι) : ∀ s : σ, I s → I (final step s inputs) := by
  induction inputs with
  | nil => intro s hs; exact hs
  | cons i rest ih => intro s hs; exact ih (step s i).2 (h s i hs)

/-- Where a step keeps `I` exactly if its input meets `G`, all states on the
way meet `I` exactly if the first one does and the run is guarded. -/
theorem prefixes_iff {I : σ → Prop} {G : σ → ι → Prop}
    (h : ∀ s i, I s → (I (step s i).2 ↔ G s i)) (inputs : List ι) :
    ∀ s : σ, (∀ earlier, earlier <+: inputs → I (final step s earlier)) ↔
      I s ∧ Guarded step G s inputs := by
  induction inputs with
  | nil => intro s; simp [Guarded]
  | cons i rest ih =>
    intro s
    constructor
    · intro hall
      have hs : I s := hall [] (List.nil_prefix)
      have hrest := (ih (step s i).2).mp fun earlier hp =>
        hall (i :: earlier) (List.cons_prefix_cons.mpr ⟨rfl, hp⟩)
      exact ⟨hs, (h s i hs).mp hrest.1, hrest.2⟩
    · rintro ⟨hs, hi, hguarded⟩ earlier hp
      cases earlier with
      | nil => exact hs
      | cons j more =>
        obtain ⟨rfl, hmore⟩ := List.cons_prefix_cons.mp hp
        exact (ih _).mpr ⟨(h s _ hs).mpr hi, hguarded⟩ more hmore

/-- An invariant that speaks of the inputs so far. -/
theorem final_history {I : List ι → σ → Prop}
    (h : ∀ past s i, I past s → I (past ++ [i]) (step s i).2) (inputs : List ι) (s : σ)
    (hs : I [] s) : I inputs (final step s inputs) := by
  induction inputs using List.reverseRecOn with
  | nil => exact hs
  | append_singleton past i ih =>
    rw [final_append]
    exact h past _ i ih

/-- How many inputs meet `P` in the state they arrive in. -/
def tally (P : σ → ι → Prop) [∀ s i, Decidable (P s i)] (s : σ) : List ι → Nat
  | [] => 0
  | i :: rest => (if P s i then 1 else 0) + tally P (step s i).2 rest

/-- Where no guarded step from an invariant state lowers a measure, and
those that meet `P` raise it, it rises by at least the number of the
latter. -/
theorem tally_le {I : σ → Prop} {G P : σ → ι → Prop} [∀ s i, Decidable (P s i)] {μ : σ → Nat}
    (h : ∀ s i, I s → G s i → I (step s i).2)
    (hμ : ∀ s i, I s → G s i → μ s + (if P s i then 1 else 0) ≤ μ (step s i).2) :
    ∀ (inputs : List ι) (s : σ), I s → Guarded step G s inputs →
      μ s + tally step P s inputs ≤ μ (final step s inputs) := by
  intro inputs
  induction inputs with
  | nil => intro s _ _; exact le_rfl
  | cons i rest ih =>
    intro s hs hg
    have hstep := hμ s i hs hg.1
    have hrest := ih (step s i).2 (h s i hs hg.1) hg.2
    simp only [tally, final_cons]
    omega

/-! ## Labelled relations -/

/-- Taking the labelled steps in order leads from the first state to the
last. -/
inductive Path (R : σ → ι → σ → Prop) : σ → List ι → σ → Prop
  | nil (s : σ) : Path R s [] s
  | cons {s t u : σ} {i : ι} {rest : List ι} (head : R s i t) (tail : Path R t rest u) :
      Path R s (i :: rest) u

namespace Path

variable {R : σ → ι → σ → Prop} {s t u : σ} {xs ys : List ι}

theorem single {i : ι} (h : R s i t) : Path R s [i] t := .cons h (.nil t)

theorem append (hx : Path R s xs t) (hy : Path R t ys u) : Path R s (xs ++ ys) u := by
  induction hx with
  | nil => exact hy
  | cons head _ ih => exact .cons head (ih hy)

/-- What every step preserves, every path preserves. -/
theorem invariant {I : σ → Prop} (h : ∀ s i t, R s i t → I s → I t)
    (hp : Path R s xs t) (hs : I s) : I t := by
  induction hp with
  | nil => exact hs
  | cons head _ ih => exact ih (h _ _ _ head hs)

/-- A fact about every label of a path is known at each of its steps. -/
theorem guard {G : ι → Prop} (hp : Path R s xs t) :
    (∀ i ∈ xs, G i) → Path (fun s i t => R s i t ∧ G i) s xs t := by
  induction hp with
  | nil => exact fun _ => .nil _
  | cons head _ ih =>
    intro hg
    exact .cons ⟨head, hg _ (by simp)⟩ (ih fun i hi => hg i (by simp [hi]))

/-- Where every step from an invariant state moves a measure by the weight
of its label, a path moves it by the sum of the weights. -/
theorem measure {M : Type} [AddCommMonoid M] {I : σ → Prop} {μ : σ → M} {w : ι → M}
    (h : ∀ s i t, R s i t → I s → I t) (hμ : ∀ s i t, R s i t → I s → μ t = μ s + w i)
    (hp : Path R s xs t) (hs : I s) : μ t = μ s + (xs.map w).sum := by
  induction hp with
  | nil => simp
  | cons head _ ih =>
    rw [ih (h _ _ _ head hs), hμ _ _ _ head hs, List.map_cons, List.sum_cons, add_assoc]

end Path

end Banck.Lib.Machine
