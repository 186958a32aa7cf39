/-
Banck.Lib.CheckedFold — loops that check each element and then add it.

A loader goes through a list, rejects the first element that fails a check
against what it has collected, and adds the others. `foldlM_ok_iff`
separates the two: the loop succeeds exactly when every element passes, and
then its result is the plain fold. `passes_distinct_all` is the commonest
check: no key comes twice.
-/
import Mathlib

namespace Banck.Lib.CheckedFold

variable {σ α ε κ : Type} {check : σ → α → Prop} {add : σ → α → σ}

/-- Every element passes the check in the state it is met in. -/
def Passes (check : σ → α → Prop) (add : σ → α → σ) (s : σ) : List α → Prop
  | [] => True
  | a :: rest => check s a ∧ Passes check add (add s a) rest

/-- A loop of checked steps is a check of every element and a plain fold. -/
theorem foldlM_ok_iff {step : σ → α → Except ε σ}
    (hstep : ∀ s a s', step s a = .ok s' ↔ check s a ∧ s' = add s a) :
    ∀ (elements : List α) {s s' : σ}, elements.foldlM step s = .ok s' ↔
      Passes check add s elements ∧ s' = elements.foldl add s
  | [], s, s' => by simp [Passes, pure, Except.pure, eq_comm]
  | a :: rest, s, s' => by
      rw [List.foldlM_cons, List.foldl_cons, Passes, and_assoc]
      cases hfirst : step s a with
      | error e =>
        have hfails : ¬ check s a := fun hc => by
          rw [(hstep s a _).mpr ⟨hc, rfl⟩] at hfirst; cases hfirst
        simp [hfails, bind, Except.bind]
      | ok next =>
        obtain ⟨hc, rfl⟩ := (hstep s a next).mp hfirst
        simpa [hc, bind, Except.bind] using foldlM_ok_iff hstep rest

/-- What every step that goes through keeps, the loop keeps. -/
theorem foldlM_kept {I : σ → Prop} {step : σ → α → Except ε σ}
    (hstep : ∀ s a s', I s → step s a = .ok s' → I s') :
    ∀ (elements : List α) {s s' : σ}, I s → elements.foldlM step s = .ok s' → I s'
  | [], s, s', hs, h => by
      obtain rfl : s = s' := Except.ok.inj h
      exact hs
  | a :: rest, s, s', hs, h => by
      rw [List.foldlM_cons] at h
      cases hfirst : step s a with
      | error e => simp [hfirst, bind, Except.bind] at h
      | ok next =>
        rw [hfirst] at h
        exact foldlM_kept hstep rest (hstep s a next hs hfirst) h

theorem passes_and {check' : σ → α → Prop} : ∀ (elements : List α) {s : σ},
    Passes (fun s a => check s a ∧ check' s a) add s elements ↔
      Passes check add s elements ∧ Passes check' add s elements
  | [], _ => by simp [Passes]
  | a :: rest, s => by
      simp only [Passes, passes_and rest]
      tauto

/-- A check that does not depend on what was added. -/
theorem passes_forall {valid : α → Prop} : ∀ (elements : List α) {s : σ},
    Passes (fun _ a => valid a) add s elements ↔ ∀ a ∈ elements, valid a
  | [], _ => by simp [Passes]
  | a :: rest, s => by simp [Passes, passes_forall rest]

/-- A check that stays what it is along the loop. -/
theorem passes_of_kept {valid : σ → α → Prop}
    (hkept : ∀ s a b, valid (add s b) a ↔ valid s a) : ∀ (elements : List α) {s : σ},
    Passes valid add s elements ↔ ∀ a ∈ elements, valid s a
  | [], _ => by simp [Passes]
  | b :: rest, s => by
      simp [Passes, passes_of_kept hkept rest, hkept]

/-- Each element brings keys that are distinct and new when it is met: all
the keys are distinct, and none was there before. -/
theorem passes_distinct_all {keys : α → List κ} {seen : σ → κ → Prop}
    (hseen : ∀ s a k, seen (add s a) k ↔ k ∈ keys a ∨ seen s k) :
    ∀ (elements : List α) {s : σ},
      Passes (fun s a => (keys a).Nodup ∧ ∀ k ∈ keys a, ¬ seen s k) add s elements ↔
        (elements.flatMap keys).Nodup ∧ ∀ k ∈ elements.flatMap keys, ¬ seen s k
  | [], _ => by simp [Passes]
  | a :: rest, s => by
      rw [Passes, passes_distinct_all hseen rest, List.flatMap_cons, List.nodup_append]
      simp only [hseen, not_or, List.mem_append]
      constructor
      · intro h
        obtain ⟨⟨hfirst, hnew⟩, hrest, hnews⟩ := h
        refine ⟨⟨hfirst, hrest, fun k hk l hl hkl => (hnews l hl).1 (hkl ▸ hk)⟩, fun k hk => ?_⟩
        exact hk.elim (hnew k) fun hk => (hnews k hk).2
      · intro h
        obtain ⟨⟨hfirst, hrest, hapart⟩, hnew⟩ := h
        exact ⟨⟨hfirst, fun k hk => hnew k (.inl hk)⟩, hrest,
          fun k hk => ⟨fun hmem => hapart k hmem k hk rfl, hnew k (.inr hk)⟩⟩

/-- Each element brings one key. -/
theorem passes_distinct {key : α → κ} {seen : σ → κ → Prop}
    (hseen : ∀ s a k, seen (add s a) k ↔ k = key a ∨ seen s k)
    (elements : List α) {s : σ} : Passes (fun s a => ¬ seen s (key a)) add s elements ↔
      (elements.map key).Nodup ∧ ∀ a ∈ elements, ¬ seen s (key a) := by
  have hall := @passes_distinct_all σ α κ add (fun a => [key a]) seen (by simpa using hseen)
    elements s
  simpa [← List.map_eq_flatMap] using hall

end Banck.Lib.CheckedFold
