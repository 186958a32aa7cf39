/-
Banck.Lib.Coupled — two runs side by side.

`Coupled P m m' Q E`: from two states that `P` relates, the computations
either both return, with values and states that `Q` relates, or both fail,
with the same error and in states that `E` relates. There is a rule for
each way of building a computation; two computations that are built alike
are coupled step by step. `Agree R m m'` is the case of one relation that
is kept whatever happens: the computations answer the same.
-/
import Banck.Lib.Mut

namespace Banck.Lib.Mut

variable {σ τ ε δ α β : Type}

def Coupled (P : σ → σ → Prop) (m m' : Mut σ ε α) (Q : α → α → σ → σ → Prop)
    (E : σ → σ → Prop) : Prop :=
  ∀ s s', P s s' →
    (∃ a a' t t', m s = (.ok a, t) ∧ m' s' = (.ok a', t') ∧ Q a a' t t') ∨
    (∃ e t t', m s = (.error e, t) ∧ m' s' = (.error e, t') ∧ E t t')

variable {P P' : σ → σ → Prop} {Q : α → α → σ → σ → Prop} {R : β → β → σ → σ → Prop}
  {E : σ → σ → Prop} {V : α → α → Prop} {m m' : Mut σ ε α} {f f' : α → Mut σ ε β}

/-! ## Sequences -/

theorem Coupled.bind (hm : Coupled P m m' Q E) (hf : ∀ a a', Coupled (Q a a') (f a) (f' a') R E) :
    Coupled P (m >>= f) (m' >>= f') R E := by
  intro s s' hs
  rcases hm s s' hs with ⟨a, a', t, t', ha, ha', hq⟩ | ⟨e, t, t', he, he', herr⟩
  · rw [bind_run_ok ha, bind_run_ok ha']
    exact hf a a' t t' hq
  · exact .inr ⟨e, t, t', bind_error_iff.mpr (.inl he), bind_error_iff.mpr (.inl he'), herr⟩

/-- The values are related whatever the states are. -/
theorem Coupled.bind_related (hm : Coupled P m m' (fun a a' s s' => V a a' ∧ P' s s') E)
    (hf : ∀ a a', V a a' → Coupled P' (f a) (f' a') R E) :
    Coupled P (m >>= f) (m' >>= f') R E :=
  hm.bind fun a a' s s' hs => hf a a' hs.1 s s' hs.2

/-- The values are the same. -/
theorem Coupled.bind_same (hm : Coupled P m m' (fun a a' s s' => a' = a ∧ P' s s') E)
    (hf : ∀ a, Coupled P' (f a) (f' a) R E) : Coupled P (m >>= f) (m' >>= f') R E :=
  hm.bind_related fun a _ ha => ha ▸ hf a

theorem Coupled.map {g : α → β} (hm : Coupled P m m' Q E)
    (hQ : ∀ a a' s s', Q a a' s s' → R (g a) (g a') s s') :
    Coupled P (map g m) (map g m') R E := by
  intro s s' hs
  rcases hm s s' hs with ⟨a, a', t, t', ha, ha', hq⟩ | ⟨e, t, t', he, he', herr⟩
  · exact .inl ⟨g a, g a', t, t', map_ok_iff.mpr ⟨a, ha, rfl⟩, map_ok_iff.mpr ⟨a', ha', rfl⟩,
      hQ a a' t t' hq⟩
  · exact .inr ⟨e, t, t', map_error_iff.mpr he, map_error_iff.mpr he', herr⟩

theorem Coupled.weaken {P₀ : σ → σ → Prop} {Q₁ : α → α → σ → σ → Prop} (hm : Coupled P m m' Q E)
    (hP : ∀ s s', P₀ s s' → P s s') (hQ : ∀ a a' s s', Q a a' s s' → Q₁ a a' s s') :
    Coupled P₀ m m' Q₁ E := by
  intro s s' hs
  rcases hm s s' (hP s s' hs) with ⟨a, a', t, t', ha, ha', hq⟩ | herr
  · exact .inl ⟨a, a', t, t', ha, ha', hQ a a' t t' hq⟩
  · exact .inr herr

/-! ## Single steps -/

theorem coupled_pure {a a' : α} (h : ∀ s s', P s s' → Q a a' s s') :
    Coupled P (pure a : Mut σ ε α) (pure a') Q E := fun s s' hs =>
  .inl ⟨a, a', s, s', rfl, rfl, h s s' hs⟩

theorem coupled_fail (e : ε) (hE : ∀ s s', P s s' → E s s') :
    Coupled P (fail e : Mut σ ε α) (fail e) Q E := fun s s' hs =>
  .inr ⟨e, s, s', rfl, rfl, hE s s' hs⟩

theorem coupled_modify {g g' : σ → σ} (h : ∀ s s', P s s' → P' (g s) (g' s')) :
    Coupled P (modify g : Mut σ ε Unit) (modify g') (fun u u' s s' => u' = u ∧ P' s s') E :=
  fun s s' hs => .inl ⟨(), (), g s, g' s', rfl, rfl, rfl, h s s' hs⟩

/-- What is known of the states is known of the values read. -/
theorem coupled_get : Coupled P (get : Mut σ ε σ) get (fun a a' s s' => P a a' ∧ P s s') E :=
  fun s s' hs => .inl ⟨s, s', s, s', rfl, rfl, hs, hs⟩

theorem coupled_lift (r : Except ε α) (hE : ∀ s s', P s s' → E s s') :
    Coupled P (lift r) (lift r) (fun a a' s s' => a' = a ∧ P s s') E := by
  intro s s' hs
  cases r with
  | ok a => exact .inl ⟨a, a, s, s', rfl, rfl, rfl, hs⟩
  | error e => exact .inr ⟨e, s, s', rfl, rfl, hE s s' hs⟩

/-- A check that comes out alike, and is known where it was passed. -/
theorem coupled_ensure_iff {p p' : Prop} [Decidable p] [Decidable p'] (h : p' ↔ p) (e : ε)
    (hE : ∀ s s', P s s' → E s s') :
    Coupled P (ensure p e) (ensure p' e) (fun u u' s s' => (u' = u ∧ p) ∧ P s s') E := by
  intro s s' hs
  by_cases hp : p
  · exact .inl ⟨(), (), s, s', ensure_run hp e s, ensure_run (h.mpr hp) e s', ⟨rfl, hp⟩, hs⟩
  · have hp' : ¬p' := fun hp' => hp (h.mp hp')
    exact .inr ⟨e, s, s', ensure_error_iff.mpr ⟨hp, rfl, rfl⟩,
      ensure_error_iff.mpr ⟨hp', rfl, rfl⟩, hE s s' hs⟩

theorem coupled_ensure (p : Prop) [Decidable p] (e : ε) (hE : ∀ s s', P s s' → E s s') :
    Coupled P (ensure p e) (ensure p e) (fun u u' s s' => u' = u ∧ P s s') E :=
  (coupled_ensure_iff Iff.rfl e hE).weaken (fun _ _ h => h) fun _ _ _ _ h => ⟨h.1.1, h.2⟩

/-- Both values are there, and related, or neither is. -/
theorem coupled_okOr {o o' : Option α} (h : Option.Rel V o o') (e : ε)
    (hE : ∀ s s', P s s' → E s s') :
    Coupled P (okOr o e) (okOr o' e) (fun a a' s s' => V a a' ∧ P s s') E := by
  intro s s' hs
  cases h with
  | some ha => exact .inl ⟨_, _, s, s', rfl, rfl, ha, hs⟩
  | none => exact .inr ⟨e, s, s', rfl, rfl, hE s s' hs⟩

theorem coupled_okOr_same (o : Option α) (e : ε) (hE : ∀ s s', P s s' → E s s') :
    Coupled P (okOr o e) (okOr o e) (fun a a' s s' => a' = a ∧ P s s') E :=
  coupled_okOr (by cases o <;> constructor; rfl) e hE

/-! ## The same answers -/

/-- From related states the computations answer the same, with a value or an
error, and leave related states. -/
def Agree (R : σ → σ → Prop) (m m' : Mut σ ε α) : Prop :=
  ∀ s s', R s s' → (m s).1 = (m' s').1 ∧ R (m s).2 (m' s').2

section Agree

variable {R : σ → σ → Prop} {m m' : Mut σ ε α} {f f' : α → Mut σ ε β}

theorem Agree.bind (hm : Agree R m m') (hf : ∀ a, Agree R (f a) (f' a)) :
    Agree R (m >>= f) (m' >>= f') := by
  intro s s' hs
  obtain ⟨hanswer, hstates⟩ := hm s s' hs
  rw [bind_run, bind_run]
  rcases hrun : m s with ⟨result, t⟩
  rcases hrun' : m' s' with ⟨result', t'⟩
  rw [hrun, hrun'] at hanswer hstates
  obtain rfl : result = result' := hanswer
  cases result with
  | error e => exact ⟨rfl, hstates⟩
  | ok a => exact hf a t t' hstates

theorem Agree.map (hm : Agree R m m') (g : α → β) : Agree R (Mut.map g m) (Mut.map g m') := by
  intro s s' hs
  obtain ⟨hanswer, hstates⟩ := hm s s' hs
  rw [map_run, map_run, hanswer]
  exact ⟨rfl, hstates⟩

/-- A computation on a part, if the whole states are related where the parts
are. -/
theorem Agree.zoom {P : τ → τ → Prop} {n n' : Mut τ δ α} (hn : Agree P n n') {view : σ → τ}
    {put : τ → σ → σ} (err : δ → ε) (hview : ∀ s s', R s s' → P (view s) (view s'))
    (hput : ∀ s s' t t', R s s' → P t t' → R (put t s) (put t' s')) :
    Agree R (Mut.zoom view put err n) (Mut.zoom view put err n') := by
  intro s s' hs
  obtain ⟨hanswer, hstates⟩ := hn _ _ (hview s s' hs)
  rw [zoom_run, zoom_run, hanswer]
  exact ⟨rfl, hput s s' _ _ hs hstates⟩

theorem agree_pure (a : α) : Agree R (pure a : Mut σ ε α) (pure a) := fun _ _ hs => ⟨rfl, hs⟩

theorem agree_fail (e : ε) : Agree R (fail e : Mut σ ε α) (fail e) := fun _ _ hs => ⟨rfl, hs⟩

theorem agree_lift (r : Except ε α) : Agree R (lift r : Mut σ ε α) (lift r) :=
  fun _ _ hs => ⟨rfl, hs⟩

theorem agree_okOr (o : Option α) (e : ε) : Agree R (okOr o e : Mut σ ε α) (okOr o e) := by
  cases o with
  | none => exact agree_fail e
  | some a => exact agree_pure a

theorem agree_ensure (p : Prop) [Decidable p] (e : ε) :
    Agree R (ensure p e : Mut σ ε Unit) (ensure p e) := by
  unfold ensure
  split
  · exact agree_pure ()
  · exact agree_fail e

/-- Only where a check is passed is there more to compare. -/
theorem agree_lift_bind {r : Except ε α} (h : ∀ a, r = .ok a → Agree R (f a) (f' a)) :
    Agree R (lift r >>= f) (lift r >>= f') := by
  cases r with
  | error e => exact agree_fail e
  | ok a => exact h a rfl

/-- A check of the state that comes out alike. -/
theorem agree_check {r : σ → Except ε α} (hr : ∀ s s', R s s' → r s = r s')
    (hf : ∀ s s' a, R s s' → r s = .ok a → Agree R (f a) (f' a)) :
    Agree R (get >>= fun s => lift (r s) >>= f) (get >>= fun s => lift (r s) >>= f') := by
  intro s s' hs
  have h : Agree R (lift (r s) >>= f) (lift (r s) >>= f') :=
    agree_lift_bind fun a ha => hf s s' a hs ha
  simpa only [bind_run, get_run, hr s s' hs] using h s s' hs

end Agree

end Banck.Lib.Mut
