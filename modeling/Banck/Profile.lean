/-
Banck.Profile — the two checks on what a person enters about themselves:
a name and an email address (`clean_name` and `clean_email`, which
`src/bank.rs` and `src/identity.rs` each have with their own error type).

A constructor stores what the check returns and a loader runs the check
again and drops the result. The loader accepts what the constructor stored
because a clean value is a fixed point of its check: `cleanName_clean`,
`cleanEmail_clean`.
-/
import Banck.Domain

namespace Banck.Profile

open Lib Text

variable {ε : Type}

/-- A name without the white space around it; never empty. -/
def cleanName (invalid : ε) (name : String) : Except ε String :=
  let name := trim name
  if name.isEmpty then .error invalid else .ok name

/-- An `@` with something on both sides of it. -/
def IsAddress (email : String) : Prop :=
  email.isEmpty = false ∧ '@' ∈ email.toList ∧
    email.toList.head? ≠ some '@' ∧ email.toList.getLast? ≠ some '@'

instance (email : String) : Decidable (IsAddress email) :=
  inferInstanceAs (Decidable (_ ∧ _ ∧ _ ∧ _))

/-- An address without the white space around it, in lower case. -/
def cleanEmail (invalid : ε) (email : String) : Except ε String :=
  let email := toLowercase (trim email)
  if IsAddress email then .ok email else .error invalid

theorem cleanName_ok_iff {invalid : ε} {name clean : String} :
    cleanName invalid name = .ok clean ↔ clean = trim name ∧ clean.isEmpty = false := by
  unfold cleanName
  by_cases h : (trim name).isEmpty = true
  · simp only [h, if_true, reduceCtorEq, false_iff]
    rintro ⟨rfl, hne⟩
    rw [h] at hne; cases hne
  · simp only [h, Bool.false_eq_true, if_false, Except.ok.injEq]
    constructor
    · rintro rfl; exact ⟨rfl, Bool.eq_false_iff.mpr h⟩
    · rintro ⟨rfl, _⟩; rfl

theorem cleanEmail_ok_iff {invalid : ε} {email clean : String} :
    cleanEmail invalid email = .ok clean ↔
      clean = toLowercase (trim email) ∧ IsAddress clean := by
  unfold cleanEmail
  by_cases h : IsAddress (toLowercase (trim email))
  · simp only [h, if_true, Except.ok.injEq]
    constructor
    · rintro rfl; exact ⟨rfl, h⟩
    · rintro ⟨rfl, _⟩; rfl
  · simp only [h, if_false, reduceCtorEq, false_iff]
    rintro ⟨rfl, hc⟩
    exact h hc

/-- Every name the check returns passes it unchanged. -/
theorem cleanName_clean {δ : Type} {invalid : ε} {invalid' : δ} {name clean : String}
    (h : cleanName invalid name = .ok clean) : cleanName invalid' clean = .ok clean := by
  obtain ⟨rfl, hne⟩ := cleanName_ok_iff.mp h
  exact cleanName_ok_iff.mpr ⟨(trim_trim name).symm, hne⟩

/-- Every address the check returns passes it unchanged. -/
theorem cleanEmail_clean {δ : Type} {invalid : ε} {invalid' : δ} {email clean : String}
    (h : cleanEmail invalid email = .ok clean) : cleanEmail invalid' clean = .ok clean := by
  obtain ⟨rfl, haddr⟩ := cleanEmail_ok_iff.mp h
  exact cleanEmail_ok_iff.mpr ⟨(clean_clean email).symm, haddr⟩

end Banck.Profile
