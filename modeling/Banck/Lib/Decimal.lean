/-
Banck.Lib.Decimal — reading integers from decimal digits in checked
machine arithmetic.

`parseInt` is the `parse` method of the modelled program's standard library
for an integer type with a least and a largest value: it multiplies by ten
and adds a digit as it goes, and gives up as soon as a step leaves the
type. On a digit string the intermediate values only grow, so it fails
exactly if the number is too large, however many zeros lead
(`parseInt_digits`). The number itself is `Nat.ofDigitChars`.

`IsSigned` is the grammar of a numeral with a point, and `Parts` what
splitting at the point leaves of it.
-/
import Mathlib

namespace Banck.Lib.Decimal

/-! ## Digits -/

/-- The number a string of digits stands for. -/
def value (cs : List Char) : Nat := Nat.ofDigitChars 10 cs 0

def digitOf (c : Char) : Option Nat := if c.isDigit then some (c.toNat - '0'.toNat) else none

def IsDigits (cs : List Char) : Prop := ∀ c ∈ cs, c.isDigit = true

instance (cs : List Char) : Decidable (IsDigits cs) :=
  inferInstanceAs (Decidable (∀ c ∈ cs, c.isDigit = true))

theorem isDigits_append {xs ys : List Char} : IsDigits (xs ++ ys) ↔ IsDigits xs ∧ IsDigits ys :=
  List.forall_mem_append

theorem IsDigits.ne {cs : List Char} (h : IsDigits cs) {c : Char} (hc : c.isDigit = false) :
    c ∉ cs := fun hmem => by
  rw [h c hmem] at hc
  cases hc

/-- A number is printed in digits. -/
theorem isDigits_repr (n : Nat) : IsDigits n.repr.toList := by
  intro c hc
  rw [Nat.toList_repr] at hc
  exact Nat.isDigit_of_mem_toDigits (by decide) (by decide) hc

theorem value_repr (n : Nat) : value n.repr.toList = n := by
  rw [value, Nat.toList_repr, Nat.ofDigitChars_ten_toDigits]

theorem repr_ne_nil (n : Nat) : n.repr.toList ≠ [] := by
  rw [Nat.toList_repr]
  exact Nat.toDigits_ne_nil

@[simp] theorem value_nil : value [] = 0 := rfl

theorem value_append (xs ys : List Char) :
    value (xs ++ ys) = 10 ^ ys.length * value xs + value ys := by
  rw [value, Nat.ofDigitChars_append, Nat.ofDigitChars_eq_ofDigitChars_zero]
  rfl

theorem digit_le {c : Char} (h : c.isDigit = true) : c.toNat - '0'.toNat ≤ 9 := by
  have hle : c.toNat ≤ 57 := by
    simp only [Char.isDigit, Bool.and_eq_true, decide_eq_true_eq] at h
    exact h.2
  have hzero : '0'.toNat = 48 := rfl
  omega

/-- As many digits as `n` stay below the `n`th power of ten. -/
theorem value_lt {cs : List Char} (h : IsDigits cs) : value cs < 10 ^ cs.length := by
  induction cs with
  | nil => simp
  | cons c rest ih =>
    have hc := digit_le (h c (by simp))
    have hrest := ih fun d hd => h d (by simp [hd])
    have hcons := value_append [c] rest
    rw [List.singleton_append] at hcons
    have hone : value [c] = c.toNat - '0'.toNat := by
      simp [value, Nat.ofDigitChars_cons]
    rw [hcons, hone, List.length_cons, pow_succ]
    calc 10 ^ rest.length * (c.toNat - '0'.toNat) + value rest
        < 10 ^ rest.length * (c.toNat - '0'.toNat) + 10 ^ rest.length := by omega
      _ = 10 ^ rest.length * (c.toNat - '0'.toNat + 1) := by ring
      _ ≤ 10 ^ rest.length * 10 := Nat.mul_le_mul_left _ (by omega)

/-! ## Checked reading -/

/-- A value of an integer type. -/
def checked (least largest n : Int) : Option Int :=
  if least ≤ n ∧ n ≤ largest then some n else none

theorem checked_eq_some {least largest n m : Int} :
    checked least largest n = some m ↔ m = n ∧ least ≤ n ∧ n ≤ largest := by
  unfold checked
  split
  · rename_i h
    simp [h, eq_comm]
  · rename_i h
    simp [h]

/-- One step of the loop: times ten, plus or minus the next digit. -/
def pushDigit (least largest sign result : Int) (c : Char) : Option Int := do
  let digit ← digitOf c
  let product ← checked least largest (result * 10)
  checked least largest (product + sign * digit)

/-- `parse` on an integer type. A minus sign is read where the type has
negative values. -/
def parseInt (least largest : Int) : List Char → Option Int
  | [] => none
  | ['+'] | ['-'] => none
  | '+' :: digits => digits.foldlM (pushDigit least largest 1) 0
  | '-' :: digits =>
      if least < 0 then digits.foldlM (pushDigit least largest (-1)) 0 else none
  | digits => digits.foldlM (pushDigit least largest 1) 0

section Parse

variable {least largest : Int}

theorem pushDigit_eq_some {c : Char} (hc : c.isDigit = true) (hleast : least ≤ 0) {r : Nat}
    {n : Int} :
    pushDigit least largest 1 r c = some n ↔
      n = (10 * r + (c.toNat - '0'.toNat) : Nat) ∧
        ((10 * r + (c.toNat - '0'.toNat) : Nat) : Int) ≤ largest := by
  simp only [pushDigit, digitOf, hc, if_true, bind, Option.bind]
  cases hproduct : checked least largest (r * 10) with
  | none =>
    have hno : ¬ ((r : Int) * 10 ≤ largest) := fun hle => by
      have hfits : checked least largest (r * 10) = some ((r : Int) * 10) :=
        checked_eq_some.mpr ⟨rfl, by omega, hle⟩
      rw [hproduct] at hfits
      cases hfits
    simp only [reduceCtorEq, false_iff, not_and]
    omega
  | some product =>
    obtain ⟨rfl, -, hle⟩ := checked_eq_some.mp hproduct
    simp only [checked_eq_some]
    constructor
    · intro h
      obtain ⟨rfl, -, hsum⟩ := h
      exact ⟨by push_cast; ring, by push_cast; push_cast at hsum; linarith⟩
    · intro h
      obtain ⟨rfl, hsum⟩ := h
      push_cast at hsum ⊢
      exact ⟨by ring, by omega, by linarith⟩

theorem le_ofDigitChars (cs : List Char) (r : Nat) : r ≤ Nat.ofDigitChars 10 cs r := by
  rw [Nat.ofDigitChars_eq_ofDigitChars_zero]
  exact le_trans (Nat.le_mul_of_pos_left r (Nat.pow_pos (by decide))) (Nat.le_add_right _ _)

/-- The loop over the digits: what it has read so far only grows. -/
theorem foldlM_pushDigit (hleast : least ≤ 0) : ∀ {cs : List Char}, IsDigits cs →
    ∀ {r : Nat}, (r : Int) ≤ largest → ∀ {n : Int},
      cs.foldlM (pushDigit least largest 1) (r : Int) = some n ↔
        n = Nat.ofDigitChars 10 cs r ∧ (Nat.ofDigitChars 10 cs r : Int) ≤ largest
  | [], _, r, hr, n => by
      simp only [List.foldlM_nil, Nat.ofDigitChars_nil, Option.pure_def, Option.some.injEq, hr,
        and_true, eq_comm]
  | c :: rest, h, r, hr, n => by
      have hc := h c (by simp)
      have hrest : IsDigits rest := fun d hd => h d (by simp [hd])
      rw [List.foldlM_cons, Nat.ofDigitChars_cons]
      cases hstep : pushDigit least largest 1 r c with
      | none =>
        have hlarge : largest < ((10 * r + (c.toNat - '0'.toNat) : Nat) : Int) := by
          by_contra hle
          rw [(pushDigit_eq_some hc hleast).mpr ⟨rfl, not_lt.mp hle⟩] at hstep
          cases hstep
        have hmore := le_ofDigitChars rest (10 * r + (c.toNat - '0'.toNat))
        simp only [bind, Option.bind, reduceCtorEq, false_iff, not_and]
        omega
      | some next =>
        obtain ⟨rfl, hle⟩ := (pushDigit_eq_some hc hleast).mp hstep
        exact foldlM_pushDigit hleast hrest hle

/-- A digit string is read as its number, if the type has it. -/
theorem parseInt_digits (hleast : least ≤ 0) (hlargest : 0 ≤ largest) {cs : List Char}
    (hne : cs ≠ []) (h : IsDigits cs) {n : Int} :
    parseInt least largest cs = some n ↔ n = value cs ∧ (value cs : Int) ≤ largest := by
  have hplus : ∀ rest, cs ≠ '+' :: rest := fun rest he => by
    have := h '+' (by simp [he])
    cases this
  have hminus : ∀ rest, cs ≠ '-' :: rest := fun rest he => by
    have := h '-' (by simp [he])
    cases this
  have hloop : parseInt least largest cs = cs.foldlM (pushDigit least largest 1) 0 := by
    unfold parseInt
    split
    · exact absurd rfl hne
    · exact absurd rfl (hplus _)
    · exact absurd rfl (hminus _)
    · exact absurd rfl (hplus _)
    · exact absurd rfl (hminus _)
    · rfl
  rw [hloop]
  exact foldlM_pushDigit (r := 0) hleast h hlargest

end Parse

/-! ## Numerals with a point -/

/-- The text is `whole`, or `whole` and `fraction` with the only point
between them. -/
def Parts (text whole fraction : List Char) : Prop :=
  '.' ∉ whole ∧ '.' ∉ fraction ∧ (text = whole ∧ fraction = [] ∨ text = whole ++ '.' :: fraction)

/-- Digits, and optionally a point and at most `places` digits. -/
structure IsUnsigned (places : Nat) (text whole fraction : List Char) : Prop where
  text : text = whole ∧ fraction = [] ∨ text = whole ++ '.' :: fraction
  wholeDigits : IsDigits whole
  fractionDigits : IsDigits fraction
  length : fraction.length ≤ places

/-- The same with an optional sign in front. -/
def IsSigned (places : Nat) (text : List Char) (negative : Bool) (whole fraction : List Char) :
    Prop :=
  ∃ unsigned, IsUnsigned places unsigned whole fraction ∧
    (negative = true ∧ text = '-' :: unsigned ∨
      negative = false ∧ (text = unsigned ∨ text = '+' :: unsigned))

section Parts

variable {places : Nat} {text whole fraction whole' fraction' : List Char}

theorem IsUnsigned.parts (h : IsUnsigned places text whole fraction) :
    Parts text whole fraction :=
  ⟨h.wholeDigits.ne rfl, h.fractionDigits.ne rfl, h.text⟩

/-- What splitting at the point gives. -/
theorem Parts.splitOn (h : Parts text whole fraction) :
    text = whole ∧ fraction = [] ∧ text.splitOn '.' = [whole] ∨
      text = whole ++ '.' :: fraction ∧ text.splitOn '.' = [whole, fraction] := by
  obtain ⟨hwhole, hfraction, ⟨rfl, rfl⟩ | rfl⟩ := h
  · exact .inl ⟨rfl, rfl, List.splitOn_eq_singleton hwhole⟩
  · right
    rw [List.splitOn_append_cons_self_of_not_mem hwhole, List.splitOn_eq_singleton hfraction]
    exact ⟨rfl, rfl⟩

/-- There is one way to cut a text. -/
theorem Parts.unique (h : Parts text whole fraction) (h' : Parts text whole' fraction') :
    whole = whole' ∧ fraction = fraction' := by
  rcases h.splitOn with ⟨-, hf, hs⟩ | ⟨-, hs⟩
  · rcases h'.splitOn with ⟨-, hf', hs'⟩ | ⟨-, hs'⟩
    · rw [hs, List.cons.injEq] at hs'
      exact ⟨hs'.1, hf.trans hf'.symm⟩
    · rw [hs] at hs'
      cases hs'
  · rcases h'.splitOn with ⟨-, -, hs'⟩ | ⟨-, hs'⟩
    · rw [hs] at hs'
      cases hs'
    · rw [hs, List.cons.injEq, List.cons.injEq] at hs'
      exact ⟨hs'.1, hs'.2.1⟩

/-- A text is cut into two parts at most, or splits into more. -/
theorem parts_or_more (text : List Char) :
    (∃ whole fraction, Parts text whole fraction) ∨ 2 < (text.splitOn '.').length := by
  by_cases hpoint : '.' ∈ text
  · obtain ⟨whole, rest, rfl, hwhole⟩ := List.eq_append_cons_of_mem hpoint
    by_cases hmore : '.' ∈ rest
    · right
      obtain ⟨middle, last, rfl⟩ := List.append_of_mem hmore
      have hmiddle := List.length_pos_iff.mpr (List.splitOn_ne_nil '.' middle)
      have hlast := List.length_pos_iff.mpr (List.splitOn_ne_nil '.' last)
      rw [List.splitOn_append_cons_self_of_not_mem hwhole, List.splitOn_append_cons_self,
        List.length_cons, List.length_append]
      omega
    · exact .inl ⟨whole, rest, hwhole, hmore, .inr rfl⟩
  · exact .inl ⟨text, [], hpoint, by simp, .inl ⟨rfl, rfl⟩⟩

theorem Parts.length_splitOn (h : Parts text whole fraction) :
    (text.splitOn '.').length ≤ 2 := by
  rcases h.splitOn with ⟨-, -, hs⟩ | ⟨-, hs⟩
  · simp [hs]
  · simp [hs]

/-- Parts of digits make a numeral. -/
theorem Parts.isUnsigned_iff (h : Parts text whole fraction) :
    IsUnsigned places text whole fraction ↔
      IsDigits whole ∧ IsDigits fraction ∧ fraction.length ≤ places :=
  ⟨fun hu => ⟨hu.wholeDigits, hu.fractionDigits, hu.length⟩,
    fun hd => ⟨h.2.2, hd.1, hd.2.1, hd.2.2⟩⟩

/-- What is asked of the numeral in a text is asked of its parts. -/
theorem Parts.exists_isUnsigned (h : Parts text whole fraction) {P : List Char → List Char → Prop} :
    (∃ w f, IsUnsigned places text w f ∧ P w f) ↔
      (IsDigits whole ∧ IsDigits fraction ∧ fraction.length ≤ places) ∧ P whole fraction := by
  constructor
  · intro he
    obtain ⟨w, f, hu, hp⟩ := he
    obtain ⟨rfl, rfl⟩ := hu.parts.unique h
    exact ⟨h.isUnsigned_iff.mp hu, hp⟩
  · intro hd
    exact ⟨whole, fraction, h.isUnsigned_iff.mpr hd.1, hd.2⟩

/-- A text of more than two pieces is no numeral. -/
theorem not_isUnsigned_of_more (h : 2 < (text.splitOn '.').length) (w f : List Char) :
    ¬ IsUnsigned places text w f := fun hu =>
  absurd hu.parts.length_splitOn (not_le.mpr h)

/-- There are only digits and the point. -/
theorem IsUnsigned.mem (h : IsUnsigned places text whole fraction) {c : Char} (hc : c ∈ text) :
    c.isDigit = true ∨ c = '.' := by
  rcases h.text with ⟨rfl, -⟩ | rfl
  · exact .inl (h.wholeDigits c hc)
  · rcases List.mem_append.mp hc with hw | hf
    · exact .inl (h.wholeDigits c hw)
    · rcases List.mem_cons.mp hf with rfl | hf
      · exact .inr rfl
      · exact .inl (h.fractionDigits c hf)

theorem IsUnsigned.no_sign {rest : List Char} {c : Char} (hsign : c = '-' ∨ c = '+') :
    ¬ IsUnsigned places (c :: rest) whole fraction := by
  intro h
  rcases h.mem List.mem_cons_self with hdigit | hpoint
  · rcases hsign with rfl | rfl <;> cases hdigit
  · rcases hsign with rfl | rfl <;> cases hpoint

variable {negative : Bool} {rest : List Char}

theorem isSigned_minus : IsSigned places ('-' :: rest) negative whole fraction ↔
    negative = true ∧ IsUnsigned places rest whole fraction := by
  constructor
  · intro h
    obtain ⟨u, hu, ⟨hn, htext⟩ | ⟨hn, htext | htext⟩⟩ := h
    · obtain rfl := (List.cons.inj htext).2
      exact ⟨hn, hu⟩
    · subst htext
      exact absurd hu (IsUnsigned.no_sign (.inl rfl))
    · cases htext
  · intro h
    exact ⟨rest, h.2, .inl ⟨h.1, rfl⟩⟩

theorem isSigned_plus : IsSigned places ('+' :: rest) negative whole fraction ↔
    negative = false ∧ IsUnsigned places rest whole fraction := by
  constructor
  · intro h
    obtain ⟨u, hu, ⟨hn, htext⟩ | ⟨hn, htext | htext⟩⟩ := h
    · cases htext
    · subst htext
      exact absurd hu (IsUnsigned.no_sign (.inr rfl))
    · obtain rfl := (List.cons.inj htext).2
      exact ⟨hn, hu⟩
  · intro h
    exact ⟨rest, h.2, .inr ⟨h.1, .inr rfl⟩⟩

theorem isSigned_other (hm : ∀ rest, text ≠ '-' :: rest) (hp : ∀ rest, text ≠ '+' :: rest) :
    IsSigned places text negative whole fraction ↔
      negative = false ∧ IsUnsigned places text whole fraction := by
  constructor
  · intro h
    obtain ⟨u, hu, ⟨hn, htext⟩ | ⟨hn, htext | htext⟩⟩ := h
    · exact absurd htext (hm u)
    · subst htext
      exact ⟨hn, hu⟩
    · exact absurd htext (hp u)
  · intro h
    exact ⟨text, h.2, .inr ⟨h.1, .inl rfl⟩⟩

theorem not_isSigned_nil (hsome : whole ++ fraction ≠ []) :
    ¬ IsSigned places [] negative whole fraction := by
  intro h
  obtain ⟨u, hu, ⟨-, hu'⟩ | ⟨-, hu' | hu'⟩⟩ := h
  · cases hu'
  · subst hu'
    rcases hu.text with ⟨rfl, rfl⟩ | htext
    · exact hsome rfl
    · exact absurd htext.symm (by simp)
  · cases hu'

/-- The whole part is what comes before the point. -/
theorem IsUnsigned.takeWhile (h : IsUnsigned places text whole fraction) :
    text.takeWhile (· ≠ '.') = whole := by
  have hwhole : ∀ c ∈ whole, decide (c ≠ '.') = true := fun c hc => by
    rw [decide_eq_true_eq]
    intro hpoint
    exact h.wholeDigits.ne rfl (hpoint ▸ hc)
  rcases h.text with ⟨rfl, -⟩ | rfl
  · exact List.takeWhile_eq_self_iff.mpr hwhole
  · rw [List.takeWhile_append_of_pos hwhole, List.takeWhile_cons_of_neg (by simp), List.append_nil]

/-- There is a digit before the point exactly if there is a whole part. -/
theorem IsSigned.digit_iff (h : IsSigned places text negative whole fraction) :
    (∃ c ∈ text.takeWhile (· ≠ '.'), c.isDigit = true) ↔ whole ≠ [] := by
  obtain ⟨u, hu, hsign⟩ := h
  have hdigit : (∃ c ∈ whole, c.isDigit = true) ↔ whole ≠ [] := by
    constructor
    · intro hc
      obtain ⟨c, hc, -⟩ := hc
      exact List.ne_nil_of_mem hc
    · intro hne
      exact ⟨whole.head hne, List.head_mem hne, hu.wholeDigits _ (List.head_mem hne)⟩
  have hbehind : ∀ sign : Char, sign ≠ '.' → sign.isDigit = false →
      ((∃ c ∈ (sign :: u).takeWhile (· ≠ '.'), c.isDigit = true) ↔ whole ≠ []) := by
    intro sign hpoint hsign
    rw [List.takeWhile_cons_of_pos (by simpa using hpoint), hu.takeWhile, ← hdigit]
    simp [hsign]
  rcases hsign with ⟨-, rfl⟩ | ⟨-, rfl | rfl⟩
  · exact hbehind '-' (by decide) rfl
  · rw [hu.takeWhile]
    exact hdigit
  · exact hbehind '+' (by decide) rfl

end Parts

/-- The number of hundredths: one digit behind the point is a tenth. -/
def hundredths (whole fraction : List Char) : Nat :=
  100 * value whole + value (fraction ++ List.replicate (2 - fraction.length) '0')

end Banck.Lib.Decimal
