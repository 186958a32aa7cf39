/-
Banck.ParsingTheorems — what the parsers of money and interest rates
accept, and that they read what is printed.

Both come down to `parseParts`, which on digits is plain arithmetic
(`parseParts_digits`). The two parsers are then told apart by what they ask
of the sign and of the parts.
-/
import Banck.Parsing

namespace Banck

open Lib Decimal

/-! ## Parts -/

section Parts

variable {ε : Type} {least largest : Int} {invalidFormat tooManyDecimalPlaces overflow : ε}
  {w f : List Char} {whole : Option Int}

/-- Digits take one byte each. -/
theorem utf8ByteSize_digits {cs : List Char} (h : IsDigits cs) :
    (String.ofList cs).utf8ByteSize = cs.length := by
  induction cs with
  | nil => rfl
  | cons c rest ih =>
    have hascii : c.val ≤ 127 := by
      have hc := h c (by simp)
      simp only [Char.isDigit, Bool.and_eq_true, decide_eq_true_eq] at hc
      exact UInt32.le_trans hc.2 (by decide)
    have hcons : String.ofList (c :: rest) = String.singleton c ++ String.ofList rest := by simp
    rw [hcons, String.utf8ByteSize_append, String.utf8ByteSize_singleton,
      Char.utf8Size_eq_one_iff.mpr hascii, ih fun d hd => h d (by simp [hd]), List.length_cons,
      Nat.add_comm]

/-- At most two digits are read as hundredths. -/
theorem parseFraction_digits (hleast : least ≤ 0) (hlargest : 99 ≤ largest) (h : IsDigits f)
    (hlength : f.length ≤ 2) :
    parseFraction least largest (String.ofList f) =
      some (some (value (f ++ List.replicate (2 - f.length) '0') : Int)) := by
  have hread : f ≠ [] → parseInt least largest f = some (value f : Int) := by
    intro hne
    have hlt := value_lt h
    have hpow : 10 ^ f.length ≤ 10 ^ 2 := Nat.pow_le_pow_right (by decide) hlength
    exact (parseInt_digits hleast (by omega) hne h).mpr ⟨rfl, by omega⟩
  unfold parseFraction
  rw [utf8ByteSize_digits h, String.toList_ofList]
  match f, h, hlength, hread with
  | [], _, _, _ => rfl
  | [a], h, _, hread =>
    have hlt := value_lt h
    have hfits : checked least largest ((value [a] : Int) * 10) = some ((value [a] : Int) * 10) :=
      checked_eq_some.mpr ⟨rfl, by omega, by simp at hlt; omega⟩
    have hpad : value ([a] ++ List.replicate 1 '0') = value [a] * 10 := by
      have hzero : value (List.replicate 1 '0') = 0 := rfl
      rw [value_append, hzero, List.length_replicate, pow_one, Nat.add_zero, Nat.mul_comm]
    simp only [List.length_singleton, hread (by simp), hfits, Option.map_some, Nat.reduceSub,
      hpad]
    push_cast
    rfl
  | [a, b], _, _, hread => simp [hread]

/-- On digits the result is the number of hundredths, if the type has it. -/
theorem parseParts_digits (hleast : least ≤ 0) (hlargest : 99 ≤ largest) (hw : IsDigits w)
    (hf : IsDigits f) (hlength : f.length ≤ 2)
    (hwhole : ∀ n, whole = some n ↔ n = value w ∧ (value w : Int) ≤ largest) :
    parseParts least largest invalidFormat tooManyDecimalPlaces overflow (String.ofList w)
        (String.ofList f) whole =
      some (if (hundredths w f : Int) ≤ largest then .ok (hundredths w f : Int)
        else .error overflow) := by
  have hcheck : ¬ (¬ w.all Char.isDigit = true ∨ ¬ f.all Char.isDigit = true) := by
    rw [not_or, not_not, not_not, List.all_eq_true, List.all_eq_true]
    exact ⟨hw, hf⟩
  have hsize : ¬ 2 < (String.ofList f).utf8ByteSize := by
    rw [utf8ByteSize_digits hf]
    omega
  unfold parseParts
  rw [String.toList_ofList, String.toList_ofList, if_neg hcheck, if_neg hsize,
    parseFraction_digits hleast hlargest hf hlength]
  unfold hundredths
  generalize value (f ++ List.replicate (2 - f.length) '0') = cents
  cases whole with
  | none =>
    have hlarge : ¬ (value w : Int) ≤ largest := fun hle => by
      cases (hwhole (value w)).mpr ⟨rfl, hle⟩
    rw [if_neg (by push_cast; omega)]
  | some n =>
    obtain ⟨rfl, hle⟩ := (hwhole n).mp rfl
    dsimp only
    by_cases hfits : ((100 * value w + cents : Nat) : Int) ≤ largest
    · have hproduct : checked least largest ((value w : Int) * 100) =
          some ((value w : Int) * 100) :=
        checked_eq_some.mpr ⟨rfl, by omega, by push_cast at hfits; omega⟩
      have hsum : checked least largest ((value w : Int) * 100 + cents) =
          some ((100 * value w + cents : Nat) : Int) :=
        checked_eq_some.mpr ⟨by push_cast; ring, by omega, by push_cast at hfits; omega⟩
      rw [if_pos hfits, hproduct, Option.bind_some, hsum]
    · have hnone : ((checked least largest ((value w : Int) * 100)).bind fun hundredths =>
          checked least largest (hundredths + cents)) = none := by
        rw [Option.bind_eq_none_iff]
        intro product hproduct
        obtain ⟨rfl, -, -⟩ := checked_eq_some.mp hproduct
        rw [checked, if_neg]
        push_cast at hfits
        omega
      rw [if_neg hfits, hnone]

/-- What else there is among the parts is refused. -/
theorem parseParts_refused (h : ¬ (IsDigits w ∧ IsDigits f ∧ f.length ≤ 2)) :
    ∃ e, parseParts least largest invalidFormat tooManyDecimalPlaces overflow (String.ofList w)
      (String.ofList f) whole = some (.error e) := by
  unfold parseParts
  rw [String.toList_ofList, String.toList_ofList]
  by_cases hcheck : ¬ w.all Char.isDigit = true ∨ ¬ f.all Char.isDigit = true
  · exact ⟨invalidFormat, if_pos hcheck⟩
  · rw [if_neg hcheck]
    rw [not_or, not_not, not_not, List.all_eq_true, List.all_eq_true] at hcheck
    refine ⟨tooManyDecimalPlaces, if_pos ?_⟩
    rw [utf8ByteSize_digits hcheck.2]
    exact not_le.mp fun hle => h ⟨hcheck.1, hcheck.2, hle⟩

end Parts

/-! ## Printed numerals -/

/-- Two digits are printed as two digits. -/
theorem twoDigits_spec {n : Nat} (h : n < 100) :
    IsDigits (twoDigits n).toList ∧ (twoDigits n).toList.length = 2 ∧
      value (twoDigits n).toList = n := by
  have hdigits := isDigits_repr n
  have hvalue := value_repr n
  unfold twoDigits
  rw [Nat.toString_eq_repr]
  by_cases hlt : n < 10
  · have hlength : n.repr.toList.length = 1 := by
      rw [Nat.toList_repr, Nat.toDigits_of_lt_base hlt, List.length_singleton]
    have hpad : "0".toList = ['0'] := rfl
    have hzero : value ['0'] = 0 := rfl
    rw [if_pos hlt, String.toList_append, hpad]
    refine ⟨isDigits_append.mpr ⟨by simp [IsDigits], hdigits⟩, ?_, ?_⟩
    · rw [List.length_append, hlength]
      rfl
    · rw [value_append, hzero, Nat.mul_zero, Nat.zero_add, hvalue]
  · have hle : n.repr.toList.length ≤ 2 := by
      rw [Nat.toList_repr, Nat.length_toDigits_le_iff (by decide) (by decide)]
      exact h
    have hgt : ¬ n.repr.toList.length ≤ 1 := by
      rw [Nat.toList_repr, Nat.length_toDigits_le_iff (by decide) (by decide)]
      omega
    rw [if_neg hlt]
    exact ⟨hdigits, by omega, hvalue⟩

/-- The number of hundredths that was printed. -/
theorem hundredths_printed (n : Nat) :
    hundredths (n / 100).repr.toList (twoDigits (n % 100)).toList = n := by
  obtain ⟨-, hlength, hvalue⟩ := twoDigits_spec (Nat.mod_lt n (by decide : 0 < 100))
  rw [hundredths, hlength, value_repr, Nat.sub_self, List.replicate_zero, List.append_nil, hvalue]
  omega

theorem isUnsigned_printed (n : Nat) :
    IsUnsigned 2 ((n / 100).repr.toList ++ '.' :: (twoDigits (n % 100)).toList)
      (n / 100).repr.toList (twoDigits (n % 100)).toList := by
  obtain ⟨hdigits, hlength, -⟩ := twoDigits_spec (Nat.mod_lt n (by decide : 0 < 100))
  exact ⟨.inr rfl, isDigits_repr _, hdigits, hlength.le⟩

/-- There is no white space in a numeral. -/
theorem isSigned_not_space {text w f : List Char} {negative : Bool}
    (h : IsSigned 2 text negative w f) {c : Char}
    (hc : c ∈ text) : Unicode.isWhitespace c = false := by
  have hunsigned : ∀ {u : List Char}, IsUnsigned 2 u w f → c ∈ u →
      Unicode.isWhitespace c = false := by
    intro u hu hmem
    rcases hu.mem hmem with hdigit | rfl
    · simp only [Char.isDigit, Bool.and_eq_true, decide_eq_true_eq] at hdigit
      have hlow : 48 ≤ c.toNat := hdigit.1
      have hhigh : c.toNat ≤ 57 := hdigit.2
      exact Unicode.printable_not_space (by omega)
    · rfl
  obtain ⟨u, hu, ⟨-, rfl⟩ | ⟨-, rfl | rfl⟩⟩ := h
  · rcases List.mem_cons.mp hc with rfl | hmem
    · rfl
    · exact hunsigned hu hmem
  · exact hunsigned hu hc
  · rcases List.mem_cons.mp hc with rfl | hmem
    · rfl
    · exact hunsigned hu hmem

/-- White space around a numeral is trimmed off. -/
theorem trim_padded {before after s : String} {w f : List Char} {negative : Bool}
    (hb : ∀ c ∈ before.toList, Unicode.isWhitespace c = true)
    (ha : ∀ c ∈ after.toList, Unicode.isWhitespace c = true)
    (h : IsSigned 2 s.toList negative w f) (hne : s.toList ≠ []) :
    (Text.trim (before ++ s ++ after)).toList = s.toList := by
  rw [Text.trim, String.toList_ofList, String.toList_append, String.toList_append]
  refine Text.trimChars_padded hb ha ⟨fun c hc => ?_, fun c hc => ?_⟩ hne
  · exact isSigned_not_space h (List.mem_of_mem_head? hc)
  · exact isSigned_not_space h (List.mem_of_mem_getLast? hc)

/-! ## Money -/

theorem ofList_eq_empty {cs : List Char} : String.ofList cs = "" ↔ cs = [] := by
  rw [← String.toList_inj, String.toList_ofList, String.toList_empty]

namespace Money

variable {negative : Bool} {unsigned w f : List Char} {m : Money}

/-- The parser goes on with the parts, if there is something in them. -/
theorem parseUnsigned_parts (negative : Bool) (h : Parts unsigned w f) :
    parseUnsigned negative (String.ofList unsigned) =
      if w = [] ∧ f = [] then some (.error .invalidFormat)
      else
        (parseParts i64Min i64Max .invalidFormat .tooManyDecimalPlaces .overflow
            (String.ofList w) (String.ofList f)
            (if w = [] then some 0 else parseInt i64Min i64Max w)).bind fun
          | .error e => some (.error e)
          | .ok cents =>
              match ofInt? (if negative then -cents else cents) with
              | some money => some (.ok money)
              | none => some (.error .overflow) := by
  unfold parseUnsigned Text.split
  rw [String.toList_ofList]
  generalize hresult : parseParts i64Min i64Max MoneyParseError.invalidFormat
    .tooManyDecimalPlaces .overflow (String.ofList w) (String.ofList f)
    (if w = [] then some 0 else parseInt i64Min i64Max w) = result
  rcases h.splitOn with ⟨rfl, rfl, hs⟩ | ⟨htext, hs⟩
  · -- no point: the text is the whole part
    rw [String.ofList_nil] at hresult
    by_cases hnil : unsigned = []
    · simp [hnil]
    · rw [if_neg hnil] at hresult
      rcases result with _ | _ | cents
      · simp [hs, hnil, hresult]
      · simp [hs, hnil, hresult]
      · cases hfits : ofInt? (if negative then -cents else cents) <;>
          simp [hs, hnil, hresult, hfits]
  · have hne : unsigned ≠ [] := by simp [htext]
    rcases result with _ | _ | cents
    · simp [hs, hne, hresult]
    · simp [hs, hne, hresult]
    · cases hfits : ofInt? (if negative then -cents else cents) <;>
        simp [hs, hne, hresult, hfits]

theorem parseUnsigned_more (negative : Bool) (h : 2 < (unsigned.splitOn '.').length) :
    parseUnsigned negative (String.ofList unsigned) = some (.error .invalidFormat) := by
  unfold parseUnsigned Text.split
  rw [String.toList_ofList]
  simp [h]

/-- Read without a sign, an empty whole part counts as nothing. -/
theorem whole_eq_some (hw : IsDigits w) (n : Int) :
    (if w = [] then some 0 else parseInt i64Min i64Max w) = some n ↔
      n = value w ∧ (value w : Int) ≤ i64Max := by
  by_cases hnil : w = []
  · subst hnil
    simp [i64Max, eq_comm]
  · rw [if_neg hnil]
    exact parseInt_digits (by decide) (by decide) hnil hw

theorem parseUnsigned_ne_none (negative : Bool) (unsigned : List Char) :
    parseUnsigned negative (String.ofList unsigned) ≠ none := by
  rcases parts_or_more unsigned with ⟨w, f, hparts⟩ | hmore
  · rw [parseUnsigned_parts negative hparts]
    by_cases hnil : w = [] ∧ f = []
    · simp [hnil]
    · rw [if_neg hnil]
      by_cases hd : IsDigits w ∧ IsDigits f ∧ f.length ≤ 2
      · rw [parseParts_digits (by decide) (by decide) hd.1 hd.2.1 hd.2.2 (whole_eq_some hd.1),
          Option.bind_some]
        split
        · simp
        · split <;> simp
      · obtain ⟨e, hrefused⟩ := parseParts_refused hd
        rw [hrefused]
        simp
  · rw [parseUnsigned_more negative hmore]
    simp

/-- What is accepted without a sign. -/
theorem parseUnsigned_ok_iff :
    parseUnsigned negative (String.ofList unsigned) = some (.ok m) ↔
      ∃ w f, IsUnsigned 2 unsigned w f ∧ w ++ f ≠ [] ∧ (hundredths w f : Int) ≤ i64Max ∧
        m.cents = if negative then -(hundredths w f : Int) else hundredths w f := by
  rcases parts_or_more unsigned with ⟨w, f, hparts⟩ | hmore
  · rw [hparts.exists_isUnsigned, parseUnsigned_parts negative hparts]
    by_cases hnil : w = [] ∧ f = []
    · simp [hnil]
    · have hsome : w ++ f ≠ [] := by simpa using hnil
      rw [if_neg hnil]
      by_cases hd : IsDigits w ∧ IsDigits f ∧ f.length ≤ 2
      · rw [parseParts_digits (by decide) (by decide) hd.1 hd.2.1 hd.2.2 (whole_eq_some hd.1),
          Option.bind_some]
        by_cases hfits : (hundredths w f : Int) ≤ i64Max
        · simp only [hd, hsome, hfits, if_true, ne_eq, not_false_eq_true, and_self, true_and]
          split
          · rename_i money hmoney
            rw [ofInt?_eq_some] at hmoney
            rw [← hmoney, Option.some.injEq, Except.ok.injEq]
            exact ⟨fun h => by rw [h], fun h => (ext_cents h).symm⟩
          · rename_i hnone
            rw [ofInt?_eq_none] at hnone
            simp only [i64Min, i64Max] at hnone hfits
            split at hnone <;> omega
        · simp [hfits]
      · obtain ⟨e, hrefused⟩ := parseParts_refused hd
        rw [hrefused]
        simp [hd]
  · rw [parseUnsigned_more negative hmore]
    simp [not_isUnsigned_of_more hmore]

/-! ### The sign -/

/-- How the parser takes the sign off a text that is not empty. -/
theorem fromStr_cons {input : String} {c : Char} {rest : List Char}
    (h : (Text.trim input).toList = c :: rest) :
    fromStr input =
      if c = '-' then parseUnsigned true (String.ofList rest)
      else if c = '+' then parseUnsigned false (String.ofList rest)
      else parseUnsigned false (String.ofList (c :: rest)) := by
  have htrim : Text.trim input = String.ofList (c :: rest) := by
    rw [← h, String.ofList_toList]
  obtain ⟨b, hfirst, hascii⟩ := Text.asBytes_first c rest
  have hminus := hascii '-' (by decide)
  have hplus := hascii '+' (by decide)
  unfold fromStr
  rw [htrim]
  simp only [ofList_eq_empty, reduceCtorEq, if_false, hfirst, hminus, hplus, Option.bind_eq_bind,
    Option.bind_some]
  by_cases hm : c = '-'
  · rw [if_pos hm, if_pos hm, hm, Text.sliceFrom_one (by decide), Option.bind_some]
  · rw [if_neg hm, if_neg hm]
    by_cases hp : c = '+'
    · rw [if_pos hp, if_pos hp, hp, Text.sliceFrom_one (by decide), Option.bind_some]
    · rw [if_neg hp, if_neg hp]

theorem fromStr_empty {input : String} (h : (Text.trim input).toList = []) :
    fromStr input = some (.error .empty) := by
  have htrim : Text.trim input = "" := String.toList_inj.mp h
  simp [fromStr, htrim]

theorem fromStr_ne_none (input : String) : fromStr input ≠ none := by
  cases htext : (Text.trim input).toList with
  | nil => simp [fromStr_empty htext]
  | cons c rest =>
    rw [fromStr_cons htext]
    split
    · exact parseUnsigned_ne_none _ _
    · split <;> exact parseUnsigned_ne_none _ _

/-- What the parser is asked for: a numeral with a digit in it, whose
hundredths fit. -/
def Denotes (text : List Char) (m : Money) : Prop :=
  ∃ negative w f, IsSigned 2 text negative w f ∧ w ++ f ≠ [] ∧
    (hundredths w f : Int) ≤ i64Max ∧
    m.cents = if negative then -(hundredths w f : Int) else hundredths w f

/-- For a text whose sign is known, what follows the sign is asked for. -/
theorem denotes_of_sign {text rest : List Char} {negative : Bool}
    (h : ∀ negative' w f, IsSigned 2 text negative' w f ↔
      negative' = negative ∧ IsUnsigned 2 rest w f) :
    Denotes text m ↔ parseUnsigned negative (String.ofList rest) = some (.ok m) := by
  rw [parseUnsigned_ok_iff]
  unfold Denotes
  constructor
  · intro hd
    obtain ⟨negative', w, f, hs, hd⟩ := hd
    obtain ⟨rfl, hu⟩ := (h negative' w f).mp hs
    exact ⟨w, f, hu, hd⟩
  · intro hd
    obtain ⟨w, f, hu, hd⟩ := hd
    exact ⟨negative, w, f, (h negative w f).mpr ⟨rfl, hu⟩, hd⟩

theorem fromStr_ok_iff {input : String} :
    fromStr input = some (.ok m) ↔ Denotes (Text.trim input).toList m := by
  cases htext : (Text.trim input).toList with
  | nil =>
    rw [fromStr_empty htext]
    simp only [Option.some.injEq, reduceCtorEq, false_iff]
    intro hd
    obtain ⟨_, w, f, hs, hsome, -⟩ := hd
    exact not_isSigned_nil hsome hs
  | cons c rest =>
    rw [fromStr_cons htext]
    by_cases hm : c = '-'
    · rw [if_pos hm, hm, denotes_of_sign fun _ _ _ => isSigned_minus]
    · rw [if_neg hm]
      by_cases hp : c = '+'
      · rw [if_pos hp, hp, denotes_of_sign fun _ _ _ => isSigned_plus]
      · have hother : ∀ negative w f, IsSigned 2 (c :: rest) negative w f ↔
            negative = false ∧ IsUnsigned 2 (c :: rest) w f := fun _ _ _ =>
          isSigned_other (fun _ h => hm (List.cons.inj h).1) fun _ h => hp (List.cons.inj h).1
        rw [if_neg hp, denotes_of_sign hother]

/-- The parser accepts exactly its grammar with the exact value, answers
every other text with an error, and never panics. -/
theorem fromStr_exact (input : String) :
    (∀ m : Money, fromStr input = some (.ok m) ↔
      ∃ negative w f, IsSigned 2 (Text.trim input).toList negative w f ∧ w ++ f ≠ [] ∧
        (hundredths w f : Int) ≤ i64Max ∧
        m.cents = if negative then -(hundredths w f : Int) else hundredths w f) ∧
    ((∃ m, fromStr input = some (.ok m)) ∨ ∃ e, fromStr input = some (.error e)) := by
  refine ⟨fun m => fromStr_ok_iff, ?_⟩
  rcases hrun : fromStr input with _ | e | m
  · exact absurd hrun (fromStr_ne_none input)
  · exact .inr ⟨e, rfl⟩
  · exact .inl ⟨m, rfl⟩

/-! ### Printing -/

theorem display_isSigned (m : Money) :
    IsSigned 2 m.display.toList (decide (m.cents < 0)) (m.cents.natAbs / 100).repr.toList
      (twoDigits (m.cents.natAbs % 100)).toList := by
  refine ⟨_, isUnsigned_printed m.cents.natAbs, ?_⟩
  unfold display
  by_cases hneg : m.cents < 0
  · exact .inl ⟨by simp [hneg], by simp [hneg]⟩
  · exact .inr ⟨by simp [hneg], .inl (by simp [hneg])⟩

/-- What is printed is read back, with any white space around it, except
for the least number of cents. -/
theorem fromStr_display_iff (m : Money) :
    (∀ before after : String, (∀ c ∈ before.toList, Unicode.isWhitespace c = true) →
      (∀ c ∈ after.toList, Unicode.isWhitespace c = true) →
      fromStr (before ++ m.display ++ after) = some (.ok m)) ↔ m.cents ≠ i64Min := by
  have hsigned := display_isSigned m
  have hne : m.display.toList ≠ [] := by simp [display]
  have hrange := m.inRange
  constructor
  · intro hread hmin
    have hok := hread "" "" (by simp) (by simp)
    have hmax : i64Min = -i64Max - 1 := by decide
    -- a number after a minus sign is at least `-i64Max`
    rw [fromStr_ok_iff] at hok
    obtain ⟨negative, w, f, -, -, hle, hcents⟩ := hok
    cases negative with
    | true => simp only [if_true] at hcents; omega
    | false => simp only [Bool.false_eq_true, if_false] at hcents; omega
  · intro hmin before after hb ha
    rw [fromStr_ok_iff, trim_padded hb ha hsigned hne]
    refine ⟨_, _, _, hsigned, ?_, ?_, ?_⟩
    · simp
    · rw [hundredths_printed]
      simp only [i64Min, i64Max] at *
      omega
    · rw [hundredths_printed]
      by_cases hneg : m.cents < 0
      · simp only [hneg, decide_true, if_true]
        omega
      · simp only [hneg, decide_false, Bool.false_eq_true, if_false]
        omega

/-- The least number of cents is printed and not read back. -/
theorem fromStr_display_least :
    fromStr (⟨i64Min, by decide⟩ : Money).display = some (.error .overflow) := by
  decide +kernel

end Money

/-! ## Interest rates -/

namespace InterestRate

variable {unsigned w f : List Char} {r : InterestRate}

/-- The parser goes on with the parts, if there is a whole one. -/
theorem parseUnsigned_parts (h : Parts unsigned w f) :
    parseUnsigned (String.ofList unsigned) =
      if w = [] then some (.error .invalidFormat)
      else
        (parseParts 0 u32Max .invalidFormat .tooManyDecimalPlaces .overflow (String.ofList w)
            (String.ofList f) (parseInt 0 u32Max w)).bind fun
          | .error e => some (.error e)
          | .ok basisPoints => some (.ok ⟨UInt32.ofNat basisPoints.toNat⟩) := by
  unfold parseUnsigned Text.split
  rw [String.toList_ofList]
  generalize hresult : parseParts 0 u32Max InterestRateParseError.invalidFormat
    .tooManyDecimalPlaces .overflow (String.ofList w) (String.ofList f)
    (parseInt 0 u32Max w) = result
  rcases h.splitOn with ⟨rfl, rfl, hs⟩ | ⟨-, hs⟩
  · rw [String.ofList_nil] at hresult
    rcases result with _ | _ | _ <;> simp [hs, hresult]
  · rcases result with _ | _ | _ <;> simp [hs, hresult]

theorem parseUnsigned_more (h : 2 < (unsigned.splitOn '.').length) :
    parseUnsigned (String.ofList unsigned) = some (.error .invalidFormat) := by
  unfold parseUnsigned Text.split
  rw [String.toList_ofList]
  simp [h]

theorem parseUnsigned_ne_none (unsigned : List Char) :
    parseUnsigned (String.ofList unsigned) ≠ none := by
  rcases parts_or_more unsigned with ⟨w, f, hparts⟩ | hmore
  · rw [parseUnsigned_parts hparts]
    by_cases hnil : w = []
    · simp [hnil]
    · rw [if_neg hnil]
      by_cases hd : IsDigits w ∧ IsDigits f ∧ f.length ≤ 2
      · rw [parseParts_digits (by decide) (by decide) hd.1 hd.2.1 hd.2.2
          (fun n => parseInt_digits (by decide) (by decide) hnil hd.1), Option.bind_some]
        split <;> exact Option.some_ne_none _
      · obtain ⟨e, hrefused⟩ := parseParts_refused hd
        rw [hrefused, Option.bind_some]
        exact Option.some_ne_none _
  · rw [parseUnsigned_more hmore]
    exact Option.some_ne_none _

/-- What is accepted after the sign. -/
theorem parseUnsigned_ok_iff :
    parseUnsigned (String.ofList unsigned) = some (.ok r) ↔
      ∃ w f, IsUnsigned 2 unsigned w f ∧ w ≠ [] ∧ (hundredths w f : Int) ≤ u32Max ∧
        r.basisPoints.toNat = hundredths w f := by
  rcases parts_or_more unsigned with ⟨w, f, hparts⟩ | hmore
  · rw [hparts.exists_isUnsigned, parseUnsigned_parts hparts]
    by_cases hnil : w = []
    · simp [hnil]
    · rw [if_neg hnil]
      by_cases hd : IsDigits w ∧ IsDigits f ∧ f.length ≤ 2
      · rw [parseParts_digits (by decide) (by decide) hd.1 hd.2.1 hd.2.2
          (fun n => parseInt_digits (by decide) (by decide) hnil hd.1), Option.bind_some]
        by_cases hfits : (hundredths w f : Int) ≤ u32Max
        · have hlt : hundredths w f < 2 ^ 32 := by
            simp only [u32Max] at hfits
            omega
          simp only [hd, hnil, hfits, if_true, ne_eq, not_false_eq_true, and_self, true_and,
            Int.toNat_natCast, Option.some.injEq, Except.ok.injEq]
          constructor
          · intro hr
            rw [← hr, UInt32.toNat_ofNat', Nat.mod_eq_of_lt hlt]
          · intro hr
            rw [← hr, UInt32.ofNat_toNat]
        · simp [hfits]
      · obtain ⟨e, hrefused⟩ := parseParts_refused hd
        rw [hrefused]
        simp [hd]
  · rw [parseUnsigned_more hmore]
    simp [not_isUnsigned_of_more hmore]

/-! ### The sign -/

/-- How the parser takes the sign off a text that is not empty. -/
theorem fromStr_cons {input : String} {c : Char} {rest : List Char}
    (h : (Text.trim input).toList = c :: rest) :
    fromStr input =
      if c = '-' then some (.error .negative)
      else if c = '+' then parseUnsigned (String.ofList rest)
      else parseUnsigned (String.ofList (c :: rest)) := by
  have htrim : Text.trim input = String.ofList (c :: rest) := by
    rw [← h, String.ofList_toList]
  have hplus : "+".toList = ['+'] := rfl
  unfold fromStr Text.stripPrefix
  simp only [htrim, ofList_eq_empty, reduceCtorEq, if_false, String.toList_ofList, hplus,
    List.head?_cons, Option.some.injEq]
  by_cases hm : c = '-'
  · rw [if_pos hm, if_pos hm]
  · rw [if_neg hm, if_neg hm]
    by_cases hp : c = '+'
    · simp [hp]
    · simp [hp, Ne.symm hp]

theorem fromStr_empty {input : String} (h : (Text.trim input).toList = []) :
    fromStr input = some (.error .empty) := by
  have htrim : Text.trim input = "" := String.toList_inj.mp h
  simp [fromStr, htrim]

theorem fromStr_ne_none (input : String) : fromStr input ≠ none := by
  cases htext : (Text.trim input).toList with
  | nil => simp [fromStr_empty htext]
  | cons c rest =>
    rw [fromStr_cons htext]
    split
    · exact Option.some_ne_none _
    · split <;> exact parseUnsigned_ne_none _

/-- The rate parser accepts a numeral without a minus sign that has a digit
before the point and whose hundredths fit. -/
theorem fromStr_ok_iff {input : String} :
    fromStr input = some (.ok r) ↔
      ∃ w f, IsSigned 2 (Text.trim input).toList false w f ∧ w ≠ [] ∧
        (hundredths w f : Int) ≤ u32Max ∧ r.basisPoints.toNat = hundredths w f := by
  cases htext : (Text.trim input).toList with
  | nil =>
    rw [fromStr_empty htext]
    simp only [Option.some.injEq, reduceCtorEq, false_iff, not_exists, not_and]
    intro w f hs hne
    exact absurd hs (not_isSigned_nil (by simp [hne]))
  | cons c rest =>
    rw [fromStr_cons htext]
    by_cases hm : c = '-'
    · rw [if_pos hm, hm]
      simp [isSigned_minus]
    · rw [if_neg hm]
      by_cases hp : c = '+'
      · rw [if_pos hp, hp, parseUnsigned_ok_iff]
        simp [isSigned_plus]
      · have hother : ∀ w f, IsSigned 2 (c :: rest) false w f ↔ IsUnsigned 2 (c :: rest) w f := by
          intro w f
          rw [isSigned_other (fun _ h => hm (List.cons.inj h).1) fun _ h => hp (List.cons.inj h).1]
          simp
        rw [if_neg hp, parseUnsigned_ok_iff]
        simp only [hother]

/-- The two parsers agree on what both accept, and the rate parser reads
what is printed, up to the percent sign. -/
theorem fromStr_agrees :
    (∀ (input : String) (r : InterestRate), fromStr input = some (.ok r) ↔
      ∃ m : Money, Money.fromStr input = some (.ok m) ∧ m.cents = r.basisPoints.toNat ∧
        (Text.trim input).toList.head? ≠ some '-' ∧
        (∃ c ∈ (Text.trim input).toList.takeWhile (· ≠ '.'), c.isDigit = true) ∧
        m.cents ≤ u32Max) ∧
    ∀ r : InterestRate, ∃ shown, r.display = shown ++ "%" ∧ fromStr shown = some (.ok r) := by
  constructor
  · intro input r
    rw [fromStr_ok_iff]
    constructor
    · intro h
      obtain ⟨w, f, hs, hne, hle, hr⟩ := h
      have hmax : u32Max ≤ i64Max := by decide
      let m : Money := ⟨hundredths w f, by simp only [i64Min]; omega, by omega⟩
      have hparsed : Money.fromStr input = some (.ok m) :=
        Money.fromStr_ok_iff.mpr ⟨false, w, f, hs, by simp [hne], by omega, rfl⟩
      refine ⟨m, hparsed, by rw [hr], fun hhead => ?_, hs.digit_iff.mpr hne, hle⟩
      obtain ⟨rest, hrest⟩ := List.head?_eq_some_iff.mp hhead
      rw [hrest, isSigned_minus] at hs
      cases hs.1
    · intro h
      obtain ⟨m, hparsed, hcents, hhead, hdigit, hle⟩ := h
      obtain ⟨negative, w, f, hs, -, -, hm⟩ := Money.fromStr_ok_iff.mp hparsed
      have hpositive : negative = false := by
        obtain ⟨u, -, ⟨-, htext⟩ | ⟨hfalse, -⟩⟩ := hs
        · rw [htext] at hhead
          exact absurd rfl hhead
        · exact hfalse
      subst hpositive
      simp only [Bool.false_eq_true, if_false] at hm
      exact ⟨w, f, hs, hs.digit_iff.mp hdigit, by omega, by omega⟩
  · intro r
    have hunsigned := isUnsigned_printed r.basisPoints.toNat
    let shown :=
      toString (r.basisPoints.toNat / 100) ++ "." ++ twoDigits (r.basisPoints.toNat % 100)
    have htext : shown.toList = (r.basisPoints.toNat / 100).repr.toList ++
        '.' :: (twoDigits (r.basisPoints.toNat % 100)).toList := by
      simp [shown]
    have hsigned : IsSigned 2 shown.toList false (r.basisPoints.toNat / 100).repr.toList
        (twoDigits (r.basisPoints.toNat % 100)).toList :=
      ⟨_, hunsigned, .inr ⟨rfl, .inl htext⟩⟩
    have hne : shown.toList ≠ [] := by simp [htext]
    have htrim : (Text.trim shown).toList = shown.toList := by
      have hpadded : (Text.trim ("" ++ shown ++ "")).toList = shown.toList :=
        trim_padded (by simp) (by simp) hsigned hne
      simpa using hpadded
    refine ⟨shown, rfl, fromStr_ok_iff.mpr ⟨_, _, by rw [htrim]; exact hsigned, repr_ne_nil _, ?_,
      (hundredths_printed _).symm⟩⟩
    have hlt := r.basisPoints.toNat_lt
    rw [hundredths_printed]
    simp only [u32Max]
    omega

end InterestRate

end Banck
