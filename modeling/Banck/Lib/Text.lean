/-
Banck.Lib.Text — the string operations of the modelled program's standard
library: `trim`, `to_lowercase`, `to_ascii_lowercase` and the byte length.

`trim` removes the leading and trailing characters with the Unicode
property White_Space. `toLowercase` maps each character to its lowercase
form, except that a capital sigma becomes a final sigma at the end of a
word, which is decided by the nearest characters on both sides that are
not Case_Ignorable.

The law everything else uses is `clean_clean`: lowercasing a trimmed string
gives a string on which neither operation has anything left to do.
-/
import Banck.Lib.Unicode

namespace Banck.Lib.Text

open Unicode

/-! ## Operations -/

/-- Drop the white space on both ends. -/
def trimChars (cs : List Char) : List Char :=
  ((cs.dropWhile isWhitespace).reverse.dropWhile isWhitespace).reverse

def trim (s : String) : String := String.ofList (trimChars s.toList)

/-- The nearest character that is not Case_Ignorable is Cased. -/
def caseIgnorableThenCased (cs : List Char) : Bool :=
  match cs.dropWhile isCaseIgnorable with
  | [] => false
  | c :: _ => isCased c

/-- The lowercase form of `c` between `before` (nearest first) and
`rest`. -/
def lowerAt (before : List Char) (c : Char) (rest : List Char) : List Char :=
  if c = 'Σ' then
    if caseIgnorableThenCased before && !caseIgnorableThenCased rest then ['ς'] else ['σ']
  else toLower c

def lowerChars (before : List Char) : List Char → List Char
  | [] => []
  | c :: rest => lowerAt before c rest ++ lowerChars (c :: before) rest

def toLowercase (s : String) : String := String.ofList (lowerChars [] s.toList)

/-- Lowercase the letters A to Z only. -/
def toAsciiLowercase (s : String) : String :=
  String.ofList (s.toList.map fun c => c.toLower)

/-- What follows a prefix, if the string starts with it. -/
def stripPrefix (start s : String) : Option String :=
  if start.toList.isPrefixOf s.toList then
    some (String.ofList (s.toList.drop start.toList.length))
  else
    none

/-- The bytes of the string in UTF-8. -/
def asBytes (s : String) : List UInt8 := s.toList.flatMap String.utf8EncodeChar

/-- The characters from byte `n` on. A slice that starts inside a character
or behind the end is a panic, which is `none`. -/
def sliceFromChars : List Char → Nat → Option (List Char)
  | cs, 0 => some cs
  | [], _ + 1 => none
  | c :: rest, n + 1 =>
      if c.utf8Size ≤ n + 1 then sliceFromChars rest (n + 1 - c.utf8Size) else none

def sliceFrom (s : String) (n : Nat) : Option String :=
  (sliceFromChars s.toList n).map String.ofList

/-- `split` at a character: one piece more than there are separators. -/
def split (sep : Char) (s : String) : List String :=
  (s.toList.splitOn sep).map String.ofList

/-! ## Trimming -/

/-- Neither end is white space. -/
def Trimmed (cs : List Char) : Prop :=
  (∀ c ∈ cs.head?, isWhitespace c = false) ∧
  (∀ c ∈ cs.getLast?, isWhitespace c = false)

theorem dropWhile_head (cs : List Char) :
    ∀ c ∈ (cs.dropWhile isWhitespace).head?, isWhitespace c = false := by
  intro c hc
  have := List.head?_dropWhile_not isWhitespace cs
  rw [Option.mem_def.mp hc] at this
  simpa using this

theorem dropWhile_of_head {cs : List Char}
    (h : ∀ c ∈ cs.head?, isWhitespace c = false) : cs.dropWhile isWhitespace = cs := by
  cases cs with
  | nil => rfl
  | cons c rest => rw [List.dropWhile_cons, h c (by simp)]; simp

theorem trimmed_trimChars (cs : List Char) : Trimmed (trimChars cs) := by
  unfold trimChars
  generalize hmid : cs.dropWhile isWhitespace = mid
  constructor
  · -- the first character survives the second pass unless nothing does
    intro c hc
    rw [List.head?_reverse] at hc
    have hlast : mid.reverse.getLast? = some c := by
      rw [← List.takeWhile_append_dropWhile (p := isWhitespace) (l := mid.reverse),
          List.getLast?_append, Option.mem_def.mp hc]
      rfl
    rw [List.getLast?_reverse] at hlast
    exact dropWhile_head cs c (hmid ▸ hlast)
  · intro c hc
    rw [List.getLast?_reverse] at hc
    exact dropWhile_head _ c hc

theorem trimChars_of_trimmed {cs : List Char} (h : Trimmed cs) : trimChars cs = cs := by
  rw [trimChars, dropWhile_of_head h.1, dropWhile_of_head (by simpa using h.2),
      List.reverse_reverse]

theorem dropWhile_whitespace {ws : List Char} (h : ∀ c ∈ ws, isWhitespace c = true)
    (cs : List Char) : (ws ++ cs).dropWhile isWhitespace = cs.dropWhile isWhitespace := by
  induction ws with
  | nil => rfl
  | cons c rest ih =>
    rw [List.cons_append, List.dropWhile_cons_of_pos (h c (by simp))]
    exact ih fun d hd => h d (by simp [hd])

/-- White space around a trimmed text is what trimming removes. -/
theorem trimChars_padded {before cs after : List Char}
    (hb : ∀ c ∈ before, isWhitespace c = true) (ha : ∀ c ∈ after, isWhitespace c = true)
    (h : Trimmed cs) (hne : cs ≠ []) : trimChars (before ++ cs ++ after) = cs := by
  have hhead : ∀ c ∈ (cs ++ after).head?, isWhitespace c = false := by
    intro c hc
    rw [List.head?_append_of_ne_nil _ hne] at hc
    exact h.1 c hc
  have hfirst : (before ++ cs ++ after).dropWhile isWhitespace = cs ++ after := by
    rw [List.append_assoc, dropWhile_whitespace hb, dropWhile_of_head hhead]
  rw [trimChars, hfirst, List.reverse_append,
    dropWhile_whitespace fun c hc => ha c (List.mem_reverse.mp hc),
    dropWhile_of_head (by simpa using h.2), List.reverse_reverse]

/-! ## Bytes -/

/-- A character outside ASCII starts with a byte outside ASCII. -/
theorem utf8EncodeChar_head (c : Char) :
    (c.toNat ≤ 127 ∧ String.utf8EncodeChar c = [UInt8.ofNat c.toNat]) ∨
      ∃ (b : UInt8) (rest : List UInt8), String.utf8EncodeChar c = b :: rest ∧ 192 ≤ b.toNat ∧
        127 < c.toNat := by
  have hmod32 := Nat.mod_lt (c.val.toNat / 64) (by decide : 0 < 32)
  have hmod16 := Nat.mod_lt (c.val.toNat / 4096) (by decide : 0 < 16)
  have hmod8 := Nat.mod_lt (c.val.toNat / 262144) (by decide : 0 < 8)
  unfold String.utf8EncodeChar
  show (c.val.toNat ≤ 127 ∧ _) ∨ _
  dsimp only
  split
  · rename_i hascii
    exact .inl ⟨hascii, rfl⟩
  · rename_i hlarge
    right
    split
    · refine ⟨_, _, rfl, ?_, by show 127 < c.val.toNat; omega⟩
      rw [UInt8.toNat_ofNat']; omega
    · split
      · refine ⟨_, _, rfl, ?_, by show 127 < c.val.toNat; omega⟩
        rw [UInt8.toNat_ofNat']; omega
      · refine ⟨_, _, rfl, ?_, by show 127 < c.val.toNat; omega⟩
        rw [UInt8.toNat_ofNat']; omega

/-- The first byte is that of an ASCII character exactly if the first
character is that character. -/
theorem asBytes_first (c : Char) (rest : List Char) :
    ∃ b, (asBytes (String.ofList (c :: rest)))[0]? = some b ∧
      ∀ d : Char, d.toNat ≤ 127 → (b = UInt8.ofNat d.toNat ↔ c = d) := by
  have hofNat : ∀ n : Nat, n ≤ 127 → (UInt8.ofNat n).toNat = n := by
    intro n hn
    rw [UInt8.toNat_ofNat']
    omega
  rcases utf8EncodeChar_head c with ⟨hc, hbytes⟩ | ⟨b, others, hbytes, hb, hc⟩
  · refine ⟨UInt8.ofNat c.toNat, by simp [asBytes, hbytes], fun d hd => ⟨fun hsame => ?_, ?_⟩⟩
    · have hnat := congrArg UInt8.toNat hsame
      rw [hofNat _ hc, hofNat _ hd] at hnat
      exact Char.toNat_inj.mp hnat
    · intro hsame
      rw [hsame]
  · refine ⟨b, by simp [asBytes, hbytes], fun d hd => ⟨fun hsame => ?_, fun hsame => ?_⟩⟩
    · rw [hsame, hofNat _ hd] at hb
      omega
    · rw [hsame] at hc
      omega

/-- Behind an ASCII character the string may be cut. -/
theorem sliceFrom_one {c : Char} (hc : c.toNat ≤ 127) (rest : List Char) :
    sliceFrom (String.ofList (c :: rest)) 1 = some (String.ofList rest) := by
  have hsize : c.utf8Size = 1 := Char.utf8Size_eq_one_iff.mpr (UInt32.le_iff_toNat_le.mpr hc)
  simp [sliceFrom, sliceFromChars, hsize]

/-! ## Lowercasing -/

/-- The two lowercase sigmas, and the capital one. -/
theorem sigma_runs : runOf 'σ'.toNat = none ∧ runOf 'ς'.toNat = none ∧
    runOf 'Σ'.toNat = some ⟨0x03A3, 0x03AB, 1, 0x03C3⟩ := by
  decide +kernel

/-- Every character of a lowercase form is left alone by lowercasing, in
any context, and white space only if it is the original. -/
theorem mem_lowerAt {before rest : List Char} {c d : Char}
    (h : d ∈ lowerAt before c rest) :
    (∀ before' rest', lowerAt before' d rest' = [d]) ∧ (isWhitespace d = true → c = d) := by
  have hfix : toLower d = [d] ∧ (isWhitespace d = true → c = d) := by
    unfold lowerAt at h
    split at h
    · -- a capital sigma becomes one of two letters that are already lowercase
      have hd : d = 'ς' ∨ d = 'σ' := by
        split at h
        · exact Or.inl (List.mem_singleton.mp h)
        · exact Or.inr (List.mem_singleton.mp h)
      rcases hd with rfl | rfl
      · refine ⟨?_, fun hs => absurd hs (by decide)⟩
        rw [toLower, if_neg (by decide), if_neg (by decide), sigma_runs.2.1]
      · refine ⟨?_, fun hs => absurd hs (by decide)⟩
        rw [toLower, if_neg (by decide), if_neg (by decide), sigma_runs.1]
    · exact mem_toLower h
  refine ⟨fun before' rest' => ?_, hfix.2⟩
  have hd : d ≠ 'Σ' := by
    rintro rfl
    have hsig := hfix.1
    rw [toLower, if_neg (by decide), if_neg (by decide), sigma_runs.2.2] at hsig
    exact absurd hsig (by decide)
  rw [lowerAt, if_neg hd, hfix.1]

theorem lowerAt_ne_nil (before : List Char) (c : Char) (rest : List Char) :
    lowerAt before c rest ≠ [] := by
  unfold lowerAt
  split
  · split <;> simp
  · exact toLower_ne_nil c

theorem lowerChars_eq_nil_iff {before cs : List Char} :
    lowerChars before cs = [] ↔ cs = [] := by
  cases cs with
  | nil => simp [lowerChars]
  | cons c rest => simp [lowerChars, lowerAt_ne_nil]

/-- Characters that lowercasing leaves alone, in any context. -/
theorem lowerChars_of_fixed : ∀ {cs : List Char},
    (∀ d ∈ cs, ∀ before rest, lowerAt before d rest = [d]) →
    ∀ before, lowerChars before cs = cs
  | [], _, _ => rfl
  | c :: rest, h, before => by
      rw [lowerChars, h c (by simp),
          lowerChars_of_fixed (fun d hd => h d (by simp [hd])) (c :: before)]
      rfl

theorem mem_lowerChars : ∀ {cs before : List Char} {d : Char},
    d ∈ lowerChars before cs → ∃ b c r, c ∈ cs ∧ d ∈ lowerAt b c r
  | [], _, _, h => by simp [lowerChars] at h
  | c :: rest, before, d, h => by
      rcases List.mem_append.mp h with h | h
      · exact ⟨before, c, rest, by simp, h⟩
      · obtain ⟨b, c', r, hc', hd⟩ := mem_lowerChars h
        exact ⟨b, c', r, by simp [hc'], hd⟩

theorem lowerChars_idem (cs before before' : List Char) :
    lowerChars before' (lowerChars before cs) = lowerChars before cs := by
  refine lowerChars_of_fixed (fun d hd => ?_) before'
  obtain ⟨b, c, r, _, hmem⟩ := mem_lowerChars hd
  exact (mem_lowerAt hmem).1

/-- The last character of a lowercase string comes from the last character
of the original. -/
theorem lowerChars_getLast : ∀ {cs before : List Char} {d : Char},
    d ∈ (lowerChars before cs).getLast? →
    ∃ c ∈ cs.getLast?, ∃ b r, d ∈ lowerAt b c r
  | [], _, _, h => by simp [lowerChars] at h
  | [c], before, d, h => by
      simp only [lowerChars, List.append_nil] at h
      exact ⟨c, by simp, before, [], List.mem_of_getLast? h⟩
  | c :: c' :: rest, before, d, h => by
      rw [lowerChars, List.getLast?_append] at h
      have htail : d ∈ (lowerChars (c :: before) (c' :: rest)).getLast? := by
        cases hl : (lowerChars (c :: before) (c' :: rest)).getLast? with
        | none =>
          rw [List.getLast?_eq_none_iff, lowerChars_eq_nil_iff] at hl
          cases hl
        | some e => rw [hl] at h; simpa using h
      obtain ⟨x, hx, b, r, hd⟩ := lowerChars_getLast htail
      exact ⟨x, by simpa using hx, b, r, hd⟩

/-- Lowercasing brings in no white space at either end. -/
theorem trimmed_lowerChars {cs before : List Char} (h : Trimmed cs) :
    Trimmed (lowerChars before cs) := by
  constructor
  · intro d hd
    cases cs with
    | nil => simp [lowerChars] at hd
    | cons c rest =>
      have hmem : d ∈ lowerAt before c rest := by
        rw [lowerChars, List.head?_append] at hd
        cases hl : (lowerAt before c rest).head? with
        | none => exact absurd (List.head?_eq_none_iff.mp hl) (lowerAt_ne_nil _ _ _)
        | some e =>
          rw [hl] at hd
          obtain rfl : e = d := by simpa using hd
          exact List.mem_of_head? hl
      have hc := h.1 c (by simp)
      exact Bool.eq_false_iff.mpr fun hs => by
        rw [(mem_lowerAt hmem).2 hs, hs] at hc; cases hc
  · intro d hd
    obtain ⟨c, hc, b, r, hmem⟩ := lowerChars_getLast hd
    have hcs := h.2 c hc
    exact Bool.eq_false_iff.mpr fun hs => by
      rw [(mem_lowerAt hmem).2 hs, hs] at hcs; cases hcs

/-- Lowercasing neither brings in a line feed nor takes one away. -/
theorem newline_mem_lowerChars : ∀ {cs before : List Char},
    '\n' ∈ lowerChars before cs ↔ '\n' ∈ cs
  | [], _ => Iff.rfl
  | c :: rest, before => by
      have hhere : '\n' ∈ lowerAt before c rest ↔ '\n' = c := by
        constructor
        · intro hmem
          exact ((mem_lowerAt hmem).2 (by decide)).symm
        · rintro rfl
          exact List.mem_singleton_self _
      rw [lowerChars, List.mem_append, List.mem_cons, hhere, newline_mem_lowerChars]

/-- A lowercase form in ASCII is taken character by character. -/
theorem lowerChars_eq_map : ∀ {cs : List Char} (before : List Char),
    (∀ d ∈ lowerChars before cs, d.toNat < 128) → lowerChars before cs = cs.map asciiForm
  | [], _, _ => rfl
  | c :: rest, before, h => by
      have hhere : lowerAt before c rest = [asciiForm c] := by
        have hascii : ∀ d ∈ lowerAt before c rest, d.toNat < 128 := fun d hd =>
          h d (List.mem_append_left _ hd)
        unfold lowerAt at hascii ⊢
        by_cases hsigma : c = 'Σ'
        · -- both lowercase sigmas lie outside ASCII
          rw [if_pos hsigma] at hascii
          split at hascii
          · exact absurd (hascii 'ς' (by simp)) (by decide)
          · exact absurd (hascii 'σ' (by simp)) (by decide)
        · rw [if_neg hsigma] at hascii ⊢
          exact toLower_eq_asciiForm hascii
      rw [lowerChars, hhere, List.map_cons,
        lowerChars_eq_map (c :: before) fun d hd => h d (List.mem_append_right _ hd)]
      rfl

/-- Two strings agree up to ASCII case exactly when their forms do and
their Kelvin signs are at the same places. -/
theorem map_toLower_eq_iff : ∀ {cs ds : List Char},
    cs.map Char.toLower = ds.map Char.toLower ↔
      cs.map asciiForm = ds.map asciiForm ∧
        cs.map (· == kelvinSign) = ds.map (· == kelvinSign)
  | [], [] => by simp
  | [], _ :: _ => by simp
  | _ :: _, [] => by simp
  | c :: cs, d :: ds => by
      simp only [List.map_cons, List.cons.injEq]
      rw [toLower_eq_iff, map_toLower_eq_iff, and_and_and_comm]

/-! ## Strings -/

theorem trim_trim (s : String) : trim (trim s) = trim s := by
  unfold trim
  rw [String.toList_ofList, trimChars_of_trimmed (trimmed_trimChars s.toList)]

theorem newline_mem_toLowercase (s : String) :
    '\n' ∈ (toLowercase s).toList ↔ '\n' ∈ s.toList := by
  unfold toLowercase
  rw [String.toList_ofList, newline_mem_lowerChars]

theorem toLowercase_toLowercase (s : String) :
    toLowercase (toLowercase s) = toLowercase s := by
  unfold toLowercase
  rw [String.toList_ofList, lowerChars_idem]

/-- A trimmed and lowercased string is trimmed. -/
theorem trim_toLowercase_trim (s : String) :
    trim (toLowercase (trim s)) = toLowercase (trim s) := by
  unfold trim toLowercase
  rw [String.toList_ofList, String.toList_ofList,
      trimChars_of_trimmed (trimmed_lowerChars (trimmed_trimChars s.toList))]

/-- Trimming and lowercasing once is enough. -/
theorem clean_clean (s : String) :
    toLowercase (trim (toLowercase (trim s))) = toLowercase (trim s) := by
  rw [trim_toLowercase_trim, toLowercase_toLowercase]

end Banck.Lib.Text
