/-
Banck.Api.ThrottleKeys — which spellings of a username the throttle counts
as one.

A username is looked up in the lowercase form of its spelling; the throttle
counts under the form in which only A to Z are lowercased. On a spelling
that is a username at all the two differ in the Kelvin sign alone, which is
lowercased to a k and is no ASCII letter.
-/
import Banck.Api.Throttle
import Banck.Identity

namespace Banck.Api

open Lib

/-- The letters of a spelling, a Kelvin sign read as a k. -/
def letters (username : String) : List Char :=
  (Text.trim username).toList.map Unicode.asciiForm

/-- Where the spelling has Kelvin signs. -/
def kelvinSigns (username : String) : List Bool :=
  (Text.trim username).toList.map (· == Unicode.kelvinSign)

theorem isUsernameChar_ascii {c : Char} (h : isUsernameChar c = true) : c.toNat < 128 := by
  unfold isUsernameChar at h
  simp only [Bool.or_eq_true, beq_iff_eq] at h
  rcases h with (h | rfl) | rfl
  · simp only [Char.isAlphanum, Char.isAlpha, Char.isUpper, Char.isLower, Char.isDigit,
      Bool.or_eq_true, Bool.and_eq_true, decide_eq_true_eq, ge_iff_le,
      UInt32.le_iff_toNat_le] at h
    have : c.toNat = c.val.toNat := rfl
    simp at h
    omega
  · decide
  · decide

/-- The username that a spelling stands for has the letters of the
spelling. -/
theorem letters_of_username {spelling username : String}
    (h : normalizeUsername spelling = .ok username) : username.toList = letters spelling := by
  unfold normalizeUsername at h
  simp only at h
  split at h
  · cases h
  · next hvalid =>
    obtain rfl := Except.ok.inj h
    rw [not_or, not_not, List.all_eq_true] at hvalid
    rw [Text.toLowercase, String.toList_ofList] at hvalid ⊢
    exact Text.lowerChars_eq_map [] fun d hd => isUsernameChar_ascii (hvalid.2 d hd)

theorem username_eq_iff {a b first second : String} (ha : normalizeUsername a = .ok first)
    (hb : normalizeUsername b = .ok second) : first = second ↔ letters a = letters b := by
  rw [← letters_of_username ha, ← letters_of_username hb, String.toList_inj]

theorem throttleKey_eq_iff (a b : String) :
    throttleKey a = throttleKey b ↔ letters a = letters b ∧ kelvinSigns a = kelvinSigns b := by
  unfold throttleKey Text.toAsciiLowercase
  rw [String.ofList_inj]
  exact Text.map_toLower_eq_iff

/-- Two users never share a key. The spellings of one user share theirs
exactly if, written in the same letters, they have their Kelvin signs at
the same places. -/
theorem throttle_keys_match_usernames_iff (a b first second : String)
    (ha : normalizeUsername a = .ok first) (hb : normalizeUsername b = .ok second) :
    (throttleKey a = throttleKey b → first = second) ∧
    ((throttleKey a = throttleKey b ↔ first = second) ↔
      (letters a = letters b → kelvinSigns a = kelvinSigns b)) := by
  rw [throttleKey_eq_iff, username_eq_iff ha hb]
  refine ⟨And.left, fun h hsame => (h.mpr hsame).2, fun h => ⟨And.left, fun hsame => ?_⟩⟩
  exact ⟨hsame, h hsame⟩

theorem throttle_keys_match_usernames_iff_spaces :
    (throttleKey " Kim" = throttleKey "kIM " ↔ "kim" = "kim") ↔
      (letters " Kim" = letters "kIM " → kelvinSigns " Kim" = kelvinSigns "kIM ") :=
  (throttle_keys_match_usernames_iff " Kim" "kIM " "kim" "kim" (by decide +kernel)
    (by decide +kernel)).2

/-- One user under two keys: "Kim" with a Kelvin sign, and "kim". -/
theorem kelvin_sign_splits_throttle_keys :
    normalizeUsername "\u212Aim" = .ok "kim" ∧ normalizeUsername "kim" = .ok "kim" ∧
      throttleKey "\u212Aim" ≠ throttleKey "kim" := by
  decide +kernel

end Banck.Api
