/-
Banck.Lib.Dialogue — conversations with somebody who types lines.

A `Dialogue` is over, or asks a question. An answer that is not one is
complained about and the question is asked again, as often as it takes, so
a dialogue of finitely many questions may take any number of lines
(`hear`). What is said of its results is said once, for the tree:
`Always L P` (lines of `L` lead to results that meet `P`), `Takes` (these
answers are accepted and lead there) and `Answerable L n` (`n` lines of `L`
are enough to bring it to an end).
-/
import Mathlib

namespace Banck.Lib

inductive Dialogue (ρ : Type) where
  | done (result : ρ)
  | ask (prompt : String) (answer : String → Except String (Dialogue ρ))

namespace Dialogue

variable {ρ β : Type}

/-- Ask until the answer can be read, then go on with what was read. -/
def askFor (prompt : String) (read : String → Except String β) (next : β → Dialogue ρ) :
    Dialogue ρ :=
  ask prompt fun line => (read line).map next

/-- What is said of a line, and what is left of the dialogue. -/
def hear : Dialogue ρ → String → List String × Dialogue ρ
  | done result, _ => ([], done result)
  | ask prompt answer, line =>
      match answer line with
      | .ok rest => ([], rest)
      | .error complaint => ([complaint], ask prompt answer)

section Hear

variable {prompt line : String} {answer : String → Except String (Dialogue ρ)}

theorem hear_ok {rest : Dialogue ρ} (h : answer line = .ok rest) :
    (ask prompt answer).hear line = ([], rest) := by
  simp only [hear, h]

theorem hear_error {complaint : String} (h : answer line = .error complaint) :
    (ask prompt answer).hear line = ([complaint], ask prompt answer) := by
  simp only [hear, h]

end Hear

theorem askFor_ok_iff {read : String → Except String β} {next : β → Dialogue ρ} {line : String}
    {rest : Dialogue ρ} :
    (read line).map next = .ok rest ↔ ∃ b, read line = .ok b ∧ next b = rest := by
  cases read line with
  | error e => simp [Except.map]
  | ok b => simp [Except.map]

/-! ## Every result -/

/-- Whatever lines of `L` are said, every result there can be meets `P`. -/
inductive Always (L : String → Prop) (P : ρ → Prop) : Dialogue ρ → Prop
  | done {result : ρ} (h : P result) : Always L P (done result)
  | ask {prompt : String} {answer : String → Except String (Dialogue ρ)}
      (h : ∀ line rest, L line → answer line = .ok rest → Always L P rest) :
      Always L P (ask prompt answer)

section Always

variable {L : String → Prop} {P : ρ → Prop}

theorem Always.askFor {prompt : String} {read : String → Except String β}
    {next : β → Dialogue ρ} (h : ∀ line b, L line → read line = .ok b → Always L P (next b)) :
    Always L P (askFor prompt read next) := by
  refine .ask fun line rest hline haccepted => ?_
  obtain ⟨b, hread, rfl⟩ := askFor_ok_iff.mp haccepted
  exact h line b hline hread

theorem always_done {result : ρ} : Always L P (done result) ↔ P result :=
  ⟨fun h => by cases h; assumption, .done⟩

/-- What is left of a dialogue has no other results. -/
theorem Always.hear {d : Dialogue ρ} (h : Always L P d) {line : String} (hline : L line) :
    Always L P (d.hear line).2 := by
  cases h with
  | done hresult => exact .done hresult
  | @ask prompt answer hrest =>
    cases hanswer : answer line with
    | ok rest =>
      rw [hear_ok hanswer]
      exact hrest line rest hline hanswer
    | error complaint =>
      rw [hear_error hanswer]
      exact .ask hrest

end Always

/-! ## Answers -/

/-- The lines are accepted one after the other, and this is left. -/
inductive Takes : Dialogue ρ → List String → Dialogue ρ → Prop
  | nil (d : Dialogue ρ) : Takes d [] d
  | cons {prompt line : String} {lines : List String}
      {answer : String → Except String (Dialogue ρ)} {rest last : Dialogue ρ}
      (accepted : answer line = .ok rest) (more : Takes rest lines last) :
      Takes (ask prompt answer) (line :: lines) last

theorem Takes.askFor {prompt line : String} {lines : List String}
    {read : String → Except String β} {next : β → Dialogue ρ} {b : β} {last : Dialogue ρ}
    (hread : read line = .ok b) (more : Takes (next b) lines last) :
    Takes (askFor prompt read next) (line :: lines) last :=
  .cons (askFor_ok_iff.mpr ⟨b, hread, rfl⟩) more

/-- Where lines of `L` lead, there are no other results. -/
theorem Always.takes {L : String → Prop} {P : ρ → Prop} {d last : Dialogue ρ}
    {lines : List String} (htakes : Takes d lines last) (h : Always L P d)
    (hlines : ∀ line ∈ lines, L line) : Always L P last := by
  induction htakes with
  | nil => exact h
  | @cons prompt line lines answer rest last accepted _ ih =>
    obtain ⟨hline, hmore⟩ := List.forall_mem_cons.mp hlines
    cases h with
    | ask hrest => exact ih (hrest line rest hline accepted) hmore

/-- There are at most so many questions, and each can be answered by a line
of `L`. -/
inductive Answerable (L : String → Prop) : Nat → Dialogue ρ → Prop
  | done (n : Nat) (result : ρ) : Answerable L n (done result)
  | ask {n : Nat} {prompt : String} {answer : String → Except String (Dialogue ρ)}
      (some : ∃ line rest, L line ∧ answer line = .ok rest)
      (all : ∀ line rest, answer line = .ok rest → Answerable L n rest) :
      Answerable L (n + 1) (ask prompt answer)

section Answerable

variable {L : String → Prop}

theorem Answerable.askFor {n : Nat} {prompt : String} {read : String → Except String β}
    {next : β → Dialogue ρ} (hsome : ∃ line b, L line ∧ read line = .ok b)
    (h : ∀ b, Answerable L n (next b)) : Answerable L (n + 1) (askFor prompt read next) := by
  refine .ask ?_ fun line rest haccepted => ?_
  · obtain ⟨line, b, hline, hread⟩ := hsome
    exact ⟨line, next b, hline, askFor_ok_iff.mpr ⟨b, hread, rfl⟩⟩
  · obtain ⟨b, -, rfl⟩ := askFor_ok_iff.mp haccepted
    exact h b

theorem Answerable.mono {n m : Nat} (hle : n ≤ m) {d : Dialogue ρ} (h : Answerable L n d) :
    Answerable L m d := by
  induction h generalizing m with
  | done => exact .done m _
  | ask hsome _ ih =>
    obtain ⟨k, rfl⟩ : ∃ k, m = k + 1 := ⟨m - 1, by omega⟩
    exact .ask hsome fun line rest haccepted => ih line rest haccepted (by omega)

theorem Answerable.hear {n : Nat} {d : Dialogue ρ} (h : Answerable L n d) (line : String) :
    Answerable L n (d.hear line).2 := by
  cases h with
  | done => exact .done n _
  | @ask _ prompt answer hsome hall =>
    cases hline : answer line with
    | ok rest =>
      rw [hear_ok hline]
      exact (hall line rest hline).mono (Nat.le_succ _)
    | error complaint =>
      rw [hear_error hline]
      exact .ask hsome hall

/-- It can be brought to an end with one line for each question. -/
theorem Answerable.takes {n : Nat} {d : Dialogue ρ} (h : Answerable L n d) :
    ∃ lines result, lines.length ≤ n ∧ (∀ line ∈ lines, L line) ∧
      Takes d lines (Dialogue.done result) := by
  induction h with
  | done n result => exact ⟨[], result, Nat.zero_le n, by simp, .nil _⟩
  | ask hsome _ ih =>
    obtain ⟨line, rest, hline, haccepted⟩ := hsome
    obtain ⟨lines, result, hlength, hlines, htakes⟩ := ih line rest haccepted
    exact ⟨line :: lines, result, Nat.succ_le_succ hlength,
      List.forall_mem_cons.mpr ⟨hline, hlines⟩, .cons haccepted htakes⟩

end Answerable

end Dialogue

end Banck.Lib
