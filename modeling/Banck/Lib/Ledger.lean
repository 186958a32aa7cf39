/-
Banck.Lib.Ledger — books of account, over any type of entries.

A book is nothing but histories: each account is the list of the entries
made in it, and what it is worth is the sum of their effects in some
additive group. An account is started with a first entry, appended to, and
finished when it is worth nothing. `total_step` is the accounting equation
for one posting and `total_path` for any number of them: the books' total
moves by the sum of what was posted.
-/
import Banck.Lib.Machine
import Banck.Lib.OrdMap

namespace Banck.Lib.Ledger

open Machine

variable {κ π M : Type} [Ord κ] [Std.TransOrd κ] [AddCommMonoid M]

/-- The entries made in each account, oldest first. -/
abbrev Book (κ π : Type) [Ord κ] : Type := OrdMap κ (List π)

inductive Posting (κ π : Type) where
  | start (key : κ) (entry : π)
  | append (key : κ) (entry : π)
  | finish (key : κ)

/-- What a history adds up to. -/
def worth (effect : π → M) (history : List π) : M := (history.map effect).sum

/-- What all accounts add up to. -/
def total (effect : π → M) (book : Book κ π) : M := OrdMap.sumOver (worth effect) book

/-- What a posting adds. -/
def Posting.flow (effect : π → M) : Posting κ π → M
  | start _ entry | append _ entry => effect entry
  | finish _ => 0

/-- The rules of the book: only a new account is started, only an existing
one appended to, and only one that is worth nothing finished. -/
inductive Step (effect : π → M) : Book κ π → Posting κ π → Book κ π → Prop
  | start {book : Book κ π} {key : κ} {entry : π} (fresh : book[key]? = none) :
      Step effect book (.start key entry) (book.insert key [entry])
  | append {book : Book κ π} {key : κ} {history : List π} {entry : π}
      (found : book[key]? = some history) :
      Step effect book (.append key entry) (book.insert key (history ++ [entry]))
  | finish {book : Book κ π} {key : κ} {history : List π}
      (found : book[key]? = some history) (settled : worth effect history = 0) :
      Step effect book (.finish key) (book.erase key)

@[simp] theorem worth_nil (effect : π → M) : worth effect [] = 0 := rfl

@[simp] theorem worth_append (effect : π → M) (history : List π) (entry : π) :
    worth effect (history ++ [entry]) = worth effect history + effect entry := by
  simp [worth]

variable [Std.LawfulEqOrd κ]

/-- One posting moves the total by what it posts. -/
theorem total_step {G : Type} [AddCommGroup G] {effect : π → G} {book book' : Book κ π}
    {posting : Posting κ π} (h : Step effect book posting book') :
    total effect book' = total effect book + posting.flow effect := by
  cases h with
  | start fresh =>
    rw [total, OrdMap.sumOver_insert_fresh _ _ _ fresh]
    simp only [worth, List.map_cons, List.map_nil, List.sum_cons, List.sum_nil, add_zero,
      Posting.flow, total]
    exact add_comm _ _
  | @append key history entry found =>
    have h := OrdMap.sumOver_insert_found (worth effect) book (history ++ [entry]) found
    rw [worth_append, add_assoc] at h
    rw [total, add_left_cancel h, add_comm]
    rfl
  | finish found settled =>
    have h := OrdMap.sumOver_erase (worth effect) book found
    rw [settled, zero_add] at h
    rw [total, total, h, Posting.flow, add_zero]

/-- Any number of postings move the total by the sum of what they post. -/
theorem total_path {G : Type} [AddCommGroup G] {effect : π → G} {book book' : Book κ π}
    {postings : List (Posting κ π)} (h : Path (Step effect) book postings book') :
    total effect book' = total effect book + (postings.map (Posting.flow effect)).sum :=
  Path.measure (I := fun _ => True) (fun _ _ _ _ h => h) (fun _ _ _ h _ => total_step h) h
    trivial

end Banck.Lib.Ledger
