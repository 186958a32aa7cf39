/-
Banck.Lib.Sql — tables with an integer primary key, and what a statement
on them answers.

A `Table` holds its rows by primary key and lists them in ascending order
of it, which is what a query ordered by the key returns. A statement is a
`Mut` over whatever holds the tables: it either does all it says or raises
an error and changes nothing. `onTable` is how a statement reaches a table
that may not have been created.
-/
import Banck.Lib.Mut
import Banck.Lib.OrdMap

namespace Banck.Lib

/-! ## Statements -/

inductive SqlError where
  | noSuchTable (table : String)
  | tableExists (table : String)
  | uniqueFailed (column : String)
  | foreignKeyFailed
  deriving DecidableEq, Repr

/-- Rows by integer primary key. -/
abbrev Table (ρ : Type) : Type := OrdMap Int ρ

namespace Table

variable {σ τ ρ ε α : Type}

/-- `CREATE TABLE`. -/
def create (name : String) (view : σ → Option τ) (put : τ → σ → σ) (empty : τ) :
    Mut σ SqlError Unit := fun s =>
  match view s with
  | some _ => (.error (.tableExists name), s)
  | none => (.ok (), put empty s)

/-- Run a statement on a table, if there is one. -/
def onTable (view : σ → Option τ) (put : τ → σ → σ) (missing : ε) (m : Mut τ ε α) :
    Mut σ ε α := fun s =>
  match view s with
  | some t => ((m t).1, put (m t).2 s)
  | none => (.error missing, s)

/-- A new row may not have the primary key of another. -/
def ensureFresh {σ : Type} (column : String) (table : Table ρ) (key : Int) :
    Mut σ SqlError Unit :=
  Mut.ensure (table.contains key = false) (.uniqueFailed column)

/-- A foreign key that is not null is the primary key of a row. -/
def ensureReferences {σ : Type} (table : Table ρ) (key : Option Int) : Mut σ SqlError Unit :=
  Mut.ensure (∀ k ∈ key, table.contains k = true) .foreignKeyFailed

/-! ## Runs -/

section Runs

variable {s : σ}

theorem create_run {name : String} {view : σ → Option τ} {put : τ → σ → σ} {empty : τ}
    (h : view s = none) : create name view put empty s = (.ok (), put empty s) := by
  rw [create, h]

theorem onTable_run {view : σ → Option τ} {put : τ → σ → σ} {missing : ε} {m : Mut τ ε α}
    {t : τ} (h : view s = some t) :
    onTable view put missing m s = ((m t).1, put (m t).2 s) := by
  rw [onTable, h]

theorem ensureFresh_run {column : String} {table : Table ρ} {key : Int}
    (h : table.contains key = false) :
    (ensureFresh column table key : Mut σ SqlError Unit) s = (.ok (), s) :=
  Mut.ensure_run h _ _

theorem ensureReferences_run {table : Table ρ} {key : Option Int}
    (h : ∀ k ∈ key, table.contains k = true) :
    (ensureReferences table key : Mut σ SqlError Unit) s = (.ok (), s) :=
  Mut.ensure_run h _ _

end Runs

/-- Rows that are each read back as what they were written from. -/
theorem mapM_map {row : α → ρ} {read : ρ → Except ε α} {values : List α}
    (h : ∀ a ∈ values, read (row a) = .ok a) : (values.map row).mapM read = .ok values := by
  induction values with
  | nil => rfl
  | cons a rest ih =>
    rw [List.map_cons, List.mapM_cons, h a (by simp), ih fun b hb => h b (by simp [hb])]
    rfl

/-- Rows are listed as they were written, if in ascending order of their
keys. -/
theorem ascending_map {row : α → ρ} {key : ρ → Int} {n : α → Nat} {values : List α}
    (hkey : ∀ a ∈ values, key (row a) = n a) (h : (values.map n).Pairwise (· < ·)) :
    (values.map row).Pairwise fun v w => compare (key v) (key w) = .lt := by
  rw [List.pairwise_map] at h ⊢
  refine h.imp_of_mem fun {a b} ha hb hab => ?_
  rw [Std.compare_eq_lt, hkey a ha, hkey b hb]
  exact Int.ofNat_lt.mpr hab

end Table

end Banck.Lib
