/-
Banck.Domain — the values the bank is made of: money, interest rates,
transactions and accounts (`src/domain.rs`).

Money is a signed 64-bit number of cents and every operation on it is
checked, so the type carries its range: `Money.ofInt?` is the only way
from an integer to an amount, and it is what a checked operation returns.
A 64-bit unsigned number (a transaction id, a clock reading) is a `Nat`
whose operations name the bound they check.
-/
import Banck.Lib.Text

namespace Banck

/-! ## Machine integers -/

def u64Max : Nat := 2 ^ 64 - 1

def i64Min : Int := -(2 ^ 63)

def i64Max : Int := 2 ^ 63 - 1

/-- A value of the type `i64`. -/
abbrev I64 : Type := { n : Int // i64Min ≤ n ∧ n ≤ i64Max }

theorem inI64_natCast {n : Nat} (h : (n : Int) ≤ i64Max) :
    i64Min ≤ (n : Int) ∧ (n : Int) ≤ i64Max := ⟨by unfold i64Min; omega, h⟩

theorem inI64_zero : i64Min ≤ 0 ∧ 0 ≤ i64Max := by decide

theorem inI64_one : i64Min ≤ 1 ∧ 1 ≤ i64Max := by decide

theorem inI64_two : i64Min ≤ 2 ∧ 2 ≤ i64Max := by decide

theorem inI64_three : i64Min ≤ 3 ∧ 3 ≤ i64Max := by decide

/-- `checked_add` on `u64`. -/
def checkedAddU64 (a b : Nat) : Option Nat :=
  if a + b ≤ u64Max then some (a + b) else none

/-- `saturating_add` on `u64`. -/
def saturatingAddU64 (a b : Nat) : Nat := min (a + b) u64Max

/-- `saturating_sub` on an unsigned type. -/
def saturatingSub (a b : Nat) : Nat := a - b

theorem checkedAddU64_eq_some {a b c : Nat} :
    checkedAddU64 a b = some c ↔ a + b ≤ u64Max ∧ c = a + b := by
  unfold checkedAddU64
  split <;> simp_all [eq_comm]

theorem checkedAddU64_eq_none {a b : Nat} :
    checkedAddU64 a b = none ↔ u64Max < a + b := by
  unfold checkedAddU64
  split <;> simp_all

/-- Decimal digits, at least two of them: the format `{:02}`. -/
def twoDigits (n : Nat) : String :=
  if n < 10 then "0" ++ toString n else toString n

/-! ## Interest rates -/

structure InterestRate where
  basisPoints : UInt32
  deriving DecidableEq, Repr

namespace InterestRate

def isZero (rate : InterestRate) : Bool := rate.basisPoints == 0

def display (rate : InterestRate) : String :=
  toString (rate.basisPoints.toNat / 100) ++ "."
    ++ twoDigits (rate.basisPoints.toNat % 100) ++ "%"

end InterestRate

/-! ## Money -/

/-- An amount of money: a number of cents that fits in `i64`. -/
structure Money where
  cents : Int
  inRange : i64Min ≤ cents ∧ cents ≤ i64Max
  deriving DecidableEq

namespace Money

theorem ext_cents {a b : Money} (h : a.cents = b.cents) : a = b := by
  cases a; cases b; cases h; rfl

/-- The amount of that many cents, if `i64` holds it. -/
def ofInt? (cents : Int) : Option Money :=
  if h : i64Min ≤ cents ∧ cents ≤ i64Max then some ⟨cents, h⟩ else none

def zero : Money := ⟨0, by decide⟩

def fromCents (cents : I64) : Money := ⟨cents.val, cents.property⟩

instance : LE Money := ⟨fun a b => a.cents ≤ b.cents⟩
instance : LT Money := ⟨fun a b => a.cents < b.cents⟩
instance (a b : Money) : Decidable (a ≤ b) := inferInstanceAs (Decidable (a.cents ≤ b.cents))
instance (a b : Money) : Decidable (a < b) := inferInstanceAs (Decidable (a.cents < b.cents))

def isZero (m : Money) : Bool := m.cents == 0

def isNegative (m : Money) : Bool := decide (m.cents < 0)

def checkedAdd (a b : Money) : Option Money := ofInt? (a.cents + b.cents)

def checkedSub (a b : Money) : Option Money := ofInt? (a.cents - b.cents)

/-- The product must fit in `i64` on its own; the division by 10 000
truncates towards zero. -/
def checkedPercentage (m : Money) (rate : InterestRate) : Option Money := do
  let product ← ofInt? (m.cents * rate.basisPoints.toNat)
  ofInt? (product.cents.tdiv 10000)

/-- The smaller of two amounts, the first one if they are equal. -/
def min (a b : Money) : Money := if a ≤ b then a else b

def display (m : Money) : String :=
  (if m.cents < 0 then "-" else "") ++ toString (m.cents.natAbs / 100) ++ "."
    ++ twoDigits (m.cents.natAbs % 100)

@[simp] theorem cents_zero : zero.cents = 0 := rfl

theorem le_iff {a b : Money} : a ≤ b ↔ a.cents ≤ b.cents := Iff.rfl

theorem lt_iff {a b : Money} : a < b ↔ a.cents < b.cents := Iff.rfl

theorem isZero_iff {m : Money} : m.isZero = true ↔ m.cents = 0 := by
  simp [isZero]

theorem ofInt?_eq_some {cents : Int} {m : Money} :
    ofInt? cents = some m ↔ m.cents = cents := by
  unfold ofInt?
  split
  · next h =>
    rw [Option.some.injEq]
    constructor
    · rintro rfl; rfl
    · intro hm; exact ext_cents hm.symm
  · next h =>
    refine ⟨fun hn => by simp at hn, fun hm => absurd m.inRange ?_⟩
    rwa [hm]

theorem ofInt?_eq_none {cents : Int} :
    ofInt? cents = none ↔ cents < i64Min ∨ i64Max < cents := by
  unfold ofInt?
  split
  · simp only [reduceCtorEq, false_iff]; omega
  · simp only [true_iff]; omega

theorem checkedAdd_eq_some {a b c : Money} :
    a.checkedAdd b = some c ↔ c.cents = a.cents + b.cents := ofInt?_eq_some

theorem checkedSub_eq_some {a b c : Money} :
    a.checkedSub b = some c ↔ c.cents = a.cents - b.cents := ofInt?_eq_some

/-- Adding two amounts that are not negative can only fail upwards. -/
theorem checkedAdd_eq_none {a b : Money} (ha : 0 ≤ a.cents) (hb : 0 ≤ b.cents) :
    a.checkedAdd b = none ↔ i64Max < a.cents + b.cents := by
  rw [checkedAdd, ofInt?_eq_none]
  simp only [i64Min]
  omega

/-- Subtracting no more than is there never overflows. -/
theorem checkedSub_ne_none {a b : Money} (hb : 0 ≤ b.cents) (h : b.cents ≤ a.cents) :
    a.checkedSub b ≠ none := by
  have ha := a.inRange
  rw [checkedSub, Ne, ofInt?_eq_none]
  simp only [i64Min, i64Max] at *
  omega

theorem cents_min (a b : Money) : (min a b).cents = Min.min a.cents b.cents := by
  unfold min
  split
  · next h => rw [le_iff] at h; omega
  · next h => rw [le_iff] at h; omega

end Money

/-! ## Transactions -/

abbrev AccountId := UInt32
abbrev CustomerId := UInt32

inductive AccountStatus where
  | active
  | inactive
  | closed
  deriving DecidableEq, Repr

def AccountStatus.display : AccountStatus → String
  | active => "active"
  | inactive => "inactive"
  | closed => "closed"

inductive TransactionKind where
  | accountCreated
  | deposit
  | withdrawal
  | transferIn
  | transferOut
  | fee
  | interest
  | loanRequested
  | loanPayment
  | profileUpdated
  | activated
  | deactivated
  | closed
  deriving DecidableEq, Repr

def TransactionKind.display : TransactionKind → String
  | accountCreated => "account_created"
  | deposit => "deposit"
  | withdrawal => "withdrawal"
  | transferIn => "transfer_in"
  | transferOut => "transfer_out"
  | fee => "fee"
  | interest => "interest"
  | loanRequested => "loan_requested"
  | loanPayment => "loan_payment"
  | profileUpdated => "profile_updated"
  | activated => "activated"
  | deactivated => "deactivated"
  | closed => "closed"

/-- The id and the clock reading are `u64`. -/
structure Transaction where
  id : Nat
  occurredAtEpochSeconds : Nat
  kind : TransactionKind
  amount : Money
  description : String
  deriving DecidableEq

/-! ## Accounts -/

structure Account where
  id : AccountId
  ownerId : Option CustomerId
  name : String
  email : String
  balance : Money
  loanBalance : Money
  status : AccountStatus
  transactions : List Transaction
  deriving DecidableEq

namespace Account

/-- The account a customer opens: active, no loan, no history. -/
def new (id : AccountId) (ownerId : Option CustomerId) (name email : String)
    (openingBalance : Money) : Account :=
  { id, ownerId, name, email, balance := openingBalance, loanBalance := Money.zero,
    status := .active, transactions := [] }

def isActive (account : Account) : Bool := account.status == .active

def isClosed (account : Account) : Bool := account.status == .closed

/-- Append a transaction to the history. -/
def record (account : Account) (transaction : Transaction) : Account :=
  { account with transactions := account.transactions ++ [transaction] }

theorem isClosed_eq_false {account : Account} :
    account.isClosed = false ↔ account.status ≠ .closed := by simp [isClosed]

end Account

end Banck
