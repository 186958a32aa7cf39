/-
Banck.BankCharges — the interest on one account and the fee on all of them.

Interest is the share of the balance rounded down. The share is found by
multiplying first, so it is refused where the product is too large for the
machine, also where the share is not (`applyInterest_exact_iff`).

The monthly fee is a loop of fees that may each fail. Whether an account
pays is settled by the bank before the loop, because a turn of the loop
touches the account it is about only (`chargeFees_charged`).
-/
import Banck.BankChanges

namespace Banck.Bank

open Lib Mut

variable {bank bank' : Bank} {id : AccountId} {amount : Money} {now : Nat}

/-! ## Interest -/

/-- What a rate of `basisPoints` makes of a balance, rounded down. -/
def interestDue (balance : Int) (basisPoints : Nat) : Int := balance * basisPoints / 10000

/-- The share of a balance that is not negative is what is due, if the
product fits. -/
theorem checkedPercentage_eq_some {balance interest : Money} {rate : InterestRate}
    (h : 0 ≤ balance.cents) :
    balance.checkedPercentage rate = some interest ↔
      balance.cents * rate.basisPoints.toNat ≤ i64Max ∧
        interest.cents = interestDue balance.cents rate.basisPoints.toNat := by
  have hproduct : 0 ≤ balance.cents * rate.basisPoints.toNat :=
    mul_nonneg h (Int.natCast_nonneg _)
  unfold Money.checkedPercentage interestDue
  cases hfits : Money.ofInt? (balance.cents * rate.basisPoints.toNat) with
  | none =>
    have hlarge := Money.ofInt?_eq_none.mp hfits
    simp only [bind, Option.bind, reduceCtorEq, false_iff, not_and]
    simp only [i64Min] at hlarge
    omega
  | some product =>
    have hcents := Money.ofInt?_eq_some.mp hfits
    have hrange := product.inRange.2
    simp only [bind, Option.bind, Money.ofInt?_eq_some, hcents]
    rw [Int.tdiv_eq_ediv_of_nonneg hproduct]
    constructor
    · intro hshare
      exact ⟨by omega, hshare⟩
    · intro hshare
      exact hshare.2

/-- Interest is exact to the cent, and refused only if the balance would
not fit, exactly when the product fits or the balance does not. -/
theorem applyInterest_exact_iff {account : Account} {rate : InterestRate} (now : Nat)
    (hid : bank.HasId) (hfound : bank.accounts[id]? = some account)
    (hactive : account.status = .active) (hbalance : 0 ≤ account.balance.cents)
    (hrate : rate.isZero = false) :
    let due := interestDue account.balance.cents rate.basisPoints.toNat
    ((account.balance.cents + due ≤ i64Max →
        ∃ interest balance : Money, interest.cents = due ∧
          balance.cents = account.balance.cents + due ∧
          applyInterest id rate now bank =
            (.ok interest, bank.post id { account with balance }
              (bank.stamp now .interest interest ("Interest added at " ++ rate.display)))) ∧
      ((applyInterest id rate now bank).1 = .error .arithmeticOverflow →
        i64Max < account.balance.cents + due)) ↔
      account.balance.cents * rate.basisPoints.toNat ≤ i64Max ∨
        i64Max < account.balance.cents + due := by
  intro due
  have hdue : 0 ≤ due := Int.ediv_nonneg (mul_nonneg hbalance (Int.natCast_nonneg _)) (by decide)
  constructor
  · intro hexact
    by_contra hneither
    rw [not_or, not_le, not_lt] at hneither
    obtain ⟨interest, balance, -, -, hrun⟩ := hexact.1 hneither.2
    obtain ⟨-, -, found, _, hfound', -, hshare, -⟩ := applyInterest_ok_iff.mp hrun
    obtain rfl := Option.some.inj (hfound'.symm.trans hfound)
    have hfits := ((checkedPercentage_eq_some hbalance).mp hshare).1
    omega
  · intro hfits
    have hreturns : account.balance.cents + due ≤ i64Max →
        ∃ interest balance : Money, interest.cents = due ∧
          balance.cents = account.balance.cents + due ∧
          applyInterest id rate now bank =
            (.ok interest, bank.post id { account with balance }
              (bank.stamp now .interest interest ("Interest added at " ++ rate.display))) := by
      intro hsum
      have hproduct : account.balance.cents * rate.basisPoints.toNat ≤ i64Max :=
        hfits.resolve_right (not_lt.mpr hsum)
      have hmin : i64Min ≤ 0 := by decide
      let interest : Money := ⟨due, by omega, by omega⟩
      let balance : Money := ⟨account.balance.cents + due, by omega, hsum⟩
      have hshare : account.balance.checkedPercentage rate = some interest :=
        (checkedPercentage_eq_some hbalance).mpr ⟨hproduct, rfl⟩
      exact ⟨interest, balance, rfl, rfl, applyInterest_ok_iff.mpr
        ⟨hrate, hid, account, balance, hfound, hactive, hshare, rfl, rfl⟩⟩
    refine ⟨hreturns, fun herror => ?_⟩
    by_contra hsum
    obtain ⟨interest, balance, -, -, hrun⟩ := hreturns (not_lt.mp hsum)
    rw [hrun] at herror
    cases herror

/-- A balance of ten trillion at one hundred percent: what is due and the
new balance fit, the product does not. -/
def largeBalance : Account :=
  { id := 1, ownerId := none, name := "Ada", email := "ada@example.com",
    balance := ⟨1000000000000000, by decide⟩, loanBalance := Money.zero, status := .active,
    transactions := [] }

def largeBank : Bank := ⟨(∅ : OrdMap AccountId Account).insert 1 largeBalance, 1⟩

/-- The interest on it is refused as an overflow. -/
theorem applyInterest_refuses_small_interest :
    largeBank.HasId ∧ largeBank.accounts[(1 : AccountId)]? = some largeBalance ∧
      largeBalance.status = .active ∧ 0 ≤ largeBalance.balance.cents ∧
      (⟨10000⟩ : InterestRate).isZero = false ∧
      (applyInterest 1 ⟨10000⟩ 0 largeBank).1 = .error .arithmeticOverflow ∧
      ¬ i64Max < largeBalance.balance.cents + interestDue largeBalance.balance.cents 10000 := by
  refine ⟨by decide, by decide +kernel, rfl, by decide, by decide, by decide +kernel, by decide⟩

theorem applyInterest_exact_iff_small :
    let account := { largeBalance with balance := ⟨10001, by decide⟩ }
    let bank : Bank := ⟨(∅ : OrdMap AccountId Account).insert 1 account, 1⟩
    ∃ interest balance : Money, interest.cents = 250 ∧ balance.cents = 10251 ∧
      applyInterest 1 ⟨250⟩ 7 bank =
        (.ok interest, bank.post 1 { account with balance }
          (bank.stamp 7 .interest interest "Interest added at 2.50%")) := by
  intro account bank
  have hexact := applyInterest_exact_iff 7 (by decide : bank.HasId)
    (by decide +kernel : bank.accounts[(1 : AccountId)]? = some account) rfl (by decide)
    (by decide : (⟨250⟩ : InterestRate).isZero = false)
  exact (hexact.mpr (.inl (by decide))).1 (by decide)

/-! ## The monthly fee -/

/-- The account is active and its balance covers the fee. -/
def canPay (bank : Bank) (amount : Money) (id : AccountId) : Bool :=
  match bank.accounts[id]? with
  | some account =>
      decide (0 < amount.cents ∧ account.status = .active ∧
        amount.cents ≤ account.balance.cents)
  | none => false

theorem canPay_iff : bank.canPay amount id = true ↔
    0 < amount.cents ∧ bank.Finds id fun account =>
      account.status = .active ∧ amount.cents ≤ account.balance.cents := by
  unfold canPay Finds
  cases bank.accounts[id]? with
  | none => simp
  | some account => simp

/-- Whether an account can pay depends on nothing but the account. -/
theorem canPay_congr (h : bank'.accounts[id]? = bank.accounts[id]?) (amount : Money) :
    bank'.canPay amount id = bank.canPay amount id := by
  rw [canPay, canPay, h]

/-- With an id left, a fee is taken exactly from those who can pay. -/
theorem applyFee_isOk (hid : bank.HasId) (id : AccountId) (amount : Money) (now : Nat) :
    (applyFee id amount now bank).1.isOk = bank.canPay amount id := by
  have haccepts : (BankOp.applyFee id amount now).Accepts bank ↔ bank.canPay amount id = true :=
    (and_iff_right hid).trans canPay_iff.symm
  rw [BankOp.accepts_iff, run_applyFee] at haccepts
  rcases hrun : applyFee id amount now bank with ⟨e | u, bank'⟩
  · rw [hrun] at haccepts
    have hrefused : ¬ bank.canPay amount id = true := fun hpays => by
      obtain ⟨_, _, hok⟩ := haccepts.mpr hpays
      cases hok
    rw [Bool.not_eq_true] at hrefused
    rw [hrefused]
    rfl
  · rw [hrun] at haccepts
    rw [haccepts.mp ⟨.unit, bank', rfl⟩]
    rfl

/-- The accounts of the list that can pay. -/
def payers (bank : Bank) (amount : Money) (ids : List AccountId) : List AccountId :=
  ids.filter (bank.canPay amount)

/-- The sum of the balances. -/
def balanceSum (bank : Bank) : Int :=
  OrdMap.sumOver (fun account => account.balance.cents) bank.accounts

/-- What charging the ids does: whoever can pay is a fee poorer and has one
transaction more, under the next id when its turn comes. -/
structure Charged (amount : Money) (clock : AccountId → Nat) (ids : List AccountId)
    (bank after : Bank) : Prop where
  paid : ∀ (id : AccountId) (account : Account), id ∈ bank.payers amount ids →
    bank.accounts[id]? = some account → ∃ balance : Money,
      balance.cents = account.balance.cents - amount.cents ∧
      after.accounts[id]? = some (Account.record { account with balance }
        ⟨bank.nextTransactionId + (bank.payers amount ids).idxOf id, clock id, .fee, amount,
          "Bank fee applied"⟩)
  unpaid : ∀ id : AccountId, id ∉ bank.payers amount ids →
    after.accounts[id]? = bank.accounts[id]?
  next : after.nextTransactionId = bank.nextTransactionId + (bank.payers amount ids).length
  total : after.balanceSum =
    bank.balanceSum - amount.cents * ((bank.payers amount ids).length : Int)

theorem charged_nil (amount : Money) (clock : AccountId → Nat) (bank : Bank) :
    Charged amount clock [] bank bank := by
  constructor
  · intro id account hid
    simp [payers] at hid
  · exact fun _ _ => rfl
  · simp [payers]
  · simp [payers]

/-- An account that cannot pay is passed over. -/
theorem Charged.skip {clock : AccountId → Nat} {ids : List AccountId} {after : Bank}
    (h : Charged amount clock ids bank after) (hno : bank.canPay amount id = false) :
    Charged amount clock (id :: ids) bank after := by
  have hsame : bank.payers amount (id :: ids) = bank.payers amount ids := by
    simp [payers, hno]
  constructor
  · rw [hsame]; exact h.paid
  · rw [hsame]; exact h.unpaid
  · rw [hsame]; exact h.next
  · rw [hsame]; exact h.total

/-- An account that pays takes the next id, and leaves the others to the
rest of the loop. -/
theorem Charged.pay {clock : AccountId → Nat} {ids : List AccountId} {after : Bank}
    {account : Account} {balance : Money} (hnew : id ∉ ids)
    (hpays : bank.canPay amount id = true) (hfound : bank.accounts[id]? = some account)
    (hbalance : balance.cents = account.balance.cents - amount.cents)
    (h : Charged amount clock ids (bank.post id { account with balance }
      (bank.stamp (clock id) .fee amount "Bank fee applied")) after) :
    Charged amount clock (id :: ids) bank after := by
  have hothers : ∀ other ∈ ids, (bank.post id { account with balance }
      (bank.stamp (clock id) .fee amount "Bank fee applied")).accounts[other]? =
        bank.accounts[other]? := fun other hother =>
    OrdMap.get_insert_ne _ _ fun hsame => hnew (hsame ▸ hother)
  have hrest : (bank.post id { account with balance }
      (bank.stamp (clock id) .fee amount "Bank fee applied")).payers amount ids =
        bank.payers amount ids :=
    List.filter_congr fun other hother => canPay_congr (hothers other hother) amount
  have hcons : bank.payers amount (id :: ids) = id :: bank.payers amount ids := by
    simp [payers, hpays]
  have hlate : id ∉ bank.payers amount ids := fun hmem => hnew (List.mem_filter.mp hmem).1
  constructor
  · intro other found hmem hother
    rw [hcons] at hmem ⊢
    by_cases hsame : other = id
    · subst hsame
      obtain rfl := Option.some.inj (hother.symm.trans hfound)
      refine ⟨balance, hbalance, ?_⟩
      rw [h.unpaid other (by rw [hrest]; exact hlate), List.idxOf_cons_self]
      exact OrdMap.get_insert_self _ _ _
    · have hlater := (List.mem_cons.mp hmem).resolve_left hsame
      have hin : other ∈ ids := (List.mem_filter.mp hlater).1
      obtain ⟨rest, hcents, hafter⟩ := h.paid other found (by rw [hrest]; exact hlater)
        (by rw [hothers other hin]; exact hother)
      refine ⟨rest, hcents, ?_⟩
      rw [hafter, hrest, List.idxOf_cons_ne _ (Ne.symm hsame), post_nextTransactionId, stamp_id,
        Nat.succ_eq_add_one, Nat.add_right_comm, Nat.add_assoc]
  · intro other hmem
    rw [hcons, List.mem_cons, not_or] at hmem
    rw [h.unpaid other (by rw [hrest]; exact hmem.2)]
    exact OrdMap.get_insert_ne _ _ hmem.1
  · rw [h.next, hrest, hcons, List.length_cons, post_nextTransactionId, stamp_id]
    omega
  · have hsum := OrdMap.sumOver_insert_found (fun a : Account => a.balance.cents) bank.accounts
      (Account.record { account with balance }
        (bank.stamp (clock id) .fee amount "Bank fee applied")) hfound
    have htotal := h.total
    rw [hrest] at htotal
    simp only [balanceSum, post_accounts, Account.record] at htotal hsum ⊢
    rw [hcons, List.length_cons, htotal]
    push_cast
    linarith

theorem chargeFees_charged (amount : Money) (clock : AccountId → Nat) :
    ∀ (ids : List AccountId) (bank : Bank), ids.Nodup →
      bank.nextTransactionId + ids.length ≤ u64Max →
      Charged amount clock ids bank (chargeFees amount clock ids bank).2 ∧
        (chargeFees amount clock ids bank).1.map (fun charged => (charged.1, charged.2.isOk)) =
          ids.map fun id => (id, bank.canPay amount id)
  | [], bank, _, _ => ⟨charged_nil amount clock bank, rfl⟩
  | id :: rest, bank, hnodup, hids => by
      obtain ⟨hnew, hrest⟩ := List.nodup_cons.mp hnodup
      rw [List.length_cons] at hids
      have hid : bank.HasId := by unfold HasId; omega
      have hok := applyFee_isOk hid id amount (clock id)
      rw [chargeFees_cons, List.map_cons, List.map_cons, hok]
      rcases hrun : applyFee id amount (clock id) bank with ⟨e | u, bank'⟩
      · rw [hrun] at hok
        obtain rfl := applyFee_error hrun
        obtain ⟨hcharged, hresults⟩ := chargeFees_charged amount clock rest bank' hrest (by omega)
        exact ⟨hcharged.skip hok.symm, by rw [hresults]⟩
      · rw [hrun] at hok
        obtain ⟨-, -, account, balance, hfound, -, -, hbalance, rfl⟩ := applyFee_ok_iff.mp hrun
        obtain ⟨hcharged, hresults⟩ := chargeFees_charged amount clock rest
          (bank.post id { account with balance }
            (bank.stamp (clock id) .fee amount "Bank fee applied")) hrest
          (by rw [post_nextTransactionId, stamp_id]; omega)
        refine ⟨hcharged.pay hnew hok.symm hfound hbalance, ?_⟩
        rw [hresults]
        refine congrArg _ (List.map_congr_left fun other hother => ?_)
        rw [canPay_congr]
        exact OrdMap.get_insert_ne _ _ fun hsame => hnew (hsame ▸ hother)

/-- The ids are listed in ascending order. -/
theorem keys_ascending (bank : Bank) : bank.accounts.keys.Pairwise (· < ·) :=
  (Std.ExtTreeMap.ordered_keys (t := bank.accounts)).imp fun h => Std.compare_eq_lt.mp h

/-- In an ascending list, what is larger comes later. -/
theorem idxOf_lt_idxOf {ids : List AccountId} (h : ids.Pairwise (· < ·)) {id id' : AccountId}
    (hid : id ∈ ids) (hid' : id' ∈ ids) (hlt : id < id') : ids.idxOf id < ids.idxOf id' := by
  induction ids with
  | nil => cases hid
  | cons first rest ih =>
    obtain ⟨hfirst, hrest⟩ := List.pairwise_cons.mp h
    have hne' : id' ≠ first := fun hsame => by
      subst hsame
      rcases List.mem_cons.mp hid with rfl | hlater
      · exact UInt32.lt_irrefl _ hlt
      · exact UInt32.lt_asymm hlt (hfirst id hlater)
    rw [List.idxOf_cons_ne _ (Ne.symm hne')]
    by_cases hsame : id = first
    · rw [hsame, List.idxOf_cons_self]
      exact Nat.succ_pos _
    · rw [List.idxOf_cons_ne _ (Ne.symm hsame)]
      exact Nat.succ_lt_succ (ih hrest ((List.mem_cons.mp hid).resolve_left hsame)
        ((List.mem_cons.mp hid').resolve_left hne'))

/-- With an id for every account, the monthly fee is taken once from each
account that could pay it before the call, and from no other. -/
theorem monthlyFee_charges_once (bank : Bank) (amount : Money) (clock : AccountId → Nat)
    (hids : bank.nextTransactionId + bank.accounts.size ≤ u64Max) :
    let results := (bank.applyMonthlyFee amount clock).1
    let after := (bank.applyMonthlyFee amount clock).2
    let payers := bank.payers amount bank.accounts.keys
    bank.accounts.keys.Pairwise (· < ·) ∧
    results.map (fun charged => (charged.1, charged.2.isOk)) =
      bank.accounts.keys.map (fun id => (id, bank.canPay amount id)) ∧
    Charged amount clock bank.accounts.keys bank after ∧
    (∀ id ∈ payers, ∀ id' ∈ payers, id < id' → payers.idxOf id < payers.idxOf id') ∧
    after.balanceSum =
      bank.balanceSum - amount.cents * (results.filter (fun charged => charged.2.isOk)).length := by
  intro results after payers
  have hascending := keys_ascending bank
  obtain ⟨hcharged, hresults⟩ := chargeFees_charged amount clock bank.accounts.keys bank
    (hascending.imp fun hlt => UInt32.ne_of_lt hlt) (by rwa [Std.ExtTreeMap.length_keys])
  have hcount : (results.filter fun charged => charged.2.isOk).length = payers.length := by
    have hpairs := congrArg (List.countP Prod.snd) hresults
    rw [List.countP_map, List.countP_map] at hpairs
    show _ = (bank.accounts.keys.filter (bank.canPay amount)).length
    rw [← List.countP_eq_length_filter, ← List.countP_eq_length_filter]
    exact hpairs
  refine ⟨hascending, hresults, hcharged, fun id hid id' hid' hlt => ?_, ?_⟩
  · exact idxOf_lt_idxOf (hascending.filter _) hid hid' hlt
  · rw [hcount]
    exact hcharged.total

/-- Of three accounts the first cannot pay, the second is inactive and the
third pays. -/
theorem monthlyFee_charges_once_three :
    let account (id : AccountId) (cents : Money) (status : AccountStatus) : Account :=
      { largeBalance with id := id, balance := cents, status := status }
    let bank : Bank := ⟨OrdMap.ofVals Account.id [account 1 ⟨99, by decide⟩ .active,
      account 2 ⟨500, by decide⟩ .inactive, account 3 ⟨100, by decide⟩ .active], u64Max - 3⟩
    let run := bank.applyMonthlyFee ⟨100, by decide⟩ fun _ => 7
    run.1.map (fun charged => (charged.1, charged.2.isOk)) = [(1, false), (2, false), (3, true)] ∧
      run.2.nextTransactionId = u64Max - 2 ∧ run.2.balanceSum = 599 := by
  intro account bank run
  have h := monthlyFee_charges_once bank ⟨100, by decide⟩ (fun _ => 7) (by decide +kernel)
  have hpayers : bank.payers ⟨100, by decide⟩ bank.accounts.keys = [3] := by decide +kernel
  have hnext := h.2.2.1.next
  have htotal := h.2.2.1.total
  rw [hpayers] at hnext htotal
  have hsum : bank.balanceSum = 699 := by decide +kernel
  rw [hsum] at htotal
  exact ⟨h.2.1.trans (by decide +kernel), hnext, htotal⟩

end Banck.Bank
