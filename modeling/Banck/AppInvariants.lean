/-
Banck.AppInvariants — the invariant of the whole state: a well-formed bank,
well-formed identities, a well-formed audit log, and no account whose owner
is missing.

The parts have their invariants already; what is new is the link between
them. Only the opening of an account writes an owner (`BankOp.owners`),
customers are never removed (`KeepsCustomers`), and both front ends look
the owner up before they open an account, which is what
`AppMove.Permitted` says. So every permitted call keeps the invariant:
`AppState.WellFormed.move`.
-/
import Banck.AppMoves
import Banck.AuditTheorems
import Banck.BankInvariants
import Banck.BankReturns
import Banck.BankRuns
import Banck.IdentityTheorems

namespace Banck

open Lib Mut

/-! ## Owners -/

/-- Every account was there before, with the same owner. -/
def Bank.KeepsOwners (before after : Bank) : Prop :=
  ∀ (id : AccountId) (account : Account), after.accounts[id]? = some account →
    ∃ old : Account, before.accounts[id]? = some old ∧ account.ownerId = old.ownerId

namespace Bank.KeepsOwners

variable {bank bank' bank'' : Bank} {id : AccountId} {account : Account}

theorem of_accounts (h : bank'.accounts = bank.accounts) : bank.KeepsOwners bank' := by
  intro id account hfound
  exact ⟨account, h ▸ hfound, rfl⟩

theorem trans (h : bank.KeepsOwners bank') (h' : bank'.KeepsOwners bank'') :
    bank.KeepsOwners bank'' := by
  intro id account hfound
  obtain ⟨mid, hmid, howner⟩ := h' id account hfound
  obtain ⟨old, hold, howner'⟩ := h id mid hmid
  exact ⟨old, hold, howner.trans howner'⟩

/-- An account was overwritten by one with its owner. -/
theorem insert (hfound : bank.accounts[id]? = some account) {account' : Account}
    (howner : account'.ownerId = account.ownerId) (next : Nat) :
    bank.KeepsOwners ⟨bank.accounts.insert id account', next⟩ := by
  intro id' account'' hfound'
  by_cases hid : id' = id
  · subst hid
    rw [OrdMap.get_insert_self] at hfound'
    obtain rfl := Option.some.inj hfound'
    exact ⟨account, hfound, howner⟩
  · rw [OrdMap.get_insert_ne _ _ hid] at hfound'
    exact ⟨account'', hfound', rfl⟩

theorem post (hfound : bank.accounts[id]? = some account) {account' : Account}
    (howner : account'.ownerId = account.ownerId) (transaction : Transaction) :
    bank.KeepsOwners (bank.post id account' transaction) := by
  refine insert hfound ?_ _
  exact howner

theorem erase (bank : Bank) (id : AccountId) :
    bank.KeepsOwners { bank with accounts := bank.accounts.erase id } := by
  intro id' account hfound
  by_cases hid : id' = id
  · subst hid
    rw [OrdMap.get_erase_self] at hfound
    cases hfound
  · rw [OrdMap.get_erase_ne _ hid] at hfound
    exact ⟨account, hfound, rfl⟩

end Bank.KeepsOwners

open Bank (KeepsOwners)

/-- A call that failed keeps every owner. -/
theorem BankOp.owners_error {op : BankOp} {bank bank' : Bank} {e : BankError}
    (h : op.run bank = (.error e, bank')) : bank.KeepsOwners bank' := by
  rcases BankOp.run_error h with hlapsed | ⟨-, -, id, amount, now, -, hspilled⟩
  · exact .of_accounts hlapsed.accounts
  · obtain ⟨account, balance, hfound, -, rfl⟩ := hspilled
    exact .insert hfound (by rfl) _

/-- A call that returned keeps every owner, or opened an account for the
owner it was given. -/
theorem BankOp.owners_ok {op : BankOp} {bank bank' : Bank} {reply : BankReply}
    (hrun : op.run bank = (.ok reply, bank')) :
    bank.KeepsOwners bank' ∨
      ∃ id ownerId name email openingBalance now account next,
        op = .createAccount id ownerId name email openingBalance now ∧
        account.ownerId = ownerId ∧ bank' = ⟨bank.accounts.insert id account, next⟩ := by
  cases BankOp.run_returned hrun with
  | opened => exact .inr ⟨_, _, _, _, _, _, _, _, rfl, rfl, rfl⟩
  | renamed hfound => exact .inl (.post hfound (by rfl) _)
  | readdressed hfound => exact .inl (.post hfound (by rfl) _)
  | posted hfound hsame => exact .inl (.post hfound hsame.ownerId _)
  | transferred hne hpayer hpayerSame hpayee hpayeeSame =>
    exact .inl (.trans (.post hpayer hpayerSame.ownerId _)
      (.post (Bank.post_found_ne hne hpayee _ _) hpayeeSame.ownerId _))
  | removed => exact .inl (.erase bank _)

theorem Bank.chargeFees_owners (amount : Money) (clock : AccountId → Nat)
    (ids : List AccountId) (bank : Bank) :
    bank.KeepsOwners (bank.chargeFees amount clock ids).2 := by
  induction ids generalizing bank with
  | nil => exact .of_accounts rfl
  | cons id rest ih =>
    rw [chargeFees_cons]
    refine KeepsOwners.trans ?_ (ih _)
    rcases hrun : (BankOp.applyFee id amount (clock id)).run bank with ⟨e | reply, bank'⟩
    · have hsame := hrun
      rw [run_applyFee, Prod.ext_iff] at hsame
      rw [hsame.2]
      exact BankOp.owners_error hrun
    · have hsame := hrun
      rw [run_applyFee, Prod.ext_iff] at hsame
      rw [hsame.2]
      rcases BankOp.owners_ok hrun with hkept | ⟨_, _, _, _, _, _, _, _, hop, -⟩
      · exact hkept
      · cases hop

/-! ## Customers -/

/-- Every customer is still there. -/
def IdentityStore.KeepsCustomers (before after : IdentityStore) : Prop :=
  ∀ id : CustomerId, before.customers[id]? ≠ none → after.customers[id]? ≠ none

theorem IdentityStore.createCustomer_keeps (id : CustomerId) (fullName email : String)
    (store : IdentityStore) :
    store.KeepsCustomers (createCustomer id fullName email store).2 := by
  intro id' hthere
  rcases hrun : createCustomer id fullName email store with ⟨e | customer, store'⟩
  · rwa [createCustomer_error hrun]
  · obtain ⟨-, _, _, -, -, -, rfl⟩ := createCustomer_ok_iff.mp hrun
    by_cases hid : id' = id
    · subst hid
      rw [OrdMap.get_insert_self]
      exact Option.some_ne_none _
    · rwa [OrdMap.get_insert_ne _ _ hid]

theorem IdentityStore.createUser_keeps (argon2 : Argon2) (salt : String) (id : UserId)
    (username : String) (role : Role) (customerId : Option CustomerId) (password : String)
    (store : IdentityStore) :
    store.KeepsCustomers
      (createUser argon2 salt id username role customerId password store).2 := by
  intro id' hthere
  rcases hrun : createUser argon2 salt id username role customerId password store with
    ⟨e | user, store'⟩
  · rwa [createUser_error hrun]
  · obtain ⟨-, -, -, _, _, -, -, -, -, rfl⟩ := createUser_ok_iff.mp hrun
    exact hthere

/-! ## The invariant -/

namespace AppState

/-- The owner of every account is a customer. -/
def OwnersExist (bank : Bank) (identities : IdentityStore) : Prop :=
  bank.Each fun _ account => ∀ customerId ∈ account.ownerId,
    identities.customers[customerId]? ≠ none

structure WellFormed (argon2 : Argon2) (app : AppState) : Prop where
  bank : app.bank.WellFormed
  identities : app.identities.WellFormed argon2
  auditLog : app.auditLog.WellFormed
  owners : OwnersExist app.bank app.identities

variable {argon2 : Argon2} {session : Option Session} {app : AppState}

theorem wellFormed_new : AppState.new.WellFormed argon2 :=
  ⟨Bank.wellFormed_new, IdentityStore.wellFormed_new, AuditLog.wellFormed_new, Bank.each_new⟩

theorem OwnersExist.bank {before after : Bank} {identities : IdentityStore}
    (h : OwnersExist before identities) (hkept : before.KeepsOwners after) :
    OwnersExist after identities := by
  intro id account hfound customerId hc
  obtain ⟨old, hold, howner⟩ := hkept id account hfound
  exact h id old hold customerId (howner ▸ hc)

theorem OwnersExist.identities {bank : Bank} {before after : IdentityStore}
    (h : OwnersExist bank before) (hkept : before.KeepsCustomers after) :
    OwnersExist bank after := fun id account hfound customerId hc =>
  hkept customerId (h id account hfound customerId hc)

theorem WellFormed.bankCall (h : app.WellFormed argon2) (call : BankCall)
    (howners : OwnersExist (call.run app.bank).2 app.identities) :
    { app with bank := (call.run app.bank).2 }.WellFormed argon2 := by
  obtain ⟨moves, hpath⟩ := BankCall.run_path call app.bank
  exact ⟨hpath.invariant Bank.wellFormed_step h.bank, h.identities, h.auditLog, howners⟩

/-- An operation that a session may call leaves no account without its
owner. -/
theorem OwnersExist.call (h : OwnersExist app.bank app.identities) {op : BankOp}
    {s : Session} (hmay : s.MayCall app op) :
    OwnersExist (op.run app.bank).2 app.identities := by
  rcases hrun : op.run app.bank with ⟨e | reply, bank'⟩
  · exact h.bank (BankOp.owners_error hrun)
  · rcases BankOp.owners_ok hrun with hkept | hopened
    · exact h.bank hkept
    · obtain ⟨id, ownerId, name, email, openingBalance, now, account, next, rfl, howner, rfl⟩ :=
        hopened
      exact Bank.Each.insert h (fun customerId hc => hmay.2 customerId (howner ▸ hc)) next

/-- Every permitted call keeps the invariant. -/
theorem WellFormed.move (hargon : argon2.ParsesOwnHashes) {m : AppMove}
    (hperm : m.Permitted session app) (h : app.WellFormed argon2) :
    (m.run argon2 app).WellFormed argon2 := by
  cases m with
  | bank op =>
    obtain ⟨s, -, hmay⟩ := hperm
    exact h.bankCall (.call op) (h.owners.call hmay)
  | monthlyFee amount clock =>
    exact h.bankCall (.applyMonthlyFee amount clock)
      (h.owners.bank (Bank.chargeFees_owners amount clock _ app.bank))
  | createCustomer id fullName email =>
    exact ⟨h.bank, h.identities.createCustomer id fullName email, h.auditLog,
      h.owners.identities (IdentityStore.createCustomer_keeps id fullName email _)⟩
  | createUser salt id username role customerId password =>
    exact ⟨h.bank, h.identities.createUser hargon salt id username role customerId password,
      h.auditLog, h.owners.identities (IdentityStore.createUser_keeps argon2 salt id username
        role customerId password _)⟩
  | bootstrapAdmin salt id username password =>
    exact ⟨h.bank, h.identities.createUser hargon salt id username .admin none password,
      h.auditLog, h.owners.identities (IdentityStore.createUser_keeps argon2 salt id username
        .admin none password _)⟩
  | audit actor action outcome target message now =>
    exact ⟨h.bank, h.identities, h.auditLog.record actor action outcome target message now,
      h.owners⟩

end AppState

/-- What a request or command does keeps the invariant. -/
theorem Serves.wellFormed {argon2 : Argon2} {session : Option Session} {acts : AppMove → Prop}
    {app app' : AppState} (hargon : argon2.ParsesOwnHashes)
    (h : Serves argon2 session acts app app') (hwf : app.WellFormed argon2) :
    app'.WellFormed argon2 :=
  h.invariant (fun _ _ hperm hi => hi.move hargon hperm) hwf

/-- Calls and records leave the entries of the log as they are. -/
theorem Serves.entries {argon2 : Argon2} {session : Option Session} {acts : AppMove → Prop}
    {app app' : AppState} (h : Serves argon2 session acts app app') :
    app.auditLog.entries <+: app'.auditLog.entries := by
  refine h.invariant (I := fun current => app.auditLog.entries <+: current.auditLog.entries)
    (fun current m _ hprefix => hprefix.trans ?_) (List.prefix_refl _)
  cases m with
  | bank | monthlyFee | createCustomer | createUser | bootstrapAdmin => exact List.prefix_refl _
  | audit actor action outcome target message now =>
    rcases AuditLog.record_cases actor action outcome target message now current.auditLog with
      hsame | ⟨-, hmore⟩
    · rw [AppMove.run, hsame]
    · rw [AppMove.run, hmore]
      exact List.prefix_append _ _

end Banck
