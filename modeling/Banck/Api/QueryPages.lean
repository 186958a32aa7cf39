/-
Banck.Api.QueryPages — which entries a query for a history or for the audit
log answers (`history_queries_return_the_page`).

No handler sorts: it filters the list it finds, reverses it for the newest
entries first, and cuts it. That this is the page the query asks for rests on
the lists being in the order of their ids, which every request keeps
(`InOrder`, `inOrder_of_reached`).
-/
import Banck.Api.Confidentiality
import Banck.Api.Provenance
import Banck.BankReload

namespace Banck.Api

open Lib Mut Machine

/-! ## The first items of a list in an order -/

/-- The page holds `n` of the items, or all if there are no more, in the
order `r`, and those it leaves out come after those it holds. -/
structure FirstOf {α : Type} (r : α → α → Prop) (n : Nat) (items page : List α) : Prop where
  length : page.length = min n items.length
  ordered : page.Pairwise r
  subset : ∀ a ∈ page, a ∈ items
  first : ∀ a ∈ page, ∀ b ∈ items, b ∉ page → r a b

section FirstOf

variable {α : Type} {r : α → α → Prop} {items items' page : List α} {n : Nat}

theorem firstOf_take (h : items.Pairwise r) (n : Nat) : FirstOf r n items (items.take n) := by
  have hparts : (items.take n ++ items.drop n).Pairwise r := by rwa [List.take_append_drop]
  obtain ⟨hpage, -, hafter⟩ := List.pairwise_append.mp hparts
  refine ⟨List.length_take, hpage, fun a ha => List.mem_of_mem_take ha, ?_⟩
  intro a ha b hb hout
  rw [← List.take_append_drop n items] at hb
  rcases List.mem_append.mp hb with hin | hrest
  · exact absurd hin hout
  · exact hafter a ha b hrest

/-- The order in which the items are kept does not matter. -/
theorem FirstOf.perm (h : FirstOf r n items page) (hperm : items.Perm items') :
    FirstOf r n items' page := by
  refine ⟨?_, h.ordered, fun a ha => hperm.subset (h.subset a ha), fun a ha b hb hout => ?_⟩
  · rw [← hperm.length_eq]
    exact h.length
  · exact h.first a ha b (hperm.symm.subset hb) hout

theorem firstOf_take_reverse (h : items.Pairwise r) (n : Nat) :
    FirstOf (fun a b => r b a) n items (items.reverse.take n) :=
  (firstOf_take (List.pairwise_reverse.mpr h) n).perm (List.reverse_perm items)

end FirstOf

/-! ## What a query asks for -/

/-- The time lies between the two, each if it is given. -/
def InWindow (fromEpochSeconds toEpochSeconds : Option Nat) (seconds : Nat) : Prop :=
  (∀ earliest ∈ fromEpochSeconds, earliest ≤ seconds) ∧
    ∀ latest ∈ toEpochSeconds, seconds ≤ latest

instance (fromEpochSeconds toEpochSeconds : Option Nat) (seconds : Nat) :
    Decidable (InWindow fromEpochSeconds toEpochSeconds seconds) :=
  inferInstanceAs (Decidable (_ ∧ _))

def TransactionQuery.Admits (query : TransactionQuery) (transaction : Transaction) : Prop :=
  (∀ kind ∈ query.kind, kind = transaction.kind.display) ∧
    InWindow query.fromEpochSeconds query.toEpochSeconds transaction.occurredAtEpochSeconds

instance (query : TransactionQuery) (transaction : Transaction) :
    Decidable (query.Admits transaction) := inferInstanceAs (Decidable (_ ∧ _))

def AuditQuery.Admits (query : AuditQuery) (entry : AuditEntry) : Prop :=
  (∀ action ∈ query.action, action = entry.action.display) ∧
    (∀ outcome ∈ query.outcome, outcome = entry.outcome.display) ∧
    (∀ target ∈ query.target, entry.target = some target) ∧
    InWindow query.fromEpochSeconds query.toEpochSeconds entry.occurredAtEpochSeconds

instance (query : AuditQuery) (entry : AuditEntry) : Decidable (query.Admits entry) :=
  inferInstanceAs (Decidable (_ ∧ _ ∧ _ ∧ _))

/-- The smaller id comes first if the query says so, else the larger. -/
def Precedes (order : Option QueryOrder) (id id' : Nat) : Prop :=
  match order with
  | some .asc => id < id'
  | some .desc | none => id' < id

/-- Of a limit that is not given the default is taken. -/
structure ValidPage (limit fromEpochSeconds toEpochSeconds : Option Nat) : Prop where
  pos : 1 ≤ limit.getD 100
  le : limit.getD 100 ≤ 500
  window : ∀ earliest ∈ fromEpochSeconds, ∀ latest ∈ toEpochSeconds, earliest ≤ latest

/-! ## Checks and filters -/

theorem validatedLimit_ok_iff {limit : Option Nat} {n : Nat} :
    validatedLimit limit = .ok n ↔ (1 ≤ limit.getD 100 ∧ limit.getD 100 ≤ 500) ∧
      limit.getD 100 = n := by
  unfold validatedLimit
  by_cases h : 1 ≤ limit.getD 100 ∧ limit.getD 100 ≤ 500
  · simp [h]
  · simp [h]

theorem validateTimeWindow_ok_iff {fromEpochSeconds toEpochSeconds : Option Nat} {u : Unit} :
    validateTimeWindow fromEpochSeconds toEpochSeconds = .ok u ↔
      ∀ earliest ∈ fromEpochSeconds, ∀ latest ∈ toEpochSeconds, earliest ≤ latest := by
  cases fromEpochSeconds with
  | none => simp [validateTimeWindow]
  | some earliest =>
    cases toEpochSeconds with
    | none => simp [validateTimeWindow]
    | some latest =>
      by_cases h : latest < earliest
      · simp [validateTimeWindow, h]
      · have hle : earliest ≤ latest := Nat.le_of_not_lt h
        simp [validateTimeWindow, h, hle]

theorem timestampMatchesQuery_iff {seconds : Nat} {fromEpochSeconds toEpochSeconds : Option Nat} :
    timestampMatchesQuery seconds fromEpochSeconds toEpochSeconds = true ↔
      InWindow fromEpochSeconds toEpochSeconds seconds := by
  simp [timestampMatchesQuery, InWindow, Option.all_eq_true]

theorem transactionMatchesQuery_iff {transaction : Transaction} {query : TransactionQuery} :
    transactionMatchesQuery transaction query = true ↔ query.Admits transaction := by
  simp [transactionMatchesQuery, TransactionQuery.Admits, timestampMatchesQuery_iff,
    Option.all_eq_true]

theorem auditMatchesQuery_iff {entry : AuditEntry} {query : AuditQuery} :
    auditMatchesQuery entry query = true ↔ query.Admits entry := by
  simp [auditMatchesQuery, AuditQuery.Admits, timestampMatchesQuery_iff, Option.all_eq_true,
    and_assoc]

/-- What is in the order of the ids, filtered, put in the order asked for and
cut, is the page asked for. -/
theorem firstOf_ordered {α : Type} {id : α → Nat} {items : List α}
    (h : (items.map id).Pairwise (· < ·)) (p : α → Bool) (order : Option QueryOrder) (n : Nat) :
    FirstOf (fun a b => Precedes order (id a) (id b)) n (items.filter p)
      ((ordered (items.filter p) (order.getD .desc)).take n) := by
  have hascending : (items.filter p).Pairwise fun a b => id a < id b :=
    (List.pairwise_map.mp h).filter p
  cases order with
  | none => exact firstOf_take_reverse hascending n
  | some order =>
    cases order with
    | asc => exact firstOf_take hascending n
    | desc => exact firstOf_take_reverse hascending n

/-! ## What every request keeps -/

/-- The histories and the audit log are in the order of their ids. -/
structure InOrder (app : AppState) : Prop where
  bank : app.bank.WellFormed
  auditLog : app.auditLog.WellFormed

theorem InOrder.move {argon2 : Argon2} {app : AppState} (m : AppMove) (h : InOrder app) :
    InOrder (m.run argon2 app) := by
  cases m with
  | bank op =>
    obtain ⟨moves, hpath⟩ := BankCall.run_path (.call op) app.bank
    exact ⟨hpath.invariant Bank.wellFormed_step h.bank, h.auditLog⟩
  | monthlyFee amount clock =>
    obtain ⟨moves, hpath⟩ := BankCall.run_path (.applyMonthlyFee amount clock) app.bank
    exact ⟨hpath.invariant Bank.wellFormed_step h.bank, h.auditLog⟩
  | createCustomer | createUser | bootstrapAdmin => exact ⟨h.bank, h.auditLog⟩
  | audit actor action outcome target message now =>
    exact ⟨h.bank, h.auditLog.record actor action outcome target message now⟩

/-- The application of a new server, after any requests. -/
def ReachedByRequests (app : AppState) : Prop :=
  ∃ argon2 events, (Server.after argon2 events).state.app = app

theorem inOrder_of_reached {app : AppState} (h : ReachedByRequests app) : InOrder app := by
  obtain ⟨argon2, events, rfl⟩ := h
  refine Server.after_invariant (I := fun server => InOrder server.state.app)
    ⟨Bank.wellFormed_new, AuditLog.wellFormed_new⟩ (fun server event server' hmove h => ?_) events
  cases hmove with
  | arrives | waits => exact h
  | acts found free act => exact act.serves.invariant (fun _ m _ => InOrder.move m) h

theorem InOrder.history {app : AppState} (h : InOrder app) {id : AccountId} {account : Account}
    (hfound : app.bank.accounts[id]? = some account) :
    (account.transactions.map Transaction.id).Pairwise (· < ·) := by
  have hascending := h.bank.chronological id
  rwa [Bank.history_found hfound] at hascending

/-! ## The theorem -/

section Pages

variable {headers : HeaderMap} {env : Env} {state : ApiState} {session : Session}

/-- The query is answered with its page, and the application stays as it is. -/
theorem listAccountTransactions_page {accountId : AccountId} {account : Account}
    {query : TransactionQuery}
    (hsession : (authenticateRequest headers env.authenticatedAt state).1 = .ok session)
    (hview : ensureAccountView state.app session accountId = .ok ())
    (hfound : state.app.bank.accounts[accountId]? = some account)
    (hvalid : ValidPage query.limit query.fromEpochSeconds query.toEpochSeconds) :
    (listAccountTransactions headers env accountId query state).1 =
      .ok (((ordered (account.transactions.filter (transactionMatchesQuery · query))
        (query.order.getD .desc)).take (query.limit.getD 100)).map .fromTransaction) ∧
      (listAccountTransactions headers env accountId query state).2.app = state.app := by
  refine authenticated_ok_iff.mpr ⟨session, ?_, ?_⟩
  · rw [hsession]
    rfl
  simp only [bind_ok_iff, get_ok_iff, lift_ok_iff, onBank_ok_iff, Bank.readAccount_ok_iff,
    pure_ok_iff, validatedLimit_ok_iff, validateTimeWindow_ok_iff]
  exact ⟨_, _, ⟨rfl, rfl⟩, (), _, ⟨hview, rfl⟩, _, _, ⟨⟨⟨hvalid.pos, hvalid.le⟩, rfl⟩, rfl⟩,
    (), _, ⟨hvalid.window, rfl⟩, account, _, ⟨_, ⟨hfound, rfl⟩, rfl⟩, rfl, rfl⟩

theorem listAudit_page {query : AuditQuery}
    (hsession : (authenticateRequest headers env.authenticatedAt state).1 = .ok session)
    (hmanage : session.can .manageIdentity = true)
    (hvalid : ValidPage query.limit query.fromEpochSeconds query.toEpochSeconds) :
    (listAudit headers env query state).1 =
      .ok (((ordered (state.app.auditLog.entries.filter (auditMatchesQuery · query))
        (query.order.getD .desc)).take (query.limit.getD 100)).map .fromEntry) ∧
      (listAudit headers env query state).2.app = state.app := by
  refine authenticated_ok_iff.mpr ⟨session, ?_, ?_⟩
  · rw [hsession]
    rfl
  simp only [bind_ok_iff, get_ok_iff, lift_ok_iff, pure_ok_iff, authorize_ok_iff,
    validatedLimit_ok_iff, validateTimeWindow_ok_iff]
  exact ⟨(), _, ⟨hmanage, rfl⟩, _, _, ⟨rfl, rfl⟩, _, _, ⟨⟨⟨hvalid.pos, hvalid.le⟩, rfl⟩, rfl⟩,
    (), _, ⟨hvalid.window, rfl⟩, rfl, rfl⟩

end Pages

/-- Whoever may see an account is answered the page of its history that the
query asks for, and whoever manages identities that of the audit log: of all
that the query admits, as many as the limit allows, those with the largest
ids from the largest down, or with the smallest from the smallest up. -/
theorem history_queries_return_the_page (state : ApiState)
    (hreached : ReachedByRequests state.app) (headers : HeaderMap) (env : Env)
    (session : Session)
    (hsession : (authenticateRequest headers env.authenticatedAt state).1 = .ok session) :
    (∀ accountId account query,
      ensureAccountView state.app session accountId = .ok () →
      state.app.bank.accounts[accountId]? = some account →
      ValidPage query.limit query.fromEpochSeconds query.toEpochSeconds →
      ∃ page, (listAccountTransactions headers env accountId query state).1 =
          .ok (page.map .fromTransaction) ∧
        FirstOf (fun t u => Precedes query.order t.id u.id) (query.limit.getD 100)
          (account.transactions.filter (query.Admits ·)) page) ∧
    (∀ query : AuditQuery, session.can .manageIdentity = true →
      ValidPage query.limit query.fromEpochSeconds query.toEpochSeconds →
      ∃ page, (listAudit headers env query state).1 = .ok (page.map .fromEntry) ∧
        FirstOf (fun e f => Precedes query.order e.id f.id) (query.limit.getD 100)
          (state.app.auditLog.entries.filter (query.Admits ·)) page) := by
  have hinOrder := inOrder_of_reached hreached
  constructor
  · intro accountId account query hview hfound hvalid
    refine ⟨_, (listAccountTransactions_page hsession hview hfound hvalid).1, ?_⟩
    have hsame : (transactionMatchesQuery · query) = fun t => decide (query.Admits t) := by
      funext t
      rw [Bool.eq_iff_iff, transactionMatchesQuery_iff, decide_eq_true_iff]
    rw [hsame]
    exact firstOf_ordered (hinOrder.history hfound) _ query.order _
  · intro query hmanage hvalid
    refine ⟨_, (listAudit_page hsession hmanage hvalid).1, ?_⟩
    have hsame : (auditMatchesQuery · query) = fun e => decide (query.Admits e) := by
      funext e
      rw [Bool.eq_iff_iff, auditMatchesQuery_iff, decide_eq_true_iff]
    rw [hsame]
    exact firstOf_ordered hinOrder.auditLog.increasing _ query.order _

/-- Of two deposits the later one. -/
theorem history_queries_return_the_page_newest :
    let env : Env := ⟨5, 5, 5, 5, 5, 5, sampleSalt, ["token"]⟩
    let headers : HeaderMap := ⟨some (.text "Bearer token")⟩
    let state := (Server.after sampleArgon2
      [.arrive (.bootstrapAdmin ⟨1, "root", "correct-password"⟩), .act 0 env, .act 0 env,
       .arrive (.createAccount headers ⟨7, none, "A", "a@b", ⟨100, by decide⟩⟩), .act 1 env,
       .act 1 env, .arrive (.deposit headers 7 ⟨⟨20, by decide⟩⟩), .act 2 env, .act 2 env,
       .arrive (.deposit headers 7 ⟨⟨30, by decide⟩⟩), .act 3 env, .act 3 env]).state
    let query : TransactionQuery := ⟨some "deposit", some 5, some 5, some 1, none⟩
    (listAccountTransactions headers env 7 query state).1.toOption.map
        (·.map TransactionResponse.id) = some [3] ∧
      ∀ account, state.app.bank.accounts[(7 : AccountId)]? = some account →
        ∃ page, (listAccountTransactions headers env 7 query state).1 =
            .ok (page.map .fromTransaction) ∧
          FirstOf (fun t u => Precedes none t.id u.id) 1
            (account.transactions.filter (query.Admits ·)) page := by
  intro env headers state query
  refine ⟨by decide +kernel, fun account hfound => ?_⟩
  have hpages := history_queries_return_the_page state ⟨_, _, rfl⟩ headers env
    ⟨1, "root", .admin, none⟩ (by decide +kernel)
  exact hpages.1 7 account query rfl hfound ⟨by decide, by decide, by decide⟩

end Banck.Api
