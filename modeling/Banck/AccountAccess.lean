/-
Banck.AccountAccess — the rule of who sees and moves which account
(`access_paths_agree`).

The source writes the rule four times: in the check and in the list of
`src/api.rs`, and again in those of `src/cli.rs`. The two checks both say
`Session.Reaches`, and each list is the filter of the accounts by the check
that lets an account be viewed (`listedFor`).
-/
import Banck.Api.RoleIntegrity
import Banck.BankNumbering
import Banck.CliMoves

namespace Banck

open Lib

def Bank.isEmpty (bank : Bank) : Bool := bank.accounts.isEmpty

namespace Cli

/-! ## The list of the command line -/

def accountInfo (account : Account) : String :=
  let owner := (account.ownerId.map toString).getD "none"
  "ID: " ++ toString account.id ++ ", Owner: " ++ owner ++ ", Name: " ++ account.name
    ++ ", Email: " ++ account.email ++ ", Balance: " ++ account.balance.display
    ++ ", Loan: " ++ account.loanBalance.display ++ ", Status: " ++ account.status.display

/-- What `list` prints: the accounts it lists, or why there are none. -/
inductive Printed where
  | info (account : Account)
  | message (text : String)

def Printed.text : Printed → String
  | info account => accountInfo account
  | message text => text

def Printed.account? : Printed → Option Account
  | info account => some account
  | message _ => none

def listAccounts (app : AppState) (session : Option Session) : List Printed :=
  match session with
  | none => [.message "Please login first"]
  | some session =>
      if app.bank.isEmpty then
        [.message "No accounts found"]
      else if session.can .viewAnyAccount then
        app.bank.accountList.map .info
      else if session.can .viewOwnAccount = false then
        [.message ("Permission denied: "
          ++ (IdentityError.permissionDenied session.role .viewOwnAccount).display)]
      else
        let own := app.bank.accountList.filter fun account =>
          account.ownerId.isSome && account.ownerId == session.customerId
        if own.isEmpty then
          [.message "No accounts found for this customer"]
        else
          own.map .info

end Cli

/-! ## The rule -/

/-- The session has the permission for any account, or that for its own and
owns this one. -/
def Session.Reaches (session : Session) (bank : Bank) (id : AccountId)
    (anyPermission ownPermission : Permission) : Prop :=
  session.can anyPermission = true ∨ session.can ownPermission = true ∧
    ∃ account, bank.accounts[id]? = some account ∧ session.Owns account

variable {app : AppState} {session : Session}

theorem ensureAccountAccess_iff_reaches {id : AccountId}
    {anyPermission ownPermission : Permission} :
    Api.ensureAccountAccess app session id anyPermission ownPermission = .ok () ↔
      session.Reaches app.bank id anyPermission ownPermission :=
  Api.ensureAccountAccess_ok_iff

theorem authorizeAccountAccess_iff_reaches {id : AccountId}
    {anyPermission ownPermission : Permission} :
    Cli.authorizeAccountAccess app (some session) id anyPermission ownPermission = true ↔
      session.Reaches app.bank id anyPermission ownPermission := by
  rw [Cli.authorizeAccountAccess_iff]
  simp [Session.Reaches]

/-- Whoever may not view every account may view their own. -/
theorem can_viewOwnAccount (hany : session.can .viewAnyAccount = false) :
    session.can .viewOwnAccount = true := by
  unfold Session.can at *
  cases hrole : session.role with
  | customer => rfl
  | teller => rw [hrole] at hany; cases hany
  | admin => rw [hrole] at hany; cases hany

/-! ## The lists -/

/-- The accounts in the list of a session. -/
def listedFor (app : AppState) (session : Session) : List Account :=
  if session.can .viewAnyAccount then
    app.bank.accountList
  else
    app.bank.accountList.filter fun account => Api.IsOwnedBy account session

theorem visibleAccounts_eq :
    Api.visibleAccounts app session = .ok ((listedFor app session).map .fromAccount) := by
  unfold Api.visibleAccounts listedFor
  cases hany : session.can .viewAnyAccount with
  | true => rfl
  | false =>
    have hown : Api.authorize session .viewOwnAccount = .ok () :=
      Api.authorize_ok_iff.mpr (can_viewOwnAccount hany)
    rw [hown]
    rfl

theorem accountList_of_isEmpty {bank : Bank} (h : bank.isEmpty = true) :
    bank.accountList = [] := by
  refine List.eq_nil_iff_forall_not_mem.mpr fun account hmem => ?_
  obtain ⟨id, hfound⟩ := OrdMap.mem_vals.mp hmem
  have hempty : bank.accounts = ∅ := Std.ExtTreeMap.isEmpty_iff.mp h
  rw [hempty, Std.ExtTreeMap.getElem?_empty] at hfound
  cases hfound

/-- `list` prints the accounts of the session's list, one by one, or if there
are none a single message. -/
theorem listAccounts_shape (app : AppState) (session : Session) :
    Cli.listAccounts app (some session) = (listedFor app session).map .info ∨
      listedFor app session = [] ∧
        ∃ text, Cli.listAccounts app (some session) = [.message text] := by
  have hsame : (fun account : Account =>
      account.ownerId.isSome && account.ownerId == session.customerId) =
      fun account => decide (Api.IsOwnedBy account session) := by
    funext account
    rw [Bool.eq_iff_iff, decide_eq_true_iff, Bool.and_eq_true, beq_iff_eq]
    rfl
  unfold Cli.listAccounts listedFor
  simp only [hsame]
  by_cases hempty : app.bank.isEmpty = true
  · rw [if_pos hempty, accountList_of_isEmpty hempty]
    exact .inr ⟨by split <;> rfl, _, rfl⟩
  rw [if_neg hempty]
  cases hany : session.can .viewAnyAccount with
  | true => exact .inl rfl
  | false =>
    rw [if_neg Bool.false_ne_true, if_neg (by simp [can_viewOwnAccount hany]),
      if_neg Bool.false_ne_true]
    split
    · next hnone => exact .inr ⟨List.isEmpty_iff.mp hnone, _, rfl⟩
    · exact .inl rfl

theorem filterMap_account? (accounts : List Account) :
    (accounts.map Cli.Printed.info).filterMap Cli.Printed.account? = accounts := by
  induction accounts with
  | nil => rfl
  | cons account rest ih =>
    show account :: (rest.map Cli.Printed.info).filterMap Cli.Printed.account? = _
    rw [ih]

theorem listAccounts_eq :
    (Cli.listAccounts app (some session)).filterMap Cli.Printed.account? =
      listedFor app session := by
  rcases listAccounts_shape app session with h | ⟨hnone, text, h⟩
  · rw [h, filterMap_account?]
  · rw [h, hnone]
    rfl

theorem listAccounts_text (h : listedFor app session ≠ []) :
    (Cli.listAccounts app (some session)).map Cli.Printed.text =
      (listedFor app session).map Cli.accountInfo := by
  rcases listAccounts_shape app session with heq | ⟨hnone, -⟩
  · rw [heq, List.map_map]
    rfl
  · exact absurd hnone h

theorem mem_listedFor (hkeyed : OrdMap.Keyed Account.id app.bank.accounts)
    {account : Account} :
    account ∈ listedFor app session ↔ account ∈ app.bank.accountList ∧
      Api.ensureAccountView app session account.id = .ok () := by
  have hview : account ∈ app.bank.accountList →
      (Api.ensureAccountView app session account.id = .ok () ↔
        session.can .viewAnyAccount = true ∨
          session.can .viewOwnAccount = true ∧ session.Owns account) := by
    intro hmem
    obtain ⟨id, hfound⟩ := OrdMap.mem_vals.mp hmem
    obtain rfl := hkeyed id account hfound
    show Api.ensureAccountAccess app session account.id .viewAnyAccount .viewOwnAccount
      = .ok () ↔ _
    rw [Api.ensureAccountAccess_ok_iff, hfound]
    simp
  unfold listedFor
  cases hany : session.can .viewAnyAccount with
  | true =>
    show account ∈ app.bank.accountList ↔ _
    exact ⟨fun hmem => ⟨hmem, (hview hmem).mpr (.inl hany)⟩, And.left⟩
  | false =>
    rw [if_neg (by simp), List.mem_filter, decide_eq_true_iff, Api.isOwnedBy_iff]
    refine and_congr_right fun hmem => ?_
    rw [hview hmem, hany, can_viewOwnAccount hany]
    simp

theorem listedFor_ascending (hkeyed : OrdMap.Keyed Account.id app.bank.accounts) :
    ((listedFor app session).map Account.id).Pairwise (· < ·) := by
  have hall := Bank.accountList_ascending hkeyed
  rw [List.pairwise_map]
  unfold listedFor
  split
  · exact hall
  · exact hall.filter _

theorem Api.Reachable.keyed {bank : Bank} (h : Api.Reachable bank) :
    OrdMap.Keyed Account.id bank.accounts := by
  obtain ⟨start, calls, hstart, rfl⟩ := h
  exact BankCall.final_of_step (I := fun bank => OrdMap.Keyed Account.id bank.accounts)
    (fun _ _ _ => Bank.keyed_step) hstart.keyed calls

/-- The check of the command line and that of the API let the same sessions
through to the same accounts. Both lists show, in ascending order, just the
accounts that the check lets the session view, and if there are any the
command prints nothing else. -/
theorem access_paths_agree (app : AppState) (hbank : Api.Reachable app.bank)
    (session : Session) :
    (∀ id anyPermission ownPermission,
      Cli.authorizeAccountAccess app (some session) id anyPermission ownPermission = true ↔
        Api.ensureAccountAccess app session id anyPermission ownPermission = .ok ()) ∧
    ∃ accounts : List Account,
      Api.visibleAccounts app session = .ok (accounts.map .fromAccount) ∧
      (Cli.listAccounts app (some session)).filterMap Cli.Printed.account? = accounts ∧
      (accounts ≠ [] → (Cli.listAccounts app (some session)).map Cli.Printed.text =
        accounts.map Cli.accountInfo) ∧
      (accounts.map Account.id).Pairwise (· < ·) ∧
      ∀ account, account ∈ accounts ↔ account ∈ app.bank.accountList ∧
        Api.ensureAccountView app session account.id = .ok () := by
  refine ⟨fun id anyPermission ownPermission => ?_, listedFor app session,
    visibleAccounts_eq, listAccounts_eq, listAccounts_text, listedFor_ascending hbank.keyed,
    fun account => ?_⟩
  · rw [authorizeAccountAccess_iff_reaches, ensureAccountAccess_iff_reaches]
  · exact mem_listedFor hbank.keyed

/-- Of two accounts, a customer finds the one they own in the list. -/
theorem access_paths_agree_customer :
    let bank := BankCall.final Bank.new
      [.call (.createAccount 2 none "B" "b@b" ⟨0, by decide⟩ 0),
       .call (.createAccount 1 (some 7) "A" "a@b" ⟨100, by decide⟩ 0)]
    let app : AppState := ⟨bank, .new, .new⟩
    let session : Session := ⟨3, "ann", .customer, some 7⟩
    let listed := (Cli.listAccounts app (some session)).filterMap Cli.Printed.account?
    listed.map Account.id = [1] ∧
      (∀ account, account ∈ listed ↔ account ∈ app.bank.accountList ∧
        Api.ensureAccountView app session account.id = .ok ()) ∧
      (Cli.authorizeAccountAccess app (some session) 2 .viewAnyAccount .viewOwnAccount = true ↔
        Api.ensureAccountAccess app session 2 .viewAnyAccount .viewOwnAccount = .ok ()) := by
  intro bank app session listed
  have hagree := access_paths_agree app ⟨_, _, .inl rfl, rfl⟩ session
  refine ⟨by decide +kernel, ?_, hagree.1 2 _ _⟩
  obtain ⟨accounts, -, hlisted, -, -, hmem⟩ := hagree.2
  show ∀ account, account ∈ (Cli.listAccounts app (some session)).filterMap _ ↔ _
  rw [hlisted]
  exact hmem

end Banck
