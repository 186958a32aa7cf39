/-
Banck.App — the state of the whole program (`src/app.rs`).
-/
import Banck.Audit
import Banck.Bank

namespace Banck

structure AppState where
  bank : Bank
  identities : IdentityStore
  auditLog : AuditLog
  deriving DecidableEq

def AppState.new : AppState := ⟨Bank.new, IdentityStore.new, AuditLog.new⟩

end Banck
