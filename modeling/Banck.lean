import Banck.Lib.Mut
import Banck.Lib.Machine
import Banck.Lib.OrdMap
import Banck.Lib.Unicode
import Banck.Lib.Text
import Banck.Bank
import Banck.BankFailures
import Banck.BankImport
import Banck.BankInvariants
import Banck.BankReload
import Banck.BankLifecycle
import Banck.BankNumbering
import Banck.AppInvariants
import Banck.SqliteRecords
import Banck.SqliteStoreTheorems
import Banck.SqliteMigrations
import Banck.Api.SessionTheorems
import Banck.Api.ThrottleKeys
import Banck.Api.Confidentiality
import Banck.Api.ConcurrentLogins
import Banck.Api.Provenance
import Banck.Api.AuditTrail
import Banck.Api.LockOrder
import Banck.Cli
import Banck.CliAuthorization
import Banck.CliAudit
import Banck.AuditRuns
import Banck.IdentityIndex
import Banck.BankCharges
import Banck.BankCommute
import Banck.ParsingTheorems
import Banck.Api.LockoutCause
import Banck.Api.QueryPages
import Banck.AccountAccess
import Banck.Statement
import Banck.TerminalTurns
import Banck.Api.Serial
import Banck.Api.Progress
import Banck.LoadedStates
import Banck.Api.Books
import Banck.FrontEnds
import Banck.Api.Authentication
import Banck.Api.Outsiders
import Banck.Api.OwnAccounts
