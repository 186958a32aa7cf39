/-
Banck.Api.Error — the error responses of the API: a status code and a
message (`ApiError` of `src/api.rs`).
-/
import Banck.App

namespace Banck.Api

inductive StatusCode where
  | badRequest
  | unauthorized
  | forbidden
  | notFound
  | conflict
  | tooManyRequests
  | internalServerError
  deriving DecidableEq, Repr

structure ApiError where
  status : StatusCode
  message : String
  deriving DecidableEq, Repr

namespace ApiError

def badRequest (message : String) : ApiError := ⟨.badRequest, message⟩

def unauthorized (message : String) : ApiError := ⟨.unauthorized, message⟩

def forbidden (message : String) : ApiError := ⟨.forbidden, message⟩

def conflict (message : String) : ApiError := ⟨.conflict, message⟩

def tooManyRequests (message : String) : ApiError := ⟨.tooManyRequests, message⟩

def internalServerError (message : String) : ApiError := ⟨.internalServerError, message⟩

def fromBank (error : BankError) : ApiError :=
  let status := match error with
    | .accountNotFound _ => .notFound
    | .accountAlreadyExists _ => .conflict
    | .accountInactive _ | .accountClosed _ => .conflict
    | .insufficientFunds _ _ _ => .conflict
    | .accountHasBalance _ _ | .accountHasLoan _ _ => .conflict
    | .arithmeticOverflow => .internalServerError
    | .duplicateTransactionId _ | .invalidTransactionId _ => .badRequest
    | .sameAccountTransfer _ | .invalidAmount | .invalidProfileField _ | .noLoan _ =>
        .badRequest
  ⟨status, error.display⟩

def fromIdentity (error : IdentityError) : ApiError :=
  let status := match error with
    | .invalidCredentials => .unauthorized
    | .permissionDenied _ _ => .forbidden
    | .customerNotFound _ | .userNotFound _ => .notFound
    | .customerAlreadyExists _ | .userAlreadyExists _ | .usernameAlreadyExists _ => .conflict
    | .passwordHash _ => .internalServerError
    | .invalidProfileField _ | .passwordTooWeak | .roleRequiresCustomer
    | .roleCannotHaveCustomer => .badRequest
  ⟨status, error.display⟩

end ApiError

end Banck.Api
