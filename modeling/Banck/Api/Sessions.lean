/-
Banck.Api.Sessions — the sessions of the API: a bearer token for each, and
the time at which it ends (`ApiSessionStore` of `src/api.rs`).

A new token is drawn from the random generator until one is drawn that no
session has. The tokens drawn are an argument; the loop has not come to an
end where none of them is unused.
-/
import Banck.Api.Error

namespace Banck.Api

open Lib

def sessionTtlSeconds : Nat := 8 * 60 * 60

structure StoredApiSession where
  session : Session
  expiresAtEpochSeconds : Nat
  deriving DecidableEq, Repr

structure IssuedSession where
  accessToken : String
  expiresAtEpochSeconds : Nat
  deriving DecidableEq, Repr

structure ApiSessionStore where
  sessionsByToken : OrdMap String StoredApiSession
  deriving DecidableEq

namespace ApiSessionStore

def new : ApiSessionStore := ⟨∅⟩

def removeExpired (store : ApiSessionStore) (now : Nat) : ApiSessionStore :=
  ⟨store.sessionsByToken.retain fun _ session => decide (now < session.expiresAtEpochSeconds)⟩

/-- The first of the drawn tokens that no session has. -/
def unusedToken (store : ApiSessionStore) (drawn : List String) : Option String :=
  drawn.find? fun token => !store.sessionsByToken.contains token

/-- Nothing is returned while the loop for a token runs. -/
def issue (session : Session) (now : Nat) (drawn : List String) :
    Mut ApiSessionStore Unit IssuedSession := do
  Mut.modify fun store => store.removeExpired now
  let store ← Mut.get
  let accessToken ← Mut.okOr (store.unusedToken drawn) ()
  let expiresAtEpochSeconds := saturatingAddU64 now sessionTtlSeconds
  Mut.modify fun store =>
    ⟨store.sessionsByToken.insert accessToken { session, expiresAtEpochSeconds }⟩
  pure { accessToken, expiresAtEpochSeconds }

def authenticate (token : String) (now : Nat) : Mut ApiSessionStore ApiError Session := do
  Mut.modify fun store => store.removeExpired now
  let store ← Mut.get
  Mut.okOr (store.sessionsByToken[token]?.map StoredApiSession.session)
    (.unauthorized "invalid or expired bearer token")

def revoke (store : ApiSessionStore) (token : String) : ApiSessionStore :=
  ⟨store.sessionsByToken.erase token⟩

end ApiSessionStore

end Banck.Api
