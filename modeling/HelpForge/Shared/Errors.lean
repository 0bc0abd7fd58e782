import HelpForge.Lib.Program

set_option autoImplicit false

namespace HelpForge

/-- What a call can throw: an `ApiError` of the services, a known request error of
the database client, or an error raised by the language itself. -/
inductive ServiceError where
  | api (statusCode : Nat) (message code : String)
  | prisma (code : String)
  | javascript (name message : String)
  | unavailable (statement : String)
  -- An answer that a middleware sends by itself, without a code.
  | rejected (statusCode : Nat) (message : String)
  deriving DecidableEq, Repr

namespace ServiceError

def uniqueConstraint : ServiceError := .prisma "P2002"

def foreignKeyConstraint : ServiceError := .prisma "P2003"

def recordNotFound : ServiceError := .prisma "P2025"

def code : ServiceError → Option String
  | .api _ _ code => some code
  | .prisma code => some code
  | .javascript _ _ => none
  | .unavailable _ => none
  | .rejected _ _ => none

end ServiceError

end HelpForge
