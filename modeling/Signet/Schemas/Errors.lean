import Signet.Kit.Json

/-!
# Typed errors

The error classes of the schemas package, with the numeric code and the
category each class fixes, and the static factories that build the message and
the context of an error.
-/

namespace Signet
namespace Schemas

open Kit

inductive ErrorCategory where
  | validation
  | notFound
  | permission
  | auth
  | internal
  | timeout
  | cancelled
  | network
deriving DecidableEq, Repr

def ErrorCategory.text : ErrorCategory → String
  | .validation => "validation"
  | .notFound => "not_found"
  | .permission => "permission"
  | .auth => "auth"
  | .internal => "internal"
  | .timeout => "timeout"
  | .cancelled => "cancelled"
  | .network => "network"

/-- The `_tag` discriminant of the error classes. -/
inductive ErrorTag where
  | validationError
  | sealError
  | notFoundError
  | permissionError
  | authError
  | credentialExpiredError
  | internalError
  | timeoutError
deriving DecidableEq, Repr

/-- The `code` field each class fixes. -/
def ErrorTag.code : ErrorTag → Nat
  | .validationError => 1000
  | .sealError => 1010
  | .notFoundError => 1100
  | .permissionError => 1200
  | .authError => 1300
  | .credentialExpiredError => 1310
  | .internalError => 1400
  | .timeoutError => 1500

/-- The `category` field each class fixes. -/
def ErrorTag.category : ErrorTag → ErrorCategory
  | .validationError => .validation
  | .sealError => .validation
  | .notFoundError => .notFound
  | .permissionError => .permission
  | .authError => .auth
  | .credentialExpiredError => .auth
  | .internalError => .internal
  | .timeoutError => .timeout

inductive ContextValue where
  | text (value : String)
  | number (value : Int)
  /-- An ISO timestamp, as milliseconds since the epoch. -/
  | instant (ms : Int)
  /-- A number of seconds, kept as its milliseconds. -/
  | seconds (ms : Int)
  /-- A value taken over from a received error. -/
  | json (value : Json)
deriving DecidableEq, Repr

/-- An error value; `code` and `category` follow from the tag. -/
structure SignetError where
  tag : ErrorTag
  message : String
  context : Option (List (String × ContextValue))
deriving DecidableEq, Repr

namespace SignetError

def code (error : SignetError) : Nat := error.tag.code

def category (error : SignetError) : ErrorCategory := error.tag.category

end SignetError

/-- How a call can fail: with an error value, or by throwing the `RangeError` of
a date that has no ISO form. -/
inductive Failure where
  | error (error : SignetError)
  | rangeError
deriving DecidableEq, Repr

/-- `AuthError.create` -/
def AuthError.create (message : String)
    (context : Option (List (String × ContextValue)) := none) : SignetError :=
  ⟨.authError, message, context⟩

/-- `CredentialExpiredError.create` -/
def CredentialExpiredError.create (credentialId : String) : SignetError :=
  ⟨.credentialExpiredError, "Credential '" ++ credentialId ++ "' has expired",
    some [("credentialId", .text credentialId)]⟩

/-- `NotFoundError.create` -/
def NotFoundError.create (resourceType resourceId : String) : SignetError :=
  ⟨.notFoundError, resourceType ++ " '" ++ resourceId ++ "' not found",
    some [("resourceType", .text resourceType), ("resourceId", .text resourceId)]⟩

/-- `PermissionError.create` -/
def PermissionError.create (message : String)
    (context : Option (List (String × ContextValue)) := none) : SignetError :=
  ⟨.permissionError, message, context⟩

/-- `InternalError.create` -/
def InternalError.create (message : String)
    (context : Option (List (String × ContextValue)) := none) : SignetError :=
  ⟨.internalError, message, context⟩

/-- `ValidationError.create` without extra context. -/
def ValidationError.create (field reason : String) : SignetError :=
  ⟨.validationError, "Validation failed on '" ++ field ++ "': " ++ reason,
    some [("field", .text field), ("reason", .text reason)]⟩

/-- `ValidationError.create` with extra context. -/
def ValidationError.createWith (field reason : String) (extra : List (String × ContextValue)) :
    SignetError :=
  ⟨.validationError, "Validation failed on '" ++ field ++ "': " ++ reason,
    some ([("field", .text field), ("reason", .text reason)] ++ extra)⟩

/-- `TimeoutError.create` -/
def TimeoutError.create (operation : String) (timeoutMs : Nat) : SignetError :=
  ⟨.timeoutError, "Operation '" ++ operation ++ "' timed out after " ++ toString timeoutMs ++ "ms",
    some [("operation", .text operation), ("timeoutMs", .number timeoutMs)]⟩

/-- `SealError.create` -/
def SealError.create (sealId reason : String) : SignetError :=
  ⟨.sealError, "Seal '" ++ sealId ++ "': " ++ reason,
    some [("sealId", .text sealId), ("reason", .text reason)]⟩

end Schemas
end Signet
