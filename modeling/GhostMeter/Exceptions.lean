/-! The application exceptions an API request can end in. -/

namespace GhostMeter

structure AppException where
  statusCode : Nat
  errorCode : String
  detail : String
  deriving DecidableEq

def notFoundException (detail errorCode : String) : AppException := ⟨404, errorCode, detail⟩
def validationException (detail : String) : AppException := ⟨422, "VALIDATION_ERROR", detail⟩
def conflictException (detail errorCode : String) : AppException := ⟨409, errorCode, detail⟩
def forbiddenException (detail errorCode : String) : AppException := ⟨403, errorCode, detail⟩

/-- The `UUID` primary keys; nothing depends on their width. -/
abbrev UUID := Nat

end GhostMeter
