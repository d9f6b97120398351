import RackInventory.Configuration.File

/-!
# Why a call has no result
-/

namespace RackInventory

inductive CallError where
  | configuration (cause : ConfigurationError)
  | exchange
  | status (resource : String) (code : Nat)
  | decode (resource : String) (cause : Json.ReadError)
  | notFound (kind name : String)
deriving DecidableEq

namespace CallError

def isAbsence : CallError → Bool
  | .notFound _ _ => true
  | _ => false

def message : CallError → String
  | .configuration cause => "configuration error: " ++ cause.message
  | .exchange => "HTTP error: error sending request"
  | .status resource code => resource ++ " answered with status " ++ toString code
  | .decode resource cause => "cannot decode " ++ resource ++ ": " ++ cause.message
  | .notFound kind name => kind ++ " not found: " ++ name

def causes : CallError → List String
  | .configuration cause => cause.message :: cause.causes
  | .exchange => ["error sending request"]
  | .decode _ cause => [cause.message]
  | .status _ _ => []
  | .notFound _ _ => []

end CallError

end RackInventory
