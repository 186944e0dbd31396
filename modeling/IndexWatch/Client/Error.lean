namespace IndexWatch

inductive ClientError where
  -- No complete answer came.
  | transport (reason : String)
  | unauthorized (path : String)
  | mfaRequired
  | api (status : Nat) (id : Option String) (message : String)
  | decode (path : String) (reason : String)
  | invalidUrl (url : String) (reason : String)
  | disposed
  deriving DecidableEq, Repr

namespace ClientError

def message : ClientError → String
  | transport reason => "Network error: " ++ reason
  | unauthorized path => "Unauthorized request to " ++ path
  | mfaRequired => "Multi-factor authentication required"
  | api _ _ message => message
  | decode path reason => "Failed to decode response from " ++ path ++ ": " ++ reason
  | invalidUrl url reason => "Invalid server URL '" ++ url ++ "': " ++ reason
  | disposed => "Status controller is unmounted"

def status : ClientError → Option Nat
  | api status _ _ => some status
  | unauthorized _ => some 401
  | _ => none

def isTransport : ClientError → Bool
  | transport _ => true
  | _ => false

end ClientError

end IndexWatch
