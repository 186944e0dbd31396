import IndexWatch.Url.Host

namespace IndexWatch

namespace Url

inductive Path where
  -- A path that does not start with a slash, in a URL without host.
  | rootless (text : List Char)
  | segments (list : List (List Char))
  deriving DecidableEq

def Path.text : Path → List Char
  | .rootless text => text
  | .segments list => list.flatMap ('/' :: ·)

end Url

structure Url where
  scheme : List Char
  username : List Char
  password : List Char
  host : Option Url.Host
  port : Option (Fin UInt16.size)
  path : Url.Path
  query : Option (List Char)
  fragment : Option (List Char)
  deriving DecidableEq

namespace Url

-- Schemes with a host and rules of their own, other than `file`, and their default ports.
def defaultPort? : List Char → Option (Fin UInt16.size)
  | ['h', 't', 't', 'p'] => some ⟨80, by decide⟩
  | ['h', 't', 't', 'p', 's'] => some ⟨443, by decide⟩
  | ['w', 's'] => some ⟨80, by decide⟩
  | ['w', 's', 's'] => some ⟨443, by decide⟩
  | ['f', 't', 'p'] => some ⟨21, by decide⟩
  | _ => none

def isHttp (u : Url) : Bool := u.scheme == "http".toList || u.scheme == "https".toList

def hasHost (u : Url) : Bool :=
  match u.host with
  | some (.domain name) => !name.isEmpty
  | some _ => true
  | none => false

def userinfo (u : Url) : List Char :=
  if u.username.isEmpty && u.password.isEmpty then []
  else u.username ++ (if u.password.isEmpty then [] else ':' :: u.password) ++ ['@']

-- The host with what belongs to it, and the slashes before it. Without host, a path whose text
-- would be taken for a host is kept apart by a dot.
def authority (u : Url) : List Char :=
  match u.host with
  | some host =>
    '/' :: '/' :: (u.userinfo ++ host.text ++
      match u.port with
      | some p => ':' :: Nat.toDigits 10 p
      | none => [])
  | none =>
    match u.path with
    | .segments ([] :: _ :: _) => ['/', '.']
    | _ => []

def pathAndQuery (u : Url) : List Char :=
  u.path.text ++ match u.query with
    | some q => '?' :: q
    | none => []

def text (u : Url) : List Char :=
  u.scheme ++ ':' :: (u.authority ++ u.pathAndQuery ++
    match u.fragment with
    | some f => '#' :: f
    | none => [])

end Url

end IndexWatch
