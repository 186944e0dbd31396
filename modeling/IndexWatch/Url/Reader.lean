import IndexWatch.Text.Blank
import IndexWatch.Url.Basic

namespace IndexWatch.Url

def isSchemeCharacter (c : Char) : Bool :=
  Percent.isAlphanumeric c || c == '+' || c == '-' || c == '.'

def takeScheme? (cs : List Char) : Option (List Char × List Char) :=
  match cs.takeWhile isSchemeCharacter, cs.dropWhile isSchemeCharacter with
  | c :: scheme, ':' :: rest =>
    if c.isAlpha then some ((c :: scheme).map Char.toLower, rest) else none
  | _, _ => none

def endsAuthority (web : Bool) (c : Char) : Bool :=
  c == '/' || c == '?' || c == '#' || (web && c == '\\')

def breakLastAt? (cs : List Char) : Option (List Char × List Char) :=
  let behind := cs.reverse.takeWhile (· ≠ '@')
  if behind.length = cs.length then none
  else some (cs.take (cs.length - behind.length - 1), behind.reverse)

def takeHost (inside : Bool) : List Char → List Char × List Char
  | [] => ([], [])
  | c :: rest =>
    if c == ':' && !inside then ([], c :: rest)
    else
      let (host, behind) := takeHost (c == '[' || (inside && c != ']')) rest
      (c :: host, behind)

def credentials (cs : List Char) : List Char × List Char :=
  (Percent.encode Percent.inUserinfo (cs.takeWhile (· ≠ ':')),
    Percent.encode Percent.inUserinfo (cs.dropWhile (· ≠ ':')).tail)

-- The port behind a host, if it is not the default, and what stands behind it.
def takePort (default : Option (Fin UInt16.size)) (cs : List Char) :
    Except Error (Option (Fin UInt16.size) × List Char) :=
  match cs with
  | ':' :: rest =>
    let digits := rest.takeWhile Char.isDigit
    let behind := rest.dropWhile Char.isDigit
    match behind with
    | [] => port digits behind
    | c :: _ => if c == '\\' then port digits behind else throw .invalidPort
  | _ => return (none, cs)
where
  port (digits behind : List Char) : Except Error (Option (Fin UInt16.size) × List Char) :=
    match Numeral.read? 10 digits with
    | none => return (none, behind)
    | some n =>
      if h : n < UInt16.size then return (if default = some ⟨n, h⟩ then none else some ⟨n, h⟩, behind)
      else throw .invalidPort

structure Authority where
  username : List Char
  password : List Char
  host : Host
  port : Option (Fin UInt16.size)

-- Read a host with what belongs to it. `atEnd` tells whether the URL ends here. What stands behind
-- the port belongs to the path.
def readAuthority (default : Option (Fin UInt16.size)) (atEnd : Bool) (cs : List Char) :
    Except Error (Authority × List Char) := do
  let (user, rest) := match breakLastAt? cs with
    | some (user, rest) => (some user, rest)
    | none => (none, cs)
  if user = some [] ∧ rest.isEmpty ∧ !atEnd then throw .emptyHost
  let (username, password) := credentials (user.getD [])
  let (hostText, behind) := takeHost false rest
  if default.isSome ∧ hostText.isEmpty then throw .emptyHost
  let host ← if default.isSome then Host.read hostText else Host.readPlain hostText
  if host = .domain [] ∧ !behind.isEmpty then throw .emptyHost
  let (port, behind) ← takePort default behind
  if host = .domain [] ∧ !(username.isEmpty && password.isEmpty) then throw .emptyHost
  return (⟨username, password, host, port⟩, behind)

-- Whether a segment stands for the segment before it.
def isSingleDot (s : List Char) : Bool :=
  [".", "%2e"].contains (String.ofList (s.map Char.toLower))

-- Whether a segment takes back the segment before it.
def isDoubleDot (s : List Char) : Bool :=
  ["..", ".%2e", "%2e.", "%2e%2e"].contains (String.ofList (s.map Char.toLower))

-- A letter with a colon or bar, as in front of a path on a disk.
def isDrive (s : List Char) : Bool :=
  match s with
  | [c, d] => c.isAlpha && (d == ':' || d == '|')
  | _ => false

def withColon (s : List Char) : List Char := if isDrive s then s.take 1 ++ [':'] else s

def startsWithDrive : List Char → Bool
  | c :: d :: '\\' :: _ => isDrive [c, d]
  | s => isDrive s

-- Take back the last segment; a drive stays.
def dropSegment (before : List (List Char)) : List (List Char) :=
  if before.getLast?.any startsWithDrive then before else before.dropLast

def pushSegment (file : Bool) (before : List (List Char)) (s : List Char) : List (List Char) :=
  before ++ [if file && before.isEmpty then withColon s else s]

-- Resolve the dots among segments, behind segments that are resolved already. The last segment
-- never vanishes: where it is a dot, an empty one takes its place.
def resolve (file : Bool) (before : List (List Char)) : List (List Char) → List (List Char)
  | [] => before
  | [s] =>
    if isDoubleDot s then dropSegment before ++ [[]]
    else if isSingleDot s then before ++ [[]]
    else pushSegment file before s
  | s :: rest =>
    if isDoubleDot s then resolve file (dropSegment before) rest
    else if isSingleDot s then resolve file before rest
    else resolve file (pushSegment file before s) rest

def readSegments (web : Bool) (cs : List Char) : List (List Char) :=
  (splitBy (fun c => c == '/' || (web && c == '\\')) cs).map (Percent.encode Percent.inPath)

def dropSlash (web : Bool) : List Char → List Char
  | '/' :: rest => rest
  | '\\' :: rest => if web then rest else '\\' :: rest
  | cs => cs

def webPath (cs : List Char) : Path :=
  .segments (resolve false [] (readSegments true (dropSlash true cs)))

def plainPath (cs : List Char) : Path := .segments (resolve false [] (readSegments false cs))

-- The path behind a host in another scheme. It may be missing.
def plainPathBehindHost (cs : List Char) : Path :=
  if cs.isEmpty then .segments [] else plainPath (dropSlash false cs)

def fileSegments (cs : List Char) : List (List Char) := resolve true [] (readSegments true cs)

-- The path of a file. Empty segments in front count for nothing.
def filePath (segments : List (List Char)) : Path :=
  match segments.dropWhile List.isEmpty with
  | [] => .segments [[]]
  | list => .segments list

def endsPath (c : Char) : Bool := c == '?' || c == '#'

def queryAndFragment (inQuery : Char → Bool) (cs : List Char) :
    Option (List Char) × Option (List Char) :=
  let fragment? (cs : List Char) : Option (List Char) := match cs with
    | '#' :: rest => some (Percent.encode Percent.inFragment rest)
    | _ => none
  match cs with
  | '?' :: rest =>
    (some (Percent.encode inQuery (rest.takeWhile (· ≠ '#'))), fragment? (rest.dropWhile (· ≠ '#')))
  | cs => (none, fragment? cs)

def withoutHost (scheme : List Char) (path : Path) (rest : List Char) : Url where
  scheme := scheme
  username := []
  password := []
  host := none
  port := none
  path := path
  query := (queryAndFragment Percent.inQuery rest).1
  fragment := (queryAndFragment Percent.inQuery rest).2

def readWithHost (scheme : List Char) (default : Option (Fin UInt16.size)) (cs : List Char) :
    Except Error Url := do
  let web := default.isSome
  let before := cs.takeWhile (!endsAuthority web ·)
  let rest := cs.dropWhile (!endsAuthority web ·)
  let (a, behind) ← readAuthority default rest.isEmpty before
  let rest := behind ++ rest
  let path := rest.takeWhile (!endsPath ·)
  let (query, fragment) := queryAndFragment
    (if web then Percent.inSpecialQuery else Percent.inQuery) (rest.dropWhile (!endsPath ·))
  return {
    scheme := scheme
    username := a.username
    password := a.password
    host := some a.host
    port := a.port
    path := if web then webPath path else plainPathBehindHost path
    query := query
    fragment := fragment }

def isSlash (c : Char) : Bool := c == '/' || c == '\\'

-- The host of a file, and the text of its path. The host stands behind two slashes, where no drive
-- stands. The host of this machine is none, and then the path starts with its slash.
def readFileHost (cs : List Char) : Except Error (Host × List Char) := do
  match cs with
  | a :: b :: rest =>
    if !isSlash a then return (.domain [], cs)
    else if !isSlash b then return (.domain [], b :: rest)
    else
      let text := rest.takeWhile (!endsAuthority true ·)
      let behind := rest.dropWhile (!endsAuthority true ·)
      if isDrive text then return (.domain [], rest)
      else if text.isEmpty then return (.domain [], behind)
      else
        let host ← Host.read text
        if host = .domain "localhost".toList then return (.domain [], behind)
        else return (host, dropSlash true behind)
  | cs => return (.domain [], dropSlash true cs)

def readFile (cs : List Char) : Except Error Url := do
  let (host, rest) ← readFileHost cs
  let segments := fileSegments (rest.takeWhile (!endsPath ·))
  let host := if segments.head?.any isDrive then .domain [] else host
  let (query, fragment) := queryAndFragment Percent.inSpecialQuery (rest.dropWhile (!endsPath ·))
  return ⟨"file".toList, [], [], some host, none, filePath segments, query, fragment⟩

-- The text of a URL without control characters and blanks at its ends, and without tabs and line
-- ends anywhere.
def trim (cs : List Char) : List Char :=
  (trimBoth (·.toNat ≤ 0x20) cs).filter fun c => c != '\t' && c != '\n' && c != '\r'

def read (cs : List Char) : Except Error Url :=
  match takeScheme? (trim cs) with
  | none => throw .noScheme
  | some (scheme, rest) =>
    if scheme = "file".toList then readFile rest
    else match defaultPort? scheme, rest with
      | some port, rest => readWithHost scheme (some port) (rest.dropWhile isSlash)
      | none, '/' :: '/' :: rest => readWithHost scheme none rest
      | none, '/' :: rest =>
        return withoutHost scheme (plainPath (rest.takeWhile (!endsPath ·)))
          (rest.dropWhile (!endsPath ·))
      | none, rest =>
        return withoutHost scheme
          (.rootless (Percent.encode Percent.isControl (rest.takeWhile (!endsPath ·))))
          (rest.dropWhile (!endsPath ·))

def parse (s : String) : Except Error Url := read s.toList

end IndexWatch.Url
