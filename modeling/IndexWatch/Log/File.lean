import IndexWatch.Text.Pieces

namespace IndexWatch.Log

def pathPieces (path : String) : List (List Char) :=
  (splitBy (· == '/') path.toList).filter fun p => !p.isEmpty && p != ['.']

-- A log file: the directories that lead to it, from the root or from the directory of work, and its
-- name.
structure File where
  absolute : Bool
  directory : List (List Char)
  name : List Char
  deriving DecidableEq, Repr

def File.read? (path : String) : Option File :=
  match (pathPieces path).reverse with
  | [] => none
  | name :: directory =>
    if name = ['.', '.'] then none
    else some ⟨path.toList.head? = some '/', directory.reverse, name⟩

def File.missingMessage (path : String) : String := "log file path has no file name: " ++ path

def File.directoryPath (f : File) : String :=
  (if f.absolute then "/" else "") ++ String.ofList (List.intercalate ['/'] f.directory)

def File.pathOn (f : File) (day : String) : String :=
  (if f.absolute then "/" else "") ++
    String.ofList (List.intercalate ['/'] (f.directory ++ [f.name])) ++ "." ++ day

-- The directories of a path with the steps back resolved, or `none` where they lead out.
def resolveDirectory? (directory : List (List Char)) : Option (List (List Char)) :=
  directory.foldlM (fun acc p =>
    if p = ['.', '.'] then (if acc.isEmpty then none else some acc.dropLast)
    else some (acc ++ [p])) []

def File.pathFor? (f : File) (day : String) : Option String := do
  if f.absolute then none
  let directory ← resolveDirectory? f.directory
  return String.ofList (List.intercalate ['/'] (directory ++ [f.name])) ++ "." ++ day

def byteCount (cs : List Char) : Nat := (cs.map Char.utf8Size).foldr (· + ·) 0

def maxPiece : Nat := 255

def maxPath : Nat := 4095

def dayForm : String := "YYYY-MM-DD"

-- Places below which no file can be made: devices, files that every system has, and what the system
-- shows of itself.
def barred : List (List String) :=
  [["dev", "null"], ["dev", "zero"], ["dev", "full"], ["dev", "random"], ["dev", "urandom"],
    ["dev", "tty"], ["etc", "passwd"], ["etc", "hosts"], ["etc", "hostname"], ["proc"], ["sys"]]

def File.canBeMade (f : File) : Bool :=
  f.directory.all (byteCount · ≤ maxPiece) &&
    byteCount f.name + dayForm.length + 1 ≤ maxPiece &&
    (f.pathOn dayForm).utf8ByteSize ≤ maxPath &&
    !(f.absolute && barred.any fun place => (place.map String.toList).isPrefixOf f.directory)

end IndexWatch.Log
