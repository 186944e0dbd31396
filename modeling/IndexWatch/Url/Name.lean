import IndexWatch.Text.Pieces
import IndexWatch.Unicode.Composition
import IndexWatch.Unicode.Direction
import IndexWatch.Unicode.Joining
import IndexWatch.Url.NameTable
import IndexWatch.Url.Punycode

namespace IndexWatch.Url.Name

open Unicode

-- The characters that stand for a character in a name, or `none` if it stands in no name.
def images? (c : Char) : Option (List Char) :=
  if c.toNat < 0x80 then some [c.toLower]
  else if ignoredTable.contains c then some []
  else match imageTable.find? c with
    | some run => some (run.shifted c)
    | none => if refusedTable.contains c then none else some [c]

def isItself (c : Char) : Bool := images? c == some [c]

def isForbiddenInHost (c : Char) : Bool :=
  ['\x00', ' ', '#', '/', ':', '<', '>', '?', '@', '[', '\\', ']', '^', '|'].contains c

def isForbidden (c : Char) : Bool :=
  isForbiddenInHost c || c == '%' || c.toNat < 0x20 || c.toNat = 0x7F

def isAscii (c : Char) : Bool := c.toNat < 0x80

def codeMark : List Char := ['x', 'n', '-', '-']

def maxLabel : Nat := 1000

def maxCode : Nat := 2000

-- A label in ASCII. A label beyond ASCII does not look like Punycode already.
def asciiLabel? (label : List Char) : Option (List Char) :=
  if label.all isAscii then
    if codeMark.isPrefixOf label && maxCode + codeMark.length < label.length then none
    else some label
  else if codeMark.isPrefixOf label || maxLabel < label.length then none
  else some (codeMark ++ Punycode.encode label)

-- The label that Punycode stands for. It needs Punycode, and is as it would be if it had been
-- written out.
def decoded? (code : List Char) : Option (List Char) := do
  if code.getLast? = some '-' then none
  let label ← Punycode.decode? code
  if label.any (!isAscii ·) && label.all isItself && normal label == label then some label else none

def shownLabel? : List Char → Option (List Char)
  | 'x' :: 'n' :: '-' :: '-' :: code => decoded? code
  | label => some label

def nonJoiner : Char := '\u200C'

def joiner : Char := '\u200D'

-- Whether a joiner or its opposite has an effect between what stands before it, the last character
-- first, and what stands behind it: it shapes a consonant without vowel, and the opposite also
-- parts letters that would join.
def hasEffect (c : Char) (before rest : List Char) : Bool :=
  before.head?.any (combiningClass · == viramaClass) ||
  (c == nonJoiner && (before.dropWhile isTransparent).head?.any joinsNext &&
    (rest.dropWhile isTransparent).head?.any joinsPrevious)

def joinersHaveEffect (before : List Char) : List Char → Bool
  | [] => true
  | c :: rest =>
    (!(c == nonJoiner || c == joiner) || hasEffect c before rest) &&
      joinersHaveEffect (c :: before) rest

def isRightToLeft (c : Char) : Bool := [.r, .al, .an].contains (Direction.of c)

-- Whether a label reads the same wherever it stands in a text of both directions.
def keepsDirection (label : List Char) : Bool :=
  let ds := label.map Direction.of
  let last := (ds.reverse.dropWhile (· == .nsm)).head?
  let shared : List Direction := [.en, .es, .cs, .et, .on, .bn, .nsm]
  match ds with
  | [] => true
  | d :: _ =>
    if d == .l then ds.all (.l :: shared).contains && last.any [.l, .en].contains
    else
      [Direction.r, .al].contains d && ds.all (.r :: .al :: .an :: shared).contains &&
        last.any [.r, .al, .en, .an].contains && !(ds.contains .en && ds.contains .an)

def areSoundLabels (labels : List (List Char)) : Bool :=
  labels.all (fun l => !l.head?.any isMark && joinersHaveEffect [] l) &&
    (!labels.any (·.any isRightToLeft) || labels.all keepsDirection)

def isSound (name : List Char) : Bool :=
  !name.any isForbidden &&
    match (splitBy (· == '.') name).mapM shownLabel? with
    | some labels => areSoundLabels labels
    | none => false

def mapped? (cs : List Char) : Option (List Char) :=
  if cs.all isAscii then some (cs.map Char.toLower)
  else (cs.mapM images?).map fun images => normal images.flatten

def read? (cs : List Char) : Option (List Char) := do
  let labels ← (splitBy (· == '.') (← mapped? cs)).mapM asciiLabel?
  let name := List.intercalate ['.'] labels
  if isSound name then some name else none

example : read? "Ab.C".toList = some "ab.c".toList := by decide

example : read? "a%b".toList = none := by decide

end IndexWatch.Url.Name
