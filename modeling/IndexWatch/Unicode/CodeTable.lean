import IndexWatch.Text.Numeral
import IndexWatch.Text.Pieces

namespace IndexWatch.Unicode

-- A range of code points with what belongs to it.
structure Run where
  first : Nat
  last : Nat
  step : Nat
  image : List Nat
  deriving DecidableEq, Repr

namespace Run

def contains (r : Run) (c : Char) : Bool :=
  r.first ≤ c.toNat && c.toNat ≤ r.last && (c.toNat - r.first) % r.step = 0

-- The characters that belong to a character of the range, where the image is that of the first one,
-- and those of the others follow it step by step.
def shifted (r : Run) (c : Char) : List Char :=
  r.image.map fun n => Char.ofNat (n + (c.toNat - r.first))

-- The range with its step, perhaps.
def readSpan? (word : List Char) : Option (Nat × Nat × Nat) := do
  let (ends, step) ← match splitBy (· == '/') word with
    | [ends] => some (ends, 1)
    | [ends, step] => (Numeral.read? 16 step).map (ends, ·)
    | _ => none
  match ← (splitBy (· == '-') ends).mapM (Numeral.read? 16) with
  | [a] => some (a, a, step)
  | [a, b] => some (a, b, step)
  | _ => none

def read? (word : List Char) : Option Run := do
  match splitBy (· == '=') word with
  | [span] =>
    let (first, last, step) ← readSpan? span
    return ⟨first, last, step, []⟩
  | [span, image] =>
    let (first, last, step) ← readSpan? span
    return ⟨first, last, step, ← (splitBy (· == '.') image).mapM (Numeral.read? 16)⟩
  | _ => none

example : read? "100-12E/2=101".toList = some ⟨0x100, 0x12E, 2, [0x101]⟩ := by decide

example : (read? "41-5A=61".toList).map (·.shifted 'Q') = some ['q'] := by decide

end Run

structure CodeTable where
  runs : List Run

namespace CodeTable

def words (text : String) : List (List Char) :=
  let (word, before) := text.toList.foldl
    (fun (word, before) c =>
      if c == ' ' || c == '\n' then ([], word.reverse :: before) else (c :: word, before))
    (([], []) : List Char × List (List Char))
  word.reverse :: before

def read (text : String) : CodeTable := ⟨(words text).reverse.filterMap Run.read?⟩

-- Several tables as one.
def join (tables : List CodeTable) : CodeTable := ⟨tables.flatMap runs⟩

-- The range that holds a character.
def find? (t : CodeTable) (c : Char) : Option Run := t.runs.find? (·.contains c)

def contains (t : CodeTable) (c : Char) : Bool := (t.find? c).isSome

example : (read "41-5A C0\nC2-C6").contains '\u00C3' = true := by decide

end CodeTable

end IndexWatch.Unicode
