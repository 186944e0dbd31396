import IndexWatch.Log.Pattern
import IndexWatch.Log.Record
import IndexWatch.Text.Blank

namespace IndexWatch.Log

namespace Filter

def everything : Rank := 5

def rank? (cs : List Char) : Option Rank :=
  match String.ofList (cs.map Char.toLower) with
  | "off" => some 0
  | "error" => some 1
  | "warn" => some 2
  | "info" => some 3
  | "debug" => some 4
  | "trace" => some 5
  | _ => Numeral.readBelow? 6 cs

structure Field where
  name : String
  -- Whether it also has to have a value. Only what happens within a span is asked for values.
  hasValue : Bool
  deriving DecidableEq

structure Scope where
  target : Option String
  -- The span within which it has to happen. Records are within none.
  span : Option String
  field : Option Field
  deriving DecidableEq

structure Directive where
  scope : Scope
  rank : Rank

inductive Fault where
  | malformed
  -- A piece would start or end within a character.
  | splitCharacter
  deriving DecidableEq, Repr

def dropBytes : Nat → List Char → Except Fault (List Char)
  | 0, cs => .ok cs
  | _, [] => .error .splitCharacter
  | n, c :: rest =>
    if c.utf8Size ≤ n then dropBytes (n - c.utf8Size) rest else .error .splitCharacter

def takeBytes : Nat → List Char → Except Fault (List Char)
  | 0, _ => .ok []
  | _, [] => .error .splitCharacter
  | n, c :: rest =>
    if c.utf8Size ≤ n then (takeBytes (n - c.utf8Size) rest).map (c :: ·)
    else .error .splitCharacter

def piece (text : List Char) (first last : Nat) : Except Fault (List Char) := do
  takeBytes (last - first) (← dropBytes first text)

def placed (place : Nat) : List Char → List (Nat × Char)
  | [] => []
  | c :: rest => (place, c) :: placed (place + c.utf8Size) rest

-- The level that stands from a place on. Without a level everything is shown.
def readRank (text : List Char) (first : Nat) : Except Fault Rank := do
  let level ← dropBytes first text
  if level.isEmpty then return everything
  match rank? level with
  | some r => return r
  | none => throw .malformed

def readBehind (text : List Char) (scope : Scope) : List (Nat × Char) → Except Fault Directive
  | [] => return ⟨scope, everything⟩
  | (i, '=') :: _ => return ⟨scope, ← readRank text (i + 1)⟩
  | _ => throw .malformed

-- A field by its name, perhaps with a value behind a sign of equality. Behind a second such sign
-- nothing counts.
def readField (cs : List Char) : Except Fault Field :=
  match splitBy (· == '=') cs with
  | name :: value :: _ =>
    if Pattern.isValue value then .ok ⟨String.ofList name, true⟩ else .error .malformed
  | _ => if cs.isEmpty then .error .malformed else .ok ⟨String.ofList cs, false⟩

def readBrackets (text : List Char) (target : Option String) (first : Nat)
    (cs : List (Nat × Char)) : Except Fault Directive := do
  match cs.dropWhile fun p => p.2 != ']' && p.2 != '\x7b' with
  | (i, ']') :: behind =>
    let span ← piece text first i
    readBehind text ⟨target, some (String.ofList span), none⟩ behind
  | (i, _) :: rest =>
    let span ← piece text first i
    let span := if span.isEmpty then none else some (String.ofList span)
    match rest.dropWhile (·.2 ≠ '\x7d') with
    | [] => throw .malformed
    | (j, _) :: behind =>
      let field ← readField (← piece text (i + 1) j)
      match behind with
      | (_, ']') :: behind => readBehind text ⟨target, span, some field⟩ behind
      | _ => throw .malformed
  | [] => throw .malformed

def startsDirective (c : Char) : Bool :=
  Unicode.isAlphanumeric c || c == '-' || c == ':' || c == '_'

-- A word on its own is a level, or else a target of which everything is shown.
def ofWord (word : List Char) : Directive :=
  match rank? word with
  | some r => ⟨⟨none, none, none⟩, r⟩
  | none => ⟨⟨some (String.ofList word), none, none⟩, everything⟩

def readDirective (text : List Char) : Except Fault Directive := do
  match placed 0 (trimBoth isBlank text) with
  | [] => throw .malformed
  | (_, '[') :: rest => readBrackets text none 1 rest
  | (i, c) :: rest =>
    if !startsDirective c then throw .malformed
    match ((i, c) :: rest).dropWhile fun p => p.2 != '=' && p.2 != '[' with
    | [] => return ofWord text
    | (i, sign) :: rest =>
      let target := some (String.ofList (← piece text 0 i))
      if sign = '[' then readBrackets text target (i + 1) rest
      else return ⟨⟨target, none, none⟩, ← readRank text (i + 1)⟩

end Filter

structure Filter where
  directives : List Filter.Directive

namespace Filter

-- The filter with a text. Without directives only errors are shown.
def read (s : String) : Except Fault Filter := do
  match ← ((splitBy (· == ',') s.toList).filter (!·.isEmpty)).mapM readDirective with
  | [] => return ⟨[⟨⟨none, none, none⟩, 1⟩]⟩
  | ds => return ⟨ds⟩

def default : Filter := ⟨[
  ⟨⟨none, none, none⟩, 2⟩,
  ⟨⟨some "jobwatch", none, none⟩, 3⟩,
  ⟨⟨some "jobwatch_client", none, none⟩, 3⟩]⟩

-- The filter for a text that may be given. What is no filter counts as not given, but a character
-- must not be split.
def ofText? : Option String → Option Filter
  | none => some default
  | some s =>
    match read s with
    | .ok f => some f
    | .error .malformed => some default
    | .error .splitCharacter => none

def Scope.concernsRecords (s : Scope) : Bool := s.span.isNone && !s.field.any (·.hasValue)

def Scope.contains (s : Scope) (r : Record) : Bool :=
  s.concernsRecords && s.target.all (fun t => t.toList.isPrefixOf r.target.toList) &&
    s.field.all fun f => f.name == "message" || r.fields.any (·.1 == f.name)

def Scope.weight (s : Scope) : Nat := (s.target.map fun t => t.utf8ByteSize + 1).getD 0

-- Whether the first of two scopes, which hold the same record, is at most as specific as the
-- second: the longer target counts, then a field, then the order of the names of fields.
def Scope.isAtMost (s t : Scope) : Bool :=
  s.weight < t.weight || (s.weight == t.weight &&
    match s.field, t.field with
    | none, _ => true
    | some _, none => false
    | some f, some g => f.name ≤ g.name)

-- The directive that decides on a record: the most specific one, and the last of several.
def decisive? (f : Filter) (r : Record) : Option Directive :=
  (f.directives.filter (·.scope.contains r)).foldl
    (fun best d => match best with
      | some b => if b.scope.isAtMost d.scope then some d else some b
      | none => some d) none

def shows (f : Filter) (r : Record) : Bool :=
  match f.decisive? r with
  | some d => r.level.rank ≤ d.rank
  | none => false

example : (readDirective "job[{id}]=warn".toList).toOption.map (·.scope) =
    some ⟨some "job", none, some ⟨"id", false⟩⟩ := by decide

end Filter

end IndexWatch.Log
