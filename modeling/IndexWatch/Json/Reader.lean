import IndexWatch.Text.Quoted
import IndexWatch.Json.Printer

namespace IndexWatch.Json

inductive Found where
  | null
  | bool (b : Bool)
  | number (n : Number)
  | string (s : String)
  | sequence
  | map
  deriving DecidableEq

def Found.message : Found → String
  | .null => "null"
  | .bool true => "boolean `true`"
  | .bool false => "boolean `false`"
  | .number (.int i) => "integer `" ++ String.ofList (Number.intText i.val) ++ "`"
  | .number (.float x) => "floating point `" ++ String.ofList (Number.float x).text ++ "`"
  | .string s => "string " ++ Text.quoted s
  | .sequence => "sequence"
  | .map => "map"

-- Why a text does not hold a value of the wanted shape. A shape is named by the words that a
-- message uses for it.
inductive DecodeError where
  | malformed (reason : SyntaxError)
  | missingField (name : String)
  | duplicateField (name : String)
  | wrongType (found : Found) (wanted : String)
  | outOfRange (value : Int)
  | wrongLength (length : Nat) (wanted : String)
  deriving DecidableEq

def DecodeError.message : DecodeError → String
  | .malformed e => e.message
  | .missingField name => "missing field `" ++ name ++ "`"
  | .duplicateField name => "duplicate field `" ++ name ++ "`"
  | .wrongType found wanted => "invalid type: " ++ found.message ++ ", expected " ++ wanted
  | .outOfRange i =>
    "invalid value: integer `" ++ String.ofList (Number.intText i) ++ "`, expected i64"
  | .wrongLength n wanted => "invalid length " ++ toString n ++ ", expected " ++ wanted

-- Takes a value off the front of the lexemes.
abbrev Reader := StateT (List Token) (Except DecodeError)

namespace Reader

variable {α σ : Type}

def malformed (e : SyntaxError) : Reader α := throw (.malformed e)

def peek : Reader (Option Token) := fun ts => .ok (ts.head?, ts)

def advance : Reader Unit := fun ts => .ok ((), ts.tail)

def accept (a : α) : Reader α := fun ts => .ok (a, ts.tail)

def reject (wanted : String) : Option Token → Reader α
  | none => malformed .eofValue
  | some t =>
    let wrong f := throw (.wrongType f wanted)
    match t with
    | .null => wrong .null
    | .bool b => wrong (.bool b)
    | .number (some n) => wrong (.number n)
    | .number none => malformed .numberOutOfRange
    | .string (.ok s) => wrong (.string s)
    | .string (.error e) => malformed e
    | .brokenString strict _ => malformed strict
    | .brokenWord strict _ => malformed strict
    | .openBracket => wrong .sequence
    | .openBrace => wrong .map
    | _ => malformed .expectedValue

def string : Reader String := do
  match ← peek with
  | some (.string (.ok s)) => accept s
  | t => reject "a string" t

def int64 : Reader Int64 := do
  match ← peek with
  | some (.number (some (.int i))) =>
    if i.val < 0x8000000000000000 then accept (Int64.ofInt i.val) else throw (.outOfRange i.val)
  | t => reject "i64" t

def optional (r : Reader α) : Reader (Option α) := do
  match ← peek with
  | some .null => accept none
  | _ => some <$> r

-- The further items of a sequence behind an item, up to the closing bracket, which is taken too.
-- The bound is the number of lexemes at the start.
def moreItems (item : Reader α) : Nat → Reader (List α)
  | 0 => malformed .eofList
  | bound + 1 => do
    match ← peek with
    | some .closeBracket => accept []
    | some .comma =>
      advance
      match ← peek with
      | some .closeBracket => malformed .trailingComma
      | none => malformed .eofValue
      | some _ =>
        let a ← item
        let rest ← moreItems item bound
        return a :: rest
    | none => malformed .eofList
    | some _ => malformed .expectedListCommaOrEnd

def items (item : Reader α) : Reader (List α) := do
  match ← peek with
  | some .closeBracket => accept []
  | none => malformed .eofList
  | some _ =>
    let a ← item
    let rest ← fun ts => moreItems item (ts.length + 1) ts
    return a :: rest

def array (item : Nat → Reader α) : Nat → Reader (List α) := fun room => do
  match ← peek with
  | some .openBracket =>
    match room with
    | 0 => malformed .recursionLimit
    | room + 1 => advance; items (item room)
  | t => reject "a sequence" t

def colon : Reader Unit := do
  match ← peek with
  | some .colon => advance
  | none => malformed .eofObject
  | some _ => malformed .expectedColon

def key : Reader String := do
  match ← peek with
  | some (.string (.ok s)) => accept s
  | some (.string (.error e)) => malformed e
  | some (.brokenString strict _) => malformed strict
  | _ => malformed .keyMustBeString

-- The further members of an object behind a member, up to the closing brace, which is taken too.
-- `step` takes the colon and the value of a member and adds it to what has been gathered.
def moreMembers (step : σ → String → Reader σ) : Nat → σ → Reader σ
  | 0, _ => malformed .eofObject
  | bound + 1, s => do
    match ← peek with
    | some .closeBrace => accept s
    | some .comma =>
      advance
      match ← peek with
      | some .closeBrace => malformed .trailingComma
      | none => malformed .eofValue
      | some _ =>
        let k ← key
        let s ← step s k
        moreMembers step bound s
    | none => malformed .eofObject
    | some _ => malformed .expectedObjectCommaOrEnd

def members (step : σ → String → Reader σ) (s : σ) : Reader σ := do
  match ← peek with
  | some .closeBrace => accept s
  | none => malformed .eofObject
  | some _ =>
    let k ← key
    let s ← step s k
    fun ts => moreMembers step (ts.length + 1) s ts

def once (name : String) (former : Option α) (r : Reader α) : Reader (Option α) := do
  if former.isSome then throw (.duplicateField name)
  colon
  some <$> r

def require (name : String) : Option α → Reader α
  | some a => return a
  | none => throw (.missingField name)

-- The next item of a record written as a sequence, or `none` at its end.
def nextItem (first : Bool) (item : Reader α) : Reader (Option α) := do
  match ← peek with
  | some .closeBracket => return none
  | none => malformed .eofList
  | some .comma =>
    if first then some <$> item
    else
      advance
      match ← peek with
      | some .closeBracket => malformed .trailingComma
      | none => malformed .eofValue
      | some _ => some <$> item
  | some _ => if first then some <$> item else malformed .expectedListCommaOrEnd

def requireItem (index : Nat) (wanted : String) : Option α → Reader α
  | some a => return a
  | none => throw (.wrongLength index wanted)

def endItems : Reader Unit := do
  match ← peek with
  | some .closeBracket => advance
  | none => malformed .eofList
  | some .comma =>
    advance
    match ← peek with
    | some .closeBracket => malformed .trailingComma
    | _ => malformed .trailingCharacters
  | some _ => malformed .trailingCharacters

def scalar : Reader (Option Json) := do
  match ← peek with
  | some .null => accept (some Json.null)
  | some (.bool b) => accept (some (Json.bool b))
  | some (.number (some n)) => accept (some (Json.number n))
  | some (.string (.ok s)) => accept (some (Json.string s))
  | some .openBracket => return none
  | some .openBrace => return none
  | t => reject "any value" t

def gather (value : Reader α) (m : KeyMap α) (k : String) : Reader (KeyMap α) := do
  colon
  let v ← value
  return m.insert k v

-- A value of any shape. Inside it `room` brackets may be open at a time.
def value : Nat → Reader Json
  | 0 => do
    match ← scalar with
    | some j => return j
    | none => malformed .recursionLimit
  | room + 1 => do
    match ← scalar with
    | some j => return j
    | none =>
      match ← peek with
      | some .openBracket => advance; Json.array <$> items (value room)
      | _ => advance; Json.object <$> members (gather (value room)) .empty

inductive Frame where
  | list
  | object
  deriving DecidableEq

inductive Place where
  | value
  | listStart
  | objectStart
  | key
  | colon
  | afterValue
  deriving DecidableEq

def Place.eof (p : Place) (frame : Option Frame) : SyntaxError :=
  match p, frame with
  | .value, _ => .eofValue
  | .listStart, _ => .eofList
  | .afterValue, some .list => .eofList
  | _, _ => .eofObject

-- The place behind a lexeme that begins a value, and the frames open there.
def Place.enter (frames : List Frame) : Token → Except SyntaxError (Place × List Frame)
  | .openBracket => .ok (.listStart, .list :: frames)
  | .openBrace => .ok (.objectStart, .object :: frames)
  | .null => .ok (.afterValue, frames)
  | .bool _ => .ok (.afterValue, frames)
  | .number _ => .ok (.afterValue, frames)
  | .string _ => .ok (.afterValue, frames)
  | .brokenString _ lenient => .error lenient
  | .brokenWord _ lenient => .error lenient
  | _ => .error .expectedValue

def Place.step (p : Place) (frames : List Frame) (t : Token) :
    Except SyntaxError (Place × List Frame) :=
  match p, t, frames with
  | .value, t, _ => enter frames t
  | .listStart, .closeBracket, _ => .ok (.afterValue, frames.tail)
  | .listStart, t, _ => enter frames t
  | .objectStart, .closeBrace, _ => .ok (.afterValue, frames.tail)
  | .objectStart, .string _, _ => .ok (.colon, frames)
  | .objectStart, .brokenString _ lenient, _ => .error lenient
  | .objectStart, _, _ => .error .keyMustBeString
  | .key, .string _, _ => .ok (.colon, frames)
  | .key, .brokenString _ lenient, _ => .error lenient
  | .key, _, _ => .error .keyMustBeString
  | .colon, .colon, _ => .ok (.value, frames)
  | .colon, _, _ => .error .expectedColon
  | .afterValue, .comma, .list :: _ => .ok (.value, frames)
  | .afterValue, .closeBracket, .list :: outer => .ok (.afterValue, outer)
  | .afterValue, .comma, .object :: _ => .ok (.key, frames)
  | .afterValue, .closeBrace, .object :: outer => .ok (.afterValue, outer)
  | .afterValue, _, .object :: _ => .error .expectedObjectCommaOrEnd
  | .afterValue, _, _ => .error .expectedListCommaOrEnd

-- Pass over lexemes until the value ends that began outside of all frames.
def skipFrom : Place → List Frame → List Token → Except SyntaxError (List Token)
  | .afterValue, [], ts => .ok ts
  | p, frames, [] => .error (p.eof frames.head?)
  | p, frames, t :: ts => do
    let (p, frames) ← p.step frames t
    skipFrom p frames ts

def skip : Reader Unit := fun ts =>
  match skipFrom .value [] ts with
  | .ok rest => .ok ((), rest)
  | .error e => .error (.malformed e)

end Reader

def maxDepth : Nat := 127

def decodeTokens {α : Type} (r : Reader α) (ts : List Token) : Except DecodeError α := do
  match ← r.run ts with
  | (a, []) => return a
  | (_, _ :: _) => throw (.malformed .trailingCharacters)

def decode {α : Type} (r : Reader α) (s : WireText) : Except DecodeError α :=
  decodeTokens r (lex s)

def parse (s : WireText) : Except DecodeError Json := decode (Reader.value maxDepth) s

end IndexWatch.Json
