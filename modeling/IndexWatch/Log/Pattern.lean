import IndexWatch.Text.Numeral
import IndexWatch.Text.Pieces
import IndexWatch.Unicode.Alphanumeric

namespace IndexWatch.Log.Pattern

structure Rules where
  eitherCase : Bool
  unbound : Bool
  spaced : Bool

def Rules.start : Rules := ⟨false, true, false⟩

def Rules.allowsText (r : Rules) : Bool := !(r.eitherCase && r.unbound)

def Rules.set (r : Rules) (value : Bool) (c : Char) : Rules :=
  match c with
  | 'i' => { r with eitherCase := value }
  | 'u' => { r with unbound := value }
  | 'x' => { r with spaced := value }
  | _ => r

def ruleLetters : List Char := ['i', 'm', 's', 'U', 'u', 'R', 'x']

-- The rules behind letters that set some, and behind a hyphen take others away. Each letter stands
-- once.
def Rules.change? (r : Rules) (cs : List Char) : Option Rules :=
  let set := cs.takeWhile (· ≠ '-')
  let taken := (cs.dropWhile (· ≠ '-')).drop 1
  let all := set ++ taken
  if all.all ruleLetters.contains && all.Nodup && !(taken.isEmpty && cs.contains '-') then
    some (taken.foldl (·.set false) (set.foldl (·.set true) r))
  else none

def hex? (n : Nat) (cs : List Char) : Option (Char × List Char) :=
  let digits := cs.take n
  if digits.length < n then none
  else match Numeral.read? 16 digits with
    | some code => if code.isValidChar then some (Char.ofNat code, cs.drop n) else none
    | none => none

def control? : Char → Option Char
  | 'a' => '\x07'
  | 'f' => '\x0C'
  | 't' => '\t'
  | 'n' => '\n'
  | 'r' => '\r'
  | 'v' => '\x0B'
  | _ => none

def isEscapable (c : Char) : Bool :=
  c.toNat < 0x80 && !c.isAlphanum && c != '<' && c != '>'

-- What stands behind a backslash: a character, or `none` for a class or a place, and the rest of
-- the pattern.
def escape? (r : Rules) : List Char → Option (Option Char × List Char)
  | [] => none
  | 'x' :: rest =>
    match hex? 2 rest with
    | some (c, rest) => if r.unbound || c.toNat < 0x80 then some (some c, rest) else none
    | none => none
  | 'u' :: rest => (hex? 4 rest).map fun p => (some p.1, p.2)
  | 'U' :: rest => (hex? 8 rest).map fun p => (some p.1, p.2)
  | c :: rest =>
    if let some control := control? c then some (some control, rest)
    else if isEscapable c then some (some c, rest)
    else if ['A', 'z'].contains c then some (none, rest)
    else if ['d', 's', 'w', 'b', 'B', '<', '>'].contains c && !r.unbound then some (none, rest)
    else none

def classNames : List String :=
  ["alnum", "alpha", "ascii", "blank", "cntrl", "digit", "graph", "lower", "print", "punct",
    "space", "upper", "word", "xdigit"]

def namedClass? (cs : List Char) : Option (Bool × List Char) :=
  match cs with
  | ':' :: rest =>
    let (turned, rest) := match rest with
      | '^' :: rest => (true, rest)
      | rest => (false, rest)
    match rest.dropWhile (· ≠ ':') with
    | ':' :: ']' :: behind =>
      if classNames.contains (String.ofList (rest.takeWhile (· ≠ ':'))) then some (turned, behind)
      else none
    | _ => none
  | _ => none

-- The rest of the pattern behind the start of a class. A bracket in front closes nothing.
def openClass? (r : Rules) (cs : List Char) : Option (List Char) :=
  match cs with
  | '^' :: rest => if r.unbound then behindSign rest else none
  | cs => behindSign cs
where
  behindSign (cs : List Char) : Option (List Char) :=
    match cs with
    | '-' :: _ => some (cs.dropWhile (· == '-'))
    | ']' :: rest => some rest
    | cs => some cs

def classCharacter? (r : Rules) (cs : List Char) : Option (Char × List Char) := do
  let (c, rest) ← match cs with
    | [] => none
    | '\\' :: rest =>
      match escape? r rest with
      | some (some c, rest) => some (c, rest)
      | _ => none
    | c :: rest => some (c, rest)
  if r.unbound || c.toNat < 0x80 then some (c, rest) else none

def classMember? (r : Rules) (cs : List Char) : Option (List Char) :=
  match cs with
  | '\\' :: c :: rest => if isNarrow c then some rest else range cs
  | cs => range cs
where
  isNarrow (c : Char) : Bool := !r.unbound && ['d', 's', 'w'].contains c
  range (cs : List Char) : Option (List Char) := do
    let (a, rest) ← classCharacter? r cs
    match rest with
    | '-' :: ']' :: _ => some rest
    | '-' :: '-' :: _ => some rest
    | '-' :: rest =>
      let (b, rest) ← classCharacter? r rest
      if a ≤ b then some rest else none
    | rest => some rest

-- The rest of the pattern behind a class, which has so many classes around it. Every member takes
-- one of the steps that are left.
def classEnd? (r : Rules) : Nat → Nat → List Char → Option (List Char)
  | 0, _, _ => none
  | n + 1, depth, cs =>
    match cs with
    | [] => none
    | ']' :: rest => match depth with
      | 0 => some rest
      | depth + 1 => classEnd? r n depth rest
    | '[' :: rest =>
      match namedClass? rest with
      | some (turned, rest) => if turned && !r.unbound then none else classEnd? r n depth rest
      | none => (openClass? r rest).bind (classEnd? r n (depth + 1))
    | '&' :: '&' :: rest => classEnd? r n depth rest
    | '-' :: '-' :: rest => classEnd? r n depth rest
    | '~' :: '~' :: rest => classEnd? r n depth rest
    | cs => (classMember? r cs).bind (classEnd? r n depth)

inductive Opening where
  | group (rules : Rules) (name : Option (List Char)) (rest : List Char)
  -- No group, but rules for the rest of the one around.
  | rules (rules : Rules) (rest : List Char)

def isName : List Char → Bool
  | [] => false
  | c :: rest =>
    isLetter c && rest.all fun c => isLetter c || c.isDigit || ['.', '[', ']'].contains c
where
  isLetter (c : Char) : Bool := c == '_' || (Unicode.isAlphanumeric c && !c.isDigit)

def opening? (r : Rules) (cs : List Char) : Option Opening :=
  match cs with
  | '?' :: 'P' :: '<' :: rest => named rest
  | '?' :: '<' :: rest => named rest
  | '?' :: rest =>
    let letters := rest.takeWhile fun c => c != ':' && c != ')'
    match rest.dropWhile (fun c => c != ':' && c != ')'), r.change? letters with
    | ':' :: rest, some r => some (.group r none rest)
    | ')' :: rest, some r => if letters.isEmpty then none else some (.rules r rest)
    | _, _ => none
  | cs => some (.group r none cs)
where
  named (rest : List Char) : Option Opening :=
    let name := rest.takeWhile (· ≠ '>')
    match rest.dropWhile (· ≠ '>') with
    | '>' :: rest => if isName name then some (.group r (some name) rest) else none
    | _ => none

structure Progress where
  rules : Rules
  around : List Rules
  names : List (List Char)
  -- Whether something stands in front that can be repeated.
  repeatable : Bool

-- Whether the rest of a pattern can be read. Every part takes one of the steps that are left.
def check : Nat → Progress → List Char → Bool
  | 0, _, _ => false
  | n + 1, p, cs =>
    let next (rest : List Char) : Bool := check n { p with repeatable := true } rest
    match cs with
    | [] => p.around.isEmpty
    | '(' :: rest =>
      match opening? p.rules rest with
      | some (.group r none rest) => check n ⟨r, p.rules :: p.around, p.names, false⟩ rest
      | some (.group r (some name) rest) =>
        !p.names.contains name && check n ⟨r, p.rules :: p.around, name :: p.names, false⟩ rest
      | some (.rules r rest) => check n { p with rules := r, repeatable := false } rest
      | none => false
    | ')' :: rest =>
      match p.around with
      | r :: around => check n ⟨r, around, p.names, true⟩ rest
      | [] => false
    | '|' :: rest => check n { p with repeatable := false } rest
    | '[' :: rest =>
      match (openClass? p.rules rest).bind (classEnd? p.rules n 0) with
      | some rest => p.rules.allowsText && next rest
      | none => false
    | '\\' :: rest =>
      match escape? p.rules rest with
      | some (some _, rest) => p.rules.allowsText && next rest
      | some (none, rest) => next rest
      | none => false
    | c :: rest =>
      if p.rules.spaced && c == '#' then check n p (rest.dropWhile (· ≠ '\n'))
      else if p.rules.spaced && c.isWhitespace then check n p rest
      else if ['*', '+', '?'].contains c then p.repeatable && next rest
      else if c == '\x7b' then false
      else if c == '.' then p.rules.unbound && next rest
      else if c == '^' || c == '$' then next rest
      else p.rules.allowsText && next rest

-- Whether a text is a pattern. A count of repetitions never is part of one, since its braces would
-- end the directive that holds the pattern.
def isPattern (cs : List Char) : Bool := check (cs.length + 1) ⟨.start, [], [], false⟩ cs

example : ["a*|(b)?", "[^]a-z[:digit:]]", "(?P<n>x)\\x41"].map (isPattern ·.toList) =
    [true, true, true] := by decide

example : ["(", "[", "*", "\\d", "(?i)x", "[b-a]"].map (isPattern ·.toList) =
    [false, false, false, false, false, false] := by decide

def isDecimal (cs : List Char) : Bool :=
  let behind := cs.dropWhile Char.isDigit
  let (fraction, rest) := match behind with
    | '.' :: rest => (rest.takeWhile Char.isDigit, rest.dropWhile Char.isDigit)
    | rest => ([], rest)
  let exponent := match rest with
    | [] => true
    | e :: rest =>
      let digits := match rest with
        | '+' :: digits => digits
        | '-' :: digits => digits
        | digits => digits
      e.toLower == 'e' && !digits.isEmpty && digits.all Char.isDigit
  (cs.head?.any Char.isDigit || !fraction.isEmpty) && exponent

-- Whether a text is a value. Numbers with a plus sign in front are the only ones that are no
-- patterns.
def isValue (cs : List Char) : Bool :=
  match cs with
  | '+' :: rest =>
    isDecimal rest || ["inf", "infinity", "nan"].contains (String.ofList (rest.map Char.toLower))
  | cs => isPattern cs

end IndexWatch.Log.Pattern
