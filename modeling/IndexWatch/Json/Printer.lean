import IndexWatch.Json.Token

namespace IndexWatch.Json

def hexDigit (n : Nat) : Char := Nat.digitChar (n % 16)

-- A character between quotes. Quotes, backslashes and control characters are escaped, all others
-- stand for themselves.
def escape (c : Char) : List Char :=
  match c with
  | '"' => ['\\', '"']
  | '\\' => ['\\', '\\']
  | '\x08' => ['\\', 'b']
  | '\x0c' => ['\\', 'f']
  | '\n' => ['\\', 'n']
  | '\r' => ['\\', 'r']
  | '\t' => ['\\', 't']
  | c =>
    if c.toNat < 0x20 then
      ['\\', 'u', '0', '0', hexDigit (c.toNat / 16), hexDigit c.toNat]
    else [c]

def quoted (s : String) : List Char := '"' :: (s.toList.flatMap escape ++ ['"'])

namespace Tree

mutual

def tokens : Tree → List Token
  | .null => [.null]
  | .bool b => [.bool b]
  | .number n => [.number (some n)]
  | .string s => [.string (.ok s)]
  | .array [] => [.openBracket, .closeBracket]
  | .array (t :: rest) => .openBracket :: (t.tokens ++ tokensOfItems rest)
  | .object [] => [.openBrace, .closeBrace]
  | .object ((k, t) :: rest) =>
    .openBrace :: .string (.ok k) :: .colon :: (t.tokens ++ tokensOfMembers rest)

def tokensOfItems : List Tree → List Token
  | [] => [.closeBracket]
  | t :: rest => .comma :: (t.tokens ++ tokensOfItems rest)

def tokensOfMembers : List (String × Tree) → List Token
  | [] => [.closeBrace]
  | (k, t) :: rest =>
    .comma :: .string (.ok k) :: .colon :: (t.tokens ++ tokensOfMembers rest)

end

mutual

def compact : Tree → List Char
  | .null => ['n', 'u', 'l', 'l']
  | .bool true => ['t', 'r', 'u', 'e']
  | .bool false => ['f', 'a', 'l', 's', 'e']
  | .number n => n.text
  | .string s => quoted s
  | .array [] => ['[', ']']
  | .array (t :: rest) => '[' :: (t.compact ++ compactItems rest)
  | .object [] => ['{', '}']
  | .object ((k, t) :: rest) => '{' :: (quoted k ++ ':' :: (t.compact ++ compactMembers rest))

def compactItems : List Tree → List Char
  | [] => [']']
  | t :: rest => ',' :: (t.compact ++ compactItems rest)

def compactMembers : List (String × Tree) → List Char
  | [] => ['}']
  | (k, t) :: rest => ',' :: (quoted k ++ ':' :: (t.compact ++ compactMembers rest))

end

def newline (level : Nat) : List Char := '\n' :: List.replicate (2 * level) ' '

mutual

def prettyAt (level : Nat) : Tree → List Char
  | .array (t :: rest) =>
    '[' :: (newline (level + 1) ++ (t.prettyAt (level + 1) ++ prettyItems level rest))
  | .object ((k, t) :: rest) =>
    '{' :: (newline (level + 1) ++ (quoted k ++ ':' :: ' ' ::
      (t.prettyAt (level + 1) ++ prettyMembers level rest)))
  | .null => ['n', 'u', 'l', 'l']
  | .bool true => ['t', 'r', 'u', 'e']
  | .bool false => ['f', 'a', 'l', 's', 'e']
  | .number n => n.text
  | .string s => quoted s
  | .array [] => ['[', ']']
  | .object [] => ['{', '}']

def prettyItems (level : Nat) : List Tree → List Char
  | [] => newline level ++ [']']
  | t :: rest =>
    ',' :: (newline (level + 1) ++ (t.prettyAt (level + 1) ++ prettyItems level rest))

def prettyMembers (level : Nat) : List (String × Tree) → List Char
  | [] => newline level ++ ['}']
  | (k, t) :: rest =>
    ',' :: (newline (level + 1) ++ (quoted k ++ ':' :: ' ' ::
      (t.prettyAt (level + 1) ++ prettyMembers level rest)))

end

def pretty (t : Tree) : List Char := t.prettyAt 0

end Tree

-- The compact text of a value, members in key order.
def text (j : Json) : String := String.ofList j.tree.compact

end IndexWatch.Json
