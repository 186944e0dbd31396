import IndexWatch.Text.Numeral
import IndexWatch.Text.Wire

namespace IndexWatch.Percent

def hexDigit (n : Nat) : Char :=
  if n % 16 < 10 then Char.ofNat ('0'.toNat + n % 16) else Char.ofNat ('A'.toNat + n % 16 - 10)

def encodeByte (b : UInt8) : List Char := ['%', hexDigit (b.toNat / 16), hexDigit b.toNat]

def encodeChar (isEncoded : Char → Bool) (c : Char) : List Char :=
  if isEncoded c then (String.utf8EncodeChar c).flatMap encodeByte else [c]

def encode (isEncoded : Char → Bool) (cs : List Char) : List Char :=
  cs.flatMap (encodeChar isEncoded)

def byte? (high low : Char) : Option UInt8 :=
  (Numeral.read? 16 [high, low]).map UInt8.ofNat

-- The bytes of an encoded text. A percent sign without two hexadecimal digits is left as it is.
def decode : List Char → List UInt8
  | '%' :: a :: b :: rest =>
    match byte? a b with
    | some x => x :: decode rest
    | none => String.utf8EncodeChar '%' ++ decode (a :: b :: rest)
  | c :: rest => String.utf8EncodeChar c ++ decode rest
  | [] => []

def isControl (c : Char) : Bool := c.toNat < 0x20 || 0x7E < c.toNat

def inFragment (c : Char) : Bool := isControl c || [' ', '"', '<', '>', '`'].contains c

def inQuery (c : Char) : Bool := isControl c || [' ', '"', '#', '<', '>'].contains c

-- In the query of a scheme that has its own rules a quote is encoded too.
def inSpecialQuery (c : Char) : Bool := inQuery c || c == '\''

def inPath (c : Char) : Bool := inFragment c || ['#', '?', '{', '}'].contains c

def inUserinfo (c : Char) : Bool :=
  inPath c || ['/', ':', ';', '=', '@', '[', '\\', ']', '^', '|'].contains c

def isAlphanumeric (c : Char) : Bool := c.isAlpha || c.isDigit

-- All but the characters without a meaning in any place.
def inSegment (c : Char) : Bool := !(isAlphanumeric c || ['-', '_', '.', '~'].contains c)

def segment (s : String) : List Char := encode inSegment s.toList

-- All that has a meaning in a form, apart from the blank.
def inForm (c : Char) : Bool := !(isAlphanumeric c || ['*', '-', '.', '_'].contains c)

-- A text as key or value of a form. A blank is written as a plus sign.
def formField (s : String) : List Char :=
  s.toList.flatMap fun c => if c == ' ' then ['+'] else encodeChar inForm c

def form (pairs : List (String × String)) : List Char :=
  List.intercalate ['&'] (pairs.map fun p => formField p.1 ++ '=' :: formField p.2)

example : segment "a b/é" = "a%20b%2F%C3%A9".toList := by decide

end IndexWatch.Percent
