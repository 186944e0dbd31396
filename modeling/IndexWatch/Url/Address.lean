import IndexWatch.Text.Numeral
import IndexWatch.Text.Pieces

namespace IndexWatch

abbrev IPv4 := Fin UInt32.size

namespace IPv4

-- A part of an address: hexadecimal behind `0x`, octal behind a zero, else decimal.
def part? : List Char → Option Nat
  | '0' :: 'x' :: digits => Numeral.digits? 16 digits
  | '0' :: 'X' :: digits => Numeral.digits? 16 digits
  | '0' :: d :: digits => Numeral.digits? 8 (d :: digits)
  | cs => Numeral.read? 10 cs

def parts (cs : List Char) : List (List Char) :=
  let ps := splitBy (· == '.') cs
  if ps.getLast? = some [] then ps.dropLast else ps

-- Whether a host's name ends in a number, so that it has to be an address.
def endsInNumber (cs : List Char) : Bool :=
  match (parts cs).getLast? with
  | some p => (!p.isEmpty && p.all Char.isDigit) || (part? p).isSome
  | none => false

-- The address of its parts. The last part fills all the places that are left.
def ofParts? (numbers : List Nat) : Option IPv4 :=
  match numbers.reverse with
  | [] => none
  | last :: before =>
    if before.length ≤ 3 ∧ last < Nat.pow 256 (4 - before.length) ∧ before.all (· < 256) then
      let high := before.reverse.foldl (fun n p => n * 256 + p) 0
      some (Fin.ofNat UInt32.size (high * Nat.pow 256 (4 - before.length) + last))
    else none

def read? (cs : List Char) : Option IPv4 := do ofParts? (← (parts cs).mapM part?)

def octets (a : IPv4) : List Nat :=
  [a.val / 0x1000000, a.val / 0x10000 % 256, a.val / 256 % 256, a.val % 256]

def text (a : IPv4) : List Char :=
  List.intercalate ['.'] (a.octets.map (Nat.toDigits 10))

example : (read? "0x7f.1".toList).map text = some "127.0.0.1".toList := by decide

end IPv4

structure IPv6 where
  pieces : List (Fin UInt16.size)
  length_pieces : pieces.length = 8
  deriving DecidableEq

namespace IPv6

def piece? (cs : List Char) : Option (Fin UInt16.size) :=
  if cs.length ≤ 4 then (Numeral.read? 16 cs).map (Fin.ofNat _) else none

def octet? (cs : List Char) : Option Nat :=
  if cs.length = 1 ∨ cs.head? ≠ some '0' then (Numeral.read? 10 cs).filter (· < 256) else none

-- The last part of an address, where an IPv4 address may stand for two numbers.
def lastPieces? (cs : List Char) : Option (List (Fin UInt16.size)) :=
  match (splitBy (· == '.') cs).mapM octet? with
  | some [a, b, c, d] => some [Fin.ofNat _ (a * 256 + b), Fin.ofNat _ (c * 256 + d)]
  | _ => (piece? cs).map ([·])

def pieces? (cs : List Char) : Option (List (Fin UInt16.size)) :=
  if cs.isEmpty then some []
  else (splitBy (· == ':') cs).mapM piece?

def finalPieces? (cs : List Char) : Option (List (Fin UInt16.size)) :=
  if cs.isEmpty then some []
  else
    let parts := splitBy (· == ':') cs
    do return (← parts.dropLast.mapM piece?) ++ (← lastPieces? (parts.getLastD []))

def breakDouble : List Char → Option (List Char × List Char)
  | ':' :: ':' :: rest => some ([], rest)
  | c :: rest => (breakDouble rest).map fun p => (c :: p.1, p.2)
  | [] => none

def ofPieces? (l : List (Fin UInt16.size)) : Option IPv6 :=
  if h : l.length = 8 then some ⟨l, h⟩ else none

-- The address with a spelling. A double colon stands for as many zeros as are missing, at least
-- one.
def read? (cs : List Char) : Option IPv6 :=
  match breakDouble cs with
  | none => (finalPieces? cs).bind ofPieces?
  | some (left, right) => do
    let l ← pieces? left
    let r ← finalPieces? right
    ofPieces? (l ++ List.replicate (max 1 (8 - (l.length + r.length))) 0 ++ r)

def leadingZeros (l : List (Fin UInt16.size)) : Nat := (l.takeWhile (· == 0)).length

-- Where the longest run of zeros starts, and its length. Of equally long runs the first counts.
def longestZeros (l : List (Fin UInt16.size)) : Nat × Nat :=
  ((List.range l.length).map fun i => (i, leadingZeros (l.drop i))).foldl
    (fun best run => if best.2 < run.2 then run else best) (0, 0)

def joined (l : List (Fin UInt16.size)) : List Char :=
  List.intercalate [':'] (l.map fun p => Nat.toDigits 16 p.val)

-- The text of an address. A run of at least two zeros is left out.
def text (a : IPv6) : List Char :=
  let (start, count) := longestZeros a.pieces
  if count < 2 then joined a.pieces
  else joined (a.pieces.take start) ++ ':' :: ':' :: joined (a.pieces.drop (start + count))

example : (read? "2001:DB8:0:0::1".toList).map text = some "2001:db8::1".toList := by decide

example : (read? "::ffff:1.2.3.4".toList).map text = some "::ffff:102:304".toList := by decide

example : (read? "1:2:3:4:5:6:7::".toList).map text = some "1:2:3:4:5:6:7:0".toList := by decide

end IPv6

end IndexWatch
