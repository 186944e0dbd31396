import IndexWatch.Decimal.Shortest

namespace IndexWatch.Json

abbrev Integer := { i : Int // -0x8000000000000000 ≤ i ∧ i < 0x10000000000000000 }

-- The value of a number. A floating value is always finite.
inductive Number where
  | int (i : Integer)
  | float (x : Float)
  deriving DecidableEq

namespace Number

def ofInt? (i : Int) : Option Number :=
  if h : -0x8000000000000000 ≤ i ∧ i < 0x10000000000000000 then some (.int ⟨i, h⟩) else none

def ofInt64 (i : Int64) : Number :=
  .int ⟨i.toInt, i.le_toInt, Int.lt_trans i.toInt_lt (by decide)⟩

-- Floating values are positional from `0.00001` up to sixteen digits before the point.
def layout : Decimal.Layout := ⟨16, 4⟩

def intText (i : Int) : List Char :=
  if i < 0 then '-' :: Decimal.digits i.natAbs else Decimal.digits i.natAbs

def text : Number → List Char
  | .int i => intText i.val
  | .float x => layout.text x

end Number

structure Literal where
  negative : Bool
  whole : List Char
  fraction : Option (List Char)
  exponent : Option (Bool × List Char)
  deriving DecidableEq

namespace Literal

def digitValue (c : Char) : Nat := c.toNat - '0'.toNat

def accumulate (n : Nat) : List Char → Nat × List Char
  | [] => (n, [])
  | c :: rest =>
    let next := n * 10 + digitValue c
    if next < UInt64.size then accumulate next rest else (n, c :: rest)

def powerOfTen (n : Nat) : Float := Float.ofScientific 1 false n

-- Scale `x` by `10 ^ e` with one rounding for each factor of at most `10 ^ 308`. `none` when the
-- result is too large. Two divisions already reach zero, hence the small bound.
def scale? : Nat → Float → Int → Option Float
  | 0, x, _ => some x
  | steps + 1, x, e =>
    if e.natAbs ≤ 308 then
      if 0 ≤ e then
        let y := x * powerOfTen e.natAbs
        if y.isInf then none else some y
      else some (x / powerOfTen e.natAbs)
    else if x == 0 then some x
    else if 0 ≤ e then none
    else scale? steps (x / powerOfTen 308) (e + 308)

-- The value of the exponent's digits, or `none` if it needs more than 31 bits.
def exponentValue? (digits : List Char) : Option Nat :=
  let n := digits.foldl (fun acc c => acc * 10 + digitValue c) 0
  if n < Nat.pow 2 31 then some n else none

def significand (l : Literal) : Nat × Int :=
  let (n, dropped) := accumulate 0 l.whole
  match l.fraction with
  | none => (n, dropped.length)
  | some f =>
    let (m, ignored) := accumulate n f
    (m, (dropped.length : Int) - (f.length - ignored.length : Nat))

-- The double precision value, or `none` if it is too large. The significand counts up to 64 bits;
-- what lies beyond only moves the exponent.
def float? (l : Literal) : Option Float :=
  let (n, e) := l.significand
  let magnitude :=
    match l.exponent with
    | none => scale? 8 (Float.ofNat n) e
    | some (down, digits) =>
      match exponentValue? digits with
      | some x => scale? 8 (Float.ofNat n) (if down then e - x else e + x)
      | none => if n ≠ 0 ∧ ¬down then none else some 0
  magnitude.map fun x => if l.negative then -x else x

-- The value of a literal, or `none` if it is too large for every kind of number. Zero with a minus
-- sign is a floating value, since integers have one zero only.
def value? (l : Literal) : Option Number :=
  if l.fraction.isNone ∧ l.exponent.isNone ∧ (accumulate 0 l.whole).2 = [] then
    let n := (accumulate 0 l.whole).1
    if ¬l.negative then Number.ofInt? n
    else if n = 0 ∨ Nat.pow 2 63 < n then some (.float (-(Float.ofNat n)))
    else Number.ofInt? (-n)
  else l.float?.map .float

end Literal

end IndexWatch.Json
