namespace IndexWatch.Numeral

def digit? (c : Char) : Option Nat :=
  if c.isDigit then some (c.toNat - '0'.toNat)
  else if 'a' ≤ c && c ≤ 'f' then some (c.toNat - 'a'.toNat + 10)
  else if 'A' ≤ c && c ≤ 'F' then some (c.toNat - 'A'.toNat + 10)
  else none

def push? (base n : Nat) (c : Char) : Option Nat :=
  (digit? c).bind fun d => if d < base then some (base * n + d) else none

-- The value of digits, and zero where there are none.
def digits? (base : Nat) (cs : List Char) : Option Nat := cs.foldlM (push? base) 0

def read? (base : Nat) (cs : List Char) : Option Nat :=
  if cs.isEmpty then none else digits? base cs

-- The value of a decimal numeral below a bound. A plus sign may stand in front.
def readBelow? (bound : Nat) (cs : List Char) : Option Nat :=
  let cs := match cs with
    | '+' :: rest => rest
    | cs => cs
  (read? 10 cs).filter (· < bound)

example : read? 16 ['f', 'F'] = some 255 := by decide

example : readBelow? 256 ['+', '0', '7'] = some 7 := by decide

end IndexWatch.Numeral
