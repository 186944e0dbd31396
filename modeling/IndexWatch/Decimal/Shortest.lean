namespace IndexWatch.Decimal

def digits (n : Nat) : List Char := Nat.toDigits 10 n

structure Ratio where
  num : Nat
  den : Nat

def Ratio.scaled (n : Nat) (e : Int) : Ratio :=
  if 0 ≤ e then ⟨n * Nat.pow 2 e.toNat, 1⟩ else ⟨n, Nat.pow 2 (-e).toNat⟩

-- A finite number other than zero, apart from its sign, with the reals that round to it: the
-- interval between `low` and `high`, all three with denominator `den`.
structure Rounding where
  low : Nat
  value : Nat
  high : Nat
  den : Nat
  closed : Bool

-- The reals that round to `m * 2 ^ e`. Below a power of two the neighbours lie closer. The ends
-- belong to the interval exactly when `m` is even.
def Rounding.of (m : Nat) (e : Int) (atPower : Bool) : Rounding :=
  let at_ n := (Ratio.scaled n (e - 2)).num
  ⟨at_ (4 * m - if atPower then 1 else 2), at_ (4 * m), at_ (4 * m + 2),
    (Ratio.scaled 1 (e - 2)).den, m % 2 == 0⟩

def Rounding.accepts (r : Rounding) (n : Nat) (k : Int) : Bool :=
  let d := if 0 ≤ k then n * Nat.pow 10 k.toNat * r.den else n * r.den
  let scale := if 0 ≤ k then 1 else Nat.pow 10 (-k).toNat
  if r.closed then r.low * scale ≤ d && d ≤ r.high * scale
  else r.low * scale < d && d < r.high * scale

def Rounding.floor (r : Rounding) (k : Int) : Nat :=
  if 0 ≤ k then r.value / (r.den * Nat.pow 10 k.toNat) else r.value * Nat.pow 10 (-k).toNat / r.den

def Rounding.nearerBelow (r : Rounding) (n : Nat) (k : Int) : Bool :=
  let twice := 2 * n + 1
  let mid := if 0 ≤ k then twice * Nat.pow 10 k.toNat * r.den else twice * r.den
  let val := if 0 ≤ k then 2 * r.value else 2 * r.value * Nat.pow 10 (-k).toNat
  val < mid || (val == mid && n % 2 == 0)

def Rounding.magnitude (r : Rounding) : Int :=
  let whole := r.value / r.den
  if whole ≠ 0 then (digits whole).length
  else
    -- The quotient `den / value` lies above one and has as many digits as there are zeros, or one
    -- more.
    let inverse := r.den / r.value
    let guess : Int := 1 - (digits inverse).length
    if r.floor guess = 0 then guess else guess + 1

-- The shortest decimal `n * 10 ^ k` for the number, found by trying one digit, two digits and so
-- on; seventeen always suffice.
def Rounding.shortest (r : Rounding) : Nat × Int :=
  let p := r.magnitude
  let shortest? (count : Nat) : Option (Nat × Int) :=
    let k := p - count
    let n := r.floor k
    match r.accepts n k, r.accepts (n + 1) k with
    | true, true => some (if r.nearerBelow n k then n else n + 1, k)
    | true, false => some (n, k)
    | false, true => some (n + 1, k)
    | false, false => none
  ((List.range 17).findSome? fun i => shortest? (i + 1)).getD (r.floor (p - 17), p - 17)

structure Layout where
  maxBefore : Int
  maxZeros : Int

def Layout.write (l : Layout) (n : Nat) (k : Int) : List Char :=
  let stripped := (digits n).reverse.dropWhile (· == '0') |>.reverse
  let k := k + ((digits n).length - stripped.length : Nat)
  let point : Int := stripped.length + k
  if 0 ≤ k ∧ point ≤ l.maxBefore then
    stripped ++ List.replicate k.toNat '0' ++ ['.', '0']
  else if 0 < point ∧ point ≤ l.maxBefore then
    stripped.take point.toNat ++ '.' :: stripped.drop point.toNat
  else if -l.maxZeros ≤ point ∧ point ≤ 0 then
    '0' :: '.' :: (List.replicate (-point).toNat '0' ++ stripped)
  else
    let e := point - 1
    let exponent := (if e < 0 then ['e', '-'] else ['e', '+']) ++ digits e.natAbs
    match stripped with
    | [d] => d :: exponent
    | d :: rest => d :: '.' :: (rest ++ exponent)
    | [] => exponent

-- Split the bits of a finite number into sign, mantissa and binary exponent. The last part tells
-- whether the number is a power of two with closer neighbours below.
def decode (x : Float) : Bool × Nat × Int × Bool :=
  let bits := x.toBits.toNat
  let sign := bits / Nat.pow 2 63 == 1
  let biased : Nat := bits / Nat.pow 2 52 % Nat.pow 2 11
  let fraction : Nat := bits % Nat.pow 2 52
  if biased == 0 then (sign, fraction, -1074, false)
  else (sign, fraction + Nat.pow 2 52, biased - 1075, fraction == 0 && 1 < biased)

def Layout.text (l : Layout) (x : Float) : List Char :=
  let (negative, m, e, atPower) := decode x
  let body :=
    if m = 0 then ['0', '.', '0']
    else
      let (n, k) := (Rounding.of m e atPower).shortest
      l.write n k
  if negative then '-' :: body else body

end IndexWatch.Decimal
