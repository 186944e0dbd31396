namespace IndexWatch.Punycode

def digitChar (d : Nat) : Char :=
  if d < 26 then Char.ofNat ('a'.toNat + d) else Char.ofNat ('0'.toNat + d - 26)

def digit? (c : Char) : Option Nat :=
  if 'a' ≤ c && c ≤ 'z' then some (c.toNat - 'a'.toNat)
  else if 'A' ≤ c && c ≤ 'Z' then some (c.toNat - 'A'.toNat)
  else if c.isDigit then some (c.toNat - '0'.toNat + 26)
  else none

-- The digits below this bound end a number; it depends on the digit's place `k`.
def threshold (k bias : Nat) : Nat := min 26 (max 1 (k - bias))

theorem threshold_pos (k bias : Nat) : 0 < threshold k bias := by unfold threshold; omega

def settle (delta count : Nat) : Nat × Nat :=
  if 455 < delta then settle (delta / 35) (count + 1) else (delta, count)

def adapt (delta points : Nat) (first : Bool) : Nat :=
  let delta := if first then delta / 700 else delta / 2
  let (delta, count) := settle (delta + delta / points) 0
  36 * count + 36 * delta / (delta + 38)

def number (bias k q : Nat) : List Char :=
  let t := threshold k bias
  if q < t then [digitChar q]
  else digitChar (t + (q - t) % (36 - t)) :: number bias (k + 36) ((q - t) / (36 - t))
termination_by q
decreasing_by
  have := threshold_pos k bias
  exact Nat.lt_of_le_of_lt (Nat.div_le_self _ _) (by omega)

structure Progress where
  out : List Char
  delta : Nat := 0
  bias : Nat := 72
  count : Nat

-- Pass a place of the name while the characters with the code `code` are written.
def Progress.pass (basic code : Nat) (p : Progress) (c : Char) : Progress :=
  if c.toNat < code then { p with delta := p.delta + 1 }
  else if c.toNat = code then {
    out := p.out ++ number p.bias 36 p.delta
    delta := 0
    bias := adapt p.delta (p.count + 1) (p.count = basic)
    count := p.count + 1 }
  else p

-- Write the characters with the codes that are left, of which `next` is the least possible.
def Progress.run (basic : Nat) (name : List Char) (p : Progress) (next : Nat) : List Nat → Progress
  | [] => p
  | code :: codes =>
    let p := { p with delta := p.delta + (code - next) * (p.count + 1) }
    let p := name.foldl (pass basic code) p
    run basic name { p with delta := p.delta + 1 } (code + 1) codes

def codes (name : List Char) : List Nat :=
  (((name.map Char.toNat).filter (0x80 ≤ ·)).mergeSort (· ≤ ·)).eraseReps

def encode (name : List Char) : List Char :=
  let basic := name.filter (·.toNat < 0x80)
  let start := if basic.isEmpty then [] else basic ++ ['-']
  (Progress.run basic.length name ⟨start, 0, 72, basic.length⟩ 0x80 (codes name)).out

-- A number that is being read, behind the characters found before it.
structure Reading where
  name : List Char
  code : Nat := 0x80
  place : Nat := 0
  bias : Nat := 72
  -- The value so far, with that of the numbers before.
  value : Nat := 0
  weight : Nat := 1
  k : Nat := 36

def maxNumber : Nat := UInt32.size

def Reading.finish? (r : Reading) : Option Reading :=
  let length := r.name.length + 1
  let code := r.code + r.value / length
  let place := r.value % length
  if h : code.isValidChar then some {
    name := r.name.take place ++ Char.ofNatAux code h :: r.name.drop place
    code := code
    place := place + 1
    bias := adapt (r.value - r.place) length (r.place = 0)
    value := place + 1 }
  else none

def Reading.run? (r : Reading) : List Char → Option (List Char)
  | [] => if r.k = 36 then some r.name else none
  | c :: rest => do
    let d ← digit? c
    let t := threshold r.k r.bias
    let r := { r with value := r.value + d * r.weight }
    if maxNumber ≤ r.value then none
    else if d < t then run? (← r.finish?) rest
    else
      let weight := r.weight * (36 - t)
      if maxNumber ≤ weight then none else run? { r with weight := weight, k := r.k + 36 } rest

-- The name that a text stands for. Where no characters of ASCII stand in front, there is no hyphen
-- behind them either.
def decode? (text : List Char) : Option (List Char) :=
  let digits := text.reverse.takeWhile (· ≠ '-')
  let start (name : List Char) : Reading := ⟨name, 0x80, 0, 72, 0, 1, 36⟩
  if digits.length + 1 < text.length then
    (start (text.take (text.length - digits.length - 1))).run? digits.reverse
  else (start []).run? text

end IndexWatch.Punycode
