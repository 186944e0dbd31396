namespace IndexWatch

-- A text as it came in: a character, or `none` for a byte that is part of no character.
abbrev WireText := List (Option Char)

namespace WireText

def ofString (s : String) : WireText := s.toList.map some

def isTail (b : UInt8) : Bool := 0x80 ≤ b && b ≤ 0xBF

def isSecondOfThree (a b : UInt8) : Bool :=
  (a == 0xE0 && 0xA0 ≤ b && b ≤ 0xBF) ||
  (((0xE1 ≤ a && a ≤ 0xEC) || a == 0xEE || a == 0xEF) && isTail b) ||
  (a == 0xED && 0x80 ≤ b && b ≤ 0x9F)

def isSecondOfFour (a b : UInt8) : Bool :=
  (a == 0xF0 && 0x90 ≤ b && b ≤ 0xBF) ||
  (0xF1 ≤ a && a ≤ 0xF3 && isTail b) ||
  (a == 0xF4 && 0x80 ≤ b && b ≤ 0x8F)

def assemble (n : Nat) (tail : List UInt8) : Char :=
  Char.ofNat (tail.foldl (fun acc b => acc * 64 + (b.toNat - 0x80)) n)

def ofBytes : List UInt8 → WireText
  | [] => []
  | a :: r =>
    if a < 0x80 then some (Char.ofNat a.toNat) :: ofBytes r
    else match r with
      | [] => [none]
      | b :: r =>
        if 0xC2 ≤ a && a ≤ 0xDF && isTail b then
          some (assemble (a.toNat - 0xC0) [b]) :: ofBytes r
        else match r with
          | [] => none :: ofBytes [b]
          | c :: r =>
            if isSecondOfThree a b && isTail c then
              some (assemble (a.toNat - 0xE0) [b, c]) :: ofBytes r
            else match r with
              | [] => none :: ofBytes [b, c]
              | d :: r =>
                if isSecondOfFour a b && isTail c && isTail d then
                  some (assemble (a.toNat - 0xF0) [b, c, d]) :: ofBytes r
                else none :: ofBytes (b :: c :: d :: r)

-- How many bytes stand in the first `n` places at most.
def byteCount (w : WireText) : Nat :=
  (w.map fun | some c => c.utf8Size | none => 1).foldr (· + ·) 0

def toString? (w : WireText) : Option String :=
  (w.mapM id).map String.ofList

end WireText

def utf8Bytes (s : String) : List UInt8 := s.toList.flatMap String.utf8EncodeChar

end IndexWatch
