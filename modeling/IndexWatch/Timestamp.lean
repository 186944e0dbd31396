namespace IndexWatch

structure Timestamp where
  millis : Int
  deriving DecidableEq, Repr

namespace Timestamp

structure Date where
  year : Int
  month : Int
  day : Int
  deriving DecidableEq, Repr

-- The number of a day, counted from the first of March of the year 0 in years that start with
-- March.
def Date.toDays (d : Date) : Int :=
  let year := if d.month ≤ 2 then d.year - 1 else d.year
  let month := if d.month ≤ 2 then d.month + 9 else d.month - 3
  365 * year + Int.fdiv year 4 - Int.fdiv year 100 + Int.fdiv year 400 +
    (153 * month + 2) / 5 + d.day - 1

def epochDays : Int := Date.toDays ⟨1970, 1, 1⟩

def Date.ofDays (n : Int) : Date :=
  let era := Int.fdiv n 146097
  let inEra := n - era * 146097
  let yearInEra := (inEra - inEra / 1460 + inEra / 36524 - inEra / 146096) / 365
  let inYear := inEra - (365 * yearInEra + yearInEra / 4 - yearInEra / 100)
  let month := (5 * inYear + 2) / 153
  let year := yearInEra + era * 400
  { year := if month < 10 then year else year + 1
    month := if month < 10 then month + 3 else month - 9
    day := inYear - (153 * month + 2) / 5 + 1 }

def millisPerDay : Int := 86400000

def ofDate (d : Date) : Timestamp := ⟨(d.toDays - epochDays) * millisPerDay⟩

-- The point of time, if its year lies within the years that are supported.
def ofMillis? (n : Int) : Option Timestamp :=
  let first := ofDate ⟨-262143, 1, 1⟩
  let behind := ofDate ⟨262143, 1, 1⟩
  if first.millis ≤ n ∧ n < behind.millis then some ⟨n⟩ else none

def padded (width : Nat) (n : Nat) : String :=
  let digits := Nat.toDigits 10 n
  String.ofList (List.replicate (width - digits.length) '0' ++ digits)

def yearText (y : Int) : String :=
  if 0 ≤ y ∧ y ≤ 9999 then padded 4 y.toNat
  else (if y < 0 then "-" else "+") ++ padded 4 y.natAbs

-- The text of a point of time, with milliseconds only where there are any.
def text (t : Timestamp) : String :=
  let date := Date.ofDays (Int.fdiv t.millis millisPerDay + epochDays)
  let rest := (Int.fmod t.millis millisPerDay).toNat
  let part (unit size : Nat) := padded 2 (rest / unit % size)
  yearText date.year ++ "-" ++ padded 2 date.month.toNat ++ "-" ++ padded 2 date.day.toNat ++ "T" ++
    part 3600000 24 ++ ":" ++ part 60000 60 ++ ":" ++ part 1000 60 ++
    (if rest % 1000 = 0 then "" else "." ++ padded 3 (rest % 1000)) ++ "Z"

example : (⟨951827696789⟩ : Timestamp).text = "2000-02-29T12:34:56.789Z" := by decide +kernel

example : (⟨-1⟩ : Timestamp).text = "1969-12-31T23:59:59.999Z" := by decide +kernel

end Timestamp

end IndexWatch
