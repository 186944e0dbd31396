import IndexWatch.Json.Printer

namespace IndexWatch.Log

inductive Level where
  | error
  | warn
  | info
  | debug
  deriving DecidableEq, Repr

def Level.name : Level → String
  | error => "ERROR"
  | warn => "WARN"
  | info => "INFO"
  | debug => "DEBUG"

-- The least serious records that are shown, as a rank: nothing for zero, and everything for five.
abbrev Rank := Nat

def Level.rank : Level → Rank
  | error => 1
  | warn => 2
  | info => 3
  | debug => 4

inductive Value where
  | text (s : String)
  | number (n : Int)
  deriving DecidableEq, Repr

def Value.toJson : Value → Json
  | text s => .string s
  | number n => .ofInt n

-- A record names the component that it comes from.
structure Record where
  level : Level
  target : String
  message : String
  fields : List (String × Value)
  deriving DecidableEq, Repr

-- The fields of a record as a JSON object.
def Record.fieldsJson (r : Record) : List (String × Json) :=
  r.fields.map fun f => (f.1, f.2.toJson)

end IndexWatch.Log
