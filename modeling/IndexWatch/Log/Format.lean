import IndexWatch.Log.Record

namespace IndexWatch.Log

inductive Format where
  | compact
  | json
  deriving DecidableEq, Repr, Inhabited

namespace Format

-- A format by its name, in any case. The name in ASCII small letters is given back if there is no
-- such format.
def read (s : String) : Except String Format :=
  match s.toLower with
  | "compact" => .ok compact
  | "text" => .ok compact
  | "json" => .ok json
  | name => .error name

def unknownMessage (name : String) : String :=
  "unknown log format '" ++ name ++ "' (expected compact or json)"

def compactValue : Value → String
  | .text s => s
  | .number n => toString n

def line (r : Record) : Format → String
  | compact => String.intercalate " " (r.level.name :: (r.target ++ ":") :: r.message ::
      r.fields.map fun f => f.1 ++ "=" ++ compactValue f.2)
  | json => (Json.ofMembers [
      ("level", .string r.level.name),
      ("fields", .ofMembers (("message", .string r.message) :: r.fieldsJson)),
      ("target", .string r.target)]).text

end Format

end IndexWatch.Log
