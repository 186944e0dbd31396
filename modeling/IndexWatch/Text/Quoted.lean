import IndexWatch.Text.Shapeless

namespace IndexWatch.Text

-- A character between quotes: quotes, backslashes and line ends by a letter, characters without a
-- shape by their code point.
def visible (c : Char) : List Char :=
  match c with
  | '\x00' => ['\\', '0']
  | '\t' => ['\\', 't']
  | '\r' => ['\\', 'r']
  | '\n' => ['\\', 'n']
  | '"' => ['\\', '"']
  | '\\' => ['\\', '\\']
  | c =>
    if isShapeless c then ['\\', 'u', '{'] ++ Nat.toDigits 16 c.toNat ++ ['}'] else [c]

def quoted (s : String) : String :=
  String.ofList ('"' :: (s.toList.flatMap visible ++ ['"']))

end IndexWatch.Text
