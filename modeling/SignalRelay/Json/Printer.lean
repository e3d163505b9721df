import SignalRelay.Decimal.Shortest
import SignalRelay.Json.Value
import SignalRelay.Text.Hexadecimal

/-!
# JSON text

The wire text of a tree: no blanks, members in the order of the tree, and in strings only the quote,
the reverse solidus and the control characters escaped.
-/

namespace SignalRelay

def Number.chars : Number → List Char
  | .int (.ofNat n) => Nat.toDigits 10 n
  | .int (.negSucc n) => '-' :: Nat.toDigits 10 (n + 1)
  | .double x => x.chars

namespace Json

def escape (c : Char) : List Char :=
  if c = '"' then ['\\', '"']
  else if c = '\\' then ['\\', '\\']
  else if c = '\x08' then ['\\', 'b']
  else if c = '\x0c' then ['\\', 'f']
  else if c = '\n' then ['\\', 'n']
  else if c = '\r' then ['\\', 'r']
  else if c = '\t' then ['\\', 't']
  else if c.toNat < 0x20 then ['\\', 'u', '0', '0', hexDigit (c.toNat / 16), hexDigit (c.toNat % 16)]
  else [c]

def quoted (s : String) : List Char :=
  '"' :: s.toList.flatMap escape ++ ['"']

mutual

def chars : Json → List Char
  | .null => ['n', 'u', 'l', 'l']
  | .bool true => ['t', 'r', 'u', 'e']
  | .bool false => ['f', 'a', 'l', 's', 'e']
  | .num n => n.chars
  | .str s => quoted s
  | .arr [] => ['[', ']']
  | .arr (j :: rest) => '[' :: chars j ++ itemsChars rest ++ [']']
  | .obj [] => ['{', '}']
  | .obj (m :: rest) => '{' :: memberChars m ++ membersChars rest ++ ['}']
  termination_by structural j => j

/-- The elements that follow another one, each behind a comma. -/
def itemsChars : List Json → List Char
  | [] => []
  | j :: rest => ',' :: chars j ++ itemsChars rest
  termination_by structural items => items

/-- The members that follow another one, each behind a comma. -/
def membersChars : List (String × Json) → List Char
  | [] => []
  | m :: rest => ',' :: memberChars m ++ membersChars rest
  termination_by structural members => members

def memberChars : String × Json → List Char
  | (key, value) => quoted key ++ ':' :: chars value
  termination_by structural m => m

end

def text (j : Json) : String := String.ofList j.chars

end Json

end SignalRelay
