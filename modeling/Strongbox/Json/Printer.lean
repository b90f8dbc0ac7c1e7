/-
JSON values as text without blanks.

Inside a string a double quote, a backslash and the controls are escaped, five controls as a
letter and the others as `\u00xx`; every other character stands for itself.
-/
import Strongbox.Json.Basic
import Strongbox.Number.Shortest
namespace Strongbox.Json

/-- One character inside a JSON string. -/
def escapeChar (c : Char) : List Char :=
  match c with
  | '"' => ['\\', '"']
  | '\\' => ['\\', '\\']
  | '\x08' => ['\\', 'b']
  | '\x0c' => ['\\', 'f']
  | '\n' => ['\\', 'n']
  | '\r' => ['\\', 'r']
  | '\t' => ['\\', 't']
  | c =>
    if c.toNat < 0x20 then
      ['\\', 'u', '0', '0', Numeral.lowerDigit (c.toNat / 16), Numeral.lowerDigit (c.toNat % 16)]
    else [c]

def stringText (s : String) : List Char :=
  '"' :: s.toList.flatMap escapeChar ++ ['"']

mutual

def textOf : Json → List Char
  | .null => "null".toList
  | .bool true => "true".toList
  | .bool false => "false".toList
  | .integer n => (Numeral.decimalInt n).toList
  | .float x => (Shortest.text x).toList
  | .string s => stringText s
  | .array items => '[' :: itemsText items ++ [']']
  | .object members => '\x7b' :: membersText members ++ ['\x7d']

/-- The items with commas between them. -/
def itemsText : List Json → List Char
  | [] => []
  | [v] => textOf v
  | v :: w :: rest => textOf v ++ ',' :: itemsText (w :: rest)

/-- The members with commas between them. -/
def membersText : List (String × Json) → List Char
  | [] => []
  | [(n, v)] => stringText n ++ ':' :: textOf v
  | (n, v) :: m :: rest => stringText n ++ ':' :: textOf v ++ ',' :: membersText (m :: rest)

end

/-- The text of a value as a string. -/
def render (v : Json) : String := String.ofList (textOf v)

end Strongbox.Json
