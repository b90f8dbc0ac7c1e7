/-
Quoted texts: a text between double quotes on one line, as error messages show it.

A double quote and a backslash are written after a backslash, five controls as a letter
after one, and every other hidden character as `\u{…}` with its code point in hexadecimal.
A single quote stands for itself.
-/
import Strongbox.Text.Hidden
namespace Strongbox.Text

def quoteChar (c : Char) : List Char :=
  match c with
  | '\x00' => ['\\', '0']
  | '\t' => ['\\', 't']
  | '\n' => ['\\', 'n']
  | '\r' => ['\\', 'r']
  | '"' => ['\\', '"']
  | '\\' => ['\\', '\\']
  | c =>
    if isHidden c then "\\u\x7b".toList ++ (Numeral.hexLower c.toNat).toList ++ ['\x7d'] else [c]

def quoted (s : String) : String :=
  "\"" ++ String.ofList (s.toList.flatMap quoteChar) ++ "\""

/-- An optional text, by its two cases. -/
def quotedOption : Option String → String
  | none => "None"
  | some s => "Some(" ++ quoted s ++ ")"

end Strongbox.Text
