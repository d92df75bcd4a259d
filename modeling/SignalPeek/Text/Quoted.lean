import SignalPeek.Text.Hidden

/-!
# Quoted text

The written form of a text inside another text, as it stands in every detailed rendering of this
library: between double quotes, with an escape for each character that would end the quotation or
break the line.  A character that could not be seen there is written by its number.  An apostrophe
ends nothing here and stands as it is, and so does every other character.

The escapes are a function of one character (`escape`), so that the quotation of a text is the
quotation of its characters one after the other.
-/

namespace SignalPeek.Text

/-- A character by its number, in hexadecimal digits between braces. -/
def numbered (c : Char) : List Char :=
  ['\\', 'u', '\x7b'] ++ Nat.toDigits 16 c.toNat ++ ['\x7d']

/-- How one character is written between the quotes. -/
def escape : Char → List Char
  | '"' => ['\\', '"']
  | '\\' => ['\\', '\\']
  | '\n' => ['\\', 'n']
  | '\r' => ['\\', 'r']
  | '\t' => ['\\', 't']
  | '\x00' => ['\\', '0']
  | c => if isHidden c then numbered c else [c]

/-- The text between double quotes, each character escaped where it needs to be. -/
def quoted (text : String) : String :=
  String.ofList ('"' :: text.toList.flatMap escape ++ ['"'])

/-- How a truth value is written. -/
def truth : Bool → String
  | true => "true"
  | false => "false"

end SignalPeek.Text
