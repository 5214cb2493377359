import Roster.Text.Printable

namespace Roster.Text

/-! Texts in quotation marks, on one line and without invisible characters. -/

namespace Quoted

/-- Hexadecimal digits, without leading zeros. -/
def hex (n : Nat) : List Char := Nat.toDigits 16 n

/-- How a character is written between the quotation marks. -/
def encodeChar : Char → List Char
  | '"' => ['\\', '"']
  | '\\' => ['\\', '\\']
  | '\n' => ['\\', 'n']
  | '\r' => ['\\', 'r']
  | '\t' => ['\\', 't']
  | '\x00' => ['\\', '0']
  | char =>
    if isPrintable char then [char] else ['\\', 'u', '\x7b'] ++ hex char.toNat ++ ['\x7d']

end Quoted

def quoted (text : String) : String :=
  String.ofList ('"' :: text.toList.flatMap Quoted.encodeChar ++ ['"'])

end Roster.Text
