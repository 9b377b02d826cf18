import SchemaConversion.Text.Printable

/-!
# Quoted text in messages

A text that a message quotes stands between double quotes, with the quote, the backslash and the
common control characters behind a backslash and every other invisible character by its code
point, so that the message shows what the text really holds.
-/

namespace SchemaConversion.Text

/-- Lower-case hexadecimal digits, the fewest that do. -/
def hexText (n : Nat) : List Char := Nat.toDigits 16 n

/-- How one character is written between double quotes. -/
def quotedChar (c : Char) : List Char :=
  match c with
  | '\x00' => ['\\', '0']
  | '\t' => ['\\', 't']
  | '\r' => ['\\', 'r']
  | '\n' => ['\\', 'n']
  | '"' => ['\\', '"']
  | '\\' => ['\\', '\\']
  | c => if isPrintable c then [c] else ['\\', 'u', '\x7b'] ++ hexText c.toNat ++ ['\x7d']

/-- The text between double quotes. -/
def quoted (s : String) : String :=
  String.ofList ('"' :: s.toList.flatMap quotedChar ++ ['"'])

end SchemaConversion.Text
