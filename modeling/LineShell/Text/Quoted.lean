import LineShell.Text.Unprintable

/-!
# Quoted text

A text between double quotes, in which every character that could be mistaken or does not show is
written as an escape: `\n` and its like for the well known ones, `\u` and the number in braces for
all others.
-/

namespace LineShell.Text

/-- The number of a character in braces, in lower case hexadecimal. -/
def numberEscape (c : Char) : String :=
  "\\u\x7b" ++ .ofList (Nat.toDigits 16 c.toNat) ++ "\x7d"

/-- One character as it stands in quoted text. -/
def quotedChar (c : Char) : String :=
  match c with
  | '\x00' => "\\0"
  | '\t' => "\\t"
  | '\r' => "\\r"
  | '\n' => "\\n"
  | '"' => "\\\""
  | '\\' => "\\\\"
  | c => if isPrintable c then c.toString else numberEscape c

/-- The text between double quotes, with escapes. -/
def quoted (text : String) : String :=
  "\"" ++ String.join (text.toList.map quotedChar) ++ "\""

end LineShell.Text
