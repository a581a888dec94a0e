import AssetBroker.Text.Hidden
import AssetBroker.Text.Extending

/-! Text as a message shows it: in double quotes, with the quote and the
backslash behind a backslash, NUL, tab, carriage return and line feed by their
short escapes (`\0`, `\t`, `\r`, `\n`), and every character that is hidden or
that extends the one before it as `\u{hex}` with lower-case digits and no
leading zeros. Every other character stands for itself. -/

namespace AssetBroker.Text

/-- The escape `\u{hex}` of a character. -/
def unicodeEscape (c : Char) : String :=
  "\\u\x7b" ++ String.ofList (Nat.toDigits 16 c.toNat) ++ "\x7d"

/-- Appends one character of shown text. -/
def pushShown (out : String) (c : Char) : String :=
  match c with
  | '\x00' => out ++ "\\0"
  | '\t' => out ++ "\\t"
  | '\r' => out ++ "\\r"
  | '\n' => out ++ "\\n"
  | '\\' => out ++ "\\\\"
  | '"' => out ++ "\\\""
  | c => if isExtending c || isHidden c then out ++ unicodeEscape c else out.push c

/-- A text as a message shows it, quotes included. -/
def shown (s : String) : String :=
  (s.toList.foldl pushShown "\"").push '"'

end AssetBroker.Text
