import AssetBroker.Json.Basic
import AssetBroker.Decimal.Shortest

/-! Writing JSON text compactly: no blanks, members in the order given. In a
string the quote, the backslash and the control characters are escaped, by the
short escapes where JSON has one and as `\u00XX` with lower-case hexadecimal
digits otherwise; every other character is written as itself. An integer is
written in decimal; a double in its shortest form the short way (see
`Decimal.short`), and a double that is not finite as `null`. -/

namespace AssetBroker.Json

/-- A lower-case hexadecimal digit. -/
def hexDigit (n : Nat) : Char :=
  if n < 10 then Char.ofNat ('0'.toNat + n) else Char.ofNat ('a'.toNat + n - 10)

/-- Appends the escaped form of one character of a string. -/
def pushEscaped (out : String) (c : Char) : String :=
  match c with
  | '"' => out ++ "\\\""
  | '\\' => out ++ "\\\\"
  | '\n' => out ++ "\\n"
  | '\r' => out ++ "\\r"
  | '\t' => out ++ "\\t"
  | '\x08' => out ++ "\\b"
  | '\x0c' => out ++ "\\f"
  | c =>
    if c.toNat < 0x20 then (out ++ "\\u00").push (hexDigit (c.toNat / 16)) |>.push (hexDigit (c.toNat % 16))
    else out.push c

/-- Appends `s` in quotes, escaped. -/
def pushQuoted (out : String) (s : String) : String :=
  (s.toList.foldl pushEscaped (out.push '"')).push '"'

/-- A string as a JSON string literal. -/
def quote (s : String) : String := pushQuoted "" s

/-- The text of a double in a document: the fewest digits that read back, a
value halfway between two such candidates taking the even one, in the short layout. -/
def floatText (x : Float) : String :=
  match Decimal.Parts.ofFloat x with
  | .finite negative m q =>
    let body := if m == 0 then "0.0" else
      let (d, k) := Decimal.shortest .toEven m q
      Decimal.short d k
    if negative then "-" ++ body else body
  | _ => "null"

def Number.text : Number → String
  | .nat n => toString n.toNat
  | .neg n => toString n.toInt
  | .float x => floatText x

mutual

/-- Appends the text of a document. -/
def pushJson (out : String) : Json → String
  | .null => out ++ "null"
  | .bool b => out ++ (if b then "true" else "false")
  | .num n => out ++ n.text
  | .str s => pushQuoted out s
  | .arr items => (pushItems (out.push '[') true items).push ']'
  | .obj members => (pushMembers (out.push '\x7b') true members).push '\x7d'

def pushItems (out : String) (first : Bool) : List Json → String
  | [] => out
  | j :: rest => pushItems (pushJson (if first then out else out.push ',') j) false rest

def pushMembers (out : String) (first : Bool) : List (String × Json) → String
  | [] => out
  | (key, j) :: rest =>
    pushMembers (pushJson ((pushQuoted (if first then out else out.push ',') key).push ':') j) false rest

end

/-- The compact text of a document. -/
def render (j : Json) : String := pushJson "" j

end AssetBroker.Json
