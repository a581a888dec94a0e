import AssetBroker.Json.Basic
import AssetBroker.Decimal.Scaled

/-! Reading JSON text strictly, by RFC 8259 and nothing more. Blanks are space,
tab, line feed and carriage return. Strings hold no raw control character, and a
`\u` escape of a surrogate must be a high one followed at once by a low one.
Numbers have no leading zero and no plus sign, and a point has digits on both
sides. Nothing but blanks may follow the document, and at most 127 arrays or
objects may be open at once.

A number is classified as it is read. Digits are gathered into a significand as
long as it stays below `2^64`; later digits of the integer part only raise the
power of ten, later fraction digits are dropped. Without a point or an exponent
the number is an integer: a non-negative one as such, a negative one when it is
at least `-2^63`, and a double otherwise (so `-0` is the double negative zero).
With a point or an exponent it is a double, made by `Decimal.scale`; an exponent
beyond `2^31 - 1` makes it zero, or refuses it when the significand is not zero
and the exponent is positive. -/

namespace AssetBroker.Json

/-- The blanks between tokens. -/
def isBlank (c : Char) : Bool := c == ' ' || c == '\t' || c == '\n' || c == '\r'

def skipBlanks : List Char → List Char
  | c :: rest => if isBlank c then skipBlanks rest else c :: rest
  | [] => []

def isDigit (c : Char) : Bool := '0' ≤ c && c ≤ '9'

def digitValue (c : Char) : Nat := c.toNat - '0'.toNat

/-- The value of a hexadecimal digit of either case. -/
def hexValue (c : Char) : Option Nat :=
  if isDigit c then some (digitValue c)
  else if 'a' ≤ c && c ≤ 'f' then some (c.toNat - 'a'.toNat + 10)
  else if 'A' ≤ c && c ≤ 'F' then some (c.toNat - 'A'.toNat + 10)
  else none

def hex4 (a b c d : Char) : Option Nat := do
  pure ((← hexValue a) * 4096 + (← hexValue b) * 256 + (← hexValue c) * 16 + (← hexValue d))

/-- The character that a short escape stands for. -/
def shortEscape : Char → Option Char
  | '"' => some '"'
  | '\\' => some '\\'
  | '/' => some '/'
  | 'b' => some '\x08'
  | 'f' => some '\x0c'
  | 'n' => some '\n'
  | 'r' => some '\r'
  | 't' => some '\t'
  | _ => none

/-- The body of a string after its opening quote, up to and without the closing
quote; `acc` holds the characters read so far, last first. -/
def readString (acc : List Char) : List Char → Option (String × List Char)
  | [] => none
  | '"' :: rest => some (String.ofList acc.reverse, rest)
  | '\\' :: 'u' :: a :: b :: c :: d :: rest =>
    match hex4 a b c d with
    | none => none
    | some n =>
      if n < 0xD800 || n ≥ 0xE000 then readString (Char.ofNat n :: acc) rest
      else if n ≥ 0xDC00 then none
      else
        match rest with
        | '\\' :: 'u' :: e :: f :: g :: h :: rest' =>
          match hex4 e f g h with
          | some low =>
            if 0xDC00 ≤ low && low < 0xE000 then
              readString (Char.ofNat (0x10000 + (n - 0xD800) * 0x400 + (low - 0xDC00)) :: acc) rest'
            else none
          | none => none
        | _ => none
  | '\\' :: e :: rest =>
    match shortEscape e with
    | some c => readString (c :: acc) rest
    | none => none
  | c :: rest => if c.toNat < 0x20 then none else readString (c :: acc) rest

/-! ### Numbers -/

/-- The largest significand: `2^64 - 1`. -/
def significandLimit : Nat := Nat.pow 2 64 - 1

/-- The largest exponent that is read as written: `2^31 - 1`. -/
def exponentLimit : Nat := Nat.pow 2 31 - 1

/-- An exponent kept within the 32-bit range. -/
def clampExponent (e : Int) : Int := max (-(exponentLimit : Int) - 1) (min e exponentLimit)

/-- `±(s · 10^e)` as a double. -/
def toDouble (negative : Bool) (s : Nat) (e : Int) : Option Number :=
  (Decimal.scale s.toUInt64 e).map fun f => .float (if negative then -f else f)

/-- A number without point or exponent. -/
def integer (negative : Bool) (s : Nat) : Number :=
  if !negative then .nat s.toUInt64
  else if s == 0 then .float (-0.0)
  else if s ≤ Nat.pow 2 63 then .neg (Int64.ofInt (-(s : Int)))
  else .float (-(s.toUInt64.toFloat))

/-- Exponent digits after the first, `e` so far. -/
def readExponentDigits (negative : Bool) (s : Nat) (start : Int) (positive : Bool) (e : Nat) :
    List Char → Option (Number × List Char)
  | c :: rest =>
    if isDigit c then
      if e * 10 + digitValue c > exponentLimit then
        if s != 0 && positive then none
        else some (.float (if negative then -0.0 else 0.0), rest.dropWhile isDigit)
      else readExponentDigits negative s start positive (e * 10 + digitValue c) rest
    else (toDouble negative s (clampExponent (if positive then start + e else start - e))).map (·, c :: rest)
  | [] => (toDouble negative s (clampExponent (if positive then start + e else start - e))).map (·, [])

/-- An exponent after its `e`: a sign, then at least one digit. -/
def readExponent (negative : Bool) (s : Nat) (start : Int) (cs : List Char) :
    Option (Number × List Char) :=
  let (positive, rest) : Bool × List Char :=
    match cs with
    | '+' :: r => (true, r)
    | '-' :: r => (false, r)
    | r => (true, r)
  match rest with
  | c :: r => if isDigit c then readExponentDigits negative s start positive (digitValue c) r else none
  | [] => none

/-- What follows the digits of a number once the significand is full: further
digits are dropped, then an exponent may come. -/
def readAfterFull (negative : Bool) (s : Nat) (e : Int) (cs : List Char) :
    Option (Number × List Char) :=
  match cs.dropWhile isDigit with
  | c :: r => if c == 'e' || c == 'E' then readExponent negative s e r else (toDouble negative s e).map (·, c :: r)
  | [] => (toDouble negative s e).map (·, [])

/-- Fraction digits: `count` of them read into `s` so far, the power of ten before the point being `start`. -/
def readFraction (negative : Bool) (s : Nat) (start : Int) (count : Nat) :
    List Char → Option (Number × List Char)
  | c :: rest =>
    if isDigit c then
      if s * 10 + digitValue c > significandLimit then readAfterFull negative s (start - count) (c :: rest)
      else readFraction negative (s * 10 + digitValue c) start (count + 1) rest
    else if count == 0 then none
    else if c == 'e' || c == 'E' then readExponent negative s (start - count) rest
    else (toDouble negative s (start - count)).map (·, c :: rest)
  | [] => if count == 0 then none else (toDouble negative s (start - count)).map (·, [])

/-- Integer digits beyond a full significand: each one raises the power of ten. -/
def readLongInteger (negative : Bool) (s : Nat) (extra : Nat) : List Char → Option (Number × List Char)
  | c :: rest =>
    if isDigit c then readLongInteger negative s (extra + 1) rest
    else if c == '.' then readFraction negative s extra 0 rest
    else if c == 'e' || c == 'E' then readExponent negative s extra rest
    else (toDouble negative s extra).map (·, c :: rest)
  | [] => (toDouble negative s extra).map (·, [])

/-- What may follow the integer part: a point, an exponent, or the end of the number. -/
def readAfterInteger (negative : Bool) (s : Nat) : List Char → Option (Number × List Char)
  | '.' :: rest => readFraction negative s 0 0 rest
  | c :: rest =>
    if c == 'e' || c == 'E' then readExponent negative s 0 rest else some (integer negative s, c :: rest)
  | [] => some (integer negative s, [])

/-- Integer digits after the first, gathered while the significand stays below `2^64`. -/
def readIntegerDigits (negative : Bool) (s : Nat) : List Char → Option (Number × List Char)
  | c :: rest =>
    if isDigit c then
      if s * 10 + digitValue c > significandLimit then readLongInteger negative s 0 (c :: rest)
      else readIntegerDigits negative (s * 10 + digitValue c) rest
    else readAfterInteger negative s (c :: rest)
  | [] => readAfterInteger negative s []

/-- A number, from its sign or first digit. -/
def readNumber (cs : List Char) : Option (Number × List Char) :=
  let (negative, rest) : Bool × List Char :=
    match cs with
    | '-' :: r => (true, r)
    | r => (false, r)
  match rest with
  | '0' :: r =>
    match r with
    | c :: _ => if isDigit c then none else readAfterInteger negative 0 r
    | [] => readAfterInteger negative 0 []
  | c :: r => if isDigit c then readIntegerDigits negative (digitValue c) r else none
  | [] => none

/-! ### Documents -/

mutual

/-- A value after optional blanks. `depth` counts the arrays and objects that may
still be opened, plus one; `fuel` bounds the number of steps. -/
def readValue : Nat → Nat → List Char → Option (Json × List Char)
  | 0, _, _ => none
  | fuel + 1, depth, cs =>
    match skipBlanks cs with
    | 'n' :: 'u' :: 'l' :: 'l' :: rest => some (.null, rest)
    | 't' :: 'r' :: 'u' :: 'e' :: rest => some (.bool true, rest)
    | 'f' :: 'a' :: 'l' :: 's' :: 'e' :: rest => some (.bool false, rest)
    | '"' :: rest => (readString [] rest).map fun (s, r) => (.str s, r)
    | '[' :: rest =>
      if depth ≤ 1 then none
      else
        match skipBlanks rest with
        | ']' :: r => some (.arr [], r)
        | r => readItems fuel (depth - 1) [] r
    | '{' :: rest =>
      if depth ≤ 1 then none
      else
        match skipBlanks rest with
        | '}' :: r => some (.obj [], r)
        | r => readMembers fuel (depth - 1) [] r
    | c :: rest =>
      if c == '-' || isDigit c then (readNumber (c :: rest)).map fun (n, r) => (.num n, r) else none
    | [] => none

/-- The items of an array from its first one on; `acc` holds those read, last first. -/
def readItems : Nat → Nat → List Json → List Char → Option (Json × List Char)
  | 0, _, _, _ => none
  | fuel + 1, depth, acc, cs =>
    match readValue fuel depth cs with
    | none => none
    | some (v, rest) =>
      match skipBlanks rest with
      | ',' :: r => readItems fuel depth (v :: acc) r
      | ']' :: r => some (.arr (v :: acc).reverse, r)
      | _ => none

/-- The members of an object from its first one on; `acc` holds those read, last first. -/
def readMembers : Nat → Nat → List (String × Json) → List Char → Option (Json × List Char)
  | 0, _, _, _ => none
  | fuel + 1, depth, acc, cs =>
    match skipBlanks cs with
    | '"' :: r =>
      match readString [] r with
      | none => none
      | some (key, r) =>
        match skipBlanks r with
        | ':' :: r =>
          match readValue fuel depth r with
          | none => none
          | some (v, r) =>
            match skipBlanks r with
            | ',' :: r => readMembers fuel depth ((key, v) :: acc) r
            | '}' :: r => some (.obj ((key, v) :: acc).reverse, r)
            | _ => none
        | _ => none
    | _ => none

end

/-- The document that `text` holds, if it is valid JSON. -/
def parse (text : String) : Option Json :=
  let cs := text.toList
  match readValue (2 * cs.length + 2) 128 cs with
  | some (j, rest) => if (skipBlanks rest).isEmpty then some j else none
  | none => none

end AssetBroker.Json
