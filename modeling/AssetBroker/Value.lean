import AssetBroker.Dict
import AssetBroker.Decimal.Shortest

/-! The scalar values of metadata records, settings and info dictionaries: a
boolean, a 64-bit integer, a double or text. A value is shown as plain text:
`true` or `false`, the integer in decimal, the double with all its digits and
never an exponent (`-0` for negative zero; `NaN`, `inf` and `-inf` for the
rest), or the text itself. Two doubles are equal when they are equal as numbers,
so `0` equals `-0` and `NaN` equals nothing. -/

namespace AssetBroker

/-- A scalar of a metadata record. -/
inductive Value where
  | bool (b : Bool)
  | int (i : Int64)
  | float (x : Float)
  | string (s : String)

/-- One entity's metadata, by entry name. -/
abbrev Metadata := Dict Value

/-- A manager's settings. -/
abbrev Settings := Dict Value

/-- Free-form facts about a manager or a host. -/
abbrev InfoDictionary := Dict Value

/-- Requested thumbnail parameters, which a manager may adjust. -/
abbrev ThumbnailOptions := Dict Value

/-- A host's words for its concepts, which a manager may replace by its own. -/
abbrev Terminology := Dict String

namespace Value

instance : Inhabited Value := ⟨.bool false⟩

def asStr? : Value → Option String
  | .string s => some s
  | _ => none

def asInt? : Value → Option Int64
  | .int i => some i
  | _ => none

def asFloat? : Value → Option Float
  | .float x => some x
  | _ => none

def asBool? : Value → Option Bool
  | .bool b => some b
  | _ => none

/-- A double with all its digits: the fewest that read back, a value halfway
between two such candidates taking the one away from zero, written positionally,
never with an exponent, and with no point for a whole number. -/
def floatText (x : Float) : String :=
  match Decimal.Parts.ofFloat x with
  | .finite negative m q =>
    let body := if m == 0 then "0" else
      let (d, k) := Decimal.shortest .toAway m q
      Decimal.plain d k
    if negative then "-" ++ body else body
  | .infinite negative => if negative then "-inf" else "inf"
  | .nan => "NaN"

/-- The plain text of a value. -/
def display : Value → String
  | .bool b => if b then "true" else "false"
  | .int i => toString i.toInt
  | .float x => floatText x
  | .string s => s

/-- Equality of values, doubles compared as numbers. -/
def beq : Value → Value → Bool
  | .bool a, .bool b => a == b
  | .int a, .int b => a == b
  | .float a, .float b => a == b
  | .string a, .string b => a == b
  | _, _ => false

instance : BEq Value := ⟨beq⟩

end Value

end AssetBroker
