import AssetBroker.Json.Print
import AssetBroker.Json.Parse
import AssetBroker.Entity
import AssetBroker.Text.Shown

/-! Reading the library's types out of documents, with the errors of the data
model. A value is read by trying a boolean, a 64-bit integer, a double and text in
that order: an integer beyond the 64-bit signed range becomes a double, and
`null`, arrays and objects are refused. A map is an object of values. A
specification is an object whose `schema` is text and whose optional `data` is a
map; members are taken in key order, so a fault in `data` is reported before one
in `schema`, and other members are ignored. An array of one or two items (schema,
then data) is accepted too. -/

namespace AssetBroker

/-- Why a document does not hold a value of the expected type. -/
inductive DecodeError where
  /-- Not a boolean, number or text, so no kind of value. -/
  | noVariant
  /-- The document is of another kind than `expected`. -/
  | invalidType (found : Json) (expected : String)
  /-- An array of the wrong length. -/
  | invalidLength (length : Nat) (expected : String)
  | missingField (name : String)

/-- How an error names a document it did not expect. -/
def Json.describe : Json → String
  | .null => "null"
  | .bool b => "boolean `" ++ (if b then "true" else "false") ++ "`"
  | .num (.nat n) => "integer `" ++ toString n.toNat ++ "`"
  | .num (.neg n) => "integer `" ++ toString n.toInt ++ "`"
  | .num (.float x) => "floating point `" ++ Json.floatText x ++ "`"
  | .str s => "string " ++ Text.shown s
  | .arr _ => "sequence"
  | .obj _ => "map"

def DecodeError.message : DecodeError → String
  | .noVariant => "data did not match any variant of untagged enum Value"
  | .invalidType found expected => "invalid type: " ++ found.describe ++ ", expected " ++ expected
  | .invalidLength n expected => "invalid length " ++ toString n ++ ", expected " ++ expected
  | .missingField name => "missing field `" ++ name ++ "`"

/-- A number as a double; an integer goes to the nearest double. -/
def Json.Number.toFloat : Json.Number → Float
  | .nat n => n.toFloat
  | .neg n => n.toFloat
  | .float x => x

/-- The value a document holds, trying a boolean, an integer, a double and text in turn. -/
def Value.ofJson : Json → Except DecodeError Value
  | .bool b => .ok (.bool b)
  | .num (.nat n) => if n.toNat < Nat.pow 2 63 then .ok (.int (Int64.ofNat n.toNat)) else .ok (.float n.toFloat)
  | .num (.neg n) => .ok (.int n)
  | .num (.float x) => .ok (.float x)
  | .str s => .ok (.string s)
  | _ => .error .noVariant

/-- The map of values an object holds. A repeated key keeps its last member, and
members are read in key order. -/
def Dict.ofJson {α : Type} (read : Json → Except DecodeError α) (j : Json) :
    Except DecodeError (Dict α) :=
  match j with
  | .obj members =>
    (Dict.ofList members).toList.foldlM (fun acc e => do pure (acc.insert e.1 (← read e.2))) {}
  | other => .error (.invalidType other "a map")

/-- A metadata record read straight from text: every member is read in the order
written, so a member that is no value is refused even when a later member of the
same key would replace it. -/
def Metadata.ofText (text : String) : Option Metadata :=
  match Json.parse text with
  | some (.obj members) =>
    (members.foldlM (fun acc e => do pure (acc.insert e.1 (← (Value.ofJson e.2).toOption))) {})
  | _ => none

/-- Text, or the error for another kind of document. -/
def Json.text? : Json → Except DecodeError String
  | .str s => .ok s
  | other => .error (.invalidType other "a string")

def EntitySpec.ofJson (j : Json) : Except DecodeError EntitySpec :=
  match j with
  | .obj _ => do
    let data ← match j.get? "data" with
      | some d => Dict.ofJson Value.ofJson d
      | none => pure {}
    match j.get? "schema" with
    | some s => pure { schema := ← s.text?, data }
    | none => throw (.missingField "schema")
  | .arr items =>
    match items with
    | [] => throw (.invalidLength 0 "struct EntitySpecification with 2 elements")
    | s :: rest => do
      let schema ← s.text?
      let data ← match rest with
        | d :: _ => Dict.ofJson Value.ofJson d
        | [] => pure {}
      if items.length > 2 then throw (.invalidLength items.length "fewer elements in array")
      pure { schema, data }
  | other => throw (.invalidType other "struct EntitySpecification")

end AssetBroker
