/-! JSON documents as the wire format sees them. A number is classified once, when
it is read: a non-negative integer below `2^64`, a negative integer of at least
`-2^63`, or a double. Objects keep their members in the order written, and a
lookup sees the last member of a name, so a repeated name acts as if the later
member had replaced the earlier one. -/

namespace AssetBroker

/-- A JSON number as the reader classifies it. -/
inductive Json.Number where
  /-- A non-negative integer that fits in 64 bits. -/
  | nat (n : UInt64)
  /-- A negative integer that fits in 64 bits. -/
  | neg (n : Int64)
  /-- Any other number, as a double. -/
  | float (x : Float)

/-- A JSON document. -/
inductive Json where
  | null
  | bool (b : Bool)
  | num (n : Json.Number)
  | str (s : String)
  | arr (items : List Json)
  | obj (members : List (String × Json))

namespace Json

instance : Inhabited Json := ⟨.null⟩

/-- The value of the last member named `key`, if `j` is an object that has one. -/
def get? (j : Json) (key : String) : Option Json :=
  match j with
  | .obj members => (members.reverse.find? (·.1 == key)).map (·.2)
  | _ => none

/-- A count or length, written as a non-negative integer. -/
def ofNat (n : Nat) : Json := .num (.nat n.toUInt64)

/-- A signed integer of 64 bits. -/
def ofInt64 (i : Int64) : Json :=
  if i < 0 then .num (.neg i) else .num (.nat i.toInt.toNat.toUInt64)

def ofStrings (xs : List String) : Json := .arr (xs.map .str)

def ofOption {α : Type} (f : α → Json) : Option α → Json
  | some a => f a
  | none => .null

@[simp] theorem get?_obj (members : List (String × Json)) (key : String) :
    (Json.obj members).get? key = (members.reverse.find? (·.1 == key)).map (·.2) := rfl

end Json

end AssetBroker
