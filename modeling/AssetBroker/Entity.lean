import AssetBroker.Value

/-! Entities as a host names them. A reference is opaque text handed out by a
manager; references are equal and ordered as text, by code point, which is the
order of their UTF-8 bytes. A specification names a schema and carries data; a
schema of the form `prefix:type` splits at its first colon, and one without a
colon has an empty type. -/

namespace AssetBroker

/-- Opaque text that identifies an entity within a manager. -/
structure EntityRef where
  text : String
  deriving DecidableEq, Inhabited

instance : Ord EntityRef := ⟨fun a b => compare a.text b.text⟩

/-- The traits of an entity for queries, registration and relationships. -/
structure EntitySpec where
  schema : String
  data : Metadata := {}
  deriving Inhabited

/-- The part of a list before the first `c`, and the part after it. -/
def splitAtFirst (c : Char) : List Char → Option (List Char × List Char)
  | [] => none
  | x :: rest => if x = c then some ([], rest) else (splitAtFirst c rest).map fun p => (x :: p.1, p.2)

namespace EntitySpec

/-- Adds or replaces one entry of the data. -/
def insert (s : EntitySpec) (key : String) (value : Value) : EntitySpec :=
  { s with data := s.data.insert key value }

def get? (s : EntitySpec) (key : String) : Option Value := s.data.get? key

/-- The schema split at its first colon into prefix and type. -/
def components (s : EntitySpec) : String × String :=
  match splitAtFirst ':' s.schema.toList with
  | some (p, t) => (String.ofList p, String.ofList t)
  | none => (s.schema, "")

instance : BEq EntitySpec := ⟨fun a b => a.schema == b.schema && a.data == b.data⟩

end EntitySpec

end AssetBroker
