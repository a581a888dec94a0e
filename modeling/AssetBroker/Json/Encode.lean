import AssetBroker.Json.Basic
import AssetBroker.Entity

/-! Writing the library's types as documents, the way they are read back: a value
as the plain boolean, number or text it holds (a non-negative integer as a
non-negative number, a double that is not finite as `null`), a map as an object in
key order, a specification as an object with `schema` before `data`. -/

namespace AssetBroker

def Value.toJson : Value → Json
  | .bool b => .bool b
  | .int i => Json.ofInt64 i
  | .float x => if x.isFinite then .num (.float x) else .null
  | .string s => .str s

def Dict.toJson {α : Type} (write : α → Json) (m : Dict α) : Json :=
  .obj (m.toList.map fun e => (e.1, write e.2))

def EntitySpec.toJson (s : EntitySpec) : Json :=
  .obj [("schema", .str s.schema), ("data", s.data.toJson Value.toJson)]

end AssetBroker
