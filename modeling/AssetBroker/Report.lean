import AssetBroker.Json.Encode
import AssetBroker.Manager

/-! How results are written in answers. A value is tagged with its kind, as in
`{"Int": 5}` or `{"Float": "0.1"}`, a double by its plain text; a map of values
is an object of tagged values in key order; a specification is an object of its
schema and data; a context names its access and retention and carries its locale
and state, or `null` for those it lacks; a management policy gives its bits and
the meaning of each; a trace event gives its level, target and fields. -/

namespace AssetBroker

def Value.tagged : Value → Json
  | .bool b => .obj [("Bool", .bool b)]
  | .int i => .obj [("Int", Json.ofInt64 i)]
  | .float x => .obj [("Float", .str (Value.floatText x))]
  | .string s => .obj [("String", .str s)]

/-- A map of values, each tagged. -/
def Dict.tagged (m : Dict Value) : Json := m.toJson Value.tagged

/-- A map of text. -/
def Dict.texts (m : Dict String) : Json := m.toJson .str

def EntityRef.report (r : EntityRef) : Json := .str r.text

def EntityRef.reportAll (refs : List EntityRef) : Json := .arr (refs.map EntityRef.report)

def EntitySpec.report (s : EntitySpec) : Json :=
  .obj [("schema", .str s.schema), ("data", s.data.tagged)]

def Context.report {σ : Type} (state : σ → Json) (c : Context σ) : Json :=
  .obj [("access", .str c.access.name), ("retention", .str c.retention.name),
    ("locale", Json.ofOption EntitySpec.report c.locale), ("state", Json.ofOption state c.state)]

def ManagementPolicy.report (p : ManagementPolicy) : Json :=
  .obj [("bits", Json.ofNat p.bits.toNat), ("ignored", .bool p.isIgnored), ("managed", .bool p.isManaged),
    ("exclusive", .bool p.isExclusive), ("will_manage_path", .bool p.willManage)]

def TraceField.report : TraceField → Json
  | .text s => .str s
  | .count n => Json.ofNat n

def TraceEvent.report (e : TraceEvent) : Json :=
  .obj [("level", .str e.level.name), ("target", .str e.target),
    ("fields", .obj (e.fields.map fun f => (f.1, f.2.report)))]

def VersionQuery.report (q : VersionQuery) : Json :=
  .obj [("include_meta_versions", .bool q.includeMetaVersions),
    ("max_num_versions", Json.ofInt64 q.maxNumVersions), ("is_default", .bool (q == {}))]

/-- An error answer: its kind and message. -/
def errorReport (kind message : String) : Json :=
  .obj [("error", .str kind), ("message", .str message)]

def ShapeError.report (e : ShapeError) : Json := errorReport "Shape" e.message

def CardinalityError.report (e : CardinalityError) : Json := errorReport "Cardinality" e.message

/-- The kind of a manager error as answers name it. -/
def ManagerError.kind {ε : Type} : ManagerError ε → String
  | .shape _ => "Shape"
  | .cardinality _ => "Cardinality"
  | .interface _ => "Interface"

end AssetBroker
