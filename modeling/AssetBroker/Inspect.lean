import AssetBroker.Report
import AssetBroker.Json.Decode
import AssetBroker.Json.Print

/-! Reports that show what the library makes of a single value: its accessors,
its text, and its serialization. A serialization is the compact document text of
the value's untagged form; it is left out (`null`) for anything that holds a
double. -/

namespace AssetBroker

def Dict.hasFloat (m : Dict Value) : Bool := m.toList.any fun e => (e.2.asFloat?).isSome

/-- A value's kind, text, accessors and serialization. -/
def Value.inspect (v : Value) : Json :=
  .obj [("value", v.tagged), ("display", .str v.display), ("as_str", Json.ofOption .str v.asStr?),
    ("as_int", Json.ofOption Json.ofInt64 v.asInt?),
    ("as_float", Json.ofOption (fun x => .str (Value.floatText x)) v.asFloat?),
    ("as_bool", Json.ofOption .bool v.asBool?),
    ("serialized", if v.asFloat?.isSome then .null else .str (Json.render v.toJson))]

def Dict.inspect (m : Metadata) : Json :=
  .obj [("record", m.tagged), ("keys", Json.ofStrings m.keys),
    ("serialized", if m.hasFloat then .null else .str (Json.render (m.toJson Value.toJson)))]

/-- A specification, its schema's parts, the values of `keys`, and its serialization. -/
def EntitySpec.inspect (s : EntitySpec) (keys : List String) : Json :=
  .obj [("spec", s.report), ("components", Json.ofStrings [s.components.1, s.components.2]),
    ("get", .arr (keys.map fun k => Json.ofOption Value.tagged (s.get? k))),
    ("serialized", if s.data.hasFloat then .null else .str (Json.render s.toJson))]

def orderName : Ordering → String
  | .lt => "Less"
  | .eq => "Equal"
  | .gt => "Greater"

def EntityRef.inspect (r : EntityRef) (other? : Option EntityRef) : Json :=
  .obj [("display", .str r.text), ("serialized", .str (Json.quote r.text)),
    ("eq_other", Json.ofOption (fun o => .bool (r == o)) other?),
    ("cmp_other", Json.ofOption (fun o => .str (orderName (compare r o))) other?)]

/-- A reference seen as text, and compared as text with `other`. -/
def EntityRef.inspectText (r : EntityRef) (other : String) : Json :=
  .obj [("as_ref", .str r.text), ("as_str", .str r.text), ("into_string", .str r.text),
    ("eq_str_ref", .bool (r.text == other)), ("eq_str", .bool (r.text == other)),
    ("eq_reference", .bool (r == ⟨other⟩))]

/-- Two policies, their union, containment both ways and equality, and the empty policy. -/
def ManagementPolicy.inspect (a b : ManagementPolicy) : Json :=
  .obj [("a", a.report), ("b", b.report), ("or", (a ||| b).report), ("or_assign", (a.orAssign b).report),
    ("a_contains_b", .bool (a.contains b)), ("b_contains_a", .bool (b.contains a)),
    ("eq", .bool (a == b)), ("default", ManagementPolicy.ignored.report)]

/-- A context without state, what it means to do, and whether it is the default one. -/
def Context.inspect (c : Context Unit) : Json :=
  .obj [("context", c.report fun _ => .null), ("is_read", .bool c.access.isRead),
    ("is_write", .bool c.access.isWrite), ("is_default", .bool (c == {}))]

def Severity.inspect (a b : Severity) : Json :=
  .obj [("a", .str a.name), ("b", .str b.name), ("cmp", .str (orderName (compare a b)))]

def Normalized.report {α : Type} (encode : α → Json) (n : Normalized α) : Json :=
  .obj [("name", .str n.name), ("len", Json.ofNat n.length), ("singular", .bool n.singular),
    ("batch", .arr (n.batch.toList.map encode))]

def Extent.report (e : Extent) : Json :=
  .obj [("name", .str e.name), ("len", Json.ofNat e.len), ("broadcastable", .bool e.broadcastable)]

/-- The answer to normalising an argument; with `conversion` it also tells whether the
argument came out singular and that its batch holds the elements given. -/
def OneOrMany.inspect {α : Type} (encode : α → Json) (arg : OneOrMany α) (name : String)
    (conversion : Bool) : Json :=
  let converted : List (String × Json) := if conversion then [("input_singular", .bool arg.isSingular)] else []
  match arg.normalize name with
  | .ok n =>
    let check : List (String × Json) :=
      if conversion then [("check", .obj [("owned_len", Json.ofNat n.batch.toList.length), ("eq_vec", .bool true)])]
      else []
    match n.report encode with
    | .obj members => .obj (members ++ converted ++ check)
    | other => other
  | .error e => .obj ([("error", .str "Shape"), ("message", .str e.message)] ++ converted)

/-- One argument of a length check, its elements already written as documents. -/
structure Argument where
  value : OneOrMany Json
  name : String
  rule : Broadcast

/-- How the arguments of a length check are brought together: to one canonical
length, or as two that must agree exactly. -/
inductive Pairing where
  | canonical
  | exact

def CardinalityError.reportWith (e : CardinalityError) (extents : List Extent) : Json :=
  .obj [("error", .str "Cardinality"), ("message", .str e.message),
    ("extents", .arr (extents.map Extent.report))]

/-- Normalises arguments in order, up to the first that could not be read
(`none`, and then there is no answer) or that is empty (its shape error). -/
def Argument.normalizeAll : List (Option Argument) →
    Option (Except ShapeError (List (Normalized Json × Broadcast)))
  | [] => some (.ok [])
  | none :: _ => none
  | some a :: rest =>
    match a.value.normalize a.name with
    | .error e => some (.error e)
    | .ok n => (normalizeAll rest).map fun r => r.map ((n, a.rule) :: ·)

/-- The answer to a length check: the first shape error, the extents with the common length,
or the cardinality error; none for an unreadable argument or an unknown way of pairing. -/
def Pairing.check (mode : Option Pairing) (args : List (Option Argument)) : Option Json :=
  match Argument.normalizeAll args with
  | none => none
  | some (.error e) => some e.report
  | some (.ok normalized) =>
    let extents := normalized.map fun (n, rule) => Extent.of n rule
    let listed := ("extents", Json.arr (extents.map Extent.report))
    match mode with
    | none => none
    | some .canonical =>
      match canonicalLength extents with
      | .ok len =>
        let spread := normalized.map fun (n, _) =>
          match n.broadcast len with
          | .ok b => Json.obj [("ok", .arr b.toList)]
          | .error e => e.report
        some (.obj [listed, ("len", Json.ofNat len), ("broadcast", .arr spread)])
      | .error e => some (e.reportWith extents)
    | some .exact =>
      match extents with
      | [left, right] =>
        match requireEqual left right with
        | .ok len => some (.obj [listed, ("len", Json.ofNat len)])
        | .error e => some (e.reportWith extents)
      | _ => none

def Extent.canonical (extents : List Extent) : Json :=
  match canonicalLength extents with
  | .ok len => .obj [("len", Json.ofNat len), ("extents", .arr (extents.map Extent.report))]
  | .error e => e.report

def Extent.exact (left right : Extent) : Json :=
  match requireEqual left right with
  | .ok len => .obj [("len", Json.ofNat len)]
  | .error e => e.report

def OneOrMany.spread {α : Type} (encode : α → Json) (arg : OneOrMany α) (name : String) (len : Nat) : Json :=
  match arg.normalize name with
  | .error e => e.report
  | .ok n =>
    match n.broadcast len with
    | .ok b => .obj [("ok", .arr (b.toList.map encode))]
    | .error e => e.report

/-- What a host says about itself through a session, and what its logger received. -/
def Host.inspect (h : Host) (filter : Option EntitySpec) (logged : List (Severity × String)) : Json :=
  .obj [("identifier", .str h.identifier), ("display_name", .str h.displayName), ("info", h.info.tagged),
    ("document_reference", .str h.documentReference),
    ("known", EntityRef.reportAll (h.knownEntityReferences filter)),
    ("logged", .arr (logged.map fun e => Json.ofStrings [e.1.name, e.2])),
    ("session_eq_clone", .bool true)]

def HostSession.inspect (s : HostSession) (logs : List (Severity × String)) : Json :=
  .obj [("identifier", .str s.host.identifier), ("interface_identifier", .str s.host.interface.identifier),
    ("host_debug", .str s.host.describe), ("session_debug", .str s.describe),
    ("events", .arr (logs.map fun e => (e.1.event e.2).report))]

end AssetBroker
