import AssetBroker.Report
import AssetBroker.Json.Decode
import AssetBroker.Text

/-! A scripted back-end: it answers every request by fixed rules and records
each request it receives, for trying a manager out. The full back-end implements
every operation; the minimal one only those a back-end must provide, and for the
others gives the answers a back-end gets by default (an empty info dictionary,
no state, no thumbnail, nothing done), without recording them.

A script for one call can make an operation fail with a message (the request is
still recorded first, and the failure changes nothing) or answer with a given
document instead of the rule, where the answer is one a script can fix
(`fixable`). States are numbered: `create_state` numbers them
1, 2, … in the order it makes them, and a token `token-n` stands for state `n`.
Each state also has a serial of its own, so two states are the same only when
they were made by the same request. -/

namespace AssetBroker.Scripted

/-- The back-end's state of a context. -/
structure Handle where
  /-- Tells apart states made separately, even when their numbers agree. -/
  serial : Nat
  id : UInt64
  parent : Option UInt64

/-- States are the same when they come from the same making. -/
instance : BEq Handle := ⟨fun a b => a.serial == b.serial⟩

def Handle.report (h : Handle) : Json :=
  .obj [("id", .num (.nat h.id)), ("parent", Json.ofOption (fun p => .num (.nat p)) h.parent)]

inductive Coverage where
  | full
  | minimal
  deriving DecidableEq

def Coverage.describe : Coverage → String
  | .full => "Backend"
  | .minimal => "Minimal"

/-- What one call asks of the back-end beyond its rules: failures and fixed answers, by operation name. -/
structure Overrides where
  failures : List (String × String) := []
  answers : List (String × Json) := []

structure Store where
  settings : Settings := {}
  made : Nat := 0
  serials : Nat := 0
  log : List Json := []

def Store.fresh (s : Store) (id : UInt64) (parent : Option UInt64) : Handle × Store :=
  (⟨s.serials, id, parent⟩, { s with serials := s.serials + 1 })

/-! ### Recording -/

def refsJson (b : Batch EntityRef) : Json := EntityRef.reportAll b.toList

def specsJson (b : Batch EntitySpec) : Json := .arr (b.toList.map EntitySpec.report)

def contextJson (c : Context Handle) : Json := c.report Handle.report

/-- The arguments of a request as the back-end records them. -/
def arguments {β : Type} : Request Handle String β → List (String × Json)
  | .identifier | .displayName | .info | .getSettings _ | .prepare _ | .flushCaches _ => []
  | .updateTerminology t _ => [("terminology", t.texts)]
  | .setSettings s _ => [("settings", s.tagged)]
  | .prefetch r c _ | .entityExists r c _ | .resolveEntityReference r c _ | .entityName r c _
  | .entityDisplayName r c _ | .getEntityMetadata r c _ | .entityVersionName r c _ =>
    [("entity_refs", refsJson r), ("context", contextJson c)]
  | .isEntityReference t c _ => [("tokens", Json.ofStrings t.toList), ("context", contextJson c)]
  | .defaultEntityReference s c _ => [("specifications", specsJson s), ("context", contextJson c)]
  | .setEntityMetadata r d c _ merge =>
    [("entity_refs", refsJson r), ("data", .arr (d.toList.map Dict.tagged)), ("context", contextJson c),
      ("merge", .bool merge)]
  | .getEntityMetadataEntry r key c _ default? =>
    [("entity_refs", refsJson r), ("key", .str key), ("context", contextJson c),
      ("default_value", Json.ofOption Value.tagged default?)]
  | .setEntityMetadataEntry r key v c _ =>
    [("entity_refs", refsJson r), ("key", .str key), ("value", v.tagged), ("context", contextJson c)]
  | .entityVersions r c _ withMeta most =>
    [("entity_refs", refsJson r), ("context", contextJson c), ("include_meta_versions", .bool withMeta),
      ("max_num_versions", Json.ofInt64 most)]
  | .finalizedEntityVersion r c _ name? =>
    [("entity_refs", refsJson r), ("context", contextJson c),
      ("override_version_name", Json.ofOption .str name?)]
  | .getRelatedReferences r s c _ result? =>
    [("entity_refs", refsJson r), ("relationship_specs", specsJson s), ("context", contextJson c),
      ("result_spec", Json.ofOption EntitySpec.report result?)]
  | .setRelatedReferences r s related c _ append =>
    [("entity_ref", r.report), ("relationship_spec", s.report), ("related_refs", refsJson related),
      ("context", contextJson c), ("append", .bool append)]
  | .thumbnailSpecification s c options _ =>
    [("specification", s.report), ("context", contextJson c), ("options", options.tagged)]
  | .managementPolicy s c _ r? =>
    [("specifications", specsJson s), ("context", contextJson c),
      ("entity_ref", Json.ofOption EntityRef.report r?)]
  | .preflight t s c _ => [("target_entity_refs", refsJson t), ("entity_specs", specsJson s), ("context", contextJson c)]
  | .register p t s c _ =>
    [("primary_strings", Json.ofStrings p.toList), ("target_entity_refs", refsJson t),
      ("entity_specs", specsJson s), ("context", contextJson c)]
  | .createState _ parent? => [("parent_state", Json.ofOption Handle.report parent?)]
  | .startTransaction h _ | .finishTransaction h _ | .cancelTransaction h _ | .freezeState h _ =>
    [("state", h.report)]
  | .thawState token _ => [("token", .str token)]

def record {β : Type} (q : Request Handle String β) : Json :=
  .obj [("op", .str q.name), ("args", .obj (arguments q))]

/-! ### The rules -/

/-- Reads a `u64` as a decimal numeral: an optional `+`, then at least one digit. -/
def readUInt64? (s : String) : Option UInt64 :=
  let digits := match s.toList with
    | '+' :: rest => rest
    | cs => cs
  if digits.isEmpty || !digits.all Json.isDigit then none
  else
    let n := digits.foldl (fun acc c => acc * 10 + Json.digitValue c) 0
    if n < Nat.pow 2 64 then some n.toUInt64 else none

def tokenNumber? (token : String) : Option UInt64 :=
  match token.toList with
  | 't' :: 'o' :: 'k' :: 'e' :: 'n' :: '-' :: rest => readUInt64? (String.ofList rest)
  | _ => none

def ref (s : String) : EntityRef := ⟨s⟩

/-- The `i`-th element, or the only one of a list of one. -/
def pick {α : Type} [Inhabited α] (xs : List α) (i : Nat) : α :=
  if xs.length == 1 then xs.headD default else xs.getD i default

/-- The policy the rules give a specification: its `policy` entry if that is an
integer (its low 32 bits), else managed, with the path flag when a reference is given. -/
def policyOf (spec : EntitySpec) (ref? : Option EntityRef) : ManagementPolicy :=
  match spec.get? "policy" with
  | some (.int i) => ⟨(i.toInt % 4294967296).toNat.toUInt32⟩
  | _ => if ref?.isSome then .managed ||| .willManagePath else .managed

def versionsOf (r : EntityRef) (withMeta : Bool) : VersionMap :=
  let v1 : VersionMap := ({} : VersionMap).insert "v1" (ref (r.text ++ "#v1"))
  if withMeta then v1.insert "latest" (ref (r.text ++ "#latest")) else v1

def rule {β : Type} (q : Request Handle String β) (s : Store) : Except String β × Store :=
  match q with
  | .identifier => (.ok "org.oracle.backend", s)
  | .displayName => (.ok "Oracle Backend", s)
  | .info => (.ok (Dict.ofList [("name", .string "oracle"), ("version", .int 1)]), s)
  | .updateTerminology t _ =>
    (.ok ⟨(t.map fun w => Text.replaceAll w "asset" "entity").insert "manager" "oracle", .ok ()⟩, s)
  | .getSettings _ => (.ok s.settings, s)
  | .setSettings settings _ => (.ok (), { s with settings })
  | .prepare _ | .flushCaches _ | .prefetch .. | .setEntityMetadata .. | .setEntityMetadataEntry ..
  | .setRelatedReferences .. | .startTransaction .. | .finishTransaction .. | .cancelTransaction .. =>
    (.ok (), s)
  | .isEntityReference t _ _ => (.ok (t.toList.map fun w => w.startsWith "asset://"), s)
  | .entityExists r _ _ => (.ok (r.toList.map fun x => !Text.occursIn "missing" x.text), s)
  | .resolveEntityReference r _ _ => (.ok (r.toList.map fun x => "/resolved/" ++ x.text), s)
  | .defaultEntityReference specs _ _ =>
    (.ok (specs.toList.map fun x => if x.schema.isEmpty then none else some (ref (x.schema ++ "#default"))), s)
  | .entityName r _ _ => (.ok (r.toList.map fun x => "name:" ++ x.text), s)
  | .entityDisplayName r _ _ => (.ok (r.toList.map fun x => "Display " ++ x.text), s)
  | .getEntityMetadata r _ _ =>
    (.ok ((List.range r.length).zip r.toList |>.map fun (i, x) =>
      Dict.ofList [("index", .int (Int64.ofNat i)), ("ref", .string x.text)]), s)
  | .getEntityMetadataEntry r key _ _ default? =>
    (.ok (r.toList.map fun x => default?.getD (.string (key ++ "@" ++ x.text))), s)
  | .entityVersionName r _ _ => (.ok (r.toList.map fun _ => "v1"), s)
  | .entityVersions r _ _ withMeta _ => (.ok (r.toList.map fun x => versionsOf x withMeta), s)
  | .finalizedEntityVersion r _ _ name? =>
    (.ok (r.toList.map fun x => ref (x.text ++ "@" ++ name?.getD "final")), s)
  | .getRelatedReferences r rel _ _ _ =>
    let n := max r.length rel.length
    (.ok ((List.range n).map fun i => [ref ((pick r.toList i).text ++ "/" ++ (pick rel.toList i).schema)]), s)
  | .thumbnailSpecification spec _ options _ =>
    (.ok ⟨options.insert "managed" (.bool true),
      .ok (some { schema := "core.thumbnail", data := Dict.ofList [("source", .string spec.schema)] })⟩, s)
  | .managementPolicy specs _ _ ref? => (.ok (specs.toList.map fun x => policyOf x ref?), s)
  | .preflight t _ _ _ => (.ok (t.toList.map fun x => ref (x.text ++ "?preflight")), s)
  | .register _ t _ _ _ => (.ok (t.toList.map fun x => ref (x.text ++ "#registered")), s)
  | .createState _ parent? =>
    let s := { s with made := s.made + 1 }
    let (h, s) := s.fresh s.made.toUInt64 (parent?.map (·.id))
    (.ok (some h), s)
  | .freezeState h _ => (.ok ("token-" ++ toString h.id.toNat), s)
  | .thawState token _ =>
    match tokenNumber? token with
    | some n => let (h, s) := s.fresh n none; (.ok h, s)
    | none => (.error ("cannot thaw token: " ++ token), s)

/-! ### Fixed answers -/

def listOf? {α : Type} (read : Json → Option α) : Json → Option (List α)
  | .arr items => items.mapM read
  | _ => none

def text? : Json → Option String
  | .str s => some s
  | _ => none

def refOf? (j : Json) : Option EntityRef := (text? j).map ref

def bool? : Json → Option Bool
  | .bool b => some b
  | _ => none

def valuesOf? (j : Json) : Option (Dict Value) := (Dict.ofJson Value.ofJson j).toOption

def uint32? : Json → Option UInt32
  | .num (.nat n) => if n.toNat < Nat.pow 2 32 then some n.toNat.toUInt32 else none
  | _ => none

/-- Whether a script can fix the answer to a request. Operations that answer
nothing, the terminology update (which adapts the host's own map) and thawing a
token always follow the rules. -/
def fixable {β : Type} : Request Handle String β → Bool
  | .updateTerminology .. | .setSettings .. | .prepare _ | .flushCaches _ | .prefetch ..
  | .setEntityMetadata .. | .setEntityMetadataEntry .. | .setRelatedReferences ..
  | .startTransaction .. | .finishTransaction .. | .cancelTransaction .. | .thawState .. => false
  | _ => true

/-- A fixed answer read as the answer type of a request; `none` if it is not one. -/
def fixedAnswer? {β : Type} (q : Request Handle String β) (j : Json) (s : Store) : Option (β × Store) :=
  match q with
  | .identifier | .displayName | .freezeState .. => (text? j).map (·, s)
  | .info | .getSettings _ => (valuesOf? j).map (·, s)
  | .updateTerminology .. | .setSettings .. | .prepare _ | .flushCaches _ | .prefetch .. | .setEntityMetadata ..
  | .setEntityMetadataEntry .. | .setRelatedReferences .. | .startTransaction .. | .finishTransaction ..
  | .cancelTransaction .. | .thawState .. => none
  | .isEntityReference .. | .entityExists .. => (listOf? bool? j).map (·, s)
  | .resolveEntityReference .. | .entityName .. | .entityDisplayName .. | .entityVersionName .. =>
    (listOf? text? j).map (·, s)
  | .defaultEntityReference .. =>
    (listOf? (fun x => match x with | .null => some none | other => (refOf? other).map some) j).map (·, s)
  | .getEntityMetadata .. => (listOf? valuesOf? j).map (·, s)
  | .getEntityMetadataEntry .. => (listOf? (fun x => (Value.ofJson x).toOption) j).map (·, s)
  | .entityVersions .. =>
    (listOf? (fun x => (Dict.ofJson (fun y => (refOf? y).elim (.error .noVariant) .ok) x).toOption) j).map (·, s)
  | .finalizedEntityVersion .. | .preflight .. | .register .. => (listOf? refOf? j).map (·, s)
  | .getRelatedReferences .. => (listOf? (listOf? refOf?) j).map (·, s)
  | .thumbnailSpecification _ _ options _ =>
    let adjusted := options.insert "managed" (.bool true)
    match j with
    | .null => some (⟨adjusted, .ok none⟩, s)
    | other => ((EntitySpec.ofJson other).toOption).map fun spec => (⟨adjusted, .ok (some spec)⟩, s)
  | .managementPolicy .. => (listOf? (fun x => (uint32? x).map (⟨·⟩)) j).map (·, s)
  | .createState .. => some (none, s)

/-! ### Answering -/

def byDefault {β : Type} : Request Handle String β → Bool
  | .info | .updateTerminology .. | .prefetch .. | .flushCaches _ | .thumbnailSpecification ..
  | .createState .. | .startTransaction .. | .finishTransaction .. | .cancelTransaction .. => true
  | _ => false

/-- The default answer of an operation that a back-end need not implement. -/
def defaultAnswer {β : Type} (q : Request Handle String β) : Option β :=
  match q with
  | .info => some {}
  | .updateTerminology t _ => some ⟨t, .ok ()⟩
  | .prefetch .. | .flushCaches _ | .startTransaction .. | .finishTransaction .. | .cancelTransaction .. => some ()
  | .thumbnailSpecification _ _ options _ => some ⟨options, .ok none⟩
  | .createState .. => some none
  | _ => none

/-- How the back-end answers a request, given one call's overrides. -/
def answer (coverage : Coverage) (overrides : Overrides) {β : Type} (q : Request Handle String β) (s : Store) :
    Except String β × Store :=
  match coverage, byDefault q, defaultAnswer q with
  | .minimal, true, some b => (.ok b, s)
  | _, _, _ =>
    let s := { s with log := record q :: s.log }
    match overrides.failures.find? (·.1 == q.name) with
    | some (_, message) => (.error message, s)
    | none =>
      match overrides.answers.find? (fun e => e.1 == q.name && fixable q) with
      | some (_, j) =>
        match fixedAnswer? q j s with
        | some (b, s) => (.ok b, s)
        | none => (.error ("bad override: " ++ q.name), s)
      | none => rule q s

end AssetBroker.Scripted
