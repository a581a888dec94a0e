import AssetBroker.Program

/-! The host-facing operations of a manager, as programs over its back-end.

An entity operation first brings each batch argument into canonical form, in the
order the arguments are listed, and then checks that parallel batches can be
paired; a failed check emits a warning naming the operation and ends the call
before the back-end hears of it. A call that passes is announced by a debug
event with its size and handed to the back-end, whose failure comes back wrapped
as an interface error. Operations that have no argument to check forward their
request with an announcement that has no size, and return the back-end's failure
as it is. Operations on a context's state do nothing when the context has none.

A manager is bound to one host session for its whole life, and every request
that takes a session carries that one.

`registerWithMetadata` registers, then attaches one metadata record to each
reference that the back-end returned; registration may hand out new references,
so the records go to the returned ones. -/

namespace AssetBroker

/-- Options for `Manager.entityVersions`. -/
structure VersionQuery where
  /-- Whether versions such as `latest` are listed beside the concrete ones. -/
  includeMetaVersions : Bool := false
  /-- An upper bound on the versions per entity; a negative one is no bound. -/
  maxNumVersions : Int64 := -1
  deriving DecidableEq

/-- A manager: the host session it serves. The back-end it is bound to is the one
its operations are run against (`Program.run`). -/
structure Manager where
  session : HostSession

namespace Manager

variable {σ ε α β : Type} (m : Manager)

/-- The result of an operation that checks its arguments. -/
abbrev Result (ε α : Type) := Except (ManagerError ε) α

/-- Ends the call without reaching the back-end: a warning naming the operation, then the error. -/
def reject (operation : String) (reason : Rejection) : Program σ ε (Result ε α) :=
  .emit (.rejected operation reason) (.done (.error (.ofRejection reason)))

/-- Goes on with a checked value, or rejects the call. -/
def validate (operation : String) (check : Except Rejection α)
    (next : α → Program σ ε (Result ε β)) : Program σ ε (Result ε β) :=
  match check with
  | .ok a => next a
  | .error reason => reject operation reason

/-- Hands a checked request of `count` items to the back-end. -/
def delegate (count : Nat) (q : Request σ ε β) : Program σ ε (Result ε β) :=
  .emit (.delegating q.name (some count)) (.call q fun r => .done (r.mapError .interface))

/-- Goes on with the back-end's answer, or stops with its error. -/
def andThen (p : Program σ ε (Result ε α)) (next : α → Program σ ε (Result ε β)) :
    Program σ ε (Result ε β) :=
  p.bind fun
    | .ok a => next a
    | .error e => .done (.error e)

/-- Hands a request to the back-end as it is. -/
def forward (q : Request σ ε β) : Program σ ε (Except ε β) :=
  .emit (.delegating q.name none) (.call q .done)

/-- The canonical form of an argument, as a check. -/
def normalized (arg : OneOrMany α) (name : String) : Except Rejection (Normalized α) :=
  (arg.normalize name).mapError .shape

/-- A length check, as a check. -/
def lengths (check : Except CardinalityError α) : Except Rejection α := check.mapError .cardinality

/-- An operation on one batch argument: normalise it, then hand the batch to the back-end. -/
def singleBatch (operation name : String) (arg : OneOrMany α) (request : Batch α → Request σ ε β) :
    Program σ ε (Result ε β) :=
  validate operation (normalized arg name) fun n => delegate n.length (request n.batch)

/-! ### Forwarding operations -/

def identifier : Program σ ε (Except ε String) := forward .identifier

def displayName : Program σ ε (Except ε String) := forward .displayName

def info : Program σ ε (Except ε InfoDictionary) := forward .info

/-- Lends the host's terminology to the back-end to substitute its own words. -/
def updateTerminology (terminology : Terminology) : Program σ ε (Except ε (Lent Terminology ε Unit)) :=
  forward (.updateTerminology terminology m.session)

def getSettings : Program σ ε (Except ε Settings) := forward (.getSettings m.session)

def setSettings (settings : Settings) : Program σ ε (Except ε Unit) :=
  forward (.setSettings settings m.session)

/-- Prepares the back-end for use with its current settings. -/
def prepare : Program σ ε (Except ε Unit) := forward (.prepare m.session)

def flushCaches : Program σ ε (Except ε Unit) := forward (.flushCaches m.session)

def thumbnailSpecification (spec : EntitySpec) (context : Context σ) (options : ThumbnailOptions) :
    Program σ ε (Except ε (Lent ThumbnailOptions ε (Option EntitySpec))) :=
  forward (.thumbnailSpecification spec context options m.session)

/-! ### Operations on one batch -/

def prefetch (refs : OneOrMany EntityRef) (context : Context σ) : Program σ ε (Result ε Unit) :=
  singleBatch "prefetch" "entity_refs" refs (.prefetch · context m.session)

def isEntityReference (tokens : OneOrMany String) (context : Context σ) :
    Program σ ε (Result ε (List Bool)) :=
  singleBatch "is_entity_reference" "tokens" tokens (.isEntityReference · context m.session)

def entityExists (refs : OneOrMany EntityRef) (context : Context σ) :
    Program σ ε (Result ε (List Bool)) :=
  singleBatch "entity_exists" "entity_refs" refs (.entityExists · context m.session)

def resolveEntityReference (refs : OneOrMany EntityRef) (context : Context σ) :
    Program σ ε (Result ε (List String)) :=
  singleBatch "resolve_entity_reference" "entity_refs" refs (.resolveEntityReference · context m.session)

def defaultEntityReference (specs : OneOrMany EntitySpec) (context : Context σ) :
    Program σ ε (Result ε (List (Option EntityRef))) :=
  singleBatch "default_entity_reference" "specifications" specs (.defaultEntityReference · context m.session)

def entityName (refs : OneOrMany EntityRef) (context : Context σ) :
    Program σ ε (Result ε (List String)) :=
  singleBatch "entity_name" "entity_refs" refs (.entityName · context m.session)

def entityDisplayName (refs : OneOrMany EntityRef) (context : Context σ) :
    Program σ ε (Result ε (List String)) :=
  singleBatch "entity_display_name" "entity_refs" refs (.entityDisplayName · context m.session)

def getEntityMetadata (refs : OneOrMany EntityRef) (context : Context σ) :
    Program σ ε (Result ε (List Metadata)) :=
  singleBatch "get_entity_metadata" "entity_refs" refs (.getEntityMetadata · context m.session)

/-- One metadata entry per reference; `defaultValue` stands in for a missing entry. -/
def getEntityMetadataEntry (refs : OneOrMany EntityRef) (key : String) (context : Context σ)
    (defaultValue : Option Value) : Program σ ε (Result ε (List Value)) :=
  singleBatch "get_entity_metadata_entry" "entity_refs" refs
    (.getEntityMetadataEntry · key context m.session defaultValue)

def setEntityMetadataEntry (refs : OneOrMany EntityRef) (key : String) (value : Value)
    (context : Context σ) : Program σ ε (Result ε Unit) :=
  singleBatch "set_entity_metadata_entry" "entity_refs" refs
    (.setEntityMetadataEntry · key value context m.session)

def entityVersionName (refs : OneOrMany EntityRef) (context : Context σ) :
    Program σ ε (Result ε (List String)) :=
  singleBatch "entity_version_name" "entity_refs" refs (.entityVersionName · context m.session)

def entityVersions (refs : OneOrMany EntityRef) (context : Context σ) (query : VersionQuery) :
    Program σ ε (Result ε (List VersionMap)) :=
  singleBatch "entity_versions" "entity_refs" refs
    (.entityVersions · context m.session query.includeMetaVersions query.maxNumVersions)

/-- The reference each entity should be pinned to, or the version `overrideVersionName` names. -/
def finalizedEntityVersion (refs : OneOrMany EntityRef) (context : Context σ)
    (overrideVersionName : Option String) : Program σ ε (Result ε (List EntityRef)) :=
  singleBatch "finalized_entity_version" "entity_refs" refs
    (.finalizedEntityVersion · context m.session overrideVersionName)

def managementPolicy (specs : OneOrMany EntitySpec) (context : Context σ) (ref : Option EntityRef) :
    Program σ ε (Result ε (List ManagementPolicy)) :=
  singleBatch "management_policy" "specifications" specs (.managementPolicy · context m.session ref)

def setRelatedReferences (ref : EntityRef) (relationship : EntitySpec) (related : OneOrMany EntityRef)
    (context : Context σ) (append : Bool) : Program σ ε (Result ε Unit) :=
  singleBatch "set_related_references" "related_refs" related
    (.setRelatedReferences ref relationship · context m.session append)

/-! ### Operations on paired batches -/

/-- Related references of one reference under many relationships, of many references
under one relationship, or pairwise. Both batches go to the back-end as they are. -/
def getRelatedReferences (refs : OneOrMany EntityRef) (relationships : OneOrMany EntitySpec)
    (context : Context σ) (resultSpec : Option EntitySpec) :
    Program σ ε (Result ε (List (List EntityRef))) :=
  let op := "get_related_references"
  validate op (normalized refs "entity_refs") fun r =>
  validate op (normalized relationships "relationship_specs") fun s =>
  validate op (lengths (canonicalLength [Extent.of r .ifSingleElement, Extent.of s .ifSingleElement]))
    fun len => delegate len (.getRelatedReferences r.batch s.batch context m.session resultSpec)

/-- Stores one metadata record per reference; the counts must agree exactly. -/
def setEntityMetadata (refs : OneOrMany EntityRef) (data : OneOrMany Metadata) (context : Context σ)
    (merge : Bool) : Program σ ε (Result ε Unit) :=
  let op := "set_entity_metadata"
  validate op (normalized refs "entity_refs") fun r =>
  validate op (normalized data "data") fun d =>
  validate op (lengths (requireEqual (Extent.of r .never) (Extent.of d .never))) fun len =>
    delegate len (.setEntityMetadata r.batch d.batch context m.session merge)

/-- Announces a registration: one specification per target, exactly. -/
def preflight (targets : OneOrMany EntityRef) (specs : OneOrMany EntitySpec) (context : Context σ) :
    Program σ ε (Result ε (List EntityRef)) :=
  let op := "preflight"
  validate op (normalized targets "target_entity_refs") fun t =>
  validate op (normalized specs "entity_specs") fun s =>
  validate op (lengths (requireEqual (Extent.of t .never) (Extent.of s .never))) fun len =>
    delegate len (.preflight t.batch s.batch context m.session)

/-- The records to attach after a registration of `len` entities: none for an empty
list, and otherwise one per entity. -/
def metadataRecords (len : Nat) (metadata : List Metadata) : Except Rejection (Option (Batch Metadata)) :=
  match Batch.ofList? metadata with
  | none => .ok none
  | some records =>
    (lengths (requireEqual (Extent.new "target_entity_refs" len false)
      (Extent.new "metadata" records.length false))).map fun _ => some records

/-- The returned references as a batch paired with the records, or the mismatch. -/
def registeredBatch (registered : List EntityRef) (records : Batch Metadata) :
    Except Rejection (Batch EntityRef) :=
  match Batch.ofList? registered with
  | none => .error (.cardinality (.exactMismatch "registered_refs" 0 "metadata" records.length))
  | some refs =>
    (lengths (requireEqual (Extent.new "registered_refs" registered.length false)
      (Extent.new "metadata" records.length false))).map fun _ => refs

/-- Attaches the records to the references a registration returned, and answers with those references. -/
def attachMetadata (registered : List EntityRef) (records : Batch Metadata) (context : Context σ) :
    Program σ ε (Result ε (List EntityRef)) :=
  validate "register" (registeredBatch registered records) fun refs =>
  andThen (delegate registered.length (.setEntityMetadata refs records context m.session true)) fun _ =>
    .done (.ok registered)

/-- Publishes primary strings to target references, then attaches `metadata`, one
record per registration, to the references the back-end returned. An argument given
as a single value is repeated to the length of the others; two sequences must agree. -/
def registerWithMetadata (strings : OneOrMany String) (targets : OneOrMany EntityRef)
    (specs : OneOrMany EntitySpec) (context : Context σ) (metadata : List Metadata) :
    Program σ ε (Result ε (List EntityRef)) :=
  let op := "register"
  validate op (normalized strings "primary_strings") fun p =>
  validate op (normalized targets "target_entity_refs") fun t =>
  validate op (normalized specs "entity_specs") fun s =>
  validate op (lengths (canonicalLength
      [Extent.of p .ifSingular, Extent.of t .ifSingular, Extent.of s .ifSingular])) fun len =>
  validate op (metadataRecords len metadata) fun records =>
  validate op (lengths (p.broadcast len)) fun p' =>
  validate op (lengths (t.broadcast len)) fun t' =>
  validate op (lengths (s.broadcast len)) fun s' =>
  andThen (delegate len (.register p' t' s' context m.session)) fun registered =>
    match records with
    | none => .done (.ok registered)
    | some records => m.attachMetadata registered records context

/-- `registerWithMetadata` without metadata. -/
def register (strings : OneOrMany String) (targets : OneOrMany EntityRef) (specs : OneOrMany EntitySpec)
    (context : Context σ) : Program σ ε (Result ε (List EntityRef)) :=
  m.registerWithMetadata strings targets specs context []

/-! ### Contexts -/

/-- A context with fresh back-end state; a child keeps its parent's access, retention and locale. -/
def createContext (parent : Option (Context σ)) : Program σ ε (Except ε (Context σ)) :=
  (forward (.createState m.session (parent.bind (·.state)))).bind fun r =>
    .done <| r.map fun state =>
      match parent with
      | some p => { p with state }
      | none => { state }

def startTransaction (context : Context σ) : Program σ ε (Except ε Unit) :=
  match context.state with
  | some s => forward (.startTransaction s m.session)
  | none => .done (.ok ())

def finishTransaction (context : Context σ) : Program σ ε (Except ε Unit) :=
  match context.state with
  | some s => forward (.finishTransaction s m.session)
  | none => .done (.ok ())

def cancelTransaction (context : Context σ) : Program σ ε (Except ε Unit) :=
  match context.state with
  | some s => forward (.cancelTransaction s m.session)
  | none => .done (.ok ())

/-- The back-end's token for the context's state, or nothing for a context without state. -/
def freezeContext (context : Context σ) : Program σ ε (Except ε (Option String)) :=
  match context.state with
  | some s => (forward (.freezeState s m.session)).bind fun r => .done (r.map some)
  | none => .done (.ok none)

/-- A default context carrying the state that a token restores. -/
def thawContext (token : String) : Program σ ε (Except ε (Context σ)) :=
  (forward (.thawState token m.session)).bind fun r => .done (r.map fun s => { state := some s })

/-- How a manager shows itself in diagnostics, given how its back-end shows itself. -/
def describe (backend : String) : String :=
  "Manager \x7b interface: " ++ backend ++ ", host_session: " ++ m.session.describe ++ " \x7d"

end Manager

end AssetBroker
