import AssetBroker.Scripted

/-! Running a script of manager calls against the scripted back-end, the way a
host would drive a manager. A call names an operation with its arguments, and
every step names the context its call works in: written out, or the name of one
saved by an earlier call. The context is looked up before the call runs, also for
a call that does not use it, and a step that names no saved context of that name
is malformed. A state written out in a context is a new state, the same as no
other. Each call also carries its own failures and fixed answers for the back-end.

The answer to a call lists the requests the back-end received during it, and
optionally the manager's trace events, then the result: a value, an error of the
manager, the back-end's own error for operations that forward it unwrapped, or a
mark that the call was malformed. Terminology and thumbnail options, which the
back-end may change, are reported as they stand after the call. -/

namespace AssetBroker.Script

open Scripted

/-- A context argument: written out, or saved by an earlier call under a name. -/
inductive ContextArg where
  | saved (name : String)
  | given (access : Access) (retention : Retention) (locale : Option EntitySpec)
      (state : Option (UInt64 × Option UInt64))

def ContextArg.default : ContextArg := .given .read .transient none none

/-- One manager call with its arguments. The context a call works in is the
step's own (`Step.context`). -/
inductive Call where
  | identifier
  | displayName
  | info
  | updateTerminology (terminology : Terminology)
  | getSettings
  | setSettings (settings : Settings)
  | prepare
  | flushCaches
  | thumbnailSpecification (spec : EntitySpec) (options : ThumbnailOptions)
  | prefetch (refs : OneOrMany EntityRef)
  | isEntityReference (tokens : OneOrMany String)
  | entityExists (refs : OneOrMany EntityRef)
  | resolveEntityReference (refs : OneOrMany EntityRef)
  | defaultEntityReference (specs : OneOrMany EntitySpec)
  | entityName (refs : OneOrMany EntityRef)
  | entityDisplayName (refs : OneOrMany EntityRef)
  | getEntityMetadata (refs : OneOrMany EntityRef)
  | getEntityMetadataEntry (refs : OneOrMany EntityRef) (key : String) (defaultValue : Option Value)
  | setEntityMetadataEntry (refs : OneOrMany EntityRef) (key : String) (value : Value)
  | entityVersionName (refs : OneOrMany EntityRef)
  | entityVersions (refs : OneOrMany EntityRef) (query : VersionQuery)
  | finalizedEntityVersion (refs : OneOrMany EntityRef) (overrideVersionName : Option String)
  | managementPolicy (specs : OneOrMany EntitySpec) (ref : Option EntityRef)
  | setRelatedReferences (ref : EntityRef) (relationship : EntitySpec) (related : OneOrMany EntityRef)
      (append : Bool)
  | getRelatedReferences (refs : OneOrMany EntityRef) (relationships : OneOrMany EntitySpec)
      (resultSpec : Option EntitySpec)
  | setEntityMetadata (refs : OneOrMany EntityRef) (data : OneOrMany Metadata) (merge : Bool)
  | preflight (targets : OneOrMany EntityRef) (specs : OneOrMany EntitySpec)
  | register (strings : OneOrMany String) (targets : OneOrMany EntityRef) (specs : OneOrMany EntitySpec)
      (metadata : List Metadata)
  | createContext (parent : Option ContextArg) (saveAs : Option String)
  | startTransaction
  | finishTransaction
  | cancelTransaction
  | freezeContext
  | thawContext (token : String) (saveAs : Option String)
  | showContext
  | describe
  | contextEq (other : ContextArg)

/-- A call with the context it works in and the back-end's overrides for it;
`none` stands for a malformed call. Every step's context is looked up before its
call runs, also for a call that does not use it. -/
structure Step where
  call : Option Call
  context : ContextArg := .default
  overrides : Overrides := {}

def host : HostInterface := { identifier := "org.oracle.host", displayName := "Oracle Host" }

/-- The manager a script drives, bound to a session of `host`. -/
def manager : Manager := ⟨⟨⟨host⟩⟩⟩

structure Memory where
  store : Store := {}
  saved : List (String × Context Handle) := []

inductive Outcome where
  | ok (value : Json)
  | failed (error : ManagerError String)
  | backendFailed (message : String)
  | malformed

structure Answer where
  requests : List Json := []
  events : List Event := []
  outcome : Outcome
  extra : List (String × Json) := []

/-- The answer as a document; `detail` adds the trace and the error's classification. -/
def Answer.report (detail : Bool) (a : Answer) : Json :=
  let trace := if detail then [("events", .arr (a.events.map fun e => e.trace.report))] else []
  let result : List (String × Json) :=
    match a.outcome with
    | .ok v => [("ok", v)]
    | .failed e =>
      [("error", .str e.kind), ("message", .str (e.message id))] ++
        (if detail then
          [("is_cardinality", .bool e.isCardinality), ("interface_error", Json.ofOption .str e.interface?),
            ("into_interface_error", Json.ofOption .str e.interface?)]
        else [])
    | .backendFailed m => [("error", .str "BackendError"), ("message", .str m)]
    | .malformed => [("error", .str "BadInput")]
  .obj ([("backend", .arr a.requests)] ++ trace ++ result ++ a.extra)

/-- The context an argument stands for; a written-out state is a new one. -/
def Memory.resolve (m : Memory) : ContextArg → Option (Context Handle × Memory)
  | .saved name => (m.saved.find? (·.1 == name)).map fun e => (e.2, m)
  | .given access retention locale none => some ({ access, retention, locale }, m)
  | .given access retention locale (some (id, parent)) =>
    let (h, store) := m.store.fresh id parent
    some ({ access, retention, locale, state := some h }, { m with store })

def Memory.save (m : Memory) (name? : Option String) (c : Context Handle) : Memory :=
  match name? with
  | some name => { m with saved := (name, c) :: m.saved }
  | none => m

def contextReport (c : Context Handle) : Json := c.report Handle.report

section Running

variable (coverage : Coverage) (overrides : Overrides)

/-- Runs a manager program against the back-end, collecting what the back-end received. -/
def execute {α : Type} (m : Memory) (p : Program Handle String α) : α × List Json × List Event × Memory :=
  let (a, store, events) := p.run (answer coverage overrides) { m.store with log := [] }
  (a, store.log.reverse, events, { m with store })

def checked {α : Type} (m : Memory) (p : Program Handle String (Manager.Result String α))
    (encode : α → Json) : Answer × Memory :=
  let (r, requests, events, m) := execute coverage overrides m p
  match r with
  | .ok a => ({ requests, events, outcome := .ok (encode a) }, m)
  | .error e => ({ requests, events, outcome := .failed e }, m)

/-- The answer to an operation that forwards the back-end's errors unwrapped. -/
def forwarded {α : Type} (m : Memory) (p : Program Handle String (Except String α))
    (encode : α → Json) : Answer × Memory :=
  let (r, requests, events, m) := execute coverage overrides m p
  match r with
  | .ok a => ({ requests, events, outcome := .ok (encode a) }, m)
  | .error e => ({ requests, events, outcome := .backendFailed e }, m)

/-- The answer to an operation that lends the back-end a map of the host's, reported as
`name` as the back-end left it, also when the call failed. -/
def lending {μ α : Type} (m : Memory) (lent : μ) (p : Program Handle String (Except String (Lent μ String α)))
    (encode : α → Json) (name : String) (report : μ → Json) : Answer × Memory :=
  let (r, requests, events, m) := execute coverage overrides m p
  let after := Lent.settle lent r
  let extra := [(name, report after.map)]
  match after.outcome with
  | .ok a => ({ requests, events, outcome := .ok (encode a), extra }, m)
  | .error e => ({ requests, events, outcome := .backendFailed e, extra }, m)

/-- Runs a forwarding operation that yields a context, saving it on success. -/
def contextual (m : Memory) (p : Program Handle String (Except String (Context Handle)))
    (saveAs : Option String) : Answer × Memory :=
  let (r, requests, events, m) := execute coverage overrides m p
  match r with
  | .ok c => ({ requests, events, outcome := .ok (contextReport c) }, m.save saveAs c)
  | .error e => ({ requests, events, outcome := .backendFailed e }, m)

def malformed (m : Memory) : Answer × Memory := ({ outcome := .malformed }, m)

def withContext (m : Memory) (arg : ContextArg) (next : Context Handle → Memory → Answer × Memory) :
    Answer × Memory :=
  match m.resolve arg with
  | some (c, m) => next c m
  | none => malformed m

def refs (xs : List EntityRef) : Json := EntityRef.reportAll xs

def unit (_ : Unit) : Json := .null

def perform (m : Memory) (c : Context Handle) : Call → Answer × Memory
  | .identifier => forwarded coverage overrides m Manager.identifier .str
  | .displayName => forwarded coverage overrides m Manager.displayName .str
  | .info => forwarded coverage overrides m Manager.info Dict.tagged
  | .updateTerminology t => lending coverage overrides m t (manager.updateTerminology t) unit "terminology" Dict.texts
  | .getSettings => forwarded coverage overrides m manager.getSettings Dict.tagged
  | .setSettings s => forwarded coverage overrides m (manager.setSettings s) unit
  | .prepare => forwarded coverage overrides m manager.prepare unit
  | .flushCaches => forwarded coverage overrides m manager.flushCaches unit
  | .thumbnailSpecification spec options =>
    lending coverage overrides m options (manager.thumbnailSpecification spec c options)
      (Json.ofOption EntitySpec.report) "options" Dict.tagged
  | .prefetch r => checked coverage overrides m (manager.prefetch r c) unit
  | .isEntityReference t =>
    checked coverage overrides m (manager.isEntityReference t c) fun bs => .arr (bs.map .bool)
  | .entityExists r =>
    checked coverage overrides m (manager.entityExists r c) fun bs => .arr (bs.map .bool)
  | .resolveEntityReference r =>
    checked coverage overrides m (manager.resolveEntityReference r c) Json.ofStrings
  | .defaultEntityReference s =>
    checked coverage overrides m (manager.defaultEntityReference s c) fun xs =>
      .arr (xs.map (Json.ofOption EntityRef.report))
  | .entityName r => checked coverage overrides m (manager.entityName r c) Json.ofStrings
  | .entityDisplayName r => checked coverage overrides m (manager.entityDisplayName r c) Json.ofStrings
  | .getEntityMetadata r =>
    checked coverage overrides m (manager.getEntityMetadata r c) fun xs => .arr (xs.map Dict.tagged)
  | .getEntityMetadataEntry r key default? =>
    checked coverage overrides m (manager.getEntityMetadataEntry r key c default?) fun xs =>
      .arr (xs.map Value.tagged)
  | .setEntityMetadataEntry r key v => checked coverage overrides m (manager.setEntityMetadataEntry r key v c) unit
  | .entityVersionName r => checked coverage overrides m (manager.entityVersionName r c) Json.ofStrings
  | .entityVersions r q =>
    checked coverage overrides m (manager.entityVersions r c q) fun xs =>
      .arr (xs.map fun v => v.toJson EntityRef.report)
  | .finalizedEntityVersion r name? => checked coverage overrides m (manager.finalizedEntityVersion r c name?) refs
  | .managementPolicy s ref? =>
    checked coverage overrides m (manager.managementPolicy s c ref?) fun ps =>
      .arr (ps.map ManagementPolicy.report)
  | .setRelatedReferences r rel related append =>
    checked coverage overrides m (manager.setRelatedReferences r rel related c append) unit
  | .getRelatedReferences r rels result? =>
    checked coverage overrides m (manager.getRelatedReferences r rels c result?) fun xss =>
      .arr (xss.map refs)
  | .setEntityMetadata r d merge => checked coverage overrides m (manager.setEntityMetadata r d c merge) unit
  | .preflight t s => checked coverage overrides m (manager.preflight t s c) refs
  | .register p t s metadata => checked coverage overrides m (manager.registerWithMetadata p t s c metadata) refs
  | .createContext none saveAs => contextual coverage overrides m (manager.createContext none) saveAs
  | .createContext (some parent) saveAs => withContext m parent fun p m =>
    contextual coverage overrides m (manager.createContext (some p)) saveAs
  | .startTransaction => forwarded coverage overrides m (manager.startTransaction c) unit
  | .finishTransaction => forwarded coverage overrides m (manager.finishTransaction c) unit
  | .cancelTransaction => forwarded coverage overrides m (manager.cancelTransaction c) unit
  | .freezeContext => forwarded coverage overrides m (manager.freezeContext c) (Json.ofOption .str)
  | .thawContext token saveAs => contextual coverage overrides m (manager.thawContext token) saveAs
  | .showContext => ({ outcome := .ok (contextReport c) }, m)
  | .describe =>
    ({ outcome := .ok (.obj [("debug", .str (manager.describe coverage.describe)),
        ("host_identifier", .str host.identifier), ("host_display_name", .str host.displayName)]) }, m)
  | .contextEq b => withContext m b fun d m => ({ outcome := .ok (.bool (c == d)) }, m)

end Running

/-- The answers to a script's calls, in order, starting from `settings`. -/
def run (coverage : Coverage) (settings : Settings) (steps : List Step) : List Answer :=
  let start : Memory := { store := { settings } }
  (steps.foldl (fun (acc : List Answer × Memory) step =>
    let (a, m) :=
      match step.call with
      | some call => withContext acc.2 step.context fun c m => perform coverage step.overrides m c call
      | none => malformed acc.2
    (a :: acc.1, m)) ([], start)).1.reverse

end AssetBroker.Script
