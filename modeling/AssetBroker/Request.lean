import AssetBroker.Batch
import AssetBroker.Context
import AssetBroker.Policy
import AssetBroker.Host

/-! The calls a manager makes to a back-end, one constructor per operation of the
back-end, indexed by the type of its answer. Batch arguments are non-empty by
their type; every entity operation also carries the host's context, and every
operation but the three that name the back-end carries the host session, each in
the place the back-end's operation takes it.

Two operations borrow a map of the host's to edit in place, the terminology and
the thumbnail options. The back-end may edit the map and then fail, so its reply
to such a call is the map as it left it together with the call's outcome. -/

namespace AssetBroker

/-- The versions of one entity: version name to the reference of that version. -/
abbrev VersionMap := Dict EntityRef

/-- The reply to a call that lends the back-end a map `μ` of the host's: the map as the
back-end left it, and the outcome, success or failure. -/
structure Lent (μ ε α : Type) where
  map : μ
  outcome : Except ε α

/-- The map and outcome the host is left with after a lending call: a failure without a
reply leaves the map as it was lent. -/
def Lent.settle {μ ε α : Type} (lent : μ) : Except ε (Lent μ ε α) → Lent μ ε α
  | .ok reply => reply
  | .error e => ⟨lent, .error e⟩

/-- One call to a back-end whose state type is `σ` and error type `ε`, answered by a `β`. -/
inductive Request (σ ε : Type) : Type → Type where
  | identifier : Request σ ε String
  | displayName : Request σ ε String
  | info : Request σ ε InfoDictionary
  | updateTerminology (terminology : Terminology) (session : HostSession) :
      Request σ ε (Lent Terminology ε Unit)
  | getSettings (session : HostSession) : Request σ ε Settings
  | setSettings (settings : Settings) (session : HostSession) : Request σ ε Unit
  /-- Prepares the back-end for use with its current settings. -/
  | prepare (session : HostSession) : Request σ ε Unit
  | prefetch (refs : Batch EntityRef) (context : Context σ) (session : HostSession) : Request σ ε Unit
  | flushCaches (session : HostSession) : Request σ ε Unit
  | isEntityReference (tokens : Batch String) (context : Context σ) (session : HostSession) :
      Request σ ε (List Bool)
  | entityExists (refs : Batch EntityRef) (context : Context σ) (session : HostSession) :
      Request σ ε (List Bool)
  | resolveEntityReference (refs : Batch EntityRef) (context : Context σ) (session : HostSession) :
      Request σ ε (List String)
  | defaultEntityReference (specs : Batch EntitySpec) (context : Context σ) (session : HostSession) :
      Request σ ε (List (Option EntityRef))
  | entityName (refs : Batch EntityRef) (context : Context σ) (session : HostSession) :
      Request σ ε (List String)
  | entityDisplayName (refs : Batch EntityRef) (context : Context σ) (session : HostSession) :
      Request σ ε (List String)
  | getEntityMetadata (refs : Batch EntityRef) (context : Context σ) (session : HostSession) :
      Request σ ε (List Metadata)
  | setEntityMetadata (refs : Batch EntityRef) (data : Batch Metadata) (context : Context σ)
      (session : HostSession) (merge : Bool) : Request σ ε Unit
  | getEntityMetadataEntry (refs : Batch EntityRef) (key : String) (context : Context σ)
      (session : HostSession) (defaultValue : Option Value) : Request σ ε (List Value)
  | setEntityMetadataEntry (refs : Batch EntityRef) (key : String) (value : Value)
      (context : Context σ) (session : HostSession) : Request σ ε Unit
  | entityVersionName (refs : Batch EntityRef) (context : Context σ) (session : HostSession) :
      Request σ ε (List String)
  | entityVersions (refs : Batch EntityRef) (context : Context σ) (session : HostSession)
      (includeMetaVersions : Bool) (maxNumVersions : Int64) : Request σ ε (List VersionMap)
  | finalizedEntityVersion (refs : Batch EntityRef) (context : Context σ) (session : HostSession)
      (overrideVersionName : Option String) : Request σ ε (List EntityRef)
  | getRelatedReferences (refs : Batch EntityRef) (relationships : Batch EntitySpec)
      (context : Context σ) (session : HostSession) (resultSpec : Option EntitySpec) :
      Request σ ε (List (List EntityRef))
  | setRelatedReferences (ref : EntityRef) (relationship : EntitySpec) (related : Batch EntityRef)
      (context : Context σ) (session : HostSession) (append : Bool) : Request σ ε Unit
  | thumbnailSpecification (spec : EntitySpec) (context : Context σ) (options : ThumbnailOptions)
      (session : HostSession) : Request σ ε (Lent ThumbnailOptions ε (Option EntitySpec))
  | managementPolicy (specs : Batch EntitySpec) (context : Context σ) (session : HostSession)
      (ref : Option EntityRef) : Request σ ε (List ManagementPolicy)
  | preflight (targets : Batch EntityRef) (specs : Batch EntitySpec) (context : Context σ)
      (session : HostSession) : Request σ ε (List EntityRef)
  | register (strings : Batch String) (targets : Batch EntityRef) (specs : Batch EntitySpec)
      (context : Context σ) (session : HostSession) : Request σ ε (List EntityRef)
  | createState (session : HostSession) (parent : Option σ) : Request σ ε (Option σ)
  | startTransaction (state : σ) (session : HostSession) : Request σ ε Unit
  | finishTransaction (state : σ) (session : HostSession) : Request σ ε Unit
  | cancelTransaction (state : σ) (session : HostSession) : Request σ ε Unit
  | freezeState (state : σ) (session : HostSession) : Request σ ε String
  | thawState (token : String) (session : HostSession) : Request σ ε σ

namespace Request

variable {σ ε β : Type}

def name : Request σ ε β → String
  | .identifier => "identifier"
  | .displayName => "display_name"
  | .info => "info"
  | .updateTerminology .. => "update_terminology"
  | .getSettings .. => "get_settings"
  | .setSettings .. => "set_settings"
  | .prepare .. => "initialize"
  | .prefetch .. => "prefetch"
  | .flushCaches .. => "flush_caches"
  | .isEntityReference .. => "is_entity_reference"
  | .entityExists .. => "entity_exists"
  | .resolveEntityReference .. => "resolve_entity_reference"
  | .defaultEntityReference .. => "default_entity_reference"
  | .entityName .. => "entity_name"
  | .entityDisplayName .. => "entity_display_name"
  | .getEntityMetadata .. => "get_entity_metadata"
  | .setEntityMetadata .. => "set_entity_metadata"
  | .getEntityMetadataEntry .. => "get_entity_metadata_entry"
  | .setEntityMetadataEntry .. => "set_entity_metadata_entry"
  | .entityVersionName .. => "entity_version_name"
  | .entityVersions .. => "entity_versions"
  | .finalizedEntityVersion .. => "finalized_entity_version"
  | .getRelatedReferences .. => "get_related_references"
  | .setRelatedReferences .. => "set_related_references"
  | .thumbnailSpecification .. => "thumbnail_specification"
  | .managementPolicy .. => "management_policy"
  | .preflight .. => "preflight"
  | .register .. => "register"
  | .createState .. => "create_state"
  | .startTransaction .. => "start_transaction"
  | .finishTransaction .. => "finish_transaction"
  | .cancelTransaction .. => "cancel_transaction"
  | .freezeState .. => "freeze_state"
  | .thawState .. => "thaw_state"

/-- The context a request carries, if it is an entity operation. -/
def context? : Request σ ε β → Option (Context σ)
  | .prefetch _ c _ | .isEntityReference _ c _ | .entityExists _ c _ | .resolveEntityReference _ c _
  | .defaultEntityReference _ c _ | .entityName _ c _ | .entityDisplayName _ c _
  | .getEntityMetadata _ c _ | .setEntityMetadata _ _ c _ _ | .getEntityMetadataEntry _ _ c _ _
  | .setEntityMetadataEntry _ _ _ c _ | .entityVersionName _ c _ | .entityVersions _ c _ _ _
  | .finalizedEntityVersion _ c _ _ | .getRelatedReferences _ _ c _ _
  | .setRelatedReferences _ _ _ c _ _ | .thumbnailSpecification _ c _ _ | .managementPolicy _ c _ _
  | .preflight _ _ c _ | .register _ _ _ c _ => some c
  | _ => none

/-- The host session a request carries; only the requests naming the back-end carry none. -/
def session? : Request σ ε β → Option HostSession
  | .identifier | .displayName | .info => none
  | .updateTerminology _ h | .getSettings h | .setSettings _ h | .prepare h | .prefetch _ _ h
  | .flushCaches h | .isEntityReference _ _ h | .entityExists _ _ h | .resolveEntityReference _ _ h
  | .defaultEntityReference _ _ h | .entityName _ _ h | .entityDisplayName _ _ h
  | .getEntityMetadata _ _ h | .setEntityMetadata _ _ _ h _ | .getEntityMetadataEntry _ _ _ h _
  | .setEntityMetadataEntry _ _ _ _ h | .entityVersionName _ _ h | .entityVersions _ _ h _ _
  | .finalizedEntityVersion _ _ h _ | .getRelatedReferences _ _ _ h _
  | .setRelatedReferences _ _ _ _ h _ | .thumbnailSpecification _ _ _ h | .managementPolicy _ _ h _
  | .preflight _ _ _ h | .register _ _ _ _ h | .createState h _ | .startTransaction _ h
  | .finishTransaction _ h | .cancelTransaction _ h | .freezeState _ h | .thawState _ h => some h

end Request

end AssetBroker
