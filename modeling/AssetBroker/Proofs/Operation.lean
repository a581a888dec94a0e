import AssetBroker.Proofs.Exchanges

/-! A host's calls on a manager, as data. Each operation a manager offers is a
constructor carrying the arguments the host passes. The operations that check
their arguments (`Checked`) fail with a manager error, the others (`Forwarded`)
with the back-end's own. A host's run is a list of operations performed one
after another against one back-end, whose state carries over from call to call;
the manager itself keeps nothing between them. -/

namespace AssetBroker.Manager

/-- A call of an operation that checks its arguments, answered by an `α` when it succeeds. -/
inductive Checked (σ : Type) : Type → Type where
  | prefetch (refs : OneOrMany EntityRef) (context : Context σ) : Checked σ Unit
  | isEntityReference (tokens : OneOrMany String) (context : Context σ) : Checked σ (List Bool)
  | entityExists (refs : OneOrMany EntityRef) (context : Context σ) : Checked σ (List Bool)
  | resolveEntityReference (refs : OneOrMany EntityRef) (context : Context σ) : Checked σ (List String)
  | defaultEntityReference (specs : OneOrMany EntitySpec) (context : Context σ) :
      Checked σ (List (Option EntityRef))
  | entityName (refs : OneOrMany EntityRef) (context : Context σ) : Checked σ (List String)
  | entityDisplayName (refs : OneOrMany EntityRef) (context : Context σ) : Checked σ (List String)
  | getEntityMetadata (refs : OneOrMany EntityRef) (context : Context σ) : Checked σ (List Metadata)
  | getEntityMetadataEntry (refs : OneOrMany EntityRef) (key : String) (context : Context σ)
      (defaultValue : Option Value) : Checked σ (List Value)
  | setEntityMetadataEntry (refs : OneOrMany EntityRef) (key : String) (value : Value) (context : Context σ) :
      Checked σ Unit
  | entityVersionName (refs : OneOrMany EntityRef) (context : Context σ) : Checked σ (List String)
  | entityVersions (refs : OneOrMany EntityRef) (context : Context σ) (query : VersionQuery) :
      Checked σ (List VersionMap)
  | finalizedEntityVersion (refs : OneOrMany EntityRef) (context : Context σ)
      (overrideVersionName : Option String) : Checked σ (List EntityRef)
  | managementPolicy (specs : OneOrMany EntitySpec) (context : Context σ) (ref : Option EntityRef) :
      Checked σ (List ManagementPolicy)
  | setRelatedReferences (ref : EntityRef) (relationship : EntitySpec) (related : OneOrMany EntityRef)
      (context : Context σ) (append : Bool) : Checked σ Unit
  | getRelatedReferences (refs : OneOrMany EntityRef) (relationships : OneOrMany EntitySpec)
      (context : Context σ) (resultSpec : Option EntitySpec) : Checked σ (List (List EntityRef))
  | setEntityMetadata (refs : OneOrMany EntityRef) (data : OneOrMany Metadata) (context : Context σ)
      (merge : Bool) : Checked σ Unit
  | preflight (targets : OneOrMany EntityRef) (specs : OneOrMany EntitySpec) (context : Context σ) :
      Checked σ (List EntityRef)
  | register (strings : OneOrMany String) (targets : OneOrMany EntityRef) (specs : OneOrMany EntitySpec)
      (context : Context σ) : Checked σ (List EntityRef)
  | registerWithMetadata (strings : OneOrMany String) (targets : OneOrMany EntityRef)
      (specs : OneOrMany EntitySpec) (context : Context σ) (metadata : List Metadata) :
      Checked σ (List EntityRef)

/-- A call of an operation that hands its request on and returns the back-end's reply as it is. -/
inductive Forwarded (σ ε : Type) : Type → Type where
  | identifier : Forwarded σ ε String
  | displayName : Forwarded σ ε String
  | info : Forwarded σ ε InfoDictionary
  | updateTerminology (terminology : Terminology) : Forwarded σ ε (Lent Terminology ε Unit)
  | getSettings : Forwarded σ ε Settings
  | setSettings (settings : Settings) : Forwarded σ ε Unit
  | prepare : Forwarded σ ε Unit
  | flushCaches : Forwarded σ ε Unit
  | thumbnailSpecification (spec : EntitySpec) (context : Context σ) (options : ThumbnailOptions) :
      Forwarded σ ε (Lent ThumbnailOptions ε (Option EntitySpec))
  | createContext (parent : Option (Context σ)) : Forwarded σ ε (Context σ)
  | startTransaction (context : Context σ) : Forwarded σ ε Unit
  | finishTransaction (context : Context σ) : Forwarded σ ε Unit
  | cancelTransaction (context : Context σ) : Forwarded σ ε Unit
  | freezeContext (context : Context σ) : Forwarded σ ε (Option String)
  | thawContext (token : String) : Forwarded σ ε (Context σ)

/-- One call a host makes on a manager. -/
inductive Operation (σ ε : Type) : Type 1 where
  | checked {α : Type} (o : Checked σ α)
  | forwarded {α : Type} (o : Forwarded σ ε α)

variable {σ ε α : Type} (m : Manager)

namespace Checked

/-- The context the host passes. -/
def context : Checked σ α → Context σ
  | .prefetch _ c | .isEntityReference _ c | .entityExists _ c | .resolveEntityReference _ c
  | .defaultEntityReference _ c | .entityName _ c | .entityDisplayName _ c | .getEntityMetadata _ c
  | .getEntityMetadataEntry _ _ c _ | .setEntityMetadataEntry _ _ _ c | .entityVersionName _ c
  | .entityVersions _ c _ | .finalizedEntityVersion _ c _ | .managementPolicy _ c _
  | .setRelatedReferences _ _ _ c _ | .getRelatedReferences _ _ c _ | .setEntityMetadata _ _ c _
  | .preflight _ _ c | .register _ _ _ c | .registerWithMetadata _ _ _ c _ => c

/-- The records a registration attaches after registering; other operations attach none. -/
def metadata : Checked σ α → List Metadata
  | .registerWithMetadata _ _ _ _ metadata => metadata
  | _ => []

/-- The manager's program for the call. -/
def program : Checked σ α → Program σ ε (Result ε α)
  | .prefetch refs c => m.prefetch refs c
  | .isEntityReference tokens c => m.isEntityReference tokens c
  | .entityExists refs c => m.entityExists refs c
  | .resolveEntityReference refs c => m.resolveEntityReference refs c
  | .defaultEntityReference specs c => m.defaultEntityReference specs c
  | .entityName refs c => m.entityName refs c
  | .entityDisplayName refs c => m.entityDisplayName refs c
  | .getEntityMetadata refs c => m.getEntityMetadata refs c
  | .getEntityMetadataEntry refs key c default? => m.getEntityMetadataEntry refs key c default?
  | .setEntityMetadataEntry refs key v c => m.setEntityMetadataEntry refs key v c
  | .entityVersionName refs c => m.entityVersionName refs c
  | .entityVersions refs c query => m.entityVersions refs c query
  | .finalizedEntityVersion refs c name? => m.finalizedEntityVersion refs c name?
  | .managementPolicy specs c ref? => m.managementPolicy specs c ref?
  | .setRelatedReferences ref rel related c append => m.setRelatedReferences ref rel related c append
  | .getRelatedReferences refs rels c result? => m.getRelatedReferences refs rels c result?
  | .setEntityMetadata refs data c merge => m.setEntityMetadata refs data c merge
  | .preflight targets specs c => m.preflight targets specs c
  | .register strings targets specs c => m.register strings targets specs c
  | .registerWithMetadata strings targets specs c metadata =>
    m.registerWithMetadata strings targets specs c metadata

end Checked

namespace Forwarded

/-- The context the host passes, for the operations that take one (a parent, for a new context). -/
def context? : Forwarded σ ε α → Option (Context σ)
  | .thumbnailSpecification _ c _ | .startTransaction c | .finishTransaction c | .cancelTransaction c
  | .freezeContext c => some c
  | .createContext parent => parent
  | _ => none

/-- The manager's program for the call. -/
def program : Forwarded σ ε α → Program σ ε (Except ε α)
  | .identifier => Manager.identifier
  | .displayName => Manager.displayName
  | .info => Manager.info
  | .updateTerminology t => m.updateTerminology t
  | .getSettings => m.getSettings
  | .setSettings settings => m.setSettings settings
  | .prepare => m.prepare
  | .flushCaches => m.flushCaches
  | .thumbnailSpecification spec c options => m.thumbnailSpecification spec c options
  | .createContext parent => m.createContext parent
  | .startTransaction c => m.startTransaction c
  | .finishTransaction c => m.finishTransaction c
  | .cancelTransaction c => m.cancelTransaction c
  | .freezeContext c => m.freezeContext c
  | .thawContext token => m.thawContext token

end Forwarded

namespace Operation

/-- What the call answers: a manager error on failure for a checked operation, the back-end's own otherwise. -/
def Answer : Operation σ ε → Type
  | @checked _ _ α _ => Result ε α
  | @forwarded _ _ α _ => Except ε α

def program : (o : Operation σ ε) → Program σ ε o.Answer
  | .checked o => o.program m
  | .forwarded o => o.program m

def context? : Operation σ ε → Option (Context σ)
  | .checked o => some o.context
  | .forwarded o => o.context?

end Operation

section Perform

variable {S : Type} (answer : {β : Type} → Request σ ε β → S → Except ε β × S)

/-- Performs a host's operations in order against one back-end, pairing each with
the exchanges it made. -/
def perform : List (Operation σ ε) → S → List (Operation σ ε × List (Exchange σ ε))
  | [], _ => []
  | o :: os, s =>
    let r := ((o.program m).observe answer s : o.Answer × S × List (Exchange σ ε))
    (o, r.2.2) :: perform os r.2.1

/-- Whatever each operation's program respects holds of every request made in a whole run. -/
theorem perform_respects {P : Operation σ ε → {β : Type} → Request σ ε β → Prop}
    (h : ∀ o, (o.program m : Program σ ε o.Answer).Respects (P o)) (ops : List (Operation σ ε)) (s : S) :
    ∀ step ∈ m.perform answer ops s, ∀ x ∈ step.2, P step.1 x.request := by
  induction ops generalizing s with
  | nil => simp [perform]
  | cons o os ih =>
    intro step hstep
    simp only [perform, List.mem_cons] at hstep
    rcases hstep with rfl | hstep
    · exact (h o).observe answer s
    · exact ih _ step hstep

end Perform

end AssetBroker.Manager
