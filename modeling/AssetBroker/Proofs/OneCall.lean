import AssetBroker.Proofs.Exchanges

/-! Operations that make one request. An operation on one batch argument refines a
one-call reference: an empty sequence is refused with an empty-argument error before
the back-end hears of it, and any other argument reaches the back-end, its elements
in the order given, in exactly one request, whose reply is the result and whose
failure comes back as an interface error. A plain forwarding operation makes its one
request whatever its arguments and returns the reply as it is. Each operation is
stated with its own request, so that an argument dropped, swapped or defaulted on
the way would show. -/

namespace AssetBroker

namespace Batch

variable {α : Type}

/-- A batch is determined by its elements. -/
theorem ext_toList {b b' : Batch α} (h : b.toList = b'.toList) : b = b' := by
  cases b
  cases b'
  cases h
  rfl

end Batch

namespace OneOrMany

variable {α : Type}

theorem normalize_of_toList_eq_nil {arg : OneOrMany α} (name : String) (h : arg.toList = []) :
    arg.normalize name = .error (.empty name) := by
  cases arg with
  | one x => cases h
  | many xs =>
    obtain rfl : xs = [] := h
    rfl

/-- An argument with elements normalises to the batch of them, remembering whether it
came as a single value. -/
theorem normalize_of_toList {arg : OneOrMany α} {b : Batch α} (name : String) (h : b.toList = arg.toList) :
    arg.normalize name = .ok ⟨name, b, arg.isSingular⟩ := by
  cases arg with
  | one x =>
    obtain rfl : b = .single x := Batch.ext_toList h
    rfl
  | many xs =>
    have hxs : b.toList = xs := h
    have hb : Batch.ofList? xs = some b := Batch.ofList?_eq_some.mpr ⟨hxs, hxs ▸ b.ne_nil⟩
    simp [normalize, hb, isSingular]

end OneOrMany

namespace Manager

open Program

variable {σ ε α β : Type} (m : Manager)

/-- The one-call reference for an operation `p` on the batch argument `arg`, named
`name`, whose batch goes to the back-end in the request `request`. -/
structure CallsOnce (p : Program σ ε (Result ε β)) (name : String) (arg : OneOrMany α)
    (request : Batch α → Request σ ε β) : Prop where
  /-- An empty sequence is refused, and the back-end is asked nothing. -/
  empty : arg.toList = [] → ∀ {S : Type} (answer : {γ : Type} → Request σ ε γ → S → Except ε γ × S) (s : S),
    p.observe answer s = (.error (.shape (.empty name)), s, [])
  /-- Otherwise the batch of the argument's elements goes to the back-end in one request. -/
  call : ∀ b : Batch α, b.toList = arg.toList →
    ∀ {S : Type} (answer : {γ : Type} → Request σ ε γ → S → Except ε γ × S) (s : S),
      p.observe answer s =
        ((answer (request b) s).1.mapError .interface, (answer (request b) s).2, [⟨request b, (answer (request b) s).1⟩])

/-- A forwarding program makes the one request `q` and returns its reply as it is. -/
def Forwards (p : Program σ ε (Except ε β)) (q : Request σ ε β) : Prop :=
  ∀ {S : Type} (answer : {γ : Type} → Request σ ε γ → S → Except ε γ × S) (s : S),
    p.observe answer s = ((answer q s).1, (answer q s).2, [⟨q, (answer q s).1⟩])

theorem singleBatch_callsOnce (op name : String) (arg : OneOrMany α) (request : Batch α → Request σ ε β) :
    CallsOnce (singleBatch op name arg request : Program σ ε _) name arg request where
  empty h _ answer s := by
    simp [singleBatch, normalized, OneOrMany.normalize_of_toList_eq_nil name h, ManagerError.ofRejection]
  call b hb _ answer s := by
    simp [singleBatch, normalized, OneOrMany.normalize_of_toList name hb, Normalized.length]

theorem forward_forwards (q : Request σ ε β) : Forwards (forward q : Program σ ε _) q :=
  fun answer s => observe_forward answer q s

/-- Each operation on one batch refines the one-call reference with its own request, and each
plain forwarding operation makes its own one request. -/
theorem operations_make_one_request :
    (∀ (refs : OneOrMany EntityRef) (c : Context σ), CallsOnce (m.prefetch refs c : Program σ ε _)
      "entity_refs" refs fun b => .prefetch b c m.session) ∧
    (∀ (tokens : OneOrMany String) (c : Context σ), CallsOnce (m.isEntityReference tokens c : Program σ ε _)
      "tokens" tokens fun b => .isEntityReference b c m.session) ∧
    (∀ (refs : OneOrMany EntityRef) (c : Context σ), CallsOnce (m.entityExists refs c : Program σ ε _)
      "entity_refs" refs fun b => .entityExists b c m.session) ∧
    (∀ (refs : OneOrMany EntityRef) (c : Context σ), CallsOnce (m.resolveEntityReference refs c : Program σ ε _)
      "entity_refs" refs fun b => .resolveEntityReference b c m.session) ∧
    (∀ (specs : OneOrMany EntitySpec) (c : Context σ),
      CallsOnce (m.defaultEntityReference specs c : Program σ ε _)
        "specifications" specs fun b => .defaultEntityReference b c m.session) ∧
    (∀ (refs : OneOrMany EntityRef) (c : Context σ), CallsOnce (m.entityName refs c : Program σ ε _)
      "entity_refs" refs fun b => .entityName b c m.session) ∧
    (∀ (refs : OneOrMany EntityRef) (c : Context σ), CallsOnce (m.entityDisplayName refs c : Program σ ε _)
      "entity_refs" refs fun b => .entityDisplayName b c m.session) ∧
    (∀ (refs : OneOrMany EntityRef) (c : Context σ), CallsOnce (m.getEntityMetadata refs c : Program σ ε _)
      "entity_refs" refs fun b => .getEntityMetadata b c m.session) ∧
    (∀ (refs : OneOrMany EntityRef) (key : String) (c : Context σ) (defaultValue : Option Value),
      CallsOnce (m.getEntityMetadataEntry refs key c defaultValue : Program σ ε _)
        "entity_refs" refs fun b => .getEntityMetadataEntry b key c m.session defaultValue) ∧
    (∀ (refs : OneOrMany EntityRef) (key : String) (value : Value) (c : Context σ),
      CallsOnce (m.setEntityMetadataEntry refs key value c : Program σ ε _)
        "entity_refs" refs fun b => .setEntityMetadataEntry b key value c m.session) ∧
    (∀ (refs : OneOrMany EntityRef) (c : Context σ), CallsOnce (m.entityVersionName refs c : Program σ ε _)
      "entity_refs" refs fun b => .entityVersionName b c m.session) ∧
    (∀ (refs : OneOrMany EntityRef) (c : Context σ) (query : VersionQuery),
      CallsOnce (m.entityVersions refs c query : Program σ ε _) "entity_refs" refs
        fun b => .entityVersions b c m.session query.includeMetaVersions query.maxNumVersions) ∧
    (∀ (refs : OneOrMany EntityRef) (c : Context σ) (overrideVersionName : Option String),
      CallsOnce (m.finalizedEntityVersion refs c overrideVersionName : Program σ ε _)
        "entity_refs" refs fun b => .finalizedEntityVersion b c m.session overrideVersionName) ∧
    (∀ (specs : OneOrMany EntitySpec) (c : Context σ) (ref : Option EntityRef),
      CallsOnce (m.managementPolicy specs c ref : Program σ ε _)
        "specifications" specs fun b => .managementPolicy b c m.session ref) ∧
    (∀ (ref : EntityRef) (relationship : EntitySpec) (related : OneOrMany EntityRef) (c : Context σ)
      (append : Bool), CallsOnce (m.setRelatedReferences ref relationship related c append : Program σ ε _)
        "related_refs" related fun b => .setRelatedReferences ref relationship b c m.session append) ∧
    Forwards (identifier : Program σ ε _) .identifier ∧
    Forwards (displayName : Program σ ε _) .displayName ∧
    Forwards (info : Program σ ε _) .info ∧
    (∀ terminology : Terminology,
      Forwards (m.updateTerminology terminology : Program σ ε _) (.updateTerminology terminology m.session)) ∧
    Forwards (m.getSettings : Program σ ε _) (.getSettings m.session) ∧
    (∀ settings : Settings, Forwards (m.setSettings settings : Program σ ε _) (.setSettings settings m.session)) ∧
    Forwards (m.prepare : Program σ ε _) (.prepare m.session) ∧
    Forwards (m.flushCaches : Program σ ε _) (.flushCaches m.session) ∧
    (∀ (spec : EntitySpec) (c : Context σ) (options : ThumbnailOptions),
      Forwards (m.thumbnailSpecification spec c options : Program σ ε _)
        (.thumbnailSpecification spec c options m.session)) := by
  and_intros
  -- the fifteen operations on one batch are `singleBatch`, each on its own request
  all_goals try (intros; exact singleBatch_callsOnce ..)
  -- the others are `forward` of their request
  all_goals (intros; exact forward_forwards _)

end Manager

end AssetBroker
