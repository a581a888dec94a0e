import AssetBroker.Proofs.OneCall
import AssetBroker.Proofs.Registration

/-! Operations on two paired batch arguments: related references, metadata records
and the announcement of a registration. Each normalises its two arguments in order,
checks that their lengths pair, and hands both batches to the back-end in one
request, as they were given. They differ only in which lengths pair. Related
references accept equal lengths, or one side of a single element whatever form it
came in, report both arguments otherwise, and announce the longer length. Metadata
records and an announcement accept equal lengths only, so a single value is never
repeated against a sequence, and report the two lengths otherwise. -/

namespace AssetBroker.Manager

open Program

variable {σ ε α β γ : Type} (m : Manager)

/-- An operation on two paired batch arguments named `left` and `right`: both are
normalised in order, `pair` checks their lengths, and both batches go to the back-end
in one request, announced with the length the check gives. -/
def pairedBatch (op left right : String) (a : OneOrMany α) (b : OneOrMany β)
    (pair : Normalized α → Normalized β → Except CardinalityError Nat)
    (request : Batch α → Batch β → Request σ ε γ) : Program σ ε (Result ε γ) :=
  validate op (normalized a left) fun r =>
  validate op (normalized b right) fun s =>
  validate op (lengths (pair r s)) fun len => delegate len (request r.batch s.batch)

theorem getRelatedReferences_eq (refs : OneOrMany EntityRef) (relationships : OneOrMany EntitySpec)
    (c : Context σ) (resultSpec : Option EntitySpec) :
    (m.getRelatedReferences refs relationships c resultSpec : Program σ ε _) =
      pairedBatch "get_related_references" "entity_refs" "relationship_specs" refs relationships
        (fun r s => canonicalLength [Extent.of r .ifSingleElement, Extent.of s .ifSingleElement])
        (fun A B => .getRelatedReferences A B c m.session resultSpec) :=
  rfl

theorem setEntityMetadata_eq (refs : OneOrMany EntityRef) (data : OneOrMany Metadata) (c : Context σ)
    (merge : Bool) :
    (m.setEntityMetadata refs data c merge : Program σ ε _) =
      pairedBatch "set_entity_metadata" "entity_refs" "data" refs data
        (fun r d => requireEqual (Extent.of r .never) (Extent.of d .never))
        (fun A B => .setEntityMetadata A B c m.session merge) :=
  rfl

theorem preflight_eq (targets : OneOrMany EntityRef) (specs : OneOrMany EntitySpec) (c : Context σ) :
    (m.preflight targets specs c : Program σ ε _) =
      pairedBatch "preflight" "target_entity_refs" "entity_specs" targets specs
        (fun t s => requireEqual (Extent.of t .never) (Extent.of s .never))
        (fun A B => .preflight A B c m.session) :=
  rfl

/-- How an operation `p` on two paired batch arguments behaves under every back-end:
which lengths it `accepts`, the error it reports for the others, the size it announces
for a call (`count`), and the request it makes of both batches. -/
structure PairsBatches (p : Program σ ε (Result ε γ)) (left : String) (a : OneOrMany α) (right : String)
    (b : OneOrMany β) (accepts : Nat → Nat → Prop) (unpairedError : Nat → Nat → CardinalityError)
    (count : Nat → Nat → Nat) (request : Batch α → Batch β → Request σ ε γ) : Prop where
  /-- An empty left sequence is refused first, and the back-end is asked nothing. -/
  emptyLeft : a.toList = [] → ∀ {S : Type} (answer : {δ : Type} → Request σ ε δ → S → Except ε δ × S) (s : S),
    p.observe answer s = (.error (.shape (.empty left)), s, [])
  /-- Then an empty right sequence. -/
  emptyRight : a.toList ≠ [] → b.toList = [] →
    ∀ {S : Type} (answer : {δ : Type} → Request σ ε δ → S → Except ε δ × S) (s : S),
      p.observe answer s = (.error (.shape (.empty right)), s, [])
  /-- Lengths that do not pair are refused, and the back-end is asked nothing. -/
  unpaired : a.toList ≠ [] → b.toList ≠ [] → ¬accepts a.toList.length b.toList.length →
    ∀ {S : Type} (answer : {δ : Type} → Request σ ε δ → S → Except ε δ × S) (s : S),
      p.observe answer s = (.error (.cardinality (unpairedError a.toList.length b.toList.length)), s, [])
  /-- Lengths that pair send both batches as given in one request, announced with `count`;
  its reply is the result, a failure coming back as an interface error. -/
  call : ∀ (A : Batch α) (B : Batch β), A.toList = a.toList → B.toList = b.toList →
    accepts a.toList.length b.toList.length →
    ∀ {S : Type} (answer : {δ : Type} → Request σ ε δ → S → Except ε δ × S) (s : S),
      p.observe answer s = ((answer (request A B) s).1.mapError .interface, (answer (request A B) s).2,
          [⟨request A B, (answer (request A B) s).1⟩]) ∧
        (p.run answer s).2.2 = [.delegating (request A B).name (some (count a.toList.length b.toList.length))]

section Normalise

variable {arg : OneOrMany α}

/-- An argument with elements normalises to the batch of them. -/
theorem normalized_of_ne_nil (name : String) (h : arg.toList ≠ []) :
    ∃ A : Batch α, A.toList = arg.toList ∧ normalized arg name = .ok ⟨name, A, arg.isSingular⟩ := by
  obtain ⟨A, -, hA⟩ := Batch.ofList?_of_ne_nil h
  exact ⟨A, hA, by simp [normalized, OneOrMany.normalize_of_toList name hA]⟩

theorem normalized_of_toList_eq_nil (name : String) (h : arg.toList = []) :
    normalized arg name = .error (.shape (.empty name)) := by
  simp [normalized, OneOrMany.normalize_of_toList_eq_nil name h]

theorem length_normalized_of_toList (name : String) {A : Batch α} (h : A.toList = arg.toList) :
    (⟨name, A, arg.isSingular⟩ : Normalized α).length = arg.toList.length := by
  simp [Normalized.length, Batch.length, h]

end Normalise

section Paired

variable {op left right : String} {a : OneOrMany α} {b : OneOrMany β}
  {pair : Normalized α → Normalized β → Except CardinalityError Nat} {request : Batch α → Batch β → Request σ ε γ}

/-- Once both arguments are normalised, what remains is the length check and the request. -/
theorem pairedBatch_of_toList {A : Batch α} {B : Batch β} (hA : A.toList = a.toList) (hB : B.toList = b.toList) :
    (pairedBatch op left right a b pair request : Program σ ε _) =
      validate op (lengths (pair ⟨left, A, a.isSingular⟩ ⟨right, B, b.isSingular⟩)) fun len =>
        delegate len (request A B) := by
  simp only [pairedBatch, normalized, OneOrMany.normalize_of_toList left hA, OneOrMany.normalize_of_toList right hB,
    Except.mapError_ok, validate_ok]

/-- A paired operation meets its specification when its length check accepts and reports
as the specification says. -/
theorem pairedBatch_pairs {accepts : Nat → Nat → Prop} {unpairedError : Nat → Nat → CardinalityError}
    {count : Nat → Nat → Nat}
    (hok : ∀ (r : Normalized α) (s : Normalized β), r.name = left → s.name = right → accepts r.length s.length →
      pair r s = .ok (count r.length s.length))
    (herr : ∀ (r : Normalized α) (s : Normalized β), r.name = left → s.name = right → ¬accepts r.length s.length →
      pair r s = .error (unpairedError r.length s.length)) :
    PairsBatches (pairedBatch op left right a b pair request : Program σ ε _) left a right b accepts unpairedError
      count request where
  emptyLeft h _ answer s := by
    simp [pairedBatch, normalized_of_toList_eq_nil left h, ManagerError.ofRejection]
  emptyRight ha hb _ answer s := by
    obtain ⟨A, -, hnA⟩ := normalized_of_ne_nil left ha
    simp [pairedBatch, hnA, normalized_of_toList_eq_nil right hb, ManagerError.ofRejection]
  unpaired ha hb h _ answer s := by
    obtain ⟨A, hA, -⟩ := normalized_of_ne_nil left ha
    obtain ⟨B, hB, -⟩ := normalized_of_ne_nil right hb
    have hr := length_normalized_of_toList left hA
    have hs := length_normalized_of_toList right hB
    have hlen := herr ⟨left, A, a.isSingular⟩ ⟨right, B, b.isSingular⟩ rfl rfl (by rwa [hr, hs])
    rw [hr, hs] at hlen
    simp [pairedBatch_of_toList hA hB, hlen, lengths, ManagerError.ofRejection]
  call A B hA hB h _ answer s := by
    have hr := length_normalized_of_toList left hA
    have hs := length_normalized_of_toList right hB
    have hlen := hok ⟨left, A, a.isSingular⟩ ⟨right, B, b.isSingular⟩ rfl rfl (by rwa [hr, hs])
    rw [hr, hs] at hlen
    rw [pairedBatch_of_toList hA hB, hlen]
    exact ⟨rfl, rfl⟩

/-- An exact pairing accepts equal lengths only and reports both names and lengths. -/
theorem pairedBatch_pairs_exactly :
    PairsBatches
      (pairedBatch op left right a b (fun r s => requireEqual (Extent.of r .never) (Extent.of s .never)) request :
        Program σ ε _)
      left a right b (· = ·) (.exactMismatch left · right ·) (fun k _ => k) request := by
  refine pairedBatch_pairs (fun r s _ _ h => requireEqual_of_len_eq h) fun r s hr hs h => ?_
  rw [requireEqual_of_len_ne h]
  simp [hr, hs]

end Paired

/-- Related references accept equal lengths or a side of one element, and hand both batches on
as given, not repeated. -/
theorem getRelatedReferences_pairs_unexpanded (refs : OneOrMany EntityRef) (relationships : OneOrMany EntitySpec)
    (c : Context σ) (resultSpec : Option EntitySpec) :
    PairsBatches (m.getRelatedReferences refs relationships c resultSpec : Program σ ε _)
      "entity_refs" refs "relationship_specs" relationships (fun k n => k = n ∨ k = 1 ∨ n = 1)
      (fun k n => .mismatch [("entity_refs", k), ("relationship_specs", n)]) max
      (fun A B => .getRelatedReferences A B c m.session resultSpec) := by
  rw [getRelatedReferences_eq]
  refine pairedBatch_pairs (fun r s _ _ h => canonicalLength_singleElement_ok h) fun r s hr hs h => ?_
  rw [canonicalLength_singleElement_error h, hr, hs]

/-- Preflight and metadata writes pair exactly: equal lengths, whatever form each argument came
in, or an exact mismatch with no request. -/
theorem preflight_setEntityMetadata_pair_exactly (targets : OneOrMany EntityRef) (specs : OneOrMany EntitySpec)
    (c : Context σ) (refs : OneOrMany EntityRef) (data : OneOrMany Metadata) (c' : Context σ) (merge : Bool) :
    PairsBatches (m.preflight targets specs c : Program σ ε _) "target_entity_refs" targets "entity_specs" specs
      (· = ·) (.exactMismatch "target_entity_refs" · "entity_specs" ·) (fun k _ => k)
      (fun A B => .preflight A B c m.session) ∧
    PairsBatches (m.setEntityMetadata refs data c' merge : Program σ ε _) "entity_refs" refs "data" data
      (· = ·) (.exactMismatch "entity_refs" · "data" ·) (fun k _ => k)
      (fun A B => .setEntityMetadata A B c' m.session merge) := by
  rw [preflight_eq, setEntityMetadata_eq]
  exact ⟨pairedBatch_pairs_exactly, pairedBatch_pairs_exactly⟩

end AssetBroker.Manager
