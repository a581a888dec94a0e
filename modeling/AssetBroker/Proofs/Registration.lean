import AssetBroker.Proofs.Exchanges
import AssetBroker.Proofs.Cardinality

/-! A registration with metadata, taken apart. All its argument checks come
first and form one check (`registerArguments`): when it passes, it yields the
three batches brought to one length and the records to attach. Then the
back-end registers, and only when there are records, the references the
back-end returned are paired with them and the records are attached to those
references. The pairing is checked again there, since the back-end may return
any number of references; an empty answer and a short one are reported alike. -/

namespace AssetBroker

theorem Except.bind_eq_ok {ε α β : Type} {x : Except ε α} {f : α → Except ε β} {b : β} :
    x >>= f = .ok b ↔ ∃ a, x = .ok a ∧ f a = .ok b := by
  cases x <;> simp [bind, Except.bind]

namespace Manager

variable {σ ε : Type} {S : Type} (m : Manager) (answer : {β : Type} → Request σ ε β → S → Except ε β × S)

@[simp] theorem lengths_eq_ok {α : Type} {check : Except CardinalityError α} {a : α} :
    lengths check = .ok a ↔ check = .ok a :=
  Except.mapError_eq_ok

@[simp] theorem normalized_eq_ok {α : Type} {arg : OneOrMany α} {name : String} {n : Normalized α} :
    normalized arg name = .ok n ↔ arg.normalize name = .ok n :=
  Except.mapError_eq_ok

/-- A passed exact pairing of two lengths, whose length is then put to use, pairs equal lengths. -/
theorem lengths_requireEqual_map_eq_ok {γ : Type} {left right : String} {n k : Nat} {f : Nat → γ} {r : γ}
    (h : (lengths (requireEqual (Extent.new left n false) (Extent.new right k false))).map f = .ok r) :
    n = k ∧ r = f n := by
  cases hreq : requireEqual (Extent.new left n false) (Extent.new right k false) with
  | error e => simp [hreq, lengths, Except.map] at h
  | ok len =>
    simp only [hreq, lengths, Except.mapError_ok, Except.map, Except.ok.injEq] at h
    obtain ⟨hlen, rfl⟩ := requireEqual_eq_ok.mp hreq
    exact ⟨hlen, h.symm⟩

/-- What a registration sends once its arguments pass: the common length, the three
batches brought to it, and the records to attach, if there are any. -/
structure Registration where
  length : Nat
  strings : Batch String
  targets : Batch EntityRef
  specs : Batch EntitySpec
  records : Option (Batch Metadata)

/-- The argument checks of a registration, in the order it makes them. -/
def registerArguments (strings : OneOrMany String) (targets : OneOrMany EntityRef) (specs : OneOrMany EntitySpec)
    (metadata : List Metadata) : Except Rejection Registration := do
  let p ← normalized strings "primary_strings"
  let t ← normalized targets "target_entity_refs"
  let s ← normalized specs "entity_specs"
  let len ← lengths (canonicalLength [Extent.of p .ifSingular, Extent.of t .ifSingular, Extent.of s .ifSingular])
  let records ← metadataRecords len metadata
  let p' ← lengths (p.broadcast len)
  let t' ← lengths (t.broadcast len)
  let s' ← lengths (s.broadcast len)
  return ⟨len, p', t', s', records⟩

/-- A registration checks its arguments, registers, and attaches the records, if any,
to the references the back-end returned. -/
theorem registerWithMetadata_eq (strings : OneOrMany String) (targets : OneOrMany EntityRef)
    (specs : OneOrMany EntitySpec) (context : Context σ) (metadata : List Metadata) :
    (m.registerWithMetadata strings targets specs context metadata : Program σ ε _) =
      validate "register" (registerArguments strings targets specs metadata) fun plan =>
        andThen (delegate plan.length (.register plan.strings plan.targets plan.specs context m.session))
          fun registered =>
            match plan.records with
            | none => .done (.ok registered)
            | some records => m.attachMetadata registered records context := by
  simp only [registerArguments, validate_bind]
  rfl

theorem metadataRecords_eq_ok {len : Nat} {metadata : List Metadata} {records : Option (Batch Metadata)}
    (h : metadataRecords len metadata = .ok records) :
    records = Batch.ofList? metadata ∧ ∀ b, records = some b → b.length = len := by
  unfold metadataRecords at h
  split at h
  · next hnone =>
    cases h
    simp [hnone]
  · next b hsome =>
    obtain ⟨hlen, rfl⟩ := lengths_requireEqual_map_eq_ok h
    exact ⟨hsome.symm, fun b' hb' => by cases hb'; exact hlen.symm⟩

/-- A registration that passes its checks sends three batches of the common length,
and its records are the metadata, one per registration, or none for no metadata. -/
theorem registerArguments_eq_ok {strings : OneOrMany String} {targets : OneOrMany EntityRef}
    {specs : OneOrMany EntitySpec} {metadata : List Metadata} {plan : Registration}
    (h : registerArguments strings targets specs metadata = .ok plan) :
    plan.strings.length = plan.length ∧ plan.targets.length = plan.length ∧ plan.specs.length = plan.length ∧
      plan.records = Batch.ofList? metadata ∧ ∀ b, plan.records = some b → b.length = plan.length := by
  simp only [registerArguments, Except.bind_eq_ok, lengths_eq_ok] at h
  obtain ⟨p, -, t, -, s, -, len, -, records, hrecords, p', hp, t', ht, s', hs, h⟩ := h
  cases h
  exact ⟨p.length_of_broadcast hp, t.length_of_broadcast ht, s.length_of_broadcast hs,
    metadataRecords_eq_ok hrecords⟩

/-- The references a registration returned pair with the records exactly when there are as many. -/
theorem registeredBatch_eq_ok {registered : List EntityRef} {records : Batch Metadata} {refs : Batch EntityRef}
    (h : registeredBatch registered records = .ok refs) :
    refs.toList = registered ∧ registered.length = records.length := by
  unfold registeredBatch at h
  split at h
  · cases h
  · next b hb =>
    obtain ⟨hlen, rfl⟩ := lengths_requireEqual_map_eq_ok h
    exact ⟨(Batch.ofList?_eq_some.mp hb).1, hlen⟩

/-- An empty answer and a short or long one are the same mismatch, named after the returned references. -/
theorem registeredBatch_of_length_ne {registered : List EntityRef} {records : Batch Metadata}
    (h : registered.length ≠ records.length) :
    registeredBatch registered records =
      .error (.cardinality (.exactMismatch "registered_refs" registered.length "metadata" records.length)) := by
  cases registered with
  | nil => rfl
  | cons x xs =>
    have hreq : requireEqual (Extent.new "registered_refs" (x :: xs).length false)
        (Extent.new "metadata" records.length false) =
        .error (.exactMismatch "registered_refs" (x :: xs).length "metadata" records.length) :=
      if_neg h
    simp only [registeredBatch, Batch.ofList?, hreq, lengths, Except.mapError_error, Except.map]

theorem registeredBatch_of_length_eq {registered : List EntityRef} {records : Batch Metadata}
    (h : registered.length = records.length) :
    ∃ refs, refs.toList = registered ∧ registeredBatch registered records = .ok refs := by
  cases registered with
  | nil => exact absurd h (Nat.ne_of_lt records.length_pos)
  | cons x xs =>
    refine ⟨⟨x :: xs, List.cons_ne_nil x xs⟩, rfl, ?_⟩
    simp [registeredBatch, Batch.ofList?, requireEqual, h, lengths, Except.map]

/-- Attaching records to a number of references other than theirs asks the back-end nothing. -/
theorem observe_attachMetadata_of_length_ne {registered : List EntityRef} {records : Batch Metadata}
    (context : Context σ) (s : S) (h : registered.length ≠ records.length) :
    (m.attachMetadata registered records context : Program σ ε _).observe answer s =
      (.error (.cardinality (.exactMismatch "registered_refs" registered.length "metadata" records.length)), s, []) := by
  simp [attachMetadata, registeredBatch_of_length_ne h, ManagerError.ofRejection]

/-- Attaching as many records as references is one request, with the references as returned. -/
theorem observe_attachMetadata_of_length_eq {registered : List EntityRef} {records : Batch Metadata}
    (context : Context σ) (s : S) (h : registered.length = records.length) :
    ∃ refs : Batch EntityRef, refs.toList = registered ∧
      let q := Request.setEntityMetadata refs records context m.session true
      (m.attachMetadata registered records context : Program σ ε _).observe answer s =
        (match (answer q s).1 with
          | .ok _ => .ok registered
          | .error e => .error (.interface e), (answer q s).2, [⟨q, (answer q s).1⟩]) := by
  obtain ⟨refs, hrefs, hbatch⟩ := registeredBatch_of_length_eq h
  refine ⟨refs, hrefs, ?_⟩
  dsimp only
  rcases hr : answer (.setEntityMetadata refs records context m.session true) s with ⟨reply, s₁⟩
  rw [attachMetadata, hbatch, validate_ok]
  cases reply with
  | ok u => rw [observe_andThen_delegate_ok answer hr]; rfl
  | error e => rw [observe_andThen_delegate_error answer hr]

/-! ### A registration, outcome by outcome -/

section Outcomes

variable (strings : OneOrMany String) (targets : OneOrMany EntityRef) (specs : OneOrMany EntitySpec)
  (context : Context σ) (metadata : List Metadata) (s : S)

theorem Batch.ofList?_of_ne_nil {α : Type} {xs : List α} (h : xs ≠ []) :
    ∃ b : Batch α, Batch.ofList? xs = some b ∧ b.toList = xs := by
  cases xs with
  | nil => exact absurd rfl h
  | cons x xs => exact ⟨⟨x :: xs, List.cons_ne_nil x xs⟩, rfl, rfl⟩

/-- A registration whose checks fail asks the back-end nothing. -/
theorem observe_registerWithMetadata_of_error {reason : Rejection}
    (h : registerArguments strings targets specs metadata = .error reason) :
    (m.registerWithMetadata strings targets specs context metadata : Program σ ε _).observe answer s =
      (.error (.ofRejection reason), s, []) := by
  rw [registerWithMetadata_eq, h, validate_error, observe_reject]

/-- A failed registration is reported as it is, and nothing more is asked. -/
theorem observe_registerWithMetadata_of_register_error {plan : Registration} {e : ε} {s₁ : S}
    (h : registerArguments strings targets specs metadata = .ok plan)
    (hr : answer (.register plan.strings plan.targets plan.specs context m.session) s = (.error e, s₁)) :
    (m.registerWithMetadata strings targets specs context metadata : Program σ ε _).observe answer s =
      (.error (.interface e), s₁, [⟨.register plan.strings plan.targets plan.specs context m.session, .error e⟩]) := by
  rw [registerWithMetadata_eq, h, validate_ok, observe_andThen_delegate_error answer hr]

/-- After a successful registration, what follows depends only on the returned references
and the metadata: nothing without metadata, else the attaching of the records. -/
theorem observe_registerWithMetadata_of_registered {plan : Registration} {refs : List EntityRef} {s₁ : S}
    (h : registerArguments strings targets specs metadata = .ok plan)
    (hr : answer (.register plan.strings plan.targets plan.specs context m.session) s = (.ok refs, s₁)) :
    (m.registerWithMetadata strings targets specs context metadata : Program σ ε _).observe answer s =
      let rest := (match Batch.ofList? metadata with
        | none => .done (.ok refs)
        | some records => m.attachMetadata refs records context : Program σ ε _).observe answer s₁
      (rest.1, rest.2.1, ⟨.register plan.strings plan.targets plan.specs context m.session, .ok refs⟩ :: rest.2.2) := by
  have hrecords := (registerArguments_eq_ok h).2.2.2.1
  rw [registerWithMetadata_eq, h, validate_ok, observe_andThen_delegate_ok answer hr, hrecords]

theorem observe_registerWithMetadata_of_no_metadata {plan : Registration} {refs : List EntityRef} {s₁ : S}
    (h : registerArguments strings targets specs [] = .ok plan)
    (hr : answer (.register plan.strings plan.targets plan.specs context m.session) s = (.ok refs, s₁)) :
    (m.registerWithMetadata strings targets specs context [] : Program σ ε _).observe answer s =
      (.ok refs, s₁, [⟨.register plan.strings plan.targets plan.specs context m.session, .ok refs⟩]) := by
  rw [observe_registerWithMetadata_of_registered m answer strings targets specs context [] s h hr]
  rfl

/-- Returned references that do not match the records in number end the call before the
metadata request, with the same mismatch whether the back-end returned none or too few. -/
theorem observe_registerWithMetadata_of_length_ne {plan : Registration} {refs : List EntityRef} {s₁ : S}
    (h : registerArguments strings targets specs metadata = .ok plan)
    (hr : answer (.register plan.strings plan.targets plan.specs context m.session) s = (.ok refs, s₁))
    (hm : metadata ≠ []) (hlen : refs.length ≠ metadata.length) :
    (m.registerWithMetadata strings targets specs context metadata : Program σ ε _).observe answer s =
      (.error (.cardinality (.exactMismatch "registered_refs" refs.length "metadata" metadata.length)), s₁,
        [⟨.register plan.strings plan.targets plan.specs context m.session, .ok refs⟩]) := by
  obtain ⟨records, hsome, htoList⟩ := Batch.ofList?_of_ne_nil hm
  have hne : refs.length ≠ records.length := by rw [Batch.length, htoList]; exact hlen
  rw [observe_registerWithMetadata_of_registered m answer strings targets specs context metadata s h hr]
  simp only [hsome, observe_attachMetadata_of_length_ne m answer context s₁ hne]
  rw [Batch.length, htoList]

/-- Returned references that match the records in number get them, in one more request. -/
theorem observe_registerWithMetadata_of_length_eq {plan : Registration} {refs : List EntityRef} {s₁ : S}
    (h : registerArguments strings targets specs metadata = .ok plan)
    (hr : answer (.register plan.strings plan.targets plan.specs context m.session) s = (.ok refs, s₁))
    (hm : metadata ≠ []) (hlen : refs.length = metadata.length) :
    ∃ (registered : Batch EntityRef) (records : Batch Metadata), registered.toList = refs ∧ records.toList = metadata ∧
      let q := Request.setEntityMetadata registered records context m.session true
      (m.registerWithMetadata strings targets specs context metadata : Program σ ε _).observe answer s =
        (match (answer q s₁).1 with
          | .ok _ => .ok refs
          | .error e => .error (.interface e), (answer q s₁).2,
          [⟨.register plan.strings plan.targets plan.specs context m.session, .ok refs⟩, ⟨q, (answer q s₁).1⟩]) := by
  obtain ⟨records, hsome, htoList⟩ := Batch.ofList?_of_ne_nil hm
  have heq : refs.length = records.length := by rw [Batch.length, htoList]; exact hlen
  obtain ⟨registered, hregistered, hattach⟩ := observe_attachMetadata_of_length_eq m answer context s₁ heq
  refine ⟨registered, records, hregistered, htoList, ?_⟩
  rw [observe_registerWithMetadata_of_registered m answer strings targets specs context metadata s h hr]
  simp only [hsome, hattach]

end Outcomes

/-- A registration with metadata registers, then writes the records, merged, to the
references the back-end returned, never to the targets; each failure ends the call. -/
theorem registerWithMetadata_composes (strings : OneOrMany String) (targets : OneOrMany EntityRef)
    (specs : OneOrMany EntitySpec) (context : Context σ) (metadata : List Metadata) (s : S) :
    let run := (m.registerWithMetadata strings targets specs context metadata : Program σ ε _).observe answer s
    (∀ reason, registerArguments strings targets specs metadata = .error reason →
      run = (.error (.ofRejection reason), s, [])) ∧
    ∀ plan, registerArguments strings targets specs metadata = .ok plan →
      let q := Request.register plan.strings plan.targets plan.specs context m.session
      (∀ e s₁, answer q s = (.error e, s₁) → run = (.error (.interface e), s₁, [⟨q, .error e⟩])) ∧
      ∀ refs s₁, answer q s = (.ok refs, s₁) →
        (metadata = [] → run = (.ok refs, s₁, [⟨q, .ok refs⟩])) ∧
        (metadata ≠ [] → refs.length ≠ metadata.length →
          run = (.error (.cardinality (.exactMismatch "registered_refs" refs.length "metadata" metadata.length)),
            s₁, [⟨q, .ok refs⟩])) ∧
        (metadata ≠ [] → refs.length = metadata.length →
          ∃ (registered : Batch EntityRef) (records : Batch Metadata),
            registered.toList = refs ∧ records.toList = metadata ∧
            let q' := Request.setEntityMetadata registered records context m.session true
            run = (match (answer q' s₁).1 with
                | .ok _ => .ok refs
                | .error e => .error (.interface e), (answer q' s₁).2,
              [⟨q, .ok refs⟩, ⟨q', (answer q' s₁).1⟩])) := by
  intro run
  constructor
  · intro reason h
    exact observe_registerWithMetadata_of_error m answer strings targets specs context metadata s h
  · intro plan h q
    constructor
    · intro e s₁ hr
      exact observe_registerWithMetadata_of_register_error m answer strings targets specs context metadata s h hr
    · intro refs s₁ hr
      refine ⟨fun hm => ?_,
        observe_registerWithMetadata_of_length_ne m answer strings targets specs context metadata s h hr,
        observe_registerWithMetadata_of_length_eq m answer strings targets specs context metadata s h hr⟩
      -- without metadata the checks pass on the empty list, the case the plain registration takes
      subst hm
      exact observe_registerWithMetadata_of_no_metadata m answer strings targets specs context s h hr

end Manager

end AssetBroker
