import AssetBroker.Proofs.Pairing

/-! A registration's arguments brought to one length. A single value is repeated to
the length of the sequences beside it; a sequence, even of one element, is never
repeated, so all sequences must have one length, and with no sequence the length is
one. Metadata, when given, holds one record per registration. The checks fail in
order: an empty sequence first, in argument order, then sequences of different
lengths, reported with all three arguments, then metadata of another count. A
registration reaches the back-end exactly when all pass, and then registers the
three arguments brought to the common length. -/

namespace AssetBroker

namespace OneOrMany

variable {α : Type}

/-- An argument fits the length `n` when it is a single value, which may be repeated to
any length, or a sequence of `n` elements. -/
def Fits (n : Nat) : OneOrMany α → Prop
  | .one _ => True
  | .many xs => xs.length = n

/-- An argument brought to `n` elements: a single value repeated `n` times, a sequence as it is. -/
def expand (n : Nat) : OneOrMany α → List α
  | .one x => List.replicate n x
  | .many xs => xs

/-- An argument that fits a positive length has elements. -/
theorem ne_nil_of_fits {n : Nat} {arg : OneOrMany α} (hn : 0 < n) (h : arg.Fits n) : arg.toList ≠ [] := by
  cases arg with
  | one x => simp [toList]
  | many xs =>
    intro hxs
    simp only [Fits, toList] at h hxs
    rw [hxs] at h
    simp at h
    omega

end OneOrMany

namespace Manager

open Program

variable {σ ε α : Type}

/-- The length `n` that a registration's three arguments agree on: every sequence among
them has `n` elements, and `n` is positive, and one when all three are single values. -/
structure AgreeOn (n : Nat) (strings : OneOrMany String) (targets : OneOrMany EntityRef)
    (specs : OneOrMany EntitySpec) : Prop where
  strings_fit : strings.Fits n
  targets_fit : targets.Fits n
  specs_fit : specs.Fits n
  pos : 0 < n
  one_of_singular : strings.isSingular = true → targets.isSingular = true → specs.isSingular = true → n = 1

/-! ### One argument -/

section Argument

variable {arg : OneOrMany α} {A : Batch α}

/-- What an argument normalises to is the batch of its elements, under its name. -/
theorem eq_mk_of_normalized_eq_ok {name : String} {n : Normalized α} (h : normalized arg name = .ok n) :
    ∃ A : Batch α, A.toList = arg.toList ∧ n = ⟨name, A, arg.isSingular⟩ := by
  have hn := normalized_eq_ok.mp h
  have hA := OneOrMany.normalize_toList hn
  rw [OneOrMany.normalize_of_toList name hA] at hn
  exact ⟨n.batch, hA, (Except.ok.inj hn).symm⟩

/-- Under `ifSingular` a normalised argument may be repeated exactly when it was a single value. -/
theorem broadcastable_ifSingular (name : String) (h : A.toList = arg.toList) :
    (Extent.of ⟨name, A, arg.isSingular⟩ .ifSingular).broadcastable = arg.isSingular := by
  cases arg with
  | one x => simp [Normalized.length, Batch.length, h, OneOrMany.isSingular, OneOrMany.toList]
  | many xs => rfl

/-- An argument fits `n` exactly when its extent under `ifSingular`, unless repeatable,
has length `n`. -/
theorem fits_iff_extent (name : String) (h : A.toList = arg.toList) {n : Nat} :
    arg.Fits n ↔ ((Extent.of ⟨name, A, arg.isSingular⟩ .ifSingular).broadcastable = false →
      (Extent.of ⟨name, A, arg.isSingular⟩ .ifSingular).len = n) := by
  rw [broadcastable_ifSingular name h, Extent.len_of, length_normalized_of_toList name h]
  cases arg with
  | one x => simp [OneOrMany.Fits, OneOrMany.isSingular]
  | many xs => simp [OneOrMany.Fits, OneOrMany.isSingular, OneOrMany.toList]

/-- An argument that fits a positive length is brought to it: a single value repeated,
a sequence as it is. -/
theorem broadcast_of_fits (name : String) (h : A.toList = arg.toList) {n : Nat} (hfit : arg.Fits n) (hn : 0 < n) :
    ∃ B : Batch α, (⟨name, A, arg.isSingular⟩ : Normalized α).broadcast n = .ok B ∧ B.toList = arg.expand n := by
  cases arg with
  | one x => exact Normalized.broadcast_of_single h hn
  | many xs => exact ⟨A, Normalized.broadcast_of_length_eq ((length_normalized_of_toList name h).trans hfit), h⟩

end Argument

/-! ### The checks of a registration -/

section Checks

variable {strings : OneOrMany String} {targets : OneOrMany EntityRef} {specs : OneOrMany EntitySpec}
  {metadata : List Metadata} {P : Batch String} {T : Batch EntityRef} {Sp : Batch EntitySpec}

/-- The extents a registration checks, for its three normalised arguments. -/
theorem canonicalLength_registration_eq_ok_iff (hP : P.toList = strings.toList) (hT : T.toList = targets.toList)
    (hS : Sp.toList = specs.toList) {n : Nat} :
    canonicalLength [Extent.of ⟨"primary_strings", P, strings.isSingular⟩ .ifSingular,
        Extent.of ⟨"target_entity_refs", T, targets.isSingular⟩ .ifSingular,
        Extent.of ⟨"entity_specs", Sp, specs.isSingular⟩ .ifSingular] = .ok n ↔
      strings.Fits n ∧ targets.Fits n ∧ specs.Fits n ∧
        (strings.isSingular = true → targets.isSingular = true → specs.isSingular = true → n = 1) := by
  rw [canonicalLength_eq_ok_iff, fits_iff_extent "primary_strings" hP, fits_iff_extent "target_entity_refs" hT,
    fits_iff_extent "entity_specs" hS]
  simp only [List.mem_cons, List.not_mem_nil, or_false, forall_eq_or_imp, forall_eq, and_imp, and_assoc,
    broadcastable_ifSingular "primary_strings" hP, broadcastable_ifSingular "target_entity_refs" hT,
    broadcastable_ifSingular "entity_specs" hS]

theorem metadata_fits_of_metadataRecords {len : Nat} {records : Option (Batch Metadata)}
    (h : metadataRecords len metadata = .ok records) : metadata = [] ∨ metadata.length = len := by
  obtain ⟨hrecords, hlen⟩ := metadataRecords_eq_ok h
  cases metadata with
  | nil => exact .inl rfl
  | cons r rs =>
    obtain ⟨b, hb, htoList⟩ := Batch.ofList?_of_ne_nil (List.cons_ne_nil r rs)
    rw [hb] at hrecords
    rw [← htoList]
    exact .inr (hlen b hrecords)

theorem metadataRecords_of_length_ne {len : Nat} (hm : metadata ≠ []) (hlen : metadata.length ≠ len) :
    metadataRecords len metadata =
      .error (.cardinality (.exactMismatch "target_entity_refs" len "metadata" metadata.length)) := by
  obtain ⟨b, hb, htoList⟩ := Batch.ofList?_of_ne_nil hm
  have hb_len : b.length = metadata.length := by rw [Batch.length, htoList]
  have hreq : requireEqual (Extent.new "target_entity_refs" len false) (Extent.new "metadata" metadata.length false) =
      .error (.exactMismatch "target_entity_refs" len "metadata" metadata.length) :=
    requireEqual_of_len_ne (by simp only [Extent.len_new]; omega)
  simp [metadataRecords, hb, hreq, lengths, hb_len, Except.map]

theorem metadataRecords_of_fits {len : Nat} (h : metadata = [] ∨ metadata.length = len) :
    ∃ records, metadataRecords len metadata = .ok records := by
  rcases h with rfl | h
  · exact ⟨none, rfl⟩
  · cases hb : Batch.ofList? metadata with
    | none => exact ⟨none, by simp [metadataRecords, hb]⟩
    | some b =>
      have hb_len : len = b.length := by rw [Batch.length, (Batch.ofList?_eq_some.mp hb).1, h]
      have hreq : requireEqual (Extent.new "target_entity_refs" len false) (Extent.new "metadata" b.length false) =
          .ok len :=
        requireEqual_of_len_eq hb_len
      exact ⟨some b, by simp [metadataRecords, hb, hreq, lengths, Except.map]⟩

/-- Passed checks give a length that the arguments agree on and the metadata matches. -/
theorem agreeOn_of_registerArguments_eq_ok {plan : Registration}
    (h : registerArguments strings targets specs metadata = .ok plan) :
    AgreeOn plan.length strings targets specs ∧ (metadata = [] ∨ metadata.length = plan.length) := by
  simp only [registerArguments, Except.bind_eq_ok, lengths_eq_ok] at h
  obtain ⟨p, hp, t, ht, s, hs, len, hlen, records, hrecords, p', -, t', -, s', -, h⟩ := h
  cases h
  obtain ⟨P, hP, rfl⟩ := eq_mk_of_normalized_eq_ok hp
  obtain ⟨T, hT, rfl⟩ := eq_mk_of_normalized_eq_ok ht
  obtain ⟨Sp, hS, rfl⟩ := eq_mk_of_normalized_eq_ok hs
  obtain ⟨hfp, hft, hfs, hone⟩ := (canonicalLength_registration_eq_ok_iff hP hT hS).mp hlen
  have hpos : 0 < len := canonicalLength_pos hlen (by simp [Normalized.length_pos])
  exact ⟨⟨hfp, hft, hfs, hpos, hone⟩, metadata_fits_of_metadataRecords hrecords⟩

/-- Arguments that agree on a length that the metadata matches pass the checks, brought to
that length. -/
theorem registerArguments_of_agreeOn {n : Nat} (hagree : AgreeOn n strings targets specs)
    (hm : metadata = [] ∨ metadata.length = n) :
    ∃ plan, registerArguments strings targets specs metadata = .ok plan ∧ plan.length = n ∧
      plan.strings.toList = strings.expand n ∧ plan.targets.toList = targets.expand n ∧
      plan.specs.toList = specs.expand n := by
  obtain ⟨P, hP, hp⟩ := normalized_of_ne_nil "primary_strings" (OneOrMany.ne_nil_of_fits hagree.pos hagree.strings_fit)
  obtain ⟨T, hT, ht⟩ := normalized_of_ne_nil "target_entity_refs" (OneOrMany.ne_nil_of_fits hagree.pos hagree.targets_fit)
  obtain ⟨Sp, hS, hs⟩ := normalized_of_ne_nil "entity_specs" (OneOrMany.ne_nil_of_fits hagree.pos hagree.specs_fit)
  have hlen := (canonicalLength_registration_eq_ok_iff hP hT hS).mpr
    ⟨hagree.strings_fit, hagree.targets_fit, hagree.specs_fit, hagree.one_of_singular⟩
  obtain ⟨records, hrecords⟩ := metadataRecords_of_fits hm
  obtain ⟨P', hbP, hP'⟩ := broadcast_of_fits "primary_strings" hP hagree.strings_fit hagree.pos
  obtain ⟨T', hbT, hT'⟩ := broadcast_of_fits "target_entity_refs" hT hagree.targets_fit hagree.pos
  obtain ⟨S', hbS, hS'⟩ := broadcast_of_fits "entity_specs" hS hagree.specs_fit hagree.pos
  refine ⟨⟨n, P', T', S', records⟩, ?_, rfl, hP', hT', hS'⟩
  simp only [registerArguments, Except.bind_eq_ok, lengths_eq_ok]
  exact ⟨_, hp, _, ht, _, hs, n, hlen, records, hrecords, P', hbP, T', hbT, S', hbS, rfl⟩

/-- Checks fail at the first empty sequence, in argument order. -/
theorem registerArguments_of_strings_eq_nil (h : strings.toList = []) :
    registerArguments strings targets specs metadata = .error (.shape (.empty "primary_strings")) := by
  simp only [registerArguments, normalized_of_toList_eq_nil _ h]
  rfl

theorem registerArguments_of_targets_eq_nil (hp : strings.toList ≠ []) (h : targets.toList = []) :
    registerArguments strings targets specs metadata = .error (.shape (.empty "target_entity_refs")) := by
  obtain ⟨P, -, hnp⟩ := normalized_of_ne_nil "primary_strings" hp
  simp only [registerArguments, hnp, normalized_of_toList_eq_nil _ h]
  rfl

theorem registerArguments_of_specs_eq_nil (hp : strings.toList ≠ []) (ht : targets.toList ≠ []) (h : specs.toList = []) :
    registerArguments strings targets specs metadata = .error (.shape (.empty "entity_specs")) := by
  obtain ⟨P, -, hnp⟩ := normalized_of_ne_nil "primary_strings" hp
  obtain ⟨T, -, hnt⟩ := normalized_of_ne_nil "target_entity_refs" ht
  simp only [registerArguments, hnp, hnt, normalized_of_toList_eq_nil _ h]
  rfl

/-- Sequences that fit no common length are reported with all three arguments and their lengths. -/
theorem registerArguments_of_disagree (hp : strings.toList ≠ []) (ht : targets.toList ≠ []) (hs : specs.toList ≠ [])
    (hfit : ∀ n, ¬(strings.Fits n ∧ targets.Fits n ∧ specs.Fits n)) :
    registerArguments strings targets specs metadata =
      .error (.cardinality (.mismatch [("primary_strings", strings.toList.length),
        ("target_entity_refs", targets.toList.length), ("entity_specs", specs.toList.length)])) := by
  obtain ⟨P, hP, hnp⟩ := normalized_of_ne_nil "primary_strings" hp
  obtain ⟨T, hT, hnt⟩ := normalized_of_ne_nil "target_entity_refs" ht
  obtain ⟨Sp, hS, hns⟩ := normalized_of_ne_nil "entity_specs" hs
  have hdisagree : ¬∃ len, ∀ e ∈ [Extent.of ⟨"primary_strings", P, strings.isSingular⟩ .ifSingular,
      Extent.of ⟨"target_entity_refs", T, targets.isSingular⟩ .ifSingular,
      Extent.of ⟨"entity_specs", Sp, specs.isSingular⟩ .ifSingular], e.broadcastable = false → e.len = len := by
    rintro ⟨n, hn⟩
    exact hfit n ⟨(fits_iff_extent "primary_strings" hP).mpr (hn _ (by simp)),
      (fits_iff_extent "target_entity_refs" hT).mpr (hn _ (by simp)),
      (fits_iff_extent "entity_specs" hS).mpr (hn _ (by simp))⟩
  have hlen := canonicalLength_of_disagree hdisagree
  simp only [List.map_cons, List.map_nil, Extent.name_of, Extent.len_of, length_normalized_of_toList _ hP,
    length_normalized_of_toList _ hT, length_normalized_of_toList _ hS] at hlen
  simp only [registerArguments, hnp, hnt, hns, Bind.bind, Except.bind, lengths, hlen, Except.mapError_error]

/-- Metadata of another count than the length the arguments agree on is reported with both counts. -/
theorem registerArguments_of_metadata_length_ne {n : Nat} (hagree : AgreeOn n strings targets specs)
    (hm : metadata ≠ []) (hlen : metadata.length ≠ n) :
    registerArguments strings targets specs metadata =
      .error (.cardinality (.exactMismatch "target_entity_refs" n "metadata" metadata.length)) := by
  obtain ⟨P, hP, hnp⟩ := normalized_of_ne_nil "primary_strings" (OneOrMany.ne_nil_of_fits hagree.pos hagree.strings_fit)
  obtain ⟨T, hT, hnt⟩ := normalized_of_ne_nil "target_entity_refs" (OneOrMany.ne_nil_of_fits hagree.pos hagree.targets_fit)
  obtain ⟨Sp, hS, hns⟩ := normalized_of_ne_nil "entity_specs" (OneOrMany.ne_nil_of_fits hagree.pos hagree.specs_fit)
  have hcanon := (canonicalLength_registration_eq_ok_iff hP hT hS).mpr
    ⟨hagree.strings_fit, hagree.targets_fit, hagree.specs_fit, hagree.one_of_singular⟩
  simp only [registerArguments, hnp, hnt, hns, Bind.bind, Except.bind, lengths, hcanon, Except.mapError_ok,
    metadataRecords_of_length_ne hm hlen]

end Checks

/-! ### The registration -/

section Registration

variable (m : Manager) {S : Type} (answer : {β : Type} → Request σ ε β → S → Except ε β × S)
  (strings : OneOrMany String) (targets : OneOrMany EntityRef) (specs : OneOrMany EntitySpec)
  (context : Context σ) (metadata : List Metadata) (s : S)

/-- A registration whose checks pass first registers the batches they give. -/
theorem observe_registerWithMetadata_head {plan : Registration}
    (h : registerArguments strings targets specs metadata = .ok plan) :
    ((m.registerWithMetadata strings targets specs context metadata : Program σ ε _).observe answer s).2.2.head? =
      some ⟨.register plan.strings plan.targets plan.specs context m.session,
        (answer (.register plan.strings plan.targets plan.specs context m.session) s).1⟩ := by
  rcases hr : answer (.register plan.strings plan.targets plan.specs context m.session) s with ⟨reply, s₁⟩
  cases reply with
  | error e => rw [observe_registerWithMetadata_of_register_error m answer _ _ _ _ _ s h hr]; rfl
  | ok refs => rw [observe_registerWithMetadata_of_registered m answer _ _ _ _ _ s h hr]; rfl

/-- A registration reaches the back-end exactly when its arguments agree on a length that the
metadata matches, with each single value repeated to it; otherwise the first failed check is
the error. -/
theorem registerWithMetadata_broadcasts :
    let run := (m.registerWithMetadata strings targets specs context metadata : Program σ ε _).observe answer s
    (run.2.2 ≠ [] ↔ ∃ n, AgreeOn n strings targets specs ∧ (metadata = [] ∨ metadata.length = n)) ∧
    (∀ n, AgreeOn n strings targets specs → (metadata = [] ∨ metadata.length = n) →
      ∃ (P : Batch String) (T : Batch EntityRef) (Sp : Batch EntitySpec),
        P.toList = strings.expand n ∧ T.toList = targets.expand n ∧ Sp.toList = specs.expand n ∧
        run.2.2.head? = some ⟨.register P T Sp context m.session, (answer (.register P T Sp context m.session) s).1⟩) ∧
    (strings.toList = [] → run = (.error (.shape (.empty "primary_strings")), s, [])) ∧
    (strings.toList ≠ [] → targets.toList = [] → run = (.error (.shape (.empty "target_entity_refs")), s, [])) ∧
    (strings.toList ≠ [] → targets.toList ≠ [] → specs.toList = [] →
      run = (.error (.shape (.empty "entity_specs")), s, [])) ∧
    (strings.toList ≠ [] → targets.toList ≠ [] → specs.toList ≠ [] →
      (∀ n, ¬(strings.Fits n ∧ targets.Fits n ∧ specs.Fits n)) →
      run = (.error (.cardinality (.mismatch [("primary_strings", strings.toList.length),
        ("target_entity_refs", targets.toList.length), ("entity_specs", specs.toList.length)])), s, [])) ∧
    (∀ n, AgreeOn n strings targets specs → metadata ≠ [] → metadata.length ≠ n →
      run = (.error (.cardinality (.exactMismatch "target_entity_refs" n "metadata" metadata.length)), s, [])) := by
  intro run
  have rejected : ∀ reason, registerArguments strings targets specs metadata = .error reason →
      run = (.error (.ofRejection reason), s, []) := fun reason h =>
    observe_registerWithMetadata_of_error m answer strings targets specs context metadata s h
  refine ⟨⟨fun hrun => ?_, fun ⟨n, hagree, hm⟩ => ?_⟩, fun n hagree hm => ?_,
    fun h => rejected _ (registerArguments_of_strings_eq_nil h),
    fun hp h => rejected _ (registerArguments_of_targets_eq_nil hp h),
    fun hp ht h => rejected _ (registerArguments_of_specs_eq_nil hp ht h),
    fun hp ht hs hfit => rejected _ (registerArguments_of_disagree hp ht hs hfit),
    fun n hagree hm hlen => rejected _ (registerArguments_of_metadata_length_ne hagree hm hlen)⟩
  -- a run that asked the back-end something passed its checks
  · cases hplan : registerArguments strings targets specs metadata with
    | error reason => exact absurd (by rw [rejected reason hplan]) hrun
    | ok plan => exact ⟨plan.length, agreeOn_of_registerArguments_eq_ok hplan⟩
  · obtain ⟨plan, hplan, -⟩ := registerArguments_of_agreeOn hagree hm
    intro hnil
    have hhead : run.2.2.head? = _ :=
      observe_registerWithMetadata_head m answer strings targets specs context metadata s hplan
    rw [hnil] at hhead
    cases hhead
  · obtain ⟨plan, hplan, rfl, hP, hT, hS⟩ := registerArguments_of_agreeOn hagree hm
    exact ⟨plan.strings, plan.targets, plan.specs, hP, hT, hS,
      observe_registerWithMetadata_head m answer strings targets specs context metadata s hplan⟩

end Registration

end Manager

end AssetBroker
