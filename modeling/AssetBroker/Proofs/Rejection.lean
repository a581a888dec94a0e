import AssetBroker.Proofs.Operation
import AssetBroker.Proofs.Registration
import AssetBroker.Script

/-! When a checked operation fails, its exchanges account for the failure. An
interface error is always the failure of the last request made. A rejection (an
argument that cannot be normalised, or lengths that do not pair) comes before any
request, with one exception: a registration with metadata checks the references
the back-end returned against the records only after registering, so a mismatch
there follows the one register request, and no metadata is written. -/

namespace AssetBroker.Manager

open Program

variable {σ ε α β : Type}

/-- A rejection of the program comes before any request. -/
def RejectsFirst (p : Program σ ε (Result ε β)) : Prop :=
  ∀ {S : Type} (answer : {γ : Type} → Request σ ε γ → S → Except ε γ × S) (s : S) (reason : Rejection),
    (p.observe answer s).1 = .error (.ofRejection reason) → (p.observe answer s).2.2 = []

/-- An interface error of the program is the failure of its last request. -/
def BlamesLast (p : Program σ ε (Result ε β)) : Prop :=
  ∀ {S : Type} (answer : {γ : Type} → Request σ ε γ → S → Except ε γ × S) (s : S) (e : ε),
    (p.observe answer s).1 = .error (.interface e) → (p.observe answer s).2.2.getLast?.bind Exchange.failure? = some e

theorem ofRejection_ne_interface (reason : Rejection) (e : ε) : ManagerError.ofRejection reason ≠ .interface e := by
  cases reason <;> simp [ManagerError.ofRejection]

/-- A delegated request answers with a rejection under no back-end. -/
theorem delegate_ne_rejection {S : Type} (answer : {γ : Type} → Request σ ε γ → S → Except ε γ × S) (s : S)
    (n : Nat) (q : Request σ ε β) (reason : Rejection) :
    ((delegate n q : Program σ ε (Result ε β)).observe answer s).1 ≠ .error (.ofRejection reason) := by
  cases h : (answer q s).1 with
  | ok b => simp [h]
  | error e => simpa [h] using (ofRejection_ne_interface reason e).symm

section RejectsFirst

theorem rejectsFirst_reject (op : String) (r : Rejection) : RejectsFirst (reject op r : Program σ ε (Result ε β)) :=
  fun _ _ _ _ => rfl

theorem rejectsFirst_validate {op : String} {check : Except Rejection α} {next : α → Program σ ε (Result ε β)}
    (h : ∀ a, check = .ok a → RejectsFirst (next a)) : RejectsFirst (validate op check next) := by
  cases check with
  | error r => exact rejectsFirst_reject op r
  | ok a => exact h a rfl

theorem rejectsFirst_delegate (n : Nat) (q : Request σ ε β) : RejectsFirst (delegate n q : Program σ ε _) :=
  fun answer s reason h => absurd h (delegate_ne_rejection answer s n q reason)

theorem rejectsFirst_singleBatch (op name : String) (arg : OneOrMany α) (request : Batch α → Request σ ε β) :
    RejectsFirst (singleBatch op name arg request : Program σ ε _) :=
  rejectsFirst_validate fun _ _ => rejectsFirst_delegate _ _

end RejectsFirst

section BlamesLast

theorem blamesLast_reject (op : String) (r : Rejection) : BlamesLast (reject op r : Program σ ε (Result ε β)) := by
  intro S answer s e h
  simp only [observe_reject, Except.error.injEq] at h
  exact absurd h (ofRejection_ne_interface r e)

theorem blamesLast_done (a : β) : BlamesLast (.done (.ok a) : Program σ ε (Result ε β)) := by
  intro S answer s e h
  simp at h

theorem blamesLast_validate {op : String} {check : Except Rejection α} {next : α → Program σ ε (Result ε β)}
    (h : ∀ a, check = .ok a → BlamesLast (next a)) : BlamesLast (validate op check next) := by
  cases check with
  | error r => exact blamesLast_reject op r
  | ok a => exact h a rfl

theorem blamesLast_delegate (n : Nat) (q : Request σ ε β) : BlamesLast (delegate n q : Program σ ε _) := by
  intro S answer s e h
  cases hq : (answer q s).1 with
  | ok b => simp [hq] at h
  | error e' =>
    simp only [observe_delegate, hq, Except.mapError_error, Except.error.injEq, ManagerError.interface.injEq] at h
    subst h
    simp [hq, Exchange.failure?]

/-- Sequencing keeps blame on the last request: an error of the second part comes
with a request of its own, which is the last of the whole. -/
theorem blamesLast_andThen {p : Program σ ε (Result ε α)} {next : α → Program σ ε (Result ε β)}
    (hp : BlamesLast p) (hnext : ∀ a, BlamesLast (next a)) : BlamesLast (andThen p next) := by
  intro S answer s e h
  rcases hobs : p.observe answer s with ⟨r, s₁, xs⟩
  cases r with
  | error e' =>
    rw [observe_andThen_error answer hobs] at h ⊢
    have he : e' = .interface e := by simpa using h
    subst he
    have hlast := hp answer s e (by rw [hobs])
    rwa [hobs] at hlast
  | ok a =>
    rw [observe_andThen_ok answer hobs] at h ⊢
    have hlast := hnext a answer s₁ e h
    cases hys : ((next a).observe answer s₁).2.2.getLast? with
    | none => simp [hys] at hlast
    | some x => simpa [List.getLast?_append, hys] using hlast

theorem blamesLast_singleBatch (op name : String) (arg : OneOrMany α) (request : Batch α → Request σ ε β) :
    BlamesLast (singleBatch op name arg request : Program σ ε _) :=
  blamesLast_validate fun _ _ => blamesLast_delegate _ _

end BlamesLast

variable (m : Manager)

theorem blamesLast_registerWithMetadata (strings : OneOrMany String) (targets : OneOrMany EntityRef)
    (specs : OneOrMany EntitySpec) (c : Context σ) (metadata : List Metadata) :
    BlamesLast (m.registerWithMetadata strings targets specs c metadata : Program σ ε _) := by
  rw [registerWithMetadata_eq]
  refine blamesLast_validate fun plan _ => blamesLast_andThen (blamesLast_delegate _ _) fun registered => ?_
  cases plan.records with
  | none => exact blamesLast_done _
  | some records =>
    exact blamesLast_validate fun _ _ => blamesLast_andThen (blamesLast_delegate _ _) fun _ => blamesLast_done _

theorem Checked.blamesLast (o : Checked σ α) : BlamesLast (o.program m : Program σ ε _) := by
  cases o
  case getRelatedReferences | setEntityMetadata | preflight =>
    exact blamesLast_validate fun _ _ => blamesLast_validate fun _ _ => blamesLast_validate fun _ _ =>
      blamesLast_delegate _ _
  case register strings targets specs c => exact blamesLast_registerWithMetadata m strings targets specs c []
  case registerWithMetadata strings targets specs c metadata =>
    exact blamesLast_registerWithMetadata m strings targets specs c metadata
  all_goals
    simp only [Checked.program]
    exact blamesLast_singleBatch _ _ _ _

/-- A registration rejects before registering, except when the references the back-end
returned do not match the metadata records in number. -/
theorem registerWithMetadata_rejection {S : Type} (answer : {γ : Type} → Request σ ε γ → S → Except ε γ × S)
    (strings : OneOrMany String) (targets : OneOrMany EntityRef) (specs : OneOrMany EntitySpec) (c : Context σ)
    (metadata : List Metadata) (s : S) (reason : Rejection)
    (h : ((m.registerWithMetadata strings targets specs c metadata : Program σ ε _).observe answer s).1 =
      .error (.ofRejection reason)) :
    ((m.registerWithMetadata strings targets specs c metadata : Program σ ε _).observe answer s).2.2 = [] ∨
      ∃ (refs : List EntityRef) (p : Batch String) (t : Batch EntityRef) (sp : Batch EntitySpec),
        metadata ≠ [] ∧ refs.length ≠ metadata.length ∧
        reason = .cardinality (.exactMismatch "registered_refs" refs.length "metadata" metadata.length) ∧
        ((m.registerWithMetadata strings targets specs c metadata : Program σ ε _).observe answer s).2.2 =
          [⟨.register p t sp c m.session, .ok refs⟩] := by
  cases hplan : registerArguments strings targets specs metadata with
  | error r => exact .inl (by rw [observe_registerWithMetadata_of_error m answer _ _ _ c _ s hplan])
  | ok plan =>
    -- after the checks pass, only the returned references can make for a rejection
    rcases hr : answer (.register plan.strings plan.targets plan.specs c m.session) s with ⟨reply, s₁⟩
    cases reply with
    | error e =>
      rw [observe_registerWithMetadata_of_register_error m answer _ _ _ c _ s hplan hr] at h
      exact absurd (Except.error.inj h) (ofRejection_ne_interface reason e).symm
    | ok refs =>
      by_cases hm : metadata = []
      · subst hm
        rw [observe_registerWithMetadata_of_no_metadata m answer _ _ _ c s hplan hr] at h
        cases h
      by_cases hlen : refs.length = metadata.length
      · obtain ⟨registered, records, -, -, hobs⟩ :=
          observe_registerWithMetadata_of_length_eq m answer _ _ _ c _ s hplan hr hm hlen
        rw [hobs] at h
        split at h
        · cases h
        · exact absurd (Except.error.inj h) (ofRejection_ne_interface reason _).symm
      · have hobs := observe_registerWithMetadata_of_length_ne m answer _ _ _ c _ s hplan hr hm hlen
        rw [hobs] at h ⊢
        have hreason : reason = .cardinality (.exactMismatch "registered_refs" refs.length "metadata" metadata.length) := by
          cases reason <;> simp_all [ManagerError.ofRejection]
        exact .inr ⟨refs, plan.strings, plan.targets, plan.specs, hm, hlen, hreason, rfl⟩

/-- A checked operation rejects before any request, except a registration with metadata
whose back-end returned a number of references other than that of the records. -/
theorem Checked.rejection {S : Type} (answer : {γ : Type} → Request σ ε γ → S → Except ε γ × S) (o : Checked σ α)
    (s : S) (reason : Rejection)
    (h : ((o.program m : Program σ ε _).observe answer s).1 = .error (.ofRejection reason)) :
    ((o.program m : Program σ ε _).observe answer s).2.2 = [] ∨
      ∃ (refs : List EntityRef) (strings : Batch String) (targets : Batch EntityRef) (specs : Batch EntitySpec),
        o.metadata ≠ [] ∧ refs.length ≠ o.metadata.length ∧
        reason = .cardinality (.exactMismatch "registered_refs" refs.length "metadata" o.metadata.length) ∧
        ((o.program m : Program σ ε _).observe answer s).2.2 = [⟨.register strings targets specs o.context m.session, .ok refs⟩] := by
  cases o
  case register strings targets specs c =>
    exact registerWithMetadata_rejection m answer strings targets specs c [] s reason h
  case registerWithMetadata strings targets specs c metadata =>
    exact registerWithMetadata_rejection m answer strings targets specs c metadata s reason h
  case getRelatedReferences | setEntityMetadata | preflight =>
    refine .inl (rejectsFirst_validate (fun _ _ => rejectsFirst_validate fun _ _ => rejectsFirst_validate fun _ _ =>
      rejectsFirst_delegate _ _) answer s reason h)
  all_goals
    simp only [Checked.program] at h ⊢
    exact .inl (rejectsFirst_singleBatch _ _ _ _ answer s reason h)

/-- A shape or length error comes before any request, except a registration's mismatch with the
references it got back; an interface error is the last request's failure. -/
theorem Checked.failures_accounted {S : Type} (answer : {γ : Type} → Request σ ε γ → S → Except ε γ × S)
    (o : Checked σ α) (s : S) :
    let run := (o.program m : Program σ ε _).observe answer s
    (∀ reason, run.1 = .error (.ofRejection reason) →
      run.2.2 = [] ∨
      ∃ (refs : List EntityRef) (strings : Batch String) (targets : Batch EntityRef) (specs : Batch EntitySpec),
        o.metadata ≠ [] ∧ refs.length ≠ o.metadata.length ∧
        reason = .cardinality (.exactMismatch "registered_refs" refs.length "metadata" o.metadata.length) ∧
        run.2.2 = [⟨.register strings targets specs o.context m.session, .ok refs⟩]) ∧
    (∀ e, run.1 = .error (.interface e) → run.2.2.getLast?.bind Exchange.failure? = some e) :=
  ⟨Checked.rejection m answer o s, Checked.blamesLast m o answer s⟩

/-- A registration of two entities with two records, whose scripted back-end answers
with one reference, is rejected for the mismatch after its one register request. -/
theorem registration_mismatch_after_register :
    let run := ((Checked.registerWithMetadata (.many ["p1", "p2"]) (.many [⟨"r1"⟩, ⟨"r2"⟩])
      (.one { schema := "core.entity.file" }) {}
      [Dict.ofList [("k", .string "v1")], Dict.ofList [("k", .string "v2")]]).program Script.manager :
        Program Scripted.Handle String _).observe
      (Scripted.answer .full { answers := [("register", .arr [.str "only"])] }) {}
    run.1 = .error (.cardinality (.exactMismatch "registered_refs" 1 "metadata" 2)) ∧ run.2.2.length = 1 :=
  ⟨rfl, rfl⟩

end AssetBroker.Manager
