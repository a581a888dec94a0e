import AssetBroker.Proofs.Operation
import AssetBroker.Proofs.Contract

/-! The manager's trace against what the back-end saw. A program's journal keeps
its trace events and its exchanges with the back-end in the order they happen;
dropping the exchanges gives the trace of `Program.run`, dropping the events gives
the exchanges of `Program.observe`. In every operation, each request is announced
by one debug event just before it is made, naming the back-end operation and, for
a request with batches, the number of items it delegates; a call refused before
reaching the back-end ends with one warning naming the manager operation, and
nothing else is emitted. -/

namespace AssetBroker

/-- An entry of a program's journal: a trace event, or an exchange with the back-end. -/
inductive Entry (σ ε : Type) : Type 1 where
  | event (e : Event)
  | exchange (x : Exchange σ ε)

namespace Entry

variable {σ ε : Type}

def event? : Entry σ ε → Option Event
  | .event e => some e
  | .exchange _ => none

def exchange? : Entry σ ε → Option (Exchange σ ε)
  | .event _ => none
  | .exchange x => some x

@[simp] theorem event?_event (e : Event) : (event e : Entry σ ε).event? = some e := rfl

@[simp] theorem event?_exchange (x : Exchange σ ε) : (exchange x).event? = none := rfl

@[simp] theorem exchange?_event (e : Event) : (event e : Entry σ ε).exchange? = none := rfl

@[simp] theorem exchange?_exchange (x : Exchange σ ε) : (exchange x).exchange? = some x := rfl

theorem filterMap_event?_map_event (l : List Event) : (l.map event : List (Entry σ ε)).filterMap event? = l := by
  rw [List.filterMap_map]
  exact List.filterMap_some

end Entry

namespace Program

variable {σ ε α β : Type} {S : Type} (answer : {β : Type} → Request σ ε β → S → Except ε β × S)

/-- The result, the back-end's final state, and the events and exchanges of a program
run against `answer`, interleaved in the order they happen. -/
def journal : Program σ ε α → S → α × S × List (Entry σ ε)
  | .done a, s => (a, s, [])
  | .emit e next, s =>
    let rest := next.journal s
    (rest.1, rest.2.1, .event e :: rest.2.2)
  | .call q next, s =>
    let reply := answer q s
    let rest := (next reply.1).journal reply.2
    (rest.1, rest.2.1, .exchange ⟨q, reply.1⟩ :: rest.2.2)

@[simp] theorem journal_done (a : α) (s : S) : (done a : Program σ ε α).journal answer s = (a, s, []) := rfl

@[simp] theorem journal_emit (e : Event) (next : Program σ ε α) (s : S) :
    (emit e next).journal answer s =
      ((next.journal answer s).1, (next.journal answer s).2.1, .event e :: (next.journal answer s).2.2) := rfl

@[simp] theorem journal_call (q : Request σ ε β) (next : Except ε β → Program σ ε α) (s : S) :
    (call q next).journal answer s =
      (((next (answer q s).1).journal answer (answer q s).2).1,
        ((next (answer q s).1).journal answer (answer q s).2).2.1,
        .exchange ⟨q, (answer q s).1⟩ :: ((next (answer q s).1).journal answer (answer q s).2).2.2) := rfl

/-- The exchanges of a run are its journal without the events. -/
theorem observe_eq_journal (p : Program σ ε α) (s : S) :
    p.observe answer s =
      ((p.journal answer s).1, (p.journal answer s).2.1, (p.journal answer s).2.2.filterMap Entry.exchange?) := by
  induction p generalizing s with
  | done a => rfl
  | emit e next ih => simp [ih, List.filterMap_cons]
  | call q next ih => simp [ih]

/-- The trace of a run is its journal without the exchanges. -/
theorem run_eq_journal (p : Program σ ε α) (s : S) :
    p.run answer s =
      ((p.journal answer s).1, (p.journal answer s).2.1, (p.journal answer s).2.2.filterMap Entry.event?) := by
  induction p generalizing s with
  | done a => rfl
  | emit e next ih => simp [run, ih]
  | call q next ih => simp [run, ih, List.filterMap_cons]

theorem journal_result (p : Program σ ε α) (s : S) : (p.journal answer s).1 = (p.observe answer s).1 := by
  rw [observe_eq_journal]

theorem journal_state (p : Program σ ε α) (s : S) : (p.journal answer s).2.1 = (p.observe answer s).2.1 := by
  rw [observe_eq_journal]

/-- A sequenced program journals its first part, then the rest. -/
theorem journal_bind (p : Program σ ε α) (f : α → Program σ ε β) (s : S) :
    (p.bind f).journal answer s =
      ((f (p.journal answer s).1).journal answer (p.journal answer s).2.1 |>.1,
        (f (p.journal answer s).1).journal answer (p.journal answer s).2.1 |>.2.1,
        (p.journal answer s).2.2 ++ ((f (p.journal answer s).1).journal answer (p.journal answer s).2.1).2.2) := by
  induction p generalizing s with
  | done a => simp
  | emit e next ih => simp [ih]
  | call q next ih => simp [ih]

end Program

namespace Request

variable {σ β : Type}

/-- The number of items a request delegates, for a request with batches: the length of
its batch, the common length of paired batches (the first one's, which the others share,
see `Request.Paired`), and the longer length for related references. -/
def count? : Request σ ε β → Option Nat
  | .prefetch r _ _ | .isEntityReference r _ _ | .entityExists r _ _ | .resolveEntityReference r _ _
  | .defaultEntityReference r _ _ | .entityName r _ _ | .entityDisplayName r _ _ | .getEntityMetadata r _ _
  | .getEntityMetadataEntry r _ _ _ _ | .setEntityMetadataEntry r _ _ _ _ | .entityVersionName r _ _
  | .entityVersions r _ _ _ _ | .finalizedEntityVersion r _ _ _ | .managementPolicy r _ _ _
  | .setRelatedReferences _ _ r _ _ _ => some r.length
  | .register strings _ _ _ _ => some strings.length
  | .preflight targets _ _ _ => some targets.length
  | .setEntityMetadata refs _ _ _ _ => some refs.length
  | .getRelatedReferences refs relationships _ _ _ => some (max refs.length relationships.length)
  | _ => none

end Request

namespace Manager

open Program

variable {σ ε α β γ : Type}

/-- The announcement of an exchange, then the exchange. -/
def announce (x : Exchange σ ε) : List (Entry σ ε) :=
  [.event (.delegating x.request.name x.request.count?), .exchange x]

theorem announce_events (x : Exchange σ ε) :
    (announce x).filterMap Entry.event? = [.delegating x.request.name x.request.count?] := rfl

/-- The warning that ends a call refused under the operation `op`, for the result it gave. -/
def warning (op : String) : Result ε β → List Event
  | .error (.shape e) => [.rejected op (.shape e)]
  | .error (.cardinality e) => [.rejected op (.cardinality e)]
  | _ => []

@[simp] theorem warning_ok (op : String) (b : β) : warning op (.ok b : Result ε β) = [] := rfl

@[simp] theorem warning_interface (op : String) (e : ε) : warning op (.error (.interface e) : Result ε β) = [] :=
  rfl

@[simp] theorem warning_ofRejection (op : String) (reason : Rejection) :
    warning op (.error (.ofRejection reason) : Result ε β) = [.rejected op reason] := by
  cases reason <;> rfl

/-- A program announces each request just before making it, and after its last step emits the
warnings `warn` gives for its result; it emits nothing else. -/
def Announces (warn : α → List Event) (p : Program σ ε α) : Prop :=
  ∀ (S : Type) (answer : {γ : Type} → Request σ ε γ → S → Except ε γ × S) (s : S),
    (p.journal answer s).2.2 = (p.observe answer s).2.2.flatMap announce ++ (warn (p.observe answer s).1).map .event

section Announces

variable {op : String}

theorem announces_done {warn : α → List Event} {a : α} (h : warn a = []) : Announces warn (.done a : Program σ ε α) := by
  intro S answer s
  simp [h]

theorem announces_reject (reason : Rejection) : Announces (warning op) (reject op reason : Program σ ε (Result ε β)) := by
  intro S answer s
  simp [reject]

theorem announces_validate {check : Except Rejection α} {next : α → Program σ ε (Result ε β)}
    (h : ∀ a, check = .ok a → Announces (warning op) (next a)) : Announces (warning op) (validate op check next) := by
  cases check with
  | error reason => exact announces_reject reason
  | ok a => exact h a rfl

theorem announces_delegate {n : Nat} {q : Request σ ε β} (h : q.count? = some n) :
    Announces (warning op) (delegate n q : Program σ ε (Result ε β)) := by
  intro S answer s
  cases hr : (answer q s).1 <;> simp [delegate, announce, h, hr]

theorem announces_forward {q : Request σ ε β} (h : q.count? = none) :
    Announces (fun _ => []) (forward q : Program σ ε (Except ε β)) := by
  intro S answer s
  simp [forward, announce, h]

/-- Sequencing after a first part that warns of nothing: its announcements, then the rest's. -/
theorem announces_bind {warn : α → List Event} {warn' : β → List Event} {p : Program σ ε α}
    {f : α → Program σ ε β} (hp : Announces warn p) (hwarn : ∀ a, warn a = []) (hf : ∀ a, Announces warn' (f a)) :
    Announces warn' (p.bind f) := by
  intro S answer s
  have hres := journal_result answer p s
  have hst := journal_state answer p s
  rw [journal_bind, observe_bind, hres, hst, hf, hp, hwarn]
  simp

section Sequence

variable {S : Type} (answer : {γ : Type} → Request σ ε γ → S → Except ε γ × S) {s : S}
  {p : Program σ ε (Result ε α)} {next : α → Program σ ε (Result ε β)}

theorem journal_andThen_error {e : ManagerError ε} (hp : (p.journal answer s).1 = .error e) :
    (andThen p next).journal answer s = (.error e, (p.journal answer s).2.1, (p.journal answer s).2.2) := by
  simp [andThen, journal_bind, hp]

theorem journal_andThen_ok {a : α} (hp : (p.journal answer s).1 = .ok a) :
    (andThen p next).journal answer s =
      (((next a).journal answer (p.journal answer s).2.1).1, ((next a).journal answer (p.journal answer s).2.1).2.1,
        (p.journal answer s).2.2 ++ ((next a).journal answer (p.journal answer s).2.1).2.2) := by
  simp [andThen, journal_bind, hp]

end Sequence

/-- Sequencing after a checked step: a refusal or failure of the first part ends the call
with that part's journal, and otherwise the rest follows. -/
theorem announces_andThen {p : Program σ ε (Result ε α)} {next : α → Program σ ε (Result ε β)}
    (hp : Announces (warning op) p) (hnext : ∀ a, Announces (warning op) (next a)) :
    Announces (warning op) (andThen p next) := by
  intro S answer s
  have hj := hp S answer s
  rcases hobs : p.observe answer s with ⟨r, s₁, xs⟩
  rw [hobs] at hj
  have hres : (p.journal answer s).1 = r := by rw [journal_result, hobs]
  have hst : (p.journal answer s).2.1 = s₁ := by rw [journal_state, hobs]
  cases r with
  | error e =>
    rw [journal_andThen_error answer hres, observe_andThen_error answer hobs, hj]
    -- the warning reads only the error, whatever the type of a success
    cases e <;> rfl
  | ok a =>
    rw [journal_andThen_ok answer hres, observe_andThen_ok answer hobs, hj, hst, hnext a S answer s₁]
    simp

end Announces

/-! ### Every operation -/

namespace Checked

/-- The manager operation's own name, under which a refused call is reported; both forms
of registration report as `register`. -/
def name : Checked σ α → String
  | .prefetch .. => "prefetch"
  | .isEntityReference .. => "is_entity_reference"
  | .entityExists .. => "entity_exists"
  | .resolveEntityReference .. => "resolve_entity_reference"
  | .defaultEntityReference .. => "default_entity_reference"
  | .entityName .. => "entity_name"
  | .entityDisplayName .. => "entity_display_name"
  | .getEntityMetadata .. => "get_entity_metadata"
  | .getEntityMetadataEntry .. => "get_entity_metadata_entry"
  | .setEntityMetadataEntry .. => "set_entity_metadata_entry"
  | .entityVersionName .. => "entity_version_name"
  | .entityVersions .. => "entity_versions"
  | .finalizedEntityVersion .. => "finalized_entity_version"
  | .managementPolicy .. => "management_policy"
  | .setRelatedReferences .. => "set_related_references"
  | .getRelatedReferences .. => "get_related_references"
  | .setEntityMetadata .. => "set_entity_metadata"
  | .preflight .. => "preflight"
  | .register .. | .registerWithMetadata .. => "register"

end Checked

variable (m : Manager)

theorem announces_singleBatch {op name : String} {arg : OneOrMany α} {request : Batch α → Request σ ε β}
    (h : ∀ b, (request b).count? = some b.length) :
    Announces (warning op) (singleBatch op name arg request : Program σ ε _) :=
  announces_validate fun n _ => announces_delegate (h n.batch)

theorem announces_attachMetadata (registered : List EntityRef) (records : Batch Metadata) (c : Context σ) :
    Announces (warning "register") (m.attachMetadata registered records c : Program σ ε _) := by
  refine announces_validate fun refs hrefs => announces_andThen (announces_delegate ?_) fun _ => announces_done rfl
  -- the metadata step counts the references the registration returned
  obtain ⟨htoList, -⟩ := registeredBatch_eq_ok hrefs
  show some refs.toList.length = some registered.length
  rw [htoList]

theorem announces_registerWithMetadata (strings : OneOrMany String) (targets : OneOrMany EntityRef)
    (specs : OneOrMany EntitySpec) (c : Context σ) (metadata : List Metadata) :
    Announces (warning "register") (m.registerWithMetadata strings targets specs c metadata : Program σ ε _) := by
  rw [registerWithMetadata_eq]
  refine announces_validate fun plan hplan => announces_andThen (announces_delegate ?_) fun registered => ?_
  · obtain ⟨hs, -⟩ := registerArguments_eq_ok hplan
    exact congrArg some hs
  · cases plan.records with
    | none => exact announces_done rfl
    | some records => exact m.announces_attachMetadata registered records c

/-- The related-references check gives the longer of the two lengths. -/
theorem canonicalLength_singleElement_eq_max {r : Normalized α} {s : Normalized β} {len : Nat}
    (h : canonicalLength [Extent.of r .ifSingleElement, Extent.of s .ifSingleElement] = .ok len) :
    len = max r.length s.length := by
  rw [canonicalLength_singleElement_ok (paired_of_canonicalLength h)] at h
  exact (Except.ok.inj h).symm

theorem Checked.announces (o : Checked σ α) : Announces (warning o.name) (o.program m : Program σ ε _) := by
  cases o
  case getRelatedReferences refs relationships c result? =>
    refine announces_validate fun r _ => announces_validate fun s _ => announces_validate fun len hlen =>
      announces_delegate ?_
    exact congrArg some (canonicalLength_singleElement_eq_max (lengths_eq_ok.mp hlen)).symm
  case setEntityMetadata refs data c merge =>
    refine announces_validate fun r _ => announces_validate fun d _ => announces_validate fun len hlen =>
      announces_delegate ?_
    exact congrArg some (requireEqual_eq_ok.mp (lengths_eq_ok.mp hlen)).2.symm
  case preflight targets specs c =>
    refine announces_validate fun t _ => announces_validate fun s _ => announces_validate fun len hlen =>
      announces_delegate ?_
    exact congrArg some (requireEqual_eq_ok.mp (lengths_eq_ok.mp hlen)).2.symm
  case register strings targets specs c => exact m.announces_registerWithMetadata strings targets specs c []
  case registerWithMetadata strings targets specs c metadata =>
    exact m.announces_registerWithMetadata strings targets specs c metadata
  -- the fifteen operations on one batch count their batch
  all_goals
    simp only [Checked.program, name]
    exact announces_singleBatch fun _ => rfl

theorem Forwarded.announces (o : Forwarded σ ε α) : Announces (fun _ => []) (o.program m : Program σ ε _) := by
  cases o
  all_goals simp only [Forwarded.program]
  case createContext parent => exact announces_bind (announces_forward rfl) (fun _ => rfl) fun _ => announces_done rfl
  case thawContext token => exact announces_bind (announces_forward rfl) (fun _ => rfl) fun _ => announces_done rfl
  -- operations on a context's state announce nothing for a context without state
  case freezeContext c =>
    simp only [Manager.freezeContext]
    split
    · exact announces_bind (announces_forward rfl) (fun _ => rfl) fun _ => announces_done rfl
    · exact announces_done rfl
  case startTransaction c | finishTransaction c | cancelTransaction c =>
    simp only [Manager.startTransaction, Manager.finishTransaction, Manager.cancelTransaction]
    split
    · exact announces_forward rfl
    · exact announces_done rfl
  all_goals exact announces_forward rfl

/-- The warnings that end an operation's call, for its result: a checked operation warns of a
refusal under its own name, a forwarding operation never warns. -/
def Operation.warning : (o : Operation σ ε) → o.Answer → List Event
  | .checked o => Manager.warning o.name
  | .forwarded _ => fun _ => []

theorem Operation.announces (o : Operation σ ε) :
    Announces o.warning (o.program m : Program σ ε o.Answer) := by
  cases o with
  | checked o => exact Checked.announces m o
  | forwarded o => exact Forwarded.announces m o

/-- The trace agrees with the back-end's record: one announcement just before each request,
and one final warning exactly when the call is refused. -/
theorem trace_agrees_with_calls (o : Operation σ ε) {S : Type}
    (answer : {β : Type} → Request σ ε β → S → Except ε β × S) (s : S) :
    ((o.program m).journal answer s).2.2 =
        ((o.program m).observe answer s).2.2.flatMap announce ++
          (o.warning ((o.program m).observe answer s).1).map .event ∧
      ((o.program m).run answer s).2.2 =
        ((o.program m).observe answer s).2.2.map (fun x => .delegating x.request.name x.request.count?) ++
          o.warning ((o.program m).run answer s).1 := by
  have hj := Operation.announces m o S answer s
  refine ⟨hj, ?_⟩
  rw [run_eq_journal, hj, journal_result, List.filterMap_append, List.filterMap_flatMap,
    Entry.filterMap_event?_map_event, List.map_eq_flatMap]
  simp only [announce_events]

end Manager

end AssetBroker
