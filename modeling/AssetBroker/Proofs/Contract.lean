import AssetBroker.Proofs.Operation
import AssetBroker.Proofs.Registration

/-! What a back-end may rely on in every request a manager makes: parallel batches
already paired, equal in length except that one side of a related-references query
may hold a single element, and the host's context and session passed on as given.
Batches are never empty, by their type. Each operation respects this whatever the
back-end answers, including a registration whose back-end returns any number of
references; hence every request of every run of a host's operations does. -/

namespace AssetBroker

namespace Request

variable {σ β : Type}

/-- The parallel batches of a request have lengths the back-end can pair up. -/
def Paired : Request σ ε β → Prop
  | .register strings targets specs _ _ => strings.length = targets.length ∧ targets.length = specs.length
  | .preflight targets specs _ _ => targets.length = specs.length
  | .setEntityMetadata refs data _ _ _ => refs.length = data.length
  | .getRelatedReferences refs relationships _ _ _ =>
    refs.length = relationships.length ∨ refs.length = 1 ∨ relationships.length = 1
  | _ => True

/-- The contract of a request made by a manager bound to `session`, during a call
whose host context is `context`. -/
structure Contract (session : HostSession) (context : Option (Context σ)) (q : Request σ ε β) : Prop where
  paired : q.Paired
  /-- A request that takes a context gets the host's. -/
  context_eq : ∀ c, q.context? = some c → context = some c
  /-- A request that takes a session gets the manager's. -/
  session_eq : ∀ h, q.session? = some h → h = session

theorem Contract.of_carries {session : HostSession} {c : Context σ} {q : Request σ ε β} (hp : q.Paired)
    (hc : q.context? = some c) (hs : q.session? = some session) : q.Contract session (some c) where
  paired := hp
  context_eq _ h := by rw [hc] at h; rw [h]
  session_eq _ h := by rw [hs] at h; exact (Option.some.inj h).symm

theorem Contract.of_session {session : HostSession} {context : Option (Context σ)} {q : Request σ ε β}
    (hp : q.Paired) (hc : q.context? = none) (hs : q.session? = some session) : q.Contract session context where
  paired := hp
  context_eq _ h := by rw [hc] at h; cases h
  session_eq _ h := by rw [hs] at h; exact (Option.some.inj h).symm

theorem Contract.of_plain {session : HostSession} {context : Option (Context σ)} {q : Request σ ε β}
    (hp : q.Paired) (hc : q.context? = none) (hs : q.session? = none) : q.Contract session context where
  paired := hp
  context_eq _ h := by rw [hc] at h; cases h
  session_eq _ h := by rw [hs] at h; cases h

end Request

namespace Manager

open Program Request

variable {σ ε α : Type} (m : Manager)

/-- Two arguments that pass the related-references check, each repeatable when it holds
one element, are as long as each other or one of them holds one element. -/
theorem paired_of_canonicalLength {β γ : Type} {r : Normalized β} {s : Normalized γ} {len : Nat}
    (h : canonicalLength [Extent.of r .ifSingleElement, Extent.of s .ifSingleElement] = .ok len) :
    r.length = s.length ∨ r.length = 1 ∨ s.length = 1 := by
  by_cases hr : r.length = 1
  · exact .inr (.inl hr)
  by_cases hs : s.length = 1
  · exact .inr (.inr hs)
  have hlr := canonicalLength_eq_ok h (List.mem_cons_self ..) (by simp [Extent.of, Extent.allows, hr])
  have hls := canonicalLength_eq_ok h (List.mem_cons_of_mem _ (List.mem_singleton_self _))
    (by simp [Extent.of, Extent.allows, hs])
  simp only [Extent.len_of] at hlr hls
  exact .inl (hlr.trans hls.symm)

theorem paired_of_requireEqual {β γ : Type} {r : Normalized β} {s : Normalized γ} {len : Nat}
    (h : requireEqual (Extent.of r .never) (Extent.of s .never) = .ok len) : r.length = s.length := by
  simpa using (requireEqual_eq_ok.mp h).1

/-- The second request of a registration pairs the returned references with the records. -/
theorem respects_attachMetadata (registered : List EntityRef) (records : Batch Metadata) (c : Context σ) :
    (m.attachMetadata registered records c : Program σ ε _).Respects (Contract m.session (some c)) := by
  refine respects_validate fun refs hrefs => respects_andThen (respects_delegate (.of_carries ?_ rfl rfl))
    fun _ => .done _
  obtain ⟨htoList, hlen⟩ := registeredBatch_eq_ok hrefs
  show refs.length = records.length
  rw [← hlen, ← htoList]
  rfl

theorem respects_registerWithMetadata (strings : OneOrMany String) (targets : OneOrMany EntityRef)
    (specs : OneOrMany EntitySpec) (c : Context σ) (metadata : List Metadata) :
    (m.registerWithMetadata strings targets specs c metadata : Program σ ε _).Respects
      (Contract m.session (some c)) := by
  rw [registerWithMetadata_eq]
  refine respects_validate fun plan hplan => respects_andThen (respects_delegate (.of_carries ?_ rfl rfl))
    fun registered => ?_
  · obtain ⟨hs, ht, hp, -⟩ := registerArguments_eq_ok hplan
    exact ⟨hs.trans ht.symm, ht.trans hp.symm⟩
  · cases plan.records with
    | none => exact .done _
    | some records => exact m.respects_attachMetadata registered records c

/-- Every request of a checked operation meets the contract for the context it was called in. -/
theorem Checked.respects_contract (o : Checked σ α) :
    (o.program m : Program σ ε _).Respects (Contract m.session (some o.context)) := by
  cases o
  case getRelatedReferences refs relationships c result? =>
    refine respects_validate fun r _ => respects_validate fun s _ => respects_validate fun len hlen =>
      respects_delegate (.of_carries ?_ rfl rfl)
    exact paired_of_canonicalLength (lengths_eq_ok.mp hlen)
  case setEntityMetadata refs data c merge =>
    refine respects_validate fun r _ => respects_validate fun d _ => respects_validate fun len hlen =>
      respects_delegate (.of_carries ?_ rfl rfl)
    exact paired_of_requireEqual (lengths_eq_ok.mp hlen)
  case preflight targets specs c =>
    refine respects_validate fun t _ => respects_validate fun s _ => respects_validate fun len hlen =>
      respects_delegate (.of_carries ?_ rfl rfl)
    exact paired_of_requireEqual (lengths_eq_ok.mp hlen)
  case register strings targets specs c => exact m.respects_registerWithMetadata strings targets specs c []
  case registerWithMetadata strings targets specs c metadata =>
    exact m.respects_registerWithMetadata strings targets specs c metadata
  -- the fifteen operations on one batch hand it on with the context and session
  all_goals
    simp only [Checked.program]
    exact respects_singleBatch fun _ => Contract.of_carries trivial rfl rfl

/-- Every request of a forwarding operation carries the manager's session, and a
thumbnail query the host's context. -/
theorem Forwarded.respects_contract (o : Forwarded σ ε α) :
    (o.program m : Program σ ε _).Respects (Contract m.session o.context?) := by
  cases o
  all_goals simp only [Forwarded.program]
  case identifier | displayName | info => exact respects_forward (Contract.of_plain trivial rfl rfl)
  case thumbnailSpecification spec c options => exact respects_forward (Contract.of_carries trivial rfl rfl)
  case createContext parent =>
    refine (respects_forward ?_).bind fun _ => .done _
    exact Contract.of_session trivial rfl rfl
  case thawContext token =>
    refine (respects_forward ?_).bind fun _ => .done _
    exact Contract.of_session trivial rfl rfl
  -- operations on a context's state ask nothing of a context without state
  case freezeContext c =>
    simp only [Manager.freezeContext]
    split
    · refine (respects_forward ?_).bind fun _ => .done _
      exact Contract.of_session trivial rfl rfl
    · exact .done _
  case startTransaction c | finishTransaction c | cancelTransaction c =>
    simp only [Manager.startTransaction, Manager.finishTransaction, Manager.cancelTransaction]
    split
    · exact respects_forward (Contract.of_session trivial rfl rfl)
    · exact .done _
  all_goals exact respects_forward (Contract.of_session trivial rfl rfl)

theorem Operation.respects_contract (o : Operation σ ε) :
    (o.program m : Program σ ε o.Answer).Respects (Contract m.session o.context?) := by
  cases o with
  | checked o => exact Checked.respects_contract m o
  | forwarded o => exact Forwarded.respects_contract m o

/-- Every request a back-end receives from a manager meets the contract, over every run of
operations and every back-end. -/
theorem perform_meets_contract {S : Type} (answer : {β : Type} → Request σ ε β → S → Except ε β × S)
    (ops : List (Operation σ ε)) (s : S) :
    ∀ step ∈ m.perform answer ops s, ∀ x ∈ step.2, x.request.Contract m.session step.1.context? :=
  m.perform_respects answer (fun o => Operation.respects_contract m o) ops s

/-- A registration of two entities under one specification, against a back-end that
fails every request: its one request pairs three batches of two. -/
theorem registration_request_meets_contract :
    let m : Manager := ⟨⟨⟨{ identifier := "host", displayName := "Host" }⟩⟩⟩
    let offline : {β : Type} → Request Unit String β → Unit → Except String β × Unit := fun _ s => (.error "offline", s)
    let op : Operation Unit String :=
      .checked (.register (.many ["a", "b"]) (.many [⟨"r1"⟩, ⟨"r2"⟩]) (.one { schema := "file" }) {})
    ∃ step ∈ m.perform offline [op] (), ∃ x ∈ step.2, x.request.Contract m.session step.1.context? := by
  intro m offline op
  exact ⟨_, List.mem_singleton_self _, _, List.mem_singleton_self _,
    perform_meets_contract m offline [op] () _ (List.mem_singleton_self _) _ (List.mem_singleton_self _)⟩

end Manager

end AssetBroker
