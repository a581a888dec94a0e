import AssetBroker.Proofs.Exchanges

/-! The life of a context. Creating one makes a single request for fresh back-end
state, passing the parent's state if there is one, and the new context keeps the
parent's access, retention and locale (the defaults without a parent) but carries
the new state, never the parent's. Transactions and freezing act on a context's
state: without state they ask nothing and succeed, with state they make one
request for it. Thawing a token makes one request and gives a default context
with the restored state. So with a back-end that thaws what it froze, freezing
and thawing keeps a context's state and nothing else. -/

namespace AssetBroker.Manager

open Program

variable {σ ε β γ : Type} (m : Manager)

/-- An operation on a context's state: for a context without state it asks nothing and
answers `idle`; for a context with state `st` it makes the one request `request st`, and
answers the back-end's reply through `reply`, or its failure as it is. -/
structure ActsOnState (op : Context σ → Program σ ε (Except ε β)) (request : σ → Request σ ε γ) (idle : β)
    (reply : γ → β) : Prop where
  stateless : ∀ c : Context σ, c.state = none →
    ∀ {S : Type} (answer : {δ : Type} → Request σ ε δ → S → Except ε δ × S) (s : S),
      (op c).observe answer s = (.ok idle, s, [])
  stateful : ∀ (c : Context σ) (st : σ), c.state = some st →
    ∀ {S : Type} (answer : {δ : Type} → Request σ ε δ → S → Except ε δ × S) (s : S),
      (op c).observe answer s =
        ((answer (request st) s).1.map reply, (answer (request st) s).2, [⟨request st, (answer (request st) s).1⟩])

variable {S : Type} (answer : {δ : Type} → Request σ ε δ → S → Except ε δ × S)

theorem actsOnState_transaction {op : Context σ → Program σ ε (Except ε Unit)} {request : σ → Request σ ε Unit}
    (h : ∀ c, op c = match c.state with
      | some st => forward (request st)
      | none => .done (.ok ())) :
    ActsOnState op request () id where
  stateless c hc _ answer s := by rw [h c, hc]; rfl
  stateful c st hc _ answer s := by rw [h c, hc, observe_forward, Except.map_id]; rfl

theorem startTransaction_actsOnState :
    ActsOnState (m.startTransaction : Context σ → Program σ ε _) (.startTransaction · m.session) () id :=
  actsOnState_transaction fun _ => rfl

theorem finishTransaction_actsOnState :
    ActsOnState (m.finishTransaction : Context σ → Program σ ε _) (.finishTransaction · m.session) () id :=
  actsOnState_transaction fun _ => rfl

theorem cancelTransaction_actsOnState :
    ActsOnState (m.cancelTransaction : Context σ → Program σ ε _) (.cancelTransaction · m.session) () id :=
  actsOnState_transaction fun _ => rfl

/-- Freezing answers the back-end's token for the context's state, and nothing for a context
without state. -/
theorem freezeContext_actsOnState :
    ActsOnState (m.freezeContext : Context σ → Program σ ε _) (.freezeState · m.session) none some where
  stateless c hc _ answer s := by simp [freezeContext, hc]
  stateful c st hc _ answer s := by simp [freezeContext, hc, observe_bind]

/-- A new context: its parent's access, retention and locale, or the defaults without a
parent, and the state the back-end made, asked for with the parent's state. -/
theorem observe_createContext (parent : Option (Context σ)) (s : S) :
    let q := Request.createState m.session (parent.bind (·.state))
    (m.createContext parent : Program σ ε _).observe answer s =
      ((answer q s).1.map fun st =>
          { access := (parent.map (·.access)).getD .read, retention := (parent.map (·.retention)).getD .transient,
            locale := parent.bind (·.locale), state := st },
        (answer q s).2, [⟨q, (answer q s).1⟩]) := by
  cases parent <;> simp [createContext, observe_bind]

/-- Thawing makes one request and puts the restored state in a default context. -/
theorem observe_thawContext (token : String) (s : S) :
    let q := Request.thawState token m.session
    (m.thawContext token : Program σ ε _).observe answer s =
      ((answer q s).1.map fun st =>
          { access := .read, retention := .transient, locale := none, state := some st },
        (answer q s).2, [⟨q, (answer q s).1⟩]) := by
  simp [thawContext, observe_bind]

/-- With a back-end that thaws what it froze, thawing the token of a frozen context gives a
default context with the same state. -/
theorem thawContext_of_freezeContext
    (hinv : ∀ (st : σ) (s s' : S) (token : String), answer (.freezeState st m.session) s = (.ok token, s') →
      (answer (.thawState token m.session) s').1 = .ok st)
    {c : Context σ} {st : σ} (hc : c.state = some st) {s : S} {token : String}
    (hfreeze : ((m.freezeContext c : Program σ ε _).observe answer s).1 = .ok (some token)) :
    ((m.thawContext token : Program σ ε _).observe answer ((m.freezeContext c).observe answer s).2.1).1 =
      .ok { access := .read, retention := .transient, locale := none, state := c.state } := by
  have hobs := (freezeContext_actsOnState m).stateful c st hc answer s
  rw [hobs] at hfreeze ⊢
  -- the freeze request answered the token itself
  have hreply : (answer (.freezeState st m.session) s).1 = .ok token := by
    cases hr : (answer (.freezeState st m.session) s).1 with
    | ok t => rw [hr] at hfreeze; cases hfreeze; rfl
    | error e => rw [hr] at hfreeze; cases hfreeze
  have hthaw := hinv st s (answer (.freezeState st m.session) s).2 token (by rw [← hreply])
  simp [observe_thawContext, hthaw, hc, Except.map]

/-- The life of a context under every back-end; freezing then thawing keeps the state and
nothing else. -/
theorem context_lifecycle :
    (∀ (parent : Option (Context σ)) (s : S),
      let q := Request.createState m.session (parent.bind (·.state))
      (m.createContext parent : Program σ ε _).observe answer s =
        ((answer q s).1.map fun st =>
            { access := (parent.map (·.access)).getD .read, retention := (parent.map (·.retention)).getD .transient,
              locale := parent.bind (·.locale), state := st },
          (answer q s).2, [⟨q, (answer q s).1⟩])) ∧
    ActsOnState (m.startTransaction : Context σ → Program σ ε _) (.startTransaction · m.session) () id ∧
    ActsOnState (m.finishTransaction : Context σ → Program σ ε _) (.finishTransaction · m.session) () id ∧
    ActsOnState (m.cancelTransaction : Context σ → Program σ ε _) (.cancelTransaction · m.session) () id ∧
    ActsOnState (m.freezeContext : Context σ → Program σ ε _) (.freezeState · m.session) none some ∧
    (∀ (token : String) (s : S),
      let q := Request.thawState token m.session
      (m.thawContext token : Program σ ε _).observe answer s =
        ((answer q s).1.map fun st =>
            { access := .read, retention := .transient, locale := none, state := some st },
          (answer q s).2, [⟨q, (answer q s).1⟩])) ∧
    ((∀ (st : σ) (s s' : S) (token : String), answer (.freezeState st m.session) s = (.ok token, s') →
        (answer (.thawState token m.session) s').1 = .ok st) →
      ∀ (c : Context σ) (st : σ), c.state = some st → ∀ (s : S) (token : String),
        ((m.freezeContext c : Program σ ε _).observe answer s).1 = .ok (some token) →
        ((m.thawContext token : Program σ ε _).observe answer ((m.freezeContext c).observe answer s).2.1).1 =
          .ok { access := .read, retention := .transient, locale := none, state := c.state }) :=
  ⟨m.observe_createContext answer, m.startTransaction_actsOnState, m.finishTransaction_actsOnState,
    m.cancelTransaction_actsOnState, m.freezeContext_actsOnState, m.observe_thawContext answer,
    fun hinv _ _ hc _ _ hfreeze => m.thawContext_of_freezeContext answer hinv hc hfreeze⟩

/-- A back-end whose token for a state is the state itself thaws what it froze: a context
frozen and thawed there keeps its state and loses its access and retention. -/
theorem frozen_context_keeps_its_state :
    let m : Manager := ⟨⟨⟨{ identifier := "host", displayName := "Host" }⟩⟩⟩
    let echo : {β : Type} → Request String String β → Unit → Except String β × Unit := fun q s =>
      match q with
      | .freezeState st _ => (.ok st, s)
      | .thawState token _ => (.ok token, s)
      | _ => (.error "unsupported", s)
    let c : Context String := { access := .write, retention := .permanent, state := some "draft" }
    (∀ (st : String) (s s' : Unit) (token : String), echo (.freezeState st m.session) s = (.ok token, s') →
        (echo (.thawState token m.session) s').1 = .ok st) ∧
      ((m.freezeContext c : Program String String _).observe echo ()).1 = .ok (some "draft") ∧
      ((m.thawContext "draft" : Program String String _).observe echo
          ((m.freezeContext c : Program String String _).observe echo ()).2.1).1 =
        .ok { access := .read, retention := .transient, locale := none, state := c.state } := by
  intro m echo c
  have hinv : ∀ (st : String) (s s' : Unit) (token : String), echo (.freezeState st m.session) s = (.ok token, s') →
      (echo (.thawState token m.session) s').1 = .ok st := by
    intro st s s' token h
    simp only [echo, Prod.mk.injEq, Except.ok.injEq] at h
    rw [← h.1]
  exact ⟨hinv, rfl, (context_lifecycle m echo).2.2.2.2.2.2 hinv c "draft" rfl () "draft" rfl⟩

end AssetBroker.Manager
