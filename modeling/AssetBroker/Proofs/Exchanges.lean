import AssetBroker.Manager

/-! What the back-end sees of a manager operation. Run against a back-end, a
program ends with a result and a back-end state, and leaves the exchanges it
made: each request with the reply it got, in order (`Program.observe`; the
trace events are left aside). A program respects a property of requests when
every request it can make, whatever the back-end replies, has it. Respecting is
kept by sequencing, so it is proved once for each building block of the
manager's operations (`validate`, `delegate`, `andThen`, `forward`). -/

namespace AssetBroker

@[simp] theorem Except.mapError_ok {ε ε' α : Type} (f : ε → ε') (a : α) :
    (Except.ok a : Except ε α).mapError f = .ok a := rfl

@[simp] theorem Except.mapError_error {ε ε' α : Type} (f : ε → ε') (e : ε) :
    (Except.error e : Except ε α).mapError f = .error (f e) := rfl

/-- Relabelling the error leaves a success as it is. -/
theorem Except.mapError_eq_ok {ε ε' α : Type} {f : ε → ε'} {x : Except ε α} {a : α} :
    x.mapError f = .ok a ↔ x = .ok a := by
  cases x <;> simp

/-- One request to the back-end and the reply it got. -/
structure Exchange (σ ε : Type) where
  {β : Type}
  request : Request σ ε β
  reply : Except ε β

/-- The back-end's error, when the reply is one. -/
def Exchange.failure? {σ ε : Type} (x : Exchange σ ε) : Option ε :=
  match x.reply with
  | .ok _ => none
  | .error e => some e

namespace Program

variable {σ ε α β : Type} {S : Type} (answer : {β : Type} → Request σ ε β → S → Except ε β × S)

/-- The result, the back-end's final state and the exchanges of a program run against `answer`. -/
def observe : Program σ ε α → S → α × S × List (Exchange σ ε)
  | .done a, s => (a, s, [])
  | .emit _ next, s => next.observe s
  | .call q next, s =>
    let reply := answer q s
    let rest := (next reply.1).observe reply.2
    (rest.1, rest.2.1, ⟨q, reply.1⟩ :: rest.2.2)

@[simp] theorem observe_done (a : α) (s : S) :
    (done a : Program σ ε α).observe answer s = (a, s, []) := rfl

@[simp] theorem observe_emit (e : Event) (next : Program σ ε α) (s : S) :
    (emit e next).observe answer s = next.observe answer s := rfl

@[simp] theorem observe_call (q : Request σ ε β) (next : Except ε β → Program σ ε α) (s : S) :
    (call q next).observe answer s =
      ((next (answer q s).1).observe answer (answer q s).2 |>.1,
        (next (answer q s).1).observe answer (answer q s).2 |>.2.1,
        ⟨q, (answer q s).1⟩ :: ((next (answer q s).1).observe answer (answer q s).2).2.2) := rfl

/-- Observing a program ends with the result and state that running it does. -/
theorem observe_fst (p : Program σ ε α) (s : S) : (p.observe answer s).1 = (p.run answer s).1 := by
  induction p generalizing s with
  | done a => rfl
  | emit e next ih => simp [run, ih]
  | call q next ih => simp [run, ih]

theorem observe_state (p : Program σ ε α) (s : S) :
    (p.observe answer s).2.1 = (p.run answer s).2.1 := by
  induction p generalizing s with
  | done a => rfl
  | emit e next ih => simp [run, ih]
  | call q next ih => simp [run, ih]

/-- A sequenced program makes the exchanges of its first part, then those of the rest. -/
theorem observe_bind (p : Program σ ε α) (f : α → Program σ ε β) (s : S) :
    (p.bind f).observe answer s =
      ((f (p.observe answer s).1).observe answer (p.observe answer s).2.1 |>.1,
        (f (p.observe answer s).1).observe answer (p.observe answer s).2.1 |>.2.1,
        (p.observe answer s).2.2 ++ ((f (p.observe answer s).1).observe answer (p.observe answer s).2.1).2.2) := by
  induction p generalizing s with
  | done a => simp
  | emit e next ih => simp [ih]
  | call q next ih => simp [ih]

/-- Every request the program can make, whatever the back-end replies, satisfies `P`. -/
inductive Respects (P : {β : Type} → Request σ ε β → Prop) : Program σ ε α → Prop
  | done (a : α) : Respects P (.done a)
  | emit (e : Event) {next : Program σ ε α} : Respects P next → Respects P (.emit e next)
  | call {β : Type} {q : Request σ ε β} {next : Except ε β → Program σ ε α} :
      P q → (∀ r, Respects P (next r)) → Respects P (.call q next)

variable {P : {β : Type} → Request σ ε β → Prop}

theorem Respects.bind {p : Program σ ε α} {f : α → Program σ ε β} (hp : p.Respects P)
    (hf : ∀ a, (f a).Respects P) : (p.bind f).Respects P := by
  induction hp with
  | done a => exact hf a
  | emit e _ ih => exact .emit e ih
  | call hq _ ih => exact .call hq ih

/-- What a program respects holds of every request in every run of it. -/
theorem Respects.observe {p : Program σ ε α} (hp : p.Respects P) (s : S) :
    ∀ x ∈ (p.observe answer s).2.2, P x.request := by
  induction hp generalizing s with
  | done a => simp
  | emit e _ ih => simpa using ih s
  | @call β q next hq _ ih =>
    intro x hx
    simp only [observe_call, List.mem_cons] at hx
    rcases hx with rfl | hx
    · exact hq
    · exact ih _ _ x hx

end Program

namespace Manager

open Program

variable {σ ε α β γ : Type} {S : Type} (answer : {β : Type} → Request σ ε β → S → Except ε β × S)

@[simp] theorem validate_ok (op : String) (a : α) (next : α → Program σ ε (Result ε β)) :
    validate op (.ok a) next = next a := rfl

@[simp] theorem validate_error (op : String) (reason : Rejection) (next : α → Program σ ε (Result ε β)) :
    validate op (.error reason) next = reject op reason := rfl

/-- Checks run in sequence are one check of their sequence. -/
theorem validate_bind (op : String) (check : Except Rejection α) (more : α → Except Rejection β)
    (next : β → Program σ ε (Result ε γ)) :
    validate op (check >>= more) next = validate op check fun a => validate op (more a) next := by
  cases check <;> rfl

/-- A rejected call asks the back-end nothing. -/
@[simp] theorem observe_reject (op : String) (reason : Rejection) (s : S) :
    (reject op reason : Program σ ε (Result ε α)).observe answer s = (.error (.ofRejection reason), s, []) :=
  rfl

/-- A delegated request is one exchange, and its failure comes back as an interface error. -/
@[simp] theorem observe_delegate (n : Nat) (q : Request σ ε β) (s : S) :
    (delegate n q : Program σ ε (Result ε β)).observe answer s =
      ((answer q s).1.mapError .interface, (answer q s).2, [⟨q, (answer q s).1⟩]) := rfl

/-- A forwarded request is one exchange, and its reply comes back as it is. -/
@[simp] theorem observe_forward (q : Request σ ε β) (s : S) :
    (forward q : Program σ ε (Except ε β)).observe answer s = ((answer q s).1, (answer q s).2, [⟨q, (answer q s).1⟩]) :=
  rfl

theorem observe_andThen_error {p : Program σ ε (Result ε α)} {next : α → Program σ ε (Result ε β)} {s s₁ : S}
    {e : ManagerError ε} {xs : List (Exchange σ ε)} (hp : p.observe answer s = (.error e, s₁, xs)) :
    (andThen p next).observe answer s = (.error e, s₁, xs) := by
  simp [andThen, observe_bind, hp]

theorem observe_andThen_ok {p : Program σ ε (Result ε α)} {next : α → Program σ ε (Result ε β)} {s s₁ : S}
    {a : α} {xs : List (Exchange σ ε)} (hp : p.observe answer s = (.ok a, s₁, xs)) :
    (andThen p next).observe answer s =
      (((next a).observe answer s₁).1, ((next a).observe answer s₁).2.1, xs ++ ((next a).observe answer s₁).2.2) := by
  simp [andThen, observe_bind, hp]

/-- A delegated request that fails ends the sequence with its failure. -/
theorem observe_andThen_delegate_error {n : Nat} {q : Request σ ε α} {next : α → Program σ ε (Result ε β)}
    {s s₁ : S} {e : ε} (hr : answer q s = (.error e, s₁)) :
    (andThen (delegate n q) next).observe answer s = (.error (.interface e), s₁, [⟨q, .error e⟩]) := by
  have hd : (delegate n q : Program σ ε (Result ε α)).observe answer s = (.error (.interface e), s₁, [⟨q, .error e⟩]) := by
    simp [hr]
  exact observe_andThen_error answer hd

/-- A delegated request that succeeds is followed by the rest, run on its reply. -/
theorem observe_andThen_delegate_ok {n : Nat} {q : Request σ ε α} {next : α → Program σ ε (Result ε β)}
    {s s₁ : S} {a : α} (hr : answer q s = (.ok a, s₁)) :
    (andThen (delegate n q) next).observe answer s =
      (((next a).observe answer s₁).1, ((next a).observe answer s₁).2.1, ⟨q, .ok a⟩ :: ((next a).observe answer s₁).2.2) := by
  have hd : (delegate n q : Program σ ε (Result ε α)).observe answer s = (.ok a, s₁, [⟨q, .ok a⟩]) := by
    simp [hr]
  rw [observe_andThen_ok answer hd]
  rfl

variable {P : {β : Type} → Request σ ε β → Prop}

theorem respects_reject (op : String) (reason : Rejection) :
    (reject op reason : Program σ ε (Result ε α)).Respects P :=
  .emit _ (.done _)

theorem respects_validate {op : String} {check : Except Rejection α} {next : α → Program σ ε (Result ε β)}
    (h : ∀ a, check = .ok a → (next a).Respects P) : (validate op check next).Respects P := by
  cases check with
  | error reason => exact respects_reject op reason
  | ok a => exact h a rfl

theorem respects_delegate {n : Nat} {q : Request σ ε β} (hq : P q) :
    (delegate n q : Program σ ε (Result ε β)).Respects P :=
  .emit _ (.call hq fun _ => .done _)

theorem respects_andThen {p : Program σ ε (Result ε α)} {next : α → Program σ ε (Result ε β)}
    (hp : p.Respects P) (hnext : ∀ a, (next a).Respects P) : (andThen p next).Respects P := by
  refine hp.bind fun r => ?_
  cases r with
  | ok a => exact hnext a
  | error e => exact .done _

theorem respects_singleBatch {op name : String} {arg : OneOrMany α} {request : Batch α → Request σ ε β}
    (h : ∀ b, P (request b)) : (singleBatch op name arg request : Program σ ε (Result ε β)).Respects P :=
  respects_validate fun n _ => respects_delegate (h n.batch)

theorem respects_forward {q : Request σ ε β} (hq : P q) : (forward q : Program σ ε (Except ε β)).Respects P :=
  .emit _ (.call hq fun _ => .done _)

end Manager

end AssetBroker
