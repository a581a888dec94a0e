import AssetBroker.Request
import AssetBroker.Cardinality
import AssetBroker.Host

/-! A manager operation as a program over the back-end. A program has finished
with a result, or emits an event and goes on, or makes a request and goes on
with the back-end's answer or failure. Since the answer to a request is a
parameter of the rest of the program, one program describes what the operation
does under every behaviour of the back-end; `run` follows one behaviour, given
as a step function on the back-end's state, and collects the events in order.

The events are the manager's trace: one before each request it hands on, and one
when it rejects a call before reaching the back-end. -/

namespace AssetBroker

/-- Why the manager refused a call without asking the back-end. -/
inductive Rejection where
  | shape (e : ShapeError)
  | cardinality (e : CardinalityError)

/-- The error text of a rejection, without the kind in front. -/
def Rejection.detail : Rejection → String
  | .shape e => e.message
  | .cardinality e => e.message

/-- The errors of an operation that checks its arguments; `ε` is the back-end's error. -/
inductive ManagerError (ε : Type) where
  /-- An argument could not be normalised. -/
  | shape (e : ShapeError)
  /-- Parallel arguments have lengths that cannot be paired up. -/
  | cardinality (e : CardinalityError)
  /-- The back-end failed; its error is kept as it is. -/
  | interface (e : ε)

namespace ManagerError

variable {ε : Type}

def ofRejection : Rejection → ManagerError ε
  | .shape e => .shape e
  | .cardinality e => .cardinality e

def isCardinality : ManagerError ε → Bool
  | .cardinality _ => true
  | _ => false

def interface? : ManagerError ε → Option ε
  | .interface e => some e
  | _ => none

/-- The message of an error: the kind in front of a rejection, the back-end's own text as it is. -/
def message (text : ε → String) : ManagerError ε → String
  | .shape e => "Invalid Argument: " ++ e.message
  | .cardinality e => "Cardinality Error: " ++ e.message
  | .interface e => text e

end ManagerError

/-- An event of the manager's trace. -/
inductive Event where
  /-- A request goes to the back-end; operations that check their arguments give its size. -/
  | delegating (operation : String) (count : Option Nat)
  /-- The operation refused the call before reaching the back-end. -/
  | rejected (operation : String) (reason : Rejection)

/-- The trace event of a manager event. -/
def Event.trace : Event → TraceEvent
  | .delegating operation count =>
    ⟨.debug, "asset_bridge::manager",
      [("message", .text "delegating to manager interface"), ("operation", .text operation)] ++
        (match count with
         | some n => [("count", .count n)]
         | none => [])⟩
  | .rejected operation reason =>
    ⟨.warn, "asset_bridge::manager",
      [("message", .text "rejected before reaching the manager interface"),
        ("operation", .text operation), ("error", .text reason.detail)]⟩

/-- A computation that talks to a back-end with state type `σ` and error type `ε`. -/
inductive Program (σ ε : Type) (α : Type) : Type 1 where
  | done (a : α)
  | emit (e : Event) (next : Program σ ε α)
  | call {β : Type} (q : Request σ ε β) (next : Except ε β → Program σ ε α)

namespace Program

variable {σ ε α β γ : Type}

def bind : Program σ ε α → (α → Program σ ε β) → Program σ ε β
  | .done a, f => f a
  | .emit e next, f => .emit e (next.bind f)
  | .call q next, f => .call q fun r => (next r).bind f

instance : Monad (Program σ ε) where
  pure := .done
  bind := bind

/-- The result and final state of a program under a back-end given by `answer`,
with the events emitted, in order. -/
def run {S : Type} (answer : {β : Type} → Request σ ε β → S → Except ε β × S) :
    Program σ ε α → S → α × S × List Event
  | .done a, s => (a, s, [])
  | .emit e next, s =>
    let (a, s', events) := next.run answer s
    (a, s', e :: events)
  | .call q next, s =>
    let (r, s') := answer q s
    (next r).run answer s'

@[simp] theorem done_bind (a : α) (f : α → Program σ ε β) : (done a).bind f = f a := rfl

@[simp] theorem emit_bind (e : Event) (p : Program σ ε α) (f : α → Program σ ε β) :
    (emit e p).bind f = emit e (p.bind f) := rfl

@[simp] theorem call_bind (q : Request σ ε γ) (next : Except ε γ → Program σ ε α) (f : α → Program σ ε β) :
    (call q next).bind f = call q fun r => (next r).bind f := rfl

end Program

end AssetBroker
