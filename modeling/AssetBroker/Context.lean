import AssetBroker.Entity

/-! The calling context that a host passes with every entity operation: what it
means to do with the entities, how long it keeps results, where in the host the
request comes from, and the manager's own state, which only the back-end that
made it looks into. The manager hands a context on untouched. -/

namespace AssetBroker

/-- What the host intends to do with the entities of a call. -/
inductive Access where
  | read
  | readMultiple
  | write
  | writeMultiple
  deriving DecidableEq

def Access.isRead : Access → Bool
  | .read | .readMultiple => true
  | _ => false

def Access.isWrite : Access → Bool
  | .write | .writeMultiple => true
  | _ => false

def Access.name : Access → String
  | .read => "Read"
  | .readMultiple => "ReadMultiple"
  | .write => "Write"
  | .writeMultiple => "WriteMultiple"

def Access.ofName? (s : String) : Option Access :=
  [Access.read, .readMultiple, .write, .writeMultiple].find? (·.name == s)

/-- How long the host intends to keep results. -/
inductive Retention where
  | ignored
  | transient
  | session
  | permanent
  deriving DecidableEq

def Retention.name : Retention → String
  | .ignored => "Ignored"
  | .transient => "Transient"
  | .session => "Session"
  | .permanent => "Permanent"

def Retention.ofName? (s : String) : Option Retention :=
  [Retention.ignored, .transient, .session, .permanent].find? (·.name == s)

/-- The calling environment of one host request; `σ` is the back-end's state. -/
structure Context (σ : Type) where
  access : Access := .read
  retention : Retention := .transient
  /-- Where in the host the request originates. -/
  locale : Option EntitySpec := none
  state : Option σ := none

namespace Context

variable {σ : Type}

instance : Inhabited (Context σ) := ⟨{}⟩

def withRetention (c : Context σ) (retention : Retention) : Context σ := { c with retention }

def withLocale (c : Context σ) (locale : EntitySpec) : Context σ := { c with locale := some locale }

def withState (c : Context σ) (state : σ) : Context σ := { c with state := some state }

/-- Contexts are equal when all their parts are; states compare as the back-end's states do. -/
instance [BEq σ] : BEq (Context σ) :=
  ⟨fun a b => a.access == b.access && a.retention == b.retention && a.locale == b.locale &&
    a.state == b.state⟩

end Context

end AssetBroker
