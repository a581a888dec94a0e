import AssetBroker.Entity
import AssetBroker.Text

/-! The host's side: what a host application says about itself, and the session
through which a back-end reaches the host and its log. A host that says nothing
more than its names has an empty info dictionary, no document and knows no
entities. Log messages carry a severity; the session's logger turns each into a
trace event whose level follows the severity, and for the levels that gather
several severities (information and errors) the event also names the severity. -/

namespace AssetBroker

/-- The severity of a message logged through a host session, in increasing order. -/
inductive Severity where
  | debugApi
  | debug
  | info
  | progress
  | warning
  | error
  | critical
  deriving DecidableEq

namespace Severity

def rank : Severity → Nat
  | .debugApi => 0
  | .debug => 1
  | .info => 2
  | .progress => 3
  | .warning => 4
  | .error => 5
  | .critical => 6

instance : Ord Severity := ⟨fun a b => compare a.rank b.rank⟩

def name : Severity → String
  | .debugApi => "DebugApi"
  | .debug => "Debug"
  | .info => "Info"
  | .progress => "Progress"
  | .warning => "Warning"
  | .error => "Error"
  | .critical => "Critical"

def all : List Severity := [.debugApi, .debug, .info, .progress, .warning, .error, .critical]

def ofName? (s : String) : Option Severity := all.find? (·.name == s)

end Severity

/-- The level of a trace event. -/
inductive Level where
  | trace
  | debug
  | info
  | warn
  | error
  deriving DecidableEq

def Level.name : Level → String
  | .trace => "TRACE"
  | .debug => "DEBUG"
  | .info => "INFO"
  | .warn => "WARN"
  | .error => "ERROR"

/-- A field of a trace event: text, or a count. -/
inductive TraceField where
  | text (s : String)
  | count (n : Nat)

/-- One trace event: its level, the part of the library that emits it, and named fields. -/
structure TraceEvent where
  level : Level
  target : String
  fields : List (String × TraceField)

/-- The trace event that the session's logger makes of one message. -/
def Severity.event (severity : Severity) (message : String) : TraceEvent :=
  let target := "asset_bridge::host"
  let plain (level : Level) : TraceEvent := ⟨level, target, [("message", .text message)]⟩
  let named (level : Level) : TraceEvent :=
    ⟨level, target, [("message", .text message), ("severity", .text severity.name)]⟩
  match severity with
  | .debugApi => plain .trace
  | .debug => plain .debug
  | .info | .progress => named .info
  | .warning => plain .warn
  | .error | .critical => named .error

/-- What a host application tells a manager about itself. -/
structure HostInterface where
  identifier : String
  displayName : String
  info : InfoDictionary := {}
  /-- The reference of the document open in the host, or empty text. -/
  documentReference : String := ""
  /-- The entities the host knows, optionally only those matching a specification. -/
  knownEntityReferences : Option EntitySpec → List EntityRef := fun _ => []

/-- A host that lists `known` entities and, asked for those of a specification,
keeps the ones whose reference contains its schema. -/
def HostInterface.listing (identifier displayName : String) (info : InfoDictionary)
    (documentReference : String) (known : List EntityRef) : HostInterface where
  identifier := identifier
  displayName := displayName
  info := info
  documentReference := documentReference
  knownEntityReferences
    | some spec => known.filter fun r => Text.occursIn spec.schema r.text
    | none => known

/-- The manager-facing view of a host: every question goes to its interface. -/
structure Host where
  interface : HostInterface

namespace Host

def identifier (h : Host) : String := h.interface.identifier
def displayName (h : Host) : String := h.interface.displayName
def info (h : Host) : InfoDictionary := h.interface.info
def documentReference (h : Host) : String := h.interface.documentReference

def knownEntityReferences (h : Host) (spec : Option EntitySpec) : List EntityRef :=
  h.interface.knownEntityReferences spec

/-- How a host shows itself in diagnostics: its interface is not shown. -/
def describe (_ : Host) : String := "Host \x7b .. \x7d"

end Host

/-- The services a back-end gets with every call: the host it serves, and a log. -/
structure HostSession where
  host : Host

/-- How a session shows itself in diagnostics. -/
def HostSession.describe (s : HostSession) : String :=
  "HostSession \x7b host: " ++ s.host.describe ++ ", .. \x7d"

end AssetBroker
