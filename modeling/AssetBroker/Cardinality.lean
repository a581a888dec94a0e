import AssetBroker.Batch

/-! Length agreement between parallel batch arguments. Before a call that pairs
batches position by position reaches the back-end, they are brought to one
canonical length: the arguments that may not be repeated must all have that
length, the others hold one element and are repeated up to it, and with no
fixed-length argument the length is one. Pairings that may never be repeated are
checked by `requireEqual` instead. -/

namespace AssetBroker

/-- When an argument may be repeated to match its peers: never, only when it was given as
a single value, or whenever it holds one element. -/
inductive Broadcast where
  | never
  | ifSingular
  | ifSingleElement
  deriving DecidableEq

/-- The length of one argument in a length check, and whether it may be repeated;
only an argument of one element may be. -/
structure Extent where
  name : String
  len : Nat
  broadcastable : Bool
  len_eq_one : broadcastable = true → len = 1

/-- Raised when parallel arguments cannot agree on a length: a mismatch lists every
argument in order, an exact mismatch names the two sides of a pairing that must be exact. -/
inductive CardinalityError where
  | mismatch (lengths : List (String × Nat))
  | exactMismatch (left : String) (leftLen : Nat) (right : String) (rightLen : Nat)
  deriving DecidableEq

def CardinalityError.message : CardinalityError → String
  | .mismatch lengths =>
    "Mismatched argument lengths: " ++
      ", ".intercalate (lengths.map fun e => "`" ++ e.1 ++ "` = " ++ toString e.2)
  | .exactMismatch left leftLen right rightLen =>
    "Argument `" ++ left ++ "` has " ++ toString leftLen ++ " elements but `" ++ right ++
      "` has " ++ toString rightLen

namespace Extent

/-- An extent, repeatable only if asked and of length one. -/
def new (name : String) (len : Nat) (broadcastable : Bool) : Extent :=
  ⟨name, len, broadcastable && len == 1, by intro h; simpa using (Bool.and_eq_true _ _).mp h |>.2⟩

def allows {α : Type} (rule : Broadcast) (arg : Normalized α) : Bool :=
  match rule with
  | .never => false
  | .ifSingular => arg.singular
  | .ifSingleElement => arg.length == 1

def of {α : Type} (arg : Normalized α) (rule : Broadcast) : Extent :=
  new arg.name arg.length (allows rule arg)

end Extent

/-- The one length that all `extents` share once repeated. -/
def canonicalLength (extents : List Extent) : Except CardinalityError Nat :=
  match (extents.filter (!·.broadcastable)).map (·.len) with
  | [] => .ok 1
  | l :: rest =>
    if rest.all (· == l) then .ok l else .error (.mismatch (extents.map fun e => (e.name, e.len)))

def requireEqual (left right : Extent) : Except CardinalityError Nat :=
  if left.len = right.len then .ok left.len
  else .error (.exactMismatch left.name left.len right.name right.len)

/-- An argument brought to `len` elements: as it is when it has `len`, repeated
when it has one element and `len > 0`, and refused otherwise. -/
def Normalized.broadcast {α : Type} (arg : Normalized α) (len : Nat) :
    Except CardinalityError (Batch α) :=
  if arg.length = len then .ok arg.batch
  else
    match arg.batch.toList, len with
    | [x], n + 1 => .ok (Batch.replicate (n + 1) x (Nat.succ_pos n))
    | _, _ => .error (.mismatch [(arg.name, arg.length)])

end AssetBroker
