/-! Arguments given either as one value or as a sequence, and their canonical
form, a non-empty batch. A single value becomes a batch of one; a sequence keeps
its order, and an empty one is refused with the argument's name. A normalised
argument remembers whether it came as a single value, since only such an
argument may be repeated to match the others (see `Extent`). -/

namespace AssetBroker

/-- An argument given as a single value or as an ordered sequence. -/
inductive OneOrMany (α : Type) where
  | one (x : α)
  | many (xs : List α)

/-- A non-empty sequence: the form in which every batch argument reaches a back-end. -/
structure Batch (α : Type) where
  toList : List α
  ne_nil : toList ≠ []

/-- Raised when an argument cannot be brought into canonical form. -/
inductive ShapeError where
  /-- A sequence argument was given with no elements. -/
  | empty (name : String)
  deriving DecidableEq

def ShapeError.message : ShapeError → String
  | .empty name => "Argument `" ++ name ++ "` must contain at least one element"

/-- A batch argument with its name and whether it came as a single value. -/
structure Normalized (α : Type) where
  name : String
  batch : Batch α
  singular : Bool

namespace Batch

variable {α : Type}

def single (x : α) : Batch α := ⟨[x], List.cons_ne_nil x []⟩

/-- The batch of a list, unless the list is empty. -/
def ofList? : List α → Option (Batch α)
  | [] => none
  | x :: xs => some ⟨x :: xs, List.cons_ne_nil x xs⟩

def length (b : Batch α) : Nat := b.toList.length

/-- `n` copies of `x`, for `n > 0`. -/
def replicate (n : Nat) (x : α) (h : 0 < n) : Batch α :=
  ⟨List.replicate n x, by simp [List.replicate_eq_nil_iff]; omega⟩

theorem length_pos (b : Batch α) : 0 < b.length :=
  List.length_pos_iff.mpr b.ne_nil

@[simp] theorem single_toList (x : α) : (single x).toList = [x] := rfl

@[simp] theorem replicate_toList (n : Nat) (x : α) (h : 0 < n) :
    (replicate n x h).toList = List.replicate n x := rfl

theorem ofList?_eq_some {xs : List α} {b : Batch α} : ofList? xs = some b ↔ b.toList = xs ∧ xs ≠ [] := by
  cases xs with
  | nil => simp [ofList?]
  | cons x xs =>
    cases b with
    | mk l h => simp [ofList?, eq_comm]

@[simp] theorem ofList?_nil : ofList? ([] : List α) = none := rfl

end Batch

namespace OneOrMany

variable {α : Type}

def isSingular : OneOrMany α → Bool
  | .one _ => true
  | .many _ => false

/-- The canonical form of an argument named `name`. -/
def normalize (arg : OneOrMany α) (name : String) : Except ShapeError (Normalized α) :=
  match arg with
  | .one x => .ok ⟨name, .single x, true⟩
  | .many xs =>
    match Batch.ofList? xs with
    | some b => .ok ⟨name, b, false⟩
    | none => .error (.empty name)

/-- The elements of an argument, in order. -/
def toList : OneOrMany α → List α
  | .one x => [x]
  | .many xs => xs

/-- The argument with `f` applied to each element, in the same form. -/
def map {β : Type} (f : α → β) : OneOrMany α → OneOrMany β
  | .one x => .one (f x)
  | .many xs => .many (xs.map f)

@[simp] theorem isSingular_map {β : Type} (f : α → β) (arg : OneOrMany α) :
    (arg.map f).isSingular = arg.isSingular := by
  cases arg <;> rfl

@[simp] theorem toList_map {β : Type} (f : α → β) (arg : OneOrMany α) :
    (arg.map f).toList = arg.toList.map f := by
  cases arg <;> rfl

/-- Normalising keeps the elements given, in order. -/
theorem normalize_toList {arg : OneOrMany α} {name : String} {n : Normalized α}
    (h : arg.normalize name = .ok n) : n.batch.toList = arg.toList := by
  cases arg with
  | one x =>
    simp only [normalize, Except.ok.injEq] at h
    subst h
    rfl
  | many xs =>
    simp only [normalize] at h
    split at h
    · next b hb =>
      simp only [Except.ok.injEq] at h
      subst h
      exact (Batch.ofList?_eq_some.mp hb).1
    · cases h

end OneOrMany

namespace Normalized

variable {α : Type}

def length (n : Normalized α) : Nat := n.batch.length

end Normalized

end AssetBroker
