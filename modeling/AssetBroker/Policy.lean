/-! How a manager wishes to be involved with entities of a kind, as a set of
flags in 32 bits: managed, exclusive and "will manage the path". Sets join by
bitwise or; one set contains another when it has every flag of it; the empty set
means the manager ignores such entities. -/

namespace AssetBroker

/-- A set of management flags. -/
structure ManagementPolicy where
  bits : UInt32
  deriving DecidableEq

namespace ManagementPolicy

/-- No interest in such entities. -/
def ignored : ManagementPolicy := ⟨0⟩

/-- The manager would like to handle such entities. -/
def managed : ManagementPolicy := ⟨1⟩

/-- The manager must handle all such entities. -/
def exclusive : ManagementPolicy := ⟨2⟩

/-- The manager tracks the path of such entities itself. -/
def willManagePath : ManagementPolicy := ⟨4⟩

instance : Inhabited ManagementPolicy := ⟨ignored⟩

/-- The union of two sets of flags. -/
def union (a b : ManagementPolicy) : ManagementPolicy := ⟨a.bits ||| b.bits⟩

instance : OrOp ManagementPolicy := ⟨union⟩

/-- The policy `a` holds after `a |= b`, which sets `b`'s flags in place. -/
def orAssign (a b : ManagementPolicy) : ManagementPolicy := { a with bits := a.bits ||| b.bits }

/-- `a` has every flag of `b`. -/
def contains (a b : ManagementPolicy) : Bool := a.bits &&& b.bits == b.bits

def isIgnored (a : ManagementPolicy) : Bool := a.bits == 0

def isManaged (a : ManagementPolicy) : Bool := a.contains managed

def isExclusive (a : ManagementPolicy) : Bool := a.contains exclusive

def willManage (a : ManagementPolicy) : Bool := a.contains willManagePath

/-- Two policies are equal when their flags are. -/
theorem eq_of_bits_eq {a b : ManagementPolicy} (h : a.bits = b.bits) : a = b := by
  cases a
  cases b
  cases h
  rfl

@[simp] theorem or_bits (a b : ManagementPolicy) : (a ||| b).bits = a.bits ||| b.bits := rfl

end ManagementPolicy

end AssetBroker
