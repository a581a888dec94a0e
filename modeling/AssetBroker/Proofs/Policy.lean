import Mathlib.Order.Lattice
import Mathlib.Order.BoundedOrder.Basic
import AssetBroker.Policy

/-! Management policies as sets of flags. Flag `i` of a policy is bit `i` of its
word: union takes the flags of either side, and a policy contains another when it
has every flag of it, which is also when adding the other's flags changes nothing.
Union is associative, commutative and idempotent with the empty policy as its
identity, and setting flags in place gives the union. These make policies a
join-semilattice whose order is containment read backwards, so containment is a
partial order in which the union of two policies is their least upper bound and
the empty policy is below every other. -/

namespace AssetBroker

namespace ManagementPolicy

/-- Flag `i` of a policy, bit `i` of its word. -/
def flag (a : ManagementPolicy) (i : Nat) : Bool := a.bits.toBitVec.getLsbD i

/-- Policies with the same 32 flags are equal. -/
theorem eq_iff_flags {a b : ManagementPolicy} : a = b ↔ ∀ i < 32, a.flag i = b.flag i := by
  constructor
  · rintro rfl i _
    rfl
  · intro h
    apply eq_of_bits_eq
    rw [← UInt32.toBitVec_inj]
    exact BitVec.eq_of_getLsbD_eq_iff.mpr h

@[simp] theorem flag_union (a b : ManagementPolicy) (i : Nat) :
    (a ||| b).flag i = (a.flag i || b.flag i) := by
  simp [flag]

/-- Containment read on the flags: every flag of `b` is a flag of `a`. -/
theorem contains_iff_flags {a b : ManagementPolicy} :
    a.contains b = true ↔ ∀ i < 32, b.flag i = true → a.flag i = true := by
  simp only [contains, beq_iff_eq, ← UInt32.toBitVec_inj, UInt32.toBitVec_and,
    BitVec.eq_of_getLsbD_eq_iff, BitVec.getLsbD_and, Bool.and_eq_right_iff_imp, flag]

theorem union_eq_left_iff_flags {a b : ManagementPolicy} :
    a ||| b = a ↔ ∀ i < 32, b.flag i = true → a.flag i = true := by
  simp only [eq_iff_flags, flag_union, Bool.or_eq_left_iff_imp]

theorem contains_iff_union_eq {a b : ManagementPolicy} : a.contains b = true ↔ a ||| b = a := by
  rw [contains_iff_flags, union_eq_left_iff_flags]

section Union

variable (a b c : ManagementPolicy)

theorem union_assoc : a ||| b ||| c = a ||| (b ||| c) :=
  eq_of_bits_eq (UInt32.or_assoc a.bits b.bits c.bits)

theorem union_comm : a ||| b = b ||| a :=
  eq_of_bits_eq (UInt32.or_comm a.bits b.bits)

@[simp] theorem union_self : a ||| a = a :=
  eq_of_bits_eq UInt32.or_self

@[simp] theorem ignored_union : ignored ||| a = a :=
  eq_of_bits_eq UInt32.zero_or

@[simp] theorem union_ignored : a ||| ignored = a :=
  eq_of_bits_eq UInt32.or_zero

theorem orAssign_eq_union : a.orAssign b = a ||| b := rfl

end Union

/-! The order: `a ≤ b` when `b` contains `a`. -/

instance : Max ManagementPolicy := ⟨union⟩

@[simp] theorem sup_eq_union (a b : ManagementPolicy) : a ⊔ b = a ||| b := rfl

instance : SemilatticeSup ManagementPolicy := SemilatticeSup.mk' union_comm union_assoc union_self

theorem le_iff_contains {a b : ManagementPolicy} : a ≤ b ↔ b.contains a = true := by
  -- the semilattice of a union orders `a ≤ b` by `a ⊔ b = b`
  rw [contains_iff_union_eq, union_comm]
  rfl

instance : OrderBot ManagementPolicy where
  bot := ignored
  bot_le a := le_iff_contains.mpr (contains_iff_union_eq.mpr (union_ignored a))

theorem contains_refl (a : ManagementPolicy) : a.contains a = true :=
  le_iff_contains.mp le_rfl

theorem contains_antisymm {a b : ManagementPolicy} (hab : a.contains b = true)
    (hba : b.contains a = true) : a = b :=
  le_antisymm (le_iff_contains.mpr hba) (le_iff_contains.mpr hab)

theorem contains_trans {a b c : ManagementPolicy} (hab : a.contains b = true)
    (hbc : b.contains c = true) : a.contains c = true :=
  le_iff_contains.mp ((le_iff_contains.mpr hbc).trans (le_iff_contains.mpr hab))

/-- A policy contains a union exactly when it contains both sides. -/
theorem contains_union_iff (a b c : ManagementPolicy) :
    c.contains (a ||| b) = true ↔ c.contains a = true ∧ c.contains b = true := by
  rw [← le_iff_contains, ← le_iff_contains, ← le_iff_contains]
  exact sup_le_iff

/-- Union, containment and the named tests obey the laws of a set of flags, with union the
least upper bound for containment. -/
theorem flags_form_join_semilattice :
    (∀ a b : ManagementPolicy,
      (a.contains b = true ↔ a ||| b = a) ∧ (a ||| b = a ↔ a.bits &&& b.bits = b.bits)) ∧
    (∀ a b c : ManagementPolicy, a ||| b ||| c = a ||| (b ||| c)) ∧
    (∀ a b : ManagementPolicy, a ||| b = b ||| a) ∧
    (∀ a : ManagementPolicy, a ||| a = a ∧ ignored ||| a = a ∧ a ||| ignored = a) ∧
    (∀ a b : ManagementPolicy, a.orAssign b = a ||| b) ∧
    (∀ a : ManagementPolicy, a.contains a = true) ∧
    (∀ a b : ManagementPolicy, a.contains b = true → b.contains a = true → a = b) ∧
    (∀ a b c : ManagementPolicy, a.contains b = true → b.contains c = true → a.contains c = true) ∧
    (∀ a b c : ManagementPolicy,
      c.contains (a ||| b) = true ↔ c.contains a = true ∧ c.contains b = true) ∧
    (∀ a : ManagementPolicy, a.isManaged = a.contains managed ∧
      a.isExclusive = a.contains exclusive ∧ (a.isIgnored = true ↔ a.bits = 0)) := by
  refine ⟨fun a b => ⟨contains_iff_union_eq, ?_⟩, union_assoc, union_comm,
    fun a => ⟨union_self a, ignored_union a, union_ignored a⟩, orAssign_eq_union, contains_refl,
    fun _ _ => contains_antisymm, fun _ _ _ => contains_trans, contains_union_iff,
    fun a => ⟨rfl, rfl, beq_iff_eq⟩⟩
  -- containment is the word test by definition
  rw [← contains_iff_union_eq]
  exact beq_iff_eq

end ManagementPolicy

end AssetBroker
