import AssetBroker.Entity

/-! The parts of a schema. A schema splits at its first colon: the prefix is the
text before it and holds no colon, the type is all the text after it, colons
included, and the two joined by a colon give the schema back. A schema without a
colon is all prefix, with an empty type. -/

namespace AssetBroker

section SplitAtFirst

variable {c : Char}

theorem splitAtFirst_eq_none_iff {l : List Char} : splitAtFirst c l = none ↔ c ∉ l := by
  induction l with
  | nil => simp [splitAtFirst]
  | cons x rest ih =>
    by_cases hx : x = c
    · simp [splitAtFirst, hx]
    · simp [splitAtFirst, hx, ih, Ne.symm hx]

/-- A split puts the first `c` between a part without `c` and the rest. -/
theorem splitAtFirst_eq_some {l p t : List Char} (h : splitAtFirst c l = some (p, t)) :
    c ∉ p ∧ l = p ++ c :: t := by
  induction l generalizing p with
  | nil => cases h
  | cons x rest ih =>
    unfold splitAtFirst at h
    split at h
    · next hx =>
      cases h
      exact ⟨List.not_mem_nil, by rw [hx, List.nil_append]⟩
    -- a character other than `c` goes to the front of the rest's part
    · next hx =>
      obtain ⟨⟨p', t'⟩, hsplit, hpt⟩ := Option.map_eq_some_iff.mp h
      cases hpt
      obtain ⟨hnot, rfl⟩ := ih hsplit
      exact ⟨by simp [hnot, Ne.symm hx], rfl⟩

end SplitAtFirst

/-- The prefix of a schema holds no colon; a schema with a colon is its prefix, a colon and its
type, so the type keeps every later colon; a schema without one is all prefix. -/
theorem components_split_at_first_colon (s : EntitySpec) :
    ':' ∉ s.components.1.toList ∧
      (':' ∈ s.schema.toList → s.schema = s.components.1 ++ ":" ++ s.components.2) ∧
      (':' ∉ s.schema.toList → s.components = (s.schema, "")) := by
  unfold EntitySpec.components
  cases hsplit : splitAtFirst ':' s.schema.toList with
  | none =>
    have hnone := splitAtFirst_eq_none_iff.mp hsplit
    simp [hnone]
  | some pt =>
    obtain ⟨p, t⟩ := pt
    obtain ⟨hp, hs⟩ := splitAtFirst_eq_some hsplit
    refine ⟨by simpa [String.toList_ofList] using hp, fun _ => ?_, fun h => absurd (by simp [hs]) h⟩
    apply String.toList_injective
    simp [String.toList_append, String.toList_ofList, hs]

end AssetBroker
