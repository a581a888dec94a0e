import AssetBroker.Cardinality

/-! What a length check decides. An exact pairing passes with two equal lengths.
The canonical length is the length of every argument that may not be repeated,
one when all may be, and the check fails, listing every argument, exactly when
the arguments that may not be repeated disagree. A broadcast batch has the
length it was brought to, and a broadcast to the canonical length never fails:
the check has already made sure that each argument has that length or one
element to repeat, and that the length is positive. -/

namespace AssetBroker

namespace Extent

@[simp] theorem len_new (name : String) (len : Nat) (b : Bool) : (new name len b).len = len := rfl

@[simp] theorem name_new (name : String) (len : Nat) (b : Bool) : (new name len b).name = name := rfl

@[simp] theorem broadcastable_new (name : String) (len : Nat) (b : Bool) :
    (new name len b).broadcastable = (b && len == 1) := rfl

@[simp] theorem len_of {α : Type} (arg : Normalized α) (rule : Broadcast) : (of arg rule).len = arg.length := rfl

@[simp] theorem name_of {α : Type} (arg : Normalized α) (rule : Broadcast) : (of arg rule).name = arg.name := rfl

@[simp] theorem broadcastable_of {α : Type} (arg : Normalized α) (rule : Broadcast) :
    (of arg rule).broadcastable = (allows rule arg && arg.length == 1) := rfl

@[simp] theorem allows_never {α : Type} (arg : Normalized α) : allows .never arg = false := rfl

@[simp] theorem allows_ifSingular {α : Type} (arg : Normalized α) : allows .ifSingular arg = arg.singular := rfl

@[simp] theorem allows_ifSingleElement {α : Type} (arg : Normalized α) :
    allows .ifSingleElement arg = (arg.length == 1) := rfl

end Extent

theorem requireEqual_eq_ok {left right : Extent} {n : Nat} :
    requireEqual left right = .ok n ↔ left.len = right.len ∧ n = left.len := by
  unfold requireEqual
  split <;> simp_all [eq_comm]

theorem Normalized.length_pos {α : Type} (arg : Normalized α) : 0 < arg.length := arg.batch.length_pos

/-- The canonical length is the length of every extent that may not be repeated, and one
when every extent may be. -/
theorem canonicalLength_eq_ok_iff {es : List Extent} {len : Nat} :
    canonicalLength es = .ok len ↔
      (∀ e ∈ es, e.broadcastable = false → e.len = len) ∧ ((∀ e ∈ es, e.broadcastable = true) → len = 1) := by
  -- both sides read only the lengths of the extents that may not be repeated
  have hfixed : (∀ e ∈ es, e.broadcastable = false → e.len = len) ↔
      ∀ l ∈ (es.filter (!·.broadcastable)).map (·.len), l = len := by
    rw [List.forall_mem_map]
    simp
  have hnone : (∀ e ∈ es, e.broadcastable = true) ↔ (es.filter (!·.broadcastable)).map (·.len) = [] := by simp
  rw [hfixed, hnone]
  unfold canonicalLength
  generalize (es.filter (!·.broadcastable)).map (·.len) = lens
  cases lens with
  | nil => simp [eq_comm]
  | cons l rest =>
    simp only [List.mem_cons, forall_eq_or_imp, reduceCtorEq, false_implies, and_true]
    split
    · next hall =>
      have hrest : ∀ x ∈ rest, x = l := by simpa using List.all_eq_true.mp hall
      constructor
      · intro h
        cases h
        exact ⟨rfl, hrest⟩
      · rintro ⟨rfl, -⟩
        rfl
    · next hall =>
      simp only [reduceCtorEq, false_iff, not_and]
      intro hl hrest
      apply hall
      exact List.all_eq_true.mpr fun x hx => by simp [hrest x hx, hl]
      

/-- Every argument that may not be repeated has the canonical length. -/
theorem canonicalLength_eq_ok {es : List Extent} {len : Nat} (h : canonicalLength es = .ok len)
    {e : Extent} (he : e ∈ es) (hb : e.broadcastable = false) : e.len = len :=
  (canonicalLength_eq_ok_iff.mp h).1 e he hb

/-- The only failure of the check lists every extent with its length, in order. -/
theorem canonicalLength_eq_error {es : List Extent} {err : CardinalityError}
    (h : canonicalLength es = .error err) : err = .mismatch (es.map fun e => (e.name, e.len)) := by
  unfold canonicalLength at h
  split at h
  · cases h
  · split at h
    · cases h
    · exact (Except.error.inj h).symm

/-- Extents that may not be repeated and share no length fail the check. -/
theorem canonicalLength_of_disagree {es : List Extent}
    (h : ¬∃ len, ∀ e ∈ es, e.broadcastable = false → e.len = len) :
    canonicalLength es = .error (.mismatch (es.map fun e => (e.name, e.len))) := by
  cases hc : canonicalLength es with
  | ok len => exact absurd ⟨len, (canonicalLength_eq_ok_iff.mp hc).1⟩ h
  | error err => rw [canonicalLength_eq_error hc]

/-- After a passed check, each extent has the canonical length or is repeatable with one element. -/
theorem canonicalLength_covers {es : List Extent} {len : Nat} (h : canonicalLength es = .ok len)
    {e : Extent} (he : e ∈ es) : e.len = len ∨ (e.broadcastable = true ∧ e.len = 1) := by
  cases hb : e.broadcastable with
  | false => exact .inl ((canonicalLength_eq_ok_iff.mp h).1 e he hb)
  | true => exact .inr ⟨rfl, e.len_eq_one hb⟩

/-- A length that every extent has, or may be repeated to, passes the check. -/
theorem canonicalLength_isOk_of_covered {es : List Extent} {len : Nat}
    (h : ∀ e ∈ es, e.len = len ∨ (e.broadcastable = true ∧ e.len = 1)) : ∃ len', canonicalLength es = .ok len' := by
  have hfixed : ∀ e ∈ es, e.broadcastable = false → e.len = len := fun e he hb => by
    rcases h e he with h | ⟨h, -⟩
    · exact h
    · simp [hb] at h
  by_cases hall : ∀ e ∈ es, e.broadcastable = true
  -- with every extent repeatable the length is one, whatever `len` is
  · exact ⟨1, canonicalLength_eq_ok_iff.mpr ⟨fun e he hb => by simp [hall e he] at hb, fun _ => rfl⟩⟩
  · exact ⟨len, canonicalLength_eq_ok_iff.mpr ⟨hfixed, fun h => absurd h hall⟩⟩

/-- A passed check over extents of positive length gives a positive length. -/
theorem canonicalLength_pos {es : List Extent} {len : Nat} (h : canonicalLength es = .ok len)
    (hpos : ∀ e ∈ es, 0 < e.len) : 0 < len := by
  by_cases hall : ∀ e ∈ es, e.broadcastable = true
  · rw [(canonicalLength_eq_ok_iff.mp h).2 hall]
    exact Nat.one_pos
  · simp only [Classical.not_forall, Bool.not_eq_true] at hall
    obtain ⟨e, he, hb⟩ := hall
    rw [← (canonicalLength_eq_ok_iff.mp h).1 e he hb]
    exact hpos e he

theorem Normalized.length_of_broadcast {α : Type} {arg : Normalized α} {len : Nat} {b : Batch α}
    (h : arg.broadcast len = .ok b) : b.length = len := by
  unfold Normalized.broadcast at h
  split at h
  · next hlen =>
    cases h
    exact hlen
  · split at h
    · cases h
      simp [Batch.length]
    · cases h


theorem requireEqual_of_len_eq {left right : Extent} (h : left.len = right.len) :
    requireEqual left right = .ok left.len :=
  if_pos h

theorem requireEqual_of_len_ne {left right : Extent} (h : left.len ≠ right.len) :
    requireEqual left right = .error (.exactMismatch left.name left.len right.name right.len) :=
  if_neg h

section SingleElement

variable {α β : Type} {r : Normalized α} {s : Normalized β}

/-- Two arguments, each repeatable when it holds one element, pair at the longer length
when their lengths are equal or one of them is one. -/
theorem canonicalLength_singleElement_ok (h : r.length = s.length ∨ r.length = 1 ∨ s.length = 1) :
    canonicalLength [Extent.of r .ifSingleElement, Extent.of s .ifSingleElement] = .ok (max r.length s.length) := by
  have hr := r.length_pos
  have hs := s.length_pos
  refine canonicalLength_eq_ok_iff.mpr ⟨?_, ?_⟩
  · simp only [List.mem_cons, List.not_mem_nil, or_false, forall_eq_or_imp, forall_eq, Extent.broadcastable_of,
      Extent.allows_ifSingleElement, Bool.and_self, beq_eq_false_iff_ne, Extent.len_of]
    omega
  · simp only [List.mem_cons, List.not_mem_nil, or_false, forall_eq_or_imp, forall_eq, Extent.broadcastable_of,
      Extent.allows_ifSingleElement, Bool.and_self, beq_iff_eq, and_imp]
    omega

/-- Two arguments of different lengths, neither of one element, do not pair, and both are
reported. -/
theorem canonicalLength_singleElement_error (h : ¬(r.length = s.length ∨ r.length = 1 ∨ s.length = 1)) :
    canonicalLength [Extent.of r .ifSingleElement, Extent.of s .ifSingleElement] =
      .error (.mismatch [(r.name, r.length), (s.name, s.length)]) := by
  refine canonicalLength_of_disagree ?_
  rintro ⟨len, hlen⟩
  have hr := hlen _ (List.mem_cons_self ..) (by simp; omega)
  have hs := hlen _ (List.mem_cons_of_mem _ (List.mem_singleton_self _)) (by simp; omega)
  simp only [Extent.len_of] at hr hs
  omega

end SingleElement

/-- The length check in full: it passes with the one length every fixed extent has (one when
there is none), and otherwise lists every extent. -/
theorem canonicalLength_characterised :
    (∀ (name : String) (len : Nat) (b : Bool),
      (Extent.new name len b).broadcastable = true ↔ b = true ∧ len = 1) ∧
    (∀ {α : Type} (arg : Normalized α),
      (Extent.of arg .never).broadcastable = false ∧
      ((Extent.of arg .ifSingular).broadcastable = true ↔ arg.singular = true ∧ arg.length = 1) ∧
      ((Extent.of arg .ifSingleElement).broadcastable = true ↔ arg.length = 1)) ∧
    ∀ es : List Extent,
      (∀ len, canonicalLength es = .ok len ↔
        (∀ e ∈ es, e.broadcastable = false → e.len = len) ∧ ((∀ e ∈ es, e.broadcastable = true) → len = 1)) ∧
      ((¬∃ len, ∀ e ∈ es, e.broadcastable = false → e.len = len) →
        canonicalLength es = .error (.mismatch (es.map fun e => (e.name, e.len)))) ∧
      (∀ len, canonicalLength es = .ok len → ∀ e ∈ es, e.len = len ∨ (e.broadcastable = true ∧ e.len = 1)) ∧
      (∀ err, canonicalLength es = .error err →
        ¬∃ len, ∀ e ∈ es, e.len = len ∨ (e.broadcastable = true ∧ e.len = 1)) := by
  refine ⟨fun name len b => by simp, fun arg => ⟨rfl, by simp, by simp⟩, fun es => ?_⟩
  refine ⟨fun _ => canonicalLength_eq_ok_iff, canonicalLength_of_disagree,
    fun _ h _ he => canonicalLength_covers h he, ?_⟩
  rintro err herr ⟨len, hlen⟩
  obtain ⟨len', hok⟩ := canonicalLength_isOk_of_covered hlen
  rw [herr] at hok
  cases hok

namespace Normalized

variable {α : Type} {arg : Normalized α} {n : Nat}

theorem broadcast_of_length_eq (h : arg.length = n) : arg.broadcast n = .ok arg.batch :=
  if_pos h

/-- A single element is repeated to any positive length. -/
theorem broadcast_of_single {x : α} (hx : arg.batch.toList = [x]) (hn : 0 < n) :
    ∃ b, arg.broadcast n = .ok b ∧ b.toList = List.replicate n x := by
  by_cases h : arg.length = n
  -- a length of one is already reached: the batch is kept
  · have h1 : n = 1 := by rw [← h, length, Batch.length, hx]; rfl
    subst h1
    exact ⟨arg.batch, broadcast_of_length_eq h, hx⟩
  · obtain ⟨k, rfl⟩ : ∃ k, n = k + 1 := ⟨n - 1, by omega⟩
    refine ⟨Batch.replicate (k + 1) x (Nat.succ_pos k), ?_, rfl⟩
    rw [broadcast, if_neg h]
    simp only [hx]

/-- Any other argument and length are refused, naming the argument and its length. -/
theorem broadcast_of_not_fits (h : ¬(arg.length = n ∨ (arg.length = 1 ∧ 0 < n))) :
    arg.broadcast n = .error (.mismatch [(arg.name, arg.length)]) := by
  unfold broadcast
  rw [if_neg fun h' => h (.inl h')]
  split
  · next x k hx =>
    have h1 : arg.length = 1 := by rw [length, Batch.length, hx]; rfl
    exact absurd (.inr ⟨h1, Nat.succ_pos k⟩) h
  · rfl

theorem exists_single_of_length_eq_one (h : arg.length = 1) : ∃ x, arg.batch.toList = [x] :=
  List.length_eq_one_iff.mp h

/-- An argument with the length, or with one element to repeat, is brought to a positive
length without error: kept as it is when it has the length, its element repeated otherwise. -/
theorem broadcast_of_covered (hn : 0 < n) (h : arg.length = n ∨ arg.length = 1) :
    ∃ b, arg.broadcast n = .ok b ∧ b.length = n ∧ (arg.length = n → b = arg.batch) ∧
      (arg.length ≠ n → ∃ x, arg.batch.toList = [x] ∧ b.toList = List.replicate n x) := by
  by_cases hlen : arg.length = n
  · exact ⟨arg.batch, broadcast_of_length_eq hlen, hlen, fun _ => rfl, fun h' => absurd hlen h'⟩
  · obtain ⟨x, hx⟩ := exists_single_of_length_eq_one (h.resolve_left hlen)
    obtain ⟨b, hb, hbx⟩ := broadcast_of_single hx hn
    exact ⟨b, hb, length_of_broadcast hb, fun h' => absurd h' hlen, fun _ => ⟨x, hx, hbx⟩⟩

/-- A broadcast succeeds exactly for an argument of the length, or of one element and a
positive length. -/
theorem broadcast_isOk_iff : (∃ b, arg.broadcast n = .ok b) ↔ arg.length = n ∨ (arg.length = 1 ∧ 0 < n) := by
  constructor
  · rintro ⟨b, hb⟩
    refine Classical.byContradiction fun h => ?_
    rw [broadcast_of_not_fits h] at hb
    cases hb
  · rintro (h | ⟨h1, hn⟩)
    · exact ⟨arg.batch, broadcast_of_length_eq h⟩
    · obtain ⟨x, hx⟩ := exists_single_of_length_eq_one h1
      obtain ⟨b, hb, -⟩ := broadcast_of_single hx hn
      exact ⟨b, hb⟩

end Normalized

/-- A normalised argument with the rule its extent is taken under. -/
structure RuledArgument where
  {α : Type}
  arg : Normalized α
  rule : Broadcast

/-- After a passed length check every argument is brought to the canonical length without
error, so the broadcast's own refusal is never reached from it. -/
theorem broadcast_agrees_with_canonicalLength :
    (∀ (args : List RuledArgument) (len : Nat),
      canonicalLength (args.map fun a => Extent.of a.arg a.rule) = .ok len →
      0 < len ∧ ∀ a ∈ args, ∃ b, a.arg.broadcast len = .ok b ∧ b.length = len ∧
        (a.arg.length = len → b = a.arg.batch) ∧
        (a.arg.length ≠ len → ∃ x, a.arg.batch.toList = [x] ∧ b.toList = List.replicate len x)) ∧
    (∀ {α : Type} (arg : Normalized α) (n : Nat),
      ((∃ b, arg.broadcast n = .ok b) ↔ arg.length = n ∨ (arg.length = 1 ∧ 0 < n)) ∧
      (¬(arg.length = n ∨ (arg.length = 1 ∧ 0 < n)) →
        arg.broadcast n = .error (.mismatch [(arg.name, arg.length)]))) := by
  refine ⟨fun args len h => ?_, fun arg n => ⟨Normalized.broadcast_isOk_iff, Normalized.broadcast_of_not_fits⟩⟩
  -- every extent of a normalised argument has a positive length, so the canonical one is positive
  have hpos : 0 < len := canonicalLength_pos h (by simp [Normalized.length_pos])
  refine ⟨hpos, fun a ha => Normalized.broadcast_of_covered hpos ?_⟩
  rcases canonicalLength_covers h (List.mem_map_of_mem ha) with hlen | ⟨-, hlen⟩
  · exact .inl hlen
  · exact .inr hlen

end AssetBroker
