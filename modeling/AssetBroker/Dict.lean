/-! Maps from text keys, kept sorted by key with one entry per key. Keys compare
by code point, which is also the order of their UTF-8 bytes. A map carries the
proof that its keys strictly increase, so every map is in the order it is written
and read in. Inserting a key that is present replaces its value where it stands,
so building a map from a list of entries lets the later entry of a key win. -/

namespace AssetBroker

/-- A map from text keys, as its entries in strictly increasing key order. -/
structure Dict (α : Type) where
  toList : List (String × α)
  sorted : toList.Pairwise (·.1 < ·.1)

namespace Dict

variable {α β : Type}

instance : EmptyCollection (Dict α) := ⟨⟨[], .nil⟩⟩

instance : Inhabited (Dict α) := ⟨{}⟩

/-- Maps with the same entries are equal. -/
theorem ext {a b : Dict α} (h : a.toList = b.toList) : a = b := by
  cases a
  cases b
  cases h
  rfl

/-- Puts `(key, value)` into a sorted list of entries, replacing an entry of the same key. -/
def insertEntry (key : String) (value : α) : List (String × α) → List (String × α)
  | [] => [(key, value)]
  | (k, v) :: rest =>
    if key < k then (key, value) :: (k, v) :: rest
    else if key = k then (key, value) :: rest
    else (k, v) :: insertEntry key value rest

section InsertEntry

variable {key : String} {value : α}

theorem mem_insertEntry {l : List (String × α)} {e : String × α} (h : e ∈ insertEntry key value l) :
    e = (key, value) ∨ e ∈ l := by
  induction l with
  | nil => simpa [insertEntry] using h
  | cons x rest ih =>
    unfold insertEntry at h
    split at h
    · simpa using h
    · split at h
      -- the entry of an equal key is replaced
      · rcases List.mem_cons.mp h with rfl | h
        · exact .inl rfl
        · exact .inr (List.mem_cons_of_mem _ h)
      · rcases List.mem_cons.mp h with rfl | h
        · exact .inr (List.mem_cons_self ..)
        · rcases ih h with rfl | h
          · exact .inl rfl
          · exact .inr (List.mem_cons_of_mem _ h)

theorem insertEntry_sorted {l : List (String × α)} (h : l.Pairwise (·.1 < ·.1)) :
    (insertEntry key value l).Pairwise (·.1 < ·.1) := by
  induction l with
  | nil => simp [insertEntry]
  | cons x rest ih =>
    rw [List.pairwise_cons] at h
    unfold insertEntry
    split
    -- a smaller key goes in front
    · next hlt =>
      refine List.pairwise_cons.mpr ⟨fun e he => ?_, List.pairwise_cons.mpr h⟩
      rcases List.mem_cons.mp he with rfl | he
      · exact hlt
      · exact String.lt_trans hlt (h.1 e he)
    · split
      -- an equal key replaces the entry where it stands
      · next heq =>
        subst heq
        exact List.pairwise_cons.mpr h
      -- a larger key goes further in
      · next hnlt hne =>
        have hgt : x.1 < key := String.not_le.mp fun hle => hne (String.le_antisymm hle (String.not_lt.mp hnlt))
        refine List.pairwise_cons.mpr ⟨fun e he => ?_, ih h.2⟩
        rcases mem_insertEntry he with rfl | he
        · exact hgt
        · exact h.1 e he

end InsertEntry

def insert (m : Dict α) (key : String) (value : α) : Dict α :=
  ⟨insertEntry key value m.toList, insertEntry_sorted m.sorted⟩

def get? (m : Dict α) (key : String) : Option α := (m.toList.find? (·.1 == key)).map (·.2)

/-- The map of `entries`, a later entry of a key replacing an earlier one. -/
def ofList (entries : List (String × α)) : Dict α :=
  entries.foldl (fun m e => m.insert e.1 e.2) {}

def keys (m : Dict α) : List String := m.toList.map (·.1)

def size (m : Dict α) : Nat := m.toList.length

def map (f : α → β) (m : Dict α) : Dict β :=
  ⟨m.toList.map fun e => (e.1, f e.2), List.pairwise_map.mpr m.sorted⟩

/-- Two maps are equal when they hold the same keys with equal values. -/
instance [BEq α] : BEq (Dict α) := ⟨fun a b => a.toList == b.toList⟩

@[simp] theorem toList_empty : ({} : Dict α).toList = [] := rfl

@[simp] theorem insert_toList (m : Dict α) (key : String) (value : α) :
    (m.insert key value).toList = insertEntry key value m.toList := rfl

@[simp] theorem map_toList (f : α → β) (m : Dict α) :
    (m.map f).toList = m.toList.map fun e => (e.1, f e.2) := rfl

end Dict

end AssetBroker
