import Mathlib.Data.String.Basic
import AssetBroker.Json.Decode
import AssetBroker.Json.Encode

/-! Maps in key order. Since a map's keys strictly increase, inserting its
entries one by one after smaller keys only appends them, so building a map from
the entries of a map gives that map back. Hence every map written as an object
reads back as itself, for any codec of its values that reads back what it
writes. -/

namespace AssetBroker

namespace Dict

variable {α : Type}

/-- A key above every key of the entries is appended. -/
theorem insertEntry_of_lt {key : String} {value : α} {l : List (String × α)} (h : ∀ e ∈ l, e.1 < key) :
    insertEntry key value l = l ++ [(key, value)] := by
  induction l with
  | nil => rfl
  | cons x rest ih =>
    have hx : x.1 < key := h x (List.mem_cons_self ..)
    rw [insertEntry, if_neg (lt_asymm hx), if_neg (ne_of_gt hx), ih fun e he => h e (List.mem_cons_of_mem _ he),
      List.cons_append]

/-- Inserting sorted entries after a map whose keys are all smaller appends them. -/
theorem foldl_insert_of_sorted (pre : Dict α) (rest : List (String × α))
    (h : (pre.toList ++ rest).Pairwise (·.1 < ·.1)) :
    (rest.foldl (fun m e => m.insert e.1 e.2) pre).toList = pre.toList ++ rest := by
  induction rest generalizing pre with
  | nil => simp
  | cons e rest ih =>
    have hlt : ∀ x ∈ pre.toList, x.1 < e.1 :=
      fun x hx => (List.pairwise_append.mp h).2.2 x hx e (List.mem_cons_self ..)
    have hpre : (pre.insert e.1 e.2).toList = pre.toList ++ [e] := insertEntry_of_lt hlt
    have hsplit : pre.toList ++ [e] ++ rest = pre.toList ++ e :: rest := by simp
    rw [List.foldl_cons, ih (pre.insert e.1 e.2) (by rwa [hpre, hsplit]), hpre, hsplit]

/-- Building a map from the entries of a map gives that map. -/
theorem ofList_toList (m : Dict α) : ofList m.toList = m :=
  ext (foldl_insert_of_sorted {} m.toList m.sorted)

/-! ### Writing and reading maps -/

variable {read : Json → Except DecodeError α} {write : α → Json}

/-- Reading written entries one by one inserts the values written. -/
theorem foldlM_read_written {l : List (String × α)} (hv : ∀ e ∈ l, read (write e.2) = .ok e.2) (acc : Dict α) :
    (l.map fun e => (e.1, write e.2)).foldlM (fun acc e => do pure (acc.insert e.1 (← read e.2))) acc =
      .ok (l.foldl (fun m e => m.insert e.1 e.2) acc) := by
  induction l generalizing acc with
  | nil => rfl
  | cons e rest ih =>
    simp only [List.map_cons, List.foldlM_cons, List.foldl_cons, hv e (List.mem_cons_self ..)]
    exact ih (fun x hx => hv x (List.mem_cons_of_mem _ hx)) _

/-- A map written as an object reads back as itself, when each value does. -/
theorem ofJson_toJson {m : Dict α} (hv : ∀ e ∈ m.toList, read (write e.2) = .ok e.2) :
    Dict.ofJson read (m.toJson write) = .ok m := by
  -- the object's members are the entries written, already in key order
  have hmembers : (ofList (m.toList.map fun e => (e.1, write e.2))).toList = m.toList.map fun e => (e.1, write e.2) :=
    congrArg toList (ofList_toList (m.map write))
  rw [toJson, Dict.ofJson, hmembers, foldlM_read_written hv]
  exact congrArg Except.ok (ofList_toList m)

end Dict

end AssetBroker
