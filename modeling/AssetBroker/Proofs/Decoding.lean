import AssetBroker.Proofs.Dict

/-! Reading values without a tag, and reading back what was written. A value is
read by offering the document to each of its variants in the order they are
declared, the first that reads it winning: a boolean, a whole number in the 64-bit
signed range, any number as a double, text. So a number that is an integer in range
is an integer, every other number a double, and `null`, arrays and objects are no
value. Writing a value and reading it back gives the value, except a double that is
not finite, which is written as `null`; the same holds of maps of such values, and of
specifications, whose omitted data is the empty map. -/

namespace AssetBroker

/-- The integer a number is, for the two classes of integers. -/
def Json.Number.toInt? : Json.Number → Option Int
  | .nat n => some n.toNat
  | .neg n => some n.toInt
  | .float _ => none

/-- Reading without a tag: the document goes to each variant in turn, and the first that
reads it wins. -/
def untagged {α : Type} (variants : List (Json → Option α)) (j : Json) : Except DecodeError α :=
  match variants.findSome? (· j) with
  | some a => .ok a
  | none => .error .noVariant

@[simp] theorem untagged_nil {α : Type} (j : Json) : untagged ([] : List (Json → Option α)) j = .error .noVariant :=
  rfl

@[simp] theorem untagged_cons {α : Type} (read : Json → Option α) (rest : List (Json → Option α)) (j : Json) :
    untagged (read :: rest) j =
      match read j with
      | some a => .ok a
      | none => untagged rest j := by
  unfold untagged
  rw [List.findSome?_cons]
  cases read j <;> rfl

namespace Value

def readBool? : Json → Option Bool
  | .bool b => some b
  | _ => none

/-- A number that is an integer in the 64-bit signed range. -/
def readInt? : Json → Option Int64
  | .num k =>
    match k.toInt? with
    | some z => if Int64.minValue.toInt ≤ z ∧ z ≤ Int64.maxValue.toInt then some (Int64.ofInt z) else none
    | none => none
  | _ => none

/-- Any number, as a double. -/
def readFloat? : Json → Option Float
  | .num k => some k.toFloat
  | _ => none

def readString? : Json → Option String
  | .str s => some s
  | _ => none

/-- The variants of a value in the order they are declared, each with how it reads a document. -/
def variants : List (Json → Option Value) :=
  [fun j => (readBool? j).map .bool, fun j => (readInt? j).map .int, fun j => (readFloat? j).map .float,
    fun j => (readString? j).map .string]

/-- A value other than a double that is not finite: one that is written as itself. -/
def isFinite : Value → Bool
  | .float x => x.isFinite
  | _ => true

/-- The integer reader on a number that is the integer `z`. -/
theorem readInt?_of_toInt? {k : Json.Number} {z : Int} (hk : k.toInt? = some z) :
    readInt? (.num k) = if Int64.minValue.toInt ≤ z ∧ z ≤ Int64.maxValue.toInt then some (Int64.ofInt z) else none := by
  simp only [readInt?, hk]

theorem readInt?_nat (n : UInt64) :
    readInt? (.num (.nat n)) = if n.toNat < 2 ^ 63 then some (Int64.ofNat n.toNat) else none := by
  rw [readInt?_of_toInt? rfl, Int64.toInt_minValue, Int64.toInt_maxValue]
  by_cases h : n.toNat < 2 ^ 63
  · rw [if_pos h, if_pos (by omega), Int64.ofInt_eq_ofNat]
  · rw [if_neg h, if_neg (by omega)]

/-- A negative number is always in range. -/
theorem readInt?_neg (n : Int64) : readInt? (.num (.neg n)) = some n := by
  rw [readInt?_of_toInt? rfl, if_pos ⟨Int64.minValue_le_toInt n, Int64.toInt_le n⟩, Int64.ofInt_toInt]

theorem ofJson_num_nat (n : UInt64) :
    ofJson (.num (.nat n)) = if n.toNat < 2 ^ 63 then .ok (.int (Int64.ofNat n.toNat)) else .ok (.float n.toFloat) :=
  rfl

/-- On a number, the integer reader is tried first and the double reader takes the rest. -/
theorem untagged_variants_num (k : Json.Number) :
    untagged variants (.num k) = .ok ((readInt? (.num k)).elim (.float k.toFloat) .int) := by
  simp only [variants, untagged_cons, readBool?, Option.map_none]
  cases readInt? (.num k) <;> rfl

/-- The reader is untagged reading over the variants in declaration order. -/
theorem ofJson_eq_untagged (j : Json) : ofJson j = untagged variants j := by
  cases j with
  | num k =>
    rw [untagged_variants_num]
    cases k with
    | nat n =>
      rw [ofJson_num_nat, readInt?_nat]
      -- both take the integer exactly below `2 ^ 63`
      by_cases h : n.toNat < 2 ^ 63
      · rw [if_pos h, if_pos h]
        rfl
      · rw [if_neg h, if_neg h]
        rfl
    | neg n =>
      rw [readInt?_neg]
      rfl
    | float x => rfl
  | null | bool b | str s | arr items | obj members => rfl

/-- A number that is an integer in the signed 64-bit range reads as that integer. -/
theorem ofJson_num_int {k : Json.Number} {z : Int} (hk : k.toInt? = some z)
    (hlo : Int64.minValue.toInt ≤ z) (hhi : z ≤ Int64.maxValue.toInt) :
    ofJson (.num k) = .ok (.int (Int64.ofInt z)) := by
  rw [ofJson_eq_untagged, untagged_variants_num, readInt?_of_toInt? hk, if_pos ⟨hlo, hhi⟩]
  rfl

/-- Every other number reads as a double. -/
theorem ofJson_num_float {k : Json.Number} (hk : ∀ z, k.toInt? = some z → ¬(Int64.minValue.toInt ≤ z ∧ z ≤ Int64.maxValue.toInt)) :
    ofJson (.num k) = .ok (.float k.toFloat) := by
  have hint : readInt? (.num k) = none := by
    cases h : k.toInt? with
    | none => simp only [readInt?, h]
    | some z => rw [readInt?_of_toInt? h, if_neg (hk z h)]
  rw [ofJson_eq_untagged, untagged_variants_num, hint]
  rfl

/-- A non-negative integer is written as a non-negative number below `2 ^ 63`. -/
theorem ofJson_ofInt64 (i : Int64) : ofJson (Json.ofInt64 i) = .ok (.int i) := by
  unfold Json.ofInt64
  split
  · rfl
  · next hneg =>
    have hnonneg : 0 ≤ i.toInt := by
      have := Int64.lt_iff_toInt_lt.not.mp hneg
      simpa using this
    have hlt := Int64.toInt_lt i
    have hnat : (i.toInt.toNat.toUInt64).toNat = i.toInt.toNat := by
      rw [Nat.toUInt64_eq, UInt64.toNat_ofNat', Nat.mod_eq_of_lt (by omega)]
    have hz : ((i.toInt.toNat.toUInt64).toNat : Int) = i.toInt := by omega
    rw [ofJson_num_int (by rw [Json.Number.toInt?, hz]) (Int64.minValue_le_toInt i) (Int64.toInt_le i),
      Int64.ofInt_toInt]

/-- Writing a value and reading it back gives the value, unless it is a double that is not finite. -/
theorem ofJson_toJson {v : Value} (hv : v.isFinite = true) : ofJson v.toJson = .ok v := by
  cases v with
  | bool b => rfl
  | int i => exact ofJson_ofInt64 i
  | float x =>
    have hx : x.isFinite = true := hv
    simp [toJson, hx, ofJson]
  | string s => rfl

/-- A double that is not finite is written as `null`, which is no value. -/
theorem ofJson_toJson_of_not_finite {x : Float} (hx : x.isFinite = false) :
    ofJson (toJson (.float x)) = .error .noVariant := by
  simp [toJson, hx, ofJson]

end Value

namespace EntitySpec

/-- A specification whose data are values written as themselves reads back as itself. -/
theorem ofJson_toJson {s : EntitySpec} (hv : ∀ e ∈ s.data.toList, e.2.isFinite = true) :
    ofJson s.toJson = .ok s := by
  have hdata : Dict.ofJson Value.ofJson (s.data.toJson Value.toJson) = .ok s.data :=
    Dict.ofJson_toJson fun e he => Value.ofJson_toJson (hv e he)
  simp [ofJson, toJson, hdata, Json.text?]
  rfl

/-- An object without data gives a specification with empty data. -/
theorem ofJson_of_no_data {members : List (String × Json)} {schema : String}
    (hdata : (Json.obj members).get? "data" = none) (hschema : (Json.obj members).get? "schema" = some (.str schema)) :
    ofJson (.obj members) = .ok { schema } := by
  simp only [ofJson]
  rw [hdata, hschema]
  rfl

end EntitySpec

/-- Untagged reading tries the variants in declaration order, so every value but a double
that is not finite reads back as itself, and so do maps and specifications of such values. -/
theorem value_decoding_round_trips :
    (∀ j : Json, Value.ofJson j = untagged Value.variants j) ∧
    (∀ b : Bool, Value.ofJson (.bool b) = .ok (.bool b)) ∧
    (∀ (k : Json.Number) (z : Int), k.toInt? = some z → Int64.minValue.toInt ≤ z → z ≤ Int64.maxValue.toInt →
      Value.ofJson (.num k) = .ok (.int (Int64.ofInt z))) ∧
    (∀ k : Json.Number, (∀ z, k.toInt? = some z → ¬(Int64.minValue.toInt ≤ z ∧ z ≤ Int64.maxValue.toInt)) →
      Value.ofJson (.num k) = .ok (.float k.toFloat)) ∧
    (∀ s : String, Value.ofJson (.str s) = .ok (.string s)) ∧
    Value.ofJson .null = .error .noVariant ∧
    (∀ items : List Json, Value.ofJson (.arr items) = .error .noVariant) ∧
    (∀ members : List (String × Json), Value.ofJson (.obj members) = .error .noVariant) ∧
    (∀ v : Value, v.isFinite = true → Value.ofJson v.toJson = .ok v) ∧
    (∀ x : Float, x.isFinite = false → Value.ofJson (Value.toJson (.float x)) = .error .noVariant) ∧
    (∀ m : Dict Value, (∀ e ∈ m.toList, e.2.isFinite = true) →
      Dict.ofJson Value.ofJson (m.toJson Value.toJson) = .ok m) ∧
    (∀ s : EntitySpec, (∀ e ∈ s.data.toList, e.2.isFinite = true) → EntitySpec.ofJson s.toJson = .ok s) ∧
    (∀ (members : List (String × Json)) (schema : String), (Json.obj members).get? "data" = none →
      (Json.obj members).get? "schema" = some (.str schema) → EntitySpec.ofJson (.obj members) = .ok { schema }) :=
  ⟨Value.ofJson_eq_untagged, fun _ => rfl, fun _ _ hk hlo hhi => Value.ofJson_num_int hk hlo hhi,
    fun _ hk => Value.ofJson_num_float hk, fun _ => rfl, rfl, fun _ => rfl, fun _ => rfl,
    fun _ hv => Value.ofJson_toJson hv, fun _ hx => Value.ofJson_toJson_of_not_finite hx,
    fun _ hv => Dict.ofJson_toJson fun e he => Value.ofJson_toJson (hv e he),
    fun _ hv => EntitySpec.ofJson_toJson hv, fun _ _ hdata hschema => EntitySpec.ofJson_of_no_data hdata hschema⟩

end AssetBroker
