import Mathlib.Data.Rat.Defs

set_option autoImplicit false

/-!
# JSON values

Values over any type of texts, with two measures of their depth: the containers that
are open at once, and the steps from the root to the deepest value.
-/

namespace CartoSentry.Foundation

universe u

/-- A double by its value, with the ones that have none. -/
inductive Double where
  | finite (value : ℚ)
  | negativeZero
  | infinity (negative : Bool)
  | nan
  deriving DecidableEq, Repr

def Double.isFinite : Double → Bool
  | .finite _ | .negativeZero => true
  | .infinity _ | .nan => false

inductive JsonValue (Text : Type u) where
  | null
  | boolean (value : Bool)
  | integer (value : Int)
  | real (value : Double)
  | string (text : Text)
  | array (items : List (JsonValue Text))
  | object (entries : List (Text × JsonValue Text))

namespace JsonValue

variable {Text : Type u}

/-- What holds of a value once it holds of all it contains holds of every value. -/
theorem induction {P : JsonValue Text → Prop} (null : P .null)
    (boolean : ∀ value, P (.boolean value)) (integer : ∀ value, P (.integer value))
    (real : ∀ value, P (.real value)) (string : ∀ text, P (.string text))
    (array : ∀ items, (∀ item ∈ items, P item) → P (.array items))
    (object : ∀ entries, (∀ entry ∈ entries, P entry.2) → P (.object entries)) :
    ∀ value, P value := by
  have nothing : ∀ {A : Type u} {Q : A → Prop}, ∀ item ∈ ([] : List A), Q item := by
    intro A Q item hitem
    cases hitem
  exact @JsonValue.rec Text P (fun items => ∀ item ∈ items, P item)
    (fun entries => ∀ entry ∈ entries, P entry.2) (fun entry => P entry.2)
    null boolean integer real string array object
    nothing (fun head tail hhead htail => List.forall_mem_cons.mpr ⟨hhead, htail⟩)
    nothing (fun head tail hhead htail => List.forall_mem_cons.mpr ⟨hhead, htail⟩)
    (fun text value hvalue => hvalue)

/-! ## Depth -/

mutual

/-- The most containers that are open at once. -/
def nesting : JsonValue Text → Nat
  | .array items => nestingItems items + 1
  | .object entries => nestingEntries entries + 1
  | .null | .boolean _ | .integer _ | .real _ | .string _ => 0

def nestingItems : List (JsonValue Text) → Nat
  | [] => 0
  | item :: items => max item.nesting (nestingItems items)

def nestingEntries : List (Text × JsonValue Text) → Nat
  | [] => 0
  | (_, item) :: entries => max item.nesting (nestingEntries entries)

end

mutual

/-- The steps from the value to the deepest one in it. -/
def height : JsonValue Text → Nat
  | .array items => heightItems items
  | .object entries => heightEntries entries
  | .null | .boolean _ | .integer _ | .real _ | .string _ => 0

def heightItems : List (JsonValue Text) → Nat
  | [] => 0
  | item :: items => max (item.height + 1) (heightItems items)

def heightEntries : List (Text × JsonValue Text) → Nat
  | [] => 0
  | (_, item) :: entries => max (item.height + 1) (heightEntries entries)

end

theorem nestingItems_le_iff {items : List (JsonValue Text)} {bound : Nat} :
    nestingItems items ≤ bound ↔ ∀ item ∈ items, item.nesting ≤ bound := by
  induction items with
  | nil => simp [nestingItems]
  | cons item items ih => rw [nestingItems, Nat.max_le, List.forall_mem_cons, ih]

theorem nestingEntries_le_iff {entries : List (Text × JsonValue Text)} {bound : Nat} :
    nestingEntries entries ≤ bound ↔ ∀ entry ∈ entries, entry.2.nesting ≤ bound := by
  induction entries with
  | nil => simp [nestingEntries]
  | cons entry entries ih => rw [nestingEntries, Nat.max_le, List.forall_mem_cons, ih]

theorem heightItems_le_iff {items : List (JsonValue Text)} {bound : Nat} :
    heightItems items ≤ bound ↔ ∀ item ∈ items, item.height + 1 ≤ bound := by
  induction items with
  | nil => simp [heightItems]
  | cons item items ih => rw [heightItems, Nat.max_le, List.forall_mem_cons, ih]

theorem heightEntries_le_iff {entries : List (Text × JsonValue Text)} {bound : Nat} :
    heightEntries entries ≤ bound ↔ ∀ entry ∈ entries, entry.2.height + 1 ≤ bound := by
  induction entries with
  | nil => simp [heightEntries]
  | cons entry entries ih => rw [heightEntries, Nat.max_le, List.forall_mem_cons, ih]

/-- The containers that are open above a value are as many as the steps to it. -/
theorem height_le_nesting (value : JsonValue Text) : value.height ≤ value.nesting := by
  induction value using induction with
  | null | boolean | integer | real | string => exact le_rfl
  | array items ih =>
    rw [height, nesting, heightItems_le_iff]
    intro item hitem
    have hle := nestingItems_le_iff.mp le_rfl item hitem
    have hdeep := ih item hitem
    omega
  | object entries ih =>
    rw [height, nesting, heightEntries_le_iff]
    intro entry hentry
    have hle := nestingEntries_le_iff.mp le_rfl entry hentry
    have hdeep := ih entry hentry
    omega

/-- Only an empty container is open without a value one step below. -/
theorem nesting_le_height_add_one (value : JsonValue Text) : value.nesting ≤ value.height + 1 := by
  induction value using induction with
  | null | boolean | integer | real | string => exact Nat.zero_le _
  | array items ih =>
    rw [height, nesting, Nat.add_le_add_iff_right, nestingItems_le_iff]
    intro item hitem
    have hle := heightItems_le_iff.mp le_rfl item hitem
    have hdeep := ih item hitem
    omega
  | object entries ih =>
    rw [height, nesting, Nat.add_le_add_iff_right, nestingEntries_le_iff]
    intro entry hentry
    have hle := heightEntries_le_iff.mp le_rfl entry hentry
    have hdeep := ih entry hentry
    omega

/-! ## What a value contains -/

mutual

/-- A value and all that it contains. -/
def subvalues : JsonValue Text → List (JsonValue Text)
  | .array items => .array items :: subvaluesItems items
  | .object entries => .object entries :: subvaluesEntries entries
  | .null => [.null]
  | .boolean value => [.boolean value]
  | .integer value => [.integer value]
  | .real value => [.real value]
  | .string text => [.string text]

def subvaluesItems : List (JsonValue Text) → List (JsonValue Text)
  | [] => []
  | item :: items => item.subvalues ++ subvaluesItems items

def subvaluesEntries : List (Text × JsonValue Text) → List (JsonValue Text)
  | [] => []
  | (_, item) :: entries => item.subvalues ++ subvaluesEntries entries

end

theorem mem_subvaluesItems {items : List (JsonValue Text)} {value : JsonValue Text} :
    value ∈ subvaluesItems items ↔ ∃ item ∈ items, value ∈ item.subvalues := by
  induction items with
  | nil => simp [subvaluesItems]
  | cons item items ih => simp [subvaluesItems, ih]

theorem mem_subvaluesEntries {entries : List (Text × JsonValue Text)} {value : JsonValue Text} :
    value ∈ subvaluesEntries entries ↔ ∃ entry ∈ entries, value ∈ entry.2.subvalues := by
  induction entries with
  | nil => simp [subvaluesEntries]
  | cons entry entries ih => simp [subvaluesEntries, ih]

end JsonValue

end CartoSentry.Foundation
