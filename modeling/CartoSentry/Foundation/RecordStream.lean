import Mathlib.Algebra.Order.Group.Nat
import Mathlib.Data.List.Basic

set_option autoImplicit false

/-!
# Streams of records of one size

Bytes cut into records of one size, and a generator that decodes the records one by one until
one of them fails.
-/

namespace CartoSentry.Foundation

universe u v w

/-! ## Records of one size -/

section Slices

variable {A : Type u} (size : Nat)

/-- The complete records of the items. -/
def slices (items : List A) : List (List A) :=
  (List.range (items.length / size)).map fun index => (items.drop (size * index)).take size

variable {size}

theorem length_slices (items : List A) : (slices size items).length = items.length / size := by
  rw [slices, List.length_map, List.length_range]

/-- Items that end with a record are cut apart from those behind them. -/
theorem slices_append (hsize : 0 < size) {front : List A} {count : Nat}
    (hfront : front.length = size * count) (back : List A) :
    slices size (front ++ back) = slices size front ++ slices size back := by
  have hcount : (front ++ back).length / size = count + back.length / size := by
    rw [List.length_append, hfront, Nat.mul_add_div hsize]
  have hfirst : front.length / size = count := by
    rw [hfront, Nat.mul_div_cancel_left count hsize]
  rw [slices, slices, slices, hcount, hfirst, List.range_add, List.map_append, List.map_map]
  congr 1
  · refine List.map_congr_left fun index hindex => ?_
    have hinside : size * index + size ≤ front.length := by
      rw [hfront, ← Nat.mul_succ]
      exact Nat.mul_le_mul_left size (List.mem_range.mp hindex)
    rw [List.drop_append_of_le_length (by omega), List.take_append_of_le_length (by
      rw [List.length_drop]
      omega)]
  · refine List.map_congr_left fun index _ => ?_
    rw [Function.comp_apply, Nat.mul_add, ← hfront, List.drop_length_add_append]

theorem slices_eq_nil {items : List A} (h : items.length < size) : slices size items = [] := by
  rw [slices, Nat.div_eq_of_lt h]
  rfl

/-- What is behind the last complete record adds no record. -/
theorem slices_take_complete (hsize : 0 < size) (items : List A) :
    slices size (items.take (items.length - items.length % size)) = slices size items := by
  have hcomplete : items.length - items.length % size = size * (items.length / size) := by
    have hdivision := Nat.mod_add_div items.length size
    omega
  have hfront : (items.take (items.length - items.length % size)).length =
      size * (items.length / size) := by
    rw [List.length_take, Nat.min_eq_left (Nat.sub_le _ _), hcomplete]
  have hrest : (items.drop (items.length - items.length % size)).length < size := by
    rw [List.length_drop]
    have hmod := Nat.mod_lt items.length hsize
    have hle := Nat.mod_le items.length size
    omega
  have hboth := slices_append hsize hfront (items.drop (items.length - items.length % size))
  rw [List.take_append_drop, slices_eq_nil hrest, List.append_nil] at hboth
  exact hboth.symm

theorem length_of_mem_slices {items : List A} {record : List A}
    (h : record ∈ slices size items) : record.length = size := by
  obtain ⟨index, hindex, rfl⟩ := List.mem_map.mp h
  have hinside : size * index + size ≤ items.length := by
    rw [← Nat.mul_succ]
    exact (Nat.mul_le_mul_left size (List.mem_range.mp hindex)).trans
      (Nat.mul_div_le items.length size)
  rw [List.length_take, List.length_drop]
  omega

end Slices

/-! ## The generator -/

section Decode

variable {A : Type u} {B : Type v} {E : Type w} (decode : Nat → A → Except E B)

/-- The records decoded from an index on, up to the first that fails. -/
def decodeFrom : Nat → List A → List (Nat × B) × Option E
  | _, [] => ([], none)
  | index, item :: rest =>
    match decode index item with
    | .error failure => ([], some failure)
    | .ok value =>
      let later := decodeFrom (index + 1) rest
      ((index, value) :: later.1, later.2)

/-- The values are those of the items, with the indices from one on. -/
def Decoded : Nat → List A → List (Nat × B) → Prop
  | _, [], yielded => yielded = []
  | index, item :: rest, yielded =>
    ∃ value later, yielded = (index, value) :: later ∧ decode index item = .ok value ∧
      Decoded (index + 1) rest later

variable {decode}

theorem Decoded.length {index : Nat} {items : List A} {yielded : List (Nat × B)}
    (h : Decoded decode index items yielded) : yielded.length = items.length := by
  induction items generalizing index yielded with
  | nil =>
    cases h
    rfl
  | cons item rest ih =>
    obtain ⟨value, later, rfl, -, hlater⟩ := h
    rw [List.length_cons, List.length_cons, ih hlater]

theorem Decoded.unique {index : Nat} {items : List A} {yielded other : List (Nat × B)}
    (h : Decoded decode index items yielded) (h' : Decoded decode index items other) :
    yielded = other := by
  induction items generalizing index yielded other with
  | nil =>
    cases h
    cases h'
    rfl
  | cons item rest ih =>
    obtain ⟨value, later, rfl, hvalue, hlater⟩ := h
    obtain ⟨value', later', rfl, hvalue', hlater'⟩ := h'
    rw [Except.ok.inj (hvalue.symm.trans hvalue'), ih hlater hlater']

theorem Decoded.append {index : Nat} {items more : List A} {yielded others : List (Nat × B)}
    (h : Decoded decode index items yielded)
    (h' : Decoded decode (index + items.length) more others) :
    Decoded decode index (items ++ more) (yielded ++ others) := by
  induction items generalizing index yielded with
  | nil =>
    cases h
    exact h'
  | cons item rest ih =>
    obtain ⟨value, later, rfl, hvalue, hlater⟩ := h
    refine ⟨value, later ++ others, rfl, hvalue, ih hlater ?_⟩
    rwa [List.length_cons, Nat.add_comm rest.length 1, ← Nat.add_assoc] at h'

theorem Decoded.split {index : Nat} {items more : List A} {yielded : List (Nat × B)}
    (h : Decoded decode index (items ++ more) yielded) :
    (∃ first, Decoded decode index items first) ∧
      ∃ later, Decoded decode (index + items.length) more later := by
  induction items generalizing index yielded with
  | nil => exact ⟨⟨[], rfl⟩, yielded, h⟩
  | cons item rest ih =>
    obtain ⟨value, later, rfl, hvalue, hlater⟩ := h
    obtain ⟨⟨first, hfirst⟩, others, hothers⟩ := ih hlater
    refine ⟨⟨(index, value) :: first, value, first, rfl, hvalue, hfirst⟩, others, ?_⟩
    rwa [List.length_cons, Nat.add_comm rest.length 1, ← Nat.add_assoc]

/-- The generator yields a prefix, and everything where it meets no failure. -/
theorem decodeFrom_spec (decode : Nat → A → Except E B) (index : Nat) (items : List A) :
    (∃ count, Decoded decode index (items.take count) (decodeFrom decode index items).1) ∧
      ((decodeFrom decode index items).2 = none →
        Decoded decode index items (decodeFrom decode index items).1) := by
  induction items generalizing index with
  | nil => exact ⟨⟨0, rfl⟩, fun _ => rfl⟩
  | cons item rest ih =>
    obtain ⟨⟨count, hcount⟩, hall⟩ := ih (index + 1)
    rw [decodeFrom]
    cases hvalue : decode index item with
    | error failure => exact ⟨⟨0, rfl⟩, fun h => by cases h⟩
    | ok value =>
      exact ⟨⟨count + 1, value, _, rfl, hvalue, hcount⟩,
        fun h => ⟨value, _, rfl, hvalue, hall h⟩⟩

/-- The generator meets no failure where the items can be decoded. -/
theorem decodeFrom_eq_none {index : Nat} {items : List A} {yielded : List (Nat × B)}
    (h : Decoded decode index items yielded) : (decodeFrom decode index items).2 = none := by
  induction items generalizing index yielded with
  | nil => rfl
  | cons item rest ih =>
    obtain ⟨value, later, -, hvalue, hlater⟩ := h
    rw [decodeFrom, hvalue]
    exact ih hlater

/-- Where the index has no part in it, the items can be decoded if each of them can. -/
theorem exists_decoded_iff (hsame : ∀ index other item value,
      decode index item = .ok value → decode other item = .ok value)
    (index : Nat) (items : List A) :
    (∃ yielded, Decoded decode index items yielded) ↔
      ∀ item ∈ items, ∃ value, decode 0 item = .ok value := by
  induction items generalizing index with
  | nil => exact ⟨fun _ item hmem => absurd hmem List.not_mem_nil, fun _ => ⟨[], rfl⟩⟩
  | cons item rest ih =>
    rw [List.forall_mem_cons, ← ih (index + 1)]
    constructor
    · rintro ⟨yielded, value, later, rfl, hvalue, hlater⟩
      exact ⟨⟨value, hsame _ _ _ _ hvalue⟩, later, hlater⟩
    · rintro ⟨⟨value, hvalue⟩, later, hlater⟩
      exact ⟨(index, value) :: later, value, later, rfl, hsame _ _ _ _ hvalue, hlater⟩

end Decode

end CartoSentry.Foundation
