import Mathlib.Data.List.Basic

/-!
# Tagged values

A string of values, each behind its tag and its length.  A reader that knows
none of the tags still finds the end of every value.
-/

namespace VehicleRecorder.TagLengthValue

/-- A value with its tag, of a length that fits a byte. -/
structure Tagged where
  tag : UInt8
  value : List UInt8
  short : value.length < 256
  deriving DecidableEq

/-- An item as it is written. -/
def Tagged.encode (i : Tagged) : List UInt8 :=
  i.tag :: UInt8.ofNat i.value.length :: i.value

/-- Items one behind the other. -/
def encode (items : List Tagged) : List UInt8 := items.flatMap Tagged.encode

@[simp] theorem encode_nil : encode [] = [] := rfl

@[simp] theorem encode_cons (i : Tagged) (items : List Tagged) :
    encode (i :: items) = i.encode ++ encode items := List.flatMap_cons

theorem encode_append (xs ys : List Tagged) :
    encode (xs ++ ys) = encode xs ++ encode ys := List.flatMap_append

theorem length_take_short (len : UInt8) (rest : List UInt8) :
    (rest.take len.toNat).length < 256 :=
  Nat.lt_of_le_of_lt (List.length_take_le _ _) len.toNat_lt

/-- The items of a string, at most as many as there is fuel; nothing if the last
one is cut short. -/
def decodeFrom : ℕ → List UInt8 → Option (List Tagged)
  | _, [] => some []
  | fuel + 1, tag :: len :: rest =>
      if len.toNat ≤ rest.length then
        (decodeFrom fuel (rest.drop len.toNat)).map
          (⟨tag, rest.take len.toNat, length_take_short len rest⟩ :: ·)
      else none
  | _, _ => none

/-- The items of a string. -/
def decode (bs : List UInt8) : Option (List Tagged) := decodeFrom bs.length bs

theorem decodeFrom_item (fuel : ℕ) (i : Tagged) (rest : List UInt8) :
    decodeFrom (fuel + 1) (i.encode ++ rest) =
      (decodeFrom fuel rest).map (i :: ·) := by
  have hlen : (UInt8.ofNat i.value.length).toNat = i.value.length := by
    rw [UInt8.toNat_ofNat', Nat.mod_eq_of_lt i.short]
  simp only [Tagged.encode, List.cons_append, decodeFrom]
  rw [if_pos (by rw [hlen, List.length_append]; exact Nat.le_add_right _ _)]
  simp only [hlen, List.drop_left, List.take_left]

theorem decodeFrom_encode (items : List Tagged) {fuel : ℕ}
    (h : items.length ≤ fuel) :
    decodeFrom fuel (encode items) = some items := by
  induction items generalizing fuel with
  | nil => cases fuel <;> rfl
  | cons i items ih =>
      obtain ⟨fuel, rfl⟩ := Nat.exists_eq_add_of_le' h
      rw [List.length_cons, ← Nat.add_assoc, encode_cons, decodeFrom_item,
        ih (Nat.le_add_left _ _), Option.map_some]

theorem length_le_encode (items : List Tagged) :
    items.length ≤ (encode items).length := by
  induction items with
  | nil => exact Nat.le_refl 0
  | cons i items ih =>
      rw [encode_cons, List.length_append, List.length_cons, Tagged.encode,
        List.length_cons]
      omega

/-- The items written are the items read. -/
theorem decode_encode (items : List Tagged) :
    decode (encode items) = some items :=
  decodeFrom_encode items (length_le_encode items)

end VehicleRecorder.TagLengthValue
