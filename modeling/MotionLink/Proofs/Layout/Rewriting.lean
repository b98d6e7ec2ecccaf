import Mathlib
import MotionLink.Proofs.Layout.Packing

/-!
# Payloads written again

The converse of reading packed values back. A value that was read from the bytes
of a field is written as those bytes (`FieldKind.bytes_of_read?`), so a payload
of its layout's length is packed from its own values as it was, save that a
reserved field gets zeros whatever it held (`Layout.pack_unpack`).
-/

namespace MotionLink

/-! ## One value -/

theorem LittleEndian.singleton_byte {bytes : Bytes} (length : bytes.length = 1) :
    [byte bytes] = bytes := by
  obtain ⟨first, rfl⟩ := List.length_eq_one_iff.mp length
  rw [byte_singleton]

/-- Words of four bytes read back to back and written again. -/
theorem flatMap_ofWord32_slice {count : Nat} {bytes : Bytes} (length : bytes.length = 4 * count) :
    (List.range count).flatMap (fun i =>
      LittleEndian.ofWord32 (LittleEndian.word32 (bytes.slice (4 * i) 4))) = bytes := by
  induction count generalizing bytes with
  | zero => exact (List.length_eq_zero_iff.mp length).symm
  | succ count ih =>
    have first : (bytes.slice 0 4).length = 4 := by
      rw [Bytes.slice, List.length_take, List.drop_zero]
      omega
    have shifted (i : Nat) :
        bytes.slice (4 * (i + 1)) 4 = Bytes.slice (bytes.drop 4) (4 * i) 4 := by
      rw [Bytes.slice, Bytes.slice, List.drop_drop, Nat.mul_succ, Nat.add_comm]
    have rest := @ih (bytes.drop 4) (by rw [List.length_drop]; omega)
    rw [List.range_succ_eq_map, List.flatMap_cons, List.flatMap_map]
    simp only [Nat.succ_eq_add_one, shifted, rest, Nat.mul_zero]
    rw [LittleEndian.ofWord32_word32 first, Bytes.slice, List.drop_zero, List.take_append_drop]

/-- A value that was read has the kind of its field, and is written as the bytes
it was read from. So reading a field loses nothing, unless the field is
reserved. -/
theorem FieldKind.bytes_of_read? {kind : FieldKind} {bytes : Bytes} {value : FieldValue}
    (found : kind.read? bytes = some value) (length : bytes.length = kind.width) :
    value.kind = kind ∧ value.bytes = bytes := by
  cases kind with
  | byte => cases found; exact ⟨rfl, LittleEndian.singleton_byte length⟩
  | word16 => cases found; exact ⟨rfl, LittleEndian.ofWord16_word16 length⟩
  | word32 => cases found; exact ⟨rfl, LittleEndian.ofWord32_word32 length⟩
  | real => cases found; exact ⟨rfl, LittleEndian.ofWord32_word32 length⟩
  | coefficients =>
    cases found
    refine ⟨rfl, ?_⟩
    rw [FieldValue.bytes, List.flatMap_map]
    exact flatMap_ofWord32_slice length
  | reserved width => cases found

/-- A field that takes a value is read from any bytes: no pattern of bits is
without a value. -/
theorem FieldKind.read?_isSome {kind : FieldKind} (valued : kind.isReserved = false)
    (bytes : Bytes) : ∃ value, kind.read? bytes = some value := by
  cases kind with
  | reserved width => cases valued
  | _ => exact ⟨_, rfl⟩

/-! ## A list of fields -/

namespace Layout

open Refusal

/-- Every field that takes a value is read, whatever the bytes, so unpacking
gives as many values as there are such fields. -/
theorem length_unpackFields (fields : List Field) (bytes : Bytes) :
    (unpackFields fields bytes).length = (fields.filter (!·.kind.isReserved)).length := by
  induction fields generalizing bytes with
  | nil => rfl
  | cons field fields ih =>
    obtain ⟨name, kind⟩ := field
    cases kind with
    | reserved width => exact ih _
    | _ => exact congrArg (· + 1) (ih _)

/-- A payload with zeros in its reserved fields. -/
def blank : List Field → Bytes → Bytes
  | [], _ => []
  | field :: fields, bytes =>
    (if field.kind.isReserved then List.replicate field.kind.width 0
      else bytes.take field.kind.width) ++ blank fields (bytes.drop field.kind.width)

/-- Values that were unpacked are packed as they were, up to the reserved
fields. The induction is on the fields, each with the bytes of its width. -/
theorem packFields_unpackFields {fields : List Field} {bytes : Bytes}
    (length : bytes.length = fields.foldr (·.kind.width + ·) 0) :
    packFields fields (unpackFields fields bytes) = .ok (blank fields bytes) := by
  induction fields generalizing bytes with
  | nil => rfl
  | cons field fields ih =>
    obtain ⟨name, kind⟩ := field
    simp only [List.foldr_cons] at length
    have rest := @ih (bytes.drop kind.width) (by rw [List.length_drop]; omega)
    have first : (bytes.take kind.width).length = kind.width := by
      rw [List.length_take]
      omega
    cases reserved : kind.isReserved with
    | true =>
      cases kind with
      | reserved width =>
        have skipped : unpackFields (⟨name, .reserved width⟩ :: fields) bytes =
            unpackFields fields (bytes.drop (FieldKind.reserved width).width) := rfl
        rw [skipped, packFields_reserved, rest, map_ok]
        rfl
      | _ => cases reserved
    | false =>
      obtain ⟨value, found⟩ := FieldKind.read?_isSome reserved (bytes.take kind.width)
      obtain ⟨same, written⟩ := FieldKind.bytes_of_read? found first
      have taken : unpackFields (⟨name, kind⟩ :: fields) bytes =
          value :: unpackFields fields (bytes.drop kind.width) := by
        simp only [unpackFields, found, Option.toList_some, List.singleton_append]
      have packed :=
        packFields_value name value fields (unpackFields fields (bytes.drop kind.width))
      rw [same] at packed
      simp only [taken, packed, rest, map_ok, written, blank, reserved, Bool.false_eq_true,
        if_false]

/-- Without reserved fields nothing is blanked. -/
theorem blank_eq_self {fields : List Field} {bytes : Bytes}
    (valued : ∀ field ∈ fields, field.kind.isReserved = false)
    (length : bytes.length = fields.foldr (·.kind.width + ·) 0) : blank fields bytes = bytes := by
  induction fields generalizing bytes with
  | nil => exact (List.length_eq_zero_iff.mp length).symm
  | cons field fields ih =>
    simp only [List.foldr_cons] at length
    have rest := @ih (bytes.drop field.kind.width)
      (fun f mem => valued f (List.mem_cons_of_mem _ mem)) (by rw [List.length_drop]; omega)
    rw [blank, valued field List.mem_cons_self, if_neg Bool.false_ne_true, rest,
      List.take_append_drop]

/-- A payload is unpacked when it has the layout's length. -/
theorem unpack_eq_ok {layout : Layout} {values : List FieldValue} {payload : Bytes} :
    layout.unpack payload = .ok values ↔
      payload.length = layout.payloadLength ∧ unpackFields layout.fields payload = values := by
  unfold unpack
  by_cases length : payload.length = layout.payloadLength
  · rw [if_pos length, Except.ok.injEq]
    exact (and_iff_right length).symm
  · rw [if_neg length]
    exact iff_of_false nofun fun whole => length whole.1

/-- Where some values come first in a payload and are as many as its fields take, they are all. -/
theorem eq_nil_of_unpack {layout : Layout} {values rest : List FieldValue} {payload : Bytes}
    (unpacked : layout.unpack payload = .ok (values ++ rest))
    (count : values.length = layout.valueFields.length) : rest = [] := by
  have lengths := congrArg List.length (unpack_eq_ok.mp unpacked).2
  rw [length_unpackFields, List.length_append, count, valueFields] at lengths
  exact List.length_eq_zero_iff.mp (by omega)

/-- The values of a payload pack to that payload with its reserved fields blank. -/
theorem pack_unpack {layout : Layout} {values : List FieldValue} {payload : Bytes}
    (unpacked : layout.unpack payload = .ok values) :
    layout.pack values = .ok (blank layout.fields payload) := by
  obtain ⟨length, rfl⟩ := unpack_eq_ok.mp unpacked
  rw [pack, packFields_unpackFields length, mapError_ok]

end Layout

end MotionLink
