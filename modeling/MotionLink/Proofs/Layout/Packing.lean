import Mathlib
import MotionLink.Layout
import MotionLink.Proofs.Refusal

/-!
# Packed values read back

A value takes exactly the width of its field (`FieldValue.length_bytes`) and is
read back from its own bytes (`FieldKind.read?_bytes`). Both facts lift to a
list of fields: what `packFields` writes has the width of the fields together
(`length_packFields`), and `unpackFields` returns the values that were written,
whatever bytes follow (`unpackFields_packFields`).

Packing looks at the kinds of the values only: it succeeds for the values that
fill the layout (`Layout.FilledBy`), those of the kinds of the fields that take a
value, in order, and for no others (`Layout.exists_pack_iff`).
-/

namespace MotionLink

/-! ## One value -/

/-- Words of four bytes written back to back: the `i`-th starts at `4 * i`. The
coefficients of a motor are packed and found again in this way. -/
theorem slice_flatMap_ofWord32 (terms : List Binary32) (i : Nat) (inside : i < terms.length) :
    Bytes.slice (terms.flatMap fun term => LittleEndian.ofWord32 term.bits) (4 * i) 4 =
      LittleEndian.ofWord32 terms[i].bits := by
  induction terms generalizing i with
  | nil => exact absurd inside (Nat.not_lt_zero i)
  | cons term terms ih =>
    cases i with
    | zero =>
      simp only [Bytes.slice, List.flatMap_cons, Nat.mul_zero, List.drop_zero,
        List.getElem_cons_zero]
      exact List.take_left' (LittleEndian.length_ofWord32 _)
    | succ i =>
      have shifted : 4 * (i + 1) = (LittleEndian.ofWord32 term.bits).length + 4 * i := by
        simp only [LittleEndian.length_ofWord32]
        omega
      have rest := ih i (by simpa using inside)
      simpa only [Bytes.slice, List.flatMap_cons, shifted, List.drop_length_add_append,
        List.getElem_cons_succ] using rest

theorem length_flatMap_ofWord32 (terms : List Binary32) :
    (terms.flatMap fun term => LittleEndian.ofWord32 term.bits).length = 4 * terms.length := by
  induction terms with
  | nil => rfl
  | cons term terms ih =>
    simp only [List.flatMap_cons, List.length_append, LittleEndian.length_ofWord32, ih,
      List.length_cons]
    omega

/-- A value takes the width of its kind. -/
@[simp] theorem FieldValue.length_bytes (value : FieldValue) :
    value.bytes.length = value.kind.width := by
  cases value with
  | byte value => rfl
  | word16 value => exact LittleEndian.length_ofWord16 value
  | word32 value => exact LittleEndian.length_ofWord32 value
  | real value => exact LittleEndian.length_ofWord32 value.bits
  | coefficients value =>
    simp only [FieldValue.bytes, FieldValue.kind, FieldKind.width, length_flatMap_ofWord32,
      value.length_terms]

/-- A value is read back from its bytes, floats bit for bit. No value is changed
by packing, not even one that is not a number. -/
@[simp] theorem FieldKind.read?_bytes (value : FieldValue) :
    value.kind.read? value.bytes = some value := by
  cases value with
  | byte value => simp only [FieldValue.kind, FieldValue.bytes, FieldKind.read?,
      LittleEndian.byte_singleton]
  | word16 value => simp only [FieldValue.kind, FieldValue.bytes, FieldKind.read?,
      LittleEndian.word16_ofWord16]
  | word32 value => simp only [FieldValue.kind, FieldValue.bytes, FieldKind.read?,
      LittleEndian.word32_ofWord32]
  | real value => simp only [FieldValue.kind, FieldValue.bytes, FieldKind.read?,
      LittleEndian.word32_ofWord32]
  | coefficients value =>
    obtain ⟨terms, count⟩ := value
    have same : (List.range coefficientCount).map (fun i => (⟨LittleEndian.word32
        (Bytes.slice (terms.flatMap fun term => LittleEndian.ofWord32 term.bits) (4 * i) 4)⟩ :
          Binary32)) = terms := by
      apply List.ext_getElem
      · simp only [List.length_map, List.length_range, count]
      · intro i _ inside
        simp only [List.getElem_map, List.getElem_range, slice_flatMap_ofWord32 terms i inside,
          LittleEndian.word32_ofWord32]
    simp only [FieldValue.kind, FieldValue.bytes, FieldKind.read?, same]

theorem FieldValue.isReserved_kind (value : FieldValue) : value.kind.isReserved = false := by
  cases value <;> rfl

/-! ## A list of fields -/

namespace Layout

open Refusal

/-- A reserved field takes no value. -/
theorem packFields_reserved (name : String) (width : Nat) (fields : List Field)
    (values : List FieldValue) :
    packFields (⟨name, .reserved width⟩ :: fields) values =
      (List.replicate width 0 ++ ·) <$> packFields fields values := by
  cases values <;> rfl

/-- Any other field takes a value of its kind. -/
theorem packFields_value (name : String) (value : FieldValue) (fields : List Field)
    (values : List FieldValue) :
    packFields (⟨name, value.kind⟩ :: fields) (value :: values) =
      (value.bytes ++ ·) <$> packFields fields values := by
  cases value <;> simp only [FieldValue.kind, packFields, if_true]

/-- A list of fields that packs starts with reserved bytes or with a value of
the first field's kind. -/
theorem packFields_cons {field : Field} {fields : List Field} {values : List FieldValue}
    {bytes : Bytes} (packed : packFields (field :: fields) values = .ok bytes) :
    (∃ width rest, field.kind = .reserved width ∧ packFields fields values = .ok rest ∧
      bytes = List.replicate width 0 ++ rest) ∨
    (∃ value values' rest, values = value :: values' ∧ value.kind = field.kind ∧
      packFields fields values' = .ok rest ∧ bytes = value.bytes ++ rest) := by
  obtain ⟨name, kind⟩ := field
  cases values with
  | nil =>
    cases kind with
    | reserved width =>
      obtain ⟨rest, tail, rfl⟩ := map_eq_ok.mp packed
      exact .inl ⟨width, rest, rfl, tail, rfl⟩
    | _ => cases packed
  | cons value values =>
    -- Said once, for all kinds of fields that take a value.
    have taken (same : value.kind = kind)
        (packed : (value.bytes ++ ·) <$> packFields fields values = .ok bytes) :
        ∃ value' values' rest, value :: values = value' :: values' ∧ value'.kind = kind ∧
          packFields fields values' = .ok rest ∧ bytes = value'.bytes ++ rest := by
      obtain ⟨rest, tail, rfl⟩ := map_eq_ok.mp packed
      exact ⟨value, values, rest, rfl, same, tail, rfl⟩
    cases kind with
    | reserved width =>
      obtain ⟨rest, tail, rfl⟩ := map_eq_ok.mp packed
      exact .inl ⟨width, rest, rfl, tail, rfl⟩
    | _ =>
      simp only [packFields] at packed
      split at packed
      · exact .inr (taken ‹_› packed)
      · cases packed

/-- Packed fields take their widths together, the reserved ones among them. -/
theorem length_packFields {fields : List Field} {values : List FieldValue} {bytes : Bytes}
    (packed : packFields fields values = .ok bytes) :
    bytes.length = fields.foldr (·.kind.width + ·) 0 := by
  induction fields generalizing values bytes with
  | nil =>
    cases values with
    | nil => cases packed; rfl
    | cons value values => cases packed
  | cons field fields ih =>
    obtain ⟨width, rest, kind, tail, rfl⟩ | ⟨value, values', rest, -, kind, tail, rfl⟩ :=
      packFields_cons packed
    · simp only [List.length_append, List.length_replicate, ih tail, List.foldr_cons, kind,
        FieldKind.width]
    · simp only [List.length_append, FieldValue.length_bytes, ih tail, List.foldr_cons, kind]

/-- Unpacking returns the packed values, whatever follows them. The induction is
on the fields; a reserved one is skipped over, and any other gives back the
value in front. -/
theorem unpackFields_packFields {fields : List Field} {values : List FieldValue} {bytes : Bytes}
    (packed : packFields fields values = .ok bytes) (after : Bytes) :
    unpackFields fields (bytes ++ after) = values := by
  induction fields generalizing values bytes with
  | nil =>
    cases values with
    | nil => rfl
    | cons value values => cases packed
  | cons field fields ih =>
    obtain ⟨width, rest, kind, tail, rfl⟩ | ⟨value, values', rest, rfl, kind, tail, rfl⟩ :=
      packFields_cons packed
    · have skipped : (List.replicate width (0 : UInt8) ++ (rest ++ after)).drop width =
          rest ++ after := List.drop_left' List.length_replicate
      simp only [unpackFields, kind, FieldKind.read?, FieldKind.width, Option.toList_none,
        List.nil_append, List.append_assoc, skipped, ih tail]
    · have width : value.bytes.length = field.kind.width := by
        rw [FieldValue.length_bytes, kind]
      simp only [unpackFields, List.append_assoc, List.take_left' width, List.drop_left' width,
        ih tail]
      rw [← kind, FieldKind.read?_bytes]
      rfl

/-- Values of the kinds of the fields that take one can be packed. Neither what
the values are nor where the reserved fields stand makes a difference. -/
theorem packFields_of_kinds {fields : List Field} {values : List FieldValue}
    (kinds : values.map (·.kind) = (fields.filter (!·.kind.isReserved)).map (·.kind)) :
    ∃ bytes, packFields fields values = .ok bytes := by
  induction fields generalizing values with
  | nil =>
    have none : values = [] := by simpa using kinds
    exact ⟨[], by rw [none]; rfl⟩
  | cons field fields ih =>
    obtain ⟨name, kind⟩ := field
    cases reserved : kind.isReserved with
    | true =>
      cases kind with
      | reserved width =>
        obtain ⟨rest, tail⟩ := @ih values (by simpa [FieldKind.isReserved] using kinds)
        exact ⟨List.replicate width 0 ++ rest, by rw [packFields_reserved, tail, map_ok]⟩
      | _ => cases reserved
    | false =>
      cases values with
      | nil => simp [reserved] at kinds
      | cons value values =>
        simp only [List.map_cons, List.filter_cons, reserved, Bool.not_false, if_true,
          List.cons.injEq] at kinds
        obtain ⟨rest, tail⟩ := ih kinds.2
        refine ⟨value.bytes ++ rest, ?_⟩
        rw [← kinds.1, packFields_value, tail, map_ok]

/-- Values that were packed have the kinds of the fields that take one. This is
the converse of `packFields_of_kinds`, so packing decides nothing but that. -/
theorem kinds_of_packFields {fields : List Field} {values : List FieldValue} {bytes : Bytes}
    (packed : packFields fields values = .ok bytes) :
    values.map (·.kind) = (fields.filter (!·.kind.isReserved)).map (·.kind) := by
  induction fields generalizing values bytes with
  | nil =>
    cases values with
    | nil => rfl
    | cons value values => cases packed
  | cons field fields ih =>
    obtain ⟨width, rest, kind, tail, -⟩ | ⟨value, values', rest, rfl, kind, tail, -⟩ :=
      packFields_cons packed
    · have reserved : field.kind.isReserved = true := by rw [kind, FieldKind.isReserved]
      simp only [ih tail, List.filter_cons, reserved, Bool.not_true, Bool.false_eq_true, if_false]
    · have valued : field.kind.isReserved = false := by
        rw [← kind, FieldValue.isReserved_kind]
      simp only [List.map_cons, ih tail, List.filter_cons, valued, Bool.not_false, if_true, kind]

/-- One value for each field that takes one, in order and of its kind. -/
def FilledBy (layout : Layout) (values : List FieldValue) : Prop :=
  values.map (·.kind) = layout.valueFields.map (·.kind)

instance (layout : Layout) (values : List FieldValue) : Decidable (layout.FilledBy values) :=
  inferInstanceAs (Decidable (_ = _))

/-- Values pack when they fill the layout. -/
theorem exists_pack_iff {layout : Layout} {values : List FieldValue} :
    (∃ payload, layout.pack values = .ok payload) ↔ layout.FilledBy values := by
  constructor
  · rintro ⟨payload, packed⟩
    exact kinds_of_packFields (mapError_eq_ok.mp packed)
  · intro filled
    obtain ⟨payload, packed⟩ := packFields_of_kinds filled
    exact ⟨payload, by rw [pack, packed, mapError_ok]⟩

/-- Unpacking a payload that was packed returns its values. -/
theorem unpack_pack {layout : Layout} {values : List FieldValue} {payload : Bytes}
    (packed : layout.pack values = .ok payload) : layout.unpack payload = .ok values := by
  have fields := mapError_eq_ok.mp packed
  have read := unpackFields_packFields fields []
  rw [List.append_nil] at read
  have length : payload.length = layout.payloadLength := length_packFields fields
  rw [unpack, if_pos length, read]

end Layout

end MotionLink
