import Mathlib
import MotionLink.Proofs.Frame.Access
import MotionLink.Proofs.Frame.Appending
import MotionLink.Proofs.Layout.Answers
import MotionLink.Proofs.Layout.Rewriting

/-!
# Any layout packs what it unpacks

Packing and unpacking are inverse for a layout of any fields in any order,
registered or not (`Layout.pack_unpack_inverse`). The values that pack are those
that fill the layout (`Layout.FilledBy`), and each payload of the layout's length
has such values. Values come back from their payload as they were; a payload
comes back from its values with zeros for its reserved bytes
(`Layout.zeroReserved`), since these are in no value.

Packing and unpacking go through all fields, a cursor through those that take a
value. The three keep in step: the value that a cursor reads is the one that was
packed into the field whose name the cursor would refuse it under.

A layout knows its frame length from its fields. `Layout.unpackSized?` is told
it, takes the length of the payload to be what this number leaves between header
and trailer, and has no answer where a difference or an access leaves its range.
A number that adds up always has one.
-/

namespace MotionLink.Layout

open Refusal

variable {layout : Layout} {values : List FieldValue} {payload : Bytes}

/-! ## A frame length beside the fields -/

/-- The values of a payload whose length follows from a given frame length. -/
def unpackSized? (layout : Layout) (frameLength : Nat) (payload : Bytes) :
    Option (Except FrameError (List FieldValue)) :=
  if frameLength < layout.headerLength + Checksum.width then none
  else if payload.length = frameLength - layout.headerLength - Checksum.width then
    .ok <$> unpackFields? payload layout.fields 0
  else
    some (.error (.lengthMismatch layout.kind frameLength
      (layout.headerLength + payload.length + Checksum.width)))

/-- Where the frame length adds up, no access is out of range. -/
theorem unpackSized?_eq (layout : Layout) (payload : Bytes) :
    layout.unpackSized? layout.frameLength payload = some (layout.unpack payload) := by
  have room : ¬ layout.frameLength < layout.headerLength + Checksum.width := by
    rw [frameLength]
    omega
  have rest : layout.frameLength - layout.headerLength - Checksum.width = layout.payloadLength := by
    rw [frameLength]
    omega
  rw [← unpack?_eq, unpackSized?, unpack?, if_neg room, rest]

/-! ## Reserved bytes -/

/-- For each byte of the fields, whether it is reserved. -/
def reservedBytes (fields : List Field) : List Bool :=
  fields.flatMap fun field => List.replicate field.kind.width field.kind.isReserved

/-- A payload with zeros for its reserved bytes. -/
def zeroReserved (fields : List Field) (payload : Bytes) : Bytes :=
  List.zipWith (fun reserved byte => if reserved then 0 else byte) (reservedBytes fields) payload

/-- Pairing a list with copies of one element is mapping over the list. -/
theorem zipWith_replicate_left {α β γ : Type} (f : α → β → γ) (a : α) (list : List β) :
    List.zipWith f (List.replicate list.length a) list = list.map (f a) := by
  induction list with
  | nil => rfl
  | cons b list ih =>
    rw [List.length_cons, List.replicate_succ, List.zipWith_cons_cons, ih, List.map_cons]

theorem zeroReserved_cons {field : Field} {front : Bytes} (width : front.length = field.kind.width)
    (fields : List Field) (rest : Bytes) :
    zeroReserved (field :: fields) (front ++ rest) =
      (if field.kind.isReserved then List.replicate field.kind.width 0 else front) ++
        zeroReserved fields rest := by
  rw [zeroReserved, reservedBytes, List.flatMap_cons, ← width,
    List.zipWith_append List.length_replicate, zipWith_replicate_left]
  cases field.kind.isReserved with
  | true =>
    simp only [if_true, List.map_const']
    rfl
  | false =>
    simp only [Bool.false_eq_true, if_false, List.map_id']
    rfl

/-- Blanking field by field is putting zeros byte by byte. The first is how
packing goes through the fields; the second says of each byte what becomes of
it. -/
theorem blank_eq_zeroReserved {fields : List Field} {bytes : Bytes}
    (length : bytes.length = fields.foldr (·.kind.width + ·) 0) :
    blank fields bytes = zeroReserved fields bytes := by
  induction fields generalizing bytes with
  | nil => rfl
  | cons field fields ih =>
    simp only [List.foldr_cons] at length
    have rest := @ih (bytes.drop field.kind.width) (by rw [List.length_drop]; omega)
    have first : (bytes.take field.kind.width).length = field.kind.width := by
      rw [List.length_take]
      omega
    calc blank (field :: fields) bytes
        = zeroReserved (field :: fields)
            (bytes.take field.kind.width ++ bytes.drop field.kind.width) := by
          rw [zeroReserved_cons first, blank, rest]
      _ = zeroReserved (field :: fields) bytes := by rw [List.take_append_drop]

/-- A payload has values that fill its layout, and they pack to what of it is not reserved. -/
theorem pack_of_unpack (unpacked : layout.unpack payload = .ok values) :
    layout.FilledBy values ∧ layout.pack values = .ok (zeroReserved layout.fields payload) := by
  have packed := pack_unpack unpacked
  rw [blank_eq_zeroReserved (unpack_eq_ok.mp unpacked).1] at packed
  exact ⟨exists_pack_iff.mp ⟨_, packed⟩, packed⟩

/-! ## Reading the values -/

/-- A read of the kind of its field goes through; any other is refused under the
field's name. The values and the fields that take one are counted together, so
the place in one list is the place in the other. -/
theorem getElem?_answers_start (filled : layout.FilledBy values) {wanted : List ValueKind}
    {place : Nat} {kind : ValueKind} {field : Field} {value : FieldValue}
    (asked : wanted[place]? = some kind) (here : layout.valueFields[place]? = some field)
    (held : values[place]? = some value) :
    ((FieldCursor.start layout values).answers wanted)[place]? =
      some (if kind.fieldKind = field.kind then .ok value
        else .error (.layoutMismatch layout.kind field.name)) := by
  have same : value.kind = field.kind := by
    have kinds := congrArg (·[place]?) filled
    simpa only [List.getElem?_map, held, here, Option.map_some, Option.some.injEq] using kinds
  have next : ((FieldCursor.start layout values).ahead place).values.head? = some value := by
    rw [← held]
    exact List.head?_drop
  have named : ((FieldCursor.start layout values).ahead place).fieldName = field.name := by
    have first : (layout.valueFields.drop place).head? = some field := List.head?_drop.trans here
    obtain ⟨rest, fields⟩ := List.head?_eq_some_iff.mp first
    simp only [FieldCursor.fieldName, FieldCursor.ahead, FieldCursor.start, fields]
  rw [FieldCursor.getElem?_answers, asked, Option.map_some, ValueKind.read_eq, next, named,
    Option.filter_some, same]
  by_cases fits : kind.fieldKind = field.kind
  · simp only [fits, decide_true, if_true, map_ok]
  · simp only [fits, Ne.symm fits, decide_false, Bool.false_eq_true, if_false, map_error]
    rfl

/-- What to read for the fields of a layout, one after the other. -/
def valueKinds (layout : Layout) : List ValueKind := layout.fields.filterMap (·.kind.valueKind?)

/-- What there is to read has the kinds of the fields that take a value. -/
theorem map_valueKinds (layout : Layout) :
    layout.valueKinds.map (·.fieldKind) = layout.valueFields.map (·.kind) := by
  obtain ⟨packet, fields⟩ := layout
  simp only [valueKinds, valueFields]
  induction fields with
  | nil => rfl
  | cons field fields ih =>
    obtain ⟨name, kind⟩ := field
    cases kind with
    | reserved width => exact ih
    | _ => exact congrArg _ ih

/-- Values that fill a layout are all read, each as the kind of its field. -/
theorem read_valueKinds (filled : layout.FilledBy values) :
    (layout.valueKinds.mapM ValueKind.read).run' (.start layout values) = .ok values := by
  have through := @FieldCursor.answers_of_kinds (.start layout values) layout.valueKinds
    (layout.map_valueKinds.trans filled.symm)
  rw [FieldCursor.run'_mapM_read, through]
  show (values.map Except.ok).mapM id = .ok values
  rw [List.mapM_map]
  exact (List.mapM_pure (f := id)).trans (by rw [List.map_id]; rfl)

/-! ## The two directions -/

/-- For any fields and the frame length they add up to, packing and unpacking are inverse. Values
pack exactly when they fill the layout, behind any buffer and into as many bytes as the layout has,
and unpacking returns them. Each payload of that length is unpacked, without leaving it, to values
that fill the layout and pack to the payload with zeros for its reserved bytes; a payload of
another length is refused with both lengths of its frame. A cursor over values that fill the layout
reads each as the kind of its field and refuses a read of any other kind under the field's name,
whatever was read before. -/
theorem pack_unpack_inverse (layout : Layout) {frameLength : Nat}
    (sized : frameLength = layout.headerLength + layout.payloadLength + Checksum.width) :
    (∀ payload, layout.unpackSized? frameLength payload = some (layout.unpack payload)) ∧
    (∀ values buffer, ((packInto layout.kind layout.fields values).on buffer).1 =
      (fun _ => ()) <$> layout.pack values) ∧
    (∀ values, (∃ payload, layout.pack values = .ok payload) ↔ layout.FilledBy values) ∧
    (∀ values payload, layout.pack values = .ok payload →
      payload.length = layout.payloadLength ∧ layout.unpack payload = .ok values ∧
      ∀ buffer, (packInto layout.kind layout.fields values).on buffer =
        (.ok (), buffer ++ payload)) ∧
    (∀ payload, payload.length = layout.payloadLength → ∃ values,
      layout.unpack payload = .ok values ∧ layout.FilledBy values ∧
      layout.pack values = .ok (zeroReserved layout.fields payload)) ∧
    (∀ payload, payload.length ≠ layout.payloadLength →
      layout.unpack payload = .error (.lengthMismatch layout.kind frameLength
        (layout.headerLength + payload.length + Checksum.width))) ∧
    (∀ values wanted, (wanted.mapM ValueKind.read).run' (.start layout values) =
      ((FieldCursor.start layout values).answers wanted).mapM id) ∧
    (∀ values, layout.FilledBy values →
      (layout.valueKinds.mapM ValueKind.read).run' (.start layout values) = .ok values ∧
      ∀ (wanted : List ValueKind) (place : Nat) (kind : ValueKind) (field : Field)
        (value : FieldValue), wanted[place]? = some kind →
        layout.valueFields[place]? = some field → values[place]? = some value →
        ((FieldCursor.start layout values).answers wanted)[place]? =
          some (if kind.fieldKind = field.kind then .ok value
            else .error (.layoutMismatch layout.kind field.name))) := by
  obtain rfl : frameLength = layout.frameLength := sized
  refine ⟨layout.unpackSized?_eq, ?_, ?_, ?_, ?_, ?_, ?_, ?_⟩
  · intro values buffer
    exact fst_on_packInto layout.fields values buffer
  · intro values
    exact exists_pack_iff
  · intro values payload packed
    have fields := mapError_eq_ok.mp packed
    exact ⟨length_packFields fields, unpack_pack packed, on_packInto fields⟩
  · intro payload length
    have unpacked := unpack_eq_ok.mpr ⟨length, rfl⟩
    exact ⟨_, unpacked, pack_of_unpack unpacked⟩
  · intro payload length
    exact if_neg length
  · intro values wanted
    exact FieldCursor.run'_mapM_read _ wanted
  · intro values filled
    refine ⟨read_valueKinds filled, ?_⟩
    intro wanted place kind field value asked here held
    exact getElem?_answers_start filled asked here held

/-- A layout that is not registered, with reserved bytes in front, between its values and of no
width. What was in them is lost, the bits of a signalling NaN are not. -/
theorem pack_unpack_inverse_gapped :
    let layout : Layout := ⟨.feedback .capacitiveGrid,
      [⟨"lead", .reserved 1⟩, ⟨"count", .word16⟩, ⟨"gap", .reserved 2⟩, ⟨"none", .reserved 0⟩,
        ⟨"ratio", .real⟩]⟩
    let values : List FieldValue := [.word16 0x0201, .real ⟨0x7FA00000⟩]
    19 = layout.headerLength + layout.payloadLength + Checksum.width ∧
      layout.unpackSized? 19 [9, 1, 2, 9, 9, 0, 0, 0xA0, 0x7F] = some (.ok values) ∧
      layout.FilledBy values ∧
      layout.pack values = .ok [0, 1, 2, 0, 0, 0, 0, 0xA0, 0x7F] ∧
      ((FieldCursor.start layout values).answers [.real, .real])[0]? =
        some (.error (.layoutMismatch layout.kind "count")) := by
  intro layout values
  have sized : 19 = layout.headerLength + layout.payloadLength + Checksum.width := rfl
  obtain ⟨strict, -, -, -, unpacks, -, -, reads⟩ := pack_unpack_inverse layout sized
  have unpacked : layout.unpack [9, 1, 2, 9, 9, 0, 0, 0xA0, 0x7F] = .ok values := by decide
  obtain ⟨values', unpacked', filled, packed⟩ := unpacks [9, 1, 2, 9, 9, 0, 0, 0xA0, 0x7F] rfl
  cases unpacked.symm.trans unpacked'
  have refused := (reads values filled).2 [.real, .real] 0 _ _ _ rfl rfl rfl
  exact ⟨sized, (strict _).trans (congrArg some unpacked), filled, packed, refused⟩

end MotionLink.Layout
