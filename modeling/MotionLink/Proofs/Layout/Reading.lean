import Mathlib
import MotionLink.Layout.Cursor
import MotionLink.Proofs.Refusal

/-!
# Readings from a cursor, step by step

What each reader of `FieldReader` answers at a cursor whose next value is of
the kind it wants. A reading is a sequence of such steps, so its answer on
known values follows by rewriting with these equations. The other way round, a
reader that goes through has taken the value it answers with off the front
(`next_exact`).
-/

namespace MotionLink.FieldReader

open Refusal

variable {α β : Type}

/-! ## Sequences -/

@[simp] theorem pure_apply (a : α) (cursor : FieldCursor) :
    (pure a : FieldReader α) cursor = .ok (a, cursor) := rfl

@[simp] theorem bind_apply (reader : FieldReader α) (next : α → FieldReader β)
    (cursor : FieldCursor) :
    (reader >>= next) cursor = reader cursor >>= fun found => next found.1 found.2 := rfl

@[simp] theorem map_apply (f : α → β) (reader : FieldReader α) (cursor : FieldCursor) :
    (f <$> reader) cursor = reader cursor >>= fun found => .ok (f found.1, found.2) := rfl

/-- A reading keeps its answer and drops the cursor. -/
theorem run'_eq (reader : FieldReader α) (cursor : FieldCursor) :
    reader.run' cursor = Prod.fst <$> reader cursor := rfl

/-! ## One value -/

variable (packet : PacketKind) (fields : List Field) (values : List FieldValue)

@[simp] theorem byte_cons (value : UInt8) :
    byte ⟨packet, fields, .byte value :: values⟩ = .ok (value, ⟨packet, fields.tail, values⟩) := rfl

@[simp] theorem real_cons (value : Binary32) :
    real ⟨packet, fields, .real value :: values⟩ = .ok (value, ⟨packet, fields.tail, values⟩) := rfl

/-- A coded byte is looked up; a byte without a value is refused under the name given. -/
@[simp] theorem coded_cons [Coded α] (field : String) (code : UInt8) :
    (coded field : FieldReader α) ⟨packet, fields, .byte code :: values⟩ =
      match (Coded.ofByte? code : Option α) with
      | some value => .ok (value, ⟨packet, fields.tail, values⟩)
      | none => .error (.malformedPacket packet field code) := by
  simp only [coded, bind_apply, byte_cons, ok_bind]
  cases (Coded.ofByte? code : Option α) with
  | some value => rfl
  | none => rfl

/-- A tested byte passes as it is or is refused under the name given. -/
@[simp] theorem tested_cons (field : String) (test : UInt8 → Bool) (value : UInt8) :
    tested field test ⟨packet, fields, .byte value :: values⟩ =
      if test value then .ok (value, ⟨packet, fields.tail, values⟩)
      else .error (.malformedPacket packet field value) := by
  simp only [tested, bind_apply, byte_cons, ok_bind]
  cases test value with
  | true => rfl
  | false => rfl

end MotionLink.FieldReader

/-! ## Codes -/

namespace MotionLink.Coded

/-- The list of codes is complete, and no two values share a byte. -/
class Lawful (α : Type) [Coded α] : Prop where
  mem_values : ∀ value : α, value ∈ (values : List α)
  byte_injective : Function.Injective (byte : α → UInt8)

instance : Lawful OperatingMode where
  mem_values value := by cases value <;> decide
  byte_injective a b := by cases a <;> cases b <;> decide

instance : Lawful HomingMode where
  mem_values value := by cases value <;> decide
  byte_injective a b := by cases a <;> cases b <;> decide

instance : Lawful JogUnit where
  mem_values value := by cases value <;> decide
  byte_injective a b := by cases a <;> cases b <;> decide

variable {α : Type} [Coded α]

/-- The value found for a byte has that byte. -/
theorem byte_of_ofByte? {code : UInt8} {value : α} (found : ofByte? code = some value) :
    byte value = code := by
  simpa using List.find?_some found

/-- Each value is found by its own byte. -/
@[simp] theorem ofByte?_byte [Lawful α] (value : α) :
    (ofByte? (byte value) : Option α) = some value := by
  cases found : (ofByte? (byte value) : Option α) with
  | none =>
    have missing := List.find?_eq_none.mp found value (Lawful.mem_values value)
    simp at missing
  | some other => rw [Lawful.byte_injective (byte_of_ofByte? found)]

end MotionLink.Coded

/-! ## What a reading took -/

namespace MotionLink.FieldReader

open Refusal

variable {α : Type} {cursor : FieldCursor}

/-- A reading takes the value it accepts. The readers differ in what they
accept, and for each of them the value is known from what it made of it. -/
theorem next_exact {accept : FieldValue → Option α} {write : α → FieldValue}
    (inverse : ∀ value a, accept value = some a → value = write a) {found : α × FieldCursor}
    (read : next accept cursor = .ok found) :
    cursor.values = write found.1 :: found.2.values := by
  unfold next at read
  split at read
  · rename_i answer accepted
    cases read
    obtain ⟨value, head, taken⟩ := Option.bind_eq_some_iff.mp accepted
    rw [← inverse value answer taken]
    exact (List.cons_head?_tail head).symm
  · cases read

theorem byte_exact {found : UInt8 × FieldCursor} (read : byte cursor = .ok found) :
    cursor.values = .byte found.1 :: found.2.values :=
  next_exact (fun value _ taken => by cases value <;> cases taken; rfl) read

theorem word16_exact {found : UInt16 × FieldCursor} (read : word16 cursor = .ok found) :
    cursor.values = .word16 found.1 :: found.2.values :=
  next_exact (fun value _ taken => by cases value <;> cases taken; rfl) read

theorem word32_exact {found : UInt32 × FieldCursor} (read : word32 cursor = .ok found) :
    cursor.values = .word32 found.1 :: found.2.values :=
  next_exact (fun value _ taken => by cases value <;> cases taken; rfl) read

/-- What was read as a real number was one, with the bits that were read. -/
theorem real_exact {found : Binary32 × FieldCursor} (read : real cursor = .ok found) :
    cursor.values = .real found.1 :: found.2.values :=
  next_exact (fun value _ taken => by cases value <;> cases taken; rfl) read

theorem coefficients_exact {found : Coefficients × FieldCursor}
    (read : coefficients cursor = .ok found) :
    cursor.values = .coefficients found.1 :: found.2.values :=
  next_exact (fun value _ taken => by cases value <;> cases taken; rfl) read

theorem coded_exact [Coded α] {field : String} {found : α × FieldCursor}
    (read : (coded field : FieldReader α) cursor = .ok found) :
    cursor.values = .byte (Coded.byte found.1) :: found.2.values := by
  obtain ⟨code, taken, read⟩ := bind_eq_ok.mp read
  have values := byte_exact taken
  cases known : (Coded.ofByte? code.1 : Option α) with
  | none => simp only [known] at read; cases read
  | some value =>
    simp only [known] at read
    cases read
    rw [values, Coded.byte_of_ofByte? known]

/-- What was read as a tested byte was that byte, and it has passed the test. -/
theorem tested_exact {field : String} {test : UInt8 → Bool} {found : UInt8 × FieldCursor}
    (read : tested field test cursor = .ok found) :
    cursor.values = .byte found.1 :: found.2.values ∧ test found.1 = true := by
  obtain ⟨value, taken, read⟩ := bind_eq_ok.mp read
  have values := byte_exact taken
  cases passed : test value.1 with
  | false => simp only [passed] at read; cases read
  | true =>
    simp only [passed, if_true] at read
    cases read
    exact ⟨values, passed⟩

end MotionLink.FieldReader
