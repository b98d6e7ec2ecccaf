import Mathlib
import MotionLink.Proofs.Layout.Reading

/-!
# Reads one after the other

There is one read for each kind of value (`ValueKind.read`): it takes the next
value if that is of its kind, and is refused under the name of the next field if
not (`ValueKind.read_eq`). Refused or not, a read is over with the value it
looked at, so what it answers depends on its place alone
(`FieldCursor.getElem?_answers`).

A sequence of reads that gives up at a refusal answers with the first refusal
among them, or with all that was read (`FieldCursor.run'_mapM_read`). Reads of
the kinds of the values are never refused (`FieldCursor.answers_of_kinds`).
-/

namespace MotionLink

open Refusal

/-- What a cursor can be asked for. -/
inductive ValueKind where
  | byte
  | word16
  | word32
  | real
  | coefficients
  deriving DecidableEq, Repr

namespace ValueKind

/-- The kind of field that holds such a value. -/
def fieldKind : ValueKind → FieldKind
  | byte => .byte
  | word16 => .word16
  | word32 => .word32
  | real => .real
  | coefficients => .coefficients

end ValueKind

/-- What is read for a field, nothing for a reserved one. -/
def FieldKind.valueKind? : FieldKind → Option ValueKind
  | byte => some .byte
  | word16 => some .word16
  | word32 => some .word32
  | real => some .real
  | coefficients => some .coefficients
  | reserved _ => none

namespace ValueKind

/-- Reads the next value as one of this kind. -/
def read : ValueKind → FieldReader FieldValue
  | byte => .byte <$> FieldReader.byte
  | word16 => .word16 <$> FieldReader.word16
  | word32 => .word32 <$> FieldReader.word32
  | real => .real <$> FieldReader.real
  | coefficients => .coefficients <$> FieldReader.coefficients

/-- A read answers with the next value, if there is one and it is of the kind read. -/
theorem read_eq (wanted : ValueKind) (cursor : FieldCursor) :
    wanted.read cursor = match cursor.values.head?.filter (·.kind = wanted.fieldKind) with
      | some value => .ok (value, cursor.advance)
      | none => .error (.layoutMismatch cursor.packet cursor.fieldName) := by
  obtain ⟨packet, fields, values⟩ := cursor
  cases values with
  | nil => cases wanted <;> rfl
  | cons value values => cases wanted <;> cases value <;> rfl

/-- A read that goes through leaves the cursor behind the value it took. -/
theorem snd_of_read {wanted : ValueKind} {cursor : FieldCursor} {found : FieldValue × FieldCursor}
    (read : wanted.read cursor = .ok found) : found.2 = cursor.advance := by
  rw [read_eq] at read
  split at read <;> cases read
  rfl

end ValueKind

namespace FieldCursor

/-- The cursor with so many values behind it. -/
def ahead (cursor : FieldCursor) (count : Nat) : FieldCursor :=
  { cursor with fields := cursor.fields.drop count, values := cursor.values.drop count }

/-- Moving on by one and then by so many is moving on by one more. -/
theorem ahead_advance (cursor : FieldCursor) (count : Nat) :
    cursor.advance.ahead count = cursor.ahead (count + 1) := by
  simp only [ahead, advance, List.drop_tail]

/-- What reads answer one after the other, where a refused read moves the cursor on as well as
one that goes through. -/
def answers : FieldCursor → List ValueKind → List (Except FrameError FieldValue)
  | _, [] => []
  | cursor, wanted :: later => Prod.fst <$> wanted.read cursor :: cursor.advance.answers later

/-- A read answers for its place, whatever was read before it. The induction is
on the reads, each of which leaves the cursor one value further. -/
theorem getElem?_answers (cursor : FieldCursor) (wanted : List ValueKind) (place : Nat) :
    (cursor.answers wanted)[place]? =
      wanted[place]?.map fun kind => Prod.fst <$> kind.read (cursor.ahead place) := by
  induction wanted generalizing cursor place with
  | nil => rfl
  | cons kind later ih =>
    cases place with
    | zero => rfl
    | succ place =>
      simp only [answers, List.getElem?_cons_succ, ih, ahead_advance]

/-- Reads in sequence end with the first refusal. What the reads behind it would
answer makes no difference, so the answers can be listed as if none of them
stopped the others. -/
theorem run'_mapM_read (cursor : FieldCursor) (wanted : List ValueKind) :
    (wanted.mapM ValueKind.read).run' cursor = (cursor.answers wanted).mapM id := by
  induction wanted generalizing cursor with
  | nil => rfl
  | cons kind later ih =>
    rw [List.mapM_cons, answers, List.mapM_cons, FieldReader.run'_eq, FieldReader.bind_apply]
    cases read : kind.read cursor with
    | error error => rfl
    | ok found =>
      -- A read that went through left the cursor where `answers` lets the next read start.
      have rest := ih cursor.advance
      rw [FieldReader.run'_eq] at rest
      simp only [ok_bind, map_ok, id, ← rest, ValueKind.snd_of_read read, FieldReader.bind_apply]
      cases later.mapM ValueKind.read cursor.advance <;> rfl

/-- Reads of the kinds of the values go through, and answer with the values in
order. -/
theorem answers_of_kinds {cursor : FieldCursor} {wanted : List ValueKind}
    (kinds : wanted.map (·.fieldKind) = cursor.values.map (·.kind)) :
    cursor.answers wanted = cursor.values.map .ok := by
  obtain ⟨packet, fields, values⟩ := cursor
  induction wanted generalizing fields values with
  | nil =>
    have none : values = [] := by simpa using kinds
    rw [none]
    rfl
  | cons kind later ih =>
    cases values with
    | nil => simp at kinds
    | cons value values =>
      obtain ⟨same, kinds⟩ := List.cons.inj kinds
      have here : Prod.fst <$> kind.read ⟨packet, fields, value :: values⟩ = .ok value := by
        rw [ValueKind.read_eq]
        simp only [List.head?_cons, Option.filter_some, same, decide_true, if_true, map_ok]
      rw [answers, here, List.map_cons]
      exact congrArg _ (ih fields.tail values kinds)

end FieldCursor

end MotionLink
