import Mathlib
import MotionLink.Argument.HexFrame
import MotionLink.Proofs.Toolbox

/-!
# Frames in pieces

A frame is written as digits in pieces (`Scattered`). Splitting at separators
takes a text apart at each of them alone (`frameDigits_append`), so the digits
of a text are those of its pieces whatever the separators are; what a piece
loses in front is the mark it starts with and nothing else (`unmarked_marked`).
Hence, with a decoder that reads digits as bytes, a text is read as a frame
exactly where it is the digits of the frame in pieces
(`hexFrame_eq_ok_iff_scattered`).
-/

namespace MotionLink

open Refusal

namespace Argument

/-! ## The notation -/

/-- What a piece may start with. -/
def IsMark (mark : List Char) : Prop := mark = [] ∨ mark = ['0', 'x'] ∨ mark = ['0', 'X']

/-- All characters of a text are digits. -/
def AllDigits (text : List Char) : Prop := ∀ c ∈ text, ∃ n, Hex.IsDigit c n

/-- The digits that denote bytes are all digits. -/
theorem allDigits_of_denotes {digits : List Char} {bytes : Bytes}
    (denoted : Hex.Denotes digits bytes) : AllDigits digits :=
  (Hex.exists_denotes.mp ⟨bytes, denoted⟩).2

/-- Digits in pieces: each piece has a mark or none, and between two pieces is a
run of separators. Pieces may be empty. -/
inductive Scattered : List Char → List Char → Prop
  | piece {mark digits : List Char} :
    IsMark mark → AllDigits digits → Scattered (mark ++ digits) digits
  | cons {mark digits run text rest : List Char} :
    IsMark mark → AllDigits digits → run ≠ [] → (∀ c ∈ run, isSeparator c = true) →
    Scattered text rest → Scattered (mark ++ digits ++ (run ++ text)) (digits ++ rest)

/-- Digits in pieces are written with digits, separators and the two letters of
marks. A character of another sort is therefore not among them, and may be used
around a frame to find it. -/
theorem Scattered.not_mem {text digits : List Char} (scattered : Scattered text digits) {c : Char}
    (separates : isSeparator c = false) (digit : Hex.value? c = none) (lower : c ≠ 'x')
    (upper : c ≠ 'X') : c ∉ text := by
  have absent {mark digits : List Char} (marks : IsMark mark) (all : AllDigits digits) :
      c ∉ mark ++ digits := by
    have zero : c ≠ '0' := by
      rintro rfl
      cases digit
    have unread : c ∉ digits := by
      intro mem
      obtain ⟨n, read⟩ := all c mem
      cases digit.symm.trans (Hex.value?_eq_some.mpr read)
    rcases marks with rfl | rfl | rfl <;> simp [zero, lower, upper, unread]
  induction scattered with
  | piece marks all => exact absent marks all
  | cons marks all _ run _ ih =>
    intro mem
    rcases List.mem_append.mp mem with front | behind
    · exact absent marks all front
    · rcases List.mem_append.mp behind with between | back
      · cases separates.symm.trans (run c between)
      · exact ih back

/-! ## Pieces of a text -/

/-- A piece without its mark. -/
def unmarked (piece : List Char) : List Char := (afterHexMark? piece).getD piece

/-- The digits of a text are what its pieces leave when their marks are off. -/
theorem frameDigits_eq (text : List Char) : frameDigits text = (pieces text).flatMap unmarked := rfl

/-- A separator ends a piece and is lost: on both sides of it the text is taken
apart as if it stood alone. -/
theorem frameDigits_append (front back : List Char) {c : Char} (separates : isSeparator c = true) :
    frameDigits (front ++ c :: back) = frameDigits front ++ frameDigits back := by
  rw [frameDigits_eq, pieces, List.splitOnP_append_cons _ _ separates, List.flatMap_append]
  rfl

/-- A text without separators is one piece. -/
theorem frameDigits_piece {piece : List Char} (whole : ∀ c ∈ piece, isSeparator c = false) :
    frameDigits piece = unmarked piece := by
  have single : pieces piece = [piece] :=
    List.splitOnP_eq_singleton fun c mem => by simp [whole c mem]
  rw [frameDigits_eq, single, List.flatMap_singleton]

/-- A run of separators has no digits. -/
theorem frameDigits_run {run : List Char} (separates : ∀ c ∈ run, isSeparator c = true)
    (back : List Char) : frameDigits (run ++ back) = frameDigits back := by
  induction run with
  | nil => rfl
  | cons c run ih =>
    obtain ⟨first, others⟩ := List.forall_mem_cons.mp separates
    rw [List.cons_append, ← List.nil_append (c :: _), frameDigits_append _ _ first, ih others]
    rfl

/-- Of the characters that print, the comma and the colon separate and no
others. -/
theorem isSeparator_printing {c : Char} (printing : 0x20 < c.toNat ∧ c.toNat < 0x7F)
    (comma : c ≠ ',') (colon : c ≠ ':') : isSeparator c = false := by
  simp only [isSeparator, isBlank_printing printing, comma, colon, decide_false, Bool.or_false]

theorem isSeparator_digit {c : Char} {n : Nat} (digit : Hex.IsDigit c n) :
    isSeparator c = false := by
  have read := Hex.value?_eq_some.mpr digit
  obtain ⟨low, high⟩ := Hex.range_of_value? read
  refine isSeparator_printing (by omega) ?_ ?_
  · rintro rfl
    cases read
  · rintro rfl
    cases read

/-- A marked piece has no separators: neither letter of a mark is one, and no
digit is. -/
theorem isSeparator_marked {mark digits : List Char} (marks : IsMark mark)
    (all : AllDigits digits) : ∀ c ∈ mark ++ digits, isSeparator c = false := by
  rw [List.forall_mem_append]
  refine ⟨?_, ?_⟩
  · have zero : isSeparator '0' = false := by decide
    have lower : isSeparator 'x' = false := by decide
    have upper : isSeparator 'X' = false := by decide
    rcases marks with rfl | rfl | rfl <;> simp [zero, lower, upper]
  · intro c mem
    obtain ⟨n, digit⟩ := all c mem
    exact isSeparator_digit digit

/-- Digits alone do not start with a mark, since the letter of the mark is no
digit. -/
theorem afterHexMark?_digits {digits : List Char} (all : AllDigits digits) :
    afterHexMark? digits = none := by
  unfold afterHexMark?
  split
  · obtain ⟨n, digit⟩ := all 'x' (by simp)
    cases Hex.value?_eq_some.mpr digit
  · obtain ⟨n, digit⟩ := all 'X' (by simp)
    cases Hex.value?_eq_some.mpr digit
  · rfl

/-- A piece of digits loses its mark and keeps its digits. One mark is taken off
and not two, and `0` alone is a digit and not half a mark. -/
theorem unmarked_marked {mark digits : List Char} (marks : IsMark mark) (all : AllDigits digits) :
    unmarked (mark ++ digits) = digits := by
  rcases marks with rfl | rfl | rfl
  · rw [unmarked, List.nil_append, afterHexMark?_digits all]
    rfl
  · rfl
  · rfl

/-- A piece is a mark and what is left of it, where the mark may be none. This
is what puts a text together again from its pieces. -/
theorem exists_mark (piece : List Char) : ∃ mark, IsMark mark ∧ piece = mark ++ unmarked piece := by
  unfold unmarked afterHexMark?
  split
  · exact ⟨_, .inr (.inl rfl), rfl⟩
  · exact ⟨_, .inr (.inr rfl), rfl⟩
  · exact ⟨[], .inl rfl, rfl⟩

/-- Digits in pieces are found, whatever separates the pieces and however long
the runs of separators are. -/
theorem Scattered.frameDigits_eq {text digits : List Char} (scattered : Scattered text digits) :
    frameDigits text = digits := by
  induction scattered with
  | piece marks all =>
    rw [frameDigits_piece (isSeparator_marked marks all), unmarked_marked marks all]
  | @cons mark digits run text rest marks all filled separates _ ih =>
    obtain ⟨c, run, rfl⟩ := List.exists_cons_of_ne_nil filled
    obtain ⟨first, others⟩ := List.forall_mem_cons.mp separates
    rw [List.cons_append, frameDigits_append _ _ first, frameDigits_run others, ih,
      frameDigits_piece (isSeparator_marked marks all), unmarked_marked marks all]

/-- A text is one piece, or a piece, a separator and the text behind it. The
text behind it is shorter, which is what inductions on texts in pieces go by. -/
theorem piece_cases (text : List Char) :
    (∀ c ∈ text, isSeparator c = false) ∨
      ∃ piece c rest, text = piece ++ c :: rest ∧ (∀ c ∈ piece, isSeparator c = false) ∧
        isSeparator c = true := by
  induction text with
  | nil => exact .inl nofun
  | cons c text ih =>
    cases separates : isSeparator c with
    | true => exact .inr ⟨[], c, text, rfl, nofun, separates⟩
    | false =>
      rcases ih with whole | ⟨piece, d, rest, rfl, whole, ends⟩
      · exact .inl (List.forall_mem_cons.mpr ⟨separates, whole⟩)
      · exact .inr ⟨c :: piece, d, rest, rfl, List.forall_mem_cons.mpr ⟨separates, whole⟩, ends⟩

/-- Texts are gone through piece by piece. What is true of every piece, and of a
piece, a separator and a text behind it where it is true of that text, is true
of all texts. -/
@[elab_as_elim]
theorem pieces_induction {motive : List Char → Prop}
    (piece : ∀ piece, (∀ c ∈ piece, isSeparator c = false) → motive piece)
    (more : ∀ piece c rest, (∀ c ∈ piece, isSeparator c = false) → isSeparator c = true →
      motive rest → motive (piece ++ c :: rest)) (text : List Char) : motive text := by
  induction size : text.length using Nat.strong_induction_on generalizing text with
  | _ length ih =>
    rcases piece_cases text with whole | ⟨front, c, rest, rfl, whole, ends⟩
    · exact piece text whole
    · have shorter : rest.length < length := by
        rw [← size, List.length_append, List.length_cons]
        omega
      exact more front c rest whole ends (ih _ shorter rest rfl)

/-- A text in which only digits are found is digits in pieces. What a piece has
besides its digits is its mark, so the text is put together again from both. -/
theorem scattered_frameDigits {text : List Char} (all : AllDigits (frameDigits text)) :
    Scattered text (frameDigits text) := by
  induction text using pieces_induction with
  | piece piece whole =>
    obtain ⟨mark, marks, marked⟩ := exists_mark piece
    rw [frameDigits_piece whole] at all ⊢
    have one := Scattered.piece marks all
    rwa [← marked] at one
  | more piece c rest whole ends ih =>
    obtain ⟨mark, marks, marked⟩ := exists_mark piece
    rw [frameDigits_append _ _ ends, frameDigits_piece whole] at all ⊢
    obtain ⟨front, back⟩ := List.forall_mem_append.mp all
    have more := Scattered.cons marks front (List.cons_ne_nil c []) (by simpa using ends) (ih back)
    rwa [← marked] at more

section

variable {tools : Toolbox} (codes : tools.CodesDigits)

include codes

/-- A text is read as the bytes that its digits denote. With a decoder that
reads digits as bytes, all that is left to say of a text is which digits are
found in it. -/
theorem hexFrame_eq_ok {text : String} {bytes : Bytes} :
    hexFrame text tools = .ok bytes ↔ Hex.Denotes (frameDigits text.toList) bytes := by
  rw [hexFrame, mapError_eq_ok, codes.bytes_eq_ok]

/-- A text is read as bytes where it is their digits in pieces: of all ways to
write the pieces, each is read, and nothing else is. -/
theorem hexFrame_eq_ok_iff_scattered {text : String} {bytes : Bytes} :
    hexFrame text tools = .ok bytes ↔
      ∃ digits, Scattered text.toList digits ∧ Hex.Denotes digits bytes := by
  rw [hexFrame_eq_ok codes]
  constructor
  · intro denoted
    exact ⟨_, scattered_frameDigits (allDigits_of_denotes denoted), denoted⟩
  · rintro ⟨digits, scattered, denoted⟩
    rwa [scattered.frameDigits_eq]

end

/-! ## Frames as they are printed -/

/-- Digits are one piece without a mark. -/
theorem scattered_digits {digits : List Char} (all : AllDigits digits) : Scattered digits digits :=
  .piece (.inl rfl) all

/-- A piece has no blanks, since a blank separates. -/
theorem inked_piece {piece : List Char} (whole : ∀ c ∈ piece, isSeparator c = false) :
    Table.inked piece = piece := by
  refine List.filter_eq_self.mpr fun c mem => ?_
  rw [decide_eq_true_iff]
  rintro rfl
  cases whole ' ' mem

/-- Of digits among blanks, the digits are found: they are all that is left when
the blanks are out, and no piece of them starts with a mark. -/
theorem frameDigits_eq_inked {text : List Char} (all : AllDigits (Table.inked text)) :
    frameDigits text = Table.inked text := by
  induction text using pieces_induction with
  | piece piece whole =>
    rw [inked_piece whole] at all ⊢
    rw [frameDigits_piece whole, unmarked, afterHexMark?_digits all]
    rfl
  | more piece c rest whole ends ih =>
    -- Any other separator would be in ink, and is no digit.
    obtain rfl : c = ' ' := by
      by_contra other
      have inked : c ∈ Table.inked (piece ++ c :: rest) :=
        List.mem_filter.mpr ⟨List.mem_append_right _ List.mem_cons_self, by simpa using other⟩
      obtain ⟨n, digit⟩ := all c inked
      cases ends.symm.trans (isSeparator_digit digit)
    have counted : Table.inked (' ' :: rest) = Table.inked rest := rfl
    rw [Table.inked_append, inked_piece whole, counted] at all ⊢
    obtain ⟨front, back⟩ := List.forall_mem_append.mp all
    rw [frameDigits_append _ _ ends, frameDigits_piece whole, unmarked,
      afterHexMark?_digits front, ih back]
    rfl

/-- Digits among blanks are digits in pieces. This is how a cell of a table is
read, where a frame may go on in the next line at any place, between the two
digits of a byte as well. -/
theorem scattered_of_inked {text digits : List Char} (all : AllDigits digits)
    (ink : Table.inked text = digits) : Scattered text digits := by
  subst ink
  have found := frameDigits_eq_inked all
  rw [← found] at all ⊢
  exact scattered_frameDigits all

/-- The digits of a frame in upper case, with a blank between bytes, are its
digits in pieces, one piece for each byte. -/
theorem exists_scattered_spaced (frame : Bytes) :
    ∃ digits, Scattered (Hex.spaced frame) digits ∧ Hex.Denotes digits frame := by
  refine ⟨_, ?_, Hex.denotes_flatMap Hex.isDigit_upperDigit frame⟩
  have pair (byte : UInt8) :
      AllDigits [Hex.upperDigit (byte.toNat / 16), Hex.upperDigit (byte.toNat % 16)] :=
    allDigits_of_denotes (Hex.denotes_flatMap Hex.isDigit_upperDigit [byte])
  induction frame with
  | nil => exact scattered_digits nofun
  | cons byte frame ih =>
    cases frame with
    | nil => exact scattered_digits (pair byte)
    | cons next frame =>
      have blank : isSeparator ' ' = true := by decide
      exact .cons (.inl rfl) (pair byte) (List.cons_ne_nil ' ' []) (by simpa using blank) ih

end Argument

end MotionLink
