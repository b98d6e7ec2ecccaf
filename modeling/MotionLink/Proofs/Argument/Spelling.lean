import Mathlib
import MotionLink.Argument.Segment
import MotionLink.Proofs.Text.Denotation

/-!
# Spellings of a segment

A segment is spelled by a word or by a number in one of two radixes
(`Spells`). The three ways exclude each other, since the word starts with a
letter, the mark of a hexadecimal number has one that is no decimal digit, and
so a text is read in one way at most (`spells_iff`). A number is compared with
the highest address as it stands, whatever the length of its digits.
-/

namespace MotionLink.Argument

/-! ## The notation -/

/-- The word for all boards, in letters of either case. -/
def IsWord (text : List Char) : Prop :=
  List.Forall₂ (fun c letter => c = letter ∨ c = letter.toUpper) text "broadcast".toList

/-- The number that a text spells: the highest address by its word, or any
number in hexadecimal digits behind a mark or in decimal ones. -/
inductive Spells : List Char → Nat → Prop
  | word {text : List Char} : IsWord text → Spells text 255
  | hexadecimal {mark digits : List Char} {n : Nat} :
    mark = ['0', 'x'] ∨ mark = ['0', 'X'] → Numeral.Reads 16 digits n → Spells (mark ++ digits) n
  | decimal {text : List Char} {n : Nat} : Numeral.Reads 10 text n → Spells text n

/-! ## The word -/

/-- The letters of the word are in lower case, and their upper case is lowered
to them. -/
theorem lowerLetter_broadcast {letter : Char} (mem : letter ∈ "broadcast".toList) :
    lowerLetter letter = letter ∧ lowerLetter letter.toUpper = letter := by
  have each : ("broadcast".toList.all fun letter =>
      lowerLetter letter = letter ∧ lowerLetter letter.toUpper = letter) = true := by decide
  exact of_decide_eq_true (List.all_eq_true.mp each letter mem)

/-- The upper case of a letter stands at its place in the other alphabet. -/
theorem toUpper_code : ∀ k < 26, (Char.ofNat (97 + k)).toUpper = Char.ofNat (65 + k) := by
  decide

/-- A character is in lower case after lowering, or was the upper case of what
it is lowered to. Characters that are no letters are left as they are. -/
theorem lowerLetter_cases (c : Char) : c = lowerLetter c ∨ c = (lowerLetter c).toUpper := by
  unfold lowerLetter
  split
  · rename_i range
    obtain ⟨low, high⟩ : 65 ≤ c.toNat ∧ c.toNat ≤ 90 := range
    right
    have shifted := toUpper_code (c.toNat - 65) (by omega)
    rw [show 97 + (c.toNat - 65) = c.toNat + 32 by omega,
      show 65 + (c.toNat - 65) = c.toNat by omega, c.ofNat_toNat] at shifted
    exact shifted.symm
  · exact .inl rfl

/-- A text is lowered to the word exactly where it is the word, each letter in
one case or the other. -/
theorem map_lowerLetter_iff {text : List Char} :
    text.map lowerLetter = "broadcast".toList ↔ IsWord text := by
  have general (word : List Char) (letters : ∀ letter ∈ word, letter ∈ "broadcast".toList) :
      text.map lowerLetter = word ↔
        List.Forall₂ (fun c letter => c = letter ∨ c = letter.toUpper) text word := by
    induction text generalizing word with
    | nil => cases word <;> simp
    | cons c text ih =>
      cases word with
      | nil => simp
      | cons letter word =>
        obtain ⟨first, others⟩ := List.forall_mem_cons.mp letters
        obtain ⟨lower, upper⟩ := lowerLetter_broadcast first
        rw [List.map_cons, List.cons.injEq, List.forall₂_cons, ih word others]
        refine and_congr_left fun _ => ⟨?_, ?_⟩
        · rintro rfl
          exact lowerLetter_cases c
        · rintro (rfl | rfl)
          · exact lower
          · exact upper
  exact general _ fun _ mem => mem

/-- The word starts with a letter, and every number with a character before the
letters. -/
theorem not_isWord_digit {c : Char} {text : List Char} (high : c.toNat < 65) :
    ¬ IsWord (c :: text) := by
  intro word
  obtain ⟨letter, rest, first, -, same⟩ := List.forall₂_cons_left_iff.mp word
  cases same
  rcases first with rfl | rfl
  · exact absurd high (by decide)
  · exact absurd high (by decide)

/-! ## The numbers -/

/-- The mark is taken off where it is there, with the letter in either case.
What is behind it is not looked at. -/
theorem afterHexMark?_eq_some {text digits : List Char} :
    afterHexMark? text = some digits ↔
      text = '0' :: 'x' :: digits ∨ text = '0' :: 'X' :: digits := by
  unfold afterHexMark?
  split <;> simp_all

/-- A number in decimal digits is neither the word nor marked, so the three ways
to spell a segment do not overlap. -/
theorem decimal_alone {text : List Char} {n : Nat} (reads : Numeral.Reads 10 text n) :
    ¬ IsWord text ∧ afterHexMark? text = none := by
  obtain ⟨digits, plus, denoted⟩ := reads
  have decimal := denoted.decimal
  have unmarked : afterHexMark? digits = none := by
    rw [Option.eq_none_iff_forall_ne_some]
    intro rest marked
    rcases afterHexMark?_eq_some.mp marked with rfl | rfl
    · cases decimal 'x' (by simp)
    · cases decimal 'X' (by simp)
  rcases plus with rfl | rfl
  · obtain ⟨c, rest, rfl⟩ := List.exists_cons_of_ne_nil denoted.1
    have code := Char.isDigit_iff_toNat.mp (decimal c List.mem_cons_self)
    exact ⟨not_isWord_digit (Nat.lt_of_le_of_lt code.2 (by decide)), unmarked⟩
  · exact ⟨not_isWord_digit (by decide), rfl⟩

/-- A text is read in one of the three ways. On the right the ways are tried in
order, as the reader does; on the left they are alternatives. -/
theorem spells_iff {text : List Char} {n : Nat} :
    Spells text n ↔ IsWord text ∧ n = 255 ∨ ¬ IsWord text ∧
      match afterHexMark? text with
      | some digits => Numeral.Reads 16 digits n
      | none => Numeral.Reads 10 text n := by
  constructor
  · rintro (word | ⟨mark, reads⟩ | reads)
    · exact .inl ⟨word, rfl⟩
    · refine .inr ?_
      rcases mark with rfl | rfl
      · exact ⟨not_isWord_digit (by decide), reads⟩
      · exact ⟨not_isWord_digit (by decide), reads⟩
    · obtain ⟨other, unmarked⟩ := decimal_alone reads
      refine .inr ⟨other, ?_⟩
      rwa [unmarked]
  · rintro (⟨word, rfl⟩ | ⟨-, reads⟩)
    · exact .word word
    · cases marked : afterHexMark? text with
      | none =>
        rw [marked] at reads
        exact .decimal reads
      | some digits =>
        rw [marked] at reads
        rcases afterHexMark?_eq_some.mp marked with rfl | rfl
        · exact .hexadecimal (.inl rfl) reads
        · exact .hexadecimal (.inr rfl) reads

/-- A text spells one number at most, so that what a spelling stands for does
not depend on the way it is read. -/
theorem Spells.unique {text : List Char} {m n : Nat} (first : Spells text m)
    (second : Spells text n) : m = n := by
  rw [spells_iff] at first second
  rcases first with ⟨word, rfl⟩ | ⟨other, first⟩
  · rcases second with ⟨-, rfl⟩ | ⟨other, -⟩
    · rfl
    · exact absurd word other
  · rcases second with ⟨word, -⟩ | ⟨-, second⟩
    · exact absurd word other
    · cases marked : afterHexMark? text with
      | none =>
        rw [marked] at first second
        exact first.unique second
      | some digits =>
        rw [marked] at first second
        exact first.unique second

/-! ## Reading -/

/-- The segment with a number is the one whose address is the number, as long as
it is an address at all. -/
theorem toNat_id_eq {s : Segment} {n : Nat} (small : n ≤ 255) :
    (⟨UInt8.ofNat n⟩ : Segment) = s ↔ n = s.id.toNat := by
  have below : n % 2 ^ 8 = n := Nat.mod_eq_of_lt (by omega)
  constructor
  · rintro rfl
    rw [UInt8.toNat_ofNat', below]
  · rintro rfl
    rw [UInt8.ofNat_toNat]

/-- A text stands for the segment whose number it spells. A number above the
highest address is spelled as well, but there is no segment for it. -/
theorem segment?_eq_some {text : List Char} {s : Segment} :
    segment? text = some s ↔ Spells text s.id.toNat := by
  have numbered (radix : Nat) (digits : List Char) :
      (Numeral.unsigned? radix 255 digits).map (fun id => (⟨UInt8.ofNat id⟩ : Segment)) = some s ↔
        Numeral.Reads radix digits s.id.toNat := by
    rw [Option.map_eq_some_iff]
    constructor
    · rintro ⟨n, read, same⟩
      obtain ⟨reads, small⟩ := Numeral.unsigned?_eq_some.mp read
      rwa [← (toNat_id_eq small).mp same]
    · intro reads
      have small : s.id.toNat ≤ 255 := Nat.le_of_lt_succ s.id.toNat_lt
      exact ⟨_, Numeral.unsigned?_eq_some.mpr ⟨reads, small⟩, (toNat_id_eq small).mpr rfl⟩
  rw [spells_iff, segment?]
  split
  · rename_i word
    rw [map_lowerLetter_iff] at word
    simp only [word, true_and, not_true_eq_false, false_and, or_false, Option.some.injEq]
    exact (toNat_id_eq (Nat.le_refl 255)).trans eq_comm
  · rename_i other
    rw [map_lowerLetter_iff] at other
    simp only [other, false_and, not_false_eq_true, true_and, false_or]
    cases afterHexMark? text with
    | none => exact numbered 10 text
    | some digits => exact numbered 16 digits

/-- An argument is read as a segment where its core, the blanks at both ends
taken off, spells the number of the segment. -/
theorem segment_eq_ok {text : String} {s : Segment} :
    segment text = .ok s ↔ Spells (trimBlank text.toList) s.id.toNat := by
  rw [← segment?_eq_some, segment]
  cases segment? (trimBlank text.toList) with
  | none => exact iff_of_false nofun nofun
  | some other => rw [Except.ok.injEq, Option.some.injEq]

/-- A refusal quotes the text it refuses, without the blanks around it; and it
comes exactly where no segment has a number that the text spells. -/
theorem segment_eq_error {text message : String} :
    segment text = .error message ↔
      (∀ s : Segment, ¬ Spells (trimBlank text.toList) s.id.toNat) ∧
      message = "expected 0-255, 0x00-0xFF or `broadcast`, got `" ++
        String.ofList (trimBlank text.toList) ++ "`" := by
  simp only [← segment?_eq_some, segment]
  cases segment? (trimBlank text.toList) with
  | none => simp only [Except.error.injEq, reduceCtorEq, not_false_eq_true, implies_true,
      true_and, eq_comm]
  | some other =>
    refine iff_of_false nofun ?_
    rintro ⟨unread, -⟩
    exact unread other rfl

/-- Around every text there are the blanks to be taken off, and the rest is read
as `broadcast` in letters of either case, behind `0x` as a number in hexadecimal
digits up to 255, and otherwise as such a number in decimal digits; either may
have a plus sign and zeros in front. Any other text is refused with the rest in
quotes, a number above 255 too, however long it is; and texts that spell one
number are read as one segment, in whichever way they spell it. -/
theorem segment_spelled (text : String) : ∃ core : List Char,
    (∀ other, Trims text.toList other ↔ other = core) ∧
    (IsWord core → segment text = .ok .broadcast) ∧
    (∀ digits, core = '0' :: 'x' :: digits ∨ core = '0' :: 'X' :: digits →
      ∀ s, segment text = .ok s ↔ Numeral.Reads 16 digits s.id.toNat) ∧
    (¬ IsWord core → (∀ digits, core ≠ '0' :: 'x' :: digits ∧ core ≠ '0' :: 'X' :: digits) →
      ∀ s, segment text = .ok s ↔ Numeral.Reads 10 core s.id.toNat) ∧
    (∀ message, segment text = .error message ↔ (∀ s : Segment, ¬ Spells core s.id.toNat) ∧
      message = "expected 0-255, 0x00-0xFF or `broadcast`, got `" ++ String.ofList core ++ "`") ∧
    (∀ n, Spells core n → 255 < n → ∃ message, segment text = .error message) ∧
    ∀ n ≤ 255, Spells core n → ∀ (other : String) (core' : List Char),
      Trims other.toList core' → Spells core' n →
      segment text = .ok ⟨UInt8.ofNat n⟩ ∧ segment other = .ok ⟨UInt8.ofNat n⟩ := by
  refine ⟨trimBlank text.toList, fun other => trimBlank_eq_iff.symm.trans eq_comm, ?_, ?_, ?_,
    fun message => segment_eq_error, ?_, ?_⟩
  · intro word
    exact segment_eq_ok.mpr (.word word)
  · intro digits marked s
    have other : ¬ IsWord (trimBlank text.toList) := by
      rcases marked with same | same <;> rw [same] <;> exact not_isWord_digit (by decide)
    rw [segment_eq_ok, spells_iff, afterHexMark?_eq_some.mpr marked]
    simp only [other, false_and, not_false_eq_true, true_and, false_or]
  · intro other unmarked s
    have decimal : afterHexMark? (trimBlank text.toList) = none := by
      rw [Option.eq_none_iff_forall_ne_some]
      intro digits marked
      obtain ⟨lower, upper⟩ := unmarked digits
      exact (afterHexMark?_eq_some.mp marked).elim lower upper
    rw [segment_eq_ok, spells_iff, decimal]
    simp only [other, false_and, not_false_eq_true, true_and, false_or]
  · intro n spelled above
    refine ⟨_, segment_eq_error.mpr ⟨?_, rfl⟩⟩
    intro s other
    have := spelled.unique other
    have := s.id.toNat_lt
    omega
  · intro n small spelled other core trims spelled'
    have number : (⟨UInt8.ofNat n⟩ : Segment).id.toNat = n := ((toNat_id_eq small).mp rfl).symm
    rw [segment_eq_ok, segment_eq_ok, trims.trimBlank_eq, number]
    exact ⟨spelled, spelled'⟩

/-- A number is spelled in three ways, and one past the highest address is none. -/
example :
    segment " +0255\t" = .ok .broadcast ∧ segment "0X+fF" = .ok .broadcast ∧
      segment "BroadCast" = .ok .broadcast ∧ (segment "0x100").isOk = false := by
  decide +kernel

end MotionLink.Argument
