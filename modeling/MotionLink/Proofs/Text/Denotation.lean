import Mathlib
import MotionLink.Text.Blank
import MotionLink.Text.Numeral
import MotionLink.Proofs.Refusal

/-!
# What digits denote

Three notations that arguments are written in, each as a relation between a
text and what it denotes: pairs of hexadecimal digits denote bytes
(`Hex.Denotes`), the digits of a radix a number (`Numeral.Denotes`), with or
without a plus sign (`Numeral.Reads`), and a text is trimmed to what stands
between its blanks (`Trims`). A digit is known by its place in an alphabet and a
number by its digits as Mathlib reads them. The readers of the library find
exactly what these relations say.
-/

namespace MotionLink

/-! ## Runs -/

/-- A run of characters of one sort ends where a character of another sort
follows. What is taken while the sort lasts is the run, and dropping it leaves
the rest; numbers and cells are found this way. -/
theorem run_ends {p : Char → Bool} {run rest : List Char} (all : ∀ c ∈ run, p c = true)
    (stops : ∀ c ∈ rest.head?, p c = false) :
    (run ++ rest).takeWhile p = run ∧ (run ++ rest).dropWhile p = rest := by
  rw [List.takeWhile_append_of_pos all, List.dropWhile_append_of_pos all]
  cases rest with
  | nil => exact ⟨List.append_nil run, rfl⟩
  | cons c rest =>
    have stop : ¬ p c = true := by simpa using stops c rfl
    rw [List.takeWhile_cons_of_neg stop, List.dropWhile_cons_of_neg stop, List.append_nil]
    exact ⟨rfl, rfl⟩

/-! ## Digits -/

namespace Hex

/-- The digits in lower case, each at the place of its value. -/
def lowerDigits : List Char := "0123456789abcdef".toList

/-- The digits in upper case, each at the place of its value. -/
def upperDigits : List Char := "0123456789ABCDEF".toList

/-- A character is the digit of a number, in either case. -/
def IsDigit (c : Char) (n : Nat) : Prop := lowerDigits[n]? = some c ∨ upperDigits[n]? = some c

instance (c : Char) (n : Nat) : Decidable (IsDigit c n) := inferInstanceAs (Decidable (_ ∨ _))

/-- There are sixteen digits: the alphabets end there, so nothing larger has a
place in them. -/
theorem IsDigit.lt {c : Char} {n : Nat} (digit : IsDigit c n) : n < 16 := by
  rcases digit with lower | upper
  · exact (List.getElem?_eq_some_iff.mp lower).1
  · exact (List.getElem?_eq_some_iff.mp upper).1

/-- The digits of the numbers below ten are the same in both alphabets. -/
theorem IsDigit.decimal {c : Char} {n : Nat} (digit : IsDigit c n) (small : n < 10) :
    c.isDigit = true := by
  have each : ∀ n < 10,
      (lowerDigits[n]?.all Char.isDigit && upperDigits[n]?.all Char.isDigit) = true := by
    decide
  have both := each n small
  rcases digit with here | here
  · rw [here, Option.all_some] at both
    exact (Bool.and_eq_true_iff.mp both).1
  · rw [here, Option.all_some] at both
    exact (Bool.and_eq_true_iff.mp both).2

/-- The digits of a number below sixteen are read as that number. There are
sixteen places to look at, and at each of them the two alphabets are evaluated. -/
theorem value?_alphabets :
    ∀ n < 16, (lowerDigits[n]?.bind value? = some n ∧ upperDigits[n]?.bind value? = some n) := by
  decide

/-- A number that is read from a character up to `f` has it among its digits.
This is the other direction, over the characters and not over the numbers: no
character in the range is taken for a digit that the alphabets do not have. -/
theorem isDigit_code :
    ∀ code ≤ 102, ∀ n ∈ value? (Char.ofNat code), IsDigit (Char.ofNat code) n := by
  decide

/-- Digits lie from `0` to `f` among the characters, so that the check of all of
them is a finite one. -/
theorem range_of_value? {c : Char} {n : Nat} (read : value? c = some n) :
    48 ≤ c.toNat ∧ c.toNat ≤ 102 := by
  unfold value? at read
  split at read
  · rename_i range
    obtain ⟨low, high⟩ : 48 ≤ c.toNat ∧ c.toNat ≤ 57 := range
    omega
  · split at read
    · rename_i range
      obtain ⟨low, high⟩ : 97 ≤ c.toNat ∧ c.toNat ≤ 102 := range
      omega
    · split at read
      · rename_i range
        obtain ⟨low, high⟩ : 65 ≤ c.toNat ∧ c.toNat ≤ 70 := range
        omega
      · cases read

/-- A character is read as a number exactly where it is a digit of that number,
in one case or in the other. -/
theorem value?_eq_some {c : Char} {n : Nat} : value? c = some n ↔ IsDigit c n := by
  constructor
  · intro read
    have digit := isDigit_code c.toNat (range_of_value? read).2 n
    rw [c.ofNat_toNat] at digit
    exact digit read
  · intro digit
    obtain ⟨lower, upper⟩ := value?_alphabets n digit.lt
    rcases digit with here | here
    · rwa [here] at lower
    · rwa [here] at upper

/-! ## Bytes -/

/-- Digits denote bytes: two for each byte, the more significant one first. -/
inductive Denotes : List Char → Bytes → Prop
  | nil : Denotes [] []
  | cons {high low : Char} {h l : Nat} {byte : UInt8} {digits : List Char} {bytes : Bytes} :
    IsDigit high h → IsDigit low l → byte.toNat = 16 * h + l → Denotes digits bytes →
    Denotes (high :: low :: digits) (byte :: bytes)

/-- The byte of two digits. -/
theorem toNat_ofNat_digits {high low : Char} {h l : Nat} (upper : IsDigit high h)
    (lower : IsDigit low l) : (UInt8.ofNat (16 * h + l)).toNat = 16 * h + l := by
  have := upper.lt
  have := lower.lt
  rw [UInt8.toNat_ofNat']
  omega

/-- Pairs of digits are read as the bytes they denote, from any position on,
since the position is only quoted in refusals. -/
theorem decodePairs_eq_ok {position : Nat} {text : List Char} {bytes : Bytes} :
    decodePairs position text = .ok bytes ↔ Denotes text bytes := by
  fun_induction decodePairs position text generalizing bytes with
  | case1 position =>
    constructor
    · rintro ⟨⟩
      exact .nil
    · rintro ⟨⟩
      rfl
  | case2 position char => exact iff_of_false nofun nofun
  | case3 position high low rest unread =>
    refine iff_of_false nofun ?_
    intro denoted
    cases denoted with
    | cons upper => cases unread.symm.trans (value?_eq_some.mpr upper)
  | case4 position high low rest h unread =>
    refine iff_of_false nofun ?_
    intro denoted
    cases denoted with
    | cons upper lower => cases unread.symm.trans (value?_eq_some.mpr lower)
  | case5 position high low rest h l lower upper ih =>
    rw [Refusal.map_eq_ok]
    constructor
    · rintro ⟨bytes, read, rfl⟩
      rw [value?_eq_some] at upper lower
      exact .cons upper lower (toNat_ofNat_digits upper lower) (ih.mp read)
    · intro denoted
      cases denoted with
      | cons upper' lower' same denoted =>
        cases upper.symm.trans (value?_eq_some.mpr upper')
        cases lower.symm.trans (value?_eq_some.mpr lower')
        exact ⟨_, ih.mpr denoted, by rw [← same, UInt8.ofNat_toNat]⟩

/-- Digits take one byte each in UTF-8, so that the length that is checked for
being even is the number of digits. -/
theorem Denotes.utf8Size_eq {text : List Char} {bytes : Bytes} (denoted : Denotes text bytes) :
    text.foldr (·.utf8Size + ·) 0 = 2 * bytes.length := by
  have single {c : Char} {n : Nat} (digit : IsDigit c n) : c.utf8Size = 1 := by
    rw [Char.utf8Size_eq_one_iff]
    exact Nat.le_trans (range_of_value? (value?_eq_some.mpr digit)).2 (by decide)
  induction denoted with
  | nil => rfl
  | cons upper lower _ _ ih =>
    rw [List.foldr_cons, List.foldr_cons, ih, single upper, single lower, List.length_cons]
    omega

/-- A text is read as the bytes it denotes, and is refused when it denotes none.
The check of the length in front turns away nothing that the pairs would not. -/
theorem decode_eq_ok {text : List Char} {bytes : Bytes} :
    decode text = .ok bytes ↔ Denotes text bytes := by
  unfold decode
  split
  · rename_i odd
    refine iff_of_false nofun ?_
    intro denoted
    rw [denoted.utf8Size_eq] at odd
    omega
  · exact decodePairs_eq_ok

/-- A text denotes the bytes of one list only: each pair of digits fixes its
byte, and no digit is taken for two numbers. -/
theorem Denotes.unique {text : List Char} {bytes bytes' : Bytes} (denoted : Denotes text bytes)
    (denoted' : Denotes text bytes') : bytes = bytes' :=
  Except.ok.inj ((decode_eq_ok.mpr denoted).symm.trans (decode_eq_ok.mpr denoted'))

/-- The texts that denote bytes are those of an even number of digits. Nothing
else is asked of them, so either case will do and even a mixture of both. -/
theorem exists_denotes {text : List Char} :
    (∃ bytes, Denotes text bytes) ↔ Even text.length ∧ ∀ c ∈ text, ∃ n, IsDigit c n := by
  constructor
  · rintro ⟨bytes, denoted⟩
    induction denoted with
    | nil => exact ⟨Even.zero, nofun⟩
    | cons upper lower _ _ ih =>
      refine ⟨?_, ?_⟩
      · rw [List.length_cons, List.length_cons, add_assoc]
        exact ih.1.add even_two
      · rw [List.forall_mem_cons, List.forall_mem_cons]
        exact ⟨⟨_, upper⟩, ⟨_, lower⟩, ih.2⟩
  · rintro ⟨even, digits⟩
    induction text using List.twoStepInduction with
    | nil => exact ⟨[], .nil⟩
    | singleton c => cases (by decide : ¬ Even 1) even
    | cons_cons high low text ih _ =>
      rw [List.forall_mem_cons, List.forall_mem_cons] at digits
      obtain ⟨⟨h, upper⟩, ⟨l, lower⟩, digits⟩ := digits
      rw [List.length_cons, List.length_cons, add_assoc, Nat.even_add] at even
      obtain ⟨bytes, denoted⟩ := ih (even.mpr even_two) digits
      exact ⟨_, .cons upper lower (toNat_ofNat_digits upper lower) denoted⟩

/-- Writing the two digits of every byte writes what the bytes are denoted by,
whichever case the digits are written in, as long as each number below sixteen
is written as a digit of its own. -/
theorem denotes_flatMap {write : Nat → Char} (each : ∀ n < 16, IsDigit (write n) n)
    (bytes : Bytes) :
    Denotes (bytes.flatMap fun byte => [write (byte.toNat / 16), write (byte.toNat % 16)])
      bytes := by
  induction bytes with
  | nil => exact .nil
  | cons byte bytes ih =>
    have := byte.toNat_lt
    exact .cons (each _ (by omega)) (each _ (by omega)) (by omega) ih

/-- The digits that are written in lower case are digits of the numbers they are
written for. -/
theorem isDigit_digit : ∀ n < 16, IsDigit (digit n) n := by decide

/-- So are the digits that are written in upper case, as the spaced form writes
them. -/
theorem isDigit_upperDigit : ∀ n < 16, IsDigit (upperDigit n) n := by decide

end Hex

/-! ## Numbers -/

namespace Numeral

/-- Digits of a radix denote a number, the most significant one first. There is
at least one, and zeros in front do not count. -/
def Denotes (radix : Nat) (text : List Char) (n : Nat) : Prop :=
  text ≠ [] ∧ ∃ digits : List Nat, List.Forall₂ Hex.IsDigit text digits ∧
    (∀ digit ∈ digits, digit < radix) ∧ n = Nat.ofDigits radix digits.reverse

/-- A text is read as a number: its digits, after a plus sign or without one. -/
def Reads (radix : Nat) (text : List Char) (n : Nat) : Prop :=
  ∃ digits, (text = digits ∨ text = '+' :: digits) ∧ Denotes radix digits n

/-- Accumulating digits from the left makes the number that Mathlib makes of
them from the right. -/
theorem ofDigits_eq (radix : Nat) (digits : List Nat) :
    ofDigits radix digits = Nat.ofDigits radix digits.reverse := by
  rw [Nat.ofDigits_eq_foldr, List.foldr_reverse, ofDigits]
  congr 1
  funext n digit
  exact Nat.add_comm _ _

/-- A character is read as a digit of a radix exactly where it is a digit of a
number below the radix. -/
theorem digit?_eq_some {radix : Nat} {c : Char} {n : Nat} :
    digit? radix c = some n ↔ Hex.IsDigit c n ∧ n < radix := by
  rw [digit?, Option.filter_eq_some_iff, Hex.value?_eq_some, decide_eq_true_iff]

/-- The digits of a text are read one by one: all of them are, and each is below
the radix. One character that is no digit spoils the whole text. -/
theorem mapM_digit? {radix : Nat} {text : List Char} {digits : List Nat} :
    text.mapM (digit? radix) = some digits ↔
      List.Forall₂ Hex.IsDigit text digits ∧ ∀ digit ∈ digits, digit < radix := by
  induction text generalizing digits with
  | nil => cases digits <;> simp
  | cons c text ih =>
    rw [List.mapM_cons, Option.bind_eq_bind, Option.bind_eq_some_iff, List.forall₂_cons_left_iff]
    constructor
    · rintro ⟨digit, first, read⟩
      obtain ⟨rest, tail, same⟩ := Option.bind_eq_some_iff.mp read
      cases same
      obtain ⟨others, below⟩ := ih.mp tail
      obtain ⟨first, small⟩ := digit?_eq_some.mp first
      exact ⟨⟨digit, rest, first, others, rfl⟩, List.forall_mem_cons.mpr ⟨small, below⟩⟩
    · rintro ⟨⟨digit, rest, first, others, rfl⟩, below⟩
      obtain ⟨small, below⟩ := List.forall_mem_cons.mp below
      rw [Option.bind_eq_bind, ih.mpr ⟨others, below⟩]
      exact ⟨digit, digit?_eq_some.mpr ⟨first, small⟩, rfl⟩

/-- Digits are read as the number they denote, and a text that denotes none, the
empty one among them, is not read. -/
theorem value?_eq_some {radix : Nat} {text : List Char} {n : Nat} :
    value? radix text = some n ↔ Denotes radix text n := by
  unfold value? Denotes
  split
  · rename_i empty
    exact iff_of_false nofun fun denoted => denoted.1 (List.isEmpty_iff.mp empty)
  · rename_i filled
    rw [List.isEmpty_iff] at filled
    rw [Option.map_eq_some_iff]
    constructor
    · rintro ⟨digits, read, rfl⟩
      obtain ⟨each, below⟩ := mapM_digit?.mp read
      exact ⟨filled, digits, each, below, ofDigits_eq radix digits⟩
    · rintro ⟨-, digits, each, below, rfl⟩
      exact ⟨digits, mapM_digit?.mpr ⟨each, below⟩, ofDigits_eq radix digits⟩

theorem digit?_decimal {c : Char} (decimal : c.isDigit = true) :
    digit? 10 c = some (c.toNat - '0'.toNat) := by
  have range : '0' ≤ c ∧ c ≤ '9' := by
    rw [Char.isDigit, Bool.and_eq_true, decide_eq_true_iff, decide_eq_true_iff] at decimal
    exact decimal
  have small : c.toNat - '0'.toNat < 10 := by
    have high : c.toNat ≤ 57 := range.2
    have zero : '0'.toNat = 48 := rfl
    omega
  rw [digit?, Hex.value?, if_pos range, Option.filter_some, decide_eq_true small, if_pos rfl]

/-- Decimal digits are read as the number they make, in the form in which the
writer of numbers makes them. -/
theorem value?_decimal {text : List Char} (filled : text ≠ [])
    (decimal : ∀ c ∈ text, c.isDigit = true) :
    value? 10 text = some (Nat.ofDigitChars 10 text 0) := by
  have each : text.mapM (digit? 10) = some (text.map fun c => c.toNat - '0'.toNat) := by
    clear filled
    induction text with
    | nil => rfl
    | cons c text ih =>
      rw [List.forall_mem_cons] at decimal
      rw [List.mapM_cons, digit?_decimal decimal.1, ih decimal.2]
      rfl
  rw [value?, if_neg (by simpa using filled), each, Option.map_some, ofDigits, List.foldl_map]
  rfl

/-- What denotes a number in decimal consists of decimal digits: the letters
among the digits are for numbers that the radix does not have. -/
theorem Denotes.decimal {text : List Char} {n : Nat} (denoted : Denotes 10 text n) :
    ∀ c ∈ text, c.isDigit = true := by
  obtain ⟨-, digits, each, below, -⟩ := denoted
  induction each with
  | nil => exact nofun
  | cons digit _ ih =>
    obtain ⟨small, others⟩ := List.forall_mem_cons.mp below
    exact List.forall_mem_cons.mpr ⟨digit.decimal small, ih others⟩

/-- The plus sign is no digit. A number with a sign in front is therefore read
in one way only, and two signs are not read at all. -/
theorem not_denotes_plus {radix : Nat} {rest : List Char} {n : Nat} :
    ¬ Denotes radix ('+' :: rest) n := by
  rintro ⟨-, digits, read, -⟩
  obtain ⟨digit, others, first, -⟩ := List.forall₂_cons_left_iff.mp read
  have none := Hex.value?_eq_some.mpr first
  cases none

/-- A number is read where it does not exceed the bound. Zeros in front do not
count against it, so a bounded number may have digits of any length. -/
theorem unsigned?_eq_some {radix bound : Nat} {text : List Char} {n : Nat} :
    unsigned? radix bound text = some n ↔ Reads radix text n ∧ n ≤ bound := by
  rw [unsigned?, Option.filter_eq_some_iff, value?_eq_some, decide_eq_true_iff]
  refine and_congr_left fun _ => ?_
  unfold dropPlus
  split
  · rename_i rest
    constructor
    · intro denoted
      exact ⟨rest, .inr rfl, denoted⟩
    · rintro ⟨digits, rfl | same, denoted⟩
      · exact absurd denoted not_denotes_plus
      · cases same
        exact denoted
  · rename_i unsigned
    constructor
    · intro denoted
      exact ⟨text, .inl rfl, denoted⟩
    · rintro ⟨digits, rfl | rfl, denoted⟩
      · exact denoted
      · exact absurd rfl (unsigned digits)

/-- A text is read as one number at most, since neither the digits nor the sign
leave a choice. -/
theorem Reads.unique {radix : Nat} {text : List Char} {m n : Nat} (first : Reads radix text m)
    (second : Reads radix text n) : m = n := by
  have one := unsigned?_eq_some.mpr ⟨first, Nat.le_max_left m n⟩
  have other := unsigned?_eq_some.mpr ⟨second, Nat.le_max_right m n⟩
  exact Option.some.inj (one.symm.trans other)

end Numeral

/-! ## Blanks -/

/-- The printing characters of ASCII are not blank, so that a word or a number
in them is not cut short by trimming. -/
theorem isBlank_printing {c : Char} (printing : 0x20 < c.toNat ∧ c.toNat < 0x7F) :
    isBlank c = false := by
  obtain ⟨low, high⟩ := printing
  simp only [isBlank, Bool.or_eq_false_iff, Bool.and_eq_false_iff, decide_eq_false_iff_not,
    beq_eq_false_iff_ne]
  omega

/-- What stands between the blanks at either end of a text; it neither starts
nor ends with a blank itself. -/
structure Trims (text core : List Char) : Prop where
  between : ∃ front back, text = front ++ (core ++ back) ∧ (∀ c ∈ front, isBlank c = true) ∧
    ∀ c ∈ back, isBlank c = true
  first : ∀ c ∈ core.head?, isBlank c = false
  last : ∀ c ∈ core.getLast?, isBlank c = false

/-- Every text can be trimmed: what is left of it between its blanks is a core. -/
theorem trims_trimBlank (text : List Char) : Trims text (trimBlank text) := by
  have unfolded : trimBlank text = (text.dropWhile isBlank).rdropWhile isBlank := rfl
  rw [unfolded]
  refine ⟨⟨text.takeWhile isBlank, (text.dropWhile isBlank).rtakeWhile isBlank, ?_, ?_, ?_⟩, ?_, ?_⟩
  · rw [List.rdropWhile_append_rtakeWhile, List.takeWhile_append_dropWhile]
  · intro c mem
    exact List.mem_takeWhile_imp mem
  · intro c mem
    exact List.mem_rtakeWhile_imp mem
  · intro c head
    obtain ⟨back, same⟩ := List.rdropWhile_prefix isBlank (l := text.dropWhile isBlank)
    have started : (text.dropWhile isBlank).head? = some c := by
      rw [← same, List.head?_append, Option.mem_def.mp head]
      rfl
    have blank := List.head?_dropWhile_not isBlank text
    rw [started] at blank
    simpa using blank
  · intro c last
    obtain ⟨filled, rfl⟩ := List.mem_getLast?_eq_getLast last
    simpa using List.rdropWhile_last_not isBlank _ filled

/-- A text is trimmed to one core only. The blanks in front end at the first
character that is not blank, and those behind at the last. -/
theorem Trims.trimBlank_eq {text core : List Char} (trims : Trims text core) :
    trimBlank text = core := by
  obtain ⟨⟨front, back, rfl, before, after⟩, first, last⟩ := trims
  rw [trimBlank, List.dropWhile_append_of_pos before]
  cases core with
  | nil =>
    rw [List.nil_append, List.dropWhile_eq_nil_iff.mpr after]
    rfl
  | cons c rest =>
    have start : ¬ isBlank c = true := by simp [first c rfl]
    rw [List.cons_append, List.dropWhile_cons_of_neg start, ← List.cons_append, List.reverse_append,
      List.dropWhile_append_of_pos fun d mem => after d (List.mem_reverse.mp mem)]
    rw [List.reverse_eq_iff]
    cases hlast : (c :: rest).reverse with
    | nil => rfl
    | cons d others =>
      have stop : isBlank d = false := by
        apply last d
        rw [Option.mem_def, ← List.head?_reverse, hlast]
        rfl
      rw [List.dropWhile_cons_of_neg (by simp [stop])]

/-- Trimming finds the core. Statements about arguments speak of the core,
proofs of the function that finds it. -/
theorem trimBlank_eq_iff {text core : List Char} : trimBlank text = core ↔ Trims text core :=
  ⟨fun same => same ▸ trims_trimBlank text, Trims.trimBlank_eq⟩

end MotionLink
