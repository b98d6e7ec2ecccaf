import Mathlib
import MotionLink.Argument.Duration
import MotionLink.Proofs.Text.Denotation

/-!
# Spans of time in arguments

A span of time is written as a number and the name of a unit (`Counts`). The
name of the longer unit ends the name of the shorter one, but a number ends in a
digit, so a text is taken apart in one way only (`splitUnit_append`). Every text
has one of four outcomes: a span, or one of three refusals.
-/

namespace MotionLink.Argument

/-! ## The notation -/

/-- The names of a unit, with its nanoseconds. -/
inductive IsUnit : List Char → Nat → Prop
  | milliseconds : IsUnit ['m', 's'] 1000000
  | seconds : IsUnit ['s'] 1000000000
  | unnamed : IsUnit [] 1000000000

/-- A text is a number of units. -/
def Counts (text : List Char) (n unit : Nat) : Prop :=
  ∃ number name, text = number ++ name ∧ IsUnit name unit ∧ Numeral.Reads 10 number n

/-! ## Taking a text apart -/

/-- A number ends in a digit. This keeps the unit apart from the number, since
the names of units end in a letter. -/
theorem exists_last_digit {number : List Char} {n : Nat} (reads : Numeral.Reads 10 number n) :
    ∃ front c, number = front ++ [c] ∧ c.isDigit = true := by
  obtain ⟨digits, plus, denoted⟩ := reads
  obtain ⟨front, c, rfl⟩ : ∃ front c, digits = front ++ [c] :=
    ⟨_, _, (List.dropLast_append_getLast denoted.1).symm⟩
  have last : c.isDigit = true := denoted.decimal c (by simp)
  rcases plus with rfl | rfl
  · exact ⟨front, c, rfl, last⟩
  · exact ⟨'+' :: front, c, rfl, last⟩

/-- A number of units is taken apart into the number and the unit. The longer
name is tried first, and the shorter one is not taken for its end. -/
theorem splitUnit_append {number name : List Char} {n unit : Nat} (named : IsUnit name unit)
    (reads : Numeral.Reads 10 number n) :
    splitUnit (number ++ name) = (number, fun k => ⟨k * unit⟩) := by
  obtain ⟨front, c, rfl, digit⟩ := exists_last_digit reads
  have notM : c ≠ 'm' := by
    rintro rfl
    cases digit
  have notS : c ≠ 's' := by
    rintro rfl
    cases digit
  cases named with
  | milliseconds => simp [splitUnit]; rfl
  | seconds => simp [splitUnit, notM]; rfl
  | unnamed => simp [splitUnit, notS]; rfl

/-- What a text is taken apart into is the text again, and the unit is one of
the three. A text that counts nothing is taken apart all the same. -/
theorem splitUnit_joins (text : List Char) : ∃ name unit,
    text = (splitUnit text).1 ++ name ∧ IsUnit name unit ∧
      (splitUnit text).2 = fun k => ⟨k * unit⟩ := by
  unfold splitUnit
  split
  · rename_i number same
    refine ⟨_, _, ?_, .milliseconds, rfl⟩
    rw [← List.reverse_reverse text, same]
    simp
  · rename_i number _ same
    refine ⟨_, _, ?_, .seconds, rfl⟩
    rw [← List.reverse_reverse text, same]
    simp
  · exact ⟨[], _, (List.append_nil text).symm, .unnamed, rfl⟩

/-- A text is one number of units at most: it has one unit, and what is in front
of the name is one number. -/
theorem Counts.unique {text : List Char} {m n unit unit' : Nat} (first : Counts text m unit)
    (second : Counts text n unit') : m = n ∧ unit = unit' := by
  obtain ⟨number, name, rfl, named, reads⟩ := first
  obtain ⟨number', name', same, named', reads'⟩ := second
  have apart := splitUnit_append named reads
  rw [same, splitUnit_append named' reads', Prod.mk.injEq] at apart
  obtain ⟨rfl, units⟩ := apart
  refine ⟨reads.unique reads', ?_⟩
  have one : 1 * unit' = 1 * unit := congrArg Duration.nanoseconds (congrFun units 1)
  omega

/-- A number has a digit, so an empty text counts nothing. -/
theorem Counts.ne_nil {text : List Char} {n unit : Nat} (counts : Counts text n unit) :
    text ≠ [] := by
  obtain ⟨number, name, rfl, -, reads⟩ := counts
  obtain ⟨front, c, rfl, -⟩ := exists_last_digit reads
  simp

/-! ## Four outcomes -/

section

variable {text : String}

theorem duration_empty (empty : trimBlank text.toList = []) :
    duration text = .error ⟨.usage, "duration must not be empty"⟩ := by
  rw [duration, empty]
  rfl

/-- A number of units that fits 64 bits is the duration, unless the number is
zero. The duration is kept in nanoseconds and has no bound of its own. -/
theorem duration_counted {n unit : Nat} (counts : Counts (trimBlank text.toList) n unit)
    (fits : n < UInt64.size) :
    duration text =
      if n = 0 then .error ⟨.usage, "duration must be greater than zero"⟩
      else .ok ⟨n * unit⟩ := by
  have filled : (trimBlank text.toList).isEmpty = false := by simp [counts.ne_nil]
  obtain ⟨number, name, joined, named, reads⟩ := counts
  have read : Numeral.unsigned? 10 (UInt64.size - 1) number = some n :=
    Numeral.unsigned?_eq_some.mpr ⟨reads, Nat.le_pred_of_lt fits⟩
  have apart := splitUnit_append named reads
  rw [← joined] at apart
  simp only [duration, filled, apart, read]
  cases n with
  | zero => rfl
  | succ n => rfl

/-- A text that is not empty and counts nothing, or more than fits, is quoted as
invalid. The number is what is compared with the bound, and not the duration. -/
theorem duration_uncounted (filled : trimBlank text.toList ≠ [])
    (uncounted : ∀ n unit, Counts (trimBlank text.toList) n unit → UInt64.size ≤ n) :
    duration text =
      .error ⟨.usage, "invalid duration value: " ++ String.ofList (trimBlank text.toList)⟩ := by
  have unread :
      Numeral.unsigned? 10 (UInt64.size - 1) (splitUnit (trimBlank text.toList)).1 = none := by
    rw [Option.eq_none_iff_forall_ne_some]
    intro n read
    obtain ⟨reads, fits⟩ := Numeral.unsigned?_eq_some.mp read
    obtain ⟨name, unit, joined, named, -⟩ := splitUnit_joins (trimBlank text.toList)
    have large := uncounted n unit ⟨_, name, joined, named, reads⟩
    have : 0 < UInt64.size := by decide
    omega
  have full : (trimBlank text.toList).isEmpty = false := by simp [filled]
  simp only [duration, full, unread]
  rfl

/-- A text is empty, or counts a number that fits, or does neither. The first
and the second exclude each other, since an empty text counts nothing. -/
theorem duration_cases (text : String) :
    trimBlank text.toList = [] ∨
      (∃ n unit, Counts (trimBlank text.toList) n unit ∧ n < UInt64.size) ∨
      trimBlank text.toList ≠ [] ∧
        ∀ n unit, Counts (trimBlank text.toList) n unit → UInt64.size ≤ n := by
  by_cases empty : trimBlank text.toList = []
  · exact .inl empty
  · by_cases counted : ∃ n unit, Counts (trimBlank text.toList) n unit ∧ n < UInt64.size
    · exact .inr (.inl counted)
    · refine .inr (.inr ⟨empty, fun n unit counts => ?_⟩)
      by_contra small
      exact counted ⟨n, unit, counts, by omega⟩

end

/-- The whole seconds of a number of units fit 64 bits when the number does. -/
theorem IsUnit.seconds_lt {name : List Char} {unit n : Nat} (named : IsUnit name unit)
    (fits : n < UInt64.size) : (Duration.mk (n * unit)).seconds < UInt64.size := by
  cases named <;> simp only [Duration.seconds] <;> omega

/-- A text is read as a duration where it counts units, and not none. The number
may be zero with any unit, and is refused for it. -/
theorem duration_eq_ok {text : String} {d : Duration} :
    duration text = .ok d ↔ ∃ n unit, Counts (trimBlank text.toList) n unit ∧ 1 ≤ n ∧
      n < UInt64.size ∧ d.nanoseconds = n * unit := by
  rcases duration_cases text with empty | ⟨n, unit, counts, fits⟩ | ⟨filled, uncounted⟩
  · rw [duration_empty empty]
    refine iff_of_false nofun ?_
    rintro ⟨n, unit, counts, -⟩
    exact counts.ne_nil empty
  · rw [duration_counted counts fits]
    split
    · rename_i zero
      refine iff_of_false nofun ?_
      rintro ⟨n', unit', counts', positive, -⟩
      have := (counts.unique counts').1
      omega
    · rename_i positive
      constructor
      · rintro ⟨⟩
        exact ⟨n, unit, counts, by omega, fits, rfl⟩
      · rintro ⟨n', unit', counts', -, -, same⟩
        obtain ⟨rfl, rfl⟩ := counts.unique counts'
        rw [← same]
  · rw [duration_uncounted filled uncounted]
    refine iff_of_false nofun ?_
    rintro ⟨n, unit, counts, -, fits, -⟩
    have := uncounted n unit counts
    omega

/-- A text that is not read as a duration is bad usage in one of three ways,
each with the message that says which. -/
theorem duration_eq_error {text : String} {failure : Failure} :
    duration text = .error failure ↔ failure.status = .usage ∧
      (trimBlank text.toList = [] ∧ failure.message = "duration must not be empty" ∨
        (∃ unit, Counts (trimBlank text.toList) 0 unit) ∧
          failure.message = "duration must be greater than zero" ∨
        trimBlank text.toList ≠ [] ∧
          (∀ n unit, Counts (trimBlank text.toList) n unit → UInt64.size ≤ n) ∧
          failure.message =
            "invalid duration value: " ++ String.ofList (trimBlank text.toList)) := by
  obtain ⟨status, message⟩ := failure
  have refused (said : String) : (Except.error ⟨.usage, said⟩ : Except Failure Duration) =
      .error ⟨status, message⟩ ↔ status = .usage ∧ message = said := by
    rw [Except.error.injEq, Failure.mk.injEq, eq_comm, eq_comm (a := said)]
  -- A text has one outcome, and that contradicts the reasons given for the others.
  rcases duration_cases text with empty | ⟨n, unit, counts, fits⟩ | ⟨filled, uncounted⟩
  · rw [duration_empty empty, refused]
    refine and_congr_right fun _ => ⟨fun said => .inl ⟨empty, said⟩, ?_⟩
    rintro (⟨-, said⟩ | ⟨⟨unit, counts⟩, -⟩ | ⟨filled, -⟩)
    · exact said
    · exact absurd empty counts.ne_nil
    · exact absurd empty filled
  · rw [duration_counted counts fits]
    split
    · rename_i zero
      subst zero
      rw [refused]
      refine and_congr_right fun _ => ⟨fun said => .inr (.inl ⟨⟨unit, counts⟩, said⟩), ?_⟩
      rintro (⟨empty, -⟩ | ⟨-, said⟩ | ⟨-, uncounted, -⟩)
      · exact absurd empty counts.ne_nil
      · exact said
      · exact absurd (uncounted 0 unit counts) (by decide)
    · rename_i positive
      refine iff_of_false nofun ?_
      rintro ⟨-, ⟨empty, -⟩ | ⟨⟨unit', none⟩, -⟩ | ⟨-, uncounted, -⟩⟩
      · exact counts.ne_nil empty
      · exact positive (counts.unique none).1
      · exact absurd (uncounted n unit counts) (by omega)
  · rw [duration_uncounted filled uncounted, refused]
    refine and_congr_right fun _ => ⟨fun said => .inr (.inr ⟨filled, uncounted, said⟩), ?_⟩
    rintro (⟨empty, -⟩ | ⟨⟨unit, none⟩, -⟩ | ⟨-, -, said⟩)
    · exact absurd empty filled
    · exact absurd (uncounted 0 unit none) (by decide)
    · exact said

/-- No other status has the number of bad usage, so the code of the process
tells it. -/
theorem code_eq_usage {status : ExitStatus} : status.code = 64 ↔ status = .usage := by
  cases status <;> decide

/-- Around every text there are the blanks to be taken off. The rest is read as
a duration where it is a number from 1 to `2 ^ 64 - 1`, perhaps with a plus sign
and zeros in front, of milliseconds or of seconds by the name behind it; the
duration is that many units exactly, more than none, and its whole seconds fit
64 bits. Otherwise the rest is empty, or counts nothing at all, or is neither
and is quoted as invalid; the three are bad usage, each with its own message. -/
theorem duration_spanned (text : String) : ∃ core : List Char,
    (∀ other, Trims text.toList other ↔ other = core) ∧
    (∀ d, duration text = .ok d ↔
      ∃ n unit, Counts core n unit ∧ 1 ≤ n ∧ n ≤ 2 ^ 64 - 1 ∧ d.nanoseconds = n * unit) ∧
    (∀ d, duration text = .ok d → 0 < d.nanoseconds ∧ d.seconds < 2 ^ 64 ∧
      d.nanoseconds = 1000000000 * d.seconds + d.fraction) ∧
    (∀ failure, duration text = .error failure ↔ failure.status.code = 64 ∧
      (core = [] ∧ failure.message = "duration must not be empty" ∨
        (∃ unit, Counts core 0 unit) ∧ failure.message = "duration must be greater than zero" ∨
        core ≠ [] ∧ (∀ n unit, Counts core n unit → 2 ^ 64 ≤ n) ∧
          failure.message = "invalid duration value: " ++ String.ofList core)) ∧
    ∀ m n unit unit', Counts core m unit → Counts core n unit' → m = n ∧ unit = unit' := by
  refine ⟨trimBlank text.toList, fun other => trimBlank_eq_iff.symm.trans eq_comm, ?_, ?_, ?_,
    fun m n unit unit' => Counts.unique⟩
  · intro d
    simp only [duration_eq_ok, Nat.lt_iff_le_pred (show 0 < UInt64.size by decide)]
    rfl
  · intro d read
    obtain ⟨n, unit, ⟨number, name, -, named, -⟩, positive, fits, same⟩ := duration_eq_ok.mp read
    have exact : d = ⟨n * unit⟩ := by rw [← same]
    subst exact
    refine ⟨?_, named.seconds_lt fits, (Nat.div_add_mod _ _).symm⟩
    cases named <;> exact Nat.mul_pos positive (by decide)
  · intro failure
    rw [duration_eq_error, code_eq_usage]
    rfl

/-- The name of the longer unit is the end of that of the shorter one. -/
example :
    duration " +090s" = .ok ⟨90000000000⟩ ∧ duration "90ms" = .ok ⟨90000000⟩ ∧
      duration "90 s" = .error ⟨.usage, "invalid duration value: 90 s"⟩ ∧
      duration "0ms" = .error ⟨.usage, "duration must be greater than zero"⟩ := by
  decide +kernel

end MotionLink.Argument
