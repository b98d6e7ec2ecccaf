import Mathlib
import MotionLink.Proofs.Json.Numbers
import MotionLink.Proofs.Json.Standard

/-!
# The writer of this library

`Json.write` keeps to the standard form (`Json.standard_write`) and tells finite
real numbers apart (`Json.tellsReals_write`), so whatever is shown of such
writers holds of it. Its strings are written character by character, which is a
case of each kind of escape; its lists by a recursion of their own, which
`writeItems_eq` and `writeMembers_eq` put in the form of separators between
pieces; its real numbers in the fewest digits that tell them.
-/

namespace MotionLink.Json

/-! ## Strings -/

/-- A character in quotes is spelled, by one of the three ways there are. -/
theorem spells_escaped (c : Char) : Spells c (escaped c) := by
  unfold escaped
  split_ifs with quote backslash newline carriage tab backspace feed control
  · exact .short (by simp [shortEscapes, quote])
  · exact .short (by simp [shortEscapes, backslash])
  · exact .short (by simp [shortEscapes, newline])
  · exact .short (by simp [shortEscapes, carriage])
  · exact .short (by simp [shortEscapes, tab])
  · have same : c = '\x08' := Char.toNat_inj.mp backspace
    exact .short (by simp [shortEscapes, same])
  · have same : c = '\x0c' := Char.toNat_inj.mp feed
    exact .short (by simp [shortEscapes, same])
  · have stands : standsPlain c = false := by
      simp only [standsPlain, decide_eq_false (Nat.not_le_of_lt control), Bool.false_and]
    exact .code stands (Hex.isDigit_digit _ (by omega)) (Hex.isDigit_digit _ (by omega))
  · have stands : standsPlain c = true := by
      simp only [standsPlain, Bool.and_eq_true, decide_eq_true_eq, bne_iff_ne]
      exact ⟨⟨Nat.le_of_not_lt control, quote⟩, backslash⟩
    exact .plain stands

/-- A text in quotes is spelled. -/
theorem quotes_quoted (text : String) : Quotes text (quoted text) := by
  refine ⟨text.toList.map escaped, ?_, ?_⟩
  · rw [List.forall₂_map_right_iff, List.forall₂_same]
    exact fun c _ => spells_escaped c
  · rw [quoted, List.flatMap_def]

/-! ## Lists -/

/-- The items of an array have commas between them. -/
theorem writeItems_eq (items : List Json) :
    writeItems items = List.intercalate [','] (items.map write) := by
  induction items with
  | nil => rfl
  | cons item items ih =>
    cases items with
    | nil => simp [writeItems]
    | cons next items =>
      rw [List.map_cons] at ih
      rw [writeItems, ih, List.map_cons, List.map_cons, List.intercalate_cons_cons,
        List.append_assoc, List.singleton_append]
      exact List.cons_ne_nil next items

/-- So have the members of an object, each with its name before it. -/
theorem writeMembers_eq (members : List (String × Json)) :
    writeMembers members = List.intercalate [','] (members.map (memberText write)) := by
  have text (member : String × Json) :
      memberText write member = quoted member.1 ++ ':' :: member.2.write := by
    rw [memberText, write]
  induction members with
  | nil => rfl
  | cons member members ih =>
    cases members with
    | nil => simp [writeMembers, text]
    | cons next members =>
      rw [List.map_cons] at ih
      rw [writeMembers, ih, List.map_cons, List.map_cons, List.intercalate_cons_cons, text member]
      · simp only [List.append_assoc, List.cons_append, List.nil_append]
      · exact List.cons_ne_nil next members

/-- The writer keeps to the standard form. -/
theorem standard_write : Standard write where
  nat n := by rw [write, natText]
  text value := by
    rw [write]
    exact quotes_quoted value
  array items := by rw [write, writeItems_eq]
  object members := by rw [write, writeMembers_eq]

/-! ## Real numbers -/

/-- A decimal is written in the characters of numbers, positionally or with an
exponent. -/
theorem numeric_decimalText (d : Decimal) : ∀ c ∈ decimalText d, isNumeric c = true := by
  have digits (c : Char) (mem : c ∈ d.digits) : isNumeric c = true :=
    isNumeric_of_isDigit (isDigit_of_mem_digits d c mem)
  have zeros (n : Nat) (c : Char) (mem : c ∈ List.replicate n '0') : isNumeric c = true :=
    isNumeric_of_isDigit (isDigit_of_mem_zeros n c mem)
  unfold decimalText
  dsimp only
  split
  · unfold positional
    split_ifs
    · simp only [List.forall_mem_cons, List.forall_mem_append]
      exact ⟨rfl, rfl, zeros _, digits⟩
    · simp only [List.forall_mem_append, List.forall_mem_cons]
      exact ⟨fun c mem => digits c (List.mem_of_mem_take mem), rfl,
        fun c mem => digits c (List.mem_of_mem_drop mem)⟩
    · simp only [List.forall_mem_append, List.forall_mem_cons]
      exact ⟨⟨digits, zeros _⟩, rfl, rfl, nofun⟩
  · unfold scientific
    simp only [List.forall_mem_append, List.forall_mem_cons]
    refine ⟨⟨fun c mem => digits c (List.mem_of_mem_take mem), ?_⟩, rfl, ?_, numeric_toDigits _⟩
    · split_ifs
      · exact nofun
      · exact List.forall_mem_cons.mpr ⟨rfl, fun c mem => digits c (List.mem_of_mem_drop mem)⟩
    · split_ifs <;> rfl

/-- So is a finite value, with its sign. -/
theorem numeric_realText (x : Binary32) : ∀ c ∈ realText x, isNumeric c = true := by
  have magnitude : ∀ c ∈ magnitudeText x, isNumeric c = true := by
    unfold magnitudeText
    split
    · simp only [List.forall_mem_cons]
      exact ⟨rfl, rfl, rfl, nofun⟩
    · exact numeric_decimalText _
  unfold realText
  split
  · exact List.forall_mem_cons.mpr ⟨rfl, magnitude⟩
  · exact magnitude

/-- Finite real numbers are told apart: each text is read back as a decimal that
is the value of one of them only. -/
theorem tellsReals_write : TellsReals write where
  numeric x finite := by
    rw [write, if_pos finite]
    exact numeric_realText x
  injective x y finite finite' same := by
    rw [write, write, if_pos finite, if_pos finite'] at same
    exact realText_injective same

end MotionLink.Json
