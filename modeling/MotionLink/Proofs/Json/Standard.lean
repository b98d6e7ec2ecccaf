import Mathlib
import MotionLink.Json.Value
import MotionLink.Proofs.Text.Denotation

/-!
# JSON in its standard form

What is relied on of a writer of JSON is stated here, and nothing else about it
is used. Numbers without a fraction are written in decimal digits, strings in
quotes with no more escapes than there must be, lists without blanks and in
order (`Json.Standard`). How a real number is written is left open but for the
characters of numbers, and that no two finite ones are written alike
(`Json.TellsReals`).

Of such a writer, a text tells the value. The text of a part is followed by more
text, so what is shown of two parts is that their texts, each with something
behind it that no number goes on with, are cut at one place only
(`Json.Told`). Strings are cut by reading their escapes, numbers where their
characters end, and lists at the comma or bracket behind an item. Parts are
compared as far as all before them are the same (`Json.ToldAll`): what stands
behind the name of a kind is of that kind in both texts.
-/

namespace MotionLink.Json

/-! ## The notation -/

/-- The characters of numbers. -/
def isNumeric (c : Char) : Bool := c.isDigit || c ∈ ['.', 'e', 'E', '+', '-']

/-- Whether a character stands in quotes as it is. -/
def standsPlain (c : Char) : Bool := 0x20 ≤ c.toNat && c != '"' && c != '\\'

/-- The characters that have an escape of their own, with the letter of it. -/
def shortEscapes : List (Char × Char) :=
  [('"', '"'), ('\\', '\\'), ('\x08', 'b'), ('\x0c', 'f'), ('\n', 'n'), ('\r', 'r'), ('\t', 't')]

/-- What a character is written as in quotes: itself where it may be, or else an
escape, by a letter or by its number in four digits. -/
inductive Spells : Char → List Char → Prop
  | plain {c : Char} : standsPlain c = true → Spells c [c]
  | short {c letter : Char} : (c, letter) ∈ shortEscapes → Spells c ['\\', letter]
  | code {c high low : Char} : standsPlain c = false → Hex.IsDigit high (c.toNat / 16) →
    Hex.IsDigit low (c.toNat % 16) → Spells c ['\\', 'u', '0', '0', high, low]

/-- A text in quotes, each of its characters spelled. -/
def Quotes (text : String) (written : List Char) : Prop :=
  ∃ pieces, List.Forall₂ Spells text.toList pieces ∧ written = '"' :: (pieces.flatten ++ ['"'])

/-- The text of a member of an object: its name in quotes, and its value. -/
def memberText (write : Json → List Char) (member : String × Json) : List Char :=
  write (.text member.1) ++ ':' :: write member.2

/-- A writer that keeps to the standard form of JSON, without blanks. -/
structure Standard (write : Json → List Char) : Prop where
  /-- Numbers without a fraction are written in decimal digits. -/
  nat : ∀ n, write (.nat n) = Nat.toDigits 10 n
  /-- Strings are written in quotes. -/
  text : ∀ value, Quotes value (write (.text value))
  /-- The items of an array have commas between them. -/
  array : ∀ items,
    write (.array items) = '[' :: (List.intercalate [','] (items.map write) ++ [']'])
  /-- So have the members of an object, in the order they are listed. -/
  object : ∀ members, write (.object members) =
    '\x7b' :: (List.intercalate [','] (members.map (memberText write)) ++ ['\x7d'])

/-- A writer whose texts tell finite real numbers apart, bit for bit. -/
structure TellsReals (write : Json → List Char) : Prop where
  /-- Finite real numbers are written in the characters of numbers. -/
  numeric : ∀ x : Binary32, x.isFinite = true → ∀ c ∈ write (.real x), isNumeric c = true
  /-- No two of them have one text. -/
  injective : ∀ x y : Binary32, x.isFinite = true → y.isFinite = true →
    write (.real x) = write (.real y) → x = y

/-! ## Strings -/

/-- Reads one character inside quotes; there is none where the quotes end. -/
def unescape? : List Char → Option (Char × List Char)
  | '\\' :: 'u' :: '0' :: '0' :: high :: low :: rest => do
    let h ← Hex.value? high
    let l ← Hex.value? low
    return (Char.ofNat (16 * h + l), rest)
  | '\\' :: 'n' :: rest => some ('\n', rest)
  | '\\' :: 'r' :: rest => some ('\r', rest)
  | '\\' :: 't' :: rest => some ('\t', rest)
  | '\\' :: 'b' :: rest => some ('\x08', rest)
  | '\\' :: 'f' :: rest => some ('\x0c', rest)
  | '\\' :: c :: rest => some (c, rest)
  | '"' :: _ => none
  | c :: rest => some (c, rest)
  | [] => none

/-- A character is read back from what it is written as, whatever follows. The
three ways to write it do not start alike, so the reader knows how much to take. -/
theorem Spells.unescape? {c : Char} {piece : List Char} (spells : Spells c piece)
    (rest : List Char) : unescape? (piece ++ rest) = some (c, rest) := by
  cases spells with
  | plain stands =>
    -- the character neither starts an escape nor ends the quotes
    rw [List.cons_append, List.nil_append]
    unfold Json.unescape?
    split <;> simp_all [standsPlain]
  | short known =>
    simp only [shortEscapes, List.mem_cons, Prod.mk.injEq, List.not_mem_nil, or_false] at known
    rcases known with ⟨rfl, rfl⟩ | ⟨rfl, rfl⟩ | ⟨rfl, rfl⟩ | ⟨rfl, rfl⟩ | ⟨rfl, rfl⟩ | ⟨rfl, rfl⟩ |
      ⟨rfl, rfl⟩ <;> rfl
  | code _ high low =>
    have whole : 16 * (c.toNat / 16) + c.toNat % 16 = c.toNat := Nat.div_add_mod ..
    simp [Json.unescape?, Hex.value?_eq_some.mpr high, Hex.value?_eq_some.mpr low, whole,
      c.ofNat_toNat]

/-- A text in quotes ends at its closing quote, and what is before it tells the
characters. -/
theorem spelled_cancel {a b : List Char} {as bs : List (List Char)} {r s : List Char}
    (first : List.Forall₂ Spells a as) (second : List.Forall₂ Spells b bs)
    (same : as.flatten ++ '"' :: r = bs.flatten ++ '"' :: s) : a = b ∧ r = s := by
  induction first generalizing b bs with
  | nil =>
    cases second with
    | nil => exact ⟨rfl, (List.cons.inj same).2⟩
    | cons spells _ =>
      have read := congrArg unescape? same
      rw [List.flatten_cons, List.append_assoc, spells.unescape?] at read
      cases read
  | cons spells _ ih =>
    have read := congrArg unescape? same
    rw [List.flatten_cons, List.append_assoc, spells.unescape?] at read
    cases second with
    | nil => cases read
    | cons spells' others =>
      rw [List.flatten_cons, List.append_assoc, spells'.unescape?] at read
      obtain ⟨rfl, rest⟩ := Prod.mk.inj (Option.some.inj read)
      obtain ⟨rfl, rfl⟩ := ih others rest
      exact ⟨rfl, rfl⟩

/-- Of two texts in quotes, each with something behind, the same come from the same. -/
theorem Quotes.cancel {a b : String} {p q r s : List Char} (first : Quotes a p)
    (second : Quotes b q) (same : p ++ r = q ++ s) : a = b ∧ r = s := by
  obtain ⟨as, spelled, rfl⟩ := first
  obtain ⟨bs, spelled', rfl⟩ := second
  simp only [List.cons_append, List.append_assoc, List.nil_append] at same
  obtain ⟨chars, rest⟩ := spelled_cancel spelled spelled' (List.cons.inj same).2
  exact ⟨String.toList_inj.mp chars, rest⟩

/-- A character that may stand in quotes as it is stands there so. The other two
ways to write a character are for those that may not. -/
theorem Spells.eq_of_plain {c : Char} {piece : List Char} (stands : standsPlain c = true)
    (spells : Spells c piece) : piece = [c] := by
  cases spells with
  | plain _ => rfl
  | short known =>
    simp only [shortEscapes, List.mem_cons, Prod.mk.injEq, List.not_mem_nil, or_false] at known
    rcases known with ⟨rfl, rfl⟩ | ⟨rfl, rfl⟩ | ⟨rfl, rfl⟩ | ⟨rfl, rfl⟩ | ⟨rfl, rfl⟩ | ⟨rfl, rfl⟩ |
      ⟨rfl, rfl⟩ <;> cases stands
  | code escaped _ _ => cases stands.symm.trans escaped

/-- A text of such characters is written as it is, between quotes. -/
theorem Quotes.eq_of_plain {text : String} {written : List Char} (quotes : Quotes text written)
    (plain : ∀ c ∈ text.toList, standsPlain c = true) :
    written = '"' :: (text.toList ++ ['"']) := by
  obtain ⟨pieces, spelled, rfl⟩ := quotes
  have same : pieces.flatten = text.toList := by
    generalize text.toList = chars at spelled plain
    induction spelled with
    | nil => rfl
    | cons spells _ ih =>
      obtain ⟨first, others⟩ := List.forall_mem_cons.mp plain
      rw [List.flatten_cons, spells.eq_of_plain first, ih others]
      rfl
  rw [same]

/-! ## Numbers -/

theorem isNumeric_of_isDigit {c : Char} (digit : c.isDigit = true) : isNumeric c = true := by
  rw [isNumeric, digit, Bool.true_or]

/-- A number without a fraction is written with characters of numbers only. -/
theorem numeric_toDigits (n : Nat) : ∀ c ∈ Nat.toDigits 10 n, isNumeric c = true :=
  fun _ mem => isNumeric_of_isDigit (Nat.isDigit_of_mem_toDigits (by decide) (by decide) mem)

/-- The digits of a number tell it. -/
theorem toDigits_injective : Function.Injective (Nat.toDigits 10) := by
  intro m n same
  have read := congrArg (Nat.ofDigitChars 10 · 0) same
  rwa [Nat.ofDigitChars_ten_toDigits, Nat.ofDigitChars_ten_toDigits] at read

/-- A number ends before the text, which goes on with none of its characters. -/
def Stops (text : List Char) : Prop := ∀ c ∈ text.head?, isNumeric c = false

theorem stops_nil : Stops [] := nofun

/-- A number ends before any character that is not one of its own. -/
theorem stops_cons {c : Char} {text : List Char} (other : isNumeric c = false) :
    Stops (c :: text) := by
  rintro _ ⟨⟩
  exact other

/-- A number ends where its characters end. Where two texts start with numbers
and then stop them, the numbers are the same and so is what follows. -/
theorem numeric_cancel {a b r s : List Char} (first : ∀ c ∈ a, isNumeric c = true)
    (second : ∀ c ∈ b, isNumeric c = true) (stops : Stops r) (stops' : Stops s)
    (same : a ++ r = b ++ s) : a = b ∧ r = s := by
  obtain ⟨taken, left⟩ := run_ends first stops
  obtain ⟨taken', left'⟩ := run_ends second stops'
  rw [same] at taken left
  exact ⟨taken.symm.trans taken', left.symm.trans left'⟩

/-! ## Lists -/

section Lists

variable {α : Type} {text : α → List Char} {close : Char}

/-- Two values are told by their texts, whatever follows these, as long as it
stops a number. -/
def Told (text : α → List Char) (a b : α) : Prop :=
  ∀ r s, Stops r → Stops s → text a ++ r = text b ++ s → a = b ∧ r = s

/-- The values of two lists are told one after the other, each as far as those
before it are the same. -/
inductive ToldAll (text : α → List Char) : List α → List α → Prop
  | nil : ToldAll text [] []
  | cons {a b : α} {as bs : List α} : Told text a b → (a = b → ToldAll text as bs) →
    ToldAll text (a :: as) (b :: bs)

/-- Which of two values comes first does not matter to their being told. -/
theorem Told.symm {a b : α} (told : Told text a b) : Told text b a := by
  intro r s stops stops' same
  obtain ⟨rfl, rfl⟩ := told s r stops' stops same.symm
  exact ⟨rfl, rfl⟩

/-- What follows an item of a list: the items after it, each behind a comma, and
the closing bracket. -/
def following (text : α → List Char) (close : Char) : List α → List Char → List Char
  | [], rest => close :: rest
  | a :: items, rest => ',' :: (text a ++ following text close items rest)

/-- What follows the opening bracket of a list. -/
def opened (text : α → List Char) (close : Char) : List α → List Char → List Char
  | [], rest => close :: rest
  | a :: items, rest => text a ++ following text close items rest

/-- What follows an item starts with a comma or with the closing bracket, so it
stops a number. -/
theorem stops_following (other : isNumeric close = false) (items : List α) (rest : List Char) :
    Stops (following text close items rest) := by
  cases items with
  | nil => exact stops_cons other
  | cons a items => exact stops_cons rfl

/-- Items with commas between and a closing bracket behind. -/
theorem intercalate_close (items : List α) (rest : List Char) :
    List.intercalate [','] (items.map text) ++ close :: rest = opened text close items rest := by
  induction items with
  | nil => rfl
  | cons item items ih =>
    cases items with
    | nil => simp [opened, following]
    | cons next items =>
      rw [List.map_cons] at ih
      rw [List.map_cons, List.map_cons, List.intercalate_cons_cons, List.append_assoc,
        List.append_assoc, ih]
      rfl

/-- What follows an item tells the items after it. The induction is on the
items: the comma or the bracket tells whether there is another one, and the item
itself is told by what comes after it. -/
theorem following_cancel (other : isNumeric close = false) {as bs : List α}
    (told : ToldAll text as bs) {r s : List Char}
    (same : following text close as r = following text close bs s) : as = bs ∧ r = s := by
  induction told with
  | nil => exact ⟨rfl, (List.cons.inj same).2⟩
  | @cons a b as bs first _ ih =>
    obtain ⟨rfl, rest⟩ := first _ _ (stops_following other as r) (stops_following other bs s)
      (List.cons.inj same).2
    obtain ⟨rfl, rfl⟩ := ih rfl rest
    exact ⟨rfl, rfl⟩

/-- What follows the opening bracket tells all items. -/
theorem opened_cancel (other : isNumeric close = false) {as bs : List α}
    (told : ToldAll text as bs) {r s : List Char}
    (same : opened text close as r = opened text close bs s) : as = bs ∧ r = s := by
  cases told with
  | nil => exact ⟨rfl, (List.cons.inj same).2⟩
  | cons first others =>
    exact following_cancel other (.cons first others) (congrArg (',' :: ·) same)

end Lists

/-! ## Values -/

section

variable {write : Json → List Char}

namespace Standard

variable (standard : Standard write)

include standard

/-- Numbers without a fraction are told. -/
theorem told_nat (m n : Nat) : Told write (.nat m) (.nat n) := by
  intro r s stops stops' same
  rw [standard.nat, standard.nat] at same
  obtain ⟨digits, rest⟩ :=
    numeric_cancel (numeric_toDigits m) (numeric_toDigits n) stops stops' same
  exact ⟨congrArg Json.nat (toDigits_injective digits), rest⟩

/-- Strings are told. -/
theorem told_text (a b : String) : Told write (.text a) (.text b) := by
  intro r s _ _ same
  obtain ⟨rfl, rest⟩ := (standard.text a).cancel (standard.text b) same
  exact ⟨rfl, rest⟩

/-- A number is told from a string, which starts with a quote. A field that has
one in some values and the other in others is told as well. -/
theorem told_nat_text (n : Nat) (a : String) : Told write (.nat n) (.text a) := by
  intro r s _ _ same
  obtain ⟨pieces, -, written⟩ := standard.text a
  have filled : Nat.toDigits 10 n ≠ [] := Nat.toDigits_ne_nil
  obtain ⟨digit, digits, first⟩ := List.exists_cons_of_ne_nil filled
  have numeric := numeric_toDigits n digit (first ▸ List.mem_cons_self)
  rw [standard.nat, written, first] at same
  rw [(List.cons.inj same).1] at numeric
  cases numeric

/-- Arrays are told when their items are, one after the other. They need not be
of one length: the bracket behind the last item tells where an array ends. -/
theorem told_array {items items' : List Json} (told : ToldAll write items items') :
    Told write (.array items) (.array items') := by
  have opens (items : List Json) (rest : List Char) :
      write (.array items) ++ rest = '[' :: opened write ']' items rest := by
    rw [standard.array, List.cons_append, List.append_assoc, List.singleton_append,
      intercalate_close]
  intro r s _ _ same
  rw [opens, opens] at same
  obtain ⟨rfl, rest⟩ := opened_cancel rfl told (List.cons.inj same).2
  exact ⟨rfl, rest⟩

/-- Objects are told when their members are, one after the other. The members
keep the order in which they are given, so an object is compared as a list. -/
theorem told_object {members members' : List (String × Json)}
    (told : ToldAll (memberText write) members members') :
    Told write (.object members) (.object members') := by
  have opens (members : List (String × Json)) (rest : List Char) :
      write (.object members) ++ rest =
        '\x7b' :: opened (memberText write) '\x7d' members rest := by
    rw [standard.object, List.cons_append, List.append_assoc, List.singleton_append,
      intercalate_close]
  intro r s _ _ same
  rw [opens, opens] at same
  obtain ⟨rfl, rest⟩ := opened_cancel rfl told (List.cons.inj same).2
  exact ⟨rfl, rest⟩

end Standard

namespace TellsReals

variable (reals : TellsReals write)

include reals

/-- Finite real numbers are told. -/
theorem told_real {x y : Binary32} (finite : x.isFinite = true) (finite' : y.isFinite = true) :
    Told write (.real x) (.real y) := by
  intro r s stops stops' same
  obtain ⟨number, rest⟩ :=
    numeric_cancel (reals.numeric x finite) (reals.numeric y finite') stops stops' same
  exact ⟨congrArg Json.real (reals.injective x y finite finite' number), rest⟩

/-- As many finite real numbers are told one after the other. -/
theorem toldAll_reals {xs ys : List Binary32} (length : xs.length = ys.length)
    (finite : ∀ x ∈ xs, x.isFinite = true) (finite' : ∀ y ∈ ys, y.isFinite = true) :
    ToldAll write (xs.map .real) (ys.map .real) := by
  induction xs generalizing ys with
  | nil =>
    obtain rfl := List.length_eq_zero_iff.mp length.symm
    exact .nil
  | cons x xs ih =>
    obtain ⟨y, ys, rfl⟩ := List.exists_cons_of_length_eq_add_one length.symm
    obtain ⟨first, others⟩ := List.forall_mem_cons.mp finite
    obtain ⟨first', others'⟩ := List.forall_mem_cons.mp finite'
    exact .cons (reals.told_real first first') fun _ => ih (Nat.succ.inj length) others others'

end TellsReals

/-- Members of one name are told when their values are. -/
theorem Told.member {value value' : Json} (told : Told write value value') (name : String) :
    Told (memberText write) (name, value) (name, value') := by
  intro r s stops stops' same
  simp only [memberText, List.append_assoc, List.cons_append] at same
  obtain ⟨rfl, rest⟩ := told r s stops stops' (List.cons.inj (List.append_cancel_left same)).2
  exact ⟨rfl, rest⟩

/-- Values that are told are told by their texts alone. -/
theorem Told.eq_of_write {j k : Json} (told : Told write j k) (same : write j = write k) : j = k :=
  (told [] [] stops_nil stops_nil (congrArg (· ++ []) same)).1

end

end MotionLink.Json
