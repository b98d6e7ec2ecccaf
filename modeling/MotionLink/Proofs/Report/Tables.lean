import Mathlib
import MotionLink.Proofs.Text.Denotation
import MotionLink.Report.Table

/-!
# Tables that show their texts

A table is drawn in the width there is, and a text that is wider than its column
goes on in the line below. What is relied on of a drawing is that it is a box of
lines, each with a piece for every column, and that the pieces of a column have
the characters of its text, in order (`Table.Drawn`). Where a text is broken, how
wide a column is and how a piece is padded is left open, so blanks do not count
(`Table.inked`). A drawing on lines of any length, as `Table.lines` makes it, is
the case of one line for each row (`Table.draws_lines`).

The last column of such a drawing can be read back (`Table.inked_lastColumn`):
below the rule under the header, it is what stands between the last two bars of
a line.
-/

namespace MotionLink

namespace Report

/-! ## What stands between two marks -/

/-- The text between the last `closing` of a text and the `opening` before it. -/
def between (opening closing : Char) (text : List Char) : List Char :=
  ((text.reverse.dropWhile (· ≠ closing)).tail.takeWhile (· ≠ opening)).reverse

/-- A text is cut where a character stands first, whatever else is behind it. -/
theorem cut_at {c : Char} {run : List Char} (absent : c ∉ run) (rest : List Char) :
    (run ++ c :: rest).takeWhile (· ≠ c) = run ∧
      (run ++ c :: rest).dropWhile (· ≠ c) = c :: rest := by
  apply run_ends
  · intro d mem
    rw [decide_eq_true_iff]
    rintro rfl
    exact absent mem
  · rintro _ ⟨⟩
    simp

/-- What stands between two marks is found, if the marks do not stand in it or
behind it. -/
theorem between_eq {opening closing : Char} {front inside back : List Char}
    (last : closing ∉ back) (first : opening ∉ inside) :
    between opening closing (front ++ opening :: (inside ++ closing :: back)) = inside := by
  obtain ⟨-, left⟩ := cut_at (mt List.mem_reverse.mp last)
    (inside.reverse ++ opening :: front.reverse)
  obtain ⟨taken, -⟩ := cut_at (mt List.mem_reverse.mp first) front.reverse
  simp only [between, List.reverse_append, List.reverse_cons, List.append_assoc,
    List.cons_append, List.nil_append]
  rw [left, List.tail_cons, taken, List.reverse_reverse]

/-- The last of several pieces has a separator before it. -/
theorem exists_intercalate {α : Type} (separator : α) (first : List α) (pieces : List (List α))
    (last : List α) : ∃ front,
    List.intercalate [separator] (first :: (pieces ++ [last])) = front ++ separator :: last := by
  induction pieces generalizing first with
  | nil => exact ⟨first, by simp⟩
  | cons piece pieces ih =>
    obtain ⟨front, joined⟩ := ih piece
    refine ⟨first ++ separator :: front, ?_⟩
    rw [List.cons_append, List.intercalate_cons_cons, joined]
    simp only [List.append_assoc, List.cons_append, List.nil_append]

end Report

namespace Table

/-! ## What a table shows -/

/-- The characters of a text that are not blanks. -/
def inked (text : List Char) : List Char := text.filter (· ≠ ' ')

/-- Lines of pieces show a text for each column: every line has as many pieces,
and those of a column have the characters of its text, line by line. -/
structure Shows (rows : List (List (List Char))) (texts : List String) : Prop where
  width : ∀ row ∈ rows, row.length = texts.length
  order : ∀ (i : Nat) (text : String), texts[i]? = some text →
    inked (rows.flatMap fun row => row[i]?.getD []) = inked text.toList

/-- Lines are a drawing of columns: a box that shows the titles above its rule
and the cells below. -/
def Drawn (columns : List Column) (lines : List (List Char)) : Prop :=
  ∃ widths header body, lines = boxed widths header body ∧
    Shows header (columns.map Column.title) ∧ Shows body (columns.map Column.cell)

/-- The characters of ASCII that are printed, the blank among them. -/
def isPrinting (c : Char) : Bool := 0x20 ≤ c.toNat && c.toNat < 0x7F

/-- A text of such characters. -/
def Printing (text : String) : Prop := text.toList.all isPrinting = true

instance (text : String) : Decidable (Printing text) := inferInstanceAs (Decidable (_ = _))

/-- A column of such texts. -/
def Column.Printing (c : Column) : Prop := Table.Printing c.title ∧ Table.Printing c.cell

/-- Tables are drawn, whatever the width is, from columns of such texts. -/
def Draws (table : List Column → List (List Char)) : Prop :=
  ∀ columns, columns ≠ [] → (∀ c ∈ columns, c.Printing) → Drawn columns (table columns)

/-! ## One line for each row -/

theorem inked_append (front back : List Char) : inked (front ++ back) = inked front ++ inked back :=
  List.filter_append ..

/-- Padding does not count. -/
theorem inked_padded (width : Nat) (text : String) :
    inked (padded width text) = inked text.toList := by
  have pad (n : Nat) : inked (List.replicate n ' ') = [] := by
    rw [inked, List.filter_replicate_of_neg (by simp)]
  rw [padded, ← List.singleton_append, inked_append, inked_append, pad, List.append_nil]
  rfl

/-- A line with every text, padded to the width of its column, shows the texts.
There is one line, so each text is one piece. -/
theorem shows_padded (columns : List Column) (text : Column → String) :
    Shows [columns.map fun c => padded c.width (text c)] (columns.map text) where
  width row mem := by rw [List.mem_singleton.mp mem, List.length_map, List.length_map]
  order i shown known := by
    rw [List.getElem?_map, Option.map_eq_some_iff] at known
    obtain ⟨c, known, rfl⟩ := known
    rw [List.flatMap_singleton, List.getElem?_map, known]
    exact inked_padded c.width (text c)

/-- Tables of this library are drawn. They have one line for the header and one
for the cells, and nothing is broken. -/
theorem draws_lines : Draws lines :=
  fun columns _ _ =>
    ⟨_, _, _, rfl, shows_padded columns Column.title, shows_padded columns Column.cell⟩

/-! ## What stands in a line -/

/-- A line has the characters of its marks and of its pieces, and no others. -/
theorem not_mem_line {c left middle right : Char} {pieces : List (List Char)}
    (marks : c ∉ [left, middle, right]) (absent : ∀ piece ∈ pieces, c ∉ piece) :
    c ∉ line left middle right pieces := by
  have joined : c ∉ List.intercalate [middle] pieces := by
    induction pieces with
    | nil => exact nofun
    | cons piece pieces ih =>
      cases pieces with
      | nil => simpa using absent
      | cons next pieces =>
        rw [List.intercalate_cons_cons]
        simp_all
  simp_all [line]

/-- A rule is drawn with its own characters. -/
theorem not_mem_rule {c left dash middle right : Char} {widths : List Nat}
    (others : c ∉ [left, dash, middle, right]) : c ∉ rule left dash middle right widths := by
  refine not_mem_line (by simp_all) ?_
  intro piece mem
  obtain ⟨width, -, rfl⟩ := List.mem_map.mp mem
  simp_all

section

variable {rows : List (List (List Char))} {texts : List String}

/-- What is written in a line, blanks apart, is written in one of the texts. So
what a drawing has inside its bars is known from the columns. -/
theorem Shows.exists_mem (shows' : Shows rows texts) {row : List (List Char)} {piece : List Char}
    {c : Char} (line : row ∈ rows) (part : piece ∈ row) (mem : c ∈ piece) (ink : c ≠ ' ') :
    ∃ text ∈ texts, c ∈ text.toList := by
  obtain ⟨i, bound, rfl⟩ := List.getElem_of_mem part
  have inside : i < texts.length := (shows'.width row line) ▸ bound
  have written : c ∈ inked (rows.flatMap fun row => row[i]?.getD []) := by
    refine List.mem_filter.mpr ⟨List.mem_flatMap.mpr ⟨row, line, ?_⟩, by simpa using ink⟩
    rwa [List.getElem?_eq_getElem bound]
  rw [shows'.order i texts[i] (List.getElem?_eq_getElem inside)] at written
  exact ⟨texts[i], List.getElem_mem inside, (List.mem_filter.mp written).1⟩

/-- A character that is none of the printing ones is not written in a line of
them. So the bars and the line breaks of a drawing are never taken for a part of
a text. -/
theorem Shows.not_mem (shows' : Shows rows texts) (printing : ∀ text ∈ texts, Printing text)
    {row : List (List Char)} (line : row ∈ rows) {c : Char} (other : isPrinting c = false) :
    ∀ piece ∈ row, c ∉ piece := by
  intro piece part mem
  have ink : c ≠ ' ' := by
    rintro rfl
    cases other
  obtain ⟨text, among, inside⟩ := shows'.exists_mem line part mem ink
  cases other.symm.trans (List.all_eq_true.mp (printing text among) c inside)

end

/-! ## The last column -/

/-- The last column of a table below its header. -/
def lastColumn (text : List Char) : List Char :=
  let below := ((text.splitOnP (· = '\n')).dropWhile fun line => line.head? ≠ some '╞').tail
  (below.filter fun line => line.head? = some '│').flatMap (Report.between '┆' '│')

/-- Lines are split where each of them ends, and nothing is behind the last. The
induction is on the lines. -/
theorem splitOnP_lines {lines : List (List Char)} (single : ∀ line ∈ lines, '\n' ∉ line) :
    (lines.flatMap (· ++ ['\n'])).splitOnP (· = '\n') = lines ++ [[]] := by
  induction lines with
  | nil => rfl
  | cons line lines ih =>
    obtain ⟨first, others⟩ := List.forall_mem_cons.mp single
    have whole : line.splitOnP (· = '\n') = [line] := by
      refine List.splitOnP_eq_singleton fun c mem => ?_
      rw [decide_eq_false_iff_not]
      rintro rfl
      exact first mem
    rw [List.flatMap_cons, List.append_assoc, List.singleton_append,
      List.splitOnP_append_cons _ _ (by simp), whole, ih others]
    rfl

/-- In a line of several pieces, the last one stands between the last two bars. -/
theorem between_row {pieces : List (List Char)} {count : Nat} (length : pieces.length = count + 2)
    (bar : ∀ piece ∈ pieces, '┆' ∉ piece) :
    Report.between '┆' '│' (row pieces) = pieces[count + 1]?.getD [] := by
  obtain ⟨first, others, rfl⟩ := List.exists_cons_of_length_eq_add_one length
  obtain ⟨middle, last, rfl⟩ : ∃ middle last, others = middle ++ [last] :=
    (List.eq_nil_or_concat' others).resolve_left (by rintro rfl; cases length)
  obtain ⟨front, joined⟩ := Report.exists_intercalate '┆' first middle last
  have count : middle.length = count := by simpa using length
  rw [row, line, joined, List.append_assoc, List.cons_append, ← List.cons_append,
    Report.between_eq List.not_mem_nil (bar last (by simp)), List.getElem?_cons_succ, ← count,
    List.getElem?_concat_length]
  rfl

/-- In a box of lines, the last column is what stands between the last two bars
of the lines below the header. -/
theorem lastColumn_boxed {widths : List Nat} {header body : List (List (List Char))}
    (single : ∀ line ∈ boxed widths header body, '\n' ∉ line) :
    lastColumn ((boxed widths header body).flatMap (· ++ ['\n'])) =
      body.flatMap fun pieces => Report.between '┆' '│' (row pieces) := by
  -- every line is known by its first character
  have above : ∀ line ∈ rule '┌' '─' '┬' '┐' widths :: header.map row,
      decide (line.head? ≠ some '╞') = true := by
    rw [List.forall_mem_cons, List.forall_mem_map]
    exact ⟨rfl, fun _ _ => rfl⟩
  have rows : (body.map row).filter (fun line => line.head? = some '│') = body.map row := by
    rw [List.filter_eq_self, List.forall_mem_map]
    exact fun _ _ => rfl
  have below : [rule '└' '─' '┴' '┘' widths, []].filter (fun line => line.head? = some '│') = [] :=
    rfl
  rw [lastColumn, splitOnP_lines single, boxed, ← List.cons_append, List.append_assoc,
    List.dropWhile_append_of_pos above, List.cons_append,
    List.dropWhile_cons_of_neg (by simp [rule, line]), List.tail_cons, List.append_assoc,
    List.singleton_append, List.filter_append, rows, below, List.append_nil, List.flatMap_map]

/-- No line of a drawing is broken: neither the marks of a box nor what is
written in it has a line break. -/
theorem newline_not_mem {widths : List Nat} {header body : List (List (List Char))}
    {titles cells : List String} (titled : Shows header titles) (filled : Shows body cells)
    (printing : ∀ text ∈ titles ++ cells, Printing text) :
    ∀ line ∈ boxed widths header body, '\n' ∉ line := by
  rw [List.forall_mem_append] at printing
  simp only [boxed, List.forall_mem_cons, List.forall_mem_append, List.forall_mem_map]
  exact ⟨not_mem_rule (by decide),
    fun _ mem => not_mem_line (by decide) (titled.not_mem printing.1 mem rfl),
    not_mem_rule (by decide),
    fun _ mem => not_mem_line (by decide) (filled.not_mem printing.2 mem rfl),
    not_mem_rule (by decide), nofun⟩

/-- Below the header of a drawing, the last column shows the last cell: its
pieces, from the first line to the last, have the characters of the cell in
order. -/
theorem inked_lastColumn {first last : Column} {columns : List Column} {lines : List (List Char)}
    (drawn : Drawn (first :: (columns ++ [last])) lines)
    (printing : ∀ c ∈ first :: (columns ++ [last]), c.Printing) :
    inked (lastColumn (lines.flatMap (· ++ ['\n']))) = inked last.cell.toList := by
  obtain ⟨widths, header, body, rfl, titled, filled⟩ := drawn
  have titles : ∀ text ∈ (first :: (columns ++ [last])).map Column.title, Printing text :=
    List.forall_mem_map.mpr fun c mem => (printing c mem).1
  have cells : ∀ text ∈ (first :: (columns ++ [last])).map Column.cell, Printing text :=
    List.forall_mem_map.mpr fun c mem => (printing c mem).2
  have pieces (row' : List (List Char)) (mem : row' ∈ body) :
      Report.between '┆' '│' (row row') = row'[columns.length + 1]?.getD [] := by
    refine between_row ?_ (filled.not_mem cells mem rfl)
    rw [filled.width row' mem]
    simp
  rw [lastColumn_boxed (newline_not_mem titled filled (List.forall_mem_append.mpr ⟨titles, cells⟩)),
    List.flatMap_congr pieces, filled.order (columns.length + 1) last.cell]
  simp

/-- A cell that does not fit its column goes on in the next line. -/
example :
    let text :=
      "┌───┬──────┐\n│ S ┆ HEX  │\n╞═══╪══════╡\n│ 2 ┆ 55aa │\n│   ┆ 0202 │\n└───┴──────┘\n"
    inked (lastColumn text.toList) = "55aa0202".toList := by decide +kernel

end Table

end MotionLink
