import Mathlib
import MotionLink.Proofs.Argument.Pieces
import MotionLink.Proofs.CommandLine.Status

/-!
# Frames in reports

A report of an encoded frame shows the frame in a way of its format
(`Report.shownFrame?`): in JSON its digits are the last thing in quotes, in a
table they are the last column below the header, on one line or on several, and
in the pretty form they are what follows the last equals sign. With tools that
keep to their notations, what is shown there is the frame in the notation that
arguments are read in, so the text that a dry run prints can be decoded again.
-/

namespace MotionLink

open Refusal Argument

namespace Report

/-- What a report of an encoded frame shows of the frame, if it shows it in digits. -/
def shownFrame? (text : List Char) : OutputFormat → Option (List Char)
  | .json => some (between '"' '"' text)
  | .table => some (Table.lastColumn text)
  | .pretty => some (between '=' '\n' text)
  | .raw => none

/-! ## Digits in quotes and in cells -/

/-- A digit stands in quotes as it is. -/
theorem standsPlain_digit {c : Char} {n : Nat} (digit : Hex.IsDigit c n) :
    Json.standsPlain c = true := by
  have read := Hex.value?_eq_some.mpr digit
  obtain ⟨low, high⟩ := Hex.range_of_value? read
  have other (d : Char) (unread : Hex.value? d = none) : c ≠ d := by
    rintro rfl
    cases read.symm.trans unread
  simp only [Json.standsPlain, Bool.and_eq_true, decide_eq_true_eq, bne_iff_ne]
  exact ⟨⟨by omega, other _ (by decide)⟩, other _ (by decide)⟩

/-- No digit is a blank. -/
theorem inked_digits {digits : List Char} (all : AllDigits digits) :
    Table.inked digits = digits := by
  refine List.filter_eq_self.mpr fun c mem => ?_
  rw [decide_eq_true_iff]
  rintro rfl
  obtain ⟨n, digit⟩ := all ' ' mem
  cases Hex.value?_eq_some.mpr digit

/-- Digits are printing characters. -/
theorem printing_digits {digits : List Char} (all : AllDigits digits) :
    Table.Printing (String.ofList digits) := by
  rw [Table.Printing, String.toList_ofList, List.all_eq_true]
  intro c mem
  obtain ⟨n, digit⟩ := all c mem
  obtain ⟨low, high⟩ := Hex.range_of_value? (Hex.value?_eq_some.mpr digit)
  rw [Table.isPrinting, Bool.and_eq_true, decide_eq_true_iff, decide_eq_true_iff]
  omega

theorem printing_toString (n : Nat) : Table.Printing (toString n) := by
  rw [Table.Printing, Nat.toString_eq_ofList_toDigits, String.toList_ofList, List.all_eq_true]
  intro c mem
  have digit := Nat.isDigit_of_mem_toDigits (by decide) (by decide) mem
  rw [Char.isDigit, Bool.and_eq_true, decide_eq_true_iff, decide_eq_true_iff] at digit
  have low : 48 ≤ c.toNat := digit.1
  have high : c.toNat ≤ 57 := digit.2
  rw [Table.isPrinting, Bool.and_eq_true, decide_eq_true_iff, decide_eq_true_iff]
  omega

theorem printing_name (kind : PacketKind) : Table.Printing kind.name := by
  cases kind with
  | command kind => cases kind <;> decide +kernel
  | feedback kind => cases kind <;> decide +kernel

/-- A cell that is made of such characters is one that any table can show. -/
theorem printing_text (s : Segment) : Table.Printing s.text := by
  unfold Segment.text
  split
  · decide +kernel
  · exact printing_toString _

/-! ## The report of a frame -/

/-- Where the digits of a frame stand between two marks in the lines of a report, they are shown
there. -/
theorem scattered_between {text front inside back digits : List Char} {opening closing : Char}
    (written : text = front ++ opening :: (inside ++ closing :: back)) (last : closing ∉ back)
    (first : opening ∉ inside) (scattered : Scattered inside digits) :
    Scattered (between opening closing text) digits := by
  rwa [written, between_eq last first]

section

variable (kind : PacketKind) (addressee : Segment) (frame : Bytes) {tools : Toolbox}
  (codes : tools.CodesDigits)

/-- In the pretty form the digits stand behind the last equals sign. -/
theorem exists_encodedPretty : ∃ front,
    [s!"{kind.name} segment={addressee.text} length={frame.length} frame=".toList ++
      Hex.spaced frame].flatMap (· ++ ['\n']) =
      front ++ '=' :: (Hex.spaced frame ++ '\n' :: []) := by
  refine ⟨s!"{kind.name} segment={addressee.text} length={frame.length} frame".toList, ?_⟩
  simp only [List.flatMap_singleton, toString, String.toList_append, List.append_assoc]
  rfl

include codes

/-- In JSON the digits are the last thing in quotes. They are written between
the quotes as they are, and only a brace and a line break stand behind. -/
theorem exists_encodedJson (writes : tools.WritesJson) : ∃ front,
    tools.line (encodedJson tools kind addressee frame) ++ ['\n'] =
      front ++ '"' :: (tools.digits frame ++ '"' :: ['\x7d', '\n']) := by
  have all := allDigits_of_denotes (codes.writes frame)
  have digits : tools.shown (.text (String.ofList (tools.digits frame))) =
      '"' :: (tools.digits frame ++ ['"']) := by
    have plain := (writes.standard.text (String.ofList (tools.digits frame))).eq_of_plain
    rw [String.toList_ofList] at plain
    exact plain fun c mem => (all c mem).elim fun n digit => standsPlain_digit digit
  obtain ⟨front, joined⟩ := exists_intercalate ','
    (Json.memberText tools.shown ("packet", .text kind.name))
    ([("segment", segment addressee), ("length", .nat frame.length)].map
      (Json.memberText tools.shown))
    (Json.memberText tools.shown ("hex", .text (String.ofList (tools.digits frame))))
  refine ⟨'\x7b' :: (front ++ ',' :: (tools.shown (.text "hex") ++ [':'])), ?_⟩
  rw [writes.line_eq, encodedJson, writes.standard.object]
  simp only [List.map_cons, List.map_nil, List.cons_append, List.nil_append] at joined ⊢
  rw [joined, Json.memberText, digits]
  simp only [List.append_assoc, List.cons_append, List.nil_append]

/-- In a table the digits are the last column below the header, however many
lines they take. -/
theorem scattered_encodedTable (draws : tools.DrawsTables) :
    Scattered (Table.lastColumn ((tools.table
      [⟨"PACKET", kind.name⟩, ⟨"SEGMENT", addressee.text⟩, ⟨"LENGTH", toString frame.length⟩,
        ⟨"FRAME", String.ofList (tools.digits frame)⟩]).flatMap (· ++ ['\n'])))
      (tools.digits frame) := by
  have all := allDigits_of_denotes (codes.writes frame)
  have printing : ∀ c ∈ (⟨"PACKET", kind.name⟩ : Table.Column) ::
      ([⟨"SEGMENT", addressee.text⟩, ⟨"LENGTH", toString frame.length⟩] ++
        [⟨"FRAME", String.ofList (tools.digits frame)⟩]), c.Printing := by
    have titles : ∀ title ∈ ["PACKET", "SEGMENT", "LENGTH", "FRAME"], Table.Printing title := by
      decide +kernel
    simp only [List.cons_append, List.nil_append, List.forall_mem_cons] at titles ⊢
    exact ⟨⟨titles.1, printing_name kind⟩, ⟨titles.2.1, printing_text addressee⟩,
      ⟨titles.2.2.1, printing_toString _⟩, ⟨titles.2.2.2.1, printing_digits all⟩, nofun⟩
  -- Blanks are lost, but a frame has none, so the ink of its column is the frame.
  have ink := Table.inked_lastColumn (draws _ (List.cons_ne_nil _ _) printing) printing
  rw [String.toList_ofList, inked_digits all] at ink
  exact scattered_of_inked all ink

/-- A report of an encoded frame shows the frame, in every format but its bytes.
The case split is over the formats, and in each of them the marks around the
digits are no part of them. -/
theorem shown_encoded (writes : tools.WritesJson) (draws : tools.DrawsTables)
    {format : OutputFormat} (readable : format ≠ .raw) :
    ∃ out : String, encoded kind addressee frame format tools = .text out ∧
      ∃ shown digits, shownFrame? out.toList format = some shown ∧ Scattered shown digits ∧
        Hex.Denotes digits frame := by
  have denoted := codes.writes frame
  cases format with
  | raw => exact absurd rfl readable
  | json =>
    obtain ⟨front, written⟩ := exists_encodedJson kind addressee frame codes writes
    have digits := scattered_digits (allDigits_of_denotes denoted)
    have quote : '"' ∉ tools.digits frame :=
      digits.not_mem (by decide) (by decide) (by decide) (by decide)
    have behind : '"' ∉ ['\x7d', '\n'] := by decide
    refine ⟨_, rfl, _, _, rfl, ?_, denoted⟩
    rw [String.toList_ofList, List.flatMap_singleton]
    exact scattered_between written behind quote digits
  | table =>
    refine ⟨_, rfl, _, _, rfl, ?_, denoted⟩
    rw [String.toList_ofList]
    exact scattered_encodedTable kind addressee frame codes draws
  | pretty =>
    obtain ⟨digits, scattered, denoted⟩ := exists_scattered_spaced frame
    obtain ⟨front, written⟩ := exists_encodedPretty kind addressee frame
    have equals : '=' ∉ Hex.spaced frame :=
      scattered.not_mem (by decide) (by decide) (by decide) (by decide)
    have behind : '\n' ∉ ([] : List Char) := List.not_mem_nil
    refine ⟨_, rfl, _, digits, rfl, ?_, denoted⟩
    rw [String.toList_ofList]
    exact scattered_between written behind equals scattered

end

end Report

namespace CommandLine

section

variable {tools : Toolbox} (codes : tools.CodesDigits)

include codes

/-- The frame that a dry run prints is decoded to the command it was made of.
What is shown is read as the frame, and the frame as the command. -/
theorem SendRequest.decode_shown (writes : tools.WritesJson) (draws : tools.DrawsTables)
    {request : SendRequest} {command : Command} {frame : Bytes} (dry : request.dryRun = true)
    (built : request.command = .ok command)
    (encoded : Frame.encode (.command command) = .ok frame) {format : OutputFormat}
    (readable : format ≠ .raw) :
    ∃ out : String, request.run format tools = .ok (.printed (.text out)) ∧
      ∃ shown, Report.shownFrame? out.toList format = some shown ∧
        hexFrame (String.ofList shown) tools = .ok frame ∧
        ∀ view, (DecodeRequest.mk (String.ofList shown) .masterToBoard).run view tools =
          .ok (.printed (Report.packet (.command command) frame view tools)) := by
  obtain ⟨out, printed, shown, digits, found, scattered, denoted⟩ :=
    Report.shown_encoded (.command command.kind) command.segment frame codes writes draws readable
  have read : hexFrame (String.ofList shown) tools = .ok frame := by
    refine (hexFrame_eq_ok_iff_scattered codes).mpr ⟨digits, ?_, denoted⟩
    rwa [String.toList_ofList]
  refine ⟨out, (run_eq_ok dry).mpr ⟨command, frame, built, encoded, ?_⟩, shown, found, read, ?_⟩
  · rw [printed]
  · intro view
    exact DecodeRequest.run_eq_ok.mpr ⟨frame, _, read, Frame.decode_of_encode encoded, rfl⟩

/-- A text is read as a frame exactly where its pieces, each without the mark it
starts with, join to an even number of digits; it is then read as the bytes that
these denote, and any other text is refused as bad data. That is to say that the
texts of a frame are its digits in pieces, wherever they are cut, with a mark on
any of them and any separators between two. The digits of the frame, and those
in upper case with blanks, are two such texts. Every command that may be sent has
a frame, and what a dry run shows of it in JSON, in a table or in the pretty
form is decoded to that command. All this takes a codec of digits and a writer
of JSON that keep to their notations, and tables that show their texts. -/
theorem frames_read_back (writes : tools.WritesJson) (draws : tools.DrawsTables) :
    (∀ (text : String) (frame : Bytes),
      hexFrame text tools = .ok frame ↔ Hex.Denotes (frameDigits text.toList) frame) ∧
    (∀ text : String, (∃ frame, hexFrame text tools = .ok frame) ↔
      Even (frameDigits text.toList).length ∧ AllDigits (frameDigits text.toList)) ∧
    (∀ (text : String) (failure : Failure), hexFrame text tools = .error failure →
      failure.status.code = 60) ∧
    (∀ (text : String) (frame : Bytes), hexFrame text tools = .ok frame ↔
      ∃ digits, Scattered text.toList digits ∧ Hex.Denotes digits frame) ∧
    (∀ frame : Bytes, hexFrame (String.ofList (Hex.spaced frame)) tools = .ok frame ∧
      hexFrame (String.ofList (tools.digits frame)) tools = .ok frame) ∧
    ∀ (request : SendRequest) (command : Command), request.dryRun = true →
      request.command = .ok command → command.validate = .ok () →
      ∃ frame, Frame.encode (.command command) = .ok frame ∧
        Frame.decode .masterToBoard frame = .ok (.command command) ∧
        ∀ format : OutputFormat, format ≠ .raw →
          ∃ out : String, request.run format tools = .ok (.printed (.text out)) ∧
            ∃ shown, Report.shownFrame? out.toList format = some shown ∧
              hexFrame (String.ofList shown) tools = .ok frame ∧
              ∀ view, (DecodeRequest.mk (String.ofList shown) .masterToBoard).run view tools =
                .ok (.printed (Report.packet (.command command) frame view tools)) := by
  refine ⟨fun _ _ => hexFrame_eq_ok codes, ?_, ?_,
    fun _ _ => hexFrame_eq_ok_iff_scattered codes, ?_, ?_⟩
  · intro text
    simp only [hexFrame_eq_ok codes]
    exact Hex.exists_denotes
  · intro text failure refused
    rw [blamesData_hexFrame tools text failure refused]
    rfl
  · intro frame
    simp only [hexFrame_eq_ok_iff_scattered codes, String.toList_ofList]
    have denoted := codes.writes frame
    have digits := scattered_digits (allDigits_of_denotes denoted)
    exact ⟨exists_scattered_spaced frame, _, digits, denoted⟩
  · intro request command dry built sound
    have mayBeSent : (Packet.command command).validate = .ok () := sound
    obtain ⟨frame, encoded⟩ := Frame.exists_encode.mpr mayBeSent
    refine ⟨frame, encoded, Frame.decode_of_encode encoded, ?_⟩
    intro format readable
    exact SendRequest.decode_shown codes writes draws dry built encoded readable

end

/-- A stop for every board, with the reason 1: its frame is read in pieces, one of
which is marked inside a byte, and from each of the forms in which a dry run
prints it with the tools of this library. -/
theorem frames_read_back_stop :
    let frame : Bytes := [85, 170, 2, 255, 1, 10, 216]
    let command : Command := ⟨.broadcast, .emergencyStop 1⟩
    let request : SendRequest :=
      ⟨.v4 #v[127, 0, 0, 1], .broadcast, true, false, "5s", ⟨5000, 6000⟩, .emergencyStop 1⟩
    hexFrame "0X55aa 02:f 0xF,,010ad8" = .ok frame ∧
      (request.dryRun = true ∧ request.command = .ok command ∧ command.validate = .ok ()) ∧
      ∀ format : OutputFormat, format ≠ .raw →
        ∃ out : String, request.run format = .ok (.printed (.text out)) ∧
          ∃ shown, Report.shownFrame? out.toList format = some shown ∧
            hexFrame (String.ofList shown) = .ok frame := by
  intro frame command request
  obtain ⟨reads, -, -, -, -, runs⟩ := frames_read_back Toolbox.codesDigits_standard
    Toolbox.writesJson_standard Toolbox.drawsTables_standard
  obtain ⟨sent, encoded, -, shows⟩ := runs request command rfl rfl rfl
  obtain rfl : sent = frame := Except.ok.inj (encoded.symm.trans (by decide +kernel))
  refine ⟨(reads _ _).mpr (Hex.decode_eq_ok.mp ?_), ⟨rfl, rfl, rfl⟩, ?_⟩
  · decide +kernel
  · intro format readable
    obtain ⟨out, printed, shown, found, read, -⟩ := shows format readable
    exact ⟨out, printed, shown, found, read⟩

end CommandLine

end MotionLink
