import Mathlib
import MotionLink.Report.Packet
import MotionLink.Proofs.Frame.Rewriting
import MotionLink.Proofs.Frame.RoundTrip
import MotionLink.Proofs.Toolbox

/-!
# Commands told by their lines

The JSON line of a command that may be sent tells the command. With a writer that
keeps to the standard form and tells finite real numbers apart, two such lines
are compared member by member (`Report.told_packetJson`). What follows the name
of the packet is compared where the names are the same, and then both commands
are of one kind: their segments are numbers or words, and their bodies have the
same fields with values of the same sorts (`Report.toldAll_commandFields`). The
value that is written has every field of the body in it, so that it tells the
body (`Report.commandFields_cancel`).
-/

namespace MotionLink

attribute [ext] PerMotor Coefficients Trajectory Jog Command

/-- No two values of the list of codes share a name. -/
class Coded.Named (α : Type) [Coded α] : Prop where
  name_injective : Function.Injective (Coded.name : α → String)

instance : Coded.Named OperatingMode where
  name_injective a b := by cases a <;> cases b <;> decide

instance : Coded.Named HomingMode where
  name_injective a b := by cases a <;> cases b <;> decide

instance : Coded.Named JogUnit where
  name_injective a b := by cases a <;> cases b <;> decide

theorem CommandKind.name_injective : Function.Injective CommandKind.name := by
  intro a b
  cases a <;> cases b <;> decide

namespace Report

/-! ## What the fields tell -/

theorem byte_injective : Function.Injective byte := by
  intro a b same
  exact UInt8.toNat_inj.mp (Json.nat.inj same)

theorem reals_injective : Function.Injective reals := by
  intro a b same
  exact List.map_injective_iff.mpr (fun _ _ => Json.real.inj) (Json.array.inj same)

/-- A value with a code is reported by its name, and no two values share one. -/
theorem coded_injective {α : Type} [Coded α] [Coded.Named α] {a b : α}
    (same : Json.text (Coded.name a) = Json.text (Coded.name b)) : a = b :=
  Coded.Named.name_injective (Json.text.inj same)

theorem coefficients_injective {a b : Coefficients} (same : reals a.terms = reals b.terms) :
    a = b :=
  Coefficients.ext (reals_injective same)

/-- The word for every board is no number, and each board is reported by its
own. -/
theorem segment_injective : Function.Injective segment := by
  intro a b same
  unfold segment at same
  split at same <;> split at same
  · rename_i first second
    exact (eq_of_beq first).trans (eq_of_beq second).symm
  · cases same
  · cases same
  · exact congrArg Segment.mk (byte_injective same)

/-- Bodies of one kind with the same fields are equal. The case split is on the
kinds, and in each of them every part of the body is in some field. -/
theorem commandFields_cancel {a b : CommandBody} (kind : a.kind = b.kind)
    (same : commandFields a = commandFields b) : a = b := by
  cases a with
  | trajectory t =>
    cases b with
    | trajectory u =>
      simp only [commandFields, List.cons.injEq, Prod.mk.injEq, true_and, and_true] at same
      obtain ⟨duration, first, second, third, start, id⟩ := same
      have id := UInt32.toNat_inj.mp (Json.nat.inj id)
      have start := UInt32.toNat_inj.mp (Json.nat.inj start)
      have duration := UInt16.toNat_inj.mp (Json.nat.inj duration)
      have motors : t.motors = u.motors :=
        PerMotor.ext (coefficients_injective first) (coefficients_injective second)
          (coefficients_injective third)
      exact congrArg CommandBody.trajectory (Trajectory.ext id start duration motors)
    | _ => cases kind
  | emergencyStop reason =>
    cases b with
    | emergencyStop other =>
      simp only [commandFields, List.cons.injEq, Prod.mk.injEq, true_and, and_true] at same
      exact congrArg CommandBody.emergencyStop (byte_injective same)
    | _ => cases kind
  | startHoming mode =>
    cases b with
    | startHoming other =>
      simp only [commandFields, List.cons.injEq, Prod.mk.injEq, true_and, and_true] at same
      exact congrArg CommandBody.startHoming (coded_injective same)
    | _ => cases kind
  | jogMotor jog =>
    cases b with
    | jogMotor other =>
      simp only [commandFields, List.cons.injEq, Prod.mk.injEq, true_and, and_true] at same
      obtain ⟨motor, speed, unit, value⟩ := same
      exact congrArg CommandBody.jogMotor
        (Jog.ext (byte_injective motor) (coded_injective unit) (Json.real.inj value)
          (byte_injective speed))
    | _ => cases kind
  | setMode mode =>
    cases b with
    | setMode other =>
      simp only [commandFields, List.cons.injEq, Prod.mk.injEq, true_and, and_true] at same
      exact congrArg CommandBody.setMode (coded_injective same)
    | _ => cases kind
  | setZeroOffset =>
    cases b with
    | setZeroOffset => rfl
    | _ => cases kind

/-- A trajectory without a fault has finite coefficients: this is what
validating a command gives to the writer, which has one text for all values that
are not finite. -/
theorem finite_terms {t : Trajectory} (faultless : t.fault? = none) :
    ∀ motor ∈ t.motors.toList, ∀ x ∈ motor.terms, x.isFinite = true := by
  intro motor among x inside
  by_contra wild
  exact Trajectory.fault?_eq_none.mp faultless
    ⟨motor, among, x, inside, Bool.eq_false_of_not_eq_true wild⟩

/-! ## The line -/

section

variable {write : Json → List Char} (standard : Json.Standard write)

include standard

/-- Segments are told: numbers by their digits, the word for every board by its
quote, which starts no number. -/
theorem told_segment (s t : Segment) : Json.Told write (segment s) (segment t) := by
  unfold segment
  split <;> split
  · exact standard.told_text _ _
  · exact (standard.told_nat_text _ _).symm
  · exact standard.told_nat_text _ _
  · exact standard.told_nat _ _

variable (tells : Json.TellsReals write)

include tells

/-- Coefficients are told when they are finite. -/
theorem told_coefficients {a b : Coefficients} (finite : ∀ x ∈ a.terms, x.isFinite = true)
    (finite' : ∀ x ∈ b.terms, x.isFinite = true) :
    Json.Told write (reals a.terms) (reals b.terms) := by
  have length := a.length_terms.trans b.length_terms.symm
  exact standard.told_array (tells.toldAll_reals length finite finite')

/-- The fields of two bodies of one kind are told, one after the other, when the
bodies are without a fault and their real numbers therefore finite. -/
theorem toldAll_commandFields {a b : CommandBody} (kind : a.kind = b.kind)
    (faultless : a.fault? = none) (faultless' : b.fault? = none) :
    Json.ToldAll (Json.memberText write) (commandFields a) (commandFields b) := by
  have nat (name : String) (m n : Nat) :
      Json.Told (Json.memberText write) (name, .nat m) (name, .nat n) :=
    (standard.told_nat m n).member name
  have text (name : String) (p q : String) :
      Json.Told (Json.memberText write) (name, .text p) (name, .text q) :=
    (standard.told_text p q).member name
  cases a with
  | trajectory t =>
    cases b with
    | trajectory u =>
      have finite := finite_terms faultless
      have finite' := finite_terms faultless'
      simp only [PerMotor.toList, List.forall_mem_cons] at finite finite'
      -- A command that may be sent has finite coefficients, which is all that the writer can tell.
      have coefficients {p q : Coefficients} (name : String)
          (first : ∀ x ∈ p.terms, x.isFinite = true) (second : ∀ x ∈ q.terms, x.isFinite = true) :
          Json.Told (Json.memberText write) (name, reals p.terms) (name, reals q.terms) :=
        (told_coefficients standard tells first second).member name
      exact .cons (nat _ _ _) fun _ => .cons (coefficients _ finite.1 finite'.1) fun _ =>
        .cons (coefficients _ finite.2.1 finite'.2.1) fun _ =>
        .cons (coefficients _ finite.2.2.1 finite'.2.2.1) fun _ => .cons (nat _ _ _) fun _ =>
        .cons (nat _ _ _) fun _ => .nil
    | _ => cases kind
  | emergencyStop reason =>
    cases b with
    | emergencyStop other => exact .cons (nat _ _ _) fun _ => .nil
    | _ => cases kind
  | startHoming mode =>
    cases b with
    | startHoming other => exact .cons (text _ _ _) fun _ => .nil
    | _ => cases kind
  | jogMotor jog =>
    cases b with
    | jogMotor other =>
      obtain ⟨-, -, finite⟩ := Jog.fault?_eq_none.mp faultless
      obtain ⟨-, -, finite'⟩ := Jog.fault?_eq_none.mp faultless'
      exact .cons (nat _ _ _) fun _ => .cons (nat _ _ _) fun _ => .cons (text _ _ _) fun _ =>
        .cons ((tells.told_real finite finite').member _) fun _ => .nil
    | _ => cases kind
  | setMode mode =>
    cases b with
    | setMode other => exact .cons (text _ _ _) fun _ => .nil
    | _ => cases kind
  | setZeroOffset =>
    cases b with
    | setZeroOffset => exact .nil
    | _ => cases kind

/-- The values that report two commands are told. Their fields are compared where
the names of the packets are the same. -/
theorem told_packetJson {c d : Command} (first : c.validate = .ok ())
    (second : d.validate = .ok ()) :
    Json.Told write (packetJson (.command c)) (packetJson (.command d)) := by
  refine standard.told_object (.cons ((standard.told_text _ _).member _) fun named => ?_)
  have kind : c.body.kind = d.body.kind :=
    CommandKind.name_injective (Json.text.inj (Prod.mk.inj named).2)
  have fields := toldAll_commandFields standard tells kind (Frame.fault?_body_of_validate first)
    (Frame.fault?_body_of_validate second)
  exact .cons ((standard.told_text _ _).member _) fun _ =>
    .cons ((told_segment standard _ _).member _) fun _ =>
    .cons ((standard.told_object fields).member _) fun _ => .nil

end

/-- A single line is told by what is printed, the line break at its end
included. -/
theorem lines_singleton_injective {a b : List Char} (same : Output.lines [a] = Output.lines [b]) :
    a = b := by
  have text := String.ofList_injective (Output.text.inj same)
  simpa using text

/-- The line that reports a command in JSON tells the command, where JSON is
written in its standard form and finite real numbers are told apart: of two
commands that may be sent, the lines are the same exactly where the commands
are, bit for bit. -/
theorem packet_json_eq_iff {tools : Toolbox} (writes : tools.WritesJson)
    (tells : Json.TellsReals tools.shown) {c d : Command} (first : c.validate = .ok ())
    (second : d.validate = .ok ()) (frame frame' : Bytes) :
    packet (.command c) frame .json tools = packet (.command d) frame' .json tools ↔ c = d := by
  constructor
  · intro printed
    have written := lines_singleton_injective printed
    rw [writes.line_eq, writes.line_eq] at written
    have same := (told_packetJson writes.standard tells first second).eq_of_write written
    simp only [packetJson, timestamp?, Option.map_none, Option.toList_none, List.append_nil,
      List.cons_append, List.nil_append, Json.object.injEq, List.cons.injEq, Prod.mk.injEq,
      true_and, and_true] at same
    obtain ⟨name, -, address, body⟩ := same
    have kind := CommandKind.name_injective (Json.text.inj name)
    exact Command.ext (segment_injective address) (commandFields_cancel kind body)
  · rintro rfl
    rfl

/-- Two jogs that differ in the sign of a zero only are told apart by the writer of this library. -/
theorem packet_json_tells_zeros :
    let jog (value : Binary32) : Command := ⟨⟨7⟩, .jogMotor ⟨1, .millimeters, value, 50⟩⟩
    (jog ⟨0⟩).validate = .ok () ∧ (jog ⟨0x80000000⟩).validate = .ok () ∧
      packet (.command (jog ⟨0⟩)) [] .json ≠ packet (.command (jog ⟨0x80000000⟩)) [] .json := by
  intro jog
  have first : (jog ⟨0⟩).validate = .ok () := rfl
  have second : (jog ⟨0x80000000⟩).validate = .ok () := rfl
  have told := packet_json_eq_iff Toolbox.writesJson_standard Json.tellsReals_write first second
  exact ⟨first, second, mt (told [] []).mp (by decide)⟩

end Report

end MotionLink
