import Mathlib
import MotionLink.Board

/-!
# A board and its history

The state of a board follows from what has happened to it, the commands that
concern it and the frames it could not decode. `heard` is what it was told, and
`latest?` the last of these that answers a question: most of the state is the
answer to one (`run_latest?`). Two counters and the last error are left, which
follow from how often something has happened (`run_counter`). `Reflects` puts
the parts together, and `run_new` says that they hold of every history.
-/

namespace MotionLink

/-- The command is for the board on a segment: it names that segment, or every board. -/
def Command.Concerns (command : Command) (segment : Segment) : Prop :=
  command.segment.id = 255 ∨ command.segment = segment

instance (command : Command) (segment : Segment) : Decidable (command.Concerns segment) :=
  inferInstanceAs (Decidable (_ ∨ _))

/-- The test of an address says whether the command concerns the board. -/
theorem Segment.addresses_iff {command : Command} {segment : Segment} :
    command.segment.addresses segment = true ↔ command.Concerns segment := by
  obtain ⟨⟨id⟩, body⟩ := command
  simp [addresses, isBroadcast, broadcast, Command.Concerns]

namespace Board

/-! ## Histories -/

/-- What happens to a board: a command, or a frame that cannot be decoded. -/
inductive Event where
  | command (c : Command)
  | rejection
  deriving DecidableEq, Repr

/-- The board after an event. -/
def after (b : Board) : Event → Board
  | .command c => (b.apply c).2
  | .rejection => b.recordRejected

/-- The board after one event after the other. -/
def run (b : Board) (history : List Event) : Board := history.foldl after b

/-- What an event tells the board on a segment. -/
def Event.told? (segment : Segment) : Event → Option CommandBody
  | .command c => if c.Concerns segment then some c.body else none
  | .rejection => none

/-- What a history tells the board on a segment. -/
def heard (segment : Segment) (history : List Event) : List CommandBody :=
  history.filterMap (Event.told? segment)

section

variable {segment : Segment} {event : Event}

/-- An event that tells a board nothing leaves what it has heard as it was. -/
theorem heard_cons_none (told : event.told? segment = none) (history : List Event) :
    heard segment (event :: history) = heard segment history :=
  List.filterMap_cons_none told

/-- An event that tells a board something is heard first of what follows it. -/
theorem heard_cons_some {body : CommandBody} (told : event.told? segment = some body)
    (history : List Event) :
    heard segment (event :: history) = body :: heard segment history :=
  List.filterMap_cons_some told

end

section

variable {α : Type}

/-- The last of the answers in a list comes from an element behind which no
other answers. Statements about the latest command of a sort are taken apart
with this. -/
theorem last_answer {β : Type} {question : α → Option β} {asked : List α} {answer : β}
    (last : (asked.filterMap question).getLast? = some answer) :
    ∃ before found since, asked = before ++ found :: since ∧ question found = some answer ∧
      ∀ later ∈ since, question later = none := by
  obtain ⟨earlier, answers⟩ := List.getLast?_eq_some_iff.mp last
  obtain ⟨before, rest, rfl, -, answered⟩ := List.filterMap_eq_append_iff.mp answers
  obtain ⟨silent, found, since, rfl, -, answers, none⟩ := List.filterMap_eq_cons_iff.mp answered
  exact ⟨before ++ silent, found, since, (List.append_assoc ..).symm, answers,
    List.filterMap_eq_nil_iff.mp none⟩

/-- The last answer that commands give to a question. -/
def latest? (question : CommandBody → Option α) (bodies : List CommandBody) : Option α :=
  (bodies.filterMap question).getLast?

/-- A first command counts only where none behind it answers. -/
theorem latest?_cons (question : CommandBody → Option α) (body : CommandBody)
    (bodies : List CommandBody) :
    latest? question (body :: bodies) = (latest? question bodies).or (question body) := by
  unfold latest?
  cases answer : question body with
  | none => rw [List.filterMap_cons_none answer, Option.or_none]
  | some a =>
    rw [List.filterMap_cons_some answer, List.getLast?_cons]
    cases (bodies.filterMap question).getLast? with
    | none => rfl
    | some last => rfl

/-- Of two stretches of commands the later one answers, if it answers at all. -/
theorem latest?_append (question : CommandBody → Option α) (bodies bodies' : List CommandBody) :
    latest? question (bodies ++ bodies') =
      (latest? question bodies').or (latest? question bodies) := by
  rw [latest?, List.filterMap_append, List.getLast?_append, latest?, latest?]

/-- Where no command answers, there is no last answer, and what was there before
stays. -/
theorem latest?_eq_none {question : CommandBody → Option α} {bodies : List CommandBody}
    (silent : ∀ body ∈ bodies, question body = none) : latest? question bodies = none := by
  rw [latest?, List.filterMap_eq_nil_iff.mpr silent, List.getLast?_nil]

/-- The last answer is that of a command behind which no other answers. -/
theorem latest?_eq_some {question : CommandBody → Option α} {bodies : List CommandBody} {answer : α}
    (last : latest? question bodies = some answer) :
    ∃ before body since, bodies = before ++ body :: since ∧ question body = some answer ∧
      ∀ later ∈ since, question later = none :=
  last_answer last

end

/-! ## Questions -/

/-- Whether a stop holds from the command on. -/
def stops? : CommandBody → Option Bool
  | .emergencyStop _ => some true
  | .setMode .operation => some false
  | _ => none

def stopReason? : CommandBody → Option UInt8
  | .emergencyStop reason => some reason
  | _ => none

/-- The mode that the command puts a board in. -/
def mode? : CommandBody → Option OperatingMode
  | .emergencyStop _ => some .idle
  | .setMode mode => some mode
  | .startHoming _ => some .homing
  | _ => none

def homing? : CommandBody → Option HomingMode
  | .startHoming homing => some homing
  | _ => none

/-- The trajectory that a board has from the command on, which a stop takes away. -/
def trajectory? : CommandBody → Option (Option Trajectory)
  | .trajectory t => some (some t)
  | .emergencyStop _ => some none
  | _ => none

/-! ## One event -/

section

variable {b : Board} {command : Command}

/-- A command that concerns the board is performed, and the board says so. -/
theorem apply_of_concerns (concerns : command.Concerns b.segment) :
    b.apply command = (.applied, b.perform command.body) := by
  rw [apply, if_pos (Segment.addresses_iff.mpr concerns)]

/-- Any other command is ignored, and leaves the whole board as it is. -/
theorem apply_of_not_concerns (concerns : ¬ command.Concerns b.segment) :
    b.apply command = (.ignored, b) := by
  rw [apply, if_neg (mt Segment.addresses_iff.mp concerns)]

/-- The answer tells whether the command was for the board, and nothing else
does. -/
theorem apply_fst_eq_applied : (b.apply command).1 = .applied ↔ command.Concerns b.segment := by
  by_cases concerns : command.Concerns b.segment
  · rw [apply_of_concerns concerns]
    exact iff_of_true rfl concerns
  · rw [apply_of_not_concerns concerns]
    exact iff_of_false Disposition.noConfusion concerns

theorem segment_perform (b : Board) (body : CommandBody) :
    (b.perform body).segment = b.segment := by
  cases body <;> rfl

/-- A board acts on what an event tells it, and counts the event if it is a
rejection. An event does one of three things, and every step lemma below goes
through them. -/
theorem after_cases (b : Board) (event : Event) :
    (event = .rejection ∧ event.told? b.segment = none ∧ b.after event = b.recordRejected) ∨
      (event ≠ .rejection ∧ event.told? b.segment = none ∧ b.after event = b) ∨
      event ≠ .rejection ∧
        ∃ body, event.told? b.segment = some body ∧ b.after event = b.perform body := by
  cases event with
  | rejection => exact .inl ⟨rfl, rfl, rfl⟩
  | command c =>
    refine .inr ?_
    by_cases concerns : c.Concerns b.segment
    · refine .inr ⟨Event.noConfusion, c.body, if_pos concerns, ?_⟩
      rw [after, apply_of_concerns concerns]
    · refine .inl ⟨Event.noConfusion, if_neg concerns, ?_⟩
      rw [after, apply_of_not_concerns concerns]

/-- No event moves a board to another segment, so which commands concern it is
settled once for a whole history. -/
theorem segment_after (b : Board) (event : Event) : (b.after event).segment = b.segment := by
  rcases after_cases b event with ⟨-, -, becomes⟩ | ⟨-, -, becomes⟩ | ⟨-, body, -, becomes⟩
  · rw [becomes, recordRejected]
  · rw [becomes]
  · rw [becomes, segment_perform]

end

/-! ## A run -/

theorem run_cons (b : Board) (event : Event) (history : List Event) :
    b.run (event :: history) = (b.after event).run history := rfl

theorem segment_run (b : Board) (history : List Event) : (b.run history).segment = b.segment := by
  induction history generalizing b with
  | nil => rfl
  | cons event history ih => rw [run_cons, ih, segment_after]

section

variable {α : Type}

/-- A part of the state that commands set and rejections leave alone is as the
last command that sets it has set it. The induction is on the history: a first
event that sets the part counts where nothing behind it does, as `latest?_cons`
has it. -/
theorem run_latest? (part : Board → Option α) (question : CommandBody → Option α)
    (sets : ∀ b body, part (b.perform body) = (question body).or (part b))
    (leaves : ∀ b, part (recordRejected b) = part b) (b : Board) (history : List Event) :
    part (b.run history) = (latest? question (heard b.segment history)).or (part b) := by
  induction history generalizing b with
  | nil => rfl
  | cons event history ih =>
    rw [run_cons, ih, segment_after]
    rcases after_cases b event with ⟨-, told, becomes⟩ | ⟨-, told, becomes⟩ |
      ⟨-, body, told, becomes⟩
    · rw [becomes, leaves, heard_cons_none told]
    · rw [becomes, heard_cons_none told]
    · rw [becomes, sets, heard_cons_some told, latest?_cons, Option.or_assoc]

/-- The same for a part that always has a value, such as the mode. -/
theorem run_latest (part : Board → α) (question : CommandBody → Option α)
    (sets : ∀ b body, part (b.perform body) = (question body).getD (part b))
    (leaves : ∀ b, part (recordRejected b) = part b) (b : Board) (history : List Event) :
    part (b.run history) = (latest? question (heard b.segment history)).getD (part b) := by
  have run := run_latest? (fun b => some (part b)) question
    (fun b body => by rw [sets, Option.or_some]) (fun b => by rw [leaves]) b history
  rw [Option.or_some] at run
  exact Option.some.inj run

end

/-- A counter that stops at its highest value is at the number of events that it
counts, or there. Stopping early and stopping at the end are the same, since a
counter never goes down. -/
theorem run_counter (counter : Board → Nat) (highest : Nat) (counted : Segment → Event → Bool)
    (counts : ∀ b event, counter (b.after event) =
      if counted b.segment event then min (counter b + 1) highest else counter b)
    (b : Board) (history : List Event) (start : counter b ≤ highest) :
    counter (b.run history) = min (counter b + history.countP (counted b.segment)) highest := by
  induction history generalizing b with
  | nil => exact (Nat.min_eq_left start).symm
  | cons event history ih =>
    have counter_after := counts b event
    rw [run_cons]
    by_cases isCounted : counted b.segment event = true
    · rw [if_pos isCounted] at counter_after
      rw [ih _ (by omega), segment_after, List.countP_cons_of_pos isCounted]
      omega
    · rw [if_neg isCounted] at counter_after
      rw [ih _ (by omega), segment_after, List.countP_cons_of_neg isCounted]
      omega

/-- A request for a zero offset is counted, with a stop at the highest value of
32 bits, and no other command touches the counter. -/
theorem zeroOffsetRequests_perform (b : Board) (body : CommandBody) :
    (b.perform body).zeroOffsetRequests.toNat =
      if body = .setZeroOffset then min (b.zeroOffsetRequests.toNat + 1) (2 ^ 32 - 1)
      else b.zeroOffsetRequests.toNat := by
  cases body with
  | setZeroOffset =>
    rw [if_pos rfl]
    exact UInt32.toNat_ofNat_of_lt' (Nat.lt_of_le_of_lt (Nat.min_le_right ..) (by decide))
  | _ => rfl

/-- The requests for a zero offset are counted up to the highest value of their
counter. Only those for the board count, since the others are not heard. -/
theorem zeroOffsetRequests_run (b : Board) (history : List Event) :
    (b.run history).zeroOffsetRequests.toNat =
      min (b.zeroOffsetRequests.toNat + (heard b.segment history).count .setZeroOffset)
        (2 ^ 32 - 1) := by
  have bounded := b.zeroOffsetRequests.toNat_lt
  rw [heard, List.count_filterMap]
  refine run_counter (·.zeroOffsetRequests.toNat) (2 ^ 32 - 1)
    (fun segment event => event.told? segment == some .setZeroOffset) ?_ b history (by omega)
  intro b event
  rcases after_cases b event with ⟨-, told, becomes⟩ | ⟨-, told, becomes⟩ | ⟨-, body, told, becomes⟩
  · rw [told, becomes]
    rfl
  · rw [told, becomes]
    rfl
  · rw [told, becomes, zeroOffsetRequests_perform]
    simp only [beq_iff_eq, Option.some.injEq]

theorem errorCount_perform (b : Board) (body : CommandBody) :
    (b.perform body).errorCount = b.errorCount := by
  cases body <;> rfl

/-- A rejection is counted, with a stop at the highest value of 16 bits. -/
theorem errorCount_recordRejected (b : Board) :
    b.recordRejected.errorCount.toNat = min (b.errorCount.toNat + 1) (2 ^ 16 - 1) :=
  UInt16.toNat_ofNat_of_lt' (Nat.lt_of_le_of_lt (Nat.min_le_right ..) (by decide))

/-- Rejections are counted up to the highest value of their counter. They are
not addressed, so each of them counts. -/
theorem errorCount_run (b : Board) (history : List Event) :
    (b.run history).errorCount.toNat =
      min (b.errorCount.toNat + history.count .rejection) (2 ^ 16 - 1) := by
  have bounded := b.errorCount.toNat_lt
  refine run_counter (·.errorCount.toNat) (2 ^ 16 - 1) (fun _ event => event == .rejection) ?_ b
    history (by omega)
  intro b event
  simp only [beq_iff_eq]
  rcases after_cases b event with
    ⟨rejected, -, becomes⟩ | ⟨unrejected, -, becomes⟩ | ⟨unrejected, body, -, becomes⟩
  · rw [if_pos rejected, becomes, errorCount_recordRejected]
  · rw [if_neg unrejected, becomes]
  · rw [if_neg unrejected, becomes, errorCount_perform]

/-- No command changes the last error, a change of mode included. -/
theorem lastError_perform (b : Board) (body : CommandBody) :
    (b.perform body).lastError = b.lastError := by
  cases body <;> rfl

/-- A rejection is the last error for good, since it is the only one a board
has. -/
theorem lastError_run (b : Board) (history : List Event) :
    (b.run history).lastError = if .rejection ∈ history then .crcError else b.lastError := by
  induction history generalizing b with
  | nil => rfl
  | cons event history ih =>
    rw [run_cons, ih]
    rcases after_cases b event with
      ⟨rejected, -, becomes⟩ | ⟨unrejected, -, becomes⟩ | ⟨unrejected, body, -, becomes⟩
    · have member : Event.rejection ∈ event :: history := rejected ▸ List.mem_cons_self
      rw [becomes, if_pos member, recordRejected, ite_self]
    · simp only [becomes, List.mem_cons, unrejected.symm, false_or]
    · simp only [becomes, lastError_perform, List.mem_cons, unrejected.symm, false_or]

/-- Whether a stop holds is what the last stop or the last command to operate
says. -/
theorem stopped_run (b : Board) (history : List Event) :
    (b.run history).stopped = (latest? stops? (heard b.segment history)).getD b.stopped := by
  refine run_latest (·.stopped) stops? ?_ (fun _ => rfl) b history
  intro b body
  cases body with
  | setMode mode =>
    cases mode with
    | operation => exact Bool.and_false _
    | _ => exact Bool.and_true _
  | _ => rfl

/-- The reason is that of the last stop, also after the stop is lifted. -/
theorem lastStopReason_run (b : Board) (history : List Event) :
    (b.run history).lastStopReason =
      (latest? stopReason? (heard b.segment history)).or b.lastStopReason := by
  refine run_latest? (·.lastStopReason) stopReason? ?_ (fun _ => rfl) b history
  intro b body
  cases body <;> rfl

/-- The mode is the last one that a command has set, and a stop and a start of
homing set one too. -/
theorem mode_run (b : Board) (history : List Event) :
    (b.run history).mode = (latest? mode? (heard b.segment history)).getD b.mode := by
  refine run_latest (·.mode) mode? ?_ (fun _ => rfl) b history
  intro b body
  cases body <;> rfl

theorem homing_run (b : Board) (history : List Event) :
    (b.run history).homing = (latest? homing? (heard b.segment history)).or b.homing := by
  refine run_latest? (·.homing) homing? ?_ (fun _ => rfl) b history
  intro b body
  cases body <;> rfl

/-- The trajectory is the last one that was given, unless a stop has taken it
away since. -/
theorem trajectory_run (b : Board) (history : List Event) :
    (b.run history).trajectory =
      (latest? trajectory? (heard b.segment history)).getD b.trajectory := by
  refine run_latest (·.trajectory) trajectory? ?_ (fun _ => rfl) b history
  intro b body
  cases body <;> rfl

/-! ## The state that a history leaves -/

/-- The board is what a history makes of a new board on the segment. -/
structure Reflects (b : Board) (segment : Segment) (history : List Event) : Prop where
  segment_eq : b.segment = segment
  applied_iff : ∀ command, (b.apply command).1 = .applied ↔ command.Concerns segment
  unmoved : ∀ command, ¬ command.Concerns segment → (b.apply command).2 = b
  stopped_iff : b.stopped = true ↔ latest? stops? (heard segment history) = some true
  lastStopReason_eq : b.lastStopReason = latest? stopReason? (heard segment history)
  /-- A stop is lifted, its reason stays. -/
  lifted : ∀ command, command.Concerns segment → command.body = .setMode .operation →
    (b.apply command).2.stopped = false ∧ (b.apply command).2.lastStopReason = b.lastStopReason
  mode_eq : b.mode = (latest? mode? (heard segment history)).getD .idle
  homing_eq : b.homing = latest? homing? (heard segment history)
  trajectory_iff : ∀ t, b.trajectory = some t ↔
    latest? trajectory? (heard segment history) = some (some t)
  zeroOffsetRequests_eq : b.zeroOffsetRequests.toNat =
    min ((heard segment history).count .setZeroOffset) (2 ^ 32 - 1)
  errorCount_eq : b.errorCount.toNat = min (history.count .rejection) (2 ^ 16 - 1)
  lastError_eq : b.lastError = if .rejection ∈ history then .crcError else .noError

/-- A new board is, after any history, what the history makes of it. Every part
is the last answer to its question or the count of its events, with the value of
a new board where there is neither. -/
theorem run_new (segment : Segment) (history : List Event) :
    ((new segment).run history).Reflects segment history where
  segment_eq := segment_run ..
  applied_iff command := by
    rw [apply_fst_eq_applied, segment_run]
    rfl
  unmoved command unconcerned := by
    rw [apply_of_not_concerns]
    rwa [segment_run]
  stopped_iff := by
    rw [stopped_run]
    change (latest? stops? (heard segment history)).getD false = true ↔ _
    cases latest? stops? (heard segment history) with
    | none => exact iff_of_false Bool.noConfusion nofun
    | some stop => exact Option.some_inj.symm
  lastStopReason_eq := by
    rw [lastStopReason_run]
    exact Option.or_none
  lifted command concerns operates := by
    rw [apply_of_concerns (by rwa [segment_run]), operates]
    exact ⟨Bool.and_false _, rfl⟩
  mode_eq := mode_run ..
  homing_eq := by
    rw [homing_run]
    exact Option.or_none
  trajectory_iff t := by
    rw [trajectory_run]
    change (latest? trajectory? (heard segment history)).getD none = some t ↔ _
    cases latest? trajectory? (heard segment history) with
    | none => exact iff_of_false nofun nofun
    | some answer => exact Option.some_inj.symm
  zeroOffsetRequests_eq := by
    rw [zeroOffsetRequests_run]
    change min (0 + _) _ = _
    rw [Nat.zero_add]
    rfl
  errorCount_eq := by
    rw [errorCount_run]
    change min (0 + _) _ = _
    rw [Nat.zero_add]
  lastError_eq := lastError_run ..

-- A stop for every board, lifted on the third, between two rejections that no board is told.
example :
    ((new ⟨3⟩).run [.rejection, .command ⟨.broadcast, .emergencyStop 7⟩,
      .command ⟨⟨2⟩, .startHoming .full⟩, .command ⟨⟨3⟩, .setMode .operation⟩,
      .rejection]) =
    { new ⟨3⟩ with
      mode := .operation, lastStopReason := some 7, errorCount := 2, lastError := .crcError } := by
  decide

end Board

end MotionLink
