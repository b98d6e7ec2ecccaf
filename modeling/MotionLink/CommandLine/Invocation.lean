import MotionLink.Argument.Real
import MotionLink.CommandLine.Level
import MotionLink.CommandLine.Request

/-!
# The command line of the program

The levels of the command line with their options, and the request they add up
to. Every level takes the options on output and logging; where several levels
set one, the innermost counts. An option that is left out has the value given
here.
-/

namespace MotionLink.CommandLine

/-! ## Values -/

/-- Reads one of several words. -/
def choice {α : Type} (words : List (String × α)) (text : String) : Option α := words.lookup text

def byte (text : String) : Option UInt8 :=
  (Numeral.signed? 10 (UInt8.size - 1) text.toList).map UInt8.ofNat

def word16 (text : String) : Option UInt16 :=
  (Numeral.signed? 10 (UInt16.size - 1) text.toList).map UInt16.ofNat

def word32 (text : String) : Option UInt32 :=
  (Numeral.signed? 10 (UInt32.size - 1) text.toList).map UInt32.ofNat

def count (text : String) : Option Nat := Numeral.unsigned? 10 (UInt64.size - 1) text.toList

def segment (text : String) : Option Segment := (Argument.segment text).toOption

/-- Sets a part of a draft that may be set once. -/
def once {σ α : Type} (get : σ → Option α) (put : α → σ → σ) (read : String → Option α) :
    Setter σ := fun text draft =>
  match get draft with
  | some _ => none
  | none => (read text).map (put · draft)

/-- Raises a part of a draft that may be raised once. -/
def raise {σ : Type} (get : σ → Bool) (put : σ → σ) (draft : σ) : Option σ :=
  if get draft then none else some (put draft)

/-! ## Options of every level -/

inductive LogFormat where
  | text
  | json

inductive LogLevel where
  | error
  | warn
  | info
  | debug
  | trace

/-- The options on output and logging. -/
structure Shared where
  format : Option OutputFormat := none
  logFormat : Option LogFormat := none
  logLevel : Option LogLevel := none

/-- The options of an outer level, as far as the inner one does not set them. -/
def Shared.orElse (inner outer : Shared) : Shared :=
  ⟨inner.format <|> outer.format, inner.logFormat <|> outer.logFormat,
    inner.logLevel <|> outer.logLevel⟩

/-- The options of a level, shared and its own. -/
structure Draft (σ : Type) where
  shared : Shared := {}
  own : σ

variable {σ : Type}

/-- An option with a value for a level's own draft. -/
def valued (name : String) (set : Setter σ) (letter : Option Char := none)
    (negative : Bool := false) : OptionSpec (Draft σ) :=
  { name := name, letter := letter,
    action := .value negative fun text d => (set text d.own).map fun own => { d with own := own } }

/-- An option without a value for a level's own draft. -/
def flagged (name : String) (set : σ → Option σ) : OptionSpec (Draft σ) :=
  { name := name, action := .flag fun d => (set d.own).map fun own => { d with own := own } }

/-- A word by its place for a level's own draft. -/
def place (set : Setter σ) (negative : Bool := false) : Place (Draft σ) :=
  { negative := negative,
    set := fun text d => (set text d.own).map fun own => { d with own := own } }

/-- An option with a value that every level has. -/
def sharedOption {α : Type} (name : String) (get : Shared → Option α) (put : α → Shared → Shared)
    (words : List (String × α)) : OptionSpec (Draft σ) :=
  { name := name,
    action := .value false fun text d =>
      (once get put (choice words) text d.shared).map fun shared => { d with shared := shared } }

/-- The options of every level. -/
def sharedOptions : List (OptionSpec (Draft σ)) :=
  [{ name := "help", letter := some 'h', action := .help },
    sharedOption "format" (·.format) (fun v s => { s with format := some v })
      (OutputFormat.all.map fun format => (format.name, format)),
    sharedOption "log-format" (·.logFormat) (fun v s => { s with logFormat := some v })
      [("text", .text), ("json", .json)],
    sharedOption "log-level" (·.logLevel) (fun v s => { s with logLevel := some v })
      [("error", .error), ("warn", .warn), ("info", .info), ("debug", .debug), ("trace", .trace)]]

/-! ## Subcommands -/

/-- The subcommands after a chain of subcommands. -/
def subcommands : List String → List String
  | [] => ["send", "listen", "decode", "mock-board", "version", "help"]
  | ["send"] => ["estop", "mode", "home", "jog", "zero", "trajectory", "help"]
  | _ => []

/-- Whether there is help on the subcommands that a list of words names, after a chain of them. -/
def hasHelp (path : List String) : List String → Bool
  | [] => true
  | word :: words => (subcommands path).contains word && hasHelp (path ++ [word]) words

/-- A level after a chain of subcommands. -/
def level (path : List String) (options : List (OptionSpec (Draft σ)))
    (places : List (Place (Draft σ)) := []) : Level (Draft σ) :=
  { options := options ++ sharedOptions, places := places, subcommands := subcommands path,
    hasHelp := hasHelp path }

/-- Reads a level without subcommands to its end. -/
def complete {α : Type} (l : Level (Draft σ)) (initial : σ) (build : σ → Option α)
    (words : List String) : Except Stop (Shared × α) := do
  let parsed ← l.start { own := initial } words
  let draft ← parsed.progress.settled
  return (draft.shared, ← demand (build draft.own))

/-! ## Ports -/

structure PortsDraft where
  stream : Option UInt16 := none
  datagram : Option UInt16 := none

def PortsDraft.ports (d : PortsDraft) : Ports :=
  let usual : LinkSettings := {}
  ⟨d.stream.getD usual.streamPort, d.datagram.getD usual.datagramPort⟩

def portOptions (get : σ → PortsDraft) (put : PortsDraft → σ → σ) : List (OptionSpec (Draft σ)) :=
  [valued "stream-port"
      (once (fun s => (get s).stream) (fun v s => put { get s with stream := some v } s) word16),
    valued "datagram-port"
      (once (fun s => (get s).datagram) (fun v s => put { get s with datagram := some v } s)
        word16)]

/-! ## Commands to send -/

/-- Reads the subcommand for an emergency stop. -/
def readEmergencyStop : List String → Except Stop (Shared × SendAction) :=
  complete
    (level ["send", "estop"] [valued "reason" (once id (fun v _ => some v) byte)])
    (none : Option UInt8)
    fun reason => some (.emergencyStop (reason.getD 1))

def readSetMode : List String → Except Stop (Shared × SendAction) :=
  complete
    (level ["send", "mode"] []
      [place (once id (fun v _ => some v)
        (choice [("idle", .idle), ("homing", .homing), ("operation", .operation)]))])
    (none : Option OperatingMode)
    fun mode => mode.map .setMode

def readStartHoming : List String → Except Stop (Shared × SendAction) :=
  complete
    (level ["send", "home"]
      [valued "mode" (once id (fun v _ => some v)
        (choice [("full", .full), ("quick", .quickVerify)]))])
    (none : Option HomingMode)
    fun mode => some (.startHoming (mode.getD .full))

/-- A jog, as far as it is given. -/
structure JogDraft where
  motor : Option UInt8 := none
  distance : Option Binary32 := none
  unit : Option JogUnit := none
  speed : Option UInt8 := none

def readJog : List String → Except Stop (Shared × SendAction) :=
  complete
    (level ["send", "jog"]
      [valued "unit" (once (·.unit) (fun v s => { s with unit := some v })
          (choice [("mm", .millimeters), ("ticks", .encoderTicks)])),
        valued "speed" (once (·.speed) (fun v s => { s with speed := some v }) byte)]
      [place (once (·.motor) (fun v s => { s with motor := some v }) byte),
        place (once (·.distance) (fun v s => { s with distance := some v })
          (fun text => Argument.real? text.toList)) true])
    ({} : JogDraft)
    fun d => do
      return .jog (← d.motor) (← d.distance) (d.unit.getD .millimeters) (d.speed.getD 50)

def readSetZeroOffset : List String → Except Stop (Shared × SendAction) :=
  complete (level ["send", "zero"] []) () fun _ => some .setZeroOffset

structure TrajectoryDraft where
  id : Option UInt32 := none
  start : Option UInt32 := none
  duration : Option UInt16 := none
  first : List Binary32 := []
  second : List Binary32 := []
  third : List Binary32 := []

/-- An option with a list of coefficients, which add up if it is repeated. -/
def coefficientsOption (name : String) (add : List Binary32 → TrajectoryDraft → TrajectoryDraft) :
    OptionSpec (Draft TrajectoryDraft) :=
  valued name (fun text d => (Argument.reals? text.toList).map (add · d)) none true

/-- A list that must not be empty. -/
def given (values : List Binary32) : Option (List Binary32) :=
  if values.isEmpty then none else some values

def readTrajectory : List String → Except Stop (Shared × SendAction) :=
  complete
    (level ["send", "trajectory"]
      [valued "id" (once (·.id) (fun v s => { s with id := some v }) word32),
        valued "start" (once (·.start) (fun v s => { s with start := some v }) word32),
        valued "duration-ms" (once (·.duration) (fun v s => { s with duration := some v }) word16),
        coefficientsOption "motor1" fun values d => { d with first := d.first ++ values },
        coefficientsOption "motor2" fun values d => { d with second := d.second ++ values },
        coefficientsOption "motor3" fun values d => { d with third := d.third ++ values }])
    ({} : TrajectoryDraft)
    fun d => do
      return .trajectory (d.id.getD 0) (d.start.getD 0) (← d.duration)
        ⟨← given d.first, ← given d.second, ← given d.third⟩

/-- Reads the command to send, by the name of its subcommand. -/
def readSendAction (name : String) (words : List String) : Except Stop (Shared × SendAction) :=
  match name with
  | "estop" => readEmergencyStop words
  | "mode" => readSetMode words
  | "home" => readStartHoming words
  | "jog" => readJog words
  | "zero" => readSetZeroOffset words
  | "trajectory" => readTrajectory words
  | _ => .error .misuse

/-! ## Requests -/

/-- A request to send, as far as it is given. -/
structure SendDraft where
  board : Option Address := none
  segment : Option Segment := none
  dryRun : Bool := false
  datagram : Bool := false
  timeout : Option String := none
  ports : PortsDraft := {}

def sendLevel : Level (Draft SendDraft) :=
  level ["send"]
    ([valued "segment" (once (·.segment) (fun v s => { s with segment := some v }) segment)
        (some 's'),
      flagged "dry-run" (raise (·.dryRun) fun s => { s with dryRun := true }),
      flagged "datagram" (raise (·.datagram) fun s => { s with datagram := true }),
      valued "timeout" (once (·.timeout) (fun v s => { s with timeout := some v }) some)] ++
      portOptions (·.ports) fun ports s => { s with ports := ports })
    [place (once (·.board) (fun v s => { s with board := some v }) Address.ofText?)]

def readSend (words : List String) : Except Stop (Shared × Request) := do
  let parsed ← sendLevel.start { own := {} } words
  let (name, words) ← demand parsed.next
  let (shared, action) ← readSendAction name words
  let draft ← parsed.progress.settled
  let own := draft.own
  let board ← demand own.board
  return (shared.orElse draft.shared, .send
    { board := board, segment := own.segment.getD ⟨0⟩, dryRun := own.dryRun,
      datagram := own.datagram, timeout := own.timeout.getD "5s", ports := own.ports.ports,
      action := action })

structure ListenDraft where
  board : Option Address := none
  count : Option Nat := none
  timeout : Option String := none
  ports : PortsDraft := {}

def readListen : List String → Except Stop (Shared × Request) :=
  complete
    (level ["listen"]
      ([valued "count" (once (·.count) (fun v s => { s with count := some v }) count),
        valued "timeout" (once (·.timeout) (fun v s => { s with timeout := some v }) some)] ++
        portOptions (·.ports) fun ports s => { s with ports := ports })
      [place (once (·.board) (fun v s => { s with board := some v }) Address.ofText?)])
    ({} : ListenDraft)
    fun d => do
      return .listen
        { board := ← d.board, count := d.count, timeout := d.timeout.getD "5s",
          ports := d.ports.ports }

structure DecodeDraft where
  hex : Option String := none
  direction : Option Direction := none

def readDecode : List String → Except Stop (Shared × Request) :=
  complete
    (level ["decode"]
      [valued "direction" (once (·.direction) (fun v s => { s with direction := some v })
        (choice [("command", .masterToBoard), ("feedback", .boardToMaster)]))]
      [place (once (·.hex) (fun v s => { s with hex := some v }) some)])
    ({} : DecodeDraft)
    fun d => do
      return .decode { hex := ← d.hex, direction := d.direction.getD .masterToBoard }

structure SimulateDraft where
  address : Option Address := none
  segment : Option UInt8 := none
  animation : Option Animation := none
  rate : Option UInt32 := none
  diagnosticsEvery : Option UInt32 := none
  count : Option Nat := none
  ports : PortsDraft := {}

def readSimulate : List String → Except Stop (Shared × Request) :=
  complete
    (level ["mock-board"]
      ([valued "segment" (once (·.segment) (fun v s => { s with segment := some v }) byte)
          (some 's'),
        valued "animation" (once (·.animation) (fun v s => { s with animation := some v })
          (choice (Animation.all.map fun animation => (animation.name, animation)))),
        valued "rate-hz" (once (·.rate) (fun v s => { s with rate := some v }) word32),
        valued "diagnostics-every"
          (once (·.diagnosticsEvery) (fun v s => { s with diagnosticsEvery := some v }) word32),
        valued "count" (once (·.count) (fun v s => { s with count := some v }) count)] ++
        portOptions (·.ports) fun ports s => { s with ports := ports })
      [place (once (·.address) (fun v s => { s with address := some v }) Address.ofText?)])
    ({} : SimulateDraft)
    fun d => do
      return .simulate
        { address := ← d.address, segment := ⟨d.segment.getD 0⟩,
          animation := d.animation.getD .rotate, rate := d.rate.getD 100,
          diagnosticsEvery := d.diagnosticsEvery.getD 100, count := d.count,
          ports := d.ports.ports }

def readVersion : List String → Except Stop (Shared × Request) :=
  complete
    (level ["version"] [flagged "extended" (raise id fun _ => true)])
    false
    fun extended => some (.version extended)

/-- Reads a request, by the name of its subcommand. -/
def readRequest (name : String) (words : List String) : Except Stop (Shared × Request) :=
  match name with
  | "send" => readSend words
  | "listen" => readListen words
  | "decode" => readDecode words
  | "mock-board" => readSimulate words
  | "version" => readVersion words
  | _ => .error .misuse

def programLevel : Level (Draft Unit) :=
  level [] [{ name := "version", letter := some 'V', action := .help }]

/-- Reads the words of a command line. -/
def Invocation.ofWords (words : List String) : Except Stop Invocation := do
  let parsed ← programLevel.start { own := () } words
  let (name, words) ← demand parsed.next
  let (shared, request) ← readRequest name words
  let draft ← parsed.progress.settled
  return ⟨(shared.orElse draft.shared).format, request⟩

end MotionLink.CommandLine
