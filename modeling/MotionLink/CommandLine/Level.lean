/-!
# Reading command lines

A command line is read word by word at one level after the other: the program,
its subcommands, theirs. A level has options, by name (`--name`) and perhaps by
letter (`-n`), and words taken by their place. What has been read so far is
kept in a draft, which each option and place knows how to extend; it refuses a
value it cannot read, or a second one where there may be only one.

The value of an option may be attached to it (`--name=value`, `-nvalue`) or be
the next word. Such a word waits to be read until the next option or place
comes, or the level ends, and levels end from the inside out. So a request for
help is granted when it is met, whatever waits.
-/

namespace MotionLink.CommandLine

/-- Why a command line is no request. -/
inductive Stop where
  /-- It asks for help, or for the version, and nothing else. -/
  | help
  /-- It cannot be understood. -/
  | misuse
  deriving DecidableEq, Repr

/-- Reads a value into a draft, unless the draft refuses it. -/
abbrev Setter (σ : Type) := String → σ → Option σ

inductive Action (σ : Type) where
  | flag (set : σ → Option σ)
  /-- Takes a value, which may be a negative number if `negative` says so. -/
  | value (negative : Bool) (set : Setter σ)
  | help

structure OptionSpec (σ : Type) where
  name : String
  letter : Option Char := none
  action : Action σ

structure Place (σ : Type) where
  negative : Bool := false
  set : Setter σ

structure Level (σ : Type) where
  options : List (OptionSpec σ)
  places : List (Place σ) := []
  subcommands : List String := []
  /-- Whether there is help on a chain of subcommands. -/
  hasHelp : List String → Bool := fun _ => false

/-- A value that has not been read yet; none if the word has yet to come. -/
structure Waiting (σ : Type) where
  negative : Bool
  set : Setter σ
  word : Option String

/-- How far a level has been read. -/
structure Progress (σ : Type) where
  draft : σ
  /-- The places not yet taken. -/
  places : List (Place σ)
  waiting : Option (Waiting σ) := none
  /-- Whether all further words are taken by their place. -/
  escaped : Bool := false

/-- A level read to its end, or up to the name of a subcommand and the words after it. -/
structure Parsed (σ : Type) where
  progress : Progress σ
  next : Option (String × List String)

variable {σ : Type}

/-- The answer, unless there is none. -/
def demand {α : Type} : Option α → Except Stop α
  | some answer => .ok answer
  | none => .error .misuse

namespace Progress

/-- Whether the next word is the value of an option. -/
def awaitsWord (p : Progress σ) : Bool := p.waiting.any fun w => w.word.isNone

/-- The draft with the waiting value read. -/
def settled (p : Progress σ) : Except Stop σ :=
  match p.waiting with
  | none => .ok p.draft
  | some w => demand do w.set (← w.word) p.draft

/-- Reads the waiting value, then one more. -/
def take (p : Progress σ) (set : σ → Option σ) : Except Stop (Progress σ) := do
  let draft ← p.settled
  let draft ← demand (set draft)
  return { p with draft := draft, waiting := none }

/-- Reads the waiting value and waits for another. -/
def await (p : Progress σ) (w : Waiting σ) : Except Stop (Progress σ) := do
  let draft ← p.settled
  return { p with draft := draft, waiting := some w }

/-- Takes a word as the value that is waited for, or by its place. -/
def word (p : Progress σ) (word : String) : Except Stop (Progress σ) :=
  match p.waiting with
  | some w@⟨_, _, none⟩ => .ok { p with waiting := some { w with word := some word } }
  | _ =>
    match p.places with
    | [] => .error .misuse
    | place :: places => { p with places := places }.await ⟨place.negative, place.set, some word⟩

/-- Takes a word by its place, even where a value is waited for. -/
def placed (p : Progress σ) (word : String) : Except Stop (Progress σ) :=
  if p.awaitsWord then .error .misuse else p.word word

/-- Whether a word that looks like letters of options may be a negative number here. -/
def allowsNegative (p : Progress σ) : Bool :=
  p.waiting.any (fun w => w.word.isNone && w.negative) || p.places.head?.any (·.negative)

/-- Reads an option with the value attached to it, if any. -/
def option (p : Progress σ) (action : Action σ) (attached : Option String) :
    Except Stop (Progress σ) :=
  match action, attached with
  | .flag set, none => p.take set
  | .help, none => p.settled.bind fun _ => .error .help
  | .value _ set, some word => p.take (set word)
  | .value negative set, none => p.await ⟨negative, set, none⟩
  | .flag _, some _ | .help, some _ => .error .misuse

end Progress

/-- Whether digits stand for a number, with one point after the first of them
and one exponent without a sign after that, if need be. -/
def isNumber (text : List Char) : Bool :=
  let (whole, rest) := text.span Char.isDigit
  let rest :=
    match rest with
    | '.' :: rest => if whole.isEmpty then '.' :: rest else rest.dropWhile Char.isDigit
    | rest => rest
  match rest with
  | [] => true
  | mark :: digits =>
    (mark == 'e' || mark == 'E') && !whole.isEmpty && !digits.isEmpty && digits.all Char.isDigit

inductive Shape where
  | plain
  | escape
  | long (name : String) (attached : Option String)
  | letters (letters : List Char)

/-- The name of an option and the value attached to it with `=`. -/
def splitAttached (text : List Char) : String × Option String :=
  let name := String.ofList (text.takeWhile (· != '='))
  match text.dropWhile (· != '=') with
  | [] => (name, none)
  | _ :: value => (name, some (String.ofList value))

/-- How a word looks by its first characters. -/
def Shape.ofWord (word : String) : Shape :=
  match word.toList with
  | ['-', '-'] => .escape
  | '-' :: '-' :: text => let (name, attached) := splitAttached text; .long name attached
  | '-' :: letter :: rest => .letters (letter :: rest)
  | _ => .plain

namespace Level

/-- Reads an option given by name. -/
def long (level : Level σ) (p : Progress σ) (name : String) (attached : Option String) :
    Except Stop (Progress σ) := do
  let spec ← demand (level.options.find? (·.name == name))
  p.option spec.action attached

/-- Reads options given by letters; a value takes the letters that are left. -/
def letters (level : Level σ) : Progress σ → List Char → Except Stop (Progress σ)
  | p, [] => .ok p
  | p, letter :: rest => do
    let spec ← demand (level.options.find? (·.letter == some letter))
    match spec.action, rest with
    | .value _ _, '=' :: value => p.option spec.action (some (String.ofList value))
    | .value _ _, first :: more => p.option spec.action (some (String.ofList (first :: more)))
    | _, _ => level.letters (← p.option spec.action none) rest

/-- Reads a word that is not the name of a subcommand. -/
def word (level : Level σ) (p : Progress σ) (word : String) : Except Stop (Progress σ) :=
  if p.escaped then p.placed word
  else
    match Shape.ofWord word with
    | .plain => p.word word
    | .escape => .ok { p with escaped := true }
    | .long name attached => level.long p name attached
    | .letters letters =>
      if p.allowsNegative && isNumber letters then p.word word else level.letters p letters

/-- Reads words up to the name of a subcommand. -/
def parse (level : Level σ) : Progress σ → List String → Except Stop (Parsed σ)
  | p, [] => .ok ⟨p, none⟩
  | p, word :: words =>
    if !p.escaped && !p.awaitsWord && level.subcommands.contains word then
      if word = "help" then .error (if level.hasHelp words then .help else .misuse)
      else .ok ⟨p, some (word, words)⟩
    else do level.parse (← level.word p word) words

def start (level : Level σ) (draft : σ) (words : List String) : Except Stop (Parsed σ) :=
  level.parse { draft := draft, places := level.places } words

end Level

end MotionLink.CommandLine
