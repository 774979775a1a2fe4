import Playout.CommandLine.Options

/-!
# Reading the command line

Arguments are read from left to right, first on the level of the program and, behind the name of a
command, on the level of that command. What is wrong with them is found in the order in which they
are read, with one exception that `Level` is about.

## Design points

* **The value of an option is checked when the next option comes.** Until then it is pending, so
  an argument that is no option at all is noticed before a bad value in front of it.
* **A command is read to its end before the level above is finished,** so its mistakes come first.
* **Help stops the reading** wherever it is asked for.
-/

namespace Playout.CommandLine

/-- What is wrong with the arguments. -/
inductive UsageError
  | unexpectedArgument (text : String)
  | unrecognizedCommand (name : String)
  /-- A value was given to an option that takes none. -/
  | unneededValue (value shape : String)
  | missingValue (shape : String)
  | invalidValue (value shape : String) (e : ValueError)
  | repeated (shape : String)
  | missingFile
  | missingCommand
  /-- There were no arguments at all. -/
  | nothingGiven
  deriving DecidableEq, Repr

/-- What help is about. -/
inductive Topic
  | program
  | command (c : CommandName)
  | helpItself
  deriving DecidableEq, Repr

/-- Why reading stops without a command to run. -/
inductive Stop
  | usage (e : UsageError)
  | help (topic : Topic)
  | version
  deriving DecidableEq, Repr

/-- Something that takes a value. -/
inductive Slot
  | option (o : CommandOption) (a : Argument)
  | file
  deriving Repr

namespace Slot

/-- The name under which the value is kept. -/
def key : Slot → String
  | option o _ => o.long
  | file => "FILE"

def shape : Slot → String
  | option o _ => o.shape
  | file => "<FILE>"

/-- Reads a value. The name of a file must not be empty. -/
def read (s : Slot) (value : String) : Except UsageError Value :=
  match s with
  | option _ a =>
    match a.kind.read value with
    | .ok v => .ok v
    | .error e => .error (.invalidValue value s.shape e)
  | file => if value = "" then .error (.missingValue s.shape) else .ok (.path value)

end Slot

/-- A slot whose value is not read yet, or not even seen. -/
structure Pending where
  slot : Slot
  value : Option String
  deriving Repr

/-- How far the arguments of a level are read. -/
structure Level where
  /-- The command, below the level of the program. -/
  command : Option CommandName := none
  /-- The options given so far, with the values of those that have one. -/
  given : List (String × Option Value) := []
  pending : Option Pending := none
  /-- Whether the file of the command was named. -/
  named : Bool := false
  /-- Whether only names follow. -/
  plain : Bool := false
  deriving Repr

namespace Level

def options (l : Level) : List CommandOption :=
  match l.command with
  | none => commonOptions
  | some c => c.options ++ commonOptions

def topic (l : Level) : Topic :=
  match l.command with
  | none => .program
  | some c => .command c

/-- Whether the command works on a file that was not named yet. -/
def lacksFile (l : Level) : Bool :=
  !l.named && (l.command.bind CommandName.fileHelp).isSome

/-- Keeps an option, which must not have been given before. A value is not looked at otherwise. -/
def keep (l : Level) (key shape : String) (read : Except UsageError (Option Value)) :
    Except Stop Level :=
  if l.given.any (·.1 = key) then .error (.usage (.repeated shape))
  else
    match read with
    | .error e => .error (.usage e)
    | .ok value => .ok { l with given := (key, value) :: l.given }

/-- Reads a value into a slot. -/
def assign (l : Level) (slot : Slot) (value : String) : Except Stop Level :=
  l.keep slot.key slot.shape ((slot.read value).map some)

/-- Reads the value that is pending. -/
def resolve (l : Level) : Except Stop Level :=
  match l.pending with
  | none => .ok l
  | some ⟨slot, none⟩ => .error (.usage (.missingValue slot.shape))
  | some ⟨slot, some value⟩ => { l with pending := none }.assign slot value

/-- Whether an option waits for its value. -/
def expecting (l : Level) : Bool :=
  match l.pending with
  | some ⟨_, none⟩ => true
  | _ => false

/-- Whether an option waits for its value and takes anything for it. -/
def expectingAny (l : Level) : Bool :=
  match l.pending with
  | some ⟨.option _ a, none⟩ => a.hyphens
  | _ => false

/-- Takes the value that an option waits for. -/
def fill (l : Level) (value : String) : Level :=
  { l with pending := l.pending.map ({ · with value := some value }) }

/-- An option is named, perhaps with a value attached. -/
def option (l : Level) (o : CommandOption) (attached : Option String) : Except Stop Level := do
  match o.argument, attached with
  | some a, some value => (← l.resolve).assign (.option o a) value
  | some a, none => return { ← l.resolve with pending := some ⟨.option o a, none⟩ }
  | none, none => (← l.resolve).keep o.long o.shape (.ok none)
  | none, some value => .error (.usage (.unneededValue value o.shape))

/-- One of the options that every level understands by itself. -/
def stopAt (l : Level) (stop : Stop) : Except Stop Level := do
  let _ ← l.resolve
  .error stop

/-- An option by its long name. -/
def longOption (l : Level) (name : String) (attached : Option String) : Except Stop Level :=
  match l.options.find? (·.long = name) with
  | some o => l.option o attached
  | none =>
    if name = "help" ∨ name = "version" ∧ l.command.isNone then
      match attached with
      | some value => .error (.usage (.unneededValue value ("--" ++ name)))
      | none => l.stopAt (if name = "help" then .help l.topic else .version)
    else .error (.usage (.unexpectedArgument ("--" ++ name)))

/-- Options by their letters. What follows the letter of an option with a value is the value. -/
def shortOptions (l : Level) : List Char → Except Stop Level
  | [] => .ok l
  | c :: rest =>
    match l.options.find? (·.short = some c) with
    | some o =>
      if o.argument.isSome then
        match rest with
        | [] => l.option o none
        | '=' :: value => l.option o (some (String.ofList value))
        | value => l.option o (some (String.ofList value))
      else do shortOptions (← l.option o none) rest
    | none =>
      if c = 'h' then l.stopAt (.help l.topic)
      else if c = 'V' ∧ l.command.isNone then l.stopAt .version
      else .error (.usage (.unexpectedArgument ("-" ++ c.toString)))

/-- A name that belongs to no option. -/
def plainName (l : Level) (name : String) : Except Stop Level := do
  if l.lacksFile then
    return { ← l.resolve with named := true, pending := some ⟨.file, some name⟩ }
  else if l.command.isSome ∨ name = "help" ∨ (CommandName.ofText? name).isSome then
    .error (.usage (.unexpectedArgument name))
  else .error (.usage (.unrecognizedCommand name))

/-- The name and the attached value of a long option. -/
def splitValue (text : List Char) : String × Option String :=
  let name := String.ofList (text.takeWhile (· != '='))
  match text.dropWhile (· != '=') with
  | [] => (name, none)
  | _ :: value => (name, some (String.ofList value))

/-- Reads an argument. -/
def read (l : Level) (arg : String) : Except Stop Level :=
  if l.plain then l.plainName arg
  else if l.expectingAny then .ok (l.fill arg)
  else
    match arg.toList with
    | ['-', '-'] => .ok { l with plain := true }
    | '-' :: '-' :: text =>
      let (name, attached) := splitValue text
      l.longOption name attached
    | '-' :: c :: rest => l.shortOptions (c :: rest)
    | _ => if l.expecting then .ok (l.fill arg) else l.plainName arg

/-- The arguments are over. -/
def finish (l : Level) : Except Stop Level := do
  let l ← l.resolve
  if l.lacksFile then .error (.usage .missingFile) else .ok l

/-- Reads all arguments of a level. -/
def readAll (l : Level) : List String → Except Stop Level
  | [] => l.finish
  | arg :: args => do readAll (← l.read arg) args

end Level

/-- The topic that the arguments behind the command for help name. -/
def helpTopic : List String → Except Stop Topic
  | [] => .ok .program
  | name :: rest =>
    let topic := if name = "help" then some .helpItself
      else (CommandName.ofText? name).map Topic.command
    match topic, rest with
    | none, _ => .error (.usage (.unrecognizedCommand name))
    | some topic, [] => .ok topic
    | some _, next :: _ => .error (.usage (.unrecognizedCommand next))

/-- Reads the arguments of the program up to its command, and those of the command. -/
def readLevels (l : Level) : List String → Except Stop (Level × CommandName × Level)
  | [] => do
    let l ← l.resolve
    .error (.usage (if l.given.isEmpty then .nothingGiven else .missingCommand))
  | arg :: args =>
    let further (l : Level) := readLevels l args
    if l.plain ∨ l.expecting then l.read arg >>= further
    else if arg = "help" then do .error (.help (← helpTopic args))
    else
      match CommandName.ofText? arg with
      | none => l.read arg >>= further
      | some c => do
        let below ← ({ command := some c } : Level).readAll args
        return (← l.resolve, c, below)

/-! ### From options to a command -/

/-- What was given, the level of the command first. -/
abbrev Given := List (String × Option Value)

namespace Given

def has (g : Given) (o : CommandOption) : Bool := g.any (·.1 = o.long)

/-- The value of an option, or its default. -/
def value? (g : Given) (o : CommandOption) : Option Value :=
  match g.find? (·.1 = o.long) with
  | some (_, value) => value
  | none => o.argument.map (·.default)

/-- The value of an option for a whole number. -/
def whole (g : Given) (o : CommandOption) : Int :=
  match g.value? o with
  | some (.number n) => n
  | _ => 0

/-- The value of an option for a number. -/
def real (g : Given) (o : CommandOption) : Float :=
  match g.value? o with
  | some (.real x) => x
  | _ => 0

def file (g : Given) : String :=
  match g.find? (·.1 = Slot.file.key) with
  | some (_, some (.path name)) => name
  | _ => ""

def settings (g : Given) : Settings :=
  { bufferMs := (g.whole Options.bufferMs).toNat
    maxFillMs := (g.whole Options.maxFillMs).toNat
    maxLagMs := (g.whole Options.maxLagMs).toNat
    volume := g.whole Options.volume
    pan := g.whole Options.pan
    noClock := g.has Options.noClock
    lockMemory := g.has Options.lockMemory }

def command (g : Given) : CommandName → Command
  | .play => .play g.file
  | .info => .info g.file
  | .tone => .tone (g.real Options.freq) (g.real Options.secs) (g.whole Options.rate).toNat
      (g.whole Options.channels).toNat (g.whole Options.bits).toNat

end Given

/-- Reads the arguments of the program. -/
def Invocation.ofArguments (args : List String) : Except Stop Invocation := do
  let (above, name, below) ← readLevels {} args
  let given : Given := below.given ++ above.given
  return { settings := given.settings, command := given.command name }

end Playout.CommandLine
