import Playout.Decimal.Reading
import Playout.Decimal.Shortest

/-!
# What the command line offers

The commands with their options, and the values that options take. Options of `commonOptions` may
stand before or behind the name of a command.
-/

namespace Playout.CommandLine

/-- The name that the program goes by. -/
def programName : String := "roger-renderer"

def programVersion : String := "0.1.0"

def programAbout : String :=
  "Clock-synchronized audio renderer streaming timestamped samples into a hardware ring buffer"

/-- What an option expects. -/
inductive ValueKind
  /-- A whole number of a range. -/
  | whole (low high : Int)
  /-- A whole number of 64 bits. -/
  | count
  | real
  | path
  deriving DecidableEq, Repr

/-- A value that was read. -/
inductive Value
  | number (n : Int)
  | real (x : Float)
  | path (name : String)
  deriving Repr

def Value.text : Value → String
  | number n => toString n
  | real x => Decimal.shortest x
  | path name => name

/-- Why a value is refused. -/
inductive ValueError
  | number (e : Decimal.NumberError)
  | outOfRange (n low high : Int)
  deriving DecidableEq, Repr

def ValueError.message : ValueError → String
  | number e => e.message
  | outOfRange n low high =>
    toString n ++ " is not in " ++ toString low ++ "..=" ++ toString high

/-- Reads a value. -/
def ValueKind.read (kind : ValueKind) (text : String) : Except ValueError Value :=
  match kind with
  | whole low high =>
    match Decimal.readSigned text with
    | .error e => .error (.number e)
    | .ok n => if low ≤ n ∧ n ≤ high then .ok (.number n) else .error (.outOfRange n low high)
  | count =>
    match Decimal.readUnsigned text with
    | .error e => .error (.number e)
    | .ok n => .ok (.number n)
  | real =>
    match Decimal.readDouble text with
    | .error e => .error (.number e)
    | .ok x => .ok (.real x)
  | path => .ok (.path text)

/-- What an option expects behind it, and what holds without the option. -/
structure Argument where
  /-- The name under which a description speaks of the value. -/
  name : String
  kind : ValueKind
  /-- The value in the absence of another one. -/
  default : Value
  /-- Whether the value may begin with a hyphen. -/
  hyphens : Bool := false
  deriving Repr

/-- An option. One without an argument is switched on by its presence. -/
structure CommandOption where
  long : String
  short : Option Char := none
  argument : Option Argument := none
  help : String
  deriving Repr

/-- The option with the name of its value. -/
def CommandOption.shape (o : CommandOption) : String :=
  match o.argument with
  | some a => "--" ++ o.long ++ " <" ++ a.name ++ ">"
  | none => "--" ++ o.long

def word16 : ValueKind := .whole 0 0xFFFF

def word32 : ValueKind := .whole 0 0xFFFFFFFF

def signed32 : ValueKind := .whole (-0x80000000) 0x7FFFFFFF

namespace Options

def bufferMs : CommandOption :=
  { long := "buffer-ms", short := some 'b', help := "Hardware buffer length in milliseconds"
    argument := some { name := "BUFFER_MS", kind := .count, default := .number 1000 } }

def maxFillMs : CommandOption :=
  { long := "max-fill-ms", help := "Block writes once this much audio is queued (milliseconds)"
    argument := some { name := "MAX_FILL_MS", kind := .count, default := .number 150 } }

def maxLagMs : CommandOption :=
  { long := "max-lag-ms"
    help := "Timestamp drift tolerated before skipping or padding (milliseconds)"
    argument := some { name := "MAX_LAG_MS", kind := .count, default := .number 50 } }

def volume : CommandOption :=
  { long := "volume", help := "Volume in hundredths of a dB (-10000..=0)"
    argument := some
      { name := "VOLUME", kind := signed32, default := .number 0, hyphens := true } }

def pan : CommandOption :=
  { long := "pan", help := "Pan (-10000 left ..= 10000 right)"
    argument := some
      { name := "PAN", kind := signed32, default := .number 0, hyphens := true } }

def noClock : CommandOption :=
  { long := "no-clock", help := "Ignore timestamps and write samples back to back" }

def lockMemory : CommandOption :=
  { long := "lock-memory", help := "Lock the output buffer in memory (mlock)" }

def verbose : CommandOption :=
  { long := "verbose", short := some 'v', help := "Show verbose output" }

def freq : CommandOption :=
  { long := "freq", help := "Tone frequency in Hz"
    argument := some { name := "FREQ", kind := .real, default := .real 440 } }

def secs : CommandOption :=
  { long := "secs", help := "Duration in seconds"
    argument := some { name := "SECS", kind := .real, default := .real 2 } }

def rate : CommandOption :=
  { long := "rate", help := "Sample rate in Hz"
    argument := some { name := "RATE", kind := word32, default := .number 44100 } }

def channels : CommandOption :=
  { long := "channels", help := "Channel count"
    argument := some { name := "CHANNELS", kind := word16, default := .number 2 } }

def bits : CommandOption :=
  { long := "bits", help := "Bits per sample (8, 16, 24 or 32)"
    argument := some { name := "BITS", kind := word16, default := .number 16 } }

end Options

/-- The options of every command, in the order of their description. -/
def commonOptions : List CommandOption :=
  [Options.bufferMs, Options.maxFillMs, Options.maxLagMs, Options.volume, Options.pan,
    Options.noClock, Options.lockMemory, Options.verbose]

/-- The options of the tone alone. -/
def toneOptions : List CommandOption :=
  [Options.freq, Options.secs, Options.rate, Options.channels, Options.bits]

/-- The commands. -/
inductive CommandName
  | play
  | tone
  | info
  deriving DecidableEq, Repr

namespace CommandName

def all : List CommandName := [play, tone, info]

def text : CommandName → String
  | play => "play"
  | tone => "tone"
  | info => "info"

def ofText? (s : String) : Option CommandName := all.find? (·.text = s)

def about : CommandName → String
  | play => "Render an audio file"
  | tone => "Render a sine tone"
  | info => "Show file information and the buffer it would use"

/-- What is said of the file that the command works on, if it works on one. -/
def fileHelp : CommandName → Option String
  | play => some "Audio file to render"
  | tone => none
  | info => some "Audio file to inspect"

/-- The options that belong to the command alone. -/
def options : CommandName → List CommandOption
  | tone => toneOptions
  | play | info => []

theorem ofText?_text (c : CommandName) : ofText? c.text = some c := by
  cases c <;> rfl

end CommandName

/-! ### What was asked for -/

/-- The settings that all commands share. -/
structure Settings where
  bufferMs : Nat
  maxFillMs : Nat
  maxLagMs : Nat
  volume : Int
  pan : Int
  noClock : Bool
  lockMemory : Bool
  deriving DecidableEq, Repr

inductive Command
  | play (file : String)
  | tone (frequency seconds : Float) (rate channels bits : Nat)
  | info (file : String)
  deriving Repr

/-- A command with its settings. -/
structure Invocation where
  settings : Settings
  command : Command
  deriving Repr

/-- The file that a command reads. -/
def Command.file? : Command → Option String
  | play file | info file => some file
  | tone .. => none

end Playout.CommandLine
