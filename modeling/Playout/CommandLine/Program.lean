import Playout.CommandLine.Help
import Playout.CommandLine.Playback

/-!
# The program

From arguments, and what the paths in them lead to, to everything the program prints and the code
with which it exits.
-/

namespace Playout.CommandLine

/-- A run of the program. -/
structure Transcript where
  /-- The exit code, unless the program waits for ever. -/
  exit : Option Nat
  /-- What goes to the standard output, in order. -/
  printed : List Printed := []
  /-- What goes to the standard error, at the end. -/
  complaint : String := ""
  deriving DecidableEq, Repr

namespace Transcript

/-- All of the standard output. -/
def output (t : Transcript) : String := String.join (t.printed.map (·.text))

/-- A run that prints at once and is over. -/
def atOnce (exit : Nat) (text : String) : Transcript :=
  { exit := some exit, printed := [⟨0, text⟩] }

/-- A run that fails before anything is printed. -/
def ofComplaint (c : Complaint) : Transcript := { exit := some 1, complaint := c.text }

/-- The run behind arguments that name no command to run. -/
def ofStop : Stop → Transcript
  | .usage e => { exit := some 2, complaint := e.text }
  | .help topic => atOnce 0 topic.help
  | .version => atOnce 0 versionText

end Transcript

/-- The description of a file and of the buffer that it would be rendered with. -/
def fileReport (path : String) (f : AudioFile) (s : Settings) : String :=
  let depth := match f.info.bitDepth with
    | some bits => toString bits
    | none => "unknown"
  let duration := match f.info.seconds with
    | some seconds => Decimal.fixed 2 seconds ++ "s"
    | none => "unknown"
  "=== " ++ path ++ " ===\n\n"
    ++ "Container:  " ++ f.container ++ "\n"
    ++ "Codec:      " ++ f.info.encoding.name ++ "\n"
    ++ "Sample rate: " ++ toString f.info.sampleRate ++ " Hz\n"
    ++ "Channels:   " ++ toString f.info.channels ++ "\n"
    ++ "Bit depth:  " ++ depth ++ "\n"
    ++ "Duration:   " ++ duration ++ "\n\n"
    ++ "Output:     " ++ f.format.text ++ "\n"
    ++ "Buffer:     " ++ toString (s.config.bufferBytes f.format) ++ " bytes ("
    ++ toString s.bufferMs ++ " ms)\n"

/-- Opens the file of a command. -/
def openFile (path : String) (entry : Except OpenError Entry) : Except Complaint AudioFile :=
  match AudioFile.create path entry with
  | .ok f => .ok f
  | .error e => .error ((Complaint.ofSource e).within ("failed to open " ++ path))

/-- Opens the tone that was asked for. -/
def openTone (frequency seconds : Float) (rate channels bits : Nat) :
    Except Complaint ToneSource :=
  match Duration.ofFloat seconds with
  | .error e => .error ⟨"invalid tone duration", [e.message]⟩
  | .ok duration =>
    match ToneSource.create frequency duration (.pcm rate channels bits) with
    | .error e => .error (.ofSource e)
    | .ok tone => .ok tone

/-- Renders a source under a title. -/
def renderUnder (title : String) (source : Source) (s : Settings) : Transcript :=
  let title : Printed := ⟨0, programName ++ " - " ++ title ++ "\n"⟩
  match Renderer.create s.device s.config with
  | .error e => { exit := some 1, printed := [title], complaint := (Complaint.ofRender e).text }
  | .ok renderer =>
    let (ending, playback) := ((Run.render source s).run).run { renderer, printed := [title] }
    let printed := playback.printed.reverse
    match ending with
    | .ok () => { exit := some 0, printed }
    | .error (.failed c) => { exit := some 1, printed, complaint := c.text }
    | .error .endless => { exit := none, printed }

/-- Runs a command, given what the path of its file leads to. -/
def Invocation.run (i : Invocation) (find : String → Except OpenError Entry) : Transcript :=
  match i.command with
  | .info path =>
    match openFile path (find path) with
    | .error c => .ofComplaint c
    | .ok f => .atOnce 0 (fileReport path f i.settings)
  | .play path =>
    match openFile path (find path) with
    | .error c => .ofComplaint c
    | .ok f => renderUnder ("Playing: " ++ path) (.file f) i.settings
  | .tone frequency seconds rate channels bits =>
    match openTone frequency seconds rate channels bits with
    | .error c => .ofComplaint c
    | .ok tone =>
      renderUnder ("Tone: " ++ Decimal.shortest frequency ++ " Hz for " ++ Decimal.fixed 1 seconds
        ++ "s") (.tone tone) i.settings

/-- Runs the program. -/
def runProgram (args : List String) (find : String → Except OpenError Entry) : Transcript :=
  match Invocation.ofArguments args with
  | .error stop => .ofStop stop
  | .ok invocation => invocation.run find

end Playout.CommandLine
