import Playout.CommandLine.Program

/-!
# The command line

Reads the arguments and the file that they name, runs the program and prints what it prints, each
piece when its time has come.
-/

open Playout Playout.CommandLine

/-- What a path leads to on this machine. -/
def lookUp (path : String) : IO (Except OpenError Entry) := do
  try
    return .ok (.file (← IO.FS.readBinFile path).toList)
  catch
    | .noFileOrDirectory .. => return .error .notFound
    | .permissionDenied .. => return .error .permissionDenied
    | .inappropriateType .. => return .ok .folder
    | _ => return .error .notADirectory

/-- Prints pieces of text, each no earlier than its time after `begun`, in milliseconds. -/
def printInTime (begun : Nat) : List Printed → IO Unit
  | [] => return
  | piece :: rest => do
    let now ← IO.monoMsNow
    let due := begun + piece.time / 1000000
    if now < due then IO.sleep (due - now).toUInt32
    let out ← IO.getStdout
    out.putStr piece.text
    out.flush
    printInTime begun rest

/-- Waits for ever. -/
partial def waitForever : IO UInt32 := do
  IO.sleep 1000
  waitForever

def main (args : List String) : IO UInt32 := do
  let begun ← IO.monoMsNow
  let transcript ← match Invocation.ofArguments args with
    | .error stop => pure (Transcript.ofStop stop)
    | .ok invocation =>
      match invocation.command.file? with
      | none => pure (invocation.run fun _ => .error .notFound)
      | some path =>
        let entry ← lookUp path
        pure (invocation.run fun _ => entry)
  printInTime begun transcript.printed
  match transcript.exit with
  | none => waitForever
  | some code => do
    (← IO.getStderr).putStr transcript.complaint
    return code.toUInt32
