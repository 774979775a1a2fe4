/-!
# What the sound hardware may refuse
-/

namespace Playout

/-- Why no buffer was created. -/
inductive CreateFault
  /-- The device was told to refuse. -/
  | injected
  | empty
  deriving DecidableEq, Repr

/-- Which control was told to refuse. -/
inductive ControlFault
  /-- Volume or pan. -/
  | level
  | play
  | stop
  deriving DecidableEq, Repr

/-- A failure of the sound hardware. -/
inductive TransportError
  | createFailed (cause : CreateFault)
  | lockFailed (offset len : Nat)
  | cursorFailed
  | controlFailed (cause : ControlFault)
  | frequencyNotSupported (hz : Nat)
  | outOfMemory (bytes : Nat)
  deriving DecidableEq, Repr

def CreateFault.message : CreateFault → String
  | injected => "injected failure"
  | empty => "zero-sized buffer"

def ControlFault.message : ControlFault → String
  | level => "injected failure"
  | play => "injected play failure"
  | stop => "injected stop failure"

def TransportError.message : TransportError → String
  | createFailed cause => "failed to create sound buffer: " ++ cause.message
  | lockFailed offset len =>
    "failed to lock " ++ toString len ++ " bytes at offset " ++ toString offset
  | cursorFailed => "failed to query cursor position"
  | controlFailed cause => "playback control failed: " ++ cause.message
  | frequencyNotSupported hz => "frequency " ++ toString hz ++ " Hz not supported"
  | outOfMemory bytes => "out of memory allocating " ++ toString bytes ++ " bytes"

end Playout
