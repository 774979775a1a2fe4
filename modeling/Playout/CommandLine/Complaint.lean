import Playout.Decimal.Seconds
import Playout.Renderer.Basic
import Playout.Source.Chunk

/-!
# Complaints

What the program says when a command fails: what failed, and below it what caused that, from the
outermost cause to the innermost.
-/

namespace Playout.CommandLine

/-- A failure with its causes. -/
structure Complaint where
  message : String
  causes : List String := []
  deriving DecidableEq, Repr

namespace Complaint

/-- The cause with the given number. Numbers are set to the right in five places. -/
def numbered (number : Nat) (cause : String) : String :=
  let text := toString number
  String.ofList (List.replicate (5 - text.length) ' ') ++ text ++ ": " ++ cause ++ "\n"

/-- The lines for the causes; a single one has no number. -/
def causesText : List String → String
  | [] => ""
  | [cause] => "\nCaused by:\n    " ++ cause ++ "\n"
  | causes =>
    "\nCaused by:\n" ++ String.join (causes.zipIdx.map fun (cause, number) => numbered number cause)

def text (c : Complaint) : String := "Error: " ++ c.message ++ "\n" ++ causesText c.causes

/-- The failure of something larger. -/
def within (c : Complaint) (message : String) : Complaint := ⟨message, c.message :: c.causes⟩

def ofSource (e : SourceError) : Complaint :=
  match e with
  | .fileOpen cause => ⟨e.message, [cause.message]⟩
  | e => ⟨e.message, []⟩

def ofRender (e : RenderError) : Complaint :=
  match e with
  | .hardware cause => ⟨e.message, [cause.message]⟩
  | e => ⟨e.message, []⟩

end Complaint

end Playout.CommandLine
