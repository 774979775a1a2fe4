import Playout.CommandLine.Arguments
import Playout.Text.Visible

/-!
# Help, and what is said of wrong arguments

Descriptions are set in two columns: what to type, and what it does. Options are listed in the
order of their declaration, those of a command and the common ones side by side.

Words of the user are quoted without what would make a terminal act instead of show.
-/

namespace Playout.CommandLine

/-- `left` and `right` in columns, the first of them `width` wide. -/
def twoColumns (width : Nat) (left right : String) : String :=
  "  " ++ left ++ String.ofList (List.replicate (width - left.length + 2) ' ') ++ right ++ "\n"

/-- Rows in two columns under a heading. -/
def listing (heading : String) (rows : List (String × String)) : String :=
  let width := (rows.map (·.1.length)).foldl max 0
  heading ++ ":\n" ++ String.join (rows.map fun (left, right) => twoColumns width left right)

namespace CommandOption

/-- What to type for an option. -/
def entry (o : CommandOption) : String :=
  (match o.short with
    | some c => "-" ++ c.toString ++ ", "
    | none => "    ") ++ o.shape

/-- What an option does, with its default. -/
def description (o : CommandOption) : String :=
  match o.argument with
  | some a => o.help ++ " [default: " ++ a.default.text ++ "]"
  | none => o.help

def row (o : CommandOption) : String × String := (o.entry, o.description)

/-- The key of an option among those declared at the same place. -/
def sortKey (o : CommandOption) : String :=
  match o.short with
  | some c => c.toString ++ "0"
  | none => o.long

end CommandOption

/-- Options of two lists in the order of their places, at the same place in the order of their
keys. -/
def sideBySide : List CommandOption → List CommandOption → List CommandOption
  | [], rest => rest
  | rest, [] => rest
  | a :: as, b :: bs =>
    if a.sortKey < b.sortKey then a :: b :: sideBySide as bs else b :: a :: sideBySide as bs

/-- The options of a command with the common ones, which stand behind the commands in the
declaration of the program: the first of them has the place that follows the last command. -/
def CommandName.describedOptions (c : CommandName) : List CommandOption :=
  let ahead := CommandName.all.length
  c.options.take ahead ++ sideBySide (c.options.drop ahead) commonOptions

def helpRow : String × String := ("-h, --help", "Print help")

def versionRow : String × String := ("-V, --version", "Print version")

def helpAbout : String := "Print this message or the help of the given subcommand(s)"

namespace Topic

def about : Topic → String
  | program => programAbout
  | command c => c.about
  | helpItself => helpAbout

/-- What to type, in general. -/
def usage : Topic → String
  | program => "Usage: " ++ programName ++ " [OPTIONS] <COMMAND>\n"
  | command c =>
    "Usage: " ++ programName ++ " " ++ c.text ++ " [OPTIONS]"
      ++ (if c.fileHelp.isSome then " <FILE>" else "") ++ "\n"
  | helpItself => "Usage: " ++ programName ++ " help [COMMAND]...\n"

/-- The lists behind the usage. -/
def sections : Topic → List String
  | program =>
    [listing "Commands"
        (CommandName.all.map (fun c => (c.text, c.about)) ++ [("help", helpAbout)]),
      listing "Options" (commonOptions.map CommandOption.row ++ [helpRow, versionRow])]
  | command c =>
    (match c.fileHelp with
      | some help => [listing "Arguments" [("<FILE>", help)]]
      | none => [])
    ++ [listing "Options" (c.describedOptions.map CommandOption.row ++ [helpRow])]
  | helpItself =>
    [listing "Arguments" [("[COMMAND]...", "Print help for the subcommand(s)")]]

/-- The whole help. -/
def help (t : Topic) : String :=
  String.intercalate "\n" ([t.about ++ "\n", t.usage] ++ t.sections)

end Topic

def versionText : String := programName ++ " " ++ programVersion ++ "\n"

namespace UsageError

/-- What is wrong, in one line or a few. -/
def message : UsageError → String
  | unexpectedArgument text => "unexpected argument '" ++ Text.visible text ++ "' found"
  | unrecognizedCommand name => "unrecognized subcommand '" ++ Text.visible name ++ "'"
  | unneededValue value shape =>
    "unexpected value '" ++ Text.visible value ++ "' for '" ++ shape
      ++ "' found; no more were expected"
  | missingValue shape => "a value is required for '" ++ shape ++ "' but none was supplied"
  | invalidValue value shape e =>
    "invalid value '" ++ Text.visible value ++ "' for '" ++ shape ++ "': " ++ e.message
  | repeated shape => "the argument '" ++ shape ++ "' cannot be used multiple times"
  | missingFile => "the following required arguments were not provided:\n  <FILE>"
  | missingCommand => "'" ++ programName ++ "' requires a subcommand but one was not provided"
  | nothingGiven => ""

/-- All that is said. Without any arguments that is the help. -/
def text (e : UsageError) : String :=
  match e with
  | nothingGiven => Topic.program.help
  | e => "error: " ++ e.message ++ "\n\nFor more information, try '--help'.\n"

end UsageError

end Playout.CommandLine
