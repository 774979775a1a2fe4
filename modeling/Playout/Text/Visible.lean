/-!
# What of a text is visible

A terminal shows most characters and acts upon others: control characters, and sequences that begin
with an escape character. `visible` keeps what is shown, and white space.

## Design points

* **A sequence is followed to its end,** and an unfinished one takes the rest of the text with it,
  up to the next white space.
* **Once something is shown, all is shown up to the next character that is not,** even in the
  middle of a sequence; the sequence then goes on where it was.
-/

namespace Playout.Text

/-- Where in a sequence a terminal is. -/
inductive SequencePart
  /-- Outside of any. -/
  | outside
  /-- Behind the escape character. -/
  | escape
  /-- Behind a character that announces one more. -/
  | escapeMore
  /-- Among the parameters of a control function. -/
  | parameters
  /-- In a command to the operating system, which a bell ends. -/
  | systemCommand
  /-- In front of the name of a device function. -/
  | deviceHead
  /-- In a text that is meant for a device. -/
  | deviceText
  deriving DecidableEq, Repr

namespace SequencePart

/-- Whether a code lies in a range. -/
def within (c : Char) (low high : Nat) : Bool := low ≤ c.toNat && c.toNat ≤ high

/-- The part behind the escape character and a further character. -/
def begun (c : Char) : SequencePart :=
  if within c 0x20 0x2F then escapeMore
  else if c = '[' then parameters
  else if c = ']' then systemCommand
  else if c = 'P' then deviceHead
  else if c = 'X' ∨ c = '^' ∨ c = '_' then deviceText
  else if within c 0x30 0x7E then outside
  else escape

/-- The byte that ends a text for a device, also in the middle of a character. -/
def deviceEnd : UInt8 := 0x9C

/-- The part behind a character. -/
def next (part : SequencePart) (c : Char) : SequencePart :=
  if c = '\x1b' then escape
  else if c = '\x18' ∨ c = '\x1a' then outside
  else
    match part with
    | outside => outside
    | escape => begun c
    | escapeMore => if within c 0x30 0x7E then outside else escapeMore
    | parameters => if within c 0x40 0x7E then outside else parameters
    | systemCommand => if c = '\x07' then outside else systemCommand
    | deviceHead => if within c 0x40 0x7E then deviceText else deviceHead
    | deviceText => if deviceEnd ∈ String.utf8EncodeChar c then outside else deviceText

/-- Whether white space is shown inside. -/
def passesBlanks : SequencePart → Bool
  | outside | escape | escapeMore | parameters => true
  | systemCommand | deviceHead | deviceText => false

/-- Whether a character is shown. -/
def shows (part : SequencePart) (c : Char) : Bool :=
  if c = '\t' ∨ c = '\n' ∨ c = '\x0c' ∨ c = '\r' then part.passesBlanks
  else part == outside && 0x20 ≤ c.toNat && c.toNat ≠ 0x7F

/-- What is shown of a text. Behind a character that is shown, the next one is looked at as if it
were outside of any sequence. A character that is not ASCII ends the sequence it is shown in. -/
def shown (part : SequencePart) (showing : Bool) : List Char → List Char
  | [] => []
  | c :: rest =>
    if (if showing then outside else part).shows c then
      c :: (if c.toNat < 0x80 then part else outside).shown true rest
    else (part.next c).shown false rest

/-- A text that is shown throughout is shown as it is. -/
theorem shown_outside (showing : Bool) {text : List Char}
    (h : ∀ c ∈ text, outside.shows c = true) : outside.shown showing text = text := by
  induction text generalizing showing with
  | nil => rfl
  | cons c rest ih =>
    have here := h c List.mem_cons_self
    have behind := ih true fun d hd => h d (List.mem_cons_of_mem c hd)
    cases showing <;> simp [shown, here, behind]

end SequencePart

/-- What is visible of a text. -/
def visible (s : String) : String := String.ofList (SequencePart.outside.shown false s.toList)

end Playout.Text
