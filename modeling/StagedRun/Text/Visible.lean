/-!
# What a terminal would show of a text

A text that is shown inside a message must not move the cursor or change attributes, so
`Text.visible` drops what a terminal would act upon: control characters other than blanks and line
breaks, and the sequences that start with an escape character.

A sequence ends at its final character, which is an ASCII one, and a character beyond ASCII on the
way to it is dropped.  A short sequence and a control sequence are also broken off by a blank or a
line break, which is then shown.  A string has no final character: it ends at the byte
`Text.stringEnd`, also where that byte is a part of a character.
-/

namespace StagedRun.Text

/-- Where in a sequence a reader stands. -/
inductive Mode where
  /-- In text. -/
  | ground
  /-- After an escape character. -/
  | escape
  /-- Among the characters that qualify the final one of a short sequence. -/
  | qualified
  /-- Among the parameters of a control sequence. -/
  | control
  /-- In a command that a bell ends. -/
  | command
  /-- At the start of a string for a device, before its parameters. -/
  | device
  /-- Among the parameters of a string for a device. -/
  | deviceParameters
  /-- Among the characters that qualify the first one of the contents of a string for a device. -/
  | deviceQualified
  /-- In the contents of a string. -/
  | string
  deriving DecidableEq, Repr

/-- The byte that ends the contents of a string. -/
def stringEnd : UInt8 := 0x9C

/-- Whether a control character is a blank or a line break. -/
def isBreak (c : Char) : Bool :=
  c == '\t' || c == '\n' || c == '\x0c' || c == '\r'

/-- Whether a character beyond ASCII is shown by a reader in a mode, and the mode after it. -/
def Mode.stepBeyond (mode : Mode) (c : Char) : Bool × Mode :=
  match mode with
  | .ground => (true, .ground)
  | .string => (false, if (String.utf8EncodeChar c).contains stringEnd then .ground else .string)
  | mode => (false, mode)

/-- The mode after a graphic ASCII character, by its number, among those with which a string for a
device starts.  `parameters` is the mode after one that belongs to a parameter. -/
def Mode.ofDevice (parameters : Mode) (n : Nat) : Mode :=
  if n < 0x30 then .deviceQualified else if n < 0x40 then parameters else .string

/-- Whether a character is shown by a reader in a mode, and the mode after it. -/
def Mode.step (mode : Mode) (c : Char) : Bool × Mode :=
  let n := c.toNat
  if n = 0x1B then (false, .escape)
  else if n = 0x18 || n = 0x1A then (false, .ground)
  else if 0x80 ≤ n then mode.stepBeyond c
  else if n < 0x20 then
    match mode with
    | .ground => (isBreak c, .ground)
    | .escape | .qualified | .control => if isBreak c then (true, .ground) else (false, mode)
    | .command => (false, if n = 0x07 then .ground else .command)
    | .device | .deviceParameters | .deviceQualified | .string => (false, mode)
  else if n = 0x7F then (false, mode)
  else
    match mode with
    | .ground => (true, .ground)
    | .escape =>
      if n < 0x30 then (false, .qualified)
      else if c = '[' then (false, .control)
      else if c = ']' then (false, .command)
      else if c = 'P' then (false, .device)
      else if c = 'X' || c = '^' || c = '_' then (false, .string)
      else (false, .ground)
    | .qualified => (false, if n < 0x30 then .qualified else .ground)
    | .control => (false, if n < 0x40 then .control else .ground)
    | .command => (false, .command)
    | .device => (false, Mode.ofDevice .deviceParameters n)
    | .deviceParameters =>
      (false, Mode.ofDevice (if n < 0x3C then .deviceParameters else .string) n)
    | .deviceQualified => (false, Mode.ofDevice .string n)
    | .string => (false, .string)

/-- The characters that a reader in a mode shows. -/
def Mode.shown (mode : Mode) : List Char → List Char
  | [] => []
  | c :: rest =>
    let next := mode.step c
    if next.1 then c :: next.2.shown rest else next.2.shown rest

/-- A text without what a terminal would act upon. -/
def visible (s : String) : String :=
  String.ofList (Mode.ground.shown s.toList)

/-- A text in which every line but the first is moved to the right. -/
def hanging (columns : Nat) (s : String) : String :=
  String.ofList (s.toList.flatMap fun c =>
    if c = '\n' then '\n' :: List.replicate columns ' ' else [c])

end StagedRun.Text
