import StagedRun.Text.Bytes
import StagedRun.Text.Marks

/-!
# Quoted text and labelled values

The forms in which diagnostics show values, so that a reader can tell where each one ends.

* `Text.quote` writes a text between double quotes, and `Text.quoteBytes` does the same for bytes,
  showing a byte that is no part of a character by its number.
* `Text.record` writes a value with named fields, `Text.wrapped` a value with one unnamed field.
-/

namespace StagedRun.Text

/-! ## Quoting -/

/-- A number in base sixteen, in lower case and without leading zeros. -/
def hex (n : Nat) : List Char :=
  Nat.toDigits 16 n

/-- A character inside quotes.  Quotes and backslashes are escaped, and so is every character
without a mark of its own: five of them by a letter or a digit, the others by their number. -/
def escape (c : Char) : List Char :=
  if c = '\x00' then ['\\', '0']
  else if c = '\t' then ['\\', 't']
  else if c = '\n' then ['\\', 'n']
  else if c = '\r' then ['\\', 'r']
  else if c = '\x22' then ['\\', '\x22']
  else if c = '\\' then ['\\', '\\']
  else if hasMark c then [c]
  else ['\\', 'u', '\x7b'] ++ hex c.toNat ++ ['\x7d']

/-- A byte inside quotes, by its number: two digits in upper case. -/
def escapeByte (b : UInt8) : List Char :=
  ['\\', 'x'] ++ (hex (b.toNat / 16) ++ hex (b.toNat % 16)).map Char.toUpper

/-- A piece of text inside quotes. -/
def Piece.escaped : Piece → List Char
  | .char c => escape c
  | .stray bytes => bytes.flatMap escapeByte

/-- Characters between double quotes. -/
def between (inside : List Char) : String :=
  String.ofList ('\x22' :: inside ++ ['\x22'])

/-- A text between double quotes. -/
def quote (s : String) : String :=
  between (s.toList.flatMap escape)

/-- Bytes between double quotes. -/
def quoteBytes (bytes : ByteString) : String :=
  between ((pieces bytes).flatMap Piece.escaped)

/-! ## Labelled values -/

/-- A text in curly brackets. -/
def braced (inside : String) : String :=
  "\x7b" ++ inside ++ "\x7d"

/-- A value with named fields, in the order given. -/
def record (name : String) (fields : List (String × String)) : String :=
  name ++ " " ++
    braced (" " ++ ", ".intercalate (fields.map fun field => field.1 ++ ": " ++ field.2) ++ " ")

/-- A value with one unnamed field. -/
def wrapped (name field : String) : String :=
  name ++ "(" ++ field ++ ")"

/-- A value that may be absent. -/
def optional : Option String → String
  | none => "None"
  | some field => wrapped "Some" field

end StagedRun.Text
