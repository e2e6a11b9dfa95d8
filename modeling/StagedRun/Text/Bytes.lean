/-!
# Text from outside the program

Arguments, environment values, file names and file contents are sequences of bytes that need not
be UTF-8.  This module reads such a sequence as a sequence of `Text.Piece`s: the characters that
it encodes, and between them the runs of bytes that encode none.  Everything else is said through
`Text.pieces`:

* `Text.decode?` answers the text when every piece is a character;
* `Text.lossy` shows every run that encodes nothing as one replacement character.

## Runs that encode nothing

A run ends as soon as the bytes read so far can no longer begin a character.  So a lone leading
byte is a run of one byte, a leading byte with some of its continuation bytes is one run, and the
byte that broke the run is read afresh.  This is why `continues` is asked about the second byte of
every sequence: after some leading bytes only a part of the continuation bytes can stand, because
the others would encode a character that has a shorter form, a surrogate, or a number beyond the
last character.
-/

namespace StagedRun

/-- Bytes as they are handed over by the system. -/
abbrev ByteString := List UInt8

namespace Text

/-! ## Writing -/

/-- The UTF-8 form of a text. -/
def encode (s : String) : ByteString :=
  s.toList.flatMap String.utf8EncodeChar

@[simp] theorem encode_empty : encode "" = [] := by
  simp [encode]

theorem encode_append (s t : String) : encode (s ++ t) = encode s ++ encode t := by
  simp [encode, String.toList_append]

/-! ## Reading -/

/-- What a reader of UTF-8 finds next: a character, or bytes that encode none. -/
inductive Piece where
  | char (c : Char)
  | stray (bytes : ByteString)
  deriving DecidableEq, Repr

/-- Whether `b` can stand at the third or fourth place of a character. -/
def isTail (b : UInt8) : Bool :=
  0x80 ≤ b && b ≤ 0xBF

/-- Whether `b` can stand right after the leading byte `a`. -/
def continues (a b : UInt8) : Bool :=
  if a = 0xE0 then 0xA0 ≤ b && b ≤ 0xBF
  else if a = 0xED then 0x80 ≤ b && b ≤ 0x9F
  else if a = 0xF0 then 0x90 ≤ b && b ≤ 0xBF
  else if a = 0xF4 then 0x80 ≤ b && b ≤ 0x8F
  else isTail b

/-- The six bits that a continuation byte carries. -/
def payload (b : UInt8) : Nat :=
  b.toNat % 64

/-- Reads bytes from left to right. -/
def pieces : ByteString → List Piece
  | [] => []
  | a :: rest =>
    if a < 0x80 then
      .char (Char.ofNat a.toNat) :: pieces rest
    else if 0xC2 ≤ a && a ≤ 0xDF then
      match rest with
      | [] => [.stray [a]]
      | b :: more =>
        if continues a b then
          .char (Char.ofNat (a.toNat % 32 * 64 + payload b)) :: pieces more
        else .stray [a] :: pieces (b :: more)
    else if 0xE0 ≤ a && a ≤ 0xEF then
      match rest with
      | [] => [.stray [a]]
      | [b] => if continues a b then [.stray [a, b]] else .stray [a] :: pieces [b]
      | b :: c :: more =>
        if continues a b then
          if isTail c then
            .char (Char.ofNat ((a.toNat % 16 * 64 + payload b) * 64 + payload c)) :: pieces more
          else .stray [a, b] :: pieces (c :: more)
        else .stray [a] :: pieces (b :: c :: more)
    else if 0xF0 ≤ a && a ≤ 0xF4 then
      match rest with
      | [] => [.stray [a]]
      | [b] => if continues a b then [.stray [a, b]] else .stray [a] :: pieces [b]
      | [b, c] =>
        if continues a b then
          if isTail c then [.stray [a, b, c]] else .stray [a, b] :: pieces [c]
        else .stray [a] :: pieces [b, c]
      | b :: c :: d :: more =>
        if continues a b then
          if isTail c then
            if isTail d then
              .char (Char.ofNat
                (((a.toNat % 8 * 64 + payload b) * 64 + payload c) * 64 + payload d))
                :: pieces more
            else .stray [a, b, c] :: pieces (d :: more)
          else .stray [a, b] :: pieces (c :: d :: more)
        else .stray [a] :: pieces (b :: c :: d :: more)
    else .stray [a] :: pieces rest

/-- The characters of a list of pieces, if there is nothing else in it. -/
def Piece.characters? : List Piece → Option (List Char)
  | [] => some []
  | .char c :: rest => (characters? rest).map (c :: ·)
  | .stray _ :: _ => none

/-- The text that bytes encode, if they encode one. -/
def decode? (bytes : ByteString) : Option String :=
  (Piece.characters? (pieces bytes)).map String.ofList

/-- Whether bytes encode a text. -/
def isUtf8 (bytes : ByteString) : Bool :=
  (decode? bytes).isSome

/-- What stands for a run of bytes that encode nothing. -/
def replacement : Char := Char.ofNat 0xFFFD

/-- A piece as a character. -/
def Piece.shown : Piece → Char
  | .char c => c
  | .stray _ => replacement

/-- Bytes as text, with `replacement` for every run that encodes nothing. -/
def lossy (bytes : ByteString) : String :=
  String.ofList ((pieces bytes).map Piece.shown)

/-! ## Reading text that is well formed -/

theorem Piece.map_shown_of_characters? {ps : List Piece} {cs : List Char}
    (h : Piece.characters? ps = some cs) : ps.map Piece.shown = cs := by
  induction ps generalizing cs with
  | nil => simpa [Piece.characters?] using h
  | cons p rest ih =>
    cases p with
    | char c =>
      obtain ⟨ds, hds, rfl⟩ := Option.map_eq_some_iff.1 h
      simp [Piece.shown, ih hds]
    | stray bytes => simp [Piece.characters?] at h

/-- Nothing is replaced in bytes that encode a text. -/
theorem lossy_of_decode? {bytes : ByteString} {s : String} (h : decode? bytes = some s) :
    lossy bytes = s := by
  obtain ⟨cs, hcs, rfl⟩ := Option.map_eq_some_iff.1 h
  simp [lossy, Piece.map_shown_of_characters? hcs]

end Text

end StagedRun
