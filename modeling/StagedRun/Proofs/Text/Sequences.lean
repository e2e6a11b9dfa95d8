import Mathlib.Data.List.Basic
import StagedRun.Console.Colour
import StagedRun.Proofs.Text.Encoding

/-!
# Sequences among bytes

A console that understands attributes finds two things in its input: bytes to show, and sequences
that switch attributes.  A sequence is an escape byte, a bracket, digits, and the letter `m`;
`Text.signs` finds them from left to right.  Two readings of an input follow from its signs:

* `Text.withoutSequences` is the input with every sequence deleted;
* `Text.attributesAfter` are the attributes that are on behind it.

An input that is cut in two need not have the signs of its two parts, because the cut may go through
a sequence.  It does if the first part is whole, that is, if each escape byte in it starts a sequence
that ends in it (`Text.IsWhole.signs_append`).  A text without an escape character is whole, and so is
the code of an attribute.  Whole inputs put together are whole, so both readings can be taken part by
part.
-/

namespace StagedRun

namespace Text

/-! ## Signs -/

/-- The byte that starts a sequence. -/
def sequenceStart : UInt8 := 0x1B

/-- The byte that stands before the digits of a sequence. -/
def sequenceBracket : UInt8 := 0x5B

/-- The byte that ends a sequence. -/
def sequenceEnd : UInt8 := 0x6D

/-- Whether a byte is a digit. -/
def isDigit (b : UInt8) : Bool :=
  0x30 ≤ b && b ≤ 0x39

/-- The number that digits stand for. -/
def numberOf (digits : ByteString) : Nat :=
  digits.foldl (fun number b => number * 10 + (b.toNat - 0x30)) 0

/-- The bytes of a sequence with digits. -/
def sequenceWith (digits : ByteString) : ByteString :=
  sequenceStart :: sequenceBracket :: digits ++ [sequenceEnd]

/-- The digits of the sequence that bytes start with, and what comes after it. -/
def cutSequence? : ByteString → Option (ByteString × ByteString)
  | first :: second :: rest =>
    match rest.takeWhile isDigit, rest.dropWhile isDigit with
    | digit :: digits, last :: more =>
      if first = sequenceStart ∧ second = sequenceBracket ∧ last = sequenceEnd then
        some (digit :: digits, more)
      else none
    | _, _ => none
  | _ => none

lemma length_lt_of_cutSequence? {bytes digits more : ByteString}
    (h : cutSequence? bytes = some (digits, more)) : more.length < bytes.length := by
  unfold cutSequence? at h
  split at h
  · next first second rest =>
    split at h
    · next hdrop =>
      split at h
      · obtain ⟨rfl, rfl⟩ := Prod.mk.inj (Option.some.inj h)
        have hlength := (List.dropWhile_sublist isDigit (l := rest)).length_le
        rw [hdrop] at hlength
        simp only [List.length_cons] at hlength ⊢
        omega
      · cases h
    · cases h
  · cases h

/-- What a console finds in its input. -/
inductive Sign where
  /-- A byte to show. -/
  | shown (b : UInt8)
  /-- A sequence with a number. -/
  | sequence (number : Nat)
  deriving DecidableEq, Repr

/-- Reads bytes from left to right. -/
def signs (bytes : ByteString) : List Sign :=
  match _h : cutSequence? bytes with
  | some (digits, more) => .sequence (numberOf digits) :: signs more
  | none =>
    match bytes with
    | [] => []
    | b :: rest => .shown b :: signs rest
termination_by bytes.length
decreasing_by
  · exact length_lt_of_cutSequence? _h
  · exact Nat.lt_succ_self _

example :
    signs (encode "\x1b[92mok\x1b[0m[0m") =
      [.sequence 92, .shown 0x6F, .shown 0x6B, .sequence 0, .shown 0x5B, .shown 0x30,
        .shown 0x6D] := by
  decide +kernel

/-- The byte that a console shows for a sign. -/
def Sign.byte? : Sign → Option UInt8
  | .shown b => some b
  | .sequence _ => none

/-- Bytes without the sequences among them. -/
def withoutSequences (bytes : ByteString) : ByteString :=
  (signs bytes).filterMap Sign.byte?

/-- The attributes that are on after a sign, by their numbers.  Zero switches all of them off. -/
def Sign.attributesAfter (on : List Nat) : Sign → List Nat
  | .shown _ => on
  | .sequence number => if number = 0 then [] else number :: on

/-- The attributes that are on after bytes. -/
def attributesAfter (on : List Nat) (bytes : ByteString) : List Nat :=
  (signs bytes).foldl Sign.attributesAfter on

/-! ## Finding signs -/

lemma cutSequence?_of_ne {b : UInt8} (hb : b ≠ sequenceStart) (rest : ByteString) :
    cutSequence? (b :: rest) = none := by
  cases rest with
  | nil => rfl
  | cons second rest =>
    rw [cutSequence?]
    split
    · rw [if_neg fun h => hb h.1]
    · rfl

lemma cutSequence?_sequenceWith {digits : ByteString} (hne : digits ≠ [])
    (hdigits : ∀ b ∈ digits, isDigit b = true) (rest : ByteString) :
    cutSequence? (sequenceWith digits ++ rest) = some (digits, rest) := by
  obtain ⟨digit, more, rfl⟩ := List.exists_cons_of_ne_nil hne
  have hend : isDigit sequenceEnd = false := by decide
  have htake : (digit :: more ++ sequenceEnd :: rest).takeWhile isDigit = digit :: more := by
    rw [List.takeWhile_append_of_pos hdigits, List.takeWhile_cons_of_neg (by simp [hend]),
      List.append_nil]
  have hdrop : (digit :: more ++ sequenceEnd :: rest).dropWhile isDigit = sequenceEnd :: rest := by
    rw [List.dropWhile_append_of_pos hdigits, List.dropWhile_cons_of_neg (by simp [hend])]
  have hbytes : sequenceWith (digit :: more) ++ rest =
      sequenceStart :: sequenceBracket :: (digit :: more ++ sequenceEnd :: rest) := by
    simp [sequenceWith]
  rw [hbytes, cutSequence?, htake, hdrop]
  rfl

@[simp] lemma signs_nil : signs [] = [] := by
  rw [signs]
  rfl

lemma signs_cons_of_ne {b : UInt8} (hb : b ≠ sequenceStart) (rest : ByteString) :
    signs (b :: rest) = .shown b :: signs rest := by
  rw [signs]
  split
  · next h => rw [cutSequence?_of_ne hb] at h; cases h
  · rfl

lemma signs_sequenceWith {digits : ByteString} (hne : digits ≠ [])
    (hdigits : ∀ b ∈ digits, isDigit b = true) (rest : ByteString) :
    signs (sequenceWith digits ++ rest) = .sequence (numberOf digits) :: signs rest := by
  have hcut := cutSequence?_sequenceWith hne hdigits rest
  rw [signs]
  split
  · next h =>
    obtain ⟨rfl, rfl⟩ := Prod.mk.inj (Option.some.inj (hcut.symm.trans h))
    rfl
  · next h => rw [hcut] at h; cases h

/-! ## Whole inputs -/

/-- Each escape byte starts a sequence that ends in these bytes. -/
inductive IsWhole : ByteString → Prop
  | nil : IsWhole []
  | shown {b : UInt8} {rest : ByteString} (hb : b ≠ sequenceStart) (hrest : IsWhole rest) :
      IsWhole (b :: rest)
  | sequence {digits rest : ByteString} (hne : digits ≠ [])
      (hdigits : ∀ b ∈ digits, isDigit b = true) (hrest : IsWhole rest) :
      IsWhole (sequenceWith digits ++ rest)

variable {front back bytes digits : ByteString}

lemma IsWhole.append (h : IsWhole front) (h' : IsWhole back) : IsWhole (front ++ back) := by
  induction h with
  | nil => exact h'
  | shown hb _ ih => exact .shown hb ih
  | sequence hne hdigits _ ih =>
    rw [List.append_assoc]
    exact .sequence hne hdigits ih

/-- Nothing that follows changes the signs of a whole input. -/
theorem IsWhole.signs_append (h : IsWhole front) (back : ByteString) :
    signs (front ++ back) = signs front ++ signs back := by
  induction h with
  | nil => rw [signs_nil, List.nil_append, List.nil_append]
  | shown hb _ ih =>
    rw [List.cons_append, signs_cons_of_ne hb, signs_cons_of_ne hb, ih, List.cons_append]
  | sequence hne hdigits _ ih =>
    rw [List.append_assoc, signs_sequenceWith hne hdigits, signs_sequenceWith hne hdigits, ih,
      List.cons_append]

lemma IsWhole.withoutSequences_append (h : IsWhole front) (back : ByteString) :
    withoutSequences (front ++ back) = withoutSequences front ++ withoutSequences back := by
  rw [withoutSequences, h.signs_append, List.filterMap_append]
  rfl

lemma IsWhole.attributesAfter_append (h : IsWhole front) (on : List Nat) (back : ByteString) :
    attributesAfter on (front ++ back) = attributesAfter (attributesAfter on front) back := by
  rw [attributesAfter, h.signs_append, List.foldl_append]
  rfl

/-! ## Sequences -/

lemma isWhole_sequenceWith (hne : digits ≠ []) (hdigits : ∀ b ∈ digits, isDigit b = true) :
    IsWhole (sequenceWith digits) := by
  have hwhole := IsWhole.sequence hne hdigits .nil
  rwa [List.append_nil] at hwhole

lemma signs_sequenceWith_nil (hne : digits ≠ []) (hdigits : ∀ b ∈ digits, isDigit b = true) :
    signs (sequenceWith digits) = [.sequence (numberOf digits)] := by
  have hsigns := signs_sequenceWith hne hdigits []
  rwa [List.append_nil, signs_nil] at hsigns

/-! ## Inputs without an escape byte -/

lemma isWhole_of_notMem (h : sequenceStart ∉ bytes) : IsWhole bytes := by
  induction bytes with
  | nil => exact .nil
  | cons b rest ih =>
    have hb := List.ne_of_not_mem_cons h
    exact .shown hb.symm (ih (List.not_mem_of_not_mem_cons h))

lemma signs_of_notMem (h : sequenceStart ∉ bytes) : signs bytes = bytes.map .shown := by
  induction bytes with
  | nil => exact signs_nil
  | cons b rest ih =>
    have hb := List.ne_of_not_mem_cons h
    rw [signs_cons_of_ne hb.symm, ih (List.not_mem_of_not_mem_cons h), List.map_cons]

lemma withoutSequences_of_notMem (h : sequenceStart ∉ bytes) : withoutSequences bytes = bytes := by
  rw [withoutSequences, signs_of_notMem h, List.filterMap_map]
  exact List.filterMap_some

lemma attributesAfter_of_notMem (h : sequenceStart ∉ bytes) (on : List Nat) :
    attributesAfter on bytes = on := by
  rw [attributesAfter, signs_of_notMem h, List.foldl_map]
  exact List.foldl_fixed bytes

/-- An escape byte is only written for an escape character. -/
lemma sequenceStart_notMem_encode {s : String} (h : escapeCharacter ∉ s.toList) :
    sequenceStart ∉ encode s :=
  fun hmem => h (mem_of_mem_encode (by decide) (by decide) hmem)

end Text

end StagedRun
