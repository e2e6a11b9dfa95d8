import Mathlib.Tactic.Lemma
import StagedRun.Text.Bytes

/-!
# Texts and their bytes

Bytes encode a text if and only if they are characters put in a row (`Text.isUtf8_iff`), where an
`IsCharacter` is a leading byte with as many continuation bytes as it asks for.  So two texts make
one text (`Text.isUtf8_append`).  A byte of the lower half is a character of its own and a part of no
other, so cutting a text there gives two texts (`Text.isUtf8_of_append_cons`).
-/

namespace StagedRun

namespace Text

/-- The bytes of one character. -/
inductive IsCharacter : ByteString → Prop
  | one {a : UInt8} (ha : a < 0x80) : IsCharacter [a]
  | two {a b : UInt8} (ha : 0xC2 ≤ a) (ha' : a ≤ 0xDF) (hb : continues a b = true) :
      IsCharacter [a, b]
  | three {a b c : UInt8} (ha : 0xE0 ≤ a) (ha' : a ≤ 0xEF) (hb : continues a b = true)
      (hc : isTail c = true) : IsCharacter [a, b, c]
  | four {a b c d : UInt8} (ha : 0xF0 ≤ a) (ha' : a ≤ 0xF4) (hb : continues a b = true)
      (hc : isTail c = true) (hd : isTail d = true) : IsCharacter [a, b, c, d]

/-- Characters in a row. -/
inductive IsText : ByteString → Prop
  | nil : IsText []
  | cons {character rest : ByteString} (hcharacter : IsCharacter character) (hrest : IsText rest) :
      IsText (character ++ rest)

/-! ## Reading characters -/

lemma isUtf8_eq (bytes : ByteString) :
    isUtf8 bytes = (Piece.characters? (pieces bytes)).isSome := by
  rw [isUtf8, decode?, Option.isSome_map]

lemma IsCharacter.isUtf8_append {character : ByteString} (h : IsCharacter character)
    (rest : ByteString) : isUtf8 (character ++ rest) = isUtf8 rest := by
  rw [isUtf8_eq, isUtf8_eq]
  cases h with
  | one ha => simp [pieces.eq_def (_ :: rest), ha, Piece.characters?]
  | two ha ha' hb =>
    have hone := UInt8.not_lt.2 (UInt8.le_trans (by decide : (0x80 : UInt8) ≤ 0xC2) ha)
    simp [pieces, hone, ha, ha', hb, Piece.characters?]
  | three ha ha' hb hc =>
    have hone := UInt8.not_lt.2 (UInt8.le_trans (by decide : (0x80 : UInt8) ≤ 0xE0) ha)
    have htwo := UInt8.not_le.2 (UInt8.lt_of_lt_of_le (by decide : (0xDF : UInt8) < 0xE0) ha)
    simp [pieces, hone, htwo, ha, ha', hb, hc, Piece.characters?]
  | four ha ha' hb hc hd =>
    have hone := UInt8.not_lt.2 (UInt8.le_trans (by decide : (0x80 : UInt8) ≤ 0xF0) ha)
    have htwo := UInt8.not_le.2 (UInt8.lt_of_lt_of_le (by decide : (0xDF : UInt8) < 0xF0) ha)
    have hthree := UInt8.not_le.2 (UInt8.lt_of_lt_of_le (by decide : (0xEF : UInt8) < 0xF0) ha)
    simp [pieces, hone, htwo, hthree, ha, ha', hb, hc, hd, Piece.characters?]

lemma IsText.isUtf8 {bytes : ByteString} (h : IsText bytes) : Text.isUtf8 bytes = true := by
  induction h with
  | nil => rfl
  | cons hcharacter _ ih => rw [hcharacter.isUtf8_append, ih]

/-- Reading finds one character after the other as long as it finds no stray bytes. -/
lemma isText_of_isUtf8 {bytes : ByteString} (h : isUtf8 bytes = true) : IsText bytes := by
  induction bytes using pieces.induct with
  | case1 => exact .nil
  | case2 a rest ha ih =>
    have hcharacter : IsCharacter [a] := .one ha
    exact .cons hcharacter (ih (hcharacter.isUtf8_append rest ▸ h))
  | case4 a _ ha b rest hb ih =>
    have ⟨hlow, hhigh⟩ := Bool.and_eq_true_iff.1 ha
    have hcharacter : IsCharacter [a, b] := .two (of_decide_eq_true hlow) (of_decide_eq_true hhigh) hb
    exact .cons hcharacter (ih (hcharacter.isUtf8_append rest ▸ h))
  | case9 a _ _ ha b c rest hb hc ih =>
    have ⟨hlow, hhigh⟩ := Bool.and_eq_true_iff.1 ha
    have hcharacter : IsCharacter [a, b, c] :=
      .three (of_decide_eq_true hlow) (of_decide_eq_true hhigh) hb hc
    exact .cons hcharacter (ih (hcharacter.isUtf8_append rest ▸ h))
  | case18 a _ _ _ ha b c d rest hb hc hd ih =>
    have ⟨hlow, hhigh⟩ := Bool.and_eq_true_iff.1 ha
    have hcharacter : IsCharacter [a, b, c, d] :=
      .four (of_decide_eq_true hlow) (of_decide_eq_true hhigh) hb hc hd
    exact .cons hcharacter (ih (hcharacter.isUtf8_append rest ▸ h))
  | _ =>
    -- Everywhere else the first piece is stray.
    rw [isUtf8_eq, pieces.eq_def] at h
    simp only [*, ↓reduceIte, Piece.characters?, Option.isSome_none, Bool.false_eq_true] at h

/-- Bytes encode a text if and only if they are characters in a row. -/
theorem isUtf8_iff {bytes : ByteString} : isUtf8 bytes = true ↔ IsText bytes :=
  ⟨isText_of_isUtf8, IsText.isUtf8⟩

/-! ## Putting together and cutting -/

lemma IsText.append {front back : ByteString} (h : IsText front) (h' : IsText back) :
    IsText (front ++ back) := by
  induction h with
  | nil => exact h'
  | cons hcharacter _ ih =>
    rw [List.append_assoc]
    exact .cons hcharacter ih

theorem isUtf8_append {front back : ByteString} (h : isUtf8 front = true)
    (h' : isUtf8 back = true) : isUtf8 (front ++ back) = true :=
  isUtf8_iff.2 ((isUtf8_iff.1 h).append (isUtf8_iff.1 h'))

lemma not_lt_of_continues {a b : UInt8} (h : continues a b = true) : ¬b < 0x80 := by
  unfold continues isTail at h
  grind

lemma not_lt_of_isTail {b : UInt8} (h : isTail b = true) : ¬b < 0x80 := by
  unfold isTail at h
  grind

/-- A byte of the lower half is a whole character. -/
lemma IsCharacter.eq_singleton {character : ByteString} {b : UInt8} (h : IsCharacter character)
    (hmem : b ∈ character) (hb : b < 0x80) : character = [b] := by
  cases h with
  | one _ => rw [List.mem_singleton.1 hmem]
  | two ha _ hb' =>
    have := not_lt_of_continues hb'
    grind
  | three ha _ hb' hc =>
    have := not_lt_of_continues hb'
    have := not_lt_of_isTail hc
    grind
  | four ha _ hb' hc hd =>
    have := not_lt_of_continues hb'
    have := not_lt_of_isTail hc
    have := not_lt_of_isTail hd
    grind

lemma IsText.of_append_cons {front back : ByteString} {b : UInt8} (hb : b < 0x80)
    (h : IsText (front ++ b :: back)) : IsText front ∧ IsText back := by
  generalize htext : front ++ b :: back = text at h
  induction h generalizing front with
  | nil => simp at htext
  | @cons character rest hcharacter hrest ih =>
    rcases List.append_eq_append_iff.1 htext with ⟨middle, hcut, hback⟩ | ⟨middle, hcut, hback⟩
    · -- The front ends inside the first character, unless it ends right before it or after it.
      cases middle with
      | nil =>
        rw [List.append_nil] at hcut
        have hnext := @ih [] hback
        exact ⟨by simpa [hcut] using IsText.cons hcharacter .nil, hnext.2⟩
      | cons first middle =>
        obtain ⟨rfl, rfl⟩ := List.cons.inj hback
        have hwhole := hcharacter.eq_singleton (b := b) (by simp [hcut]) hb
        rw [hwhole] at hcut
        obtain ⟨rfl, hmiddle⟩ : front = [] ∧ middle = [] := by
          cases front with
          | nil => simpa using hcut
          | cons other front => simp at hcut
        exact ⟨.nil, by simpa [hmiddle] using hrest⟩
    · have hnext := ih hback.symm
      exact ⟨hcut ▸ .cons hcharacter hnext.1, hnext.2⟩

theorem isUtf8_of_append_cons {front back : ByteString} {b : UInt8} (hb : b < 0x80)
    (h : isUtf8 (front ++ b :: back) = true) : isUtf8 front = true ∧ isUtf8 back = true := by
  obtain ⟨hfront, hback⟩ := (isUtf8_iff.1 h).of_append_cons hb
  exact ⟨hfront.isUtf8, hback.isUtf8⟩

end Text

end StagedRun
