import StagedRun.Proofs.Text.WellFormed

/-!
# Texts that are written as they were read

Reading bytes as a text and writing that text gives the bytes back (`Text.encode_of_decode?`).  So a
text that was shown can be found again in what was written for it, byte by byte
(`Text.encode_lossy`).  A byte of the lower half is only ever written for the character with its
number (`Text.mem_of_mem_encode`).

What carries this is `IsCharacter.exists_char`: the number that is put together from the bytes of a
character is the number of a character that has just these bytes.  The ranges in `Text.continues`
leave out every number for which this would fail.
-/

namespace StagedRun

namespace Text

/-! ## One character -/

/-- The bounds of the second byte of a character, as numbers. -/
structure SecondBounds (a b : UInt8) : Prop where
  low : 0x80 ≤ b.toNat
  high : b.toNat ≤ 0xBF
  /-- Smaller ones have a shorter form. -/
  three : a.toNat = 0xE0 → 0xA0 ≤ b.toNat
  /-- Larger ones are surrogates. -/
  surrogate : a.toNat = 0xED → b.toNat ≤ 0x9F
  /-- Smaller ones have a shorter form. -/
  four : a.toNat = 0xF0 → 0x90 ≤ b.toNat
  /-- Larger ones are beyond the last character. -/
  last : a.toNat = 0xF4 → b.toNat ≤ 0x8F

lemma secondBounds_of_continues {a b : UInt8} (h : continues a b = true) : SecondBounds a b := by
  have hvalue (value : UInt8) : a = value ↔ a.toNat = value.toNat := UInt8.toNat_inj.symm
  simp only [continues, isTail, hvalue, UInt8.reduceToNat] at h
  constructor <;> grind [UInt8.le_iff_toNat_le]

lemma toNat_of_isTail {b : UInt8} (h : isTail b = true) : 0x80 ≤ b.toNat ∧ b.toNat ≤ 0xBF := by
  simpa [isTail, UInt8.le_iff_toNat_le] using h

/-- What is written for the character with a number. -/
lemma utf8EncodeChar_ofNat {n : Nat} (h : n.isValidChar) :
    String.utf8EncodeChar (Char.ofNat n) =
      if n ≤ 0x7F then [UInt8.ofNat n]
      else if n ≤ 0x7FF then [UInt8.ofNat (n / 64 % 32 + 192), UInt8.ofNat (n % 64 + 128)]
      else if n ≤ 0xFFFF then
        [UInt8.ofNat (n / 4096 % 16 + 224), UInt8.ofNat (n / 64 % 64 + 128),
          UInt8.ofNat (n % 64 + 128)]
      else
        [UInt8.ofNat (n / 262144 % 8 + 240), UInt8.ofNat (n / 4096 % 64 + 128),
          UInt8.ofNat (n / 64 % 64 + 128), UInt8.ofNat (n % 64 + 128)] := by
  have hn : (Char.ofNat n).val.toNat = n := by
    rw [Char.ofNat, dif_pos h]
    rfl
  rw [String.utf8EncodeChar, hn]

lemma ofNat_eq_iff {n : Nat} {b : UInt8} (h : n = b.toNat) : UInt8.ofNat n = b := by
  rw [h, UInt8.ofNat_toNat]

/-- The bytes of a character are read as one character, and that character is written as these
bytes. -/
lemma IsCharacter.exists_char {character : ByteString} (h : IsCharacter character) :
    ∃ c, String.utf8EncodeChar c = character ∧
      ∀ rest, pieces (character ++ rest) = .char c :: pieces rest := by
  cases h with
  | @one a ha =>
    have hnumber := UInt8.lt_iff_toNat_lt.1 ha
    simp only [UInt8.reduceToNat] at hnumber
    refine ⟨Char.ofNat a.toNat, ?_, fun rest => ?_⟩
    · rw [utf8EncodeChar_ofNat (by omega), if_pos (by omega), UInt8.ofNat_toNat]
    · simp [pieces.eq_def (_ :: rest), ha]
  | @two a b ha ha' hb =>
    have hone := UInt8.not_lt.2 (UInt8.le_trans (by decide : (0x80 : UInt8) ≤ 0xC2) ha)
    have hlow := UInt8.le_iff_toNat_le.1 ha
    have hhigh := UInt8.le_iff_toNat_le.1 ha'
    simp only [UInt8.reduceToNat] at hlow hhigh
    obtain ⟨hb₁, hb₂, _, _, _, _⟩ := secondBounds_of_continues hb
    refine ⟨Char.ofNat (a.toNat % 32 * 64 + payload b), ?_, fun rest => ?_⟩
    · unfold payload
      rw [utf8EncodeChar_ofNat (by omega), if_neg (by omega), if_pos (by omega),
        ofNat_eq_iff (b := a) (by omega), ofNat_eq_iff (b := b) (by omega)]
    · simp [pieces, hone, ha, ha', hb]
  | @three a b c ha ha' hb hc =>
    have hone := UInt8.not_lt.2 (UInt8.le_trans (by decide : (0x80 : UInt8) ≤ 0xE0) ha)
    have htwo := UInt8.not_le.2 (UInt8.lt_of_lt_of_le (by decide : (0xDF : UInt8) < 0xE0) ha)
    have hlow := UInt8.le_iff_toNat_le.1 ha
    have hhigh := UInt8.le_iff_toNat_le.1 ha'
    simp only [UInt8.reduceToNat] at hlow hhigh
    obtain ⟨hb₁, hb₂, hthree, hsurrogate, _, _⟩ := secondBounds_of_continues hb
    obtain ⟨hc₁, hc₂⟩ := toNat_of_isTail hc
    refine ⟨Char.ofNat ((a.toNat % 16 * 64 + payload b) * 64 + payload c), ?_, fun rest => ?_⟩
    · unfold payload
      rw [utf8EncodeChar_ofNat (by omega), if_neg (by omega), if_neg (by omega),
        if_pos (by omega), ofNat_eq_iff (b := a) (by omega), ofNat_eq_iff (b := b) (by omega),
        ofNat_eq_iff (b := c) (by omega)]
    · simp [pieces, hone, htwo, ha, ha', hb, hc]
  | @four a b c d ha ha' hb hc hd =>
    have hone := UInt8.not_lt.2 (UInt8.le_trans (by decide : (0x80 : UInt8) ≤ 0xF0) ha)
    have htwo := UInt8.not_le.2 (UInt8.lt_of_lt_of_le (by decide : (0xDF : UInt8) < 0xF0) ha)
    have hthree := UInt8.not_le.2 (UInt8.lt_of_lt_of_le (by decide : (0xEF : UInt8) < 0xF0) ha)
    have hlow := UInt8.le_iff_toNat_le.1 ha
    have hhigh := UInt8.le_iff_toNat_le.1 ha'
    simp only [UInt8.reduceToNat] at hlow hhigh
    obtain ⟨hb₁, hb₂, _, _, hfour, hlast⟩ := secondBounds_of_continues hb
    obtain ⟨hc₁, hc₂⟩ := toNat_of_isTail hc
    obtain ⟨hd₁, hd₂⟩ := toNat_of_isTail hd
    refine ⟨Char.ofNat (((a.toNat % 8 * 64 + payload b) * 64 + payload c) * 64 + payload d), ?_,
      fun rest => ?_⟩
    · unfold payload
      rw [utf8EncodeChar_ofNat (by omega), if_neg (by omega), if_neg (by omega),
        if_neg (by omega), ofNat_eq_iff (b := a) (by omega), ofNat_eq_iff (b := b) (by omega),
        ofNat_eq_iff (b := c) (by omega), ofNat_eq_iff (b := d) (by omega)]
    · simp [pieces, hone, htwo, hthree, ha, ha', hb, hc, hd]

/-! ## Whole texts -/

lemma encode_ofList_cons (c : Char) (rest : List Char) :
    encode (String.ofList (c :: rest)) = String.utf8EncodeChar c ++ encode (String.ofList rest) := by
  simp [encode]

lemma IsText.encode_lossy {bytes : ByteString} (h : IsText bytes) : encode (lossy bytes) = bytes := by
  induction h with
  | nil => rfl
  | @cons character rest hcharacter _ ih =>
    obtain ⟨c, hbytes, hpieces⟩ := hcharacter.exists_char
    rw [lossy, hpieces, List.map_cons, encode_ofList_cons, Piece.shown, hbytes]
    exact congrArg (character ++ ·) ih

/-- A text that is shown is written as the bytes that it was read from. -/
theorem encode_lossy {bytes : ByteString} (h : isUtf8 bytes = true) : encode (lossy bytes) = bytes :=
  (isUtf8_iff.1 h).encode_lossy

/-- A text is written as the bytes that it was read from. -/
theorem encode_of_decode? {bytes : ByteString} {s : String} (h : decode? bytes = some s) :
    encode s = bytes := by
  have hutf8 : isUtf8 bytes = true := by rw [isUtf8, h, Option.isSome_some]
  rw [← lossy_of_decode? h]
  exact encode_lossy hutf8

/-! ## Bytes of the lower half -/

lemma eq_of_mem_utf8EncodeChar {c : Char} {b : UInt8} (hb : b < 0x80)
    (h : b ∈ String.utf8EncodeChar c) : c.toNat = b.toNat := by
  have hb := UInt8.lt_iff_toNat_lt.1 hb
  simp only [UInt8.reduceToNat] at hb
  have hvalue {n : Nat} (hmem : b = UInt8.ofNat n) : b.toNat = n % 256 := by
    rw [hmem, UInt8.toNat_ofNat']
  show c.val.toNat = b.toNat
  unfold String.utf8EncodeChar at h
  dsimp only at h
  -- Every byte of a longer form is in the upper half.
  split at h
  · have := hvalue (List.mem_singleton.1 h)
    omega
  · split at h
    · simp only [List.mem_cons, List.not_mem_nil, or_false] at h
      rcases h with h | h <;> have := hvalue h <;> omega
    · split at h <;> simp only [List.mem_cons, List.not_mem_nil, or_false] at h
      · rcases h with h | h | h <;> have := hvalue h <;> omega
      · rcases h with h | h | h | h <;> have := hvalue h <;> omega

/-- A byte of the lower half is written for the character with its number. -/
theorem mem_of_mem_encode {s : String} {b : UInt8} {c : Char} (hb : b < 0x80)
    (hc : c.toNat = b.toNat) (h : b ∈ encode s) : c ∈ s.toList := by
  obtain ⟨other, hother, hmem⟩ := List.mem_flatMap.1 h
  have hsame : other = c := by
    have := eq_of_mem_utf8EncodeChar hb hmem
    rw [← Char.ofNat_toNat other, ← Char.ofNat_toNat c, this, hc]
  exact hsame ▸ hother

end Text

end StagedRun
