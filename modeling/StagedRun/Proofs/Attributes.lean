import StagedRun.Proofs.Text.Sequences
import StagedRun.Proofs.Truncation

/-!
# Attributes on a console

A record is told in colour or without it.  Both tellings are the same text: the coloured one has
sequences around it, and they are all that it has more.  The last of them switches every attribute
off, before the line ends, so nothing that comes after a record is shown with its attributes.

The texts of a record are chosen by callers.  As long as they hold no escape character
(`Record.IsUnescaped`) all sequences are the ones put there by `Colour.apply`, and what is written
for a record is whole, so that `Text.signs` reads it apart from what stands around it
(`Record.isWhole_bytes`).  The laws of a row of records are then the laws of one record:
`Record.withoutSequences_bytes` and `Record.attributesAfter_bytes`.
-/

namespace StagedRun

variable {κ σ : Type}

/-! ## Styles -/

namespace Style

lemma encode_sequenceOf (number : String) :
    Text.encode (sequenceOf number) = Text.sequenceWith (Text.encode number) := by
  rw [sequenceOf, Text.encode_append, Text.encode_append]
  rfl

/-- The code of a style is a sequence, and it is none that switches attributes off. -/
lemma exists_encode_code (style : Style) :
    ∃ digits, Text.encode style.code = Text.sequenceWith digits ∧ digits ≠ [] ∧
      (∀ b ∈ digits, Text.isDigit b = true) ∧ Text.numberOf digits ≠ 0 := by
  cases style <;>
    exact ⟨_, encode_sequenceOf _, by decide +kernel, by decide +kernel, by decide +kernel⟩

end Style

lemma encode_resetCode : Text.encode resetCode = Text.sequenceWith (Text.encode "0") :=
  Style.encode_sequenceOf "0"

lemma isWhole_resetCode : Text.IsWhole (Text.encode resetCode) :=
  encode_resetCode ▸ Text.isWhole_sequenceWith (by decide +kernel) (by decide +kernel)

lemma signs_resetCode : Text.signs (Text.encode resetCode) = [.sequence 0] := by
  rw [encode_resetCode,
    Text.signs_sequenceWith_nil (by decide +kernel) (by decide +kernel)]
  rfl

namespace Colour

/-- The bytes that switch styles on. -/
def codes (styles : List Style) : ByteString :=
  Text.encode (String.join (styles.map Style.code))

lemma codes_cons (style : Style) (styles : List Style) :
    codes (style :: styles) = Text.encode style.code ++ codes styles := by
  rw [codes, List.map_cons, String.join_cons, Text.encode_append]
  rfl

lemma isWhole_codes (styles : List Style) : Text.IsWhole (codes styles) := by
  induction styles with
  | nil => exact .nil
  | cons style styles ih =>
    obtain ⟨digits, hcode, hne, hdigits, _⟩ := style.exists_encode_code
    rw [codes_cons, hcode]
    exact .sequence hne hdigits ih

/-- Codes show nothing. -/
lemma withoutSequences_codes (styles : List Style) : Text.withoutSequences (codes styles) = [] := by
  induction styles with
  | nil => rw [Text.withoutSequences, codes, List.map_nil, String.join_nil, Text.encode_empty,
      Text.signs_nil, List.filterMap_nil]
  | cons style styles ih =>
    obtain ⟨digits, hcode, hne, hdigits, _⟩ := style.exists_encode_code
    rw [codes_cons, hcode, (Text.isWhole_sequenceWith hne hdigits).withoutSequences_append, ih,
      Text.withoutSequences, Text.signs_sequenceWith_nil hne hdigits]
    rfl

variable {styles : List Style} {text : String}

lemma encode_apply_ansi (hstyles : styles ≠ []) (text : String) :
    Text.encode (Colour.ansi.apply styles text) =
      codes styles ++ Text.encode text ++ Text.encode resetCode := by
  obtain ⟨style, more, rfl⟩ := List.exists_cons_of_ne_nil hstyles
  rw [apply, Text.encode_append, Text.encode_append]
  rfl

lemma isWhole_apply (colour : Colour) (styles : List Style) (h : escapeCharacter ∉ text.toList) :
    Text.IsWhole (Text.encode (colour.apply styles text)) := by
  have htext := Text.isWhole_of_notMem (Text.sequenceStart_notMem_encode h)
  cases colour with
  | plain => rwa [apply_plain]
  | ansi =>
    by_cases hstyles : styles = []
    · rwa [hstyles, apply_nil]
    · rw [encode_apply_ansi hstyles]
      exact ((isWhole_codes styles).append htext).append isWhole_resetCode

/-- Styles add sequences and nothing else. -/
lemma withoutSequences_apply (colour : Colour) (styles : List Style)
    (h : escapeCharacter ∉ text.toList) :
    Text.withoutSequences (Text.encode (colour.apply styles text)) = Text.encode text := by
  have hnone := Text.sequenceStart_notMem_encode h
  have htext := Text.withoutSequences_of_notMem hnone
  cases colour with
  | plain => rwa [apply_plain]
  | ansi =>
    by_cases hstyles : styles = []
    · rwa [hstyles, apply_nil]
    · have hreset : Text.withoutSequences (Text.encode resetCode) = [] := by
        rw [Text.withoutSequences, signs_resetCode]
        rfl
      rw [encode_apply_ansi hstyles,
        ((isWhole_codes styles).append (Text.isWhole_of_notMem hnone)).withoutSequences_append,
        (isWhole_codes styles).withoutSequences_append, withoutSequences_codes, htext, hreset,
        List.nil_append, List.append_nil]

/-- A text with styles around it ends with all attributes off, whichever were on before. -/
lemma attributesAfter_apply_ansi (hstyles : styles ≠ []) (h : escapeCharacter ∉ text.toList)
    (on : List Nat) :
    Text.attributesAfter on (Text.encode (Colour.ansi.apply styles text)) = [] := by
  have htext := Text.isWhole_of_notMem (Text.sequenceStart_notMem_encode h)
  rw [encode_apply_ansi hstyles, ((isWhole_codes styles).append htext).attributesAfter_append]
  rw [Text.attributesAfter, signs_resetCode]
  rfl

end Colour

/-! ## One record -/

namespace Record

/-- The texts that a caller has chosen. -/
def texts : Record → List String
  | .info message _ | .error message => [message]
  | .command message line => [message, line]

/-- No text of a record holds an escape character. -/
def IsUnescaped (record : Record) : Prop :=
  ∀ text ∈ record.texts, escapeCharacter ∉ text.toList

instance (record : Record) : Decidable record.IsUnescaped :=
  inferInstanceAs (Decidable (∀ text ∈ record.texts, escapeCharacter ∉ text.toList))

/-- The attributes of a record. -/
def styles : Record → List Style
  | .info _ look => look.styles
  | .error _ => [.red, .bold]
  | .command _ _ => []

/-- The text that the attributes of a record are put around. -/
def wording : Record → String
  | .info message look => if look.labelled then infoLabel ++ message else message
  | .error message => errorLabel ++ message
  | .command message line => infoLabel ++ message ++ "\n" ++ commandLabel ++ " " ++ line

/-- What comes after the attributes of a record. -/
def ending : Record → String
  | .info _ look => if look.newline then "\n" else ""
  | .error _ | .command _ _ => "\n"

/-- What is written for a record before its ending. -/
def body (colour : Colour) (record : Record) : ByteString :=
  Text.encode (colour.apply record.styles record.wording)

lemma bytes_eq (colour : Colour) (record : Record) :
    record.bytes colour = record.body colour ++ Text.encode record.ending := by
  rw [bytes, body, ← Text.encode_append]
  refine congrArg Text.encode ?_
  cases record with
  | info message look => simp [text, chunks, infoLine, styles, wording, ending]
  | error message => simp [text, chunks, styles, wording, ending]
  | command message line =>
    simp [text, chunks, infoLine, styles, wording, ending, String.append_assoc]

variable {record : Record} {records : List Record}

lemma IsUnescaped.wording (h : record.IsUnescaped) : escapeCharacter ∉ record.wording.toList := by
  have hinfo : escapeCharacter ∉ infoLabel.toList := by decide
  have herror : escapeCharacter ∉ errorLabel.toList := by decide
  have hcommand : escapeCharacter ∉ commandLabel.toList := by decide
  have hbreak : escapeCharacter ∉ ("\n" : String).toList := by decide
  have hblank : escapeCharacter ∉ (" " : String).toList := by decide
  cases record with
  | info message look =>
    have hmessage := h message (by simp [texts])
    rw [Record.wording]
    split <;> simp [String.toList_append, hinfo, hmessage]
  | error message =>
    have hmessage := h message (by simp [texts])
    simp [Record.wording, String.toList_append, herror, hmessage]
  | command message line =>
    have hmessage := h message (by simp [texts])
    have hline := h line (by simp [texts])
    simp only [Record.wording, String.toList_append, List.mem_append]
    simp only [hinfo, hmessage, hbreak, hcommand, hblank, hline, or_self, not_false_eq_true]

lemma sequenceStart_notMem_ending (record : Record) :
    Text.sequenceStart ∉ Text.encode record.ending := by
  have hbreak : Text.sequenceStart ∉ Text.encode "\n" := by decide
  cases record with
  | info message look =>
    rw [ending]
    split
    · exact hbreak
    · decide
  | error message => exact hbreak
  | command message line => exact hbreak

lemma isWhole_ending (record : Record) : Text.IsWhole (Text.encode record.ending) :=
  Text.isWhole_of_notMem record.sequenceStart_notMem_ending

lemma IsUnescaped.isWhole_body (h : record.IsUnescaped) (colour : Colour) :
    Text.IsWhole (record.body colour) :=
  Colour.isWhole_apply colour record.styles h.wording

/-- What is written for a record is read apart from what stands around it. -/
lemma IsUnescaped.isWhole_bytes (h : record.IsUnescaped) (colour : Colour) :
    Text.IsWhole (record.bytes colour) := by
  rw [bytes_eq]
  exact (h.isWhole_body colour).append record.isWhole_ending

lemma IsUnescaped.sequenceStart_notMem_bytes (h : record.IsUnescaped) :
    Text.sequenceStart ∉ record.bytes .plain := by
  rw [bytes_eq, body, Colour.apply_plain, List.mem_append, not_or]
  exact ⟨Text.sequenceStart_notMem_encode h.wording, record.sequenceStart_notMem_ending⟩

/-- A record without its sequences is the record in plain text. -/
lemma IsUnescaped.withoutSequences_bytes (h : record.IsUnescaped) (colour : Colour) :
    Text.withoutSequences (record.bytes colour) = record.bytes .plain := by
  rw [bytes_eq, bytes_eq, (h.isWhole_body colour).withoutSequences_append, body, body,
    Colour.withoutSequences_apply colour record.styles h.wording,
    Text.withoutSequences_of_notMem record.sequenceStart_notMem_ending, Colour.apply_plain]

/-- A record that switches an attribute has styles. -/
lemma IsUnescaped.styles_ne_nil (h : record.IsUnescaped) {number : Nat}
    (hmem : Text.Sign.sequence number ∈ Text.signs (record.body .ansi)) : record.styles ≠ [] := by
  intro hstyles
  rw [body, hstyles, Colour.apply_nil,
    Text.signs_of_notMem (Text.sequenceStart_notMem_encode h.wording)] at hmem
  simp at hmem

/-- A record leaves every attribute off if it found them so. -/
lemma IsUnescaped.attributesAfter_bytes (h : record.IsUnescaped) :
    Text.attributesAfter [] (record.bytes .ansi) = [] := by
  rw [bytes_eq, (h.isWhole_body .ansi).attributesAfter_append,
    Text.attributesAfter_of_notMem record.sequenceStart_notMem_ending, body]
  by_cases hstyles : record.styles = []
  · rw [hstyles, Colour.apply_nil]
    exact Text.attributesAfter_of_notMem (Text.sequenceStart_notMem_encode h.wording) []
  · exact Colour.attributesAfter_apply_ansi hstyles h.wording []

lemma resetCode_suffix_body (hstyles : record.styles ≠ []) :
    Text.encode resetCode <:+ record.body .ansi := by
  rw [body, Colour.encode_apply_ansi hstyles]
  exact List.suffix_append _ _

/-! ## Records in a row -/

lemma isWhole_flatMap_bytes (h : ∀ record ∈ records, record.IsUnescaped) (colour : Colour) :
    Text.IsWhole (records.flatMap (bytes colour)) := by
  induction records with
  | nil => exact .nil
  | cons record rest ih =>
    obtain ⟨hrecord, hrest⟩ := List.forall_mem_cons.1 h
    rw [List.flatMap_cons]
    exact (hrecord.isWhole_bytes colour).append (ih hrest)

lemma sequenceStart_notMem_flatMap_bytes (h : ∀ record ∈ records, record.IsUnescaped) :
    Text.sequenceStart ∉ records.flatMap (bytes .plain) := by
  intro hmem
  obtain ⟨record, hrecord, hstart⟩ := List.mem_flatMap.1 hmem
  exact (h record hrecord).sequenceStart_notMem_bytes hstart

lemma withoutSequences_flatMap_bytes (h : ∀ record ∈ records, record.IsUnescaped)
    (colour : Colour) :
    Text.withoutSequences (records.flatMap (bytes colour)) = records.flatMap (bytes .plain) := by
  induction records with
  | nil => rw [List.flatMap_nil, List.flatMap_nil, Text.withoutSequences, Text.signs_nil,
      List.filterMap_nil]
  | cons record rest ih =>
    obtain ⟨hrecord, hrest⟩ := List.forall_mem_cons.1 h
    rw [List.flatMap_cons, List.flatMap_cons,
      (hrecord.isWhole_bytes colour).withoutSequences_append,
      hrecord.withoutSequences_bytes colour, ih hrest]

lemma attributesAfter_flatMap_bytes (h : ∀ record ∈ records, record.IsUnescaped) :
    Text.attributesAfter [] (records.flatMap (bytes .ansi)) = [] := by
  induction records with
  | nil => rw [List.flatMap_nil, Text.attributesAfter, Text.signs_nil, List.foldl_nil]
  | cons record rest ih =>
    obtain ⟨hrecord, hrest⟩ := List.forall_mem_cons.1 h
    rw [List.flatMap_cons, (hrecord.isWhole_bytes .ansi).attributesAfter_append,
      hrecord.attributesAfter_bytes, ih hrest]

end Record

/-! ## Telling -/

namespace World

/-- **Colours add sequences and leave nothing switched on.**  The same records are told in colour
and in plain text.  What is told in colour is what is told in plain text once its sequences are
deleted, and the plain text holds no escape byte.  In colour, a record that switches an attribute on
switches all attributes off right before its line ends, whatever was on before it.  So what a console
is given after any of the records, by another record or by a child, is shown as it would be on a
console that had been given nothing. -/
theorem tellAll_ansi (children : Children κ) (sink : Sink σ) {records : List Record}
    (h : ∀ record ∈ records, record.IsUnescaped) (world : World κ σ) :
    let start := { world with history := [] }
    let told := fun colour records =>
      (carryOut (tellAll children sink colour records) start).2.written
    Text.withoutSequences (told .ansi records) = told .plain records ∧
      Text.sequenceStart ∉ told .plain records ∧
      (∀ before record after, records = before ++ record :: after →
        ∃ body,
          told .ansi (before ++ [record]) =
            told .ansi before ++ body ++ Text.encode record.ending ∧
          ((∃ number ≠ 0, Text.Sign.sequence number ∈ Text.signs body) →
            Text.encode resetCode <:+ body ∧ ∀ on, Text.attributesAfter on body = [])) ∧
      ∀ before output, before <+: records →
        Text.attributesAfter [] (told .ansi before ++ output) = Text.attributesAfter [] output := by
  intro start told
  have htold (colour : Colour) (records : List Record) :
      told colour records = records.flatMap (Record.bytes colour) :=
    written_tellAll children sink colour records start
  refine ⟨?_, ?_, ?_, ?_⟩
  · rw [htold, htold, Record.withoutSequences_flatMap_bytes h]
  · rw [htold]
    exact Record.sequenceStart_notMem_flatMap_bytes h
  · rintro before record after rfl
    have hrecord : record.IsUnescaped := h record (by simp)
    refine ⟨record.body .ansi, ?_, ?_⟩
    · rw [htold, htold, List.flatMap_append, List.flatMap_singleton, Record.bytes_eq,
        List.append_assoc]
    · rintro ⟨number, _, hmem⟩
      have hstyles := hrecord.styles_ne_nil hmem
      exact ⟨Record.resetCode_suffix_body hstyles,
        Colour.attributesAfter_apply_ansi hstyles hrecord.wording⟩
  · intro before output hbefore
    have hall : ∀ record ∈ before, record.IsUnescaped :=
      fun record hmem => h record (hbefore.subset hmem)
    rw [htold, (Record.isWhole_flatMap_bytes hall .ansi).attributesAfter_append,
      Record.attributesAfter_flatMap_bytes hall]

/-- A green line that does not end, an error whose message looks like the rest of a sequence, and a
command. -/
theorem tellAll_ansi_green :
    let children : Children Unit := ⟨fun _ known files => (.ok (.exited 0), known, files)⟩
    let records : List Record :=
      [.info "5" { newline := false, styles := [.green, .bold] }, .error "[0m7m",
        .command "Running" "tsc"]
    let start : World Unit Kept := .fresh .empty [] () {}
    let told := fun colour records =>
      (carryOut (tellAll children (.bounded none) colour records) start).2.written
    (∀ record ∈ records, record.IsUnescaped) ∧
      Text.withoutSequences (told .ansi records) = told .plain records ∧
      Text.sequenceStart ∉ told .plain records ∧
      (∀ before record after, records = before ++ record :: after →
        ∃ body,
          told .ansi (before ++ [record]) =
            told .ansi before ++ body ++ Text.encode record.ending ∧
          ((∃ number ≠ 0, Text.Sign.sequence number ∈ Text.signs body) →
            Text.encode resetCode <:+ body ∧ ∀ on, Text.attributesAfter on body = [])) ∧
      ∀ before output, before <+: records →
        Text.attributesAfter [] (told .ansi before ++ output) =
          Text.attributesAfter [] output := by
  intro children records start told
  have hrecords : ∀ record ∈ records, record.IsUnescaped := by decide
  exact ⟨hrecords, tellAll_ansi children (.bounded none) hrecords start⟩

end World

end StagedRun
