import StagedRun.Proofs.Attributes

/-!
# The colour that an environment asks for

Two variables decide whether a program speaks in colour.  `NO_COLOR` is there to switch colours off
whatever it says, and a terminal that is called dumb has none.

Both are read as text, and a value that is no text counts as one that is not set.  For the name of a
terminal this makes no difference, because `dumb` is a text.  For `NO_COLOR` it does: a value that is
not UTF-8 is overlooked, and the program speaks in colour (`World.tellAll_unreadable`).  So it is
silent about colours exactly if the value can be read, or for the sake of the terminal
(`World.tellAll_ofEnvironment`).
-/

namespace StagedRun

variable {κ σ : Type}

namespace Colour

lemma resolve_eq_plain_iff (read : String → Option String) :
    resolve read = .plain ↔
      (read noColourVariable).isSome = true ∨ read terminalVariable = some "dumb" := by
  rw [resolve]
  split
  · next h => simpa using h
  · next h => simpa using h

/-- Bytes are read as `dumb` only if they are `dumb`. -/
lemma decode?_eq_dumb_iff (bytes : ByteString) :
    Text.decode? bytes = some "dumb" ↔ bytes = Text.encode "dumb" := by
  constructor
  · intro h
    exact (Text.encode_of_decode? h).symm
  · rintro rfl
    decide +kernel

/-- A program speaks in plain text if `NO_COLOR` is set to a text, or the terminal is dumb. -/
theorem ofEnvironment_eq_plain_iff (environment : Environment) :
    ofEnvironment environment = .plain ↔
      (∃ value, environment "NO_COLOR" = some value ∧ Text.isUtf8 value = true) ∨
        environment "TERM" = some (Text.encode "dumb") := by
  rw [ofEnvironment, resolve_eq_plain_iff, Option.isSome_bind, Option.bind_eq_some_iff]
  simp only [decode?_eq_dumb_iff, exists_eq_right]
  rw [Option.any_eq_true]
  rfl

end Colour

/-- An error that is told in colour starts with a sequence. -/
lemma Record.sequenceStart_mem_bytes_error (message : String) :
    Text.sequenceStart ∈ (Record.error message).bytes .ansi := by
  have hcodes : Text.sequenceStart ∈ Colour.codes [.red, .bold] := by decide
  have hstyles : (Record.error message).styles ≠ [] := by simp [styles]
  rw [bytes_eq, body, Colour.encode_apply_ansi hstyles]
  exact List.mem_append_left _ (List.mem_append_left _ (List.mem_append_left _ hcodes))

namespace World

/-- **Which environments keep a console free of escape bytes.**  Where `NO_COLOR` is set, no record
puts an escape byte on the console exactly if the value is a text, empty or not, or the terminal is
dumb.  Where it is not set, the terminal alone decides: a program speaks in plain text if and only if
`TERM` says `dumb` and nothing else. -/
theorem tellAll_ofEnvironment (children : Children κ) (sink : Sink σ) (environment : Environment)
    (world : World κ σ) :
    let start := { world with history := [] }
    let told := fun records =>
      (carryOut (tellAll children sink (Colour.ofEnvironment environment) records) start).2.written
    (∀ value, environment "NO_COLOR" = some value →
      ((∀ records, (∀ record ∈ records, record.IsUnescaped) →
          Text.sequenceStart ∉ told records) ↔
        Text.isUtf8 value = true ∨ environment "TERM" = some (Text.encode "dumb"))) ∧
      (environment "NO_COLOR" = none →
        (Colour.ofEnvironment environment = .plain ↔
          environment "TERM" = some (Text.encode "dumb"))) := by
  intro start told
  have htold (records : List Record) :
      told records = records.flatMap (Record.bytes (Colour.ofEnvironment environment)) :=
    written_tellAll children sink (Colour.ofEnvironment environment) records start
  have hplain := Colour.ofEnvironment_eq_plain_iff environment
  refine ⟨fun value hvalue => ?_, fun hunset => ?_⟩
  · have hset : Colour.ofEnvironment environment = .plain ↔
        Text.isUtf8 value = true ∨ environment "TERM" = some (Text.encode "dumb") := by
      simpa [hvalue] using hplain
    rw [← hset]
    constructor
    · intro hnone
      -- In colour, the first error already holds an escape byte.
      cases hcolour : Colour.ofEnvironment environment with
      | plain => rfl
      | ansi =>
        have herror := hnone [.error ""] (by decide)
        rw [htold, hcolour, List.flatMap_singleton] at herror
        exact absurd (Record.sequenceStart_mem_bytes_error "") herror
    · intro hcolour records hrecords
      rw [htold, hcolour]
      exact Record.sequenceStart_notMem_flatMap_bytes hrecords
  · simpa [hunset] using hplain

/-- A value of `NO_COLOR` that is no text does not switch colours off. -/
theorem tellAll_unreadable :
    let environment : Environment := fun name => if name = "NO_COLOR" then some [0xFF] else none
    let children : Children Unit := ⟨fun _ known files => (.ok (.exited 0), known, files)⟩
    let records : List Record := [.error "Build directory does not exist"]
    let start : World Unit Kept := .fresh .empty [] () {}
    let last := (carryOut
      (tellAll children (.bounded none) (Colour.ofEnvironment environment) records) start).2
    environment "NO_COLOR" = some [0xFF] ∧
      (∀ record ∈ records, record.IsUnescaped) ∧
      Text.sequenceStart ∈ last.written ∧
      last.console.bytes =
        Text.encode "\x1b[91m\x1b[1mERROR: Build directory does not exist\x1b[0m\n" := by
  decide +kernel

end World

end StagedRun
