import Mathlib.Tactic.Lemma
import StagedRun.Pipeline

/-!
# The wording of a run

What a run writes is put together in two places: the pipeline chooses the records, and a record is
rendered with a label, attributes and a line ending.  A law that speaks of the written bytes through
the same two definitions would also hold if both of them said nothing.  So the texts are written down
here as they stand on a console, and neither the records nor their rendering are used for it.

* `Tone.line` is a line that stands out, with the sequences of its attributes in full.
* `Pipeline.entries` are the texts of a run that succeeds, one for each record: what the clean stage
  tells, what the build stage tells, and what the run stage tells.  The line with a command belongs
  to the text that announces it.

The remaining lemmas render a record of each shape.  That they lead to these texts is
`Pipeline.map_text_transcript`.
-/

namespace StagedRun

/-! ## Lines that stand out -/

/-- Why a line stands out. -/
inductive Tone where
  /-- A stage has done its work. -/
  | success
  /-- It says where the result is. -/
  | result
  /-- The run has failed. -/
  | failure
  deriving DecidableEq, Repr

/-- A line that stands out where the console shows attributes: bright green, bold, or bright red and
bold. -/
def Tone.line : Tone → Colour → String → String
  | .success, .ansi, text => "\x1b[92m" ++ text ++ "\x1b[0m\n"
  | .result, .ansi, text => "\x1b[1m" ++ text ++ "\x1b[0m\n"
  | .failure, .ansi, text => "\x1b[91m\x1b[1m" ++ text ++ "\x1b[0m\n"
  | _, .plain, text => text ++ "\n"

/-! ## The texts of a run -/

/-- A program and its arguments as a line without its end, with a space before each argument. -/
def lineOf (words : List ByteString) : String :=
  " ".intercalate (words.map Text.lossy)

namespace Pipeline

/-- What the clean stage tells when it succeeds. -/
def cleanEntries (pipeline : Pipeline) : List String :=
  if pipeline.config.options.clean then
    ["INFO: Removing out directory\n", "INFO: Removing build directory\n"]
  else []

/-- What the build stage tells when it succeeds. -/
def buildEntries (pipeline : Pipeline) : List String :=
  if pipeline.config.options.build then
    ["INFO: Running build command\n>> " ++ lineOf [pipeline.programs.compiler] ++ "\n",
      Tone.success.line pipeline.colour "INFO: Build finished successfully"]
  else ["INFO: Skipping build stage\n"]

/-- What the run stage tells when it succeeds. -/
def runEntries (pipeline : Pipeline) : List String :=
  let layout := pipeline.config.layout
  let inputs := pipeline.config.options.inputs
  if inputs = [] then ["INFO: No samples or inputs were specified\n"]
  else
    ["INFO: Creating output directory\n",
      "INFO: Running analyzer\n>> " ++
        lineOf (pipeline.programs.runtime :: (layout.build.join (.ofString "main.js")).bytes ::
          layout.output.bytes :: inputs) ++ "\n",
      Tone.success.line pipeline.colour "INFO: Analyzer finished successfully",
      Tone.result.line pipeline.colour ("INFO: Output path: " ++ pipeline.config.outputPath.display)]

/-- What a run tells when it succeeds. -/
def entries (pipeline : Pipeline) : List String :=
  pipeline.cleanEntries ++ pipeline.buildEntries ++ pipeline.runEntries

end Pipeline

/-! ## Commands -/

lemma Command.display_eq_lineOf (command : Command) :
    command.display = lineOf (command.program :: command.arguments) := by
  have hfold (line : String) (arguments : List ByteString) :
      arguments.foldl (fun line argument => line ++ " " ++ Text.lossy argument) line =
        " ".intercalate (line :: arguments.map Text.lossy) := by
    induction arguments generalizing line with
    | nil => rfl
    | cons argument rest ih =>
      rw [List.foldl_cons, ih]
      rfl
  exact hfold _ _

/-! ## Records -/

/-- The attributes of a line that stands out. -/
def Tone.styles : Tone → List Style
  | .success => [.green]
  | .result => [.bold]
  | .failure => [.red, .bold]

lemma Tone.apply_styles (tone : Tone) (colour : Colour) (text : String) :
    colour.apply tone.styles text ++ "\n" = tone.line colour text := by
  cases colour with
  | plain =>
    rw [Colour.apply_plain]
    cases tone <;> rfl
  | ansi =>
    have hreset : resetCode ++ "\n" = "\x1b[0m\n" := by decide +kernel
    have happly : Colour.ansi.apply tone.styles text ++ "\n" =
        String.join (tone.styles.map Style.code) ++ text ++ "\x1b[0m\n" := by
      rw [← hreset, ← String.append_assoc]
      cases tone <;> rfl
    have hcodes : String.join (tone.styles.map Style.code) ++ text ++ "\x1b[0m\n" =
        tone.line .ansi text := by
      cases tone <;> rfl
    rw [happly, hcodes]

lemma Tone.exists_front (tone : Tone) (colour : Colour) (text : String) :
    ∃ front, tone.line colour text = front ++ "\n" :=
  ⟨_, (tone.apply_styles colour text).symm⟩

/-- Each of the texts ends its line. -/
lemma Pipeline.exists_front_of_mem_entries {pipeline : Pipeline} {entry : String}
    (h : entry ∈ pipeline.entries) : ∃ front, entry = front ++ "\n" := by
  rw [entries, List.mem_append, List.mem_append] at h
  rcases h with (hclean | hbuild) | hrun
  · rw [cleanEntries] at hclean
    split at hclean
    · simp only [List.mem_cons, List.not_mem_nil, or_false] at hclean
      rcases hclean with rfl | rfl
      · exact ⟨"INFO: Removing out directory", rfl⟩
      · exact ⟨"INFO: Removing build directory", rfl⟩
    · cases hclean
  · rw [buildEntries] at hbuild
    split at hbuild
    · simp only [List.mem_cons, List.not_mem_nil, or_false] at hbuild
      rcases hbuild with rfl | rfl
      · exact ⟨_, rfl⟩
      · exact Tone.exists_front _ _ _
    · exact ⟨"INFO: Skipping build stage", List.mem_singleton.1 hbuild⟩
  · rw [runEntries] at hrun
    split at hrun
    · exact ⟨"INFO: No samples or inputs were specified", List.mem_singleton.1 hrun⟩
    · simp only [List.mem_cons, List.not_mem_nil, or_false] at hrun
      rcases hrun with rfl | rfl | rfl | rfl
      · exact ⟨"INFO: Creating output directory", rfl⟩
      · exact ⟨_, rfl⟩
      · exact Tone.exists_front _ _ _
      · exact Tone.exists_front _ _ _

namespace Record

lemma text_note (colour : Colour) (message : String) :
    (Record.note message).text colour = "INFO: " ++ message ++ "\n" := by
  simp [text, note, chunks, infoLine, infoLabel]

lemma text_command (colour : Colour) (message line : String) :
    (Record.command message line).text colour =
      "INFO: " ++ message ++ "\n>> " ++ line ++ "\n" := by
  have hmark : "\n" ++ (commandLabel ++ " ") = "\n>> " := rfl
  rw [← hmark]
  simp [text, chunks, infoLine, infoLabel, String.append_assoc]

lemma text_styled (colour : Colour) (message : String) (tone : Tone) :
    (Record.styled message tone.styles).text colour = tone.line colour ("INFO: " ++ message) := by
  simp [text, styled, chunks, infoLine, infoLabel, tone.apply_styles]

lemma text_error (colour : Colour) (message : String) :
    (Record.error message).text colour = Tone.failure.line colour ("ERROR: " ++ message) := by
  simp [text, chunks, errorLabel, ← Tone.apply_styles, Tone.styles]

end Record

end StagedRun
