import Mathlib.Tactic.Lemma
import StagedRun.Program
import StagedRun.Proofs.Options.Reading

/-!
# What an answer depends on

Two things stand around a command line that is read: the arguments that may follow it, and the
variable that names the root.  This module tells what they can change.

* `Program.main_append`: a definite answer is given at one argument, and no argument after it can
  change it.  Definite are the answers to an argument without a meaning, to a value that is not
  taken, and to a request for help or the version (`Usage.isDefinite`).
* `Options.parse_fallsBack`: the variable counts only where a command line that is read to its end
  names no root.  There it does what the option would do in front of all arguments.

Whatever the variable holds, a command line that is accepted names its output by a text
(`Options.isUtf8_output_of_parse`).

The first law rests on where the answers come from.  All that happens after the last argument is that
values are committed and the variable is looked at, and both complain about values only
(`Scan.isDefinite_of_finish`, `Options.isDefinite_of_withFallback`).  So a definite answer was given
before, while an argument was read, and a row of readings stops there.
-/

namespace StagedRun

/-! ## Readings in a row -/

section Row

variable {ε α σ : Type} {failure : ε}

/-- A row of steps fails at one of them. -/
lemma exists_step_of_foldlM_eq_error {step : σ → α → Except ε σ} {start : σ} {items : List α}
    (h : items.foldlM step start = .error failure) :
    ∃ before item after midway, items = before ++ item :: after ∧
      before.foldlM step start = .ok midway ∧ step midway item = .error failure := by
  induction items generalizing start with
  | nil => cases h
  | cons item items ih =>
    rw [List.foldlM_cons] at h
    rcases bind_eq_error_iff.1 h with hitem | ⟨next, hnext, hrest⟩
    · exact ⟨[], item, items, start, rfl, rfl, hitem⟩
    · obtain ⟨before, found, after, midway, rfl, hbefore, hfound⟩ := ih hrest
      refine ⟨item :: before, found, after, midway, rfl, ?_, hfound⟩
      rw [List.foldlM_cons]
      exact bind_eq_ok_iff.2 ⟨next, hnext, hbefore⟩

/-- What comes after a step that fails makes no difference. -/
lemma foldlM_eq_error_of_step {step : σ → α → Except ε σ} {start midway : σ} {before : List α}
    {item : α} (hbefore : before.foldlM step start = .ok midway)
    (hitem : step midway item = .error failure) (more : List α) :
    (before ++ item :: more).foldlM step start = .error failure := by
  rw [List.foldlM_append, hbefore]
  show (item :: more).foldlM step midway = .error failure
  rw [List.foldlM_cons, hitem]
  rfl

end Row

/-! ## Answers about values -/

/-- An answer that does not wait for what follows. -/
def Usage.isDefinite : Usage → Bool
  | .unexpectedArgument _ | .unexpectedValue _ _ | .help | .version => true
  | .missingValue _ | .repeated _ | .notUtf8 => false

namespace Scan

variable {scan : Scan} {usage : Usage}

lemma isDefinite_of_checkTexts {values : List ByteString} (h : checkTexts values = .error usage) :
    usage.isDefinite = false := by
  unfold checkTexts at h
  split at h
  · cases h
  · cases h
    rfl

lemma isDefinite_of_assign {setting : Setting} {values : List ByteString}
    (h : scan.assign setting values = .error usage) : usage.isDefinite = false := by
  cases values with
  | nil =>
    cases setting <;>
    · cases h
      rfl
  | cons value more =>
    cases setting with
    | input =>
      rcases bind_eq_error_iff.1 h with htexts | ⟨_, _, hnext⟩
      · exact isDefinite_of_checkTexts htexts
      · cases hnext
    | output =>
      rw [assign] at h
      split at h
      · cases h
        rfl
      · rcases bind_eq_error_iff.1 h with htexts | ⟨_, _, hnext⟩
        · exact isDefinite_of_checkTexts htexts
        · cases hnext
    | root =>
      rw [assign] at h
      split at h
      · cases h
        rfl
      · dsimp only at h
        split at h
        · cases h
          rfl
        · cases h

/-- A setting that waits complains about its values only. -/
lemma isDefinite_of_commit (h : scan.commit = .error usage) : usage.isDefinite = false := by
  unfold commit at h
  split at h
  · cases h
  · exact isDefinite_of_assign h

/-- The end of a command line gives no definite answer. -/
lemma isDefinite_of_finish (h : scan.finish = .error usage) : usage.isDefinite = false := by
  rcases bind_eq_error_iff.1 h with hcommit | ⟨_, _, hnext⟩
  · exact isDefinite_of_commit hcommit
  · cases hnext

end Scan

namespace Options

variable {root : Option ByteString} {arguments before : List ByteString} {usage : Usage}
  {options : Options}

/-- The variable gives no definite answer. -/
lemma isDefinite_of_withFallback (h : options.withFallback root = .error usage) :
    usage.isDefinite = false := by
  unfold withFallback at h
  split at h
  · cases h
  · cases h
  · cases h
    rfl
  · cases h

/-- Arguments that have all been read have no definite answer. -/
lemma isDefinite_of_read {scan : Scan} (hread : arguments.foldlM Scan.read {} = .ok scan)
    (h : parse root arguments = .error usage) : usage.isDefinite = false := by
  rw [parse, ofArguments, hread] at h
  rcases bind_eq_error_iff.1 h with hfinish | ⟨options, _, hfallback⟩
  · exact Scan.isDefinite_of_finish hfinish
  · exact isDefinite_of_withFallback hfallback

lemma parse_of_read_error (h : arguments.foldlM Scan.read {} = .error usage) :
    parse root arguments = .error usage := by
  rw [parse, ofArguments, h]
  rfl

/-- A definite answer is given while the arguments are read. -/
lemma read_eq_error_of_isDefinite (h : parse root arguments = .error usage)
    (hdefinite : usage.isDefinite = true) : arguments.foldlM Scan.read {} = .error usage := by
  cases hread : arguments.foldlM Scan.read {} with
  | ok scan =>
    rw [isDefinite_of_read hread h] at hdefinite
    cases hdefinite
  | error reason =>
    obtain rfl : reason = usage := Except.error.inj ((parse_of_read_error hread).symm.trans h)
    rfl

end Options

/-- **A definite answer stands.**  Whatever arguments follow a command line with a definite answer,
the answer is the same, and the program does the same.  So a request for help after an argument
without a meaning does not turn the status two into zero.  The answer is given at one argument:
those before it have no definite answer, and those after it make no difference. -/
theorem Program.main_append (environment : Environment) {arguments : List ByteString}
    {usage : Usage}
    (h : Options.parse (environment Options.rootVariable) arguments = .error usage)
    (hdefinite : usage.isDefinite = true) :
    (∀ more, Options.parse (environment Options.rootVariable) (arguments ++ more) =
        .error usage) ∧
      (∀ (m : Type → Type) [Monad m] (machine : Machine m) (more : List ByteString),
        main machine environment (arguments ++ more) = main machine environment arguments) ∧
      (∀ shown, usage = .unexpectedArgument shown → usage.exitStatus = 2) ∧
      ∃ before argument after, arguments = before ++ argument :: after ∧
        (∀ other, Options.parse (environment Options.rootVariable) before = .error other →
          other.isDefinite = false) ∧
        ∀ more, Options.parse (environment Options.rootVariable) (before ++ argument :: more) =
          .error usage := by
  have hread := Options.read_eq_error_of_isDefinite h hdefinite
  obtain ⟨before, argument, after, midway, rfl, hbefore, hargument⟩ :=
    exists_step_of_foldlM_eq_error hread
  have hanswer (more : List ByteString) :
      Options.parse (environment Options.rootVariable) (before ++ argument :: more) =
        .error usage :=
    Options.parse_of_read_error (foldlM_eq_error_of_step hbefore hargument more)
  have happend (more : List ByteString) :
      Options.parse (environment Options.rootVariable) ((before ++ argument :: after) ++ more) =
        .error usage := by
    rw [List.append_assoc]
    exact hanswer (after ++ more)
  refine ⟨happend, ?_, ?_, before, argument, after, rfl, ?_, hanswer⟩
  · intro m _ machine more
    rw [main, main, happend more, h]
  · rintro shown rfl
    rfl
  · exact fun other hother => Options.isDefinite_of_read hbefore hother

/-- An unknown word, while an input is waiting for its values, and whatever comes after it. -/
theorem Program.main_append_unknown :
    let environment : Environment := fun _ => none
    let arguments := [Text.encode "-i", Text.encode "a.ts", Text.encode "--bogus"]
    let usage : Usage := .unexpectedArgument "--bogus"
    Options.parse (environment Options.rootVariable) arguments = .error usage ∧
      usage.isDefinite = true ∧
      (∀ more, Options.parse (environment Options.rootVariable) (arguments ++ more) =
        .error usage) ∧
      (∀ (m : Type → Type) [Monad m] (machine : Machine m) (more : List ByteString),
        main machine environment (arguments ++ more) = main machine environment arguments) ∧
      (∀ shown, usage = .unexpectedArgument shown → usage.exitStatus = 2) ∧
      ∃ before argument after, arguments = before ++ argument :: after ∧
        (∀ other, Options.parse (environment Options.rootVariable) before = .error other →
          other.isDefinite = false) ∧
        ∀ more, Options.parse (environment Options.rootVariable) (before ++ argument :: more) =
          .error usage := by
  intro environment arguments usage
  have hparse : Options.parse (environment Options.rootVariable) arguments = .error usage := by
    decide +kernel
  exact ⟨hparse, rfl, main_append environment hparse rfl⟩

/-- A missing value is no definite answer, as it may follow. -/
example :
    Options.parse none [Text.encode "-o"] = .error (.missingValue .output) ∧
      Options.parse none [Text.encode "-o", Text.encode "g"] =
        .ok { output := Text.encode "g" } := by
  exact ⟨rfl, rfl⟩

/-! ## The variable that names the root -/

namespace Clause

/-- Where no clause gives a root, none is about the root. -/
lemma once?_ne_root {clauses : List Clause} (hwell : ∀ clause ∈ clauses, clause.IsWellFormed)
    (hroot : clauses.findSome? (valueFor? .root) = none) :
    .setting .root ∉ clauses.filterMap once? := by
  intro hmem
  obtain ⟨clause, hclause, honce⟩ := List.mem_filterMap.1 hmem
  have hsome := (isSome_valueFor?_iff (hwell clause hclause) (by decide)).2 honce
  rw [List.findSome?_eq_none_iff.1 hroot clause hclause] at hsome
  cases hsome

/-- A value that clauses give to a setting is all that one of them says. -/
lemma mem_of_findSome? {clauses : List Clause} (hwell : ∀ clause ∈ clauses, clause.IsWellFormed)
    {setting : Setting} (hsetting : setting ≠ .input) {value : ByteString}
    (hgiven : clauses.findSome? (valueFor? setting) = some value) :
    .setting setting [value] ∈ clauses := by
  obtain ⟨clause, hclause, hvalue⟩ := List.exists_of_findSome?_eq_some hgiven
  cases clause with
  | switch flag => cases hvalue
  | setting other values =>
    cases values with
    | nil => cases hvalue
    | cons first more =>
      obtain ⟨rfl, rfl⟩ : other = setting ∧ first = value := by
        simpa [valueFor?] using hvalue
      have hform := hwell _ hclause
      cases other with
      | input => exact absurd rfl hsetting
      | output | root =>
        obtain ⟨only, honly, _⟩ := hform
        obtain ⟨rfl, rfl⟩ := List.cons.inj honly
        exact hclause

/-- A root that clauses give is the value of one of them. -/
lemma mem_of_findSome?_root {clauses : List Clause}
    (hwell : ∀ clause ∈ clauses, clause.IsWellFormed) {value : ByteString}
    (hroot : clauses.findSome? (valueFor? .root) = some value) :
    .setting .root [value] ∈ clauses :=
  mem_of_findSome? hwell (by decide) hroot

end Clause

namespace Scan

variable {scan last : Scan} {clauses : List Clause}

lemma root_of_applies (h : Applies {} clauses last) :
    last.root = clauses.findSome? (Clause.valueFor? .root) := by
  obtain ⟨_, _, _, rfl⟩ := applies_iff.1 h
  rw [foldl_saying]
  simp

/-- Where no root is given, one can be given in front. -/
lemma Applies.with_root (h : Applies {} clauses last) (hroot : last.root = none)
    {value : ByteString} (hvalue : value ≠ []) :
    Applies {} (.setting .root [value] :: clauses) { last with root := some value } := by
  rw [root_of_applies h] at hroot
  obtain ⟨hwell, _, hunrepeated, rfl⟩ := applies_iff.1 h
  have hfirst : (Clause.setting .root [value]).IsWellFormed := ⟨value, rfl, hvalue⟩
  refine .cons ⟨hfirst, fun word _ => has_empty word⟩ ?_
  refine applies_iff.2 ⟨hwell, fun word hword => ?_, hunrepeated, ?_⟩
  · refine (has_saying hfirst word).2 ⟨has_empty word, fun honce => ?_⟩
    obtain rfl : .setting .root = word := Option.some.inj honce
    exact Clause.once?_ne_root hwell hroot hword
  · simp [foldl_saying, saying, Clause.switch?, Clause.inputs, Clause.valueFor?]

end Scan

namespace Options

/-- The argument that names a root. -/
def rootArgument (value : ByteString) : ByteString :=
  (Word.setting .root).long ++ Scan.equalsSign :: value

variable {root : Option ByteString} {arguments : List ByteString} {options : Options}
  {value : ByteString}

lemma parse_none (arguments : List ByteString) : parse none arguments = ofArguments arguments := by
  have hfallback (options : Options) : options.withFallback none = .ok options := by
    cases hroot : options.root <;> simp [withFallback, hroot]
  rw [parse]
  cases ofArguments arguments with
  | error usage => rfl
  | ok options => exact hfallback options

/-- A command line that is accepted spells clauses that can be said. -/
lemma parse_none_eq_ok_iff :
    parse none arguments = .ok options ↔
      ∃ clauses last, Spells clauses arguments ∧ Scan.Applies {} clauses last ∧
        options = last.options := by
  rw [parse_none]
  exact Scan.readRest_eq_ok_iff (Scan.isModest_of_pending_eq_none rfl) rfl

lemma output_of_withFallback {chosen : Options} (h : options.withFallback root = .ok chosen) :
    chosen.output = options.output := by
  unfold withFallback at h
  split at h
  · rw [Except.ok.inj h]
  · rw [Except.ok.inj h]
  · cases h
  · obtain rfl := Except.ok.inj h
    rfl

/-- The name of the output is a text, if a command line is accepted. -/
theorem isUtf8_output_of_parse (h : parse root arguments = .ok options) :
    Text.isUtf8 options.output = true := by
  obtain ⟨given, hgiven, hfallback⟩ := bind_eq_ok_iff.1 h
  rw [output_of_withFallback hfallback]
  rw [← parse_none, parse_none_eq_ok_iff] at hgiven
  obtain ⟨clauses, last, _, happlies, rfl⟩ := hgiven
  obtain ⟨hwell, _, _, rfl⟩ := Scan.applies_iff.1 happlies
  rw [Scan.options_foldl_saying, ofClauses]
  have hdefault : Text.isUtf8 (Text.encode defaultOutput) = true := by decide +kernel
  cases hfound : clauses.findSome? (Clause.valueFor? .output) with
  | none => exact hdefault
  | some value =>
    obtain ⟨only, honly, htext⟩ := hwell _ (Clause.mem_of_findSome? hwell (by decide) hfound)
    obtain rfl := (List.cons.inj honly).1
    exact htext

lemma parse_some_of_error {usage : Usage} (h : parse none arguments = .error usage) :
    parse (some value) arguments = .error usage := by
  rw [parse_none] at h
  rw [parse, h]
  rfl

lemma parse_some_of_ok (h : parse none arguments = .ok options) :
    parse (some value) arguments = options.withFallback (some value) := by
  rw [parse_none] at h
  rw [parse, h]
  rfl

/-- No text for the error output shows the variable. -/
lemma message_eq_of_exitStatus {usage : Usage} (h : usage.exitStatus = 2)
    (root other : Option ByteString) : usage.message root = usage.message other := by
  cases usage with
  | help => cases h
  | _ => rfl

/-- How the variable stands in for an option that names the root. -/
structure FallsBack (value : ByteString) (arguments : List ByteString) : Prop where
  /-- A command line that has an answer has the same one, and only the text of the help shows the
  variable. -/
  answered : ∀ usage, parse none arguments = .error usage →
    parse (some value) arguments = .error usage ∧
      (usage.exitStatus = 2 → usage.message (some value) = usage.message none)
  /-- A root that the command line names is not replaced, whatever the variable holds. -/
  named : ∀ options path, parse none arguments = .ok options → options.root = some path →
    parse (some value) arguments = .ok options ∧
      ∃ clauses, Spells clauses arguments ∧ .setting .root [path.bytes] ∈ clauses
  /-- Otherwise the variable does what the option would do in front of the arguments. -/
  unnamed : ∀ options, parse none arguments = .ok options → options.root = none → value ≠ [] →
    parse (some value) arguments = .ok { options with root := some ⟨value⟩ } ∧
      parse none (rootArgument value :: arguments) = parse (some value) arguments
  /-- A variable that holds nothing is a value that is missing. -/
  empty : ∀ options, parse none arguments = .ok options → options.root = none → value = [] →
    parse (some value) arguments = .error (.missingValue .root)

end Options

/-- **The variable is a fallback.**  A command line that cannot be read gets the same answer with
the same text, whatever the variable holds.  One that names a root chooses the same with any
variable, also with one that is empty or no text.  One that names none chooses the same but for the
root, which is exactly what the variable holds, as if the option had been given in front of all
arguments.  An empty variable is then answered like an empty value of the option. -/
theorem Options.parse_fallsBack (value : ByteString) (arguments : List ByteString) :
    FallsBack value arguments := by
  constructor
  case answered =>
    intro usage h
    exact ⟨parse_some_of_error h, fun hstatus => message_eq_of_exitStatus hstatus _ _⟩
  case named =>
    intro options path h hroot
    refine ⟨?_, ?_⟩
    · rw [parse_some_of_ok h]
      simp only [withFallback, hroot]
    · obtain ⟨clauses, last, hspells, happlies, rfl⟩ := parse_none_eq_ok_iff.1 h
      obtain ⟨value, hvalue, rfl⟩ := Option.map_eq_some_iff.1 hroot
      rw [Scan.root_of_applies happlies] at hvalue
      exact ⟨clauses, hspells, Clause.mem_of_findSome?_root (Scan.applies_iff.1 happlies).1 hvalue⟩
  case unnamed =>
    intro options h hroot hvalue
    have hsome : parse (some value) arguments = .ok { options with root := some ⟨value⟩ } := by
      obtain ⟨first, more, rfl⟩ := List.exists_cons_of_ne_nil hvalue
      rw [parse_some_of_ok h]
      simp only [withFallback, hroot]
    refine ⟨hsome, ?_⟩
    rw [hsome, parse_none_eq_ok_iff]
    obtain ⟨clauses, last, hspells, happlies, rfl⟩ := parse_none_eq_ok_iff.1 h
    have hlast : last.root = none := Option.map_eq_none_iff.1 hroot
    exact ⟨_, _, .word (.equals .root value) hspells, happlies.with_root hlast hvalue, rfl⟩
  case empty =>
    rintro options h hroot rfl
    rw [parse_some_of_ok h]
    simp only [withFallback, hroot]

end StagedRun
