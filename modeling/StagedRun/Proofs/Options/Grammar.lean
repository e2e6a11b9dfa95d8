import Mathlib.Tactic.Lemma
import StagedRun.Options.Scan

/-!
# The grammar of command lines

What a command line says is a list of `Clause`s: a switch, or a setting with its values.  `Spells`
is the grammar that relates such a list to the arguments that say it.  It does not mention the scan.

* A switch is spelled by its long name, or by its letter in a cluster.
* A setting may have one value in the same argument: after an equals sign, or as the rest of a
  cluster, where one leading equals sign is dropped.
* Otherwise its values are the arguments after it.  Such a value does not start with a dash, unless
  it is a dash.
* Two dashes may stand at the end.

Not every list of clauses that can be spelled is accepted.  Each clause has to be well formed, and
every word but the one for inputs may stand once (`Clause.once?`).  `Options.ofClauses` is what a
list of clauses chooses.
-/

namespace StagedRun

/-! ## Clauses -/

/-- A switch, or a setting with its values. -/
inductive Clause where
  | switch (switch : Switch)
  | setting (setting : Setting) (values : List ByteString)
  deriving DecidableEq, Repr

namespace Clause

/-- The word of a clause that may not be repeated. -/
def once? : Clause → Option Word
  | .switch flag => some (.switch flag)
  | .setting .input _ => none
  | .setting .output _ => some (.setting .output)
  | .setting .root _ => some (.setting .root)

/-- A setting has values that it can take: inputs and the name of the output are texts, and the
root is not empty. -/
def IsWellFormed : Clause → Prop
  | .switch _ => True
  | .setting .input values => values ≠ [] ∧ ∀ value ∈ values, Text.isUtf8 value = true
  | .setting .output values => ∃ value, values = [value] ∧ Text.isUtf8 value = true
  | .setting .root values => ∃ value, values = [value] ∧ value ≠ []

/-- The switch of a clause. -/
def switch? : Clause → Option Switch
  | .switch flag => some flag
  | .setting _ _ => none

/-- The inputs of a clause. -/
def inputs : Clause → List ByteString
  | .setting .input values => values
  | .setting .output _ | .setting .root _ | .switch _ => []

/-- The value that a clause gives to a setting. -/
def valueFor? (setting : Setting) : Clause → Option ByteString
  | .setting other (value :: _) => if other = setting then some value else none
  | .setting _ [] | .switch _ => none

lemma switch?_eq_some_iff {clause : Clause} {flag : Switch} :
    clause.switch? = some flag ↔ clause.once? = some (.switch flag) := by
  cases clause with
  | switch other => simp [switch?, once?]
  | setting setting values => cases setting <;> simp [switch?, once?]

/-- A well-formed clause gives a value to the setting that it is about. -/
lemma isSome_valueFor?_iff {clause : Clause} (h : clause.IsWellFormed) {setting : Setting}
    (hsetting : setting ≠ .input) :
    (clause.valueFor? setting).isSome = true ↔ clause.once? = some (.setting setting) := by
  cases clause with
  | switch other => simp [valueFor?, once?]
  | setting other values =>
    cases other with
    | input => cases values <;> simp [valueFor?, once?, hsetting.symm]
    | output =>
      obtain ⟨value, rfl, _⟩ := h
      simp [valueFor?, once?]
    | root =>
      obtain ⟨value, rfl, _⟩ := h
      simp [valueFor?, once?]

lemma once?_ne (clause : Clause) : clause.once? ≠ some (.setting .input) ∧
    clause.once? ≠ some .help ∧ clause.once? ≠ some .version := by
  cases clause with
  | switch other => simp [once?]
  | setting setting values => cases setting <;> simp [once?]

end Clause

/-- No word stands twice that may stand once. -/
def Clause.Unrepeated (clauses : List Clause) : Prop :=
  (clauses.filterMap Clause.once?).Nodup

/-- What clauses choose. -/
def Options.ofClauses (clauses : List Clause) : Options where
  build := !decide (.switch .noBuild ∈ clauses)
  inputs := clauses.flatMap Clause.inputs
  output := (clauses.findSome? (Clause.valueFor? .output)).getD
    (Text.encode Options.defaultOutput)
  verbose := decide (.switch .verbose ∈ clauses)
  clean := decide (.switch .clean ∈ clauses)
  root := (clauses.findSome? (Clause.valueFor? .root)).map Path.mk

/-! ## Spellings -/

namespace Word

/-- The letter of a word as a byte. -/
def letterByte? (word : Word) : Option UInt8 :=
  word.letter?.map fun letter => UInt8.ofNat letter.toNat

/-- The argument that is the long name of a word. -/
def long (word : Word) : ByteString :=
  Scan.dash :: Scan.dash :: Text.encode word.name

end Word

/-- An argument that can be a value of an option before it. -/
def StandsAlone (argument : ByteString) : Prop :=
  argument.head? ≠ some Scan.dash ∨ argument = [Scan.dash]

/-- The letters of a cluster, with the clauses that they spell and the setting that is left waiting
for its values. -/
inductive Cluster : List Clause → Option Setting → ByteString → Prop
  | done : Cluster [] none []
  | switch {switch : Switch} {letter : UInt8} {clauses : List Clause} {waiting : Option Setting}
      {letters : ByteString} (hletter : (Word.switch switch).letterByte? = some letter)
      (hrest : Cluster clauses waiting letters) :
      Cluster (.switch switch :: clauses) waiting (letter :: letters)
  | equals {setting : Setting} {letter : UInt8} (value : ByteString)
      (hletter : (Word.setting setting).letterByte? = some letter) :
      Cluster [.setting setting [value]] none (letter :: Scan.equalsSign :: value)
  | rest {setting : Setting} {letter first : UInt8} (more : ByteString)
      (hletter : (Word.setting setting).letterByte? = some letter)
      (hfirst : first ≠ Scan.equalsSign) :
      Cluster [.setting setting [first :: more]] none (letter :: first :: more)
  | waiting {setting : Setting} {letter : UInt8}
      (hletter : (Word.setting setting).letterByte? = some letter) :
      Cluster [] (some setting) [letter]

/-- An argument that starts with a dash, with the clauses that it spells and the setting that is
left waiting for its values. -/
inductive SpellsWord : List Clause → Option Setting → ByteString → Prop
  | switch (switch : Switch) : SpellsWord [.switch switch] none (Word.switch switch).long
  | equals (setting : Setting) (value : ByteString) :
      SpellsWord [.setting setting [value]] none
        ((Word.setting setting).long ++ Scan.equalsSign :: value)
  | waiting (setting : Setting) : SpellsWord [] (some setting) (Word.setting setting).long
  | cluster {clauses : List Clause} {waiting : Option Setting} {letters : ByteString}
      (hletters : letters ≠ []) (hcluster : Cluster clauses waiting letters) :
      SpellsWord clauses waiting (Scan.dash :: letters)

/-- The arguments that spell clauses. -/
inductive Spells : List Clause → List ByteString → Prop
  | done : Spells [] []
  | ended : Spells [] [[Scan.dash, Scan.dash]]
  | word {clauses rest : List Clause} {argument : ByteString} {arguments : List ByteString}
      (hword : SpellsWord clauses none argument) (hrest : Spells rest arguments) :
      Spells (clauses ++ rest) (argument :: arguments)
  | wordWithValues {clauses rest : List Clause} {setting : Setting} {argument : ByteString}
      {values arguments : List ByteString} (hword : SpellsWord clauses (some setting) argument)
      (hvalues : ∀ value ∈ values, StandsAlone value) (hrest : Spells rest arguments) :
      Spells (clauses ++ .setting setting values :: rest) (argument :: (values ++ arguments))

/-! ## What a scan makes of clauses -/

namespace Scan

/-- The scan that knows a clause more.  What was given before is not replaced. -/
def saying (scan : Scan) (clause : Clause) : Scan :=
  { scan with
    switches := scan.switches ++ clause.switch?.toList
    inputs := scan.inputs ++ clause.inputs
    output := scan.output.or (clause.valueFor? .output)
    root := scan.root.or (clause.valueFor? .root) }

/-- Whether a word that may stand once has stood already. -/
def has (scan : Scan) : Word → Bool
  | .switch switch => scan.switches.contains switch
  | .setting .output => scan.output.isSome
  | .setting .root => scan.root.isSome
  | .setting .input | .help | .version => false

/-- A clause can be said after what a scan knows. -/
def Accepts (scan : Scan) (clause : Clause) : Prop :=
  clause.IsWellFormed ∧ ∀ word, clause.once? = some word → scan.has word = false

/-- Clauses can be said one after the other, and `last` knows them all. -/
inductive Applies : Scan → List Clause → Scan → Prop
  | nil (scan : Scan) : Applies scan [] scan
  | cons {scan last : Scan} {clause : Clause} {rest : List Clause} (haccepts : scan.Accepts clause)
      (hrest : Applies (scan.saying clause) rest last) : Applies scan (clause :: rest) last

variable {scan midway last : Scan} {clauses rest : List Clause}

lemma applies_append :
    Applies scan (clauses ++ rest) last ↔
      ∃ midway, Applies scan clauses midway ∧ Applies midway rest last := by
  induction clauses generalizing scan with
  | nil =>
    constructor
    · exact fun h => ⟨scan, .nil scan, h⟩
    · rintro ⟨midway, h, hrest⟩
      cases h
      exact hrest
  | cons clause more ih =>
    constructor
    · intro h
      cases h with
      | cons haccepts hmore =>
        obtain ⟨midway, hfirst, hrest⟩ := ih.1 hmore
        exact ⟨midway, .cons haccepts hfirst, hrest⟩
    · rintro ⟨midway, h, hrest⟩
      cases h with
      | cons haccepts hmore => exact .cons haccepts (ih.2 ⟨midway, hmore, hrest⟩)

lemma Applies.pending_eq (h : Applies scan clauses last) : last.pending = scan.pending := by
  induction h with
  | nil scan => rfl
  | cons _ _ ih => exact ih

lemma Applies.ended_eq (h : Applies scan clauses last) : last.ended = scan.ended := by
  induction h with
  | nil scan => rfl
  | cons _ _ ih => exact ih

lemma has_empty (word : Word) : ({} : Scan).has word = false := by
  rcases word with flag | setting | _ | _
  · rfl
  · cases setting <;> rfl
  · rfl
  · rfl

lemma has_saying {clause : Clause} (h : clause.IsWellFormed) (word : Word) :
    (scan.saying clause).has word = false ↔ scan.has word = false ∧ clause.once? ≠ some word := by
  obtain ⟨hinput, hhelp, hversion⟩ := clause.once?_ne
  have hknown : (scan.saying clause).has word = true ↔
      scan.has word = true ∨ clause.once? = some word := by
    cases word with
    | switch flag => simp [saying, has, Clause.switch?_eq_some_iff]
    | setting setting =>
      cases setting with
      | input => simp [has, hinput]
      | output => simp [saying, has, Clause.isSome_valueFor?_iff h]
      | root => simp [saying, has, Clause.isSome_valueFor?_iff h]
    | help => simp [has, hhelp]
    | version => simp [has, hversion]
  rw [← Bool.not_eq_true, ← Bool.not_eq_true, hknown, not_or]

/-- Clauses can be said in a row if each is well formed, none of their words was known before, and
none of them stands twice. -/
theorem applies_iff :
    Applies scan clauses last ↔
      (∀ clause ∈ clauses, clause.IsWellFormed) ∧
        (∀ word ∈ clauses.filterMap Clause.once?, scan.has word = false) ∧
        Clause.Unrepeated clauses ∧ last = clauses.foldl saying scan := by
  induction clauses generalizing scan with
  | nil =>
    constructor
    · intro h
      cases h
      exact ⟨by simp, by simp, List.nodup_nil, rfl⟩
    · rintro ⟨_, _, _, rfl⟩
      exact .nil _
  | cons clause rest ih =>
    have hwords : ∀ word, word ∈ (clause :: rest).filterMap Clause.once? ↔
        clause.once? = some word ∨ word ∈ rest.filterMap Clause.once? := by
      intro word
      simp [List.mem_filterMap]
    have hunrepeated : Clause.Unrepeated (clause :: rest) ↔
        (∀ word ∈ rest.filterMap Clause.once?, clause.once? ≠ some word) ∧
          Clause.Unrepeated rest := by
      unfold Clause.Unrepeated
      cases honce : clause.once? with
      | none => simp [honce]
      | some word =>
        rw [List.filterMap_cons_some honce, List.nodup_cons, and_congr_left_iff]
        intro _
        exact ⟨fun h other hother hsame => h (Option.some.inj hsame ▸ hother), fun h hword =>
          h word hword rfl⟩
    constructor
    · intro h
      cases h with
      | cons haccepts hrest =>
        obtain ⟨hwell, hfresh, hnodup, hlast⟩ := ih.1 hrest
        have hboth := fun word hword => (has_saying haccepts.1 word).1 (hfresh word hword)
        refine ⟨List.forall_mem_cons.2 ⟨haccepts.1, hwell⟩, ?_, ?_, hlast⟩
        · intro word hword
          rcases (hwords word).1 hword with honce | hword
          · exact haccepts.2 word honce
          · exact (hboth word hword).1
        · exact hunrepeated.2 ⟨fun word hword => (hboth word hword).2, hnodup⟩
    · rintro ⟨hwell, hfresh, hnodup, hlast⟩
      obtain ⟨hclause, hwell⟩ := List.forall_mem_cons.1 hwell
      obtain ⟨hother, hnodup⟩ := hunrepeated.1 hnodup
      refine .cons ⟨hclause, fun word honce => hfresh word ((hwords word).2 (.inl honce))⟩ ?_
      refine ih.2 ⟨hwell, fun word hword => ?_, hnodup, hlast⟩
      exact (has_saying hclause word).2 ⟨hfresh word ((hwords word).2 (.inr hword)),
        hother word hword⟩

/-! ## What clauses choose -/

lemma foldl_saying (clauses : List Clause) (scan : Scan) :
    clauses.foldl saying scan =
      { scan with
        switches := scan.switches ++ clauses.filterMap Clause.switch?
        inputs := scan.inputs ++ clauses.flatMap Clause.inputs
        output := scan.output.or (clauses.findSome? (Clause.valueFor? .output))
        root := scan.root.or (clauses.findSome? (Clause.valueFor? .root)) } := by
  induction clauses generalizing scan with
  | nil => simp
  | cons clause rest ih =>
    have hswitches : (clause :: rest).filterMap Clause.switch? =
        clause.switch?.toList ++ rest.filterMap Clause.switch? := by
      cases hswitch : clause.switch? <;> simp [hswitch]
    have hfirst (setting : Setting) : (clause :: rest).findSome? (Clause.valueFor? setting) =
        (clause.valueFor? setting).or (rest.findSome? (Clause.valueFor? setting)) := by
      cases hvalue : clause.valueFor? setting <;> simp [hvalue]
    rw [List.foldl_cons, ih, hswitches, hfirst, hfirst]
    simp [saying, Option.or_assoc]

/-- A scan that knows clauses chooses what the clauses choose. -/
lemma options_foldl_saying (clauses : List Clause) :
    (clauses.foldl saying {}).options = Options.ofClauses clauses := by
  have hswitch (flag : Switch) :
      (clauses.filterMap Clause.switch?).contains flag = decide (.switch flag ∈ clauses) := by
    have hmem : flag ∈ clauses.filterMap Clause.switch? ↔ .switch flag ∈ clauses := by
      rw [List.mem_filterMap]
      constructor
      · rintro ⟨clause, hmem, hflag⟩
        cases clause with
        | switch other =>
          obtain rfl := Option.some.inj hflag
          exact hmem
        | setting setting values => cases hflag
      · exact fun hmem => ⟨_, hmem, rfl⟩
    rw [Bool.eq_iff_iff, List.contains_iff_mem, decide_eq_true_iff, hmem]
  rw [foldl_saying, options, Options.ofClauses]
  simp only [List.nil_append, Option.none_or, hswitch]

end Scan

end StagedRun
