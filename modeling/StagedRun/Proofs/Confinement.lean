import StagedRun.Proofs.Directories
import StagedRun.Proofs.FileSystem.Beside

/-!
# What a run leaves alone

A run may remove its output and its build directory, and it may make the output directory.
`Confined` says of one change that it does no more than that, whatever links there are and however
the change ended.  What a removal takes away stood at the named entry or, if that is a directory and
no link, below it in the tree.  So nothing is removed that is reached through a link only, and the
sources and all other entries of the root stay as they are.

`Passes` follows the files through a history and asks `Confined` of every change that the run made
itself; what children do to the files is their affair.  The stages pass (`passes_of_goes`), so does
a run (`execute_confines_changes`).

The three directories of a layout share all steps but the last, so they are three entries of one
directory, and none of them can be below another one (`not_below_of_ne`).  A removal that ends in one
of them therefore misses the others.
-/

namespace StagedRun

variable {κ σ : Type}

namespace FileSystem

/-- Entries of one directory are not below one another. -/
lemma not_below_of_ne {name other : Name} (h : other ≠ name) (above below : Place) :
    ¬name :: above <:+ below ++ other :: above := by
  intro hbelow
  have hother : other :: above <:+ below ++ other :: above := List.suffix_append _ _
  have hsame : name :: above <:+ other :: above :=
    List.suffix_of_suffix_length_le hbelow hother (by simp)
  have heq : name :: above = other :: above := hsame.eq_of_length (by simp)
  exact h (List.cons.inj heq).1.symm

end FileSystem

namespace Pipeline

/-! ## One change -/

/-- The entries of the root other than the two directories of a run are as they were, with
everything below them. -/
def Spares (pipeline : Pipeline) (current : Place) (before after : FileSystem) : Prop :=
  ∀ above, before.LeadsInto current pipeline.config.layout.root above →
    ∀ name below, name ≠ (Path.ofString Layout.outputName).bytes →
      name ≠ (Path.ofString Layout.buildName).bytes →
      after.get? (below ++ name :: above) = before.get? (below ++ name :: above)

/-- A change that a run made keeps within its limits. -/
structure Confined (pipeline : Pipeline) (current : Place) (before after : FileSystem) : Prop where
  /-- What was there is there, or the run cleans and it was one of the two directories, or below
  one that is a directory itself. -/
  kept : ∀ place entry, before.get? place = some entry →
    after.get? place = some entry ∨
      after.get? place = none ∧ pipeline.config.options.clean = true ∧
        ∃ target, (before.Names current pipeline.config.layout.output target ∨
          before.Names current pipeline.config.layout.build target) ∧
        (place = target ∨ target <:+ place ∧ before.get? target = some .directory)
  /-- What was not there is the output directory, and there are inputs. -/
  added : ∀ place entry, before.get? place = none → after.get? place = some entry →
    entry = .directory ∧ pipeline.config.options.inputs ≠ [] ∧
      after.Names current pipeline.config.layout.output place
  spared : pipeline.Spares current before after
  /-- The sources are as they were. -/
  sources : ∀ place, before.Names current pipeline.config.layout.sources place →
    ∀ below, after.get? (below ++ place) = before.get? (below ++ place)
  refusal : after.refusal = before.refusal

variable {pipeline : Pipeline} {current : Place} {fs : FileSystem}

/-- The sources are one of the other entries of the root. -/
lemma Spares.sources {after : FileSystem} (h : pipeline.Spares current fs after) {place : Place}
    (hplace : fs.Names current pipeline.config.layout.sources place) (below : Place) :
    after.get? (below ++ place) = fs.get? (below ++ place) := by
  obtain ⟨links, hlocate⟩ := hplace
  obtain ⟨_, above, _, _, habove, _, _⟩ :=
    FileSystem.leadsInto_of_locate Layout.isPlain_sourcesName hlocate
  have hsources : place = (Path.ofString Layout.sourcesName).bytes :: above :=
    FileSystem.Names.eq Layout.isPlain_sourcesName ⟨links, hlocate⟩ habove
  rw [hsources]
  exact h above habove _ below (by decide) (by decide)

/-- A removal of one of the two directories is confined, also when it stops midway. -/
lemma confined_removeTree (hclean : pipeline.config.options.clean = true) {name : String}
    (hname : name = Layout.outputName ∨ name = Layout.buildName) :
    pipeline.Confined current fs
      (fs.removeTree current (pipeline.config.layout.root.join (.ofString name))).1 := by
  have hplain : Path.IsPlain (Path.ofString name).bytes := by
    rcases hname with rfl | rfl
    · exact Layout.isPlain_outputName
    · exact Layout.isPlain_buildName
  let path := pipeline.config.layout.root.join (.ofString name)
  let after := (fs.removeTree current path).1
  have hwithin : after.Within fs := fs.removeTree_within current path
  have hspares : pipeline.Spares current fs after := by
    intro above habove other below houtput hbuild
    have hother : other ≠ (Path.ofString name).bytes := by
      rcases hname with rfl | rfl
      · exact houtput
      · exact hbuild
    refine FileSystem.get?_removeTree_of_not_below fun place links hlocate => ?_
    rw [FileSystem.Names.eq hplain ⟨links, hlocate⟩ habove]
    exact FileSystem.not_below_of_ne hother above below
  have hlost : ∀ place, after.get? place = fs.get? place ∨
      ∃ target links, fs.locate false current path = .ok (target, links) ∧ target <:+ place := by
    intro place
    by_cases hbelow :
      ∃ target links, fs.locate false current path = .ok (target, links) ∧ target <:+ place
    · exact .inr hbelow
    · refine .inl (FileSystem.get?_removeTree_of_not_below fun target links hlocate h => ?_)
      exact hbelow ⟨target, links, hlocate, h⟩
  constructor
  case kept =>
    intro place entry hentry
    rcases hlost place with hsame | ⟨target, links, hlocate, hbelow⟩
    · exact .inl (hsame.trans hentry)
    cases hafter : after.get? place with
    | some found =>
      have hfound := hwithin.entries place found hafter
      exact .inl (hfound.symm.trans hentry)
    | none =>
      have htarget : place = target ∨ target <:+ place ∧ fs.get? target = some .directory := by
        by_cases hsame : place = target
        · exact .inl hsame
        · exact .inr ⟨hbelow, FileSystem.get?_of_below hentry hbelow hsame⟩
      refine .inr ⟨rfl, hclean, target, ?_, htarget⟩
      rcases hname with rfl | rfl
      · exact .inl ⟨links, hlocate⟩
      · exact .inr ⟨links, hlocate⟩
  case added =>
    intro place entry hnone hafter
    have hbefore := hwithin.entries place entry hafter
    rw [hnone] at hbefore
    cases hbefore
  case spared => exact hspares
  case sources => exact fun place hplace => hspares.sources hplace
  case refusal => exact hwithin.refusal

lemma zero_not_mem_outputName : 0 ∉ (Path.ofString Layout.outputName).bytes := by decide

/-- A change that changes nothing is confined. -/
lemma confined_refl (pipeline : Pipeline) (current : Place) (fs : FileSystem) :
    pipeline.Confined current fs fs where
  kept _ _ hentry := .inl hentry
  added _ _ hnone hafter := by
    rw [hnone] at hafter
    cases hafter
  spared _ _ _ _ _ _ := rfl
  sources _ _ _ := rfl
  refusal := rfl

/-- Making the output directory beside the build directory is confined. -/
lemma confined_makeDirectories (hinputs : pipeline.config.options.inputs ≠ [])
    (hbuild : fs.isDirectory current pipeline.config.layout.build = true) :
    pipeline.Confined current fs
      (fs.makeDirectories current pipeline.config.layout.output).1 := by
  have hthere : fs.isDirectory current
      (pipeline.config.layout.root.join ⟨(Path.ofString Layout.buildName).bytes⟩) = true := hbuild
  have hmake := FileSystem.makeDirectories_beside Layout.isPlain_outputName
    Layout.isPlain_buildName zero_not_mem_outputName (by decide) (by decide) hthere
  rcases hmake with hsame | ⟨above, directory, free, habove, hmade⟩
  · have houtput : (fs.makeDirectories current pipeline.config.layout.output).1 = fs := hsame
    rw [houtput]
    exact pipeline.confined_refl current fs
  let name := (Path.ofString Layout.outputName).bytes
  let made := fs.insert name above .directory directory free
  have hmakes : fs.makeDirectories current pipeline.config.layout.output = (made, .ok ()) := hmade
  rw [hmakes]
  have hwithin : fs.Within made := fs.within_insert _ _ _ directory free
  have hspot : ∀ spot, made.get? spot = if spot = name :: above then some .directory else
      fs.get? spot := fun spot => fs.get?_insert name above .directory directory free spot
  have hspares : pipeline.Spares current fs made := by
    intro other hother sibling below houtput _
    obtain rfl := habove.unique hother
    rw [hspot, if_neg]
    intro hsame
    have hbelow := FileSystem.not_below_of_ne houtput other below
    rw [hsame] at hbelow
    exact hbelow (List.suffix_refl _)
  constructor
  case kept => exact fun place entry hentry => .inl (hwithin.entries place entry hentry)
  case added =>
    intro place entry hnone hafter
    rw [hspot] at hafter
    split at hafter
    · next hplace =>
      have hthere : made.isDirectory current pipeline.config.layout.output = true :=
        FileSystem.isDirectory_makeDirectories pipeline.config.layout.isEmpty_output
          pipeline.config.layout.trimSeparators_output hmakes
      have hnames := FileSystem.names_of_isDirectory Layout.isPlain_outputName hthere
        (habove.within hwithin)
      rw [hplace]
      exact ⟨(Option.some.inj hafter).symm, hinputs, hnames⟩
    · rw [hnone] at hafter
      cases hafter
  case spared => exact hspares
  case sources => exact fun place hplace => hspares.sources hplace
  case refusal => rfl

/-! ## Histories -/

/-- The files go through a history from the first file system to the second, and every change that
the run made itself is confined. -/
inductive Passes (pipeline : Pipeline) (current : Place) :
    FileSystem → List Happening → FileSystem → Prop
  | done (files : FileSystem) : Passes pipeline current files [] files
  | wrote {files last : FileSystem} {rest : List Happening} (bytes : ByteString)
      (hrest : Passes pipeline current files rest last) :
      Passes pipeline current files (.wrote bytes :: rest) last
  | changed {files next last : FileSystem} {rest : List Happening}
      (hconfined : pipeline.Confined current files next)
      (hrest : Passes pipeline current next rest last) :
      Passes pipeline current files (.changed files next :: rest) last
  | ran {files next last : FileSystem} {rest : List Happening} (command : Command)
      (answer : Except SystemError Exit) (hrest : Passes pipeline current next rest last) :
      Passes pipeline current files (.ran command files answer next :: rest) last

lemma Passes.append {files midway last : FileSystem} {first rest : List Happening}
    (h : pipeline.Passes current files first midway)
    (h' : pipeline.Passes current midway rest last) :
    pipeline.Passes current files (first ++ rest) last := by
  induction h with
  | done files => exact h'
  | wrote bytes _ ih => exact .wrote bytes (ih h')
  | changed hconfined _ ih => exact .changed hconfined (ih h')
  | ran command answer _ ih => exact .ran command answer (ih h')

lemma passes_told (pipeline : Pipeline) (current : Place) (files : FileSystem) (record : Record) :
    pipeline.Passes current files (pipeline.told record) files := by
  unfold told
  split
  · induction record.chunks pipeline.colour with
    | nil => exact .done files
    | cons chunk rest ih => exact .wrote _ ih
  · exact .done files

/-- What happened between two scenes leads from the files of the first to those of the second. -/
def PassesTo (pipeline : Pipeline) (scene after : Scene κ) : Prop :=
  after.current = scene.current ∧ ∃ happenings, after.history = scene.history ++ happenings ∧
    pipeline.Passes scene.current scene.files happenings after.files

variable {children : Children κ} {stage : Stage} {stages : List Stage} {scene after : Scene κ}
  {outcome : Except Failure Unit}

lemma passesTo_refl (pipeline : Pipeline) (scene : Scene κ) : pipeline.PassesTo scene scene :=
  ⟨rfl, [], (List.append_nil _).symm, .done _⟩

lemma PassesTo.trans {midway : Scene κ} (h : pipeline.PassesTo scene midway)
    (h' : pipeline.PassesTo midway after) : pipeline.PassesTo scene after := by
  obtain ⟨hcurrent, first, hfirst, hpasses⟩ := h
  obtain ⟨hcurrent', rest, hrest, hpasses'⟩ := h'
  rw [hcurrent] at hpasses'
  refine ⟨hcurrent'.trans hcurrent, first ++ rest, ?_, hpasses.append hpasses'⟩
  rw [hrest, hfirst, List.append_assoc]

lemma passesTo_tell (pipeline : Pipeline) (scene : Scene κ) (record : Record) :
    pipeline.PassesTo scene (scene.tell pipeline record) :=
  ⟨rfl, _, rfl, pipeline.passes_told _ _ _⟩

lemma passesTo_handed (pipeline : Pipeline) (children : Children κ) (scene : Scene κ)
    (command : Command) : pipeline.PassesTo scene (scene.handed children command) :=
  ⟨rfl, _, rfl, .ran command _ (.done _)⟩

lemma passesTo_changed {files : FileSystem}
    (h : pipeline.Confined scene.current scene.files files) :
    pipeline.PassesTo scene (scene.changed files) :=
  ⟨rfl, _, rfl, .changed h (.done _)⟩

/-! ## Stages -/

lemma Removes.passesTo {name : String}
    (hclean : pipeline.config.options.clean = true)
    (hname : name = Layout.outputName ∨ name = Layout.buildName)
    (h : pipeline.Removes name (pipeline.config.layout.root.join (.ofString name)) scene outcome
      after) :
    pipeline.PassesTo scene after := by
  have htold := pipeline.passesTo_tell scene (removing name)
  have hconfined : pipeline.Confined scene.current scene.files
      (scene.files.removeTree scene.current _).1 := confined_removeTree hclean hname
  cases h with
  | absent _ => exact htold
  | removed _ hremove =>
    rw [hremove] at hconfined
    exact htold.trans (passesTo_changed hconfined)
  | refused _ hremove =>
    rw [hremove] at hconfined
    exact htold.trans (passesTo_changed hconfined)

lemma Cleans.passesTo (h : pipeline.Cleans scene outcome after) :
    pipeline.PassesTo scene after := by
  cases h with
  | skipped _ => exact pipeline.passesTo_refl scene
  | stopped hclean houtput => exact Removes.passesTo hclean (.inl rfl) houtput
  | went hclean houtput hbuild =>
    have hfirst := Removes.passesTo hclean (.inl rfl) houtput
    exact hfirst.trans (Removes.passesTo hclean (.inr rfl) hbuild)

lemma Builds.passesTo (h : pipeline.Builds children scene outcome after) :
    pipeline.PassesTo scene after := by
  have hhanded := (pipeline.passesTo_tell scene pipeline.startingBuild).trans
    (pipeline.passesTo_handed children _ pipeline.buildCommand)
  cases h with
  | skipped _ => exact pipeline.passesTo_tell scene skippingBuild
  | failed _ _ => exact hhanded
  | succeeded _ _ => exact hhanded.trans (pipeline.passesTo_tell _ buildFinished)

lemma passesTo_prepared {files : FileSystem} {answer : Except SystemError Unit}
    (hinputs : pipeline.config.options.inputs ≠ [])
    (hbuild : scene.isDirectory pipeline.config.layout.build = true)
    (hmake : scene.files.makeDirectories scene.current pipeline.config.layout.output =
      (files, answer)) :
    pipeline.PassesTo scene (pipeline.prepared scene files) := by
  have hconfined := confined_makeDirectories hinputs hbuild
  rw [hmake] at hconfined
  exact (pipeline.passesTo_tell scene creatingOutput).trans (passesTo_changed hconfined)

lemma Analyzes.passesTo (h : pipeline.Analyzes children scene outcome after) :
    pipeline.PassesTo scene after := by
  have hhanded (midway : Scene κ) := (pipeline.passesTo_tell midway pipeline.startingAnalyzer).trans
    (pipeline.passesTo_handed children _ pipeline.runCommand)
  cases h with
  | idle _ => exact pipeline.passesTo_tell scene noInputs
  | missing _ _ => exact pipeline.passesTo_refl scene
  | unmade hinputs hbuild hmake => exact passesTo_prepared hinputs hbuild hmake
  | failed hinputs hbuild hmake _ =>
    exact (passesTo_prepared hinputs hbuild hmake).trans (hhanded _)
  | succeeded hinputs hbuild hmake _ =>
    have hanalyzed := (passesTo_prepared hinputs hbuild hmake).trans (hhanded _)
    exact (hanalyzed.trans (pipeline.passesTo_tell _ analyzerFinished)).trans
      (pipeline.passesTo_tell _ pipeline.outputLocation)

lemma passesTo_of_goes (h : pipeline.Goes children scene stage outcome after) :
    pipeline.PassesTo scene after := by
  cases stage with
  | clean => exact Cleans.passesTo h
  | build => exact Builds.passesTo h
  | run => exact Analyzes.passesTo h

lemma passesTo_of_takes (h : pipeline.Takes (Scene.host children) stages scene outcome after) :
    pipeline.PassesTo scene after := by
  induction h with
  | done scene => exact pipeline.passesTo_refl scene
  | failed hstage => exact passesTo_of_goes (goes_of_carryOut hstage)
  | passed hstage _ ih => exact (passesTo_of_goes (goes_of_carryOut hstage)).trans ih

/-- **A run is confined.**  Whatever the files are, with links anywhere, and however the run ends,
each change that it makes itself is confined: without cleaning nothing goes or changes, a removal
takes only what is at or below the output and the build directory, and the one thing that is ever
made is the output directory.  The history holds every change, because the files go through it from
the first to the last. -/
theorem execute_confines_changes (children : Children κ) (sink : Sink σ) (pipeline : Pipeline)
    (world : World κ σ) :
    let result := carryOut (pipeline.execute (World.host children sink)) world
    ∃ happenings, result.2.history = world.history ++ happenings ∧
      pipeline.Passes world.current world.files happenings result.2.files := by
  intro result
  exact (passesTo_of_takes (takes_scene children sink pipeline world)).2

end Pipeline

end StagedRun
