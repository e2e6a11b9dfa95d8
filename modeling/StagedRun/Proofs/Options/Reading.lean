import Mathlib.Tactic.Lemma
import StagedRun.Proofs.Options.Arguments

/-!
# Command lines that are read

`Options.parse_eq_ok_iff` tells which command lines are accepted, and what they choose: the ones
that `Spells` spells from clauses that are well formed and not repeated, and what the clauses
choose.  Both directions are for arguments that are any bytes.

The proof is an induction over the arguments.  In the middle of a command line a setting may be
waiting with some of its values, which are no part of the arguments that are left.  So the induction
is about `Scan.Denotes`, where the arguments left spell clauses together with what is waiting
(`Resumes`).  There is one lemma for each of the three things that an argument can be: a value, the
end of the options, or a word.
-/

namespace StagedRun

variable {clauses rest : List Clause} {argument : ByteString} {arguments : List ByteString}

/-! ## Spellings by their first argument -/

/-- The arguments go on to spell clauses.  If a setting waits, the first clause is its own. -/
def Resumes (pending : Option (Setting × List ByteString)) (clauses : List Clause)
    (arguments : List ByteString) : Prop :=
  match pending with
  | none => Spells clauses arguments
  | some (setting, values) => ∃ more left rest, (∀ value ∈ more, StandsAlone value) ∧
      Spells rest left ∧ arguments = more ++ left ∧
      clauses = .setting setting (values ++ more) :: rest

lemma SpellsWord.not_standsAlone {waiting : Option Setting}
    (h : SpellsWord clauses waiting argument) : ¬ StandsAlone argument := by
  have hlong (tail : ByteString) : ¬ StandsAlone (Scan.dash :: Scan.dash :: tail) := by
    simp [StandsAlone]
  cases h with
  | switch flag => exact hlong _
  | equals setting value => exact hlong _
  | waiting setting => exact hlong _
  | cluster hletters _ => simp [StandsAlone, hletters]

lemma SpellsWord.ne_end {waiting : Option Setting} (h : SpellsWord clauses waiting argument) :
    argument ≠ [Scan.dash, Scan.dash] := by
  have hlong {tail : ByteString} (htail : tail ≠ []) :
      Scan.dash :: Scan.dash :: tail ≠ [Scan.dash, Scan.dash] := by
    simp [htail]
  cases h with
  | switch flag => exact hlong (Word.encode_name_ne_nil _)
  | equals setting value =>
    exact hlong (List.append_ne_nil_of_left_ne_nil (Word.encode_name_ne_nil _) _)
  | waiting setting => exact hlong (Word.encode_name_ne_nil _)
  | cluster hletters hcluster =>
    intro hsame
    rw [(List.cons.inj hsame).2] at hcluster
    exact Scan.not_cluster_dash hcluster

lemma spells_nil_iff : Spells clauses [] ↔ clauses = [] := by
  constructor
  · intro h
    cases h
    rfl
  · rintro rfl
    exact .done

/-- A value is not the start of a spelling. -/
lemma not_spells_of_standsAlone (h : StandsAlone argument) :
    ¬ Spells clauses (argument :: arguments) := by
  intro hspells
  cases hspells with
  | ended => simp [StandsAlone] at h
  | word hword _ => exact hword.not_standsAlone h
  | wordWithValues hword _ _ => exact hword.not_standsAlone h

/-- Two dashes are the end. -/
lemma spells_end_iff :
    Spells clauses ([Scan.dash, Scan.dash] :: arguments) ↔ clauses = [] ∧ arguments = [] := by
  constructor
  · intro h
    cases h with
    | ended => exact ⟨rfl, rfl⟩
    | word hword _ => exact absurd rfl hword.ne_end
    | wordWithValues hword _ _ => exact absurd rfl hword.ne_end
  · rintro ⟨rfl, rfl⟩
    exact .ended

/-- After a word the arguments go on with what the word leaves waiting. -/
lemma spells_cons_iff (hend : argument ≠ [Scan.dash, Scan.dash]) :
    Spells clauses (argument :: arguments) ↔
      ∃ own waiting rest, SpellsWord own waiting argument ∧
        Resumes (waiting.map fun setting => (setting, [])) rest arguments ∧
        clauses = own ++ rest := by
  constructor
  · intro h
    cases h with
    | ended => exact absurd rfl hend
    | word hword hrest => exact ⟨_, _, _, hword, hrest, rfl⟩
    | wordWithValues hword hvalues hrest =>
      exact ⟨_, _, _, hword, ⟨_, _, _, hvalues, hrest, rfl, rfl⟩, rfl⟩
  · rintro ⟨own, waiting, rest, hword, hrest, rfl⟩
    cases waiting with
    | none => exact .word hword hrest
    | some setting =>
      obtain ⟨more, left, rest, hvalues, hrest, rfl, rfl⟩ := hrest
      exact .wordWithValues hword hvalues hrest

/-- Where no value follows, what waits has got all of its values. -/
lemma resumes_iff {scan : Scan} (h : ∀ first ∈ arguments.head?, ¬ StandsAlone first) :
    Resumes scan.pending clauses arguments ↔
      ∃ rest, Spells rest arguments ∧ clauses = scan.owed ++ rest := by
  cases hpending : scan.pending with
  | none => simp [Resumes, Scan.owed_of_pending_eq_none hpending]
  | some waiting =>
    obtain ⟨setting, values⟩ := waiting
    have howed : scan.owed = [.setting setting values] := by rw [Scan.owed, hpending]
    rw [howed]
    constructor
    · rintro ⟨more, left, rest, hmore, hrest, rfl, rfl⟩
      cases more with
      | nil => exact ⟨rest, hrest, by simp⟩
      | cons value more => exact absurd (hmore value List.mem_cons_self) (h value rfl)
    · rintro ⟨rest, hrest, rfl⟩
      exact ⟨[], arguments, rest, by simp, hrest, rfl, by simp⟩

/-- A value goes to the setting that waits. -/
lemma resumes_cons_iff (h : StandsAlone argument) {setting : Setting} {values : List ByteString} :
    Resumes (some (setting, values)) clauses (argument :: arguments) ↔
      Resumes (some (setting, values ++ [argument])) clauses arguments := by
  constructor
  · rintro ⟨more, left, rest, hmore, hrest, harguments, rfl⟩
    cases more with
    | nil =>
      obtain rfl : left = argument :: arguments := harguments.symm
      exact absurd hrest (not_spells_of_standsAlone h)
    | cons value more =>
      obtain ⟨rfl, rfl⟩ := List.cons.inj harguments
      exact ⟨more, left, rest, fun text htext => hmore text (List.mem_cons_of_mem _ htext), hrest,
        rfl, by simp⟩
  · rintro ⟨more, left, rest, hmore, hrest, rfl, rfl⟩
    exact ⟨argument :: more, left, rest, List.forall_mem_cons.2 ⟨h, hmore⟩, hrest, rfl, by simp⟩

namespace Scan

variable {scan next : Scan} {options : Options}

/-! ## Whole command lines -/

lemma finish_eq_ok_iff (h : scan.IsModest) :
    scan.finish = .ok options ↔
      ∃ last, Applies scan.settled scan.owed last ∧ options = last.options := by
  rw [finish, bind_eq_ok_iff]
  refine exists_congr fun last => and_congr (commit_eq_ok_iff h) ?_
  exact ⟨fun hsame => (Except.ok.inj hsame).symm, fun hsame => congrArg Except.ok hsame.symm⟩

/-- Whether the options have ended makes no difference to clauses. -/
lemma Applies.withEnded {last : Scan} (h : Applies scan clauses last) (ended : Bool) :
    Applies { scan with ended := ended } clauses { last with ended := ended } := by
  induction h with
  | nil scan => exact .nil _
  | cons haccepts _ ih => exact .cons ⟨haccepts.1, haccepts.2⟩ ih

lemma finish_ended_iff (h : scan.IsModest) :
    ({ scan with ended := true } : Scan).finish = .ok options ↔ scan.finish = .ok options := by
  have hended : ({ scan with ended := true } : Scan).IsModest := h
  rw [finish_eq_ok_iff h, finish_eq_ok_iff hended]
  constructor
  · rintro ⟨last, happlies, rfl⟩
    exact ⟨_, happlies.withEnded scan.ended, rfl⟩
  · rintro ⟨last, happlies, rfl⟩
    exact ⟨_, happlies.withEnded true, rfl⟩

/-- After two dashes nothing is read any more. -/
lemma readRest_of_ended (hended : scan.ended = true) :
    arguments.foldlM read scan >>= finish = .ok options ↔
      arguments = [] ∧ scan.finish = .ok options := by
  cases arguments with
  | nil => simp
  | cons argument arguments =>
    rw [List.foldlM_cons, read_of_ended hended]
    simp [bind, Except.bind]

lemma takesMore_iff {setting : Setting} {values : List ByteString} :
    takesMore (setting, values) = true ↔ setting = .input ∨ values = [] := by
  cases setting <;> simp [takesMore]

lemma readValue_eq_ok_iff :
    scan.readValue argument = .ok next ↔
      ∃ setting values, scan.pending = some (setting, values) ∧
        takesMore (setting, values) = true ∧
        next = { scan with pending := some (setting, values ++ [argument]) } := by
  cases hpending : scan.pending with
  | none => simp [readValue, hpending]
  | some waiting =>
    obtain ⟨setting, values⟩ := waiting
    simp only [readValue, hpending]
    by_cases hmore : takesMore (setting, values) = true
    · rw [if_pos hmore]
      constructor
      · intro h
        exact ⟨setting, values, rfl, hmore, (Except.ok.inj h).symm⟩
      · rintro ⟨_, _, ⟨⟩, _, rfl⟩
        rfl
    · rw [if_neg hmore]
      constructor
      · intro h
        cases h
      · rintro ⟨_, _, ⟨⟩, hmore', _⟩
        exact absurd hmore' hmore

/-- A setting that takes no more values cannot be said with more. -/
lemma takesMore_of_isWellFormed {setting : Setting} {values more : List ByteString}
    (h : (Clause.setting setting (values ++ argument :: more)).IsWellFormed) :
    takesMore (setting, values) = true := by
  have hsingle {value : ByteString} (hvalues : values ++ argument :: more = [value]) :
      values = [] := by
    have hlength := congrArg List.length hvalues
    simp only [List.length_append, List.length_cons, List.length_nil] at hlength
    exact List.length_eq_zero_iff.1 (by omega)
  cases setting with
  | input => rfl
  | output =>
    obtain ⟨value, hvalues, _⟩ := h
    exact takesMore_iff.2 (.inr (hsingle hvalues))
  | root =>
    obtain ⟨value, hvalues, _⟩ := h
    exact takesMore_iff.2 (.inr (hsingle hvalues))

lemma isModest_awaiting_value {setting : Setting} {values : List ByteString}
    (h : takesMore (setting, values) = true) :
    ({ scan with pending := some (setting, values ++ [argument]) } : Scan).IsModest := by
  rintro _ _ ⟨⟩
  rcases takesMore_iff.1 h with hinput | rfl
  · exact .inl hinput
  · exact .inr (Nat.le_refl 1)

lemma Meets.isModest {waiting : Option Setting} (h : scan.Meets clauses waiting next) :
    next.IsModest := by
  intro setting values hpending
  rw [h.pending_eq, Option.map_eq_some_iff] at hpending
  obtain ⟨_, _, ⟨⟩⟩ := hpending
  exact .inr (Nat.zero_le 1)

/-- What is said after a word is said after the clauses of the word. -/
lemma applies_iff_meets (waiting : Option Setting) {own : List Clause} {last : Scan} :
    Applies scan.settled (scan.owed ++ (own ++ rest)) last ↔
      ∃ next, scan.Meets own waiting next ∧ Applies next.settled rest last := by
  have hsettled {midway : Scan} (h : Applies scan.settled (scan.owed ++ own) midway) :
      (midway.awaiting waiting).settled = midway :=
    settled_of_pending_eq_none h.pending_eq
  rw [← List.append_assoc, applies_append]
  constructor
  · rintro ⟨midway, hown, hrest⟩
    exact ⟨_, ⟨midway, hown, rfl⟩, (hsettled hown).symm ▸ hrest⟩
  · rintro ⟨_, ⟨midway, hown, rfl⟩, hrest⟩
    exact ⟨midway, hown, hsettled hown ▸ hrest⟩

/-! ## What the arguments that are left denote -/

/-- The arguments that are left go on to spell clauses that can be said, and these choose the
options. -/
def Denotes (scan : Scan) (arguments : List ByteString) (options : Options) : Prop :=
  ∃ clauses last, Resumes scan.pending clauses arguments ∧ Applies scan.settled clauses last ∧
    options = last.options

lemma denotes_nil_iff (h : scan.IsModest) :
    scan.Denotes [] options ↔ scan.finish = .ok options := by
  have hresumes {clauses : List Clause} :
      Resumes scan.pending clauses [] ↔ clauses = scan.owed := by
    rw [resumes_iff (by simp)]
    simp [spells_nil_iff]
  rw [finish_eq_ok_iff h]
  simp only [Denotes, hresumes, exists_and_left, exists_eq_left]

/-- A value goes to the setting that waits.  A setting that takes no more could not be said with
it. -/
lemma denotes_value_iff (h : StandsAlone argument) :
    scan.Denotes (argument :: arguments) options ↔
      ∃ next, scan.readValue argument = .ok next ∧ next.Denotes arguments options := by
  constructor
  · rintro ⟨clauses, last, hresumes, happlies, hlast⟩
    cases hpending : scan.pending with
    | none =>
      rw [hpending] at hresumes
      exact absurd hresumes (not_spells_of_standsAlone h)
    | some waiting =>
      obtain ⟨setting, values⟩ := waiting
      rw [hpending, resumes_cons_iff h] at hresumes
      have hmore : takesMore (setting, values) = true := by
        obtain ⟨more, left, rest, _, _, _, rfl⟩ := hresumes
        cases happlies with
        | cons haccepts _ =>
          have hwell := haccepts.1
          rw [List.append_assoc] at hwell
          exact takesMore_of_isWellFormed hwell
      exact ⟨_, readValue_eq_ok_iff.2 ⟨setting, values, hpending, hmore, rfl⟩, clauses, last,
        hresumes, happlies, hlast⟩
  · rintro ⟨next, hread, clauses, last, hresumes, happlies, hlast⟩
    obtain ⟨setting, values, hpending, _, rfl⟩ := readValue_eq_ok_iff.1 hread
    rw [Denotes, hpending]
    exact ⟨clauses, last, (resumes_cons_iff h).2 hresumes, happlies, hlast⟩

/-- Where no value follows, the setting that waits is said first. -/
lemma denotes_cons_iff (h : ¬ StandsAlone argument) :
    scan.Denotes (argument :: arguments) options ↔
      ∃ rest last, Spells rest (argument :: arguments) ∧
        Applies scan.settled (scan.owed ++ rest) last ∧ options = last.options := by
  have hresumes {clauses : List Clause} : Resumes scan.pending clauses (argument :: arguments) ↔
      ∃ rest, Spells rest (argument :: arguments) ∧ clauses = scan.owed ++ rest :=
    resumes_iff (by simpa using h)
  constructor
  · rintro ⟨clauses, last, hclauses, happlies, hlast⟩
    obtain ⟨rest, hspells, rfl⟩ := hresumes.1 hclauses
    exact ⟨rest, last, hspells, happlies, hlast⟩
  · rintro ⟨rest, last, hspells, happlies, hlast⟩
    exact ⟨_, last, hresumes.2 ⟨rest, hspells, rfl⟩, happlies, hlast⟩

/-- Two dashes are the end of the command line. -/
lemma denotes_end_iff (h : scan.IsModest) :
    scan.Denotes ([dash, dash] :: arguments) options ↔
      arguments = [] ∧ scan.finish = .ok options := by
  rw [denotes_cons_iff (by simp [StandsAlone]), finish_eq_ok_iff h]
  simp only [spells_end_iff]
  constructor
  · rintro ⟨_, last, ⟨rfl, hnone⟩, happlies, hlast⟩
    rw [List.append_nil] at happlies
    exact ⟨hnone, last, happlies, hlast⟩
  · rintro ⟨hnone, last, happlies, hlast⟩
    exact ⟨[], last, ⟨rfl, hnone⟩, (List.append_nil scan.owed).symm ▸ happlies, hlast⟩

/-- A word says its clauses, and the rest goes on with the setting that it leaves waiting. -/
lemma denotes_word_iff (h : scan.IsModest) (hended : scan.ended = false)
    (hword : ¬ StandsAlone argument) (hend : argument ≠ [dash, dash]) :
    scan.Denotes (argument :: arguments) options ↔
      ∃ next, scan.read argument = .ok next ∧ next.Denotes arguments options := by
  rw [denotes_cons_iff hword]
  constructor
  · rintro ⟨_, last, hspells, happlies, hlast⟩
    obtain ⟨own, waiting, rest, hown, hresumes, rfl⟩ := (spells_cons_iff hend).1 hspells
    obtain ⟨next, hmeets, happlies⟩ := (applies_iff_meets waiting).1 happlies
    rw [← hmeets.pending_eq] at hresumes
    exact ⟨next, (read_eq_ok_iff h hended hword hend).2 ⟨own, waiting, hown, hmeets⟩, rest, last,
      hresumes, happlies, hlast⟩
  · rintro ⟨next, hread, rest, last, hresumes, happlies, hlast⟩
    obtain ⟨own, waiting, hown, hmeets⟩ := (read_eq_ok_iff h hended hword hend).1 hread
    rw [hmeets.pending_eq] at hresumes
    exact ⟨_, last, (spells_cons_iff hend).2 ⟨own, waiting, rest, hown, hresumes, rfl⟩,
      (applies_iff_meets waiting).2 ⟨next, hmeets, happlies⟩, hlast⟩

/-- The arguments that are left are read to the end if they denote options, and to these. -/
theorem readRest_eq_ok_iff (h : scan.IsModest) (hended : scan.ended = false) :
    arguments.foldlM read scan >>= finish = .ok options ↔ scan.Denotes arguments options := by
  induction arguments generalizing scan with
  | nil => exact (denotes_nil_iff h).symm
  | cons argument arguments ih =>
    rw [List.foldlM_cons, bind_assoc, bind_eq_ok_iff]
    by_cases hvalue : StandsAlone argument
    · rw [denotes_value_iff hvalue, read_of_standsAlone hended hvalue]
      refine exists_congr fun next => and_congr_right fun hread => ?_
      obtain ⟨setting, values, _, hmore, rfl⟩ := readValue_eq_ok_iff.1 hread
      exact ih (isModest_awaiting_value hmore) hended
    by_cases hend : argument = [dash, dash]
    · obtain rfl := hend
      have hread : scan.read [dash, dash] = .ok { scan with ended := true } := by
        simp [read, hended]
      rw [denotes_end_iff h, ← finish_ended_iff h, ← readRest_of_ended rfl, hread]
      simp
    · rw [denotes_word_iff h hended hvalue hend]
      refine exists_congr fun next => and_congr_right fun hread => ?_
      obtain ⟨own, waiting, _, hmeets⟩ := (read_eq_ok_iff h hended hvalue hend).1 hread
      exact ih hmeets.isModest (hmeets.ended_eq.trans hended)

end Scan

/-- A command line is accepted if it spells clauses that are well formed and not repeated, and then
it chooses what they choose. -/
theorem Options.parse_eq_ok_iff (arguments : List ByteString) (options : Options) :
    Options.parse none arguments = .ok options ↔
      ∃ clauses, Spells clauses arguments ∧ (∀ clause ∈ clauses, clause.IsWellFormed) ∧
        Clause.Unrepeated clauses ∧ options = Options.ofClauses clauses := by
  have hparse : Options.parse none arguments = .ok options ↔
      arguments.foldlM Scan.read {} >>= Scan.finish = .ok options := by
    have hfallback (chosen : Options) : chosen.withFallback none = .ok chosen := by
      cases hroot : chosen.root <;> simp [Options.withFallback, hroot]
    show (arguments.foldlM Scan.read {} >>= Scan.finish) >>= (·.withFallback none) = _ ↔ _
    simp [bind_eq_ok_iff, hfallback]
  rw [hparse, Scan.readRest_eq_ok_iff (Scan.isModest_of_pending_eq_none rfl) rfl]
  have happlies {clauses : List Clause} {last : Scan} : Scan.Applies {} clauses last ↔
      (∀ clause ∈ clauses, clause.IsWellFormed) ∧ Clause.Unrepeated clauses ∧
        last = clauses.foldl Scan.saying {} := by
    have hfresh : ∀ word ∈ clauses.filterMap Clause.once?, ({} : Scan).has word = false := by
      intro word _
      exact Scan.has_empty word
    rw [Scan.applies_iff]
    exact and_congr_right fun _ => and_iff_right hfresh
  constructor
  · rintro ⟨clauses, last, hspells, hsaid, rfl⟩
    obtain ⟨hwell, hunrepeated, rfl⟩ := happlies.1 hsaid
    exact ⟨clauses, hspells, hwell, hunrepeated, Scan.options_foldl_saying clauses⟩
  · rintro ⟨clauses, hspells, hwell, hunrepeated, rfl⟩
    exact ⟨clauses, _, hspells, happlies.2 ⟨hwell, hunrepeated, rfl⟩,
      (Scan.options_foldl_saying clauses).symm⟩

end StagedRun
