import Mathlib.Data.List.TakeWhile
import Mathlib.Tactic.Lemma
import StagedRun.Proofs.CarryOut
import StagedRun.Proofs.Options.Grammar

/-!
# Arguments that start with a dash

What a scan does with one argument that starts with a dash is `Scan.Meets`.  First the setting that
waits is given its values.  Then the clauses that the argument spells are said one after the other.
At the end the next setting may be waiting.  `Scan.read_eq_ok_iff` tells that such an argument is
read exactly as the grammar of `SpellsWord` spells it, from one lemma for switches, two for settings
and an induction over the letters of a cluster.

The lemmas ask for a scan that `Scan.IsModest`, where the setting that waits has not got more values
than it takes.  No run leads to another scan, and `Scan.assign` does not look at the values after the
first one.
-/

namespace StagedRun

/-! ## Words by their letters and names -/

namespace Word

lemma mem_all (word : Word) : word ∈ all := by
  rcases word with flag | setting | _ | _
  · cases flag <;> decide
  · cases setting <;> decide
  · decide
  · decide

lemma ofLetter?_eq_some_iff {letter : UInt8} {word : Word} :
    ofLetter? letter = some word ↔ word.letterByte? = some letter := by
  constructor
  · intro h
    rw [ofLetter?] at h
    have hsame := List.find?_some h
    cases hletter : word.letter? with
    | none => simp [hletter] at hsame
    | some shown =>
      simp only [hletter, Option.any_some, beq_iff_eq] at hsame
      simp [letterByte?, hletter, hsame]
  · intro h
    have hall : ∀ word ∈ all,
        word.letterByte?.all (fun letter => ofLetter? letter == some word) = true := by
      decide
    have hword := hall word word.mem_all
    rwa [h, Option.all_some, beq_iff_eq] at hword

lemma ofName?_eq_some_iff {name : ByteString} {word : Word} :
    ofName? name = some word ↔ name = Text.encode word.name := by
  constructor
  · intro h
    rw [ofName?] at h
    have hsame := List.find?_some h
    exact (beq_iff_eq.1 hsame).symm
  · rintro rfl
    have hall : ∀ word ∈ all, ofName? (Text.encode word.name) = some word := by decide
    exact hall word word.mem_all

/-- The letter of no word is a dash. -/
lemma letterByte?_ne_dash (word : Word) : word.letterByte? ≠ some Scan.dash :=
  have hall : ∀ word ∈ all, word.letterByte? ≠ some Scan.dash := by decide
  hall word word.mem_all

lemma equalsSign_notMem_name (word : Word) : Scan.equalsSign ∉ Text.encode word.name :=
  have hall : ∀ word ∈ all, Scan.equalsSign ∉ Text.encode word.name := by decide
  hall word word.mem_all

lemma encode_name_ne_nil (word : Word) : Text.encode word.name ≠ [] :=
  have hall : ∀ word ∈ all, Text.encode word.name ≠ [] := by decide
  hall word word.mem_all

end Word

namespace Scan

variable {scan base midway next last : Scan} {clauses rest : List Clause} {waiting : Option Setting}

/-! ## Names and values in one argument -/

lemma ne_equalsSign_of_notMem {name : ByteString} (h : equalsSign ∉ name) :
    ∀ byte ∈ name, (byte != equalsSign) = true := by
  intro byte hbyte
  exact bne_iff_ne.2 fun hsame => h (hsame ▸ hbyte)

lemma splitValue_of_notMem {name : ByteString} (h : equalsSign ∉ name) :
    splitValue name = (name, none) := by
  rw [splitValue, List.dropWhile_eq_nil_iff.2 (ne_equalsSign_of_notMem h)]

lemma splitValue_append {name : ByteString} (h : equalsSign ∉ name) (value : ByteString) :
    splitValue (name ++ equalsSign :: value) = (name, some value) := by
  have hname := ne_equalsSign_of_notMem h
  rw [splitValue, List.dropWhile_append_of_pos hname, List.takeWhile_append_of_pos hname]
  simp

/-- An argument is split at its first equals sign and nowhere else. -/
lemma splitValue_cases (bytes : ByteString) :
    splitValue bytes = (bytes, none) ∨
      ∃ name value, bytes = name ++ equalsSign :: value ∧ splitValue bytes = (name, some value) := by
  have hwhole := List.takeWhile_append_dropWhile (p := (· != equalsSign)) (l := bytes)
  cases hdrop : bytes.dropWhile (· != equalsSign) with
  | nil => exact .inl (by rw [splitValue, hdrop])
  | cons sign value =>
    have hsign : sign = equalsSign := by
      have hhead := List.head?_dropWhile_not (· != equalsSign) bytes
      simpa [hdrop] using hhead
    rw [hdrop, hsign] at hwhole
    exact .inr ⟨_, value, hwhole.symm, by rw [splitValue, hdrop]⟩

/-! ## Values that are taken -/

/-- Values are taken by a setting if the clause can be said.  Only an input can take many. -/
lemma assign_eq_ok_iff {setting : Setting} {values : List ByteString}
    (hvalues : setting = .input ∨ values.length ≤ 1) :
    scan.assign setting values = .ok next ↔
      scan.Accepts (.setting setting values) ∧ next = scan.saying (.setting setting values) := by
  cases values with
  | nil => cases setting <;> simp [assign, Accepts, Clause.IsWellFormed]
  | cons value more =>
    cases setting with
    | input =>
      have haccepts : scan.Accepts (.setting .input (value :: more)) ↔
          (value :: more).all Text.isUtf8 = true := by
        simp [Accepts, Clause.IsWellFormed, Clause.once?]
      have hsaying : scan.saying (.setting .input (value :: more)) =
          { scan with inputs := scan.inputs ++ value :: more } := by
        simp [saying, Clause.switch?, Clause.inputs, Clause.valueFor?]
      rw [haccepts, hsaying, assign, checkTexts]
      cases (value :: more).all Text.isUtf8 <;>
        simp [bind, Except.bind, pure, Except.pure, eq_comm]
    | output =>
      obtain rfl : more = [] := by simpa using hvalues
      have haccepts : scan.Accepts (.setting .output [value]) ↔
          Text.isUtf8 value = true ∧ scan.output.isSome = false := by
        simp [Accepts, Clause.IsWellFormed, Clause.once?, has]
      rw [haccepts, assign, checkTexts]
      cases houtput : scan.output with
      | some earlier => simp [bind, Except.bind]
      | none =>
        have hsaying : scan.saying (.setting .output [value]) =
            { scan with output := some value } := by
          simp [saying, houtput, Clause.switch?, Clause.inputs, Clause.valueFor?]
        rw [hsaying]
        cases hvalue : Text.isUtf8 value <;>
          simp [hvalue, bind, Except.bind, pure, Except.pure, eq_comm]
    | root =>
      obtain rfl : more = [] := by simpa using hvalues
      have haccepts : scan.Accepts (.setting .root [value]) ↔
          value ≠ [] ∧ scan.root.isSome = false := by
        simp [Accepts, Clause.IsWellFormed, Clause.once?, has]
      rw [haccepts, assign]
      cases hroot : scan.root with
      | some earlier => simp [bind, Except.bind]
      | none =>
        have hsaying : scan.saying (.setting .root [value]) =
            { scan with root := some value } := by
          simp [saying, hroot, Clause.switch?, Clause.inputs, Clause.valueFor?]
        rw [hsaying]
        cases value <;> simp [bind, Except.bind, pure, Except.pure, eq_comm]

/-- The clause of the setting that waits, with the values it has got. -/
def owed (scan : Scan) : List Clause :=
  match scan.pending with
  | none => []
  | some (setting, values) => [.setting setting values]

/-- The scan where no setting waits. -/
def settled (scan : Scan) : Scan :=
  { scan with pending := none }

/-- The setting that waits has not got more values than it takes. -/
def IsModest (scan : Scan) : Prop :=
  ∀ setting values, scan.pending = some (setting, values) → setting = .input ∨ values.length ≤ 1

lemma isModest_of_pending_eq_none (h : scan.pending = none) : scan.IsModest := by
  intro setting values hpending
  rw [h] at hpending
  cases hpending

lemma settled_of_pending_eq_none (h : scan.pending = none) : scan.settled = scan := by
  cases scan
  cases h
  rfl

lemma owed_of_pending_eq_none (h : scan.pending = none) : scan.owed = [] := by
  rw [owed, h]

lemma applies_singleton {clause : Clause} :
    Applies scan [clause] last ↔ scan.Accepts clause ∧ last = scan.saying clause := by
  constructor
  · intro h
    cases h with
    | cons haccepts hrest =>
      cases hrest
      exact ⟨haccepts, rfl⟩
  · rintro ⟨haccepts, rfl⟩
    exact .cons haccepts (.nil _)

/-- A setting that waits gets its values if its clause can be said. -/
lemma commit_eq_ok_iff (h : scan.IsModest) :
    scan.commit = .ok base ↔ Applies scan.settled scan.owed base := by
  cases hpending : scan.pending with
  | none =>
    rw [owed_of_pending_eq_none hpending, settled_of_pending_eq_none hpending, commit, hpending]
    constructor
    · intro hbase
      obtain rfl := Except.ok.inj hbase
      exact .nil _
    · intro happlies
      cases happlies
      rfl
  | some waiting =>
    obtain ⟨setting, values⟩ := waiting
    rw [owed, hpending, applies_singleton, commit, hpending]
    exact assign_eq_ok_iff (h setting values hpending)

/-! ## What a scan does with one word -/

/-- The scan that goes on with a setting waiting for its values, if there is one. -/
def awaiting (scan : Scan) (waiting : Option Setting) : Scan :=
  { scan with pending := waiting.map fun setting => (setting, []) }

/-- A scan gives the setting that waits its values, is told the clauses, and goes on with another
setting waiting. -/
def Meets (scan : Scan) (clauses : List Clause) (waiting : Option Setting) (next : Scan) : Prop :=
  ∃ last, Applies scan.settled (scan.owed ++ clauses) last ∧ next = last.awaiting waiting

lemma Meets.pending_eq (h : scan.Meets clauses waiting next) :
    next.pending = waiting.map fun setting => (setting, []) := by
  obtain ⟨last, _, rfl⟩ := h
  rfl

lemma Meets.ended_eq (h : scan.Meets clauses waiting next) : next.ended = scan.ended := by
  obtain ⟨last, happlies, rfl⟩ := h
  exact happlies.ended_eq

lemma awaiting_none (h : scan.pending = none) : scan.awaiting none = scan :=
  settled_of_pending_eq_none h

lemma meets_none_iff :
    scan.Meets clauses none next ↔ Applies scan.settled (scan.owed ++ clauses) next := by
  constructor
  · rintro ⟨last, happlies, rfl⟩
    rwa [awaiting_none happlies.pending_eq]
  · exact fun happlies => ⟨next, happlies, (awaiting_none happlies.pending_eq).symm⟩

lemma meets_append :
    scan.Meets (clauses ++ rest) waiting next ↔
      ∃ midway, scan.Meets clauses none midway ∧ midway.Meets rest waiting next := by
  have hmidway {midway : Scan} (h : Applies scan.settled (scan.owed ++ clauses) midway) :
      midway.settled = midway ∧ midway.owed = [] :=
    ⟨settled_of_pending_eq_none h.pending_eq, owed_of_pending_eq_none h.pending_eq⟩
  constructor
  · rintro ⟨last, happlies, hnext⟩
    rw [← List.append_assoc] at happlies
    obtain ⟨midway, hfirst, hrest⟩ := applies_append.1 happlies
    refine ⟨midway, meets_none_iff.2 hfirst, last, ?_, hnext⟩
    rwa [(hmidway hfirst).1, (hmidway hfirst).2]
  · rintro ⟨midway, hfirst, last, hrest, hnext⟩
    have hfirst := meets_none_iff.1 hfirst
    rw [(hmidway hfirst).1, (hmidway hfirst).2] at hrest
    refine ⟨last, ?_, hnext⟩
    rw [← List.append_assoc]
    exact applies_append.2 ⟨midway, hfirst, hrest⟩

/-- A word that says one clause. -/
lemma meets_singleton_iff (h : scan.IsModest) {clause : Clause} :
    scan.Meets [clause] none next ↔
      ∃ base, scan.commit = .ok base ∧ base.Accepts clause ∧ next = base.saying clause := by
  rw [meets_none_iff, applies_append]
  exact exists_congr fun base => and_congr (commit_eq_ok_iff h).symm applies_singleton

lemma turnOn_eq_ok_iff (h : scan.IsModest) {flag : Switch} :
    scan.turnOn flag = .ok next ↔ scan.Meets [.switch flag] none next := by
  rw [meets_singleton_iff h, turnOn, bind_eq_ok_iff]
  refine exists_congr fun base => and_congr_right fun _ => ?_
  have haccepts : base.Accepts (.switch flag) ↔ base.switches.contains flag = false := by
    simp [Accepts, Clause.IsWellFormed, Clause.once?, has]
  have hsaying : base.saying (.switch flag) =
      { base with switches := base.switches ++ [flag] } := by
    simp [saying, Clause.switch?, Clause.inputs, Clause.valueFor?]
  rw [haccepts, hsaying]
  cases base.switches.contains flag <;> simp [bind, Except.bind, pure, Except.pure, eq_comm]

lemma attach_eq_ok_iff (h : scan.IsModest) {setting : Setting} {value : ByteString} :
    scan.attach setting value = .ok next ↔ scan.Meets [.setting setting [value]] none next := by
  rw [meets_singleton_iff h, attach, bind_eq_ok_iff]
  exact exists_congr fun base => and_congr_right fun _ => assign_eq_ok_iff (.inr (Nat.le_refl 1))

lemma await_eq_ok_iff (h : scan.IsModest) {setting : Setting} :
    scan.await setting = .ok next ↔ scan.Meets [] (some setting) next := by
  rw [Meets, List.append_nil, await, bind_eq_ok_iff]
  refine exists_congr fun base => and_congr (commit_eq_ok_iff h) ?_
  exact ⟨fun hnext => (Except.ok.inj hnext).symm, fun hnext => congrArg _ hnext.symm⟩

/-- A request is never a scan that goes on. -/
lemma request_ne_ok (usage : Usage) : scan.request usage ≠ .ok next := by
  intro h
  obtain ⟨_, _, hnext⟩ := bind_eq_ok_iff.1 h
  cases hnext

/-! ## What a scan does with one argument -/

lemma exists_cons_of_not_standsAlone {argument : ByteString} (h : ¬ StandsAlone argument) :
    ∃ first more, argument = dash :: first :: more := by
  rw [StandsAlone, not_or] at h
  obtain ⟨hhead, hlone⟩ := h
  match argument with
  | [] => exact absurd (fun hsome => by cases hsome) hhead
  | [first] =>
    have hfirst : first = dash := by simpa using hhead
    exact absurd (hfirst ▸ rfl) hlone
  | first :: second :: more =>
    have hfirst : first = dash := by simpa using hhead
    exact ⟨second, more, hfirst ▸ rfl⟩

lemma not_cluster_dash {letters : ByteString} : ¬ Cluster clauses waiting (dash :: letters) := by
  intro h
  cases h with
  | switch hletter _ => exact Word.letterByte?_ne_dash _ hletter
  | equals _ hletter => exact Word.letterByte?_ne_dash _ hletter
  | rest _ hletter _ => exact Word.letterByte?_ne_dash _ hletter
  | waiting hletter => exact Word.letterByte?_ne_dash _ hletter

/-- An argument with one dash is a cluster. -/
lemma spellsWord_iff_cluster {letter : UInt8} {more : ByteString} (hletter : letter ≠ dash) :
    SpellsWord clauses waiting (dash :: letter :: more) ↔
      Cluster clauses waiting (letter :: more) := by
  constructor
  · intro h
    generalize hargument : dash :: letter :: more = argument at h
    have hlong (tail : ByteString) : dash :: letter :: more ≠ dash :: dash :: tail :=
      fun hsame => hletter (List.cons.inj (List.cons.inj hsame).2).1
    cases h with
    | switch flag => exact absurd hargument (hlong _)
    | equals setting value => exact absurd hargument (hlong _)
    | waiting setting => exact absurd hargument (hlong _)
    | cluster _ hcluster => exact (List.cons.inj hargument).2 ▸ hcluster
  · exact .cluster (List.cons_ne_nil _ _)

/-- A long word is read as the grammar spells it. -/
lemma readLong_eq_ok_iff (h : scan.IsModest) {more : ByteString} :
    scan.readLong (splitValue more).1 (splitValue more).2 = .ok next ↔
      ∃ clauses waiting, SpellsWord clauses waiting (dash :: dash :: more) ∧
        scan.Meets clauses waiting next := by
  constructor
  · intro hread
    rcases splitValue_cases more with hsplit | ⟨name, value, rfl, hsplit⟩
    · rw [hsplit] at hread
      cases hword : Word.ofName? more with
      | none => simp [readLong, hword] at hread
      | some word =>
        simp only [readLong, hword] at hread
        obtain rfl := Word.ofName?_eq_some_iff.1 hword
        rcases word with flag | setting | _ | _
        · exact ⟨_, _, .switch flag, (turnOn_eq_ok_iff h).1 hread⟩
        · exact ⟨_, _, .waiting setting, (await_eq_ok_iff h).1 hread⟩
        · exact absurd hread (request_ne_ok _)
        · exact absurd hread (request_ne_ok _)
    · rw [hsplit] at hread
      cases hword : Word.ofName? name with
      | none => simp [readLong, hword] at hread
      | some word =>
        simp only [readLong, hword] at hread
        obtain rfl := Word.ofName?_eq_some_iff.1 hword
        rcases word with flag | setting | _ | _
        · cases hread
        · exact ⟨_, _, .equals setting value, (attach_eq_ok_iff h).1 hread⟩
        · cases hread
        · cases hread
  · rintro ⟨clauses, waiting, hspells, hmeets⟩
    have hname (word : Word) : Word.ofName? (Text.encode word.name) = some word :=
      Word.ofName?_eq_some_iff.2 rfl
    generalize hargument : dash :: dash :: more = argument at hspells
    cases hspells with
    | switch flag =>
      obtain rfl : more = Text.encode (Word.switch flag).name := by
        simpa [Word.long] using hargument
      rw [splitValue_of_notMem (Word.equalsSign_notMem_name _)]
      simp only [readLong, hname]
      exact (turnOn_eq_ok_iff h).2 hmeets
    | equals setting value =>
      obtain rfl : more = Text.encode (Word.setting setting).name ++ equalsSign :: value := by
        simpa [Word.long] using hargument
      rw [splitValue_append (Word.equalsSign_notMem_name _)]
      simp only [readLong, hname]
      exact (attach_eq_ok_iff h).2 hmeets
    | waiting setting =>
      obtain rfl : more = Text.encode (Word.setting setting).name := by
        simpa [Word.long] using hargument
      rw [splitValue_of_notMem (Word.equalsSign_notMem_name _)]
      simp only [readLong, hname]
      exact (await_eq_ok_iff h).2 hmeets
    | cluster hletters hcluster =>
      obtain rfl := (List.cons.inj hargument).2
      exact absurd hcluster not_cluster_dash

/-- A cluster is read as the grammar spells it, letter by letter. -/
lemma readCluster_eq_ok_iff {letters : ByteString} (h : scan.IsModest)
    (hletters : letters = [] → scan.pending = none) :
    scan.readCluster letters = .ok next ↔
      ∃ clauses waiting, Cluster clauses waiting letters ∧ scan.Meets clauses waiting next := by
  induction letters generalizing scan with
  | nil =>
    have hpending := hletters rfl
    have hmeets : scan.Meets [] none next ↔ next = scan := by
      rw [meets_none_iff, settled_of_pending_eq_none hpending, owed_of_pending_eq_none hpending]
      constructor
      · intro happlies
        cases happlies
        rfl
      · rintro rfl
        exact .nil _
    constructor
    · intro hread
      exact ⟨_, _, .done, hmeets.2 (Except.ok.inj hread).symm⟩
    · rintro ⟨clauses, waiting, hcluster, hnext⟩
      cases hcluster
      exact congrArg Except.ok (hmeets.1 hnext).symm
  | cons letter more ih =>
    -- after a switch nothing waits any more, so the letters after it may be none
    have hswitch {flag : Switch} {midway : Scan} (hmidway : scan.turnOn flag = .ok midway) :
        midway.readCluster more = .ok next ↔
          ∃ clauses waiting, Cluster clauses waiting more ∧ midway.Meets clauses waiting next :=
      have hpending : midway.pending = none := ((turnOn_eq_ok_iff h).1 hmidway).pending_eq
      ih (isModest_of_pending_eq_none hpending) fun _ => hpending
    constructor
    · intro hread
      cases hword : Word.ofLetter? letter with
      | none => simp [readCluster, hword] at hread
      | some word =>
        have hletter := Word.ofLetter?_eq_some_iff.1 hword
        simp only [readCluster, hword] at hread
        rcases word with flag | setting | _ | _
        · obtain ⟨midway, hmidway, hread⟩ := bind_eq_ok_iff.1 hread
          obtain ⟨clauses, waiting, hcluster, hmeets⟩ := (hswitch hmidway).1 hread
          have hboth : scan.Meets ([.switch flag] ++ clauses) waiting next :=
            meets_append.2 ⟨midway, (turnOn_eq_ok_iff h).1 hmidway, hmeets⟩
          exact ⟨_, _, .switch hletter hcluster, hboth⟩
        · cases more with
          | nil => exact ⟨_, _, .waiting hletter, (await_eq_ok_iff h).1 hread⟩
          | cons first value =>
            have hmeets := (attach_eq_ok_iff h).1 hread
            by_cases hfirst : first = equalsSign
            · rw [if_pos hfirst] at hmeets
              exact ⟨_, _, hfirst ▸ .equals value hletter, hmeets⟩
            · rw [if_neg hfirst] at hmeets
              exact ⟨_, _, .rest value hletter hfirst, hmeets⟩
        · exact absurd hread (request_ne_ok _)
        · exact absurd hread (request_ne_ok _)
    · rintro ⟨clauses, waiting, hcluster, hmeets⟩
      cases hcluster with
      | switch hletter hrest =>
        rename_i flag clauses
        obtain ⟨midway, hfirst, hmeets⟩ :
            ∃ midway, scan.Meets [.switch flag] none midway ∧ midway.Meets clauses waiting next :=
          meets_append.1 hmeets
        have hmidway := (turnOn_eq_ok_iff h).2 hfirst
        simp only [readCluster, Word.ofLetter?_eq_some_iff.2 hletter]
        exact bind_eq_ok_iff.2 ⟨midway, hmidway, (hswitch hmidway).2 ⟨_, _, hrest, hmeets⟩⟩
      | equals value hletter =>
        simp only [readCluster, Word.ofLetter?_eq_some_iff.2 hletter, if_true]
        exact (attach_eq_ok_iff h).2 hmeets
      | rest value hletter hfirst =>
        simp only [readCluster, Word.ofLetter?_eq_some_iff.2 hletter, if_neg hfirst]
        exact (attach_eq_ok_iff h).2 hmeets
      | waiting hletter =>
        simp only [readCluster, Word.ofLetter?_eq_some_iff.2 hletter]
        exact (await_eq_ok_iff h).2 hmeets

/-- An argument that starts with a dash is read as the grammar spells it. -/
lemma read_eq_ok_iff (h : scan.IsModest) (hended : scan.ended = false) {argument : ByteString}
    (hword : ¬ StandsAlone argument) (hend : argument ≠ [dash, dash]) :
    scan.read argument = .ok next ↔
      ∃ clauses waiting, SpellsWord clauses waiting argument ∧ scan.Meets clauses waiting next := by
  obtain ⟨first, more, rfl⟩ := exists_cons_of_not_standsAlone hword
  by_cases hdash : first = dash
  · obtain rfl := hdash
    have hmore : more ≠ [] := fun hmore => hend (hmore ▸ rfl)
    simp only [read, hended, List.isEmpty_iff, hmore, if_true, if_false, Bool.false_eq_true]
    exact readLong_eq_ok_iff h
  · simp only [read, hended, hdash, if_true, if_false, Bool.false_eq_true]
    rw [readCluster_eq_ok_iff h fun hnone => absurd hnone (List.cons_ne_nil _ _)]
    exact exists_congr fun clauses => exists_congr fun waiting =>
      and_congr_left fun _ => (spellsWord_iff_cluster hdash).symm

lemma read_of_standsAlone (hended : scan.ended = false) {argument : ByteString}
    (h : StandsAlone argument) : scan.read argument = scan.readValue argument := by
  cases argument with
  | nil => simp [read, hended]
  | cons first more =>
    by_cases hfirst : first = dash
    · obtain rfl := hfirst
      obtain hhead | hlone := h
      · exact absurd rfl hhead
      · simp [read, hended, (List.cons.inj hlone).2]
    · simp [read, hended, hfirst]

lemma read_of_ended (hended : scan.ended = true) (argument : ByteString) :
    scan.read argument = .error (.unexpectedArgument (Text.lossy argument)) := by
  simp [read, hended]

end Scan

end StagedRun
