import StagedRun.Proofs.Reporting

/-!
# Consoles that fill up

A console may take only so many bytes.  It then fails inside a text, inside a character, or inside the
sequence that switches an attribute on, and on every write from there on.  Nobody asks it, so the
calls go on as if nothing had happened: what the console holds is cut off, and nothing else changes
(`World.tellAll_truncated`).

`Kept.Truncates` compares a console that fills up with one that does not.  Writing and flushing keeps
it (`Kept.Truncates.emit`), and so does everything that can happen in a world
(`Kept.Truncates.replay`).  The law of a whole run is `Pipeline.execute_truncated`.
-/

namespace StagedRun

variable {κ σ : Type}

/-! ## Two consoles -/

namespace Kept

/-- A console holds the first bytes of what another one holds, and was flushed as often. -/
structure Truncates (limit : Nat) (held full : Kept) : Prop where
  bytes : held.bytes = full.bytes.take limit
  flushes : held.flushes = full.flushes

variable {limit : Nat} {held full : Kept}

lemma truncates_empty (limit : Nat) : Truncates limit {} {} :=
  ⟨List.take_nil.symm, rfl⟩

/-- What is missing on a console that has filled up is missing from then on. -/
lemma Truncates.emit (h : held.Truncates limit full) (bytes : ByteString) :
    ((Sink.bounded (some limit)).emit held bytes).Truncates limit
      ((Sink.bounded none).emit full bytes) where
  bytes := by
    have hroom : limit - held.bytes.length = limit - full.bytes.length := by
      rw [h.bytes, List.length_take]
      omega
    have hcut : held.bytes ++ bytes.take (limit - held.bytes.length) =
        (full.bytes ++ bytes).take limit := by
      rw [hroom, List.take_append, h.bytes]
    exact hcut
  flushes := congrArg (· + 1) h.flushes

lemma Truncates.replay (h : held.Truncates limit full) (history : List Happening) :
    (replay (.bounded (some limit)) held history).Truncates limit
      (replay (.bounded none) full history) := by
  induction history generalizing held full with
  | nil => exact h
  | cons happening rest ih =>
    cases happening with
    | wrote bytes => exact ih (h.emit bytes)
    | changed before after => exact ih h
    | ran command before answer after => exact ih h

end Kept

/-! ## Flushes -/

namespace Record

/-- How often the console is flushed for a record. -/
def flushes : Record → Nat
  | .info _ _ | .error _ => 1
  | .command _ _ => 2

lemma length_writes (colour : Colour) (record : Record) :
    (record.writes colour).length = record.flushes := by
  cases record <;> rfl

end Record

/-- A console is flushed once for each write, whether the write failed or not. -/
lemma flushes_replay_writes (limit? : Option Nat) (held : Kept) (colour : Colour)
    (record : Record) :
    (replay (.bounded limit?) held (record.writes colour)).flushes =
      held.flushes + record.flushes := by
  rw [← record.length_writes colour, Record.writes, List.length_map]
  induction record.chunks colour generalizing held with
  | nil => rfl
  | cons chunk rest ih =>
    have hemit : ((Sink.bounded limit?).emit held (Text.encode chunk)).flushes =
        held.flushes + 1 := by
      cases limit? <;> rfl
    have hrest := ih ((Sink.bounded limit?).emit held (Text.encode chunk))
    rw [hemit, Nat.add_assoc, Nat.add_comm 1] at hrest
    exact hrest

/-! ## Telling -/

namespace World

variable {sink : Sink σ}

/-- Tells records one after the other, as far as nothing fails. -/
def tellAll (children : Children κ) (sink : Sink σ) (colour : Colour) (records : List Record) :
    ExceptT Failure (StateM (World κ σ)) Unit :=
  records.forM fun record => (host children sink).tell colour record

/-- Telling never fails, and adds what is written for the records. -/
lemma carryOut_tellAll_adds (children : Children κ) (sink : Sink σ) (colour : Colour)
    (records : List Record) (world : World κ σ) :
    (carryOut (tellAll children sink colour records) world).1 = .ok () ∧
      world.Adds sink (carryOut (tellAll children sink colour records) world).2
        (records.flatMap (Record.writes colour)) := by
  unfold tellAll
  induction records generalizing world with
  | nil => exact ⟨rfl, world.adds_refl sink⟩
  | cons record rest ih =>
    have hfirst := world.adds_tell children sink colour record
    obtain ⟨hok, hrest⟩ := ih (((host children sink).tell colour record).run world).2
    rw [carryOut_forM_cons, carryOut_lift]
    exact ⟨hok, hfirst.trans hrest⟩

/-- Telling never fails, and the console is made of what is written for the records. -/
lemma carryOut_tellAll (children : Children κ) (sink : Sink σ) (colour : Colour)
    (records : List Record) (world : World κ σ) :
    (carryOut (tellAll children sink colour records) world).1 = .ok () ∧
      (carryOut (tellAll children sink colour records) world).2.console =
        replay sink world.console (records.flatMap (Record.writes colour)) := by
  obtain ⟨hok, hadds⟩ := carryOut_tellAll_adds children sink colour records world
  exact ⟨hok, hadds.console⟩

/-- What the console is given are the bytes of the records. -/
lemma written_tellAll (children : Children κ) (sink : Sink σ) (colour : Colour)
    (records : List Record) (world : World κ σ) :
    (carryOut (tellAll children sink colour records) world).2.written =
      world.written ++ records.flatMap (Record.bytes colour) := by
  rw [(carryOut_tellAll_adds children sink colour records world).2.written_eq,
    writtenIn_flatMap_writes]

/-- **A console that fills up holds the first bytes.**  From an empty console on, every call returns.
An unlimited console ends up with everything that was told, and a console with a limit with as many
bytes of that as the limit allows.  Each call flushes either of them equally often: twice for a
command, and once for everything else. -/
theorem tellAll_truncated (children : Children κ) (colour : Colour) (limit : Nat)
    (records : List Record) (world : World κ Kept) :
    let start := { world with console := {} }
    let result := fun limit? records =>
      carryOut (tellAll children (.bounded limit?) colour records) start
    (∀ limit?, (result limit? records).1 = .ok ()) ∧
      (result none records).2.console.bytes = records.flatMap (Record.bytes colour) ∧
      (result (some limit) records).2.console.bytes =
        (result none records).2.console.bytes.take limit ∧
      ∀ limit? record, (result limit? (records ++ [record])).2.console.flushes =
        (result limit? records).2.console.flushes + record.flushes := by
  intro start result
  have hconsole : ∀ limit? records, (result limit? records).2.console =
      replay (.bounded limit?) {} (records.flatMap (Record.writes colour)) :=
    fun limit? records => (carryOut_tellAll children _ colour records start).2
  refine ⟨fun limit? => (carryOut_tellAll children _ colour records start).1, ?_, ?_, ?_⟩
  · rw [hconsole, Sink.keeps_bounded.held_replay, writtenIn_flatMap_writes, List.nil_append]
  · rw [hconsole, hconsole]
    exact ((Kept.truncates_empty limit).replay _).bytes
  · intro limit? record
    rw [hconsole, hconsole, List.flatMap_append, List.flatMap_singleton, replay_append,
      flushes_replay_writes]

/-- A console that fills up inside the first sequence. -/
example :
    let children : Children Unit := ⟨fun _ known files => (.error .zeroInArgument, known, files)⟩
    (carryOut (tellAll children (.bounded (some 3)) .ansi [.error "x", .command "y" "z"])
      (.fresh .empty [] () {})).2.console = ⟨Text.encode "\x1b[9", 3⟩ := by
  decide +kernel

end World

namespace Pipeline

/-- A run on a console that fills up leaves the first bytes of what it would have told. -/
theorem execute_truncated (children : Children κ) (pipeline : Pipeline) (limit : Nat)
    (world : World κ Kept) :
    let start := { world with console := {} }
    let result := fun limit? =>
      carryOut (pipeline.execute (World.host children (.bounded limit?))) start
    (result (some limit)).1 = (result none).1 ∧
      (result (some limit)).2.history = (result none).2.history ∧
      (result (some limit)).2.console.Truncates limit (result none).2.console := by
  intro start result
  have hscene : ∀ limit?, carryOut (pipeline.execute (Scene.host children)) start.scene =
      ((result limit?).1, (result limit?).2.scene) := fun limit? =>
    (mirrors_execute (World.mirrors_scene children (.bounded limit?)) pipeline).carryOut start
  obtain ⟨houtcome, hsame⟩ := Prod.mk.inj ((hscene (some limit)).symm.trans (hscene none))
  have hhistory : (result (some limit)).2.history = (result none).2.history :=
    congrArg Scene.history hsame
  obtain ⟨happenings, hhappenings, hconsole⟩ :=
    exists_happenings children (.bounded (some limit)) pipeline start
  obtain ⟨others, hothers, hconsole'⟩ := exists_happenings children (.bounded none) pipeline start
  have hall : others = happenings :=
    List.append_cancel_left ((hothers.symm.trans hhistory.symm).trans hhappenings)
  subst hall
  refine ⟨houtcome, hhistory, ?_⟩
  have hheld : (result (some limit)).2.console = replay (.bounded (some limit)) {} others :=
    hconsole
  have hfull : (result none).2.console = replay (.bounded none) {} others := hconsole'
  rw [hheld, hfull]
  exact (Kept.truncates_empty limit).replay others

end Pipeline

end StagedRun
