import StagedRun.Console.Record
import StagedRun.SystemError

/-!
# Where console output goes

A `Sink` is anything that takes bytes and can be flushed; `σ` is what it holds.  It may fail, but
`Sink.emit` does not ask whether it did: a console that is full or closed is no reason to stop a
run.  So output is given to a sink, flushed, and forgotten.

`Sink.bounded` is the sink that keeps what it is given, up to a limit.
-/

namespace StagedRun

/-- Something that takes bytes. -/
structure Sink (σ : Type) where
  write : ByteString → σ → Except SystemError Unit × σ
  flush : σ → Except SystemError Unit × σ

namespace Sink

variable {σ : Type}

/-- Gives a sink bytes and flushes it, also when it did not take them. -/
def emit (sink : Sink σ) (held : σ) (bytes : ByteString) : σ :=
  (sink.flush (sink.write bytes held).2).2

/-- Gives a sink a record. -/
def put (sink : Sink σ) (colour : Colour) (held : σ) (record : Record) : σ :=
  (record.chunks colour).foldl (fun held chunk => sink.emit held (Text.encode chunk)) held

end Sink

/-- What a sink that keeps its input holds. -/
structure Kept where
  bytes : ByteString := []
  flushes : Nat := 0
  deriving DecidableEq, Repr

/-- The sink that keeps the bytes it is given until it holds `limit` of them.  Of bytes that do not
fit it keeps the first ones, and fails. -/
def Sink.bounded (limit : Option Nat) : Sink Kept where
  write bytes held :=
    match limit with
    | none => (.ok (), { held with bytes := held.bytes ++ bytes })
    | some limit =>
      let room := limit - held.bytes.length
      (if bytes.length ≤ room then .ok () else .error (.numbered 28),
        { held with bytes := held.bytes ++ bytes.take room })
  flush held := (.ok (), { held with flushes := held.flushes + 1 })

end StagedRun
