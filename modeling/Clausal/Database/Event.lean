import Clausal.Number.Binary64
import Clausal.Statement

/-!
# Events

What a run reports about itself. Each event has a level, a target and named fields. Of what is
reported of a call to the adapter, the field `elapsed_ms` is left out: how long a call took is
measured anew on every run.
-/

namespace Clausal

open Number

inductive Level where
  | trace
  | debug
  | info
  | warn
  | error
  deriving DecidableEq, Repr

namespace Level

def name : Level → String
  | .trace => "TRACE"
  | .debug => "DEBUG"
  | .info => "INFO"
  | .warn => "WARN"
  | .error => "ERROR"

def all : List Level := [.trace, .debug, .info, .warn, .error]

/-- The level of a name in any letter case. -/
def ofName? (s : String) : Option Level :=
  all.find? fun level => s.map Char.toUpper == level.name

end Level

/-- What an adapter is asked to do. -/
inductive Operation where
  | execute
  | rows
  | row
  | column
  | scalar
  deriving DecidableEq, Repr

def Operation.name : Operation → String
  | .execute => "execute"
  | .rows => "query_rows"
  | .row => "query_row"
  | .column => "query_column"
  | .scalar => "query_scalar"

/-- A time span in nanoseconds. -/
structure Span where
  nanoseconds : Nat
  deriving DecidableEq, Repr

namespace Span

def ofMilliseconds (n : Nat) : Span := ⟨n * 1000000⟩

def wholeMilliseconds (s : Span) : Nat := s.nanoseconds / 1000000

/-- The span in seconds, rounded after the division and after the sum. -/
def seconds (s : Span) : Nat :=
  let fraction := Binary64.roundUnits (s.nanoseconds % 1000000000 * Binary64.one) 1000000000
  Binary64.roundUnits (s.nanoseconds / 1000000000 * Binary64.one + fraction) 1

def milliseconds (s : Span) : Binary64 :=
  .ofUnits false (Binary64.roundUnits (s.seconds * 1000) 1)

end Span

inductive Event where
  | prepared (kind : StatementKind) (args : Nat) (sql : String)
  | running (sql : String)
  | unparsable (shown : String)
  | finished (level : Level) (operation : Operation) (sql : String)
  | failed (operation : Operation) (sql error : String)
  | slow (operation : Operation) (sql : String) (threshold : Span)
  deriving DecidableEq, Repr

/-- The content of a field. -/
inductive Field where
  | text (s : String)
  | number (n : Nat)
  | real (x : Binary64)
  deriving DecidableEq, Repr

namespace Event

def level : Event → Level
  | .prepared .. => .trace
  | .running _ => .debug
  | .unparsable _ => .warn
  | .finished level .. => level
  | .failed .. => .error
  | .slow .. => .warn

def target : Event → String
  | .prepared .. => "recordq.query"
  | .unparsable _ => "recordq.cast"
  | _ => "recordq.sql"

def fields : Event → List (String × Field)
  | .prepared kind args sql =>
    [("message", .text "prepared query"), ("kind", .text kind.keyword),
      ("param_count", .number args), ("sql", .text sql)]
  | .running sql => [("message", .text "running query"), ("sql", .text sql)]
  | .unparsable shown =>
    [("message", .text "unparsable datetime value left unchanged"), ("value", .text shown)]
  | .finished _ operation sql => [("operation", .text operation.name), ("sql", .text sql)]
  | .failed operation sql error =>
    [("operation", .text operation.name), ("sql", .text sql), ("error", .text error)]
  | .slow operation sql threshold =>
    [("message", .text "slow query"), ("operation", .text operation.name), ("sql", .text sql),
      ("threshold_ms", .real threshold.milliseconds)]

end Event

end Clausal
