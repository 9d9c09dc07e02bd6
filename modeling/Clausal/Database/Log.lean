import Clausal.Database.Adapter
import Clausal.Text.ByteLength

/-!
# Logged databases

A logged database passes every call on unchanged and reports the statements that were run: how each
ended, and that it was slow if it took longer than a threshold.
-/

namespace Clausal

structure LogConfig where
  enabled : Bool := true
  level : Level := .debug
  /-- The bytes of SQL that are shown. -/
  maxLength : Option Nat := some 200
  slowThreshold : Option Span := none
  deriving DecidableEq, Repr

namespace LogConfig

def withLevel (config : LogConfig) (level : Level) : LogConfig := { config with level := level }

def withMaxLength (config : LogConfig) (bytes : Nat) : LogConfig :=
  { config with maxLength := some bytes }

def withoutMaxLength (config : LogConfig) : LogConfig := { config with maxLength := none }

def withSlowThreshold (config : LogConfig) (threshold : Span) : LogConfig :=
  { config with slowThreshold := some threshold }

def enable (config : LogConfig) : LogConfig := { config with enabled := true }

def disable (config : LogConfig) : LogConfig := { config with enabled := false }

/-- What is reported of a statement that took `elapsed` and ended with `error`, if with any. -/
def report (config : LogConfig) (operation : Operation) (sql : String) (elapsed : Span)
    (error : Option Error) : List Event :=
  let shown := Text.shorten config.maxLength sql
  let ended := match error with
    | none => Event.finished config.level operation shown
    | some e => Event.failed operation shown e.message
  match config.slowThreshold with
  | some threshold =>
    if threshold.nanoseconds < elapsed.nanoseconds then [ended, .slow operation shown threshold]
    else [ended]
  | none => [ended]

end LogConfig

def errorOf? {α : Type} : Except Error α → Option Error
  | .ok _ => none
  | .error e => some e

/-- Runs a statement and reports it. `clock` reads the time off the state, in nanoseconds. -/
def Action.logged {σ α : Type} (config : LogConfig) (clock : σ → Nat) (operation : Operation)
    (sql : String) (run : Action σ α) : Action σ α := fun s =>
  let out := run s
  if config.enabled then
    let elapsed : Span := ⟨clock out.state - clock s⟩
    { out with events := out.events ++ config.report operation sql elapsed (errorOf? out.result) }
  else out

def Database.logged {σ : Type} (config : LogConfig) (clock : σ → Nat) (db : Database σ) :
    Database σ where
  execute sql := (db.execute sql).logged config clock .execute sql
  lastInsertId := db.lastInsertId
  queryRows sql := (db.queryRows sql).logged config clock .rows sql
  prepare := db.prepare
  queryRow sql := (db.queryRow sql).logged config clock .row sql
  queryColumn sql := (db.queryColumn sql).logged config clock .column sql
  queryScalar sql := (db.queryScalar sql).logged config clock .scalar sql

end Clausal
