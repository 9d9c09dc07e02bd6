import Clausal.Database.Adapter

/-!
# Scripted adapters

A scripted adapter answers from a queue of replies. It refuses nothing: a reply of the wrong kind,
or none at all, counts as an empty answer. `Adapter.recorded` keeps the statements that reach an
adapter, with the operation that each was sent by.
-/

namespace Clausal

inductive Reply where
  | rows (rows : List Row)
  | affected (count : UInt64) (id : Option Int64)
  | fail (detail : String)
  deriving Repr

structure Script where
  replies : List Reply := []
  lastId : Option Int64 := none
  /-- Statements answered so far. The clock of a script moves by one with each. -/
  answered : Nat := 0
  deriving Repr

namespace Script

/-- The next reply of the queue. -/
def next : Action Script (Option Reply) := do
  let s ← Action.state
  Action.update fun s => { s with replies := s.replies.tail, answered := s.answered + 1 }
  return s.replies.head?

def execute : Action Script UInt64 := do
  match ← next with
  | some (.affected count id) =>
    Action.update fun s => { s with lastId := id }
    return count
  | some (.fail detail) => Action.fail (.database detail)
  | _ => return 0

def queryRows : Action Script (List Row) := do
  match ← next with
  | some (.rows rows) => return rows
  | some (.fail detail) => Action.fail (.database detail)
  | _ => return []

def adapter : Adapter Script where
  execute _ := execute
  lastInsertId s := s.lastId
  queryRows _ := queryRows

end Script

structure Recorded (σ : Type) where
  inner : σ
  statements : List (Operation × String) := []

namespace Recorded

variable {σ α : Type}

/-- Notes a statement, then runs it. -/
def note (operation : Operation) (sql : String) (run : Action σ α) : Action (Recorded σ) α := do
  Action.update fun s => { s with statements := s.statements ++ [(operation, sql)] }
  run.within Recorded.inner fun inner s => { s with inner := inner }

end Recorded

def Adapter.recorded {σ : Type} (adapter : Adapter σ) : Adapter (Recorded σ) where
  execute sql := Recorded.note .execute sql (adapter.execute sql)
  lastInsertId s := adapter.lastInsertId s.inner
  queryRows sql := Recorded.note .rows sql (adapter.queryRows sql)

end Clausal
