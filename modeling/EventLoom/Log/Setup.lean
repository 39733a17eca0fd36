import EventLoom.Log.Entry
import EventLoom.Text.Case

/-!
# Setting up the log

The log is set up with the least level that it lets through, given by name or by rank, and with the
form that its records have. Loggers have names, and one whose name goes on behind a full stop is
below the one that is named before it. A logger may be given a level of its own; then that one is
the least for it and for all loggers below, up to the next one that has its own. Level zero is the
same as none.

The names of the levels, their ranks and the order of the loggers are those of the log, which is not
part of this library. They are assumed here, so that it can be said what a setup lets through.

## Results

* `letThrough_eq_none_iff` — a record is held back exactly when its level is below the least one of
  its logger.
* `leastFor_of_levels_nil` — without levels of their own, all loggers have the level of the setup.
-/

namespace EventLoom.Log

open Text

/-- The ranks of the named levels. -/
def levelRanks : List (Text × Int) := [
  ("CRITICAL".toList, 50), ("FATAL".toList, 50), ("ERROR".toList, 40), ("WARN".toList, 30),
  ("WARNING".toList, 30), ("INFO".toList, 20), ("DEBUG".toList, 10), ("NOTSET".toList, 0)]

/-- The rank of a level's name, in capitals or not. -/
def rankOfName (name : Text) : Except Fault Int :=
  match levelRanks.lookup (upper name) with
  | some rank => .ok rank
  | none => .error (.absentKey (upper name))

/-- The least level that is let through, and whether records are JSON. -/
structure Setup where
  least : Int := 20
  /-- The least level as it is told to whoever asks. -/
  told : Value := .int 20
  json : Bool := true

/-- The setup with a level that is given by name or by rank. A truth value counts as a number. -/
def Setup.ofLevel (level : Value) (json : Bool) : Except Fault Setup :=
  match level with
  | .text name => do
    let rank ← rankOfName name
    return ⟨rank, .int rank, json⟩
  | .int n => .ok ⟨n, level, json⟩
  | .bool b => .ok ⟨b.toInt, level, json⟩
  | _ => .error .wrongType

/-- The number of places that records go to; setting the log up leaves no others. -/
def handlerCount : Nat := 1

-- ---------------------------------------------------------------------------
-- Loggers
-- ---------------------------------------------------------------------------

/-- The name of the logger that all others are below. -/
def rootName : Text := "root".toList

/-- The name of a logger and the names of those above it, the nearest one first. -/
def lineage (logger : Text) : List Text :=
  let parts := cut '.' logger
  ((List.range parts.length).map fun n => join ['.'] (parts.take (parts.length - n))) ++ [rootName]

/-- What loggers have been told since the log was set up. -/
structure Loggers where
  /-- The levels of their own. -/
  levels : Table Int := []
  /-- The places that records of a logger go to and that cannot take them. -/
  faulty : List (Text × Value) := []

namespace Loggers

/-- The least level that a logger lets through. -/
def leastFor (loggers : Loggers) (setup : Setup) (logger : Text) : Int :=
  let told := (lineage logger).filterMap fun name => Table.get? loggers.levels name
  (told.find? fun rank => rank != 0).getD (if (Table.get? loggers.levels rootName).isSome then 0
    else setup.least)

/-- What becomes of a record. -/
def letThrough (loggers : Loggers) (setup : Setup) (logger : Text) (method : Method)
    (record : Entries) : Except Fault (Option Entries) :=
  if method.rank < loggers.leastFor setup logger then .ok none
  else if (lineage logger).any fun name => loggers.faulty.any fun place => place.1 == name then
    .error .noSuchOperation
  else .ok (some record)

theorem leastFor_of_levels_nil (setup : Setup) (logger : Text) :
    ({} : Loggers).leastFor setup logger = setup.least := by
  simp [leastFor]

theorem letThrough_eq_none_iff (loggers : Loggers) (setup : Setup) (logger : Text) (method : Method)
    (record : Entries) :
    loggers.letThrough setup logger method record = .ok none ↔
      method.rank < loggers.leastFor setup logger := by
  unfold letThrough
  repeat' split
  all_goals simp_all

end Loggers

end EventLoom.Log
