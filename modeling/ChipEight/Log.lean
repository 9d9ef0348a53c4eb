/-
# Log records

A record has a level and a text. A threshold lets through the records at or above
its level.
-/

import ChipEight.Text

namespace ChipEight.Log

/-- How serious a record is. -/
inductive Level
  | debug | info | warning | error | critical
  deriving DecidableEq, Repr

namespace Level

/-- Higher is more serious. -/
def rank : Level → Nat
  | debug => 10
  | info => 20
  | warning => 30
  | error => 40
  | critical => 50

/-- The name in a log line. -/
def name : Level → String
  | debug => "DEBUG"
  | info => "INFO"
  | warning => "WARNING"
  | error => "ERROR"
  | critical => "CRITICAL"

/-- The level of a name. -/
def ofName? (name : String) : Option Level :=
  [debug, info, warning, error, critical].find? fun level => level.name = name

end Level

/-- One line of a log. -/
structure Record where
  level : Level
  text : Text
  deriving DecidableEq, Repr

/-- The records that a threshold lets through. -/
def atLeast (threshold : Level) (records : List Record) : List Record :=
  records.filter fun r => threshold.rank ≤ r.level.rank

end ChipEight.Log
