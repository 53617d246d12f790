/-!
Log records and their levels.
-/

namespace IndexScan

/-- How much a record matters. -/
inductive Level where
  | debug
  | info
  | warning
  deriving DecidableEq, Repr

namespace Level

/-- The number of a level; it grows with what the level matters. -/
def weight : Level → Nat
  | debug => 10
  | info => 20
  | warning => 30

/-- The name of a level. -/
def name : Level → String
  | debug => "DEBUG"
  | info => "INFO"
  | warning => "WARNING"

end Level

/-- The part of the program that logs. -/
inductive Channel where
  | resolver
  | configuration
  | indexes
  deriving DecidableEq, Repr

/-- The name of a channel. -/
def Channel.name : Channel → String
  | resolver => "keyscan.resolver"
  | configuration => "keyscan.config"
  | indexes => "keyscan.cli.commands.indexes"

/-- A log record. -/
structure LogRecord where
  level : Level
  channel : Channel
  message : String
  deriving DecidableEq, Repr

/-- The records at or above a level given by its number. -/
def LogRecord.atLeast (threshold : Nat) (records : List LogRecord) : List LogRecord :=
  records.filter fun r => threshold ≤ r.level.weight

end IndexScan
