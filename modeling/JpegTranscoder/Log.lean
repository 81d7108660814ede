/-
**Log records.**

Every function that reports what it does returns its records beside its result, in order.
-/

namespace JpegTranscoder.Log

/-- How important a record is. -/
inductive Level where
  | trace
  | debug
  | info
  | warn
  deriving DecidableEq, Repr

/-- The level's name as log lines write it. -/
def Level.name : Level → String
  | .trace => "TRACE"
  | .debug => "DEBUG"
  | .info => "INFO"
  | .warn => "WARN"

structure Record where
  level : Level
  text : String
  deriving DecidableEq, Repr

def Record.line (record : Record) : String := record.level.name ++ " " ++ record.text

end JpegTranscoder.Log
