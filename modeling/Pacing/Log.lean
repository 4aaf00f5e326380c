/-!
# Log lines

A log line has a level, a message and named fields, whose values are texts,
integers or flags.
-/

namespace Pacing

inductive LogLevel where
  | error
  | warn
  | info
  | debug
  deriving DecidableEq, Repr

namespace LogLevel

def name : LogLevel → String
  | .error => "ERROR"
  | .warn => "WARN"
  | .info => "INFO"
  | .debug => "DEBUG"

/-- How much is shown when a level is the last one shown. -/
def rank : LogLevel → Nat
  | .error => 1
  | .warn => 2
  | .info => 3
  | .debug => 4

end LogLevel

inductive FieldValue where
  | text (value : String)
  | integer (value : Int)
  | flag (value : Bool)
  deriving DecidableEq, Repr

structure LogLine where
  level : LogLevel
  message : String
  fields : List (String × FieldValue)
  deriving DecidableEq, Repr

namespace LogLine

/-- A field that is left out when it has no value. -/
def optionalField (name : String) (value : Option FieldValue) :
    List (String × FieldValue) :=
  value.toList.map fun value => (name, value)

/-- The names of the fields of a line, of which the message is one. -/
def fieldNames (line : LogLine) : List String :=
  "message" :: line.fields.map Prod.fst

end LogLine

end Pacing
