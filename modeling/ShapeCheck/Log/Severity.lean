import ShapeCheck.Json.Record
import ShapeCheck.Text.Blank

/-!
# Severities

The five severities of log entries in ascending order, their names and how they are read.

Main statements: `rank_injective`, `ofKey?_key` and `parse_name`: a severity reads back from its
name.
-/

namespace ShapeCheck

/-- How grave a log entry is. -/
inductive Severity where
  | trace
  | info
  | warn
  | error
  | fatal
deriving DecidableEq

namespace Severity

/-- The position in ascending order. -/
def rank : Severity → Nat
  | trace => 0
  | info => 1
  | warn => 2
  | error => 3
  | fatal => 4

/-- The name in a log line. -/
def name : Severity → String
  | trace => "TRACE"
  | info => "INFO"
  | warn => "WARN"
  | error => "ERROR"
  | fatal => "FATAL"

/-- The name in a configuration. -/
def key : Severity → String
  | trace => "trace"
  | info => "info"
  | warn => "warn"
  | error => "error"
  | fatal => "fatal"

def all : List Severity :=
  [trace, info, warn, error, fatal]

/-- The severity with exactly the given key. -/
def ofKey? : String → Option Severity
  | "trace" => some trace
  | "info" => some info
  | "warn" => some warn
  | "error" => some error
  | "fatal" => some fatal
  | _ => none

/-- Reads a level name in letters of either case, with blanks around it; `warning` is a second name
of `warn`. -/
def parse (text : String) : Option Severity :=
  let level := (Text.trim text).map Char.toLower
  if level = "warning" then some warn else ofKey? level

/-- The severity that a document stands for. -/
def ofWritten? (doc : Json.Written) : Option Severity :=
  doc.alternative?.bind ofKey?

theorem rank_injective {s t : Severity} (h : s.rank = t.rank) :
    s = t := by
  cases s <;> cases t <;> first | rfl | exact absurd h (by decide)

@[simp] theorem ofKey?_key (s : Severity) :
    ofKey? s.key = some s := by
  cases s <;> rfl

theorem parse_name (s : Severity) :
    parse s.name = some s := by
  cases s <;> decide +kernel

end Severity
end ShapeCheck
