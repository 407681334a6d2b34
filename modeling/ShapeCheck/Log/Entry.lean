import ShapeCheck.Log.Severity
import ShapeCheck.Text.Hex

/-!
# Log entries

An entry is an event with its severity and its fields.  It is written as one line: a JSON object
with the event first, the severity second and the fields after them in the order of their keys.
Every control character inside it is escaped.
-/

namespace ShapeCheck

/-- What is logged. -/
inductive Event where
  | oneOfInvalidArgument
  | oneOfTypeInvalidArgument
  | typeSpecInvalid
  | checkerFaultCaught
  | batchAborted
  | failureReported
deriving DecidableEq

def Event.name : Event → String
  | oneOfInvalidArgument => "ONE_OF_INVALID_ARGUMENT"
  | oneOfTypeInvalidArgument => "ONE_OF_TYPE_INVALID_ARGUMENT"
  | typeSpecInvalid => "TYPE_SPEC_INVALID"
  | checkerFaultCaught => "CHECKER_FAULT_CAUGHT"
  | batchAborted => "BATCH_ABORTED"
  | failureReported => "FAILURE_REPORTED"

/-- A log entry. -/
structure LogEntry where
  severity : Severity
  event : Event
  fields : List (String × String)
deriving DecidableEq

namespace LogEntry

/-- Whether a character is a control character of either block. -/
def isControl (c : Char) : Bool :=
  c.toNat < 0x20 || (0x7f ≤ c.toNat && c.toNat < 0xa0)

/-- How one character is written inside a key or a value. -/
def escapedChar (c : Char) : List Char :=
  if c = '"' then ['\\', '"']
  else if c = '\\' then ['\\', '\\']
  else if c = '\n' then ['\\', 'n']
  else if c = '\r' then ['\\', 'r']
  else if c = '\t' then ['\\', 't']
  else if isControl c then '\\' :: 'u' :: Text.hexQuad c.toNat
  else [c]

/-- A text between double quotes. -/
def stringText (text : String) : List Char :=
  '"' :: (text.toList.flatMap escapedChar ++ ['"'])

/-- One member of the object. -/
def memberText (field : String × String) : List Char :=
  stringText field.1 ++ ':' :: stringText field.2

/-- The fields in ascending order of keys; fields with one key keep their order. -/
def sortedFields (entry : LogEntry) : List (String × String) :=
  entry.fields.mergeSort fun a b => a.1 ≤ b.1

/-- All members in the order in which they are written. -/
def members (entry : LogEntry) : List (String × String) :=
  ("event", entry.event.name) :: ("severity", entry.severity.name) :: entry.sortedFields

/-- The entry as one JSON object. -/
def chars (entry : LogEntry) : List Char :=
  '\x7b' :: (List.intercalate [','] (entry.members.map memberText) ++ ['\x7d'])

def text (entry : LogEntry) : String :=
  String.ofList entry.chars

/-- The line that is written. -/
def line (entry : LogEntry) : String :=
  String.ofList (entry.chars ++ ['\n'])

end LogEntry
end ShapeCheck
