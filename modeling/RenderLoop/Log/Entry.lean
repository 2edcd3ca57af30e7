import RenderLoop.Error

/-!
# RenderLoop — log entries

An **entry** is a severity, the component it comes from, a text and, for
detailed entries, a place in the program text. Components of the library do not
print: they produce entries, newest first, in the state they work on.

A failure is reported at the severity its reaction calls for: a failure worth
another try is a warning, every other one an error (`LogEntry.report`).
-/

namespace RenderLoop

/-- How much attention an entry deserves, from least to most. -/
inductive Severity where
  | trace
  | debug
  | info
  | warn
  | error
  deriving DecidableEq, Repr, Inhabited

namespace Severity

/-- The position of a severity in the order of attention. -/
def rank : Severity → Nat
  | trace => 0
  | debug => 1
  | info => 2
  | warn => 3
  | error => 4

instance : Named Severity where
  all := [trace, debug, info, warn, error]
  name
    | trace => "Trace"
    | debug => "Debug"
    | info => "Info"
    | warn => "Warn"
    | error => "Error"

/-- The label of a severity, five characters wide. -/
def label : Severity → String
  | trace => "TRACE"
  | debug => "DEBUG"
  | info => "INFO "
  | warn => "WARN "
  | error => "ERROR"

end Severity

/-- A place in a program text. -/
inductive Place where
  /-- The library's own place of logging, whose file and line are left open. -/
  | here
  /-- A line of a file. -/
  | fileLine (file : String) (line : UInt32)
  deriving DecidableEq, Repr, Inhabited

/-- The text of a place: the file, a colon and the line. -/
def Place.text : Place → String
  | .here => "F:L"
  | .fileLine file line => s!"{file}:{line}"

/-- One log entry. -/
structure LogEntry where
  severity : Severity
  source : String
  message : String
  place : Option Place := none
  deriving DecidableEq, Repr, Inhabited

namespace LogEntry

/-- Whether an entry names its place. -/
def located (e : LogEntry) : Bool := e.place.isSome

def trace (source message : String) : LogEntry := ⟨.trace, source, message, none⟩

def debug (source message : String) : LogEntry := ⟨.debug, source, message, none⟩

def info (source message : String) : LogEntry := ⟨.info, source, message, none⟩

def warn (source message : String) : LogEntry := ⟨.warn, source, message, none⟩

/-- Errors name the place they were noticed at. -/
def error (source message : String) : LogEntry := ⟨.error, source, message, some .here⟩

/-- The severity at which a failure is reported. -/
def severityOf (e : RenderError) : Severity :=
  match e.reaction with
  | .transient => .warn
  | .recoverable | .fatal => .error

/-- The entry that reports a failure, without a place. -/
def report (source : String) (e : RenderError) : LogEntry :=
  ⟨severityOf e, source, e.message, none⟩

end LogEntry

end RenderLoop
