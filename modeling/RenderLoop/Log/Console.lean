import RenderLoop.Log.Entry
import RenderLoop.Log.Calendar

/-!
# RenderLoop — the console logger and the logger slot

The console logger prints entries at or above a minimum severity, one line each:
the time, the label of the severity, the component, the text and, when there is
one, the place in parentheses. With colours on, the label and the component are
wrapped in terminal styles and nothing else is.

A **style** begins with an escape code and ends with the reset code. A reset
inside the styled text would end the style early, so the style is begun again
after each of them.

The **slot** holds the logger that is installed: the console logger with its
minimum severity, or a capturing one that accepts every entry and prints none.
-/

namespace RenderLoop

-- ---------------------------------------------------------------------------
-- Terminal styles
-- ---------------------------------------------------------------------------

/-- A terminal style, named by the parameters of its escape code. -/
structure Style where
  parameters : String
  deriving DecidableEq, Repr, Inhabited

namespace Style

/-- The code that ends every style. -/
def reset : String := "\x1b[0m"

/-- The code that begins a style. -/
def start (s : Style) : String := "\x1b[" ++ s.parameters ++ "m"

/-- Writes a text, beginning the style again after every reset inside it. -/
def restartAfterResets (s : Style) : List Char → List Char
  | '\x1b' :: '[' :: '0' :: 'm' :: rest =>
    reset.toList ++ s.start.toList ++ s.restartAfterResets rest
  | c :: rest => c :: s.restartAfterResets rest
  | [] => []

/-- A text in a style. -/
def apply (s : Style) (text : String) : String :=
  s.start ++ String.ofList (s.restartAfterResets text.toList) ++ reset

/-- The style of the component an entry comes from. -/
def component : Style := ⟨"94"⟩

/-- The style of a severity's label. -/
def ofSeverity : Severity → Style
  | .trace => ⟨"90"⟩
  | .debug => ⟨"36"⟩
  | .info => ⟨"32"⟩
  | .warn => ⟨"33"⟩
  | .error => ⟨"1;31"⟩

end Style

-- ---------------------------------------------------------------------------
-- Lines
-- ---------------------------------------------------------------------------

/-- The text after the component: the message and the place, if the entry has one. -/
def LogEntry.tail (e : LogEntry) : String :=
  match e.place with
  | some place => s!"{e.message} ({place.text})"
  | none => e.message

/-- The line of an entry whose label and component are shown as given. -/
def LogEntry.lineWith (time label source : String) (e : LogEntry) : String :=
  s!"[{time}] [{label}] [{source}] {e.tail}"

/-- The line of an entry without colours. -/
def LogEntry.line (time : String) (e : LogEntry) : String :=
  e.lineWith time e.severity.label e.source

/-- The line of an entry with its label and component in their styles. -/
def LogEntry.styledLine (time : String) (e : LogEntry) : String :=
  e.lineWith time ((Style.ofSeverity e.severity).apply e.severity.label)
    (Style.component.apply e.source)

/-- A logger that prints entries at or above a severity. -/
structure ConsoleLogger where
  /-- Entries below this severity are dropped. -/
  minimum : Severity := .debug
  deriving DecidableEq, Repr, Inhabited

namespace ConsoleLogger

/-- Whether an entry of this severity is printed. -/
def accepts (l : ConsoleLogger) (s : Severity) : Bool := l.minimum.rank ≤ s.rank

/-- What the logger prints for an entry: nothing, or one line with its end. -/
def print (l : ConsoleLogger) (coloured : Bool) (time : String) (e : LogEntry) : String :=
  if l.accepts e.severity then
    (if coloured then e.styledLine time else e.line time) ++ "\n"
  else ""

end ConsoleLogger

-- ---------------------------------------------------------------------------
-- The slot
-- ---------------------------------------------------------------------------

/-- The logger that is installed. -/
inductive LoggerSlot where
  /-- Entries are printed. -/
  | console (logger : ConsoleLogger)
  /-- Entries are kept. -/
  | capturing
  deriving DecidableEq, Repr, Inhabited

namespace LoggerSlot

/-- The slot as it is before a logger is installed, and after a reset. -/
def initial : LoggerSlot := .console {}

/-- What an installed logger prints for an entry. -/
def printed (slot : LoggerSlot) (coloured : Bool) (time : String) (e : LogEntry) : String :=
  match slot with
  | .console logger => logger.print coloured time e
  | .capturing => ""

/-- The entries an installed logger keeps of one entry. -/
def kept (slot : LoggerSlot) (e : LogEntry) : List LogEntry :=
  match slot with
  | .console _ => []
  | .capturing => [e]

end LoggerSlot

-- ---------------------------------------------------------------------------
-- Logging helpers that also produce a failure
-- ---------------------------------------------------------------------------

/-- The ways in which a component announces something. -/
inductive Announcement where
  | trace
  | debug
  | info
  | warn
  /-- An error with its place. -/
  | error
  /-- An error with its place, which is also the cause of a failure. -/
  | failure
  /-- A warning that is also the cause of a failure. -/
  | warnedFailure
  deriving DecidableEq, Repr, Inhabited

namespace Announcement

instance : Named Announcement where
  all := [trace, debug, info, warn, error, failure, warnedFailure]
  name
    | trace => "trace"
    | debug => "debug"
    | info => "info"
    | warn => "warn"
    | error => "error"
    | failure => "failure"
    | warnedFailure => "warned failure"

/-- The entry an announcement logs. -/
def entry (a : Announcement) (source message : String) : LogEntry :=
  match a with
  | trace => .trace source message
  | debug => .debug source message
  | info => .info source message
  | warn | warnedFailure => .warn source message
  | error | failure => .error source message

/-- The failure an announcement produces, with the text that was logged. -/
def failure? (a : Announcement) (message : String) : Option RenderError :=
  match a with
  | failure | warnedFailure => some (.backend message)
  | _ => none

end Announcement

end RenderLoop
