import RenderLoop.Log.Entry
import RenderLoop.Utf8

/-!
# RenderLoop — messages of the validation layer

The validation layer hands its messages to the log. A message has a severity and a
kind, each a bit mask of which the most important bit counts, and two texts: an
identifier and the message itself, either of which may be missing.
-/

namespace RenderLoop

/-- A message of the validation layer. -/
structure ValidationMessage where
  /-- One bit for each of: verbose, information, warning, error. -/
  severity : UInt32
  /-- One bit for each of: general, validation, performance. -/
  kinds : UInt32
  identifier : Option (List UInt8) := none
  text : Option (List UInt8) := none
  deriving DecidableEq, Repr, Inhabited

namespace ValidationMessage

/-- The component that messages are logged as. -/
def component : String := "ofvk::vulkan::Validation"

/-- The severity that messages of this severity are logged with. Information of the layer is
detail here. -/
def logSeverity (severity : UInt32) : Severity :=
  if severity &&& 0x1000 ≠ 0 then .error
  else if severity &&& 0x100 ≠ 0 then .warn
  else if severity &&& 0x10 ≠ 0 then .debug
  else .trace

/-- The word for the kinds of a message. -/
def label (kinds : UInt32) : String :=
  if kinds &&& 0x2 ≠ 0 then "validation"
  else if kinds &&& 0x4 ≠ 0 then "performance"
  else "general"

/-- A text that may be missing. -/
def textOr (missing : String) (bytes : Option (List UInt8)) : String :=
  (bytes.map Utf8.terminated).getD missing

/-- The line of a message. -/
def line (m : ValidationMessage) : String :=
  let identifier := textOr "Unknown" m.identifier
  let text := textOr "No message" m.text
  s!"[{label m.kinds}] [{identifier}] {text}"

/-- The log entry of a message. -/
def entry (m : ValidationMessage) : LogEntry := ⟨logSeverity m.severity, component, m.line, none⟩

/-- What the layer is told after a message: that the call that caused it goes on. -/
def reply : Nat := 0

end ValidationMessage

end RenderLoop
