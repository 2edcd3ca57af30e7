import RenderLoop.Log.Entry

/-!
# RenderLoop — operations on a world

An **operation** runs on a world of type `σ`. It can end in three ways:

* it returns a value and the world it reached;
* it fails with a cause, and still leaves a world behind: whatever it changed
  before it failed stays changed;
* it hits an arithmetic limit (an overflow, a remainder by zero, an empty
  interval to clamp into). Then the run is abandoned: there is no world after it.

The third way is kept apart from failures because nothing recovers from it.
-/

namespace RenderLoop

/-- Whether two outcomes are the same can be computed where values and causes can be compared. -/
instance decidableEqExcept {ε α : Type} [DecidableEq ε] [DecidableEq α] : DecidableEq (Except ε α)
  | .ok a, .ok b => decidable_of_iff (a = b) ⟨congrArg Except.ok, Except.ok.inj⟩
  | .error e, .error e' => decidable_of_iff (e = e') ⟨congrArg Except.error, Except.error.inj⟩
  | .ok _, .error _ => isFalse nofun
  | .error _, .ok _ => isFalse nofun

/-- An operation on a world of type `σ`. -/
abbrev Op (σ α : Type) := ExceptT RenderError (StateT σ Option) α

namespace Op

variable {σ τ α : Type}

/-- The outcome of an operation on a world: `none` when the run was abandoned. -/
def start (op : Op σ α) (s : σ) : Option (Except RenderError α × σ) := StateT.run (ExceptT.run op) s

/-- Gives the run up at an arithmetic limit. -/
def abandon : Op σ α := ExceptT.mk fun _ => none

/-- A value that an arithmetic limit may withhold. -/
def ofOption : Option α → Op σ α
  | some a => pure a
  | none => abandon

/-- A value or a failure that is already known. -/
def ofExcept : Except RenderError α → Op σ α
  | .ok a => pure a
  | .error e => throw e

/-- Ends with a failure as a value, so that the caller decides what to do about it. -/
def attempt (op : Op σ α) : Op σ (Except RenderError α) :=
  ExceptT.mk fun s => (op.start s).map fun (r, s') => (.ok r, s')

/-- Runs an operation on a part of the world. The part is written back also after a failure. -/
def on (part : σ → τ) (withPart : τ → σ → σ) (op : Op τ α) : Op σ α :=
  ExceptT.mk fun s => (op.start (part s)).map fun (r, t) => (r, withPart t s)

/-- Changes the world. -/
def change (f : σ → σ) : Op σ Unit := modify f

/-- Changes the world and returns what the change answers. -/
def act (f : σ → α × σ) : Op σ α := do
  let (a, s) := f (← get)
  set s
  pure a

/-- Takes something back if an operation fails; the failure stays. -/
def undoing (undo : σ → σ) (op : Op σ α) : Op σ α := do
  match ← op.attempt with
  | .ok a => pure a
  | .error e => do
    change undo
    throw e

/-- Runs an operation on the world together with something new, and returns what has become of
that. If the operation fails, the new thing is taken back as far as it has come. -/
def extending {ρ : Type} (a : ρ) (undo : ρ × σ → σ) (op : Op (ρ × σ) Unit) : Op σ ρ :=
  ExceptT.mk fun s => (op.start (a, s)).map fun (r, a, s) =>
    match r with
    | .ok () => (.ok a, s)
    | .error e => (.error e, undo (a, s))

/-- Runs an operation on the second component of a pair. -/
def onSecond {ρ : Type} (op : Op τ α) : Op (ρ × τ) α := op.on (·.2) fun t s => (s.1, t)

end Op

/-- Worlds that keep a log. -/
class Logging (σ : Type) where
  /-- Adds an entry. -/
  push : LogEntry → σ → σ

/-- A log by itself, newest entry first. -/
instance : Logging (List LogEntry) := ⟨List.cons⟩

/-- A pair logs in its second component. -/
instance {ρ τ : Type} [Logging τ] : Logging (ρ × τ) := ⟨fun e s => (s.1, Logging.push e s.2)⟩

namespace Op

variable {σ : Type} [Logging σ]

/-- Logs an entry. -/
def log (e : LogEntry) : Op σ Unit := change (Logging.push e)

/-- Logs entries in order. -/
def logAll : List LogEntry → Op σ Unit
  | [] => pure ()
  | e :: rest => do log e; logAll rest

/-- Logs an entry and fails. -/
def failWith {α : Type} (entry : LogEntry) (e : RenderError) : Op σ α := do
  log entry
  throw e

/-- Logs an error text and fails with the same text as a failure of the graphics API. -/
def failBackend {α : Type} (source text : String) : Op σ α :=
  failWith (.error source text) (.backend text)

end Op

end RenderLoop
