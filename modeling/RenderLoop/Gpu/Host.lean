import RenderLoop.Files
import RenderLoop.Gpu.Simulation

/-!
# RenderLoop — the world of a renderer

What a renderer works on: a device, a directory tree and a log. Calls to the device
end with a result code; the functions here turn a failing code into a failure of
the operation, with what is logged about it:

* a failure of the **setup** is worded once for the log and once for the caller;
* the same for other failures without a cause of their own;
* a failing **call** is worded by the name of the call, and some codes are causes
  of their own.
-/

namespace RenderLoop

/-- The world of a renderer. -/
structure Host where
  gpu : Gpu := {}
  files : Files := {}
  /-- What was logged, newest first. -/
  log : List LogEntry := []

instance : Inhabited Host := ⟨{}⟩

instance : Logging Host := ⟨fun e h => { h with log := e :: h.log }⟩

namespace Host

variable {α : Type}

/-- Changes the device. -/
def onGpu (f : Gpu → Gpu) (h : Host) : Host := { h with gpu := f h.gpu }

/-- Makes a call that answers and cannot fail. -/
def call (f : Gpu → α × Gpu) : Op Host α :=
  Op.act fun h => let (a, gpu) := f h.gpu; (a, { h with gpu })

/-- Makes a call, or fails the setup. The text for the log is `noticed`, that for the caller `told`. -/
def setUp (source noticed told : String) (step : GpuStep α) : Op Host α := do
  match ← call step with
  | .ok a => pure a
  | .error code =>
    Op.failWith (.error source s!"Failed to {noticed}: {code.name}")
      (.initializationFailed s!"Failed to {told}: {code.name}")

/-- Makes a call, or fails without a cause of its own. -/
def expect (source noticed told : String) (step : GpuStep α) : Op Host α := do
  match ← call step with
  | .ok a => pure a
  | .error code =>
    Op.failWith (.error source s!"Failed to {noticed}: {code.name}")
      (.backend s!"Failed to {told}: {code.name}")

/-- Makes a call, or fails with the cause behind its code. -/
def invoke (source name : String) (step : GpuStep α) : Op Host α := do
  match ← call step with
  | .ok a => pure a
  | .error code => code.fail source name

end Host

/-- Lets a part of the world act on the device. -/
def Op.onHost {ρ α : Type} (op : Op Host α) : Op (ρ × Host) α := op.onSecond

end RenderLoop
