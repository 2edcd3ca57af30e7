/-!
# RenderLoop — what can go wrong

Every failure the render loop reports is one of fourteen **causes**. A cause
carries the data needed to explain it and nothing else; the wording is produced
in one place, `RenderError.message`.

Causes are grouped by how the host is expected to react (`Reaction`): give up,
carry on without the affected shader or binding, or rebuild the swapchain and
try again. The grouping decides which failures a shader compilation survives
and at which severity a failure is reported.

Groups and other choices have names (`Named`), so that a choice can be shown as a
word and found again by its word.
-/

namespace RenderLoop

-- ---------------------------------------------------------------------------
-- Choices with names
-- ---------------------------------------------------------------------------

/-- A finite type whose values have names. -/
class Named (α : Type) where
  /-- All values. -/
  all : List α
  /-- The name of a value. -/
  name : α → String

/-- The value with a name. -/
def Named.ofName? {α : Type} [Named α] (s : String) : Option α :=
  (Named.all : List α).find? fun a => Named.name a == s

-- ---------------------------------------------------------------------------
-- Reactions and causes
-- ---------------------------------------------------------------------------

/-- How the host is expected to react to a failure. -/
inductive Reaction where
  /-- The renderer cannot proceed. -/
  | fatal
  /-- The affected shader or binding is skipped and the renderer keeps running. -/
  | recoverable
  /-- Worth another try once the swapchain has been rebuilt. -/
  | transient
  deriving DecidableEq, Repr, Inhabited

instance : Named Reaction where
  all := [.fatal, .recoverable, .transient]
  name
    | .fatal => "Fatal"
    | .recoverable => "Recoverable"
    | .transient => "Transient"

/-- The place of a resource in a program's descriptor sets. -/
structure Slot where
  set : UInt32
  binding : UInt32
  deriving DecidableEq, Repr, Inhabited

/-- The causes of failure. -/
inductive RenderError where
  /-- A failure of the graphics API that has no cause of its own. -/
  | backend (text : String)
  /-- Host memory, device memory or the frame buffer is used up. -/
  | outOfMemory
  /-- A malformed module, an attribute without a vertex format, a size disagreement. -/
  | invalidResource (text : String)
  /-- Setting up the instance, device, surface or a depth format failed. -/
  | initializationFailed (text : String)
  /-- The surface offers no colour format. -/
  | noSurfaceFormat
  /-- The swapchain no longer matches its surface. -/
  | swapchainOutOfDate
  /-- The device is gone, or a frame failed on it. -/
  | deviceLost (text : String)
  /-- The surface is gone. -/
  | surfaceLost (text : String)
  /-- No file at a stage's path. -/
  | shaderNotFound (path : String)
  /-- A stage's source text was refused by the compiler. -/
  | shaderCompileFailed (path message : String)
  /-- Two stages declare one uniform block at different slots. -/
  | bindingMismatch (block : String) (first second : Slot)
  /-- A set index below the largest one in use is declared by no stage. -/
  | sparseDescriptorSet (missing : UInt32)
  /-- More sets or descriptors asked for than the pool holds. -/
  | descriptorPoolExhausted (text : String)
  /-- A frame operation in a state that does not allow it. -/
  | invalidFrameState (operation state : String)
  deriving DecidableEq, Repr, Inhabited

namespace RenderError

/-- The reaction a cause asks for. -/
def reaction : RenderError → Reaction
  | swapchainOutOfDate => .transient
  | shaderNotFound _ | shaderCompileFailed _ _ | bindingMismatch _ _ _ | invalidResource _ =>
    .recoverable
  | _ => .fatal

def isFatal (e : RenderError) : Bool := e.reaction == .fatal

def isRecoverable (e : RenderError) : Bool := e.reaction == .recoverable

def isTransient (e : RenderError) : Bool := e.reaction == .transient

/-- The name of a cause, without its data. -/
def causeName : RenderError → String
  | backend _ => "BackendError"
  | outOfMemory => "OutOfMemory"
  | invalidResource _ => "InvalidResource"
  | initializationFailed _ => "InitializationFailed"
  | noSurfaceFormat => "NoSurfaceFormat"
  | swapchainOutOfDate => "SwapchainOutOfDate"
  | deviceLost _ => "DeviceLost"
  | surfaceLost _ => "SurfaceLost"
  | shaderNotFound _ => "ShaderNotFound"
  | shaderCompileFailed _ _ => "ShaderCompileFailed"
  | bindingMismatch _ _ _ => "BindingMismatch"
  | sparseDescriptorSet _ => "SparseDescriptorSet"
  | descriptorPoolExhausted _ => "DescriptorPoolExhausted"
  | invalidFrameState _ _ => "InvalidFrameState"

/-- The wording of a cause. -/
def message : RenderError → String
  | backend text => "Backend error: " ++ text
  | outOfMemory => "Out of memory"
  | invalidResource text => "Invalid resource: " ++ text
  | initializationFailed text => "Initialization failed: " ++ text
  | noSurfaceFormat => "No valid surface format was found"
  | swapchainOutOfDate => "Swapchain is out of date"
  | deviceLost text => "Device lost: " ++ text
  | surfaceLost text => "Surface lost: " ++ text
  | shaderNotFound path => "Shader file not found: " ++ path
  | shaderCompileFailed path message => s!"Shader compile failed for '{path}': {message}"
  | bindingMismatch block first second =>
    s!"Incompatible bindings between shader stages for '{block}': " ++
      s!"(set {first.set}, binding {first.binding}) vs " ++
      s!"(set {second.set}, binding {second.binding})"
  | sparseDescriptorSet missing =>
    s!"Descriptor set ids cannot be sparse, missing definition for set {missing}"
  | descriptorPoolExhausted text => "Descriptor pool exhausted: " ++ text
  | invalidFrameState operation state => s!"Cannot {operation} while frame is {state}"

end RenderError

end RenderLoop
