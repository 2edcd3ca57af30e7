import RenderLoop.Frame.Synchronizer
import RenderLoop.Gpu.Descriptors
import RenderLoop.Gpu.FrameMemory
import RenderLoop.Gpu.PipelineCache
import RenderLoop.Gpu.Pipelines
import RenderLoop.Gpu.RenderTargets
import RenderLoop.Gpu.ShaderModules
import RenderLoop.Gpu.Swapchain
import RenderLoop.Spirv.Interface

/-!
# RenderLoop — the renderer

A **renderer** draws to one window. It has a device with its frame machine, a
swapchain with its render targets, a program with everything the device needs to run
it, and a frame buffer.

This module holds the parts, the operations that run on one part of a renderer, and
the end of a renderer, in which every part is destroyed before what it depends on.
Parts that have not been made yet have handles of 0 and nothing to destroy.
-/

namespace RenderLoop

/-- A renderer for one window. -/
structure Renderer where
  device : GpuDevice
  machine : Synchronizer
  swapchain : Swapchain
  targets : RenderTargets := {}
  cache : PipelineCache := {}
  memory : FrameMemory := {}
  program : Program
  modules : ShaderModules := {}
  descriptors : Descriptors := {}
  pipelines : Pipelines := {}
  /-- The state of the pipelines that meshes are drawn with. -/
  pipelineState : PipelineState := {}
  /-- The matrices that meshes are drawn with. -/
  matrices : Matrices := {}
  /-- The frame that is being recorded. -/
  frame : Option Frame := none
  /-- The size of the window as last reported. -/
  window : Extent

namespace Renderer

/-- The component that renderers log as. -/
def component : String := "ofvk::vulkan::Renderer"

/-- The objects that everything else depends on. -/
def context (r : Renderer) : GpuContext := r.device.context

/-- The size of the images. -/
def extent (r : Renderer) : Extent := r.swapchain.extent

/-- Source texts are refused; interfaces are found in the code. -/
def tools : ShaderTools Host := ⟨(·.files), refuseSource, Spirv.reflect⟩

-- ---------------------------------------------------------------------------
-- Operations on parts
-- ---------------------------------------------------------------------------

/-- Operations on a renderer and its world. -/
abbrev Action (α : Type) := Op (Renderer × Host) α

variable {α : Type}

def onSwapchain (op : Op (Swapchain × Host) α) : Action α :=
  op.on (fun s => (s.1.swapchain, s.2)) fun t s => ({ s.1 with swapchain := t.1 }, t.2)

def onTargets (op : Op (RenderTargets × Host) α) : Action α :=
  op.on (fun s => (s.1.targets, s.2)) fun t s => ({ s.1 with targets := t.1 }, t.2)

def onMemory (op : Op (FrameMemory × Host) α) : Action α :=
  op.on (fun s => (s.1.memory, s.2)) fun t s => ({ s.1 with memory := t.1 }, t.2)

def onProgram (op : Op (Program × Host) α) : Action α :=
  op.on (fun s => (s.1.program, s.2)) fun t s => ({ s.1 with program := t.1 }, t.2)

def onModules (op : Op (ShaderModules × Host) α) : Action α :=
  op.on (fun s => (s.1.modules, s.2)) fun t s => ({ s.1 with modules := t.1 }, t.2)

def onDescriptors (op : Op (Descriptors × Host) α) : Action α :=
  op.on (fun s => (s.1.descriptors, s.2)) fun t s => ({ s.1 with descriptors := t.1 }, t.2)

def onPipelines (op : Op (Pipelines × Host) α) : Action α :=
  op.on (fun s => (s.1.pipelines, s.2)) fun t s => ({ s.1 with pipelines := t.1 }, t.2)

/-- The frame machine with its world: the swapchain and the device. -/
abbrev Machinery := Synchronizer × Swapchain × GpuDevice × Host

/-- The frame machine of a renderer with its world. -/
def machinery (s : Renderer × Host) : Machinery := (s.1.machine, s.1.swapchain, s.1.device, s.2)

/-- Writes the frame machine and its world back. -/
def withMachinery (m : Machinery) (s : Renderer × Host) : Renderer × Host :=
  ({ s.1 with machine := m.1, swapchain := m.2.1, device := m.2.2.1 }, m.2.2.2)

def onMachine (op : Op Machinery α) : Action α := op.on machinery withMachinery

/-- Changes the renderer itself. -/
def set (f : Renderer → Renderer) : Action Unit := Op.change fun s => (f s.1, s.2)

/-- Refreshes what the commands of frames refer to. -/
def retarget (r : Renderer) : Renderer :=
  { r with device := { r.device with targets := r.targets.frameTargets r.swapchain.images } }

-- ---------------------------------------------------------------------------
-- Pipelines
-- ---------------------------------------------------------------------------

/-- What pipelines are built from now. -/
def basis (r : Renderer) : PipelineBasis where
  cache := r.cache.handle
  modules := r.modules.modules
  input := r.program.vertexInput
  pass := r.targets.passHandle
  layout := r.descriptors.pipelineLayout
  programGeneration := r.modules.generation
  passGeneration := r.targets.generation

/-- Builds the pipelines of the current state, as far as they are not there. -/
def buildPipelines : Action Unit := do
  let r := (← get).1
  onPipelines (Pipelines.buildPair r.basis r.pipelineState)

/-- Builds the pipelines of the current state anew. -/
def rebuildPipelines : Action Unit := do
  let r := (← get).1
  onPipelines (Pipelines.rebuildPair r.basis r.pipelineState)

/-- The size of the largest uniform block of a program. -/
def uniformRange (p : Program) : UInt64 :=
  (p.uniforms.bindings.map fun b => b.size.toUInt64).foldl max 0

-- ---------------------------------------------------------------------------
-- The end
-- ---------------------------------------------------------------------------

/-- Destroys what the program needs. -/
def destroyProgram (r : Renderer) (h : Host) : Host :=
  r.memory.destroy (ShaderModules.destroy (r.modules, Descriptors.destroy (r.descriptors, h)))

/-- Destroys what frames are rendered to. -/
def destroyScreen (r : Renderer) (h : Host) : Host :=
  Swapchain.destroy (r.swapchain, RenderTargets.destroy (r.targets, h))

/-- Destroys the frame machine. -/
def destroyMachine (r : Renderer) (h : Host) : Host :=
  (Synchronizer.destroy (r.machine, r.device, h)).2.2

/-- Destroys everything but the device. -/
def dismantle (s : Renderer × Host) : Host :=
  s.1.destroyMachine (s.1.destroyScreen (s.1.cache.destroy
    (s.1.destroyProgram (Pipelines.destroy (s.1.pipelines, s.2)))))

/-- Destroys everything. The cache goes right after the pipelines. -/
def destroy (s : Renderer × Host) : Host :=
  let h := s.1.cache.destroy (Pipelines.destroy (s.1.pipelines, s.2))
  s.1.context.destroy
    (s.1.device.destroy (s.1.destroyMachine (s.1.destroyScreen (s.1.destroyProgram h))))

/-- Saves the pipeline cache and destroys everything, once the device has nothing to do. -/
def close (r : Renderer) : Op Host Unit := do
  let _ ← GpuContext.waitIdle.attempt
  match ← r.cache.save.attempt with
  | .ok () => pure ()
  | .error e => Op.log (.warn component s!"Pipeline cache not saved: {e.message}")
  Op.change fun h => destroy (r, h)

end Renderer

end RenderLoop
