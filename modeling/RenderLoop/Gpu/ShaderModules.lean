import RenderLoop.Gpu.Host
import RenderLoop.Shader.Program

/-!
# RenderLoop — the shader modules of a program

One module of the device for each stage of a program with code, made for one
**generation** of the program. When the program moves on to another generation, all
modules are exchanged; the generation is taken over only when all of them are made.
-/

namespace RenderLoop

/-- The shader modules of a program. -/
structure ShaderModules where
  /-- The module of each stage. -/
  modules : List (ShaderStage × Handle) := []
  /-- The generation of the program they were made for. -/
  generation : UInt64 := 0
  deriving DecidableEq, Repr, Inhabited

namespace ShaderModules

/-- The component that shader modules log as. -/
def component : String := "ofvk::vulkan::Shader"

/-- Makes the modules of stages in order. -/
def build : List (ShaderStage × ShaderCode) → Op (ShaderModules × Host) Unit
  | [] => pure ()
  | (stage, code) :: rest => do
    let h ← (Host.expect component s!"create {stage.name} shader module" "create shader module"
      (Gpu.create (.shaderModule code))).onHost
    Op.change fun s => ({ s.1 with modules := s.1.modules ++ [(stage, h)] }, s.2)
    build rest

/-- Destroys the modules. -/
def drop (s : ShaderModules × Host) : ShaderModules × Host :=
  ({ s.1 with modules := [] },
    s.2.onGpu (Gpu.destroyAll .shaderModule (s.1.modules.map Prod.snd)))

/-- Destroys the modules for good. -/
def destroy (s : ShaderModules × Host) : Host := (drop s).2

/-- Makes the modules of a program. -/
def create (p : Program) : Op (ShaderModules × Host) Unit := do
  Op.change fun s => ({ s.1 with generation := p.generation }, s.2)
  build p.code.entries

/-- Exchanges the modules if the program has moved on. -/
def sync (p : Program) : Op (ShaderModules × Host) Unit := do
  if (← get).1.generation ≠ p.generation then
    Op.change drop
    build p.code.entries
    Op.change fun s => ({ s.1 with generation := p.generation }, s.2)
    Op.log (.debug component s!"Shader modules rebuilt (generation {p.generation})")

end ShaderModules

end RenderLoop
