import RenderLoop.Shader.Binary
import RenderLoop.Shader.Stage
import RenderLoop.Shader.Interface
import RenderLoop.Files
import RenderLoop.Op

/-!
# RenderLoop — loading the code of a stage

A stage is kept in a file of its own, either as a binary (extension `spv`) or as
source text, which a compiler turns into code. The compiler and the reflector are
services of the world the program lives in (`ShaderTools`); they may do what they
like with that world. Without a compiler a stage given as text is refused with a warning
(`refuseSource`), and the program goes on without it.
-/

namespace RenderLoop

/-- A stage of a program and the path of its file. -/
structure ShaderSource where
  stage : ShaderStage
  path : String
  deriving DecidableEq, Repr, Inhabited

/-- What a world offers for loading programs. -/
structure ShaderTools (σ : Type) where
  files : σ → Files
  /-- Compiles a source text; the file name is for messages. -/
  compile : ShaderStage → (text fileName : String) → Op σ ShaderCode
  /-- Finds the resource interface of a stage. -/
  reflect : ShaderStage → ShaderCode → Op σ StageInterface

/-- Refuses to compile. -/
def refuseSource {σ : Type} [Logging σ] (stage : ShaderStage) (_text fileName : String) :
    Op σ ShaderCode :=
  Op.failWith
    (.warn "ofvk::vulkan::ShaderCompiler"
      s!"Cannot compile {stage.name} shader '{fileName}': built without GLSL support")
    (.shaderCompileFailed fileName "GLSL compilation requires the `shaderc-compile` feature")

namespace ShaderSource

/-- The component that programs log as. -/
def component : String := "ofvk::ShaderReflector"

/-- What is logged before a source text is compiled. -/
def compilingEntry (s : ShaderSource) : LogEntry :=
  .debug component s!"Compiling {s.stage.name} shader '{s.path}'"

/-- The failure to read the file of a stage. -/
def unreadable (s : ShaderSource) (e : FileError) : RenderError :=
  .invalidResource s!"Failed to read '{s.path}': {e.message}"

/-- The content of a file, or why it cannot be read. -/
def content {α : Type} (s : ShaderSource) : Except FileError α → Except RenderError α
  | .ok a => .ok a
  | .error e => .error (s.unreadable e)

/-- Loads the code of a stage. -/
def load {σ : Type} [Logging σ] (tools : ShaderTools σ) (s : ShaderSource) : Op σ ShaderCode := do
  let files := tools.files (← get)
  if !files.isFile s.path then throw (.shaderNotFound s.path)
  else if Path.hasExtension s.path "spv" then
    let bytes ← Op.ofExcept (s.content (files.read s.path))
    Op.ofExcept (ShaderCode.ofBytes bytes)
  else
    let text ← Op.ofExcept (s.content (files.readText s.path))
    Op.log s.compilingEntry
    tools.compile s.stage text ((Path.fileName? s.path).getD "shader")

end ShaderSource

end RenderLoop
