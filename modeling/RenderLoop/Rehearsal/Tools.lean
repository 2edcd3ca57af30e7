import RenderLoop.Shader.Program
import RenderLoop.Spirv.Interface

/-!
# RenderLoop — rehearsing shader programs

Programs can be tried out without a compiler: a **workbench** holds files, a log
and a record of what the tools were asked, and the answers of the tools are fixed
in advance. A tool answers the same for everything (`fixed`), or looks its answer
up in a table, by the name of the file or by the stage.
-/

namespace RenderLoop

/-- A world to try programs out in. The log and the records have their newest entry first. -/
structure Workbench where
  files : Files := {}
  log : List LogEntry := []
  /-- What compilers were asked. -/
  compilerCalls : List String := []
  /-- What reflectors were asked. -/
  reflectorCalls : List String := []
  deriving DecidableEq, Repr, Inhabited

instance : Logging Workbench := ⟨fun e w => { w with log := e :: w.log }⟩

namespace Workbench

/-- Records what a compiler is asked. -/
def noteCompiler (text : String) : Op Workbench Unit :=
  Op.change fun w => { w with compilerCalls := text :: w.compilerCalls }

/-- Records what a reflector is asked. -/
def noteReflector (text : String) : Op Workbench Unit :=
  Op.change fun w => { w with reflectorCalls := text :: w.reflectorCalls }

end Workbench

/-- A compiler whose answers are known in advance. -/
inductive RehearsedCompiler where
  /-- The same code for every text, or a failure. -/
  | fixed (code : Option ShaderCode)
  /-- Answers by the name of the file. -/
  | table (answers : List (String × Except RenderError ShaderCode))
  /-- No compiler at all. -/
  | missing

namespace RehearsedCompiler

/-- The answer for a file, as far as it is fixed. -/
def answer (c : RehearsedCompiler) (fileName : String) : Except RenderError ShaderCode :=
  match c with
  | fixed (some code) => .ok code
  | fixed none => .error (.shaderCompileFailed fileName "mock compile failure")
  | table answers =>
    (answers.lookup fileName).getD (.error (.shaderCompileFailed fileName "not in table"))
  | missing => .error (.shaderCompileFailed fileName "")

/-- Compiles a text. -/
def compile (c : RehearsedCompiler) (stage : ShaderStage) (text fileName : String) :
    Op Workbench ShaderCode := do
  match c with
  | fixed _ =>
    Workbench.noteCompiler s!"{stage.name} {fileName}"
    Op.ofExcept (c.answer fileName)
  | table _ =>
    Workbench.noteCompiler s!"{stage.name} {fileName} {text.utf8ByteSize}"
    Op.ofExcept (c.answer fileName)
  | missing => refuseSource stage text fileName

end RehearsedCompiler

/-- A reflector whose answers are known in advance, or the one that reads the code. -/
inductive RehearsedReflector where
  /-- Interfaces by stage; the interface of any other stage is empty. -/
  | fixed (interfaces : List (ShaderStage × StageInterface))
  /-- Answers by stage; the interface of any other stage is empty. -/
  | table (answers : List (ShaderStage × Except RenderError StageInterface))
  | reading

namespace RehearsedReflector

/-- Finds the interface of a stage. -/
def reflect (r : RehearsedReflector) (stage : ShaderStage) (code : ShaderCode) :
    Op Workbench StageInterface := do
  match r with
  | fixed interfaces =>
    Workbench.noteReflector stage.name
    pure ((interfaces.lookup stage).getD {})
  | table answers =>
    Workbench.noteReflector s!"{stage.name} {code.length}"
    Op.ofExcept ((answers.lookup stage).getD (.ok {}))
  | reading => Spirv.reflect stage code

end RehearsedReflector

/-- The tools of a workbench. -/
def Workbench.tools (compiler : RehearsedCompiler) (reflector : RehearsedReflector) :
    ShaderTools Workbench :=
  ⟨Workbench.files, compiler.compile, reflector.reflect⟩

/-- A minimal module, told apart from others by its last word. -/
def ShaderCode.sample (seed : UInt32) : ShaderCode :=
  [ShaderCode.magic, 0x00010000, 0, 8, 0, seed]

end RenderLoop
