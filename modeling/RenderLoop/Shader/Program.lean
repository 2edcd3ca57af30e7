import RenderLoop.Shader.Source
import RenderLoop.Vertex.Input
import RenderLoop.Descriptor.SetLayout

/-!
# RenderLoop — shader programs

A **program** is a set of stages, each loaded from a file of its own. Compiling a
program loads every stage, and reflects all of them again if the content of any
has changed since it was last loaded; every reflection begins a new **generation**
of the program.

A stage that cannot be loaded or reflected is skipped, as long as the failure is
one the renderer can live with; what went wrong is part of the **compile report**.
Any other failure aborts the compilation and leaves the program as it was.
-/

namespace RenderLoop

/-- A shader program. -/
structure Program where
  sources : List ShaderSource
  sparseSets : SparseSetPolicy := .error
  /-- The code of the stages that have been loaded. -/
  code : SortedMap ShaderStage ShaderCode := {}
  /-- The hash of what was last loaded for a stage. -/
  hashes : SortedMap ShaderStage UInt64 := {}
  uniforms : UniformTable := {}
  vertexInput : VertexLayout := {}
  /-- The set layouts; the one at position `i` is that of set `i`. -/
  layouts : List SetLayout := []
  /-- The number of reflections so far. -/
  generation : UInt64 := 0
  deriving DecidableEq, Repr, Inhabited

/-- The outcome of a compilation. -/
structure CompileReport where
  /-- Whether the program was reflected again. -/
  rebuilt : Bool := false
  /-- The failures the compilation went on after. -/
  errors : List RenderError := []
  deriving DecidableEq, Repr, Inhabited

namespace Program

/-- The stages with code, in pipeline order. -/
def stages (p : Program) : List ShaderStage := p.code.keys

/-- Whether code differs from what was last loaded for a stage. A stage that has not been loaded
differs. -/
def isDirty (p : Program) (stage : ShaderStage) (code : ShaderCode) : Bool :=
  p.hashes.get? stage ≠ some code.hash

/-- Notes the hash of what was loaded for a stage. -/
def noteHash (p : Program) (stage : ShaderStage) (code : ShaderCode) : Program :=
  { p with hashes := p.hashes.insert stage code.hash }

-- ---------------------------------------------------------------------------
-- Loading
-- ---------------------------------------------------------------------------

/-- What a compilation has found out so far. -/
structure Loading where
  /-- Whether the code of any stage has changed. -/
  dirty : Bool := false
  errors : List RenderError := []
  deriving DecidableEq, Repr, Inhabited

/-- Goes on after a failure. -/
def Loading.skip (l : Loading) (e : RenderError) : Loading := { l with errors := l.errors ++ [e] }

variable {σ : Type} [Logging σ]

/-- Goes on after a failure that is reported and survived; stops at a fatal one. -/
def survive (e : RenderError) : Op σ Unit :=
  if e.isFatal then throw e else Op.log (.report ShaderSource.component e)

/-- Takes in the code of a stage. -/
def accept (l : Loading) (stage : ShaderStage) (code : ShaderCode) : Op (Program × σ) Loading := do
  let dirty := (← get).1.isDirty stage code
  Op.change fun s => (s.1.noteHash stage code, s.2)
  if dirty then do
    Op.change fun s => ({ s.1 with code := s.1.code.insert stage code }, s.2)
    pure { l with dirty }
  else pure l

/-- Loads one stage. -/
def loadSource (tools : ShaderTools σ) (l : Loading) (s : ShaderSource) :
    Op (Program × σ) Loading := do
  match ← (s.load tools).onSecond.attempt with
  | .ok code => accept l s.stage code
  | .error e => do
    (survive e).onSecond
    pure (l.skip e)

/-- Loads stages in order. -/
def loadSources (tools : ShaderTools σ) (l : Loading) :
    List ShaderSource → Op (Program × σ) Loading
  | [] => pure l
  | s :: rest => do loadSources tools (← loadSource tools l s) rest

-- ---------------------------------------------------------------------------
-- Reflection
-- ---------------------------------------------------------------------------

/-- A reflection in progress. -/
structure Reflection where
  uniforms : UniformTable := {}
  vertexInput : VertexLayout := {}
  errors : List RenderError := []
  deriving DecidableEq, Repr, Inhabited

/-- Derives the vertex input, if the stage is the vertex stage. -/
def takeInputs (r : Reflection) (stage : ShaderStage) (inputs : List StageInput) :
    Op σ Reflection :=
  if stage = .vertex then do
    let (layout, rejected) ← Op.ofOption (VertexLayout.ofInputs inputs)
    Op.logAll (rejected.map (·.entry))
    pure { r with vertexInput := layout, errors := r.errors ++ rejected.map (·.failure) }
  else pure r

/-- Merges the interface of a stage. -/
def takeInterface (r : Reflection) (stage : ShaderStage) (interface : StageInterface) :
    Op σ Reflection := do
  let (uniforms, notices) := r.uniforms.mergeStage stage interface
  Op.logAll (notices.map (·.entry))
  takeInputs { r with uniforms, errors := r.errors ++ notices.filterMap (·.failure?) } stage
    interface.inputs

/-- Reflects one stage. -/
def reflectStage (tools : ShaderTools σ) (r : Reflection) (stage : ShaderStage)
    (code : ShaderCode) : Op σ Reflection := do
  match ← (tools.reflect stage code).attempt with
  | .ok interface => takeInterface r stage interface
  | .error e => do
    survive e
    pure { r with errors := r.errors ++ [e] }

/-- Reflects stages in order. -/
def reflectStages (tools : ShaderTools σ) (r : Reflection) :
    List (ShaderStage × ShaderCode) → Op σ Reflection
  | [] => pure r
  | (stage, code) :: rest => do
    reflectStages tools (← reflectStage tools r stage code) rest

/-- What is logged about a new set layout. -/
def layoutEntry (l : SetLayout) : LogEntry :=
  .debug ShaderSource.component
    s!"Set {l.set} layout: {l.bindings.length} binding(s), key 0x{keyText l.key}"

/-- What is logged about a finished reflection. -/
def reflectedEntry (p : Program) : LogEntry :=
  .info ShaderSource.component (s!"Reflected {p.code.size} stage(s): " ++
    s!"{p.uniforms.size} uniform block(s), {p.vertexInput.attributes.length} vertex attribute(s)")

/-- A generation of a program, with what was reflected. -/
def withReflection (p : Program) (r : Reflection) (layouts : List SetLayout)
    (generation : UInt64) : Program :=
  { p with uniforms := r.uniforms, vertexInput := r.vertexInput, layouts, generation }

/-- Reflects all stages of the program and begins its next generation. Nothing of the program changes
before all of them have been reflected. The answer is the failures that were survived, after those
there were before. -/
def reflect (tools : ShaderTools σ) (errors : List RenderError) :
    Op (Program × σ) (List RenderError) := do
  let p := (← get).1
  let r ← (reflectStages tools { errors } p.code.entries).onSecond
  (Op.logAll (setLayoutEntries r.uniforms p.sparseSets)).onSecond
  let layouts ← Op.ofExcept (setLayouts r.uniforms p.sparseSets)
  (Op.logAll (layouts.map layoutEntry)).onSecond
  let generation ← Op.ofOption (Checked.add64 p.generation 1)
  Op.change fun s => (s.1.withReflection r layouts generation, s.2)
  Op.log (← get).1.reflectedEntry
  pure r.errors

-- ---------------------------------------------------------------------------
-- Compilation
-- ---------------------------------------------------------------------------

/-- Loads every stage, and reflects all of them if the code of any has changed. -/
def loadAndReflect (tools : ShaderTools σ) : Op (Program × σ) CompileReport := do
  let l ← loadSources tools {} (← get).1.sources
  if l.dirty then do
    let errors ← reflect tools l.errors
    pure ⟨true, errors⟩
  else pure ⟨false, l.errors⟩

/-- Compiles the program of a world. What has been loaded is put back after a failure, so that the
next compilation finds the same stages changed. -/
def compile (tools : ShaderTools σ) : Op (Program × σ) CompileReport := do
  let p := (← get).1
  (loadAndReflect tools).undoing fun s => ({ s.1 with code := p.code, hashes := p.hashes }, s.2)

/-- Compiles a program that is not part of a world. -/
def compiled (tools : ShaderTools σ) (p : Program) : Op σ (Program × CompileReport) :=
  ExceptT.mk fun s => ((compile tools).start (p, s)).map fun (r, p, s) => (r.map (p, ·), s)

end Program

end RenderLoop
