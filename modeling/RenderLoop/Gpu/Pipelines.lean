import RenderLoop.Gpu.Host
import RenderLoop.Pipeline.Registry
import RenderLoop.Sorting

/-!
# RenderLoop — graphics pipelines of the device

A pipeline object lives as long as the registry or the pair in use refers to it, and
is destroyed when neither does any more. So a pair that was taken out of the
registry is still good until another pair takes its place.
-/

namespace RenderLoop

/-- What all pipelines of a program are built from. -/
structure PipelineBasis where
  cache : Handle
  modules : List (ShaderStage × Handle)
  input : VertexLayout
  pass : Handle
  layout : Handle
  /-- The generation of the program that the modules belong to. -/
  programGeneration : UInt64
  passGeneration : UInt64
  deriving DecidableEq, Repr, Inhabited

namespace PipelineBasis

/-- The pipeline to ask for in a state. -/
def request (b : PipelineBasis) (state : PipelineState) : PipelineRequest :=
  { cache := b.cache, modules := b.modules, input := b.input, state, layout := b.layout,
    pass := b.pass }

/-- Builds a pipeline. -/
def build (b : PipelineBasis) (state : PipelineState) : Op Host Handle :=
  Host.expect "ofvk::vulkan::Pipeline" s!"create {Named.name state.polygonMode} pipeline"
    "create graphics pipeline" (Gpu.create (.pipeline (b.request state)))

end PipelineBasis

/-- The pipelines that were built, and the pair in use. -/
structure Pipelines where
  registry : PipelineRegistry Handle := {}
  /-- The pair in use; there is none before the first one was built. -/
  pair : Option (DefaultPipelines Handle) := none
  deriving DecidableEq, Repr, Inhabited

namespace Pipelines

/-- The pipelines of the pair in use. -/
def inUse (p : Pipelines) : List Handle := p.pair.toList.flatMap fun d => [d.solid, d.wireframe]

/-- All pipelines that are referred to, each once, in the order of their handles. -/
def alive (p : Pipelines) : List Handle :=
  (sortBy (· ≤ ·) (p.registry.pipelines ++ p.inUse)).eraseDups

/-- Changes what is referred to, and destroys what is not any more. -/
def update (f : Pipelines → Pipelines) (s : Pipelines × Host) : Pipelines × Host :=
  let p := f s.1
  let dead := s.1.alive.filter fun h => !p.alive.contains h
  (p, s.2.onGpu (Gpu.destroyAll .pipeline dead))

/-- Takes all pipelines out of the registry. -/
def drain : Pipelines × Host → Pipelines × Host := update fun p => { p with registry := {} }

/-- Takes a pair into use. -/
def adopt (pair : DefaultPipelines Handle) : Pipelines × Host → Pipelines × Host :=
  update fun p => { p with pair := some pair }

/-- Destroys everything. -/
def destroy (s : Pipelines × Host) : Host := (update (fun _ => {}) s).2

/-- Builds the pair for a state, as far as the registry does not have it, and takes it into use. -/
def buildPair (b : PipelineBasis) (state : PipelineState) : Op (Pipelines × Host) Unit := do
  let pair ← (DefaultPipelines.build state b.programGeneration b.passGeneration b.build).on
    (fun s => (s.1.registry, s.2)) fun t s => ({ s.1 with registry := t.1 }, t.2)
  Op.change (adopt pair)

/-- Builds the pair anew. -/
def rebuildPair (b : PipelineBasis) (state : PipelineState) : Op (Pipelines × Host) Unit := do
  Op.change drain
  buildPair b state

end Pipelines

end RenderLoop
