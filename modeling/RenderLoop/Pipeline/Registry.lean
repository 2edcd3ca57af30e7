import RenderLoop.Pipeline.State
import RenderLoop.Hash
import RenderLoop.SortedMap
import RenderLoop.Op
import RenderLoop.Mesh.Draw

/-!
# RenderLoop — pipelines by key

A pipeline is identified by a **key**: the hash of its state, of the generation of
the program and of the generation of the render pass. Editing a shader or
rebuilding the pass therefore gives new keys. The **registry** keeps the pipelines
that have been built, one per key.

Meshes are drawn with a pair of pipelines, **solid** and **wireframe**, that differ
in the way polygons are filled.
-/

namespace RenderLoop

/-- The identity of a built pipeline. -/
structure PipelineKey where
  value : UInt64
  deriving DecidableEq, Repr, Inhabited

namespace PipelineKey

/-- Feeds a state to the hash, field by field. -/
def hashState (h : Hash) (s : PipelineState) : Hash :=
  (((((((h.addNat s.topology.number).addNat s.polygonMode.number).addNat s.cullMode.number).addNat
    s.frontFace.number).addBool s.depthTest).addBool s.depthWrite).addNat
    s.depthCompare.number).addBool s.blend

/-- The key of a state in a program generation and a pass generation. -/
def of (s : PipelineState) (programGeneration passGeneration : UInt64) : PipelineKey :=
  ⟨(((hashState {} s).add programGeneration).add passGeneration).finish⟩

instance : Ord PipelineKey := ⟨fun a b => compare a.value b.value⟩

instance : Std.TransOrd PipelineKey :=
  inferInstanceAs (Std.TransCmp fun a b : PipelineKey => compareOn PipelineKey.value a b)

instance : Std.LawfulEqOrd PipelineKey where
  eq_of_compare h := by
    rename_i a b
    cases a; cases b
    exact congrArg PipelineKey.mk (Std.LawfulEqOrd.eq_of_compare h)

end PipelineKey

/-- Built pipelines of type `α` by key. -/
structure PipelineRegistry (α : Type) where
  byKey : SortedMap PipelineKey α := {}
  deriving DecidableEq, Repr

namespace PipelineRegistry

variable {α : Type}

instance : Inhabited (PipelineRegistry α) := ⟨{}⟩

def get? (r : PipelineRegistry α) (key : PipelineKey) : Option α := r.byKey.get? key

def insert (r : PipelineRegistry α) (key : PipelineKey) (pipeline : α) : PipelineRegistry α :=
  ⟨r.byKey.insert key pipeline⟩

/-- A pipeline that was built is found by its key, all others as before. -/
theorem get?_insert (r : PipelineRegistry α) (key key' : PipelineKey) (pipeline : α) :
    (r.insert key pipeline).get? key' =
      if compare key' key = .eq then some pipeline else r.get? key' := by
  rw [get?, insert, SortedMap.get?_insert]
  rfl

/-- All pipelines. -/
def pipelines (r : PipelineRegistry α) : List α := r.byKey.values

def size (r : PipelineRegistry α) : Nat := r.byKey.size

def isEmpty (r : PipelineRegistry α) : Bool := r.byKey.isEmpty

/-- The pipeline of a key: the one there is, or else one that `build` makes. A failing build leaves
the registry as it was. -/
def getOrBuild {τ : Type} (key : PipelineKey) (build : Op τ α) :
    Op (PipelineRegistry α × τ) α := do
  match (← get).1.get? key with
  | some pipeline => pure pipeline
  | none => do
    let pipeline ← build.onSecond
    Op.change fun s => (s.1.insert key pipeline, s.2)
    pure pipeline

end PipelineRegistry

/-- The two pipelines of mesh drawing. -/
structure DefaultPipelines (α : Type) where
  solid : α
  wireframe : α
  deriving DecidableEq, Repr, Inhabited

/-- The pair for a state, solid first. When the second build fails, the first pipeline stays in the
registry. -/
def DefaultPipelines.build {α τ : Type} (state : PipelineState)
    (programGeneration passGeneration : UInt64) (build : PipelineState → Op τ α) :
    Op (PipelineRegistry α × τ) (DefaultPipelines α) := do
  let solid ← PipelineRegistry.getOrBuild (.of state programGeneration passGeneration) (build state)
  let wireframe ← PipelineRegistry.getOrBuild
    (.of state.wireframe programGeneration passGeneration) (build state.wireframe)
  pure ⟨solid, wireframe⟩

/-- Whether the two pipelines of a state are one: there is one pipeline per key. -/
def DefaultPipelines.isShared (state : PipelineState) (programGeneration passGeneration : UInt64) :
    Bool :=
  PipelineKey.of state programGeneration passGeneration
    == PipelineKey.of state.wireframe programGeneration passGeneration

/-- The pipeline of a render mode. Points are drawn with the solid pipeline. -/
def DefaultPipelines.select {α : Type} (p : DefaultPipelines α) : PolyRenderMode → α
  | .wireframe => p.wireframe
  | .fill | .points => p.solid

end RenderLoop
