import RenderLoop.Gpu.Host
import RenderLoop.Descriptor.Budget
import RenderLoop.Descriptor.LayoutRegistry
import RenderLoop.Descriptor.Write
import RenderLoop.Shader.Program
import RenderLoop.Sorting

/-!
# RenderLoop — the descriptors of a program

The objects through which a program reads its uniform blocks: a layout for each of
its sets, the pipeline layout made of them, a pool with room for exactly these sets,
and the sets, all of which refer to the frame buffer.

When the program changes, everything but the set layouts is made again. Set layouts
are shared by content and live as long as the whole.
-/

namespace RenderLoop

/-- The descriptors of a program. -/
structure Descriptors where
  registry : LayoutRegistry Handle := {}
  /-- The layout of each set. -/
  layouts : List Handle := []
  /-- The pipeline layout; 0 if there is none. -/
  pipelineLayout : Handle := 0
  /-- The pool; 0 if there is none. -/
  pool : Handle := 0
  sets : List Handle := []
  /-- The uniform blocks that take an offset when the sets are bound, in the order of the offsets. -/
  dynamicSlots : List Slot := []
  deriving DecidableEq, Repr, Inhabited

namespace Descriptors

/-- The component that descriptors log as. -/
def component : String := "ofvk::vulkan::Descriptor"

-- ---------------------------------------------------------------------------
-- Layouts
-- ---------------------------------------------------------------------------

/-- Creates the object of a set layout. -/
def createLayout (layout : SetLayout) : Op Host Handle :=
  Host.expect component s!"create layout for set {layout.set}" "create descriptor set layout"
    (Gpu.create (.setLayout layout))

/-- The object of a set layout. -/
def layoutObject (layout : SetLayout) : Op (Descriptors × Host) Handle :=
  (LayoutRegistry.getOrCreate layout (createLayout layout)).on (fun s => (s.1.registry, s.2))
    fun t s => ({ s.1 with registry := t.1 }, t.2)

/-- The objects of set layouts in order. -/
def layoutObjects : List SetLayout → Op (Descriptors × Host) (List Handle)
  | [] => pure []
  | layout :: rest => do
    let h ← layoutObject layout
    return h :: (← layoutObjects rest)

/-- Creates the pipeline layout. -/
def createPipelineLayout (layouts : List Handle) : Op Host Handle :=
  Host.expect component "create pipeline layout" "create pipeline layout"
    (Gpu.create (.pipelineLayout layouts))

/-- The slots of the bindings of set layouts, set by set. -/
def slots (layouts : List SetLayout) : List Slot :=
  layouts.flatMap fun l => l.bindings.map fun b => ⟨l.set, b.slot.binding⟩

-- ---------------------------------------------------------------------------
-- Pool and sets
-- ---------------------------------------------------------------------------

/-- The sizes of the pool of a program. Without a descriptor in any set there still has to be one. -/
def poolCounts (sizes : PoolSizes) : List (DescriptorKind × UInt32) :=
  let counts := sizes.counts.entries.filter fun (_, n) => n > 0
  if counts.isEmpty then [(.uniformBufferDynamic, 1)] else counts

/-- Fails if the pool of a program would not hold its sets. -/
def checkBudget (sizes : PoolSizes) (layouts : List SetLayout) : Op Host Unit :=
  (DescriptorBudget.request layouts).on (fun h => (DescriptorBudget.ofSizes sizes, h)) fun t _ => t.2

/-- The writes of a program, for its sets. -/
def writes (layouts : List SetLayout) (sets : List Handle) (region : BufferRegion) : List SetWrite :=
  (DescriptorWrite.plan layouts region).filterMap fun w =>
    sets[w.setIndex]?.map fun set => ⟨set, w.binding, w.kind, w.region⟩

/-- Creates the pool of a program. -/
def createPool (p : Program) : Op (Descriptors × Host) Unit := do
  let sizes ← Op.ofOption (PoolSizes.ofPrograms [(p.uniforms, p.layouts.length)])
  (checkBudget sizes p.layouts).onHost
  let pool ← (Host.invoke component "vkCreateDescriptorPool"
    (Gpu.create (.descriptorPool sizes.maxSets (poolCounts sizes)))).onHost
  Op.change fun s => ({ s.1 with pool }, s.2)

/-- Allocates the sets of a program and writes them. -/
def allocateSets (layouts : List SetLayout) (region : BufferRegion) :
    Op (Descriptors × Host) Unit := do
  let d := (← get).1
  let sets ← (Host.invoke component "vkAllocateDescriptorSets"
    (Gpu.allocateSets d.pool d.layouts)).onHost
  Op.change fun s => ({ s.1 with sets },
    s.2.onGpu (Gpu.happen (.updateSets (writes layouts sets region)) .done))

/-- What is logged about finished descriptors. -/
def builtEntry (d : Descriptors) : LogEntry :=
  .debug component
    s!"{d.sets.length} descriptor sets, {d.dynamicSlots.length} dynamic bindings"

/-- Creates pool and sets, unless the program has no uniform blocks. -/
def buildSets (p : Program) (region : BufferRegion) : Op (Descriptors × Host) Unit := do
  if p.layouts.isEmpty then Op.log (.debug component "Shader declares no uniform blocks")
  else
    createPool p
    allocateSets p.layouts region
    Op.log (← get).1.builtEntry

-- ---------------------------------------------------------------------------
-- The whole
-- ---------------------------------------------------------------------------

/-- Makes the descriptors of a program. -/
def build (p : Program) (region : BufferRegion) : Op (Descriptors × Host) Unit := do
  let layouts ← layoutObjects p.layouts
  Op.change fun s => ({ s.1 with layouts }, s.2)
  let pipelineLayout ← (createPipelineLayout layouts).onHost
  Op.change fun s => ({ s.1 with pipelineLayout, dynamicSlots := slots p.layouts }, s.2)
  buildSets p region

/-- Destroys everything but the set layouts. Sets go with their pool. -/
def drop (s : Descriptors × Host) : Descriptors × Host :=
  ({ registry := s.1.registry },
    s.2.onGpu fun g => (g.destroyIfAny .descriptorPool s.1.pool).destroyIfAny .pipelineLayout
      s.1.pipelineLayout)

/-- Makes the descriptors again for a changed program. -/
def rebuild (p : Program) (region : BufferRegion) : Op (Descriptors × Host) Unit := do
  Op.change drop
  build p region

/-- Destroys everything. -/
def destroy (s : Descriptors × Host) : Host :=
  let (d, h) := drop s
  h.onGpu (Gpu.destroyAll .setLayout (sortBy (· ≤ ·) d.registry.objects))

/-- The command that binds all sets, if there are any. -/
def bindCommand? (d : Descriptors) (offsets : List UInt32) : Option GpuCommand :=
  if d.sets.isEmpty then none else some (.bindSets d.pipelineLayout d.sets offsets)

end Descriptors

end RenderLoop
