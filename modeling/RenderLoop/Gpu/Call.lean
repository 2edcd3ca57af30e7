import RenderLoop.Gpu.Creation
import RenderLoop.Gpu.Result
import RenderLoop.Descriptor.Write
import RenderLoop.Mesh.Draw

/-!
# RenderLoop — calls to the device

Everything the renderer makes the device do is a **call** with an **outcome**.
Calls that only ask the device for information are left out, apart from fetching
the images of a swapchain. Commands are recorded into command buffers by calls,
too (`GpuCommand`).

An event, a call with its outcome, has a text of one line. Views of an event say
which objects it created, destroyed and refers to.
-/

namespace RenderLoop

-- ---------------------------------------------------------------------------
-- Commands
-- ---------------------------------------------------------------------------

/-- A command recorded into a command buffer, with the handles it refers to. -/
inductive GpuCommand where
  | setViewport (viewport : Viewport)
  | setScissor (scissor : Rect)
  | beginRenderPass (pass framebuffer : Handle) (area : Rect) (clears : List ClearValue)
  | endRenderPass
  | barrier (image : Handle) (transition : ImageTransition)
  | bindPipeline (pipeline : Handle)
  | bindSets (layout : Handle) (sets : List Handle) (offsets : List UInt32)
  | bindVertices (binding : UInt32) (buffer : Handle) (offset : UInt64)
  | bindIndices (buffer : Handle) (offset : UInt64)
  | draw (call : DrawCall)
  deriving DecidableEq, Repr, Inhabited

namespace GpuCommand

open CallText

/-- The numbers of a viewport. -/
def viewportText (v : Viewport) : String :=
  numbers ([v.x, v.y, v.width, v.height, v.minDepth, v.maxDepth].map (·.toNat))

/-- The numbers of a rectangle. -/
def rectText (r : Rect) : String := s!"[{r.x},{r.y},{r.width},{r.height}]"

/-- The numbers of a clear value. -/
def clearText : ClearValue → String
  | .color c => numbers ([c.red, c.green, c.blue, c.alpha].map (·.toNat))
  | .depthStencil depth stencil => numbers [depth.toNat, stencil.toNat]

/-- The number of a queue family that stands for no change of ownership. -/
def sameFamily : Nat := 4294967295

/-- The parameters of a barrier on one image. -/
def barrierText (image : Handle) (t : ImageTransition) : String :=
  let inner := s!"image={image} layout={t.old.number}->{t.new.number} " ++
    s!"access={t.sourceAccess.bits}->{t.targetAccess.bits} " ++
    s!"family={sameFamily}->{sameFamily} range={range t.aspects}"
  s!"stage={t.sourceStage.bits}->{t.targetStage.bits} deps=0 memory=0 buffers=0 [{inner}]"

/-- The text of a command recorded into a buffer. -/
def text (b : Handle) : GpuCommand → String
  | setViewport v => s!"vkCmdSetViewport {b} first=0 [{viewportText v}]"
  | setScissor r => s!"vkCmdSetScissor {b} first=0 [{rectText r}]"
  | beginRenderPass pass framebuffer area clears =>
    s!"vkCmdBeginRenderPass {b} pass={pass} framebuffer={framebuffer} area={rectText area} " ++
      s!"clear={list (clears.map clearText)} contents=0"
  | endRenderPass => s!"vkCmdEndRenderPass {b}"
  | barrier image t => s!"vkCmdPipelineBarrier {b} {barrierText image t}"
  | bindPipeline pipeline => s!"vkCmdBindPipeline {b} point=0 {pipeline}"
  | bindSets layout sets offsets =>
    s!"vkCmdBindDescriptorSets {b} point=0 layout={layout} first=0 sets={numbers sets} " ++
      s!"offsets={list (offsets.map toString)}"
  | bindVertices binding buffer offset =>
    s!"vkCmdBindVertexBuffers {b} first={binding} buffers=[{buffer}] offsets=[{offset}]"
  | bindIndices buffer offset =>
    s!"vkCmdBindIndexBuffer {b} buffer={buffer} offset={offset} type=1"
  | draw (.nonIndexed vertices instances firstVertex firstInstance) =>
    s!"vkCmdDraw {b} {vertices} {instances} {firstVertex} {firstInstance}"
  | draw (.indexed indices instances firstIndex vertexOffset firstInstance) =>
    s!"vkCmdDrawIndexed {b} {indices} {instances} {firstIndex} {vertexOffset} {firstInstance}"

/-- The objects a command refers to. -/
def references : GpuCommand → List Handle
  | beginRenderPass pass framebuffer _ _ => [pass, framebuffer]
  | barrier image _ => [image]
  | bindPipeline pipeline => [pipeline]
  | bindSets layout sets _ => layout :: sets
  | bindVertices _ buffer _ => [buffer]
  | bindIndices buffer _ => [buffer]
  | _ => []

end GpuCommand

-- ---------------------------------------------------------------------------
-- Calls
-- ---------------------------------------------------------------------------

/-- A descriptor write to a set of the device. -/
structure SetWrite where
  set : Handle
  binding : UInt32
  kind : DescriptorKind
  region : BufferRegion
  deriving DecidableEq, Repr, Inhabited

/-- A call to the device. -/
inductive GpuCall where
  | create (creation : Creation)
  | destroy (kind : ObjectKind) (handle : Handle)
  /-- Takes the one queue of the device. -/
  | getQueue (family : Nat)
  | allocateBuffers (pool : Handle) (count : UInt32)
  | freeBuffers (pool : Handle) (buffers : List Handle)
  | beginBuffer (buffer : Handle)
  | endBuffer (buffer : Handle)
  | resetBuffer (buffer : Handle)
  | record (buffer : Handle) (command : GpuCommand)
  | submit (buffer : Handle) (waits : List (Handle × PipelineStages)) (signals : List Handle)
  | waitDevice
  | waitQueue
  | swapchainImages (swapchain : Handle)
  | acquire (swapchain semaphore : Handle)
  | present (waits : List Handle) (swapchain : Handle) (image : UInt32)
  | bindImage (image : Handle)
  | bindBuffer (buffer : Handle)
  | allocateSets (pool : Handle) (layouts : List Handle)
  | updateSets (writes : List SetWrite)
  deriving DecidableEq, Repr, Inhabited

/-- The outcome of a call. -/
inductive GpuOutcome where
  | done
  /-- One new handle. -/
  | handle (h : Handle)
  /-- Several handles. -/
  | handles (hs : List Handle)
  /-- An acquired image, with a code that is not an error. -/
  | image (index : UInt32) (code : ResultCode)
  /-- The code of a presentation, which may be an error. -/
  | presented (code : ResultCode)
  | failed (code : ResultCode)
  deriving DecidableEq, Repr, Inhabited

namespace GpuCall

open CallText

/-- The longest time to wait, in nanoseconds. -/
def noTimeout : Nat := 18446744073709551615

/-- The name of a call. -/
def name : GpuCall → String
  | create c => c.callName
  | destroy kind _ => "vkDestroy" ++ kind.name
  | getQueue _ => "vkGetDeviceQueue"
  | allocateBuffers _ _ => "vkAllocateCommandBuffers"
  | freeBuffers _ _ => "vkFreeCommandBuffers"
  | beginBuffer _ => "vkBeginCommandBuffer"
  | endBuffer _ => "vkEndCommandBuffer"
  | resetBuffer _ => "vkResetCommandBuffer"
  | record _ _ => "vkCmd"
  | submit _ _ _ => "vkQueueSubmit"
  | waitDevice => "vkDeviceWaitIdle"
  | waitQueue => "vkQueueWaitIdle"
  | swapchainImages _ => "vkGetSwapchainImagesKHR"
  | acquire _ _ => "vkAcquireNextImageKHR"
  | present _ _ _ => "vkQueuePresentKHR"
  | bindImage _ => "vkBindImageMemory"
  | bindBuffer _ => "vkBindBufferMemory"
  | allocateSets _ _ => "vkAllocateDescriptorSets"
  | updateSets _ => "vkUpdateDescriptorSets"

/-- The parameters of a submission. -/
def submitText (buffer : Handle) (waits : List (Handle × PipelineStages)) (signals : List Handle) :
    String :=
  let stages := waits.map fun (_, stages) => stages.bits.toNat
  s!"[buffers=[{buffer}] waits={numbers (waits.map Prod.fst)} stages={numbers stages} " ++
    s!"signals={numbers signals}] fence=0"

/-- The parameters of a descriptor write. -/
def writeText (w : SetWrite) : String :=
  s!"set={w.set} binding={w.binding} element=0 type={w.kind.number} count=1 " ++
    s!"buffer={w.region.buffer} offset={w.region.offset} range={w.region.range}"

/-- The parameters of a call, if it has any. -/
def parameters : GpuCall → String
  | create c => c.parameters
  | destroy _ h => toString h
  | getQueue family => s!"family={family} index=0"
  | allocateBuffers pool count => s!"pool={pool} level=0 count={count}"
  | freeBuffers pool buffers => s!"pool={pool} {numbers buffers}"
  | beginBuffer b => s!"{b} flags=1"
  | endBuffer b => toString b
  | resetBuffer b => s!"{b} flags=0"
  | record _ _ => ""
  | submit b waits signals => submitText b waits signals
  | waitDevice => ""
  | waitQueue => ""
  | swapchainImages swapchain => toString swapchain
  | acquire swapchain semaphore =>
    s!"{swapchain} timeout={noTimeout} semaphore={semaphore} fence=0"
  | present waits swapchain index =>
    s!"waits={numbers waits} swapchains=[{swapchain}] images=[{index}]"
  | bindImage h => toString h
  | bindBuffer h => toString h
  | allocateSets pool layouts => s!"pool={pool} layouts={numbers layouts}"
  | updateSets writes => s!"{list (writes.map writeText)} copies=0"

/-- The text of a call without its outcome. -/
def text : GpuCall → String
  | record b c => c.text b
  | c => if c.parameters.isEmpty then c.name else c.name ++ " " ++ c.parameters

end GpuCall

/-- The text of an outcome, if there is one. -/
def GpuOutcome.text : GpuOutcome → String
  | done => ""
  | handle h => s!" -> {h}"
  | handles hs => s!" -> {CallText.numbers hs}"
  | image index code => s!" -> {index} code {code.number}"
  | presented code => s!" -> {code.number}"
  | failed code => s!" -> error {code.number}"

-- ---------------------------------------------------------------------------
-- Events
-- ---------------------------------------------------------------------------

/-- A call and its outcome. -/
structure GpuEvent where
  call : GpuCall
  outcome : GpuOutcome
  deriving DecidableEq, Repr, Inhabited

namespace GpuEvent

/-- The line of an event. -/
def text (e : GpuEvent) : String := e.call.text ++ e.outcome.text

/-- The object that an event created, if it is of a kind that is destroyed by itself. -/
def created? (e : GpuEvent) : Option (ObjectKind × Handle) :=
  match e.call, e.outcome with
  | .create c, .handle h => some (c.kind, h)
  | _, _ => none

/-- The object that an event destroyed. -/
def destroyed? (e : GpuEvent) : Option (ObjectKind × Handle) :=
  match e.call with
  | .destroy kind h => if h = 0 then none else some (kind, h)
  | _ => none

end GpuEvent

end RenderLoop
