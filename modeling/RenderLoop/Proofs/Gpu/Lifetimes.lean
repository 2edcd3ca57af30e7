import RenderLoop.Proofs.Gpu.History

/-!
# RenderLoop — how long things live

A device gives out objects, which are destroyed one at a time, and command buffers,
which go back to their pool (`Holding`). What it gave out and what it took back can be
read off its history (`given`, `taken`); in between, a thing **lives** (`Lives`). Images
of a swapchain and descriptor sets are not taken back by themselves: they live as long as
the swapchain or the pool they come from, and a command buffer must not outlive its pool
either (`Alive`).

Of a history two things are asked:

* whatever a call **mentions** was alive at the time of the call (`MentionsAlive`), so that
  no call names anything that was destroyed before;
* in the end, everything was taken back, and only once (`Cleared`), with the device after all
  that belongs to it and the instance last (`EndedInOrder`).
-/

namespace RenderLoop

/-- What a device gives out and takes back by itself: objects, and the command buffers of pools. -/
inductive Holding where
  | object (kind : ObjectKind) (x : Handle)
  | commandBuffer (pool x : Handle)
  deriving DecidableEq, Repr

namespace Holding

/-- The handle by which calls name it. -/
def handle : Holding → Handle
  | object _ x => x
  | commandBuffer _ x => x

end Holding

/-- What calls name. An image is an object or comes with a swapchain. -/
inductive Mention where
  | object (kind : ObjectKind) (x : Handle)
  | image (x : Handle)
  | commandBuffer (x : Handle)
  | descriptorSet (x : Handle)
  deriving DecidableEq, Repr

namespace Mention

def handle : Mention → Handle
  | object _ x => x
  | image x => x
  | commandBuffer x => x
  | descriptorSet x => x

end Mention

-- ---------------------------------------------------------------------------
-- What calls mention
-- ---------------------------------------------------------------------------

/-- What the request for an object mentions. -/
def Creation.mentions : Creation → List Mention
  | swapchain r => [.object .surface r.surface, .object .swapchain r.old]
  | imageView x _ _ _ => [.image x]
  | framebuffer pass views _ => .object .renderPass pass :: views.map (.object .imageView)
  | pipelineLayout sets => sets.map (.object .setLayout)
  | pipeline r =>
    [.object .pipelineCache r.cache, .object .pipelineLayout r.layout, .object .renderPass r.pass] ++
      r.modules.map fun m => .object .shaderModule m.2
  | _ => []

/-- What a command mentions. -/
def GpuCommand.mentions : GpuCommand → List Mention
  | beginRenderPass pass framebuffer _ _ =>
    [.object .renderPass pass, .object .framebuffer framebuffer]
  | barrier image _ => [.image image]
  | bindPipeline pipeline => [.object .pipeline pipeline]
  | bindSets layout sets _ => .object .pipelineLayout layout :: sets.map .descriptorSet
  | bindVertices _ buffer _ => [.object .buffer buffer]
  | bindIndices buffer _ => [.object .buffer buffer]
  | _ => []

/-- These are the handles that the command refers to. -/
theorem GpuCommand.map_handle_mentions (c : GpuCommand) :
    c.mentions.map Mention.handle = c.references := by
  cases c with
  | bindSets layout sets offsets =>
    have hSets : sets.map (Mention.handle ∘ Mention.descriptorSet) = sets := List.map_id sets
    rw [mentions, references, List.map_cons, List.map_map, hSets]
    rfl
  | _ => rfl

/-- What a call mentions. -/
def GpuCall.mentions : GpuCall → List Mention
  | create c => c.mentions
  | destroy kind x => [.object kind x]
  | getQueue _ => []
  | allocateBuffers pool _ => [.object .commandPool pool]
  | freeBuffers pool buffers => .object .commandPool pool :: buffers.map .commandBuffer
  | beginBuffer b | endBuffer b | resetBuffer b => [.commandBuffer b]
  | record b c => .commandBuffer b :: c.mentions
  | submit b waits signals =>
    .commandBuffer b :: (waits.map Prod.fst ++ signals).map (.object .semaphore)
  | waitDevice | waitQueue => []
  | swapchainImages chain => [.object .swapchain chain]
  | acquire chain semaphore => [.object .swapchain chain, .object .semaphore semaphore]
  | present waits chain _ => .object .swapchain chain :: waits.map (.object .semaphore)
  | bindImage x => [.object .image x]
  | bindBuffer x => [.object .buffer x]
  | allocateSets pool layouts => .object .descriptorPool pool :: layouts.map (.object .setLayout)
  | updateSets writes =>
    writes.flatMap fun w => [.descriptorSet w.set, .object .buffer w.region.buffer]

-- ---------------------------------------------------------------------------
-- Giving and taking back
-- ---------------------------------------------------------------------------

namespace GpuEvent

/-- What the device gave out. -/
def given (e : GpuEvent) : List Holding :=
  match e.call, e.outcome with
  | .create c, .handle x => [.object c.kind x]
  | .allocateBuffers pool _, .handles xs => xs.map (.commandBuffer pool)
  | _, _ => []

/-- What the device took back. Destroying no object takes nothing back. -/
def taken (e : GpuEvent) : List Holding :=
  match e.call with
  | .destroy kind x => if x = 0 then [] else [.object kind x]
  | .freeBuffers pool xs => xs.map (.commandBuffer pool)
  | _ => []

end GpuEvent

namespace GpuHistory

/-- All that the device gave out. -/
def given (h : GpuHistory) : List Holding := h.flatMap GpuEvent.given

/-- All that the device took back. -/
def taken (h : GpuHistory) : List Holding := h.flatMap GpuEvent.taken

/-- Something was given out and not taken back. -/
def Lives (h : GpuHistory) (i : Holding) : Prop := i ∈ h.given ∧ i ∉ h.taken

/-- Sets were allocated from a pool. -/
def Allocated (h : GpuHistory) (pool : Handle) (sets : List Handle) : Prop :=
  ∃ layouts, ⟨.allocateSets pool layouts, .handles sets⟩ ∈ h

/-- What a call mentions was not destroyed, neither by itself nor with what it came from. -/
def Alive (h : GpuHistory) : Mention → Prop
  | .object kind x => h.Lives (.object kind x)
  | .image x => h.Lives (.object .image x) ∨
      ∃ chain images, h.Listed chain images ∧ x ∈ images ∧ h.Lives (.object .swapchain chain)
  | .commandBuffer x =>
    ∃ pool, h.Lives (.commandBuffer pool x) ∧ h.Lives (.object .commandPool pool)
  | .descriptorSet x =>
    ∃ pool sets, h.Allocated pool sets ∧ x ∈ sets ∧ h.Lives (.object .descriptorPool pool)

/-- A call may mention what is alive. A handle of 0 mentions nothing. -/
def Permits (h : GpuHistory) (m : Mention) : Prop := m.handle ≠ 0 → h.Alive m

/-- Everything that a call mentioned was alive then. -/
def MentionsAlive : GpuHistory → Prop
  | [] => True
  | e :: before => (∀ m ∈ e.call.mentions, Permits before m) ∧ MentionsAlive before

/-- Everything that was given out was taken back exactly once; images and sets went with their
swapchain and their pool. -/
structure Cleared (h : GpuHistory) : Prop where
  once : ∀ i ∈ h.given, h.taken.count i = 1
  images : ∀ {chain images}, h.Listed chain images →
    h.taken.count (.object .swapchain chain) = 1
  sets : ∀ {pool sets}, h.Allocated pool sets →
    h.taken.count (.object .descriptorPool pool) = 1

-- ---------------------------------------------------------------------------
-- One more event
-- ---------------------------------------------------------------------------

variable {h : GpuHistory} {e : GpuEvent}

@[simp] theorem given_cons : given (e :: h) = e.given ++ h.given := List.flatMap_cons

@[simp] theorem taken_cons : taken (e :: h) = e.taken ++ h.taken := List.flatMap_cons

/-- Sets stay those of their pool. -/
theorem Allocated.of_suffix {h' : GpuHistory} {pool : Handle} {sets : List Handle}
    (hAllocated : h.Allocated pool sets) (hSuffix : h <:+ h') : Allocated h' pool sets := by
  obtain ⟨layouts, hMem⟩ := hAllocated
  exact ⟨layouts, hSuffix.mem hMem⟩

/-- No call names an object that an earlier call destroyed. -/
theorem MentionsAlive.not_destroyed {kind : ObjectKind} {x : Handle}
    (hAlive : MentionsAlive (e :: h)) (hMention : .object kind x ∈ e.call.mentions) (hx : x ≠ 0) :
    ¬ h.Destroyed kind x := by
  rintro ⟨d, hd, hDestroyed⟩
  refine (hAlive.1 _ hMention hx).2 (List.mem_flatMap.mpr ⟨d, hd, ?_⟩)
  rw [GpuEvent.destroyed?] at hDestroyed
  split at hDestroyed
  · rename_i hCall
    split at hDestroyed
    · cases hDestroyed
    · cases hDestroyed
      simp only [GpuEvent.taken, hCall, if_neg hx, List.mem_singleton]
  · cases hDestroyed

end GpuHistory

-- ---------------------------------------------------------------------------
-- The order of the end
-- ---------------------------------------------------------------------------

/-- Whether objects of a kind belong to a device. -/
def ObjectKind.ofDevice : ObjectKind → Bool
  | .apiInstance | .messenger | .surface | .device => false
  | _ => true

/-- Whether something belongs to a device. Command buffers do. -/
def Holding.ofDevice : Holding → Bool
  | .object kind _ => kind.ofDevice
  | .commandBuffer _ _ => true

namespace GpuHistory

end GpuHistory

end RenderLoop
