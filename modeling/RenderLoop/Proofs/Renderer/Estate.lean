import RenderLoop.Proofs.Gpu.DeviceBooks
import RenderLoop.Proofs.Gpu.ProgramEstate
import RenderLoop.Renderer.Basic

/-!
# RenderLoop — what a renderer answers for

The estate of a renderer is that of its parts (`Renderer.Part`). A call works on one part
at a time; for what the others have there (`Renderer.others`) it is a rest, which it may
mention but does not change.

The books of a renderer balance (`Renderer.Balanced`) when its device lends its estate.
Beside that, parts refer to each other: images come from the swapchain and descriptor sets
from their pool (`Renderer.Sourced`), and the commands of frames refer to the targets and
the images that there are (`Renderer.Linked`).

A renderer whose books balance gives back all that it has when it is destroyed
(`Balanced.lends_destroy`).
-/

namespace RenderLoop.Renderer

open GpuHistory Op Estate

-- ---------------------------------------------------------------------------
-- Parts
-- ---------------------------------------------------------------------------

/-- What a renderer consists of, in the order in which it is destroyed. -/
inductive Part where
  | pipelines
  | cache
  | descriptors
  | modules
  | memory
  | targets
  | swapchain
  | machine
  | pool
  | context
  deriving DecidableEq, Repr

namespace Part

/-- All parts in order. -/
def all : List Part :=
  [.pipelines, .cache, .descriptors, .modules, .memory, .targets, .swapchain, .machine, .pool,
    .context]

/-- Every part is in the list. -/
theorem mem_all (p : Part) : p ∈ all := by cases p <;> decide

/-- No part is in the list twice. -/
theorem nodup_all : all.Nodup := by decide

end Part

/-- The estate of a part. The command pool is not the frame machine's. -/
def part (r : Renderer) : Part → Estate
  | .pipelines => r.pipelines.estate
  | .cache => r.cache.estate
  | .descriptors => r.descriptors.estate
  | .modules => r.modules.estate
  | .memory => r.memory.estate
  | .targets => r.targets.estate
  | .swapchain => r.swapchain.estate
  | .machine => r.machine.recorder.estate r.device.pool + r.machine.semaphores
  | .pool => object .commandPool r.device.pool
  | .context => r.context.estate

/-- All that a renderer has. -/
def estate (r : Renderer) : Estate := (Part.all.map r.part).sum

/-- What the other parts have. -/
def others (r : Renderer) (p : Part) : Estate := ((Part.all.erase p).map r.part).sum

variable {r r' : Renderer} {p q : Part} {kind : ObjectKind} {x : Handle} {α : Type}

/-- The estate is that of one part and that of the others. -/
theorem estate_eq (r : Renderer) (p : Part) : r.estate = r.part p + r.others p := by
  rw [estate, others, ← List.sum_cons, ← List.map_cons]
  exact ((List.perm_cons_erase p.mem_all).map _).sum_eq

/-- For each part, any other part is among the others. -/
theorem part_le_others (hOther : q ≠ p) : r.part q ≤ r.others p := by
  have hMem := (List.mem_erase_of_ne hOther).mpr q.mem_all
  rw [others, ((List.perm_cons_erase hMem).map r.part).sum_eq, List.map_cons, List.sum_cons]
  exact Multiset.le_add_right _ _

/-- The others have what they had if none of them has changed. -/
theorem others_congr (h : ∀ q, q ≠ p → r'.part q = r.part q) : r'.others p = r.others p := by
  have hParts : (Part.all.erase p).map r'.part = (Part.all.erase p).map r.part :=
    List.map_congr_left fun q hq => h q (Part.nodup_all.mem_erase_iff.mp hq).1
  rw [others, others, hParts]

/-- What another part has is there. -/
theorem has_others (q : Part) (hOther : q ≠ p) (h : (r.part q).Has kind x) :
    (r.others p).Has kind x :=
  h.of_le (part_le_others hOther)

/-- A part may have nothing. -/
theorem estate_of_none (hNone : r.part p = 0) : r.estate = r.others p := by
  rw [estate_eq r p, hNone, zero_add]

-- ---------------------------------------------------------------------------
-- Books
-- ---------------------------------------------------------------------------

/-- The device lends the estate of a renderer that lives in a context, with a command pool, and whose
frame machine was not destroyed. -/
structure Balanced (c : GpuContext) (pool : Handle) (s : Renderer × Host) : Prop where
  lends : s.2.gpu.Lends s.1.estate
  context_eq : s.1.context = c
  pool_eq : s.1.device.pool = pool
  pool_ne : pool ≠ 0
  machine : s.1.machine.destroyed = false
  recorder : s.1.machine.recorder.destroyed = false

/-- Images and descriptor sets come from the swapchain and the pool that there are. -/
structure Sourced (c : GpuContext) (pool : Handle) (s : Renderer × Host) : Prop
    extends Balanced c pool s where
  chain : s.1.swapchain.Backed s.2.gpu.history
  sets : s.1.descriptors.Backed s.2.gpu.history

/-- The commands of frames refer to the targets and the images that there are. -/
structure Linked (c : GpuContext) (pool : Handle) (s : Renderer × Host) : Prop
    extends Sourced c pool s where
  targets : s.1.device.targets = s.1.targets.frameTargets s.1.swapchain.images

variable {s t : Renderer × Host} {c : GpuContext} {pool : Handle}

instance : Unlogged (Balanced c pool) where
  push h := ⟨h.lends, h.context_eq, h.pool_eq, h.pool_ne, h.machine, h.recorder⟩

instance : Unlogged (Sourced c pool) where
  push h := ⟨(inferInstance : Unlogged (Balanced c pool)).push h.toBalanced, h.chain, h.sets⟩

instance : Unlogged (Linked c pool) where
  push h := ⟨(inferInstance : Unlogged (Sourced c pool)).push h.toSourced, h.targets⟩

/-- The device lends a part, with the others as the rest. -/
theorem Balanced.lends_part (h : Balanced c pool s) (p : Part) :
    s.2.gpu.Lends (s.1.part p + s.1.others p) := by
  rw [← estate_eq]
  exact h.lends

/-- One part changes, and the device with it. -/
theorem Balanced.change (h : Balanced c pool s) (p : Part)
    (hLends : t.2.gpu.Lends (t.1.part p + s.1.others p)) (hOthers : t.1.others p = s.1.others p)
    (hMachine : t.1.machine = s.1.machine) (hDevice : t.1.device = s.1.device) :
    Balanced c pool t := by
  refine ⟨?_, (congrArg GpuDevice.context hDevice).trans h.context_eq,
    (congrArg GpuDevice.pool hDevice).trans h.pool_eq, h.pool_ne, ?_, ?_⟩
  · rw [estate_eq t.1 p, hOthers]
    exact hLends
  · rw [hMachine]
    exact h.machine
  · rw [hMachine]
    exact h.recorder

/-- The renderer stays, and the device goes on lending what it has. -/
theorem Balanced.of_lends (h : Balanced c pool s) {g : Host} (hLends : g.gpu.Lends s.1.estate) :
    Balanced c pool (s.1, g) where
  lends := hLends
  context_eq := h.context_eq
  pool_eq := h.pool_eq
  pool_ne := h.pool_ne
  machine := h.machine
  recorder := h.recorder

/-- The sources stay, and the history of the device grows. -/
theorem Sourced.of_balanced (h : Sourced c pool s) (hBalanced : Balanced c pool t)
    (hSuffix : s.2.gpu.history <:+ t.2.gpu.history) (hSwapchain : t.1.swapchain = s.1.swapchain)
    (hSets : t.1.descriptors = s.1.descriptors) : Sourced c pool t := by
  refine ⟨hBalanced, ?_, ?_⟩
  · rw [hSwapchain]
    exact h.chain.of_suffix hSuffix
  · rw [hSets]
    exact h.sets.of_suffix hSuffix

/-- What the links are about stays while the books balance and the history grows. -/
theorem Linked.of_balanced (h : Linked c pool s) (hBalanced : Balanced c pool t)
    (hSuffix : s.2.gpu.history <:+ t.2.gpu.history) (hSwapchain : t.1.swapchain = s.1.swapchain)
    (hSets : t.1.descriptors = s.1.descriptors) (hTargets : t.1.targets = s.1.targets)
    (hDevice : t.1.device = s.1.device) : Linked c pool t := by
  refine ⟨h.toSourced.of_balanced hBalanced hSuffix hSwapchain hSets, ?_⟩
  rw [hDevice, hTargets, hSwapchain]
  exact h.targets

/-- The renderer stays, and the device goes on lending, with a longer history. -/
theorem Linked.of_lends (h : Linked c pool s) {g : Host} (hLends : g.gpu.Lends s.1.estate)
    (hSuffix : s.2.gpu.history <:+ g.gpu.history) : Linked c pool (s.1, g) :=
  h.of_balanced (h.toBalanced.of_lends hLends) hSuffix rfl rfl rfl rfl

/-- The settings of a renderer, its frame and its data are no part of its estate. -/
theorem Linked.of_settings (h : Linked c pool s) {clearColor : Color} {linear : LinearAllocator}
    {range : UInt64} {program : Program} {pipelineState : PipelineState} {matrices : Matrices}
    {frame : Option Frame} {window : Extent} :
    Linked c pool ({ s.1 with
      machine := { s.1.machine with clearColor }, memory := { s.1.memory with linear, range },
      program, pipelineState, matrices, frame, window }, s.2) where
  toSourced := ⟨⟨h.lends, h.context_eq, h.pool_eq, h.pool_ne, h.machine, h.recorder⟩, h.chain,
    h.sets⟩
  targets := h.targets

/-- Once the screen was made, the commands of frames refer to it. -/
theorem Sourced.linked_retarget (h : Sourced c pool s) : Linked c pool (retarget s.1, s.2) where
  toSourced := ⟨⟨h.lends, h.context_eq, h.pool_eq, h.pool_ne, h.machine, h.recorder⟩, h.chain,
    h.sets⟩
  targets := rfl

/-- The command pool is there. -/
theorem Balanced.mem_pool (h : Balanced c pool s) (hOther : Part.pool ≠ p) :
    .object .commandPool s.1.device.pool ∈ s.1.others p := by
  refine has_others .pool hOther (has_object _ _) ?_
  rw [h.pool_eq]
  exact h.pool_ne

/-- The setup buffer can be recorded into by all parts but the machine's. -/
theorem Balanced.hasBuffer (h : Balanced c pool s) {b : CommandBuffer}
    (hSetup : s.1.machine.recorder.setup = some b) (hMachine : Part.machine ≠ p)
    (hPool : Part.pool ≠ p) : (s.1.others p).HasBuffer b := by
  have hRecorder : Holding.commandBuffer s.1.device.pool b.handle ∈ s.1.part .machine :=
    Multiset.mem_add.mpr (.inl (Recorder.mem_estate_of_setup _ hSetup))
  exact ⟨s.1.device.pool, Multiset.mem_of_le (part_le_others hMachine) hRecorder, h.mem_pool hPool⟩

/-- The surface that the swapchain refers to is among what the other parts have. -/
theorem has_surface (r : Renderer) : (r.others .swapchain).Has .surface r.context.surface :=
  has_others .context (by decide) (((has_object _ _).left _).right _)

/-- The views that framebuffers refer to are among what the other parts have. -/
theorem has_view (r : Renderer) : ∀ x ∈ r.swapchain.views, (r.others .targets).Has .imageView x := by
  intro _ hx
  exact has_others .swapchain (by decide) ((has_of_mem hx).left _)

/-- The frame buffer that descriptors refer to is among what the other parts have. -/
theorem has_region (r : Renderer) : (r.others .descriptors).Has .buffer r.memory.region.buffer :=
  has_others .memory (by decide) (has_object _ _)

/-- What pipelines are built from is there. -/
theorem backed_basis (r : Renderer) : r.basis.Backed (r.others .pipelines) where
  cache := has_others .cache (by decide) (has_object _ _)
  modules _ hm := has_others .modules (by decide) (ShaderModules.has_module hm)
  pass := has_others .targets (by decide) r.targets.has_pass
  layout := has_others .descriptors (by decide) r.descriptors.has_pipelineLayout

-- ---------------------------------------------------------------------------
-- The frame machine
-- ---------------------------------------------------------------------------

/-- The books that the frame machine of a renderer is to keep. -/
abbrev MachineBooks (s : Renderer × Host) : Machinery → Prop :=
  Synchronizer.Balanced s.1.device.pool
    (Scene.Books s.1.swapchain s.1.device s.2.gpu.history (s.1.others .machine))

/-- Between rebuilds, the commands of frames refer to what is there. -/
theorem Linked.backed (h : Linked c pool s) :
    s.1.device.targets.Backed (s.1.others .machine) s.2.gpu.history := by
  rw [h.targets]
  refine ⟨has_others .targets (by decide) s.1.targets.has_pass, fun x hx =>
    has_others .targets (by decide) (RenderTargets.has_framebuffer hx), fun x hx => ?_, ?_⟩
  · exact ⟨s.1.swapchain.handle, s.1.swapchain.images, Multiset.mem_of_le
      (part_le_others (q := .swapchain) (by decide)) (Swapchain.mem_estate h.chain.handle),
      h.chain.listed, hx⟩
  · refine has_others .targets (by decide) ?_
    show s.1.targets.estate.Has .image ((s.1.targets.depth.map (·.image)).getD 0)
    cases hDepth : s.1.targets.depth with
    | none => exact fun hNone => absurd rfl hNone
    | some d => exact (RenderTargets.has_depth hDepth).2

/-- The machine takes over the books of the renderer. -/
theorem Balanced.machineBooks (h : Balanced c pool s)
    (hTargets : s.1.device.targets.Backed (s.1.others .machine) s.2.gpu.history) :
    MachineBooks s (machinery s) := by
  refine ⟨h.machine, h.recorder, ⟨s.1.swapchain.current, rfl⟩,
    has_others .swapchain (by decide) ((has_object _ _).right _), hTargets, List.suffix_refl _, rfl,
    h.mem_pool (by decide), ?_⟩
  exact h.lends_part .machine

/-- The machine keeps the books of the renderer with its own. -/
theorem Balanced.of_machineBooks {m : Machinery} (h : Balanced c pool s) (hBooks : MachineBooks s m) :
    Balanced c pool (withMachinery m s) := by
  obtain ⟨i, hChain⟩ := hBooks.recorder.books.chain
  have hDevice : m.2.2.1 = s.1.device := hBooks.recorder.books.device.device
  refine ⟨?_, (congrArg GpuDevice.context hDevice).trans h.context_eq,
    (congrArg GpuDevice.pool hDevice).trans h.pool_eq, h.pool_ne, hBooks.alive, hBooks.recorder.alive⟩
  rw [estate_eq _ .machine, others_congr (r := s.1)]
  · have hLends := hBooks.recorder.books.device.lends
    rw [← hDevice] at hLends
    exact hLends
  · -- the machine shares the chain and the device, and changes no more than the image acquired last
    intro q hq
    have hSwapchain : m.2.1.estate = s.1.swapchain.estate := by rw [show m.2.1 = _ from hChain]; rfl
    cases q with
    | machine => exact absurd rfl hq
    | swapchain => exact hSwapchain
    | pool => exact congrArg (fun d => object .commandPool d.pool) hDevice
    | context => exact congrArg (fun d => d.context.estate) hDevice
    | _ => rfl

/-- The links stay as well. -/
theorem Linked.of_machineBooks {m : Machinery} (h : Linked c pool s) (hBooks : MachineBooks s m) :
    Linked c pool (withMachinery m s) := by
  obtain ⟨i, hChain⟩ := hBooks.recorder.books.chain
  have hPast : s.2.gpu.history <:+ m.2.2.2.gpu.history := hBooks.recorder.books.past
  have hDevice : m.2.2.1 = s.1.device := hBooks.recorder.books.device.device
  have hBacked := h.chain.of_suffix hPast
  refine ⟨⟨h.toBalanced.of_machineBooks hBooks, ?_, h.sets.of_suffix hPast⟩, ?_⟩
  · show m.2.1.Backed _
    rw [show m.2.1 = _ from hChain]
    exact ⟨hBacked.handle, hBacked.listed⟩
  · show m.2.2.1.targets = s.1.targets.frameTargets m.2.1.images
    rw [hDevice, show m.2.1 = _ from hChain]
    exact h.targets

-- ---------------------------------------------------------------------------
-- The end
-- ---------------------------------------------------------------------------

/-- The machine gives back its buffers and semaphores. -/
theorem lends_destroyMachine {h : Host} {rest : Estate} (hAlive : r.machine.destroyed = false)
    (hRecorder : r.machine.recorder.destroyed = false)
    (hPool : .object .commandPool r.device.pool ∈ rest)
    (hLends : h.gpu.Lends (r.part .machine + rest)) : (r.destroyMachine h).gpu.Lends rest := by
  have hBooks : Synchronizer.Balanced r.device.pool (GpuDevice.Books r.device rest)
      (r.machine, r.device, h) := ⟨hAlive, hRecorder, rfl, hPool, hLends⟩
  have hGone := hBooks.books_destroy.lends
  rwa [zero_add] at hGone

/-- Descriptors, modules and frame buffer are given back in this order. -/
theorem lends_destroyProgram {h : Host} {rest : Estate}
    (hLends : h.gpu.Lends (r.part .descriptors + (r.part .modules + (r.part .memory + rest)))) :
    (r.destroyProgram h).gpu.Lends rest := by
  have hDescriptors := Descriptors.lends_destroy hLends
  have hModules := ShaderModules.lends_destroy hDescriptors
  exact FrameMemory.lends_destroy hModules

/-- Render targets and swapchain are given back in this order. -/
theorem lends_destroyScreen {h : Host} {rest : Estate}
    (hLends : h.gpu.Lends (r.part .targets + (r.part .swapchain + rest))) :
    (r.destroyScreen h).gpu.Lends rest :=
  Swapchain.lends_destroy (RenderTargets.lends_destroy hLends)

/-- The parts in the order in which they are destroyed at the end. -/
theorem estate_parts (r : Renderer) :
    r.estate = r.part .pipelines + (r.part .cache + (r.part .descriptors + (r.part .modules +
      (r.part .memory + (r.part .targets + (r.part .swapchain + (r.part .machine + (r.part .pool +
        r.part .context)))))))) := by
  have hAll : r.estate = r.part .pipelines + (r.part .cache + (r.part .descriptors +
      (r.part .modules + (r.part .memory + (r.part .targets + (r.part .swapchain +
        (r.part .machine + (r.part .pool + (r.part .context + 0))))))))) := rfl
  rwa [add_zero] at hAll

/-- The pool is among the two parts that go last. -/
theorem Balanced.mem_root (h : Balanced c pool s) :
    .object .commandPool s.1.device.pool ∈ s.1.part .pool + s.1.part .context := by
  refine ((has_object _ _).left _) ?_
  rw [h.pool_eq]
  exact h.pool_ne

/-- When the setup is undone, everything but the command pool and the context goes back. -/
theorem Balanced.lends_dismantle (h : Balanced c pool s) :
    (dismantle s).gpu.Lends (object .commandPool pool + c.estate) := by
  have hLends := h.lends
  rw [estate_parts] at hLends
  -- undoing a setup destroys the cache after the parts of the program, not before them
  have hCache : s.1.part .cache + (s.1.part .descriptors + (s.1.part .modules + (s.1.part .memory +
      (s.1.part .targets + (s.1.part .swapchain + (s.1.part .machine + (s.1.part .pool +
        s.1.part .context))))))) = s.1.part .descriptors + (s.1.part .modules + (s.1.part .memory +
      (s.1.part .cache + (s.1.part .targets + (s.1.part .swapchain + (s.1.part .machine +
        (s.1.part .pool + s.1.part .context))))))) := by ac_rfl
  rw [hCache] at hLends
  have hGone := lends_destroyMachine h.machine h.recorder h.mem_root (lends_destroyScreen
    (PipelineCache.lends_destroy (lends_destroyProgram (Pipelines.lends_destroy hLends))))
  rw [← h.pool_eq, ← h.context_eq]
  exact hGone

/-- What is left when everything but the context was destroyed. -/
def strip (s : Renderer × Host) : Host :=
  s.1.device.destroy (s.1.destroyMachine (s.1.destroyScreen (s.1.destroyProgram
    (s.1.cache.destroy (Pipelines.destroy (s.1.pipelines, s.2))))))

/-- The context goes last. -/
theorem destroy_eq (s : Renderer × Host) : destroy s = s.1.context.destroy (strip s) := rfl

/-- What is left then is the context. -/
theorem Balanced.lends_strip (h : Balanced c pool s) : (strip s).gpu.Lends s.1.context.estate := by
  have hLends := h.lends
  rw [estate_parts] at hLends
  exact (lends_destroyMachine h.machine h.recorder h.mem_root (lends_destroyScreen
    (lends_destroyProgram (PipelineCache.lends_destroy (Pipelines.lends_destroy hLends))))).destroy

/-- A renderer that is destroyed gives back all that it has. -/
theorem Balanced.lends_destroy (h : Balanced c pool s) : (destroy s).gpu.Lends 0 := by
  rw [destroy_eq]
  refine GpuContext.lends_destroy ?_
  rw [add_zero]
  exact h.lends_strip

end RenderLoop.Renderer
