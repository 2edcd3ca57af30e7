import RenderLoop.Gpu.Descriptors
import RenderLoop.Gpu.FrameMemory
import RenderLoop.Gpu.PipelineCache
import RenderLoop.Gpu.Pipelines
import RenderLoop.Gpu.ShaderModules
import RenderLoop.Gpu.Swapchain
import RenderLoop.Proofs.Gpu.Passes
import RenderLoop.Spirv.Interface

/-!
# RenderLoop — operations that leave the screen alone

The context, the probes of the surface, the pipeline cache, the frame buffer, the
program with its modules, descriptors and pipelines: whatever they do, and however
it ends, passes by all that frames are made of (`Passes`).
-/

namespace RenderLoop

/-- Worlds with a device somewhere in them. -/
class Simulated (σ : Type) [Logging σ] where
  gpu : σ → Gpu
  gpu_push : ∀ e s, gpu (Logging.push e s) = gpu s

instance : Simulated Host := ⟨Host.gpu, fun _ _ => rfl⟩

instance {ρ τ : Type} [Logging τ] [Simulated τ] : Simulated (ρ × τ) :=
  ⟨fun s => Simulated.gpu s.2, fun e s => Simulated.gpu_push e s.2⟩

/-- The devices of worlds are in a relation. -/
def Along (R : Gpu → Gpu → Prop) {σ : Type} [Logging σ] [Simulated σ] (s t : σ) : Prop :=
  R (Simulated.gpu s) (Simulated.gpu t)

/-- The device of a world passes by all that frames are made of. -/
abbrev Passes {σ : Type} [Logging σ] [Simulated σ] : σ → σ → Prop := Along Gpu.Passes

instance {R : Gpu → Gpu → Prop} [hR : Gpu.Passage R] {σ : Type} [Logging σ] [Simulated σ] :
    Op.Steady (Along R : σ → σ → Prop) where
  refl s := hR.refl _
  trans h h' := hR.trans h h'
  push e s := by
    rw [Along, Simulated.gpu_push]
    exact hR.refl _

open Op

variable {R : Gpu → Gpu → Prop}

-- ---------------------------------------------------------------------------
-- Worlds
-- ---------------------------------------------------------------------------

section Worlds

variable {α ρ σ : Type} [Logging σ] [Simulated σ]

/-- What changes beside the world passes by. -/
theorem within_beside [hR : Gpu.Passage R] {f : ρ × σ → ρ} :
    (change fun s : ρ × σ => (f s, s.2)).Within (Along R) :=
  within_change fun s => hR.refl (Simulated.gpu s.2)

/-- An operation on the world passes by inside of a pair. -/
theorem Op.Within.onSecond {op : Op σ α} (hOp : op.Within (Along R)) :
    (op.onSecond : Op (ρ × σ) α).Within (Along R) :=
  hOp.on fun _ _ h => h

/-- An operation on the host passes by inside of a pair with one. -/
theorem Op.Within.onHost {op : Op Host α} (hOp : op.Within (Along R)) :
    (op.onHost : Op (ρ × Host) α).Within (Along R) :=
  hOp.onSecond

end Worlds

-- ---------------------------------------------------------------------------
-- Calls
-- ---------------------------------------------------------------------------

namespace Host

variable {α : Type}

/-- A change of the device alone. -/
theorem along_onGpu {f : Gpu → Gpu} (h : ∀ g : Gpu, R g (f g)) (s : Host) :
    Along R s (s.onGpu f) :=
  h s.gpu

/-- A change of the device beside something else. -/
theorem within_besideGpu {ρ : Type} {a : ρ × Host → ρ} {f : ρ × Host → Gpu → Gpu}
    (h : ∀ s g, R g (f s g)) :
    (change fun s : ρ × Host => (a s, s.2.onGpu (f s))).Within (Along R) :=
  within_change fun s => h s s.2.gpu

/-- A call is the step of the device that it stands for. -/
theorem within_call {f : Gpu → α × Gpu} (h : ∀ g : Gpu, R g (f g).2) :
    (Host.call f).Within (Along R) := by
  intro s
  rw [Host.call, ensures_act]
  exact h s.gpu

variable {step : GpuStep α} [hR : Gpu.Passage R]

/-- A call of the setup keeps to what its step keeps to. -/
theorem within_setUp (source noticed told : String) (h : ∀ g : Gpu, R g (step g).2) :
    (Host.setUp source noticed told step).Within (Along R) := by
  refine (within_call h).bind fun r => ?_
  cases r with
  | ok a => exact within_pure a
  | error code => exact within_failWith _ _

/-- A call that must not fail keeps to what its step keeps to. -/
theorem within_expect (source noticed told : String) (h : ∀ g : Gpu, R g (step g).2) :
    (Host.expect source noticed told step).Within (Along R) := by
  refine (within_call h).bind fun r => ?_
  cases r with
  | ok a => exact within_pure a
  | error code => exact within_failWith _ _

/-- A call whose code is reported by its name keeps to what its step keeps to. -/
theorem within_invoke (source name : String) (h : ∀ g : Gpu, R g (step g).2) :
    (Host.invoke source name step).Within (Along R) := by
  refine (within_call h).bind fun r => ?_
  cases r with
  | ok a => exact within_pure a
  | error code => exact (within_logAll _).bind fun _ => within_throw _

/-- Providing memory keeps to what its step keeps to. -/
theorem within_provide (source noticed : String) {step : AllocationStep Unit}
    (h : ∀ g : Gpu, R g (step g).2) : (Host.provide source noticed step).Within (Along R) := by
  refine (within_call h).bind fun r => ?_
  cases r with
  | ok a => exact within_pure a
  | error e => exact within_failWith _ _

end Host

open Host

-- ---------------------------------------------------------------------------
-- Questions
-- ---------------------------------------------------------------------------

section Silent

variable [hR : Gpu.Silent R]

namespace GpuContext

/-- Looking for a queue family asks about each of them, until one will do. -/
theorem within_findFamily (index : Nat) (qs : List QueueFamily) :
    (findFamily index qs).Within (Along R) := by
  have hAsk : ∀ q, (canPresent q).Within (Along R) := by
    intro q
    refine (within_call (Gpu.silent_ask _ _)).bind fun r => ?_
    split <;> exact within_pure _
  induction qs generalizing index with
  | nil => exact within_pure none
  | cons q rest ih =>
    -- only a family that draws is asked whether it can present
    refine within_ite ((hAsk q).bind fun present => ?_) (ih _)
    exact within_ite (within_pure _) (ih _)

/-- Looking for a device asks about its families, until one will do. -/
theorem within_findDevice (number : Nat) (ds : List PhysicalDevice) :
    (findDevice number ds).Within (Along R) := by
  induction ds generalizing number with
  | nil => exact within_pure none
  | cons d rest ih =>
    refine (within_findFamily 0 d.queues).bind fun family => ?_
    cases family with
    | some f => exact within_pure _
    | none => exact ih _

/-- A device is chosen, or there is none to choose. -/
theorem within_chooseDevice : chooseDevice.Within (Along R) := by
  refine (within_setUp _ _ _ (Gpu.silent_ask _ _)).bind fun devices => ?_
  refine (within_findDevice 1 devices).bind fun choice => ?_
  cases choice with
  | some c => exact within_pure c
  | none => exact within_failWith _ _

end GpuContext

namespace SurfaceProbe

/-- A format is chosen among those that are reported. -/
theorem within_chooseFormat (reported : List (Int × Int)) :
    (chooseFormat reported).Within (Along R) := by
  refine (within_logAll _).bind fun _ => ?_
  split
  · exact (within_log _).bind fun _ => within_pure _
  · exact within_failWith _ _

/-- A probe asks for the capabilities, the formats and the modes of presentation. -/
theorem within_take : take.Within (Along R) := by
  refine (within_setUp _ _ _ (Gpu.silent_ask _ _)).bind fun _ => ?_
  refine (within_setUp _ _ _ (Gpu.silent_ask _ _)).bind fun reported => ?_
  refine (within_chooseFormat reported).bind fun _ => ?_
  refine (within_setUp _ _ _ (Gpu.silent_ask _ _)).bind fun _ => ?_
  exact within_pure _

end SurfaceProbe

/-- The format of the depth image is found among those that are supported. -/
theorem PhysicalDevice.within_chooseDepth (d : PhysicalDevice) : d.chooseDepth.Within (Along R) := by
  rw [chooseDepth]
  split
  · exact (within_log _).bind fun _ => within_pure _
  · exact within_failWith _ _

theorem Swapchain.within_isMinimized (window : Extent) : (isMinimized window).Within (Along R) := by
  refine (within_invoke _ _ (Gpu.silent_ask _ _)).bind fun _ => ?_
  exact within_ofOption _

theorem Host.within_provideDepth (source noticed : String) :
    (Host.provide source noticed Gpu.provideDepthMemory).Within (Along R) :=
  within_provide _ _ Gpu.silent_provideDepthMemory

/-- What is reserved from a budget is no matter of the device. -/
theorem Descriptors.within_checkBudget (sizes : PoolSizes) (layouts : List SetLayout) :
    (checkBudget sizes layouts).Within (Along R) := by
  have hRequest : (DescriptorBudget.request layouts : Op (DescriptorBudget × Host) Unit).Within
      (Along R) := by
    refine within_get.bind fun s => ?_
    refine (within_ofOption _).bind fun r => ?_
    split
    · exact within_beside
    · exact within_failWith _ _
  exact hRequest.on fun _ _ h => h

end Silent

variable [hR : Gpu.Plain R]

-- ---------------------------------------------------------------------------
-- The context
-- ---------------------------------------------------------------------------

namespace GpuContext

theorem within_waitIdle : waitIdle.Within (Along R) :=
  within_invoke _ _ Gpu.routine_perform

/-- An instance is created where there is a display, under a name that can be passed on. -/
theorem within_createInstance (window : Window) (config : RendererConfig) :
    (createInstance window config).Within (Along R) := by
  have hDisplay : (expectDisplay window).Within (Along R) := by
    rw [expectDisplay]
    split
    · exact within_failWith _ _
    · exact within_failWith _ _
    · exact within_pure ()
  have hRest : (do expectDisplay window
                   setUp "create Vulkan instance" "create instance"
                     (Gpu.create (.apiInstance config))).Within (Along R) :=
    hDisplay.bind fun _ => within_setUp _ _ _ (Gpu.plain_create rfl)
  -- a name that is refused still has the rest of the program after it, which is not run
  exact within_ite ((within_throw _).bind fun _ => hRest) hRest

theorem within_createMessenger (config : RendererConfig) :
    (createMessenger config).Within (Along R) :=
  within_ite ((within_setUp _ _ _ (Gpu.plain_create rfl)).map _) (within_pure _)

theorem within_createSurface (window : Window) : (createSurface window).Within (Along R) := by
  rw [createSurface]
  split
  · exact within_failWith _ _
  · exact within_failWith _ _
  · exact within_setUp _ _ _ (Gpu.plain_create rfl)

/-- A context is an instance, a messenger, a surface and a device that was chosen for it. -/
theorem within_create (window : Window) (config : RendererConfig) :
    (create window config).Within (Along R) := by
  refine (within_createInstance window config).bind fun _ => ?_
  refine (within_createMessenger config).bind fun _ => ?_
  refine (within_createSurface window).bind fun _ => ?_
  refine within_chooseDevice.bind fun _ => ?_
  refine (within_logAll _).bind fun _ => ?_
  refine (within_setUp _ _ _ (Gpu.plain_create rfl)).bind fun _ => ?_
  refine (within_call (Gpu.routine_getQueue _)).bind fun _ => ?_
  exact within_pure _

end GpuContext

theorem GpuDevice.within_create (context : GpuContext) : (create context).Within (Along R) := by
  refine (within_setUp _ _ _ (Gpu.plain_create rfl)).bind fun _ => ?_
  exact within_pure _

-- ---------------------------------------------------------------------------
-- Cache and memory
-- ---------------------------------------------------------------------------

theorem PipelineCache.within_load (context : GpuContext) (path : String) :
    (load context path).Within (Along R) := by
  refine within_get.bind fun _ => ?_
  refine (within_log _).bind fun _ => ?_
  refine (within_setUp _ _ _ (Gpu.plain_create rfl)).bind fun _ => ?_
  exact within_pure _

namespace FrameMemory

/-- Memory is provided for the frame buffer, and bound to it. -/
theorem within_provide [Gpu.Storable R] (buffer : Handle) (size : UInt64) :
    (provide buffer size).Within (Along R) := by
  refine (Host.within_provide _ _ (Gpu.silent_provideFrameMemory size)).bind fun _ => ?_
  exact within_setUp _ _ _ Gpu.routine_perform

/-- A frame buffer that gets no memory is destroyed again. -/
theorem within_create [Gpu.Storable R] (context : GpuContext) (size alignment : UInt64) :
    (create context size alignment).Within (Along R) := by
  refine (within_setUp _ _ _ (Gpu.plain_create rfl)).bind fun buffer => ?_
  refine ((within_provide buffer size).undoing (along_onGpu (Gpu.routine_destroy buffer))).bind
    fun _ => ?_
  exact (within_log _).bind fun _ => within_pure _

/-- A region is taken, or the request is refused. -/
theorem ensures_reserve (size : UInt64) (s : FrameMemory × Host)
    {ok : UInt64 → FrameMemory × Host → Prop} {fail : RenderError → FrameMemory × Host → Prop}
    (hOk : ∀ offset stop, s.1.linear.fit? size = some (offset, stop) →
      ok offset ({ s.1 with linear := { s.1.linear with head := stop } }, s.2))
    (hFail : ∀ e entry, fail e (Logging.push entry s)) :
    (reserve size).Ensures s ok fail := by
  rw [reserve, ensures_bind, ensures_get, LinearAllocator.allocate]
  cases hFit : s.1.linear.fit? size with
  | some region =>
    dsimp only
    rw [ensures_bind, ensures_change, ensures_pure]
    exact hOk region.1 region.2 hFit
  | none =>
    dsimp only
    rw [ensures_bind, ensures_change, ensures_failWith]
    exact hFail _ _

/-- Relations that storing keeps to. It takes a region that fits and writes to the memory of the
buffer. -/
class Storing (R : FrameMemory × Host → FrameMemory × Host → Prop) : Prop extends Steady R where
  take : ∀ {size offset stop : UInt64} (s : FrameMemory × Host),
    s.1.linear.fit? size = some (offset, stop) →
      R s ({ s.1 with linear := { s.1.linear with head := stop } }, s.2)
  write : ∀ (s : FrameMemory × Host) offset bytes, R s (s.1, s.2.onGpu (write offset bytes))

instance [hMemory : Gpu.Storable R] : Storing (Along R) where
  take s _ := hR.refl s.2.gpu
  write s _ _ := hMemory.store s.2.gpu _

section Storing

variable {R : FrameMemory × Host → FrameMemory × Host → Prop} [hR : Storing R]

theorem within_reserve (size : UInt64) : (reserve size).Within R := by
  intro s
  exact ensures_reserve size s (fun _ _ hFit => hR.take s hFit) fun _ entry => hR.push entry s

/-- Storing takes a region and writes it. -/
theorem within_store (bytes : List UInt8) : (store bytes).Within R := by
  refine (within_reserve _).bind fun _ => ?_
  refine (within_change fun s => hR.write s _ _).bind fun _ => ?_
  exact within_pure _

/-- Storing uniform data takes a region and writes it, or is refused where the data is larger than
its range. -/
theorem within_storeUniform (bytes : List UInt8) : (storeUniform bytes).Within R := by
  refine within_get.bind fun s => ?_
  have hRest : (do let offset ← reserve s.1.range
                   change fun t =>
                     (t.1, t.2.onGpu (FrameMemory.write offset (padded bytes s.1.range)))
                   pure offset).Within R := by
    refine (within_reserve _).bind fun _ => ?_
    refine (within_change fun s => hR.write s _ _).bind fun _ => ?_
    exact within_pure _
  exact within_ite ((within_throw _).bind fun _ => hRest) hRest

end Storing

end FrameMemory

-- ---------------------------------------------------------------------------
-- The program
-- ---------------------------------------------------------------------------

namespace ShaderModules

theorem within_build (stages : List (ShaderStage × ShaderCode)) : (build stages).Within (Along R) := by
  induction stages with
  | nil => exact within_pure ()
  | cons stage rest ih =>
    refine (within_expect _ _ _ (Gpu.plain_create rfl)).onHost.bind fun _ => ?_
    refine within_beside.bind fun _ => ?_
    exact ih

/-- Modules are created like they are built anew, from none. -/
theorem within_create (p : Program) : (create p).Within (Along R) := by
  refine within_beside.bind fun _ => ?_
  exact within_build _

/-- Modules that are out of date are destroyed and built anew. -/
theorem within_sync (p : Program) : (sync p).Within (Along R) := by
  refine within_get.bind fun s => within_ite ?_ (within_pure _)
  refine (within_besideGpu fun _ => Gpu.routine_destroyAll _).bind fun _ => ?_
  refine (within_build _).bind fun _ => ?_
  refine within_beside.bind fun _ => ?_
  exact within_log _

end ShaderModules

namespace Descriptors

/-- The object for a layout is created once, and found afterwards. -/
theorem within_layoutObject (layout : SetLayout) : (layoutObject layout).Within (Along R) := by
  have hCreate : (createLayout layout).Within (Along R) :=
    within_expect _ _ _ (Gpu.plain_create rfl)
  have hGet : (LayoutRegistry.getOrCreate layout (createLayout layout)).Within (Along R) := by
    refine within_get.bind fun s => ?_
    split
    · exact within_pure _
    · refine hCreate.onSecond.bind fun _ => ?_
      refine (within_log _).bind fun _ => ?_
      refine within_beside.bind fun _ => ?_
      exact within_pure _
  exact hGet.on fun _ _ h => h

theorem within_layoutObjects (layouts : List SetLayout) : (layoutObjects layouts).Within (Along R) := by
  induction layouts with
  | nil => exact within_pure []
  | cons layout rest ih =>
    refine (within_layoutObject layout).bind fun _ => ?_
    refine ih.bind fun _ => ?_
    exact within_pure _

/-- A pool is created for the sets of a program, once the budget admits them. -/
theorem within_createPool (p : Program) : (createPool p).Within (Along R) := by
  refine (within_ofOption _).bind fun sizes => ?_
  refine (within_checkBudget sizes p.layouts).onHost.bind fun _ => ?_
  refine (within_invoke _ _ (Gpu.plain_create rfl)).onHost.bind fun _ => ?_
  exact within_beside

theorem within_allocateSets (layouts : List SetLayout) (region : BufferRegion) :
    (allocateSets layouts region).Within (Along R) := by
  refine within_get.bind fun _ => ?_
  refine (within_invoke _ _ (Gpu.routine_allocateSets _ _)).onHost.bind fun _ => ?_
  exact within_besideGpu fun _ => hR.happen rfl rfl

/-- Sets are built for a program that has some. -/
theorem within_buildSets (p : Program) (region : BufferRegion) :
    (buildSets p region).Within (Along R) := by
  refine within_ite (within_log _) ?_
  refine (within_createPool p).bind fun _ => ?_
  refine (within_allocateSets _ _).bind fun _ => ?_
  refine within_get.bind fun _ => ?_
  exact within_log _

/-- Descriptors are built from layouts, the pipeline layout, the pool and its sets. -/
theorem within_build (p : Program) (region : BufferRegion) : (build p region).Within (Along R) := by
  refine (within_layoutObjects _).bind fun _ => ?_
  refine within_beside.bind fun _ => ?_
  refine (within_expect _ _ _ (Gpu.plain_create rfl)).onHost.bind fun _ => ?_
  refine within_beside.bind fun _ => ?_
  exact within_buildSets p region

/-- Building them again starts with the destruction of what depended on the program. -/
theorem within_rebuild (p : Program) (region : BufferRegion) :
    (rebuild p region).Within (Along R) := by
  refine (within_besideGpu fun s g => ?_).bind fun _ => within_build p region
  exact hR.trans (Gpu.routine_destroyIfAny _ g) (Gpu.routine_destroyIfAny _ _)

end Descriptors

namespace Pipelines

theorem along_update (f : Pipelines → Pipelines) (s : Pipelines × Host) :
    Along R s (update f s) :=
  Gpu.routine_destroyAll _ s.2.gpu

/-- A pair of pipelines is found, or built, and what it replaces is destroyed. -/
theorem within_buildPair (b : PipelineBasis) (state : PipelineState) :
    (buildPair b state).Within (Along R) := by
  have hBuild : ∀ state, (b.build state).Within (Along R) := fun _ =>
    within_expect _ _ _ (Gpu.plain_create rfl)
  have hGet : ∀ key state,
      (PipelineRegistry.getOrBuild key (b.build state)).Within (Along R) := by
    intro key state
    refine within_get.bind fun s => ?_
    split
    · exact within_pure _
    · refine (hBuild state).onSecond.bind fun _ => ?_
      refine within_beside.bind fun _ => ?_
      exact within_pure _
  -- two pipelines, each of which may be in the registry already
  have hPair : (DefaultPipelines.build state b.programGeneration b.passGeneration b.build).Within
      (Along R) := by
    refine (hGet _ _).bind fun _ => ?_
    refine (hGet _ _).bind fun _ => ?_
    exact within_pure _
  refine Op.Within.bind ?_ fun _ => within_change (along_update _)
  exact hPair.on fun _ _ h => h

theorem within_rebuildPair (b : PipelineBasis) (state : PipelineState) :
    (rebuildPair b state).Within (Along R) := by
  refine (within_change (along_update _)).bind fun _ => ?_
  exact within_buildPair b state

end Pipelines

-- ---------------------------------------------------------------------------
-- Compilation
-- ---------------------------------------------------------------------------

namespace Program

variable {tools : ShaderTools Host} {R : Gpu → Gpu → Prop} [hR : Gpu.Passage R]

/-- The tools of a world keep the device to a relation. -/
structure ToolsPass (R : Gpu → Gpu → Prop) (tools : ShaderTools Host) : Prop where
  compile : ∀ stage text fileName, (tools.compile stage text fileName).Within (Along R)
  reflect : ∀ stage code, (tools.reflect stage code).Within (Along R)

theorem within_survive (e : RenderError) : (survive e : Op Host Unit).Within (Along R) :=
  within_ite (within_throw e) (within_log _)

/-- A source is loaded as code, or as text that is compiled; what fails is noted. -/
theorem within_loadSource (hTools : ToolsPass R tools) (l : Loading) (s : ShaderSource) :
    (loadSource tools l s).Within (Along R) := by
  have hLoad : (s.load tools).Within (Along R) := by
    refine within_get.bind fun h => within_ite (within_throw _) (within_ite ?_ ?_)
    · exact (within_ofExcept _).bind fun _ => within_ofExcept _
    · refine (within_ofExcept _).bind fun _ => ?_
      refine (within_log _).bind fun _ => ?_
      exact hTools.compile _ _ _
  refine hLoad.onSecond.attempt.bind fun r => ?_
  split
  · refine within_get.bind fun t => ?_
    refine within_beside.bind fun _ => ?_
    refine within_ite ?_ ?_
    · exact within_beside.bind fun _ => within_pure _
    · exact within_pure _
  · exact (within_survive _).onSecond.bind fun _ => within_pure _

theorem within_loadSources (hTools : ToolsPass R tools) (l : Loading) (ss : List ShaderSource) :
    (loadSources tools l ss).Within (Along R) := by
  induction ss generalizing l with
  | nil => exact within_pure l
  | cons s rest ih => exact (within_loadSource hTools l s).bind fun l' => ih l'

/-- Reflection reads the code of each stage, and takes the inputs of the vertex stage. -/
theorem within_reflectStages (hTools : ToolsPass R tools) (r : Reflection)
    (stages : List (ShaderStage × ShaderCode)) : (reflectStages tools r stages).Within (Along R) := by
  have hInputs : ∀ r stage inputs, (takeInputs r stage inputs : Op Host _).Within (Along R) :=
    fun _ _ _ => within_ite ((within_ofOption _).bind fun _ => (within_logAll _).bind fun _ =>
      within_pure _) (within_pure _)
  have hStage : ∀ r stage code, (reflectStage tools r stage code).Within (Along R) := by
    intro r stage code
    refine (hTools.reflect stage code).attempt.bind fun outcome => ?_
    split
    · exact (within_logAll _).bind fun _ => hInputs _ _ _
    · exact (within_survive _).bind fun _ => within_pure _
  induction stages generalizing r with
  | nil => exact within_pure r
  | cons stage rest ih => exact (hStage r stage.1 stage.2).bind fun r' => ih r'

/-- A program is reflected as a whole, and checked. -/
theorem within_reflect (hTools : ToolsPass R tools) (errors : List RenderError) :
    (reflect tools errors).Within (Along R) := by
  refine within_get.bind fun _ => ?_
  refine (within_reflectStages hTools _ _).onSecond.bind fun _ => ?_
  refine (within_logAll _).onSecond.bind fun _ => ?_
  refine (within_ofExcept _).bind fun _ => ?_
  refine (within_logAll _).onSecond.bind fun _ => ?_
  refine (within_ofOption _).bind fun _ => ?_
  refine within_beside.bind fun _ => ?_
  refine within_get.bind fun _ => ?_
  refine (within_log _).bind fun _ => ?_
  exact within_pure _

/-- A compilation that fails leaves what there was. -/
theorem within_compile (hTools : ToolsPass R tools) : (compile tools).Within (Along R) := by
  have hLoad : (loadAndReflect tools).Within (Along R) := by
    refine within_get.bind fun s => ?_
    refine (within_loadSources hTools _ _).bind fun l => ?_
    exact within_ite ((within_reflect hTools _).bind fun _ => within_pure _) (within_pure _)
  -- what is put back is no part of the world
  exact within_get.bind fun s => hLoad.undoing fun _ => hR.refl _

/-- Refusing source texts and reflecting code only log. -/
theorem toolsPass_spirv : ToolsPass R ⟨Host.files, refuseSource, Spirv.reflect⟩ where
  compile _ _ _ := within_failWith _ _
  reflect stage code := by
    show (Spirv.reflect stage code : Op Host _).Within (Along R)
    rw [Spirv.reflect]
    split
    · refine within_ite ?_ (within_failWith _ _)
      intro s
      exact ensures_abandon s
    · exact within_ite (within_failWith _ _) ((within_ofOption _).bind fun _ => within_pure _)

end Program

end RenderLoop
