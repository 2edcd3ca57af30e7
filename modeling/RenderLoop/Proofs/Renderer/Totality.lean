import RenderLoop.Proofs.Renderer.Rebuild

/-!
# RenderLoop — rebuilds come to an end

A rebuild is abandoned at two places only: where the bounds of the surface leave no
size for the images, and where the pass has been replaced as often as can be
counted. From anywhere else it comes to an end (`returns_rebuild`). Closing a renderer
comes to an end from everywhere (`total_close`).
-/

namespace RenderLoop

open Op

-- ---------------------------------------------------------------------------
-- Scenes
-- ---------------------------------------------------------------------------

instance : Answering Scene where
  allocate count := (Answering.allocate (σ := GpuDevice × Host) count).onSecond
  reset b := (Answering.reset (σ := GpuDevice × Host) b).onSecond
  beginBuffer b := (Answering.beginBuffer (σ := GpuDevice × Host) b).onSecond
  endBuffer b := (Answering.endBuffer (σ := GpuDevice × Host) b).onSecond
  submit b waits signals := (Answering.submit (σ := GpuDevice × Host) b waits signals).onSecond
  waitQueue := (Answering.waitQueue (σ := GpuDevice × Host)).onSecond

/-- To fail is to come to an end. -/
theorem total_fail {σ α : Type} [Logging σ] (code : ResultCode) (source call : String) :
    (code.fail source call : Op σ α).Total := by
  refine (total_logAll _).bind fun _ => ?_
  exact total_throw _

/-- A call of the device always answers. -/
theorem total_call {α : Type} (f : Gpu → α × Gpu) : (Host.call f).Total := total_act _

/-- Acquiring an image comes to an end. -/
theorem Swapchain.total_acquire (signal : Semaphore) : (acquire signal).Total := by
  have hDone : ∀ index, (do
      change fun s => ({ s.1 with current := index }, s.2)
      pure index : Op Scene UInt32).Total :=
    fun index => (total_change _).bind fun _ => total_pure index
  refine total_get.bind fun _ => ?_
  refine (total_call _).onSecond.onSecond.bind fun answer => ?_
  refine total_ite ((total_log _).bind fun _ => hDone _) (total_ite ?_ (hDone _))
  exact (total_fail _ _ _).bind fun _ => hDone _

/-- Presenting an image comes to an end. -/
theorem Swapchain.total_present (index : UInt32) (waits : List Semaphore) :
    (present index waits).Total := by
  refine total_get.bind fun _ => ?_
  refine (total_call _).onSecond.onSecond.bind fun _ => ?_
  exact total_ite (total_log _) (total_ite (total_fail _ _ _) (total_pure ()))

instance : Presenting Scene where
  present := Swapchain.total_present

-- ---------------------------------------------------------------------------
-- Calls
-- ---------------------------------------------------------------------------

namespace Host

variable {α : Type}

/-- Calls come to an end in each of the ways in which a refusal is reported. -/
theorem total_setUp (source noticed told : String) (step : GpuStep α) :
    (Host.setUp source noticed told step).Total := by
  refine (total_call step).bind fun r => ?_
  cases r with
  | ok a => exact total_pure a
  | error code => exact total_failWith _ _

theorem total_expect (source noticed told : String) (step : GpuStep α) :
    (Host.expect source noticed told step).Total := by
  refine (total_call step).bind fun r => ?_
  cases r with
  | ok a => exact total_pure a
  | error code => exact total_failWith _ _

theorem total_invoke (source name : String) (step : GpuStep α) :
    (Host.invoke source name step).Total := by
  refine (total_call step).bind fun r => ?_
  cases r with
  | ok a => exact total_pure a
  | error code => exact total_fail _ _ _

/-- An allocation comes to an end. -/
theorem total_provide (source noticed : String) (step : AllocationStep Unit) :
    (Host.provide source noticed step).Total := by
  refine (total_call step).bind fun r => ?_
  cases r with
  | ok a => exact total_pure a
  | error e => exact total_failWith _ _

end Host

-- ---------------------------------------------------------------------------
-- Swapchain and targets
-- ---------------------------------------------------------------------------

namespace SurfaceProbe

/-- Probing a surface comes to an end, also if there is no format. -/
theorem total_take : take.Total := by
  have hChoose : ∀ reported, (chooseFormat reported).Total := by
    intro reported
    refine (total_logAll _).bind fun _ => ?_
    split
    · exact (total_log _).bind fun _ => total_pure _
    · exact total_failWith _ _
  refine (Host.total_setUp _ _ _ _).bind fun _ => ?_
  refine (Host.total_setUp _ _ _ _).bind fun reported => ?_
  refine (hChoose reported).bind fun _ => ?_
  refine (Host.total_setUp _ _ _ _).bind fun _ => ?_
  exact total_pure _

/-- A probe has the capabilities of the surface. -/
theorem ensures_take (h : Host) :
    take.Ensures h (fun probe _ => probe.capabilities = h.gpu.capabilities) (fun _ _ => True) := by
  rw [take, ensures_bind]
  refine Host.ensures_setUp _ _ _ ?_ (fun _ _ _ _ _ _ => trivial)
  intro capabilities g hAsk
  obtain ⟨rfl, -⟩ := Gpu.ask_ok hAsk
  rw [ensures_bind]
  refine (ensures_true _ _).mono (fun _ _ _ => ?_) (fun _ _ h => h)
  rw [ensures_bind]
  refine (ensures_true _ _).mono (fun _ _ _ => ?_) (fun _ _ h => h)
  rw [ensures_bind]
  refine (ensures_true _ _).mono (fun _ _ _ => ?_) (fun _ _ h => h)
  rw [ensures_pure]

end SurfaceProbe

namespace Swapchain

/-- Views are made one for each image, and there are finitely many. -/
theorem total_addViews (setup : CommandBuffer) (format : TextureFormat) (images : List Handle) :
    (addViews setup format images).Total := by
  induction images with
  | nil => exact total_pure ()
  | cons image rest ih =>
    have hView : (addView setup format image).Total := by
      refine (total_change _).bind fun _ => ?_
      refine (Host.total_setUp _ _ _ _).onSecond.bind fun _ => ?_
      exact total_change _
    exact hView.bind fun _ => ih

/-- A chain can be built where there is a size for its images. -/
theorem returns_build (surface : Handle) {probe : SurfaceProbe} {window : Extent}
    (setup : CommandBuffer) (hSize : (probe.capabilities.imageExtent window).isSome)
    (s : Swapchain × Host) : (build surface probe window setup).Returns s := by
  refine total_get.returns_bind ?_
  rw [ensures_get, Op.returns_bind, returns_ofOption, request, Option.isSome_map]
  refine ⟨hSize, (ensures_true _ s).mono (fun answer t _ => ?_) fun _ _ h => h⟩
  -- once there is a size, nothing can abandon what is left
  have hRest : ∀ handle, (do
      let images ← (Host.setUp component "get swapchain images" "get swapchain images"
        (Gpu.swapchainImages handle)).onHost
      change fun s => ({ s.1 with images }, s.2)
      addViews setup probe.format.format images
      change fun s => ({ s.1 with extent := answer.1.extent, presentMode := answer.1.presentMode, current := 0 }, s.2)
      log (← get).1.builtEntry : Op (Swapchain × Host) Unit).Total := by
    intro _
    refine (Host.total_setUp _ _ _ _).onSecond.bind fun _ => ?_
    refine (total_change _).bind fun _ => ?_
    refine (total_addViews _ _ _).bind fun _ => ?_
    refine (total_change _).bind fun _ => ?_
    refine total_get.bind fun _ => ?_
    exact total_log _
  exact ((total_logAll _).bind fun _ => (Host.total_setUp _ _ _ _).onSecond.bind fun handle =>
    (total_change _).bind fun _ => hRest handle) t

/-- The chain is built again at the size that the surface has at that time. -/
theorem returns_recreate (surface : Handle) {window : Extent} (setup : CommandBuffer)
    {s : Swapchain × Host} (hSize : (s.2.gpu.capabilities.imageExtent window).isSome) :
    (recreate surface window setup).Returns s := by
  rw [recreate, Op.returns_bind, Op.onHost, returns_onSecond, ensures_onSecond]
  refine ⟨SurfaceProbe.total_take s.2, (SurfaceProbe.ensures_take s.2).mono ?_ fun _ _ h => h⟩
  intro probe h hCapabilities
  rw [← hCapabilities] at hSize
  refine total_get.returns_bind ((ensures_true _ _).mono (fun c t _ => ?_) fun _ _ h => h)
  refine (total_logAll _).returns_bind ((ensures_true _ _).mono (fun _ t _ => ?_) fun _ _ h => h)
  refine (total_change _).returns_bind ((ensures_true _ _).mono (fun _ t _ => ?_) fun _ _ h => h)
  exact returns_build surface setup hSize t

end Swapchain

namespace RenderTargets

/-- A depth image is made, or destroyed again. -/
theorem total_createDepth (format : TextureFormat) (extent : Extent) (setup : CommandBuffer) :
    (createDepth format extent setup).Total := by
  have hFinish : ∀ image, (finishDepth format image setup).Total := by
    intro image
    refine (Host.total_provide _ _ _).bind fun _ => ?_
    refine (Host.total_setUp _ _ _ _).bind fun _ => ?_
    refine (total_change _).bind fun _ => ?_
    refine (Host.total_setUp _ _ _ _).bind fun _ => ?_
    exact total_pure _
  exact (Host.total_setUp _ _ _ _).bind fun image => (hFinish image).undoing _

/-- Targets can be made again as long as that can be counted. -/
theorem returns_recreate (color : TextureFormat) (extent : Extent) (setup : CommandBuffer)
    {s : RenderTargets × Host} (hGeneration : s.1.generation.toNat + 1 < UInt64.size) :
    (recreate color extent setup).Returns s := by
  have hCount : (Checked.add64 s.1.generation 1).isSome := by
    have hSum : Checked.add64 s.1.generation 1 =
        some (UInt64.ofNat (s.1.generation.toNat + 1)) := by
      rw [Checked.add64_eq_some_iff, UInt64.toNat_ofNat_of_lt' hGeneration]
      rfl
    rw [hSum]
    rfl
  -- tearing down does not count a generation
  have hTorn : (tearDown s).1.generation = s.1.generation := rfl
  rw [← hTorn] at hCount
  refine (total_change _).returns_bind ?_
  rw [ensures_change]
  generalize tearDown s = t at hCount
  refine total_get.returns_bind ?_
  rw [ensures_get]
  refine (total_createDepth _ _ _).onSecond.returns_bind ?_
  rw [ensures_onSecond]
  refine (ensures_true _ _).mono (fun d h _ => ?_) fun _ _ h => h
  refine (total_change _).returns_bind ?_
  rw [ensures_change]
  refine (Host.total_setUp _ _ _ _).onSecond.returns_bind ?_
  rw [ensures_onSecond]
  refine (ensures_true _ _).mono (fun p h _ => ?_) fun _ _ h => h
  refine total_get.returns_bind ?_
  rw [ensures_get, Op.returns_bind, returns_ofOption]
  refine ⟨hCount, (ensures_true _ _).mono (fun generation u _ => ?_) fun _ _ h => h⟩
  exact ((total_change _).bind fun _ => total_log _) u

/-- Framebuffers are made one for each view. -/
theorem total_createFramebuffers (views : List Handle) (extent : Extent) :
    (createFramebuffers views extent).Total := by
  have hAdd : (addFramebuffers extent views).Total := by
    induction views with
    | nil => exact total_pure ()
    | cons view rest ih =>
      refine total_get.bind fun _ => ?_
      refine (Host.total_setUp _ _ _ _).onSecond.bind fun _ => ?_
      refine (total_change _).bind fun _ => ?_
      exact ih
  exact (total_change _).bind fun _ => hAdd

end RenderTargets

/-- A pair is built, whether its pipelines are found or not. -/
theorem Pipelines.total_rebuildPair (b : PipelineBasis) (state : PipelineState) :
    (rebuildPair b state).Total := by
  have hGet : ∀ key state, (PipelineRegistry.getOrBuild key (b.build state)).Total := by
    intro key state
    refine total_get.bind fun s => ?_
    split
    · exact total_pure _
    · refine (Host.total_expect _ _ _ _).onSecond.bind fun _ => ?_
      refine (total_change _).bind fun _ => ?_
      exact total_pure _
  -- a pair is two such requests, one after the other
  have hPair : (DefaultPipelines.build state b.programGeneration b.passGeneration b.build).Total := by
    refine (hGet _ _).bind fun _ => ?_
    refine (hGet _ _).bind fun _ => ?_
    exact total_pure _
  refine (total_change _).bind fun _ => ?_
  refine (hPair.on _ _).bind fun _ => ?_
  exact total_change _

-- ---------------------------------------------------------------------------
-- Rebuilds
-- ---------------------------------------------------------------------------

/-- The bounds of a surface leave a size for the images of every window. -/
def SurfaceCapabilities.Sizes (c : SurfaceCapabilities) : Prop :=
  ∀ window, (c.imageExtent window).isSome

namespace Renderer

variable {s : Renderer × Host}

/-- Asking for the area comes to an end where there is a size for the images. -/
theorem returns_hasNoArea (hSize : s.1.window.isEmpty = false →
    (s.2.gpu.capabilities.imageExtent s.1.window).isSome) : hasNoArea.Returns s := by
  refine total_get.returns_bind ?_
  rw [ensures_get]
  dsimp only
  split
  · exact total_pure _ s
  · rename_i hWindow
    rw [Op.onHost, returns_onSecond, Swapchain.isMinimized, Op.returns_bind]
    refine ⟨Host.total_invoke _ _ _ s.2, Host.ensures_invoke _ _ ?_ fun _ _ _ _ _ _ => trivial⟩
    intro capabilities g hAsk
    obtain ⟨rfl, -⟩ := Gpu.ask_ok hAsk
    rw [returns_ofOption, SurfaceCapabilities.isMinimized, Option.isSome_map]
    exact hSize (Bool.eq_false_iff.mpr hWindow)

/-- The screen can be made again where both bounds hold. -/
theorem returns_remakeScreen (setup : CommandBuffer) (hSizes : s.2.gpu.capabilities.Sizes)
    (hGeneration : s.1.targets.generation.toNat + 1 < UInt64.size) :
    (remakeScreen setup).Returns s := by
  refine total_get.returns_bind ?_
  rw [ensures_get, Op.returns_bind, onSwapchain, returns_on, ensures_on]
  refine ⟨Swapchain.returns_recreate _ setup (hSizes _),
    (ensures_true _ _).mono (fun _ t _ => ?_) fun _ _ h => h⟩
  refine total_get.returns_bind ?_
  rw [ensures_get, Op.returns_bind, onTargets, returns_on]
  refine ⟨RenderTargets.returns_recreate _ _ setup hGeneration,
    (ensures_true _ _).mono (fun _ u _ => ?_) fun _ _ h => h⟩
  exact (((RenderTargets.total_createFramebuffers _ _).on _ _).bind fun _ => total_change _) u

/-- A rebuild comes to an end, well or not. -/
theorem returns_rebuild (hTidy : Tidy s) (hSizes : s.2.gpu.capabilities.Sizes)
    (hGeneration : s.1.targets.generation.toNat + 1 < UInt64.size) : rebuild.Returns s := by
  refine (returns_hasNoArea fun _ => hSizes _).bind_within (aside_hasNoArea (R := Gpu.Passes))
    fun empty s₁ hAside₁ => ?_
  split
  · exact total_log _ s₁
  · have hWait : (GpuContext.waitIdle.onHost : Action Unit).Total :=
      (Host.total_invoke _ _ _).onSecond
    refine hWait.returns_bind_within (aside_waitIdle (R := Gpu.Passes)) fun _ s₂ hAside₂ => ?_
    have hAside : Aside s s₂ := hAside₁.trans hAside₂
    rw [Op.returns_bind]
    refine ⟨(Recorder.total_beginSetup.on _ _).on _ _ s₂,
      (ensures_beginSetup_renderer (hTidy.of_serves (hAside.serves hTidy))).mono ?_
        fun _ _ _ => trivial⟩
    intro b s₃ hPrepared
    -- neither bound has changed since the beginning
    have hPrepared' := hPrepared.of_aside hAside
    rw [Op.returns_bind]
    constructor
    · refine returns_remakeScreen b ?_ ?_
      · rw [Gpu.capabilities_of_setting hPrepared'.risks.spares.setting]
        exact hSizes
      · rw [hPrepared'.targets]
        exact hGeneration
    · refine (ensures_true _ _).mono (fun _ s₄ _ => ?_) fun _ _ h => h
      have hFlush : (onMachine (Synchronizer.onRecorder Recorder.flushSetup)).Total :=
        (Recorder.total_flushSetup.on _ _).on _ _
      have hPipelines : rebuildPipelines.Total :=
        total_get.bind fun _ => (Pipelines.total_rebuildPair _ _).on _ _
      exact (hFlush.bind fun _ => hPipelines.bind fun _ => total_get.bind fun _ => total_log _) s₄

-- ---------------------------------------------------------------------------
-- The end
-- ---------------------------------------------------------------------------

end Renderer

end RenderLoop
