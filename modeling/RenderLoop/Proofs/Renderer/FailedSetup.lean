import RenderLoop.Proofs.Renderer.Keeping
import RenderLoop.Proofs.Renderer.Reload

/-!
# RenderLoop — setups that fail

While a renderer is made part by part, its books stay balanced, whatever fails
(`ensures_makeParts_linked`). So what has been made by then is given back: everything, if
there was a device.

A context that fails to be created gives nothing back. Its objects are made in order, so
the ones that are lost are those made before the device (`cleared_iff_of_failed_create`).
-/

namespace RenderLoop.Renderer

open GpuHistory Op Estate

variable {s t : Renderer × Host} {c : GpuContext} {pool : Handle}

-- ---------------------------------------------------------------------------
-- The screen
-- ---------------------------------------------------------------------------

/-- A swapchain and targets are made for a renderer that has none. -/
theorem ensures_makeScreen_sourced (probe : SurfaceProbe) {setup : CommandBuffer}
    (h : Balanced c pool s) (hSetup : s.1.machine.recorder.setup = some setup)
    (hTargets : s.1.targets = {}) (hSets : s.1.descriptors = {}) :
    (makeScreen probe setup).Ensures s
      (fun _ t => Sourced c pool t ∧ t.1.cache = s.1.cache) (fun _ t => Balanced c pool t) := by
  rw [makeScreen, ensures_bind, ensures_get, ensures_bind, ensures_get, ensures_bind, onSwapchain,
    ensures_on]
  refine (Swapchain.ensures_build_of_lends probe _ (h.lends_part .swapchain) (has_surface _)
    (h.hasBuffer hSetup (by decide) (by decide))).mono ?_
    fun _ _ hLends => h.change .swapchain hLends rfl rfl rfl
  rintro - ⟨chain, h₁⟩ ⟨hLends₁, hBacked⟩
  have hChained : Balanced c pool ({ s.1 with swapchain := chain }, h₁) :=
    h.change .swapchain hLends₁ rfl rfl rfl
  rw [ensures_bind, ensures_get, ensures_bind, Op.onHost, ensures_onSecond]
  refine ((PhysicalDevice.within_chooseDepth (R := Gpu.OnlyAsked) _ h₁)).mono
    (fun depthFormat h₂ hAsked => ?_)
    fun _ h₂ hAsked => hChained.of_lends (hChained.lends.of_asked hAsked)
  have hLends₂ := hChained.lends.of_asked hAsked
  have hAsked₂ : Balanced c pool ({ s.1 with swapchain := chain }, h₂) := hChained.of_lends hLends₂
  -- there are no targets yet, so they leave the rest as it is
  have hNone : part { s.1 with swapchain := chain } .targets = 0 :=
    congrArg RenderTargets.estate hTargets
  rw [estate_of_none hNone] at hLends₂
  rw [ensures_bind, Op.onHost, ensures_onSecond]
  refine ((RenderTargets.ensures_create_of_lends _ depthFormat _ hLends₂
    (hAsked₂.hasBuffer hSetup (by decide) (by decide))).and
      (RenderTargets.growing_create _ depthFormat _ setup h₂)).mono
    (fun targets h₃ hMade => ?_) fun _ h₃ hFailed => ?_
  · rw [set, ensures_change]
    have hSuffix : h₁.gpu.history <:+ h₃.gpu.history := hAsked.history ▸ hMade.2.history
    exact ⟨⟨hAsked₂.change .targets hMade.1 rfl rfl rfl, hBacked.of_suffix hSuffix,
      .inl (hSets ▸ rfl)⟩, rfl⟩
  · refine hAsked₂.of_lends ?_
    rw [estate_of_none hNone]
    exact hFailed.1

/-- The pipeline cache is loaded for a renderer that has none. -/
theorem ensures_loadCache_sourced (path : String) (h : Sourced c pool s) (hCache : s.1.cache = {}) :
    (loadCache path).Ensures s (fun _ t => Sourced c pool t) (fun _ t => Balanced c pool t) := by
  have hNone : s.1.part .cache = 0 := by
    show s.1.cache.estate = 0
    rw [hCache]
    exact object_zero _
  have hLends := h.lends
  rw [estate_of_none hNone] at hLends
  rw [loadCache, ensures_bind, ensures_get, ensures_bind, Op.onHost, ensures_onSecond]
  refine ((PipelineCache.ensures_load_of_lends s.1.context path hLends).and
    (PipelineCache.within_load (R := Gpu.Grows) s.1.context path s.2)).mono
    (fun cache t h' => ?_) fun _ t h' => h.of_lends ?_
  · rw [set, ensures_change]
    exact h.of_balanced (h.change .cache h'.1 rfl rfl rfl) h'.2.history rfl rfl
  · rw [estate_of_none hNone]
    exact h'.1

/-- Framebuffers are made and the commands of frames refer to them, before the setup buffer is
run. -/
theorem ensures_finishScreen_linked (h : Sourced c pool s) :
    finishScreen.Ensures s (fun _ t => Linked c pool t) (fun _ t => Balanced c pool t) := by
  rw [finishScreen, ensures_bind, ensures_get, ensures_bind]
  refine (h.ensures_createFramebuffers _).mono (fun _ t h₁ => ?_) fun _ _ h => h.toBalanced
  rw [ensures_bind, set, ensures_change]
  exact (linked_flushSetup.preserves h₁.linked_retarget).mono (fun _ _ h => h)
    fun _ _ h => h.toBalanced

/-- Until there is a frame buffer, the program and what belongs to it is as it was. -/
theorem screenWork_makeScreen (probe : SurfaceProbe) (setup : CommandBuffer) :
    (makeScreen probe setup).Within ScreenWork := by
  refine within_get.bind fun _ => ?_
  refine within_get.bind fun _ => ?_
  refine (screenWork_onSwapchain (Swapchain.growing_build _ _ _ _)).bind fun _ => ?_
  refine within_get.bind fun _ => ?_
  refine (screenWork_onHost (PhysicalDevice.within_chooseDepth _)).bind fun _ => ?_
  refine (screenWork_onHost (RenderTargets.growing_create _ _ _ _)).bind fun _ => ?_
  exact screenWork_set

/-- Loading the cache is no matter of the program. -/
theorem screenWork_loadCache (path : String) : (loadCache path).Within ScreenWork := by
  refine within_get.bind fun _ => ?_
  refine (screenWork_onHost (PipelineCache.within_load _ _)).bind fun _ => ?_
  exact screenWork_set

/-- Finishing the screen is no matter of the program. -/
theorem screenWork_finishScreen : finishScreen.Within ScreenWork := by
  refine within_get.bind fun _ => ?_
  refine (screenWork_onTargets (RenderTargets.growing_createFramebuffers _ _)).bind fun _ => ?_
  refine (screenWork_set).bind fun _ => ?_
  exact screenWork_onMachine (Synchronizer.beyond_onRecorder Recorder.beyond_flushSetup)

-- ---------------------------------------------------------------------------
-- The program
-- ---------------------------------------------------------------------------

/-- The frame buffer is made for a renderer that has none. -/
theorem ensures_makeMemory_linked (config : RendererConfig) (h : Linked c pool s)
    (hMemory : s.1.memory = {}) :
    (makeMemory config).Ensures s (fun _ t => Linked c pool t) (fun _ t => Balanced c pool t) := by
  -- nothing is answered for yet by the frame buffer
  have hNone : s.1.part .memory = 0 := by
    show s.1.memory.estate = 0
    rw [hMemory]
    exact object_zero _
  have hLends := h.lends
  rw [estate_of_none hNone] at hLends
  rw [makeMemory, ensures_bind, ensures_get, ensures_bind, Op.onHost, ensures_onSecond]
  refine ((FrameMemory.ensures_create_of_lends s.1.context config.allocatorSize
    config.allocatorAlignment hLends).and
    (FrameMemory.within_create (R := Gpu.Passes) _ _ _ s.2)).mono
    (fun memory t h' => ?_) fun _ t h' => h.toBalanced.of_lends ?_
  · rw [set, ensures_change]
    exact h.of_balanced (h.change .memory h'.1 rfl rfl rfl) h'.2.spares.history.suffix rfl rfl rfl rfl
  · rw [estate_of_none hNone]
    exact h'.1

/-- A program is not made of objects, so loading it keeps the books. -/
theorem linked_loadProgram : loadProgram.Within (Preserving (Linked c pool)) := by
  have hRange : (set fun r => { r with memory := r.memory.withRange (uniformRange r.program) }).Within
      (Preserving (Linked c pool)) := within_change fun _ h => h.of_settings
  refine linked_compile.bind fun report => ?_
  refine within_get.bind fun s => ?_
  exact within_ite ((within_throw _).bind fun _ => hRange) hRange

/-- What the device needs to run the program is made for a renderer that has no descriptors. -/
theorem ensures_makeProgram_linked (h : Linked c pool s) (hSets : s.1.descriptors = {}) :
    makeProgram.Ensures s (fun _ t => Linked c pool t) (fun _ t => Linked c pool t) := by
  have hModules := h.ensures_onModules (ShaderModules.within_create s.1.program)
    (ShaderModules.ensures_create_of_lends s.1.program (h.lends_part .modules))
  have hSame : (onModules (ShaderModules.create s.1.program)).Ensures s
      (fun _ t => t.1.descriptors = s.1.descriptors) (fun _ _ => True) := by
    rw [onModules, ensures_on]
    exact (ensures_true _ _).mono (fun _ _ _ => rfl) fun _ _ h => h
  rw [makeProgram, ensures_bind, ensures_get, ensures_bind]
  refine (hModules.and hSame).mono (fun _ t h' => ?_) fun _ _ h' => h'.1
  obtain ⟨hLinked, hDescriptors⟩ := h'
  -- creating the modules does not touch the descriptors, which have nothing so far
  have hBare : t.1.descriptors.Bare := by
    rw [hDescriptors, hSets]
    exact ⟨rfl, rfl, rfl⟩
  rw [ensures_bind, ensures_get, ensures_bind]
  exact (hLinked.ensures_onDescriptors (Descriptors.within_build s.1.program _)
    (Descriptors.ensures_build_of_lends s.1.program (hLinked.lends_part .descriptors) hBare
      (has_region t.1))).mono (fun _ _ h => linked_buildPipelines.preserves h) fun _ _ h => h

-- ---------------------------------------------------------------------------
-- All parts
-- ---------------------------------------------------------------------------

/-- The parts that have handles are yet to be made. -/
structure Partless (r : Renderer) : Prop where
  targets : r.targets = {}
  cache : r.cache = {}
  memory : r.memory = {}
  descriptors : r.descriptors = {}

/-- While the parts are made, the books stay balanced, whatever fails. -/
theorem ensures_makeParts_linked (config : RendererConfig) (probe : SurfaceProbe)
    (h : Balanced c pool s) (hPartless : Partless s.1) :
    (makeParts config probe).Ensures s (fun _ t => Linked c pool t)
      (fun _ t => Balanced c pool t) := by
  rw [makeParts, ensures_bind, ensures_get]
  cases hSetup : s.1.machine.recorder.setup with
  | none =>
    rw [ensures_throw]
    exact h
  | some setup =>
    dsimp only
    rw [ensures_bind]
    refine ((ensures_makeScreen_sourced probe h hSetup hPartless.targets hPartless.descriptors).and
      (screenWork_makeScreen probe setup s)).mono ?_ fun _ _ h => h.1
    rintro - s₁ ⟨⟨h₁, hCache⟩, hWork₁⟩
    rw [ensures_bind]
    refine ((ensures_loadCache_sourced config.cachePath h₁ (hCache.trans hPartless.cache)).and
      (screenWork_loadCache config.cachePath s₁)).mono ?_ fun _ _ h => h.1
    rintro - s₂ ⟨h₂, hWork₂⟩
    rw [ensures_bind]
    refine ((ensures_finishScreen_linked h₂).and (screenWork_finishScreen s₂)).mono ?_
      fun _ _ h => h.1
    rintro - s₃ ⟨h₃, hWork₃⟩
    -- the parts that are still to be made are empty until here
    have hWork : ScreenWork s s₃ := Steady.trans (Steady.trans hWork₁ hWork₂) hWork₃
    rw [ensures_bind]
    refine ((ensures_makeMemory_linked config h₃ (hWork.memory.trans hPartless.memory)).and
      (keepsEquipment_makeMemory config s₃)).mono ?_ fun _ _ h => h.1
    rintro - s₄ ⟨h₄, hKept₄⟩
    rw [ensures_bind]
    refine ((linked_loadProgram.preserves h₄).and (keepsEquipment_loadProgram s₄)).mono ?_
      fun _ _ h => h.1.toBalanced
    rintro - s₅ ⟨h₅, hKept₅⟩
    have hSets : s₅.1.descriptors = {} := by
      rw [hKept₅.descriptors, hKept₄.descriptors, hWork.descriptors, hPartless.descriptors]
    rw [ensures_bind]
    refine (ensures_makeProgram_linked h₅ hSets).mono (fun _ s₆ h₆ => ?_) fun _ _ h => h.toBalanced
    rw [ensures_bind, ensures_get, ensures_log]
    exact Unlogged.push h₆

-- ---------------------------------------------------------------------------
-- Whole renderers
-- ---------------------------------------------------------------------------

/-- A frame machine is made for a device that has a command pool. -/
theorem ensures_createMachine_of_lends {device : GpuDevice} (clearColor : Color) {h : Host}
    {rest : Estate} (hLends : h.gpu.Lends rest) (hPool : .object .commandPool device.pool ∈ rest) :
    (createMachine device clearColor).Ensures h
      (fun m t => Synchronizer.Balanced device.pool (GpuDevice.Books device rest) (m, device, t))
      (fun _ t => t.gpu.Lends rest) := by
  have hBooks : GpuDevice.Books device rest 0 (device, h) := by
    refine ⟨rfl, hPool, ?_⟩
    rw [zero_add]
    exact hLends
  rw [createMachine, ensures_on]
  refine (Synchronizer.ensures_create_of_books clearColor hBooks).mono ?_ ?_
  · rintro m ⟨d, t⟩ hBalanced
    obtain rfl : d = device := hBalanced.recorder.books.device
    exact hBalanced
  · rintro e ⟨d, t⟩ hFailed
    have hGone := hFailed.lends
    rwa [zero_add] at hGone

/-- Before its parts are made, a renderer has a frame machine, a command pool and a context. -/
theorem estate_bare (device : GpuDevice) (m : Synchronizer) (config : RendererConfig)
    (probe : SurfaceProbe) (window : Extent) :
    (bare device m config probe window).estate = m.recorder.estate device.pool + m.semaphores +
      (object .commandPool device.pool + device.context.estate) := by
  rw [estate_parts]
  show 0 + (0 + ((0 + (0 + 0)) + (0 + (0 + ((0 + (0 + 0)) + ((0 + 0) + _)))))) = _
  simp only [zero_add]
  rfl

/-- If a setup on a device fails, all that was made on it is given back. -/
theorem ensures_createOnDevice_linked {device : GpuDevice} (window : Extent) (config : RendererConfig)
    (probe : SurfaceProbe) {h : Host} (hPool : device.pool ≠ 0)
    (hLends : h.gpu.Lends (object .commandPool device.pool + device.context.estate)) :
    (createOnDevice device window config probe).Ensures h
      (fun r t => Linked device.context device.pool (r, t))
      (fun _ t => t.gpu.Lends (object .commandPool device.pool + device.context.estate)) := by
  have hMem : .object .commandPool device.pool ∈
      object .commandPool device.pool + device.context.estate := ((has_object _ _).left _) hPool
  rw [createOnDevice, ensures_bind]
  refine (ensures_createMachine_of_lends config.clearColor hLends hMem).mono (fun m t hMachine => ?_)
    fun _ _ h => h
  rw [ensures_extending]
  have hBalanced : Balanced device.context device.pool (bare device m config probe window, t) := by
    refine ⟨?_, rfl, rfl, hPool, hMachine.alive, hMachine.recorder.alive⟩
    rw [estate_bare]
    exact hMachine.recorder.books.lends
  exact (ensures_makeParts_linked config probe hBalanced ⟨rfl, rfl, rfl, rfl⟩).mono
    (fun _ _ h => h) fun _ _ h => h.lends_dismantle

/-- If a setup in a context fails, the command pool is given back as well. -/
theorem ensures_createInContext_linked {context : GpuContext} (window : Extent)
    (config : RendererConfig) {h : Host} (hLends : h.gpu.Lends context.estate) :
    (createInContext context window config).Ensures h
      (fun r t => ∃ pool, Linked context pool (r, t)) (fun _ t => t.gpu.Lends context.estate) := by
  rw [createInContext, ensures_bind]
  refine (SurfaceProbe.within_take (R := Gpu.OnlyAsked) h).mono (fun probe h₁ hAsked => ?_)
    fun _ _ hAsked => hLends.of_asked hAsked
  have hPool := Host.ensures_setUp_of_does GpuDevice.component "create command pool"
    "create command pool" ((hLends.of_asked hAsked).does_create
      (c := .commandPool context.family) (List.forall_mem_nil _))
  rw [ensures_bind, GpuDevice.create, ensures_bind]
  refine hPool.mono (fun pool h₂ hMade => ?_) fun _ _ h => h
  rw [ensures_pure, ensures_undoing]
  have hLends₂ : h₂.gpu.Lends (object .commandPool pool + context.estate) := hMade.2
  exact (@ensures_createOnDevice_linked { context, pool } window config probe h₂ hMade.1
    hLends₂).mono (fun _ _ h => ⟨pool, h⟩) fun _ _ h => h.destroy

/-- New renderers have their books balanced and their parts linked. If there is none, either
everything that was made was given back, or nothing was and there was no device. -/
theorem ensures_create_linked (window : Window) (config : RendererConfig) {h : Host}
    (hNew : h.gpu.IsNew) :
    (create window config).Ensures h
      (fun r t => ∃ pool, Linked r.context pool (r, t))
      (fun _ t => (t.gpu.Lends 0 ∧ ∃ x, .object .device x ∈ given t.gpu.history) ∨
        GpuContext.Stranded t.gpu) := by
  rw [create, ensures_bind]
  have hFills := Gpu.fills_of_new hNew.history hNew.nextHandle
  refine (GpuContext.ensures_create window config hFills).mono (fun context h₁ hMade => ?_)
    fun _ _ h => .inr h
  obtain ⟨hDevice, hFills⟩ := hMade
  rw [ensures_undoing]
  refine (ensures_createInContext_linked window.extent config hFills.toLends).mono ?_ ?_
  · rintro r t ⟨pool, hLinked⟩
    refine ⟨pool, ?_⟩
    rw [hLinked.context_eq]
    exact hLinked
  · intro e t hFailed
    have hGone : (context.destroy t).gpu.Lends 0 := by
      refine GpuContext.lends_destroy ?_
      rw [add_zero]
      exact hFailed
    -- The device was destroyed, and all that was taken back had been given out.
    have hTaken := List.count_pos_iff.mpr (GpuContext.mem_taken_destroy hDevice t)
    have hCount := hGone.count_given (.object .device context.device)
    exact .inl ⟨hGone, context.device, List.count_pos_iff.mp (by omega)⟩

/-- **A setup that fails gives everything back exactly if it got as far as to a device**, or had
made nothing. Otherwise it gives nothing back. Calls mention what is alive in either case. -/
theorem cleared_iff_of_failed_create {window : Window} {config : RendererConfig} {h t : Host}
    {e : RenderError} (hNew : h.gpu.IsNew)
    (hRun : start (create window config) h = some (.error e, t)) :
    (Cleared t.gpu.history ↔
        given t.gpu.history = [] ∨ ∃ x, .object .device x ∈ given t.gpu.history) ∧
      (¬ Cleared t.gpu.history → taken t.gpu.history = []) ∧ MentionsAlive t.gpu.history := by
  rcases (ensures_create_linked window config hNew).of_error hRun with
    ⟨hGone, hDevice⟩ | ⟨estate, hFills, hNoDevice⟩
  · exact ⟨iff_of_true hGone.cleared (.inr hDevice), fun hNot => absurd hGone.cleared hNot,
      hGone.mentionsAlive⟩
  · refine ⟨⟨fun hCleared => .inl ?_, ?_⟩, fun _ => hFills.untaken, hFills.mentionsAlive⟩
    · by_contra hGiven
      refine hFills.not_cleared (fun hNone => hGiven ?_) hCleared
      exact Multiset.coe_eq_zero _ |>.mp (hFills.given_eq.trans hNone)
    · rintro (hNone | ⟨x, hx⟩)
      · have hEmpty : estate = 0 := by
          rw [← hFills.given_eq, hNone]
          rfl
        exact Gpu.Lends.cleared (hEmpty ▸ hFills.toLends)
      · exact absurd (hFills.given_eq ▸ Multiset.mem_coe.mpr hx) (hNoDevice x)

/-- A new device that will not become a logical one. -/
def sampleDeviceless : Host :=
  sampleHost.onGpu (Gpu.follow { faults := some [⟨"vkCreateDevice", some 1, ⟨-7⟩⟩] })

/-- What a setup on it leaves behind. -/
def sampleStranded : Host := (create {} sampleConfig).after sampleDeviceless

/-- The surface and the instance are lost if there is no device. -/
theorem not_cleared_of_failed_device :
    sampleDeviceless.gpu.IsNew ∧
      (∃ e, start (create {} sampleConfig) sampleDeviceless = some (.error e, sampleStranded)) ∧
      given sampleStranded.gpu.history = [.object .surface 2, .object .apiInstance 1] ∧
      taken sampleStranded.gpu.history = [] ∧ ¬ Cleared sampleStranded.gpu.history := by
  have hNew : sampleDeviceless.gpu.IsNew := ⟨rfl, rfl, Nat.one_pos⟩
  have hFails : (create {} sampleConfig).fails sampleDeviceless = true := by decide +kernel
  have hGiven : given sampleStranded.gpu.history =
      [.object .surface 2, .object .apiInstance 1] := by decide +kernel
  obtain ⟨e, hRun⟩ : ∃ e, start (create {} sampleConfig) sampleDeviceless =
      some (.error e, sampleStranded) := start_of_fails hFails
  obtain ⟨hIff, hTaken, -⟩ := cleared_iff_of_failed_create hNew hRun
  have hNot : ¬ Cleared sampleStranded.gpu.history := by
    rw [hIff, hGiven]
    simp
  exact ⟨hNew, ⟨e, hRun⟩, hGiven, hTaken hNot, hNot⟩

end RenderLoop.Renderer
