import RenderLoop.Proofs.Renderer.Rebuild

/-!
# RenderLoop — new renderers are fit

A renderer is made on a new device part by part. Before the framebuffers, its parts
are `Staged`: swapchain, pass and depth image are there, and the setup buffer has
barriers on their images. The framebuffers complete the screen (`Remade`), and the
setup buffer is run (`Finished`), as in a rebuild. What is made after that is beside
frames.
-/

namespace RenderLoop

open GpuHistory Op

/-- A device that nothing has happened to is orderly. -/
theorem Gpu.IsNew.orderly {g : Gpu} (h : g.IsNew) : g.Orderly := by
  have hStock : g.stock = [] := by
    rw [Gpu.stock, h.chains]
    rfl
  refine ⟨h.nextHandle, ?_, ?_, ?_⟩
  · rw [h.history]
    rintro kind x - ⟨e, he, -⟩
    cases he
  · rw [h.history]
    intro chain images hListed
    cases hListed
  · rw [hStock]
    exact List.forall_mem_nil _

theorem Gpu.IsNew.clean {g : Gpu} (h : g.IsNew) : Clean g.history := by
  rw [h.history]
  exact trivial

namespace Renderer

variable {s t u : Renderer × Host} {b : CommandBuffer} {mark : Handle}

-- ---------------------------------------------------------------------------
-- The screen
-- ---------------------------------------------------------------------------

/-- The screen was made but for its framebuffers. -/
structure Staged (mark b : Handle) (s t : Renderer × Host) : Prop where
  recorder : t.1.machine.recorder = s.1.machine.recorder
  state : t.1.machine.state = s.1.machine.state
  frame : t.1.frame = s.1.frame
  built : t.1.swapchain.Built mark t.2.gpu
  pass : ∃ p, t.1.targets.pass = some p ∧ mark ≤ p
  below : t.1.targets.Below t.2.gpu.nextHandle
  framebuffers : t.1.targets.framebuffers = []
  advanced : Gpu.Advanced mark b (mark ≤ ·) s.2.gpu t.2.gpu

theorem Staged.of_aside {b : Handle} (h : Staged mark b s t) (hAside : Aside t u) :
    Staged mark b s u where
  recorder := hAside.recorder.trans h.recorder
  state := hAside.state.trans h.state
  frame := hAside.frame.trans h.frame
  built := by
    have hRemakes : Gpu.Remakes b (mark ≤ ·) t.2.gpu u.2.gpu := .of_passes hAside.passes
    rw [hAside.swapchain]
    exact h.built.of_remakes hRemakes
  pass := by
    rw [hAside.targets]
    exact h.pass
  below := by
    rw [hAside.targets]
    exact h.below.mono hAside.passes.nextHandle
  framebuffers := by
    rw [hAside.targets]
    exact h.framebuffers
  advanced := h.advanced.trans (h.advanced.preparing.advanced hAside.passes)

theorem ensures_makeScreen (probe : SurfaceProbe) (setup : CommandBuffer)
    (hPre : s.2.gpu.Preparing mark) (hChain : s.1.swapchain.handle < mark) :
    (makeScreen probe setup).Ensures s (fun _ t => Staged mark setup.handle s t)
      (fun _ _ => True) := by
  rw [makeScreen, ensures_bind, ensures_get, ensures_bind, ensures_get, ensures_bind, onSwapchain,
    ensures_on]
  refine (Swapchain.ensures_build _ probe _ setup s.1.swapchain s.2 hPre hChain).mono ?_
    (fun _ _ _ => trivial)
  rintro - ⟨c, h₁⟩ ⟨hBuilt, hAdvanced₁, -⟩
  dsimp only at hBuilt hAdvanced₁ ⊢
  rw [ensures_bind, ensures_get, ensures_bind, Op.onHost, ensures_onSecond]
  refine (PhysicalDevice.within_chooseDepth (R := Gpu.Passes) _ h₁).mono ?_ (fun _ _ _ => trivial)
  intro depthFormat h₂ hPasses
  -- choosing the depth format only asks the device, so the new chain is untouched by it
  have hAdvanced₂ : Gpu.Advanced mark setup.handle (mark ≤ ·) h₁.gpu h₂.gpu :=
    hAdvanced₁.preparing.advanced hPasses
  rw [ensures_bind, Op.onHost, ensures_onSecond]
  refine (RenderTargets.ensures_create _ _ _ setup h₂ hAdvanced₂.preparing).mono ?_
    (fun _ _ _ => trivial)
  rintro targets h₃ ⟨⟨hAbove, hBelow, hNone⟩, hAdvanced₃⟩
  rw [set, ensures_change]
  have hDepth : ∀ x, targets.Depth x → mark ≤ x := by
    rintro x ⟨d, hd, rfl⟩
    exact hAbove.depth d hd
  -- from the chain on, everything made lies at or above the mark
  have hRest := hAdvanced₂.trans (hAdvanced₃.mono hDepth)
  exact ⟨rfl, rfl, rfl, hBuilt.of_remakes hRest.remakes, hAbove.pass, hBelow, hNone,
    (hAdvanced₁.mono hBuilt.images).trans hRest⟩

theorem aside_loadCache {R : Gpu → Gpu → Prop} [Gpu.Plain R] (path : String) :
    (loadCache path).Within (BesideBy R) := by
  refine within_get.bind fun _ => ?_
  refine (aside_onHost (PipelineCache.within_load _ path)).bind fun _ => ?_
  exact aside_set

/-- The framebuffers complete the screen. -/
theorem Staged.remade {b : Handle} (h : Staged mark b s t) (hTidy : Tidy s)
    (hRaised : Raised mark b (mark ≤ ·) t u) : Remade b s u := by
  have hRecorder : u.1.machine.recorder = s.1.machine.recorder :=
    (congrArg Synchronizer.recorder hRaised.machine).trans h.recorder
  have hAdvanced := h.advanced.trans hRaised.advanced
  refine ⟨hRecorder, (congrArg Synchronizer.state hRaised.machine).trans h.state,
    hRaised.frame.trans h.frame, ?_, ?_, hRaised.screen⟩
  · refine tidy_of_remakes hTidy hRecorder hAdvanced.preparing.orderly hAdvanced.remakes ?_
      hRaised.below
    rw [hRaised.swapchain]
    exact Nat.lt_of_lt_of_le h.built.handle_lt hRaised.advanced.remakes.nextHandle
  · exact hAdvanced.remakes.mono fun x hx => hAdvanced.preparing.marked.image_alive hx

/-- Completing the screen and running the setup buffer makes a renderer fit. -/
theorem ensures_finishScreen (hStaged : Staged mark b.handle s t) (hTidy : Tidy s)
    (hResting : Resting s) (hClean : Clean s.2.gpu.history)
    (hSetup : s.1.machine.recorder.setup = some b)
    (hEmpty : commands b.handle s.2.gpu.history = []) :
    finishScreen.Ensures t (fun _ u => Fit u) (fun _ _ => True) := by
  have hRaise := ensures_raise (mark ≤ ·) hStaged.advanced.preparing hStaged.built hStaged.pass
    hStaged.below hStaged.framebuffers (b := b.handle)
  rw [finishScreen, ensures_bind, ensures_get]
  dsimp only
  rw [← bind_assoc, ensures_bind]
  refine hRaise.mono ?_ (fun _ _ _ => trivial)
  intro _ u hRaised
  have hRemade := hStaged.remade hTidy hRaised
  refine (ensures_flushSetup_renderer hRemade.tidy).mono ?_ (fun _ _ _ => trivial)
  exact fun _ _ hFinished => hRemade.fit hFinished hSetup hEmpty hResting hClean

-- ---------------------------------------------------------------------------
-- The other parts
-- ---------------------------------------------------------------------------

section Plain

variable {R : Gpu → Gpu → Prop} [Gpu.Plain R]

theorem aside_makeMemory [Gpu.Storable R] (config : RendererConfig) :
    (makeMemory config).Within (BesideBy R) := by
  refine within_get.bind fun _ => ?_
  refine (aside_onHost (FrameMemory.within_create _ _ _)).bind fun _ => ?_
  exact aside_set

theorem aside_loadProgram : loadProgram.Within (BesideBy R) := by
  have hRange : (set fun r => { r with memory := r.memory.withRange (uniformRange r.program) }).Within
      (BesideBy R) := aside_set
  refine aside_compile.bind fun report => ?_
  refine within_get.bind fun s => ?_
  exact within_ite ((within_throw _).bind fun _ => hRange) hRange

theorem aside_makeProgram : makeProgram.Within (BesideBy R) := by
  refine within_get.bind fun _ => ?_
  refine (aside_onModules (ShaderModules.within_create _)).bind fun _ => ?_
  refine within_get.bind fun _ => ?_
  refine (aside_onDescriptors (Descriptors.within_build _ _)).bind fun _ => ?_
  exact aside_buildPipelines

/-- What is made once there is a screen to render to. -/
theorem aside_makeRest [Gpu.Storable R] (config : RendererConfig) :
    (do
      makeMemory config
      loadProgram
      makeProgram
      Op.log (← get).1.readyEntry : Action Unit).Within (BesideBy R) := by
  refine (aside_makeMemory config).bind fun _ => ?_
  refine aside_loadProgram.bind fun _ => ?_
  refine aside_makeProgram.bind fun _ => ?_
  refine within_get.bind fun _ => ?_
  exact within_log _

end Plain

theorem ensures_makeParts (config : RendererConfig) (probe : SurfaceProbe) (hTidy : Tidy s)
    (hResting : Resting s) (hClean : Clean s.2.gpu.history)
    (hEmpty : ∀ b ∈ s.1.machine.recorder.setup, commands b.handle s.2.gpu.history = []) :
    (makeParts config probe).Ensures s (fun _ t => Fit t) (fun _ _ => True) := by
  have hPre : s.2.gpu.Preparing s.2.gpu.nextHandle := ⟨hTidy.orderly, hTidy.orderly.marked⟩
  rw [makeParts, ensures_bind, ensures_get]
  cases hSetup : s.1.machine.recorder.setup with
  | none =>
    rw [ensures_throw]
    exact trivial
  | some setup =>
    dsimp only
    rw [ensures_bind]
    refine (ensures_makeScreen probe setup hPre hTidy.chain).mono ?_ (fun _ _ _ => trivial)
    intro _ s₁ hStaged₁
    rw [ensures_bind]
    refine (aside_loadCache (R := Gpu.Passes) config.cachePath s₁).mono ?_ (fun _ _ _ => trivial)
    intro _ s₂ hAside
    -- nothing between the screen and its framebuffers touches the screen
    have hStaged := hStaged₁.of_aside hAside
    rw [ensures_bind]
    refine (ensures_finishScreen hStaged hTidy hResting hClean hSetup (hEmpty setup hSetup)).mono ?_
      (fun _ _ _ => trivial)
    intro _ s₃ hFit
    -- the memory, the program and the log stand aside from the screen, which keeps its fit
    exact (aside_makeRest (R := Gpu.Passes) config s₃).mono (fun _ _ hAside => hFit.of_aside hAside)
      fun _ _ _ => trivial

-- ---------------------------------------------------------------------------
-- Whole renderers
-- ---------------------------------------------------------------------------

theorem ensures_createOnDevice (device : GpuDevice) (window : Extent) (config : RendererConfig)
    (probe : SurfaceProbe) (h : Host) (hOrderly : h.gpu.Orderly) (hClean : Clean h.gpu.history) :
    (createOnDevice device window config probe).Ensures h (fun r h' => Fit (r, h'))
      (fun _ _ => True) := by
  rw [createOnDevice, ensures_bind, createMachine, ensures_on]
  refine (Synchronizer.ensures_create_device config.clearColor (device, h)).mono ?_
    (fun _ _ _ => trivial)
  rintro m ⟨d, h₁⟩ ⟨hCreated, hIdle⟩
  dsimp only
  rw [ensures_extending]
  have hOrderly₁ : h₁.gpu.Orderly := hOrderly.of_spares hCreated.risks.spares
  refine ensures_makeParts config probe ⟨hOrderly₁, hCreated.apart, hOrderly₁.pos, ?_⟩
    ⟨rfl, .inl hIdle⟩ (hCreated.risks.clean trivial hClean) hCreated.empty
  -- the targets of a bare renderer are none
  refine ⟨fun _ hPass => ?_, fun _ hDepth => ?_, List.forall_mem_nil _⟩
  · cases hPass
  · cases hDepth

/-- New renderers are fit. -/
theorem ensures_create (window : Window) (config : RendererConfig) (h : Host) (hNew : h.gpu.IsNew) :
    (create window config).Ensures h (fun r h' => Fit (r, h')) (fun _ _ => True) := by
  rw [create, ensures_bind]
  refine (GpuContext.within_create (R := Gpu.Passes) window config h).mono ?_ (fun _ _ _ => trivial)
  intro context h₁ hPasses₁
  rw [ensures_undoing, createInContext, ensures_bind]
  refine (SurfaceProbe.within_take (R := Gpu.Passes) h₁).mono ?_ (fun _ _ _ => trivial)
  intro probe h₂ hPasses₂
  rw [ensures_bind]
  refine (GpuDevice.within_create (R := Gpu.Passes) context h₂).mono ?_ (fun _ _ _ => trivial)
  intro device h₃ hPasses₃
  rw [ensures_undoing]
  have hPasses : h.gpu.Passes h₃.gpu := Gpu.Passes.trans hPasses₁ (Gpu.Passes.trans hPasses₂ hPasses₃)
  exact ensures_createOnDevice device window.extent config probe h₃
    (hNew.orderly.of_spares hPasses.spares) (hPasses.history.clean hNew.clean)

end Renderer

end RenderLoop
