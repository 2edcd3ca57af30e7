import RenderLoop.Proofs.Gpu.Sizes
import RenderLoop.Proofs.Renderer.Attested
import RenderLoop.Proofs.Renderer.Totality

/-!
# RenderLoop — the area that is rendered to

Swapchain, depth image and framebuffers have one size, which the surface and the window
decide together (`SurfaceCapabilities.imageExtent`). A rebuild asks first whether that
has an area. If not, it is **deferred**: the renderer stays as it is, and nothing happens
to the device (`deferred_of_rebuilds`). So no call creates anything without an area
(`Step.sizes`).

The setup does not ask. What it creates has the size there is, so the things of a
renderer have areas just if the surface had one when the renderer was set up, whatever is
called afterwards (`spacious_iff_of_create`).
-/

namespace RenderLoop

open GpuHistory Op Host

/-- The device of a world goes on at sizes of some kind. -/
abbrev GoingAt (P : Extent → Prop) {σ : Type} [Logging σ] [Simulated σ] : σ → σ → Prop :=
  Along (Gpu.GoesAt P)

variable {P : Extent → Prop}

-- ---------------------------------------------------------------------------
-- The swapchain
-- ---------------------------------------------------------------------------

namespace Swapchain

/-- A chain that was built has the size that surface and window decide on. -/
theorem ensures_build_extent (surface : Handle) (probe : SurfaceProbe) (window : Extent)
    (setup : CommandBuffer) (s : Swapchain × Host) :
    (build surface probe window setup).Ensures s
      (fun _ t => probe.capabilities.imageExtent window = some t.1.extent) (fun _ _ => True) := by
  rw [build, ensures_bind, ensures_get, ensures_bind, ensures_ofOption]
  rintro ⟨request, entries⟩ hRequest
  have hExtent : probe.capabilities.imageExtent window = some request.extent := by
    obtain ⟨size, hSize, hEq⟩ := Option.map_eq_some_iff.mp hRequest
    cases hEq
    exact hSize
  refine ensures_bind_of_forall fun _ _ => ensures_bind_of_forall fun handle _ =>
    ensures_bind_of_forall fun _ _ => ensures_bind_of_forall fun images _ =>
      ensures_bind_of_forall fun _ _ => ensures_bind_of_forall fun _ t => ?_
  rw [ensures_bind, ensures_change, ensures_bind, ensures_get, ensures_log]
  exact hExtent

/-- Whatever a chain is built of has the size that surface and window decide on. -/
theorem ensures_build_at (surface : Handle) {probe : SurfaceProbe} {window : Extent}
    (setup : CommandBuffer)
    (hSize : ∀ size, probe.capabilities.imageExtent window = some size → P size)
    (s : Swapchain × Host) :
    (build surface probe window setup).Ensures s (fun _ t => GoingAt P s t ∧ P t.1.extent)
      (fun _ t => GoingAt P s t) := by
  have hBuild : (build surface probe window setup).Within (GoingAt P) := by
    refine within_build surface setup fun size hExtent => ?_
    exact Gpu.admits_goesAt (hSize size hExtent)
  refine ((hBuild s).and (ensures_build_extent surface probe window setup s)).mono ?_ ?_
  · rintro _ t ⟨hGoing, hExtent⟩
    exact ⟨hGoing, hSize _ hExtent⟩
  · rintro _ t ⟨hGoing, -⟩
    exact hGoing

/-- A chain is built again at the size of the surface as it is then. -/
theorem ensures_recreate_at (surface : Handle) {window : Extent} (setup : CommandBuffer)
    {s : Swapchain × Host}
    (hSize : ∀ size, s.2.gpu.capabilities.imageExtent window = some size → P size) :
    (recreate surface window setup).Ensures s (fun _ t => GoingAt P s t ∧ P t.1.extent)
      (fun _ t => GoingAt P s t) := by
  rw [recreate, ensures_bind, Op.onHost, ensures_onSecond]
  -- the surface answers the probe as it is
  refine ((SurfaceProbe.within_take (R := Gpu.GoesAt P) s.2).and
    (SurfaceProbe.ensures_take s.2)).mono ?_ fun _ _ h => h.1
  rintro probe h ⟨hAsked, hCapabilities⟩
  rw [ensures_bind, ensures_get, ensures_bind]
  refine (within_logAll (R := GoingAt P) _ (s.1, h)).mono (fun _ s₁ hLogged => ?_)
    fun _ _ hLogged => Gpu.GoesAt.trans hAsked hLogged
  rw [ensures_bind, ensures_change]
  have hGoes : GoingAt P s s₁ := Gpu.GoesAt.trans hAsked hLogged
  rw [← hCapabilities] at hSize
  exact (ensures_build_at surface setup hSize _).mono
    (fun _ _ h => ⟨Gpu.GoesAt.trans hGoes h.1, h.2⟩) fun _ _ h => Gpu.GoesAt.trans hGoes h

end Swapchain

namespace Renderer

variable {s t u : Renderer × Host} {request : Request} {α : Type}

-- ---------------------------------------------------------------------------
-- Calls on the device
-- ---------------------------------------------------------------------------

section Unsized

variable {R : Gpu → Gpu → Prop}

/-- What stays beside the device goes along with it. -/
theorem along_of_beside {op : Action α} (hOp : op.Within (BesideBy R)) : op.Within (Along R) :=
  hOp.mono fun _ _ h => h.goes

/-- What the machine does, it does to the device. -/
theorem along_onMachine {op : Op Machinery α} (hOp : op.Within (Beyond (Along R))) :
    (onMachine op).Within (Along R) :=
  hOp.on fun _ _ h => h

/-- What is done with the render targets is done to the device. -/
theorem along_onTargets {op : Op (RenderTargets × Host) α} (hOp : op.Within (Along R)) :
    (onTargets op).Within (Along R) :=
  hOp.on fun _ _ h => h

/-- The device goes on, and nothing else does. -/
theorem ensures_onHost_along {op : Op Host α} (hOp : op.Within (Along R)) (s : Renderer × Host) :
    (op.onHost : Action α).Ensures s (fun _ t => Along R s t ∧ t.1 = s.1)
      (fun _ t => Along R s t) := by
  rw [Op.onHost, ensures_onSecond]
  exact (hOp s.2).mono (fun _ _ h => ⟨h, rfl⟩) fun _ _ h => h

/-- The machine is not about the window. -/
theorem ensures_onMachine_along {op : Op Machinery α} (hOp : op.Within (Beyond (Along R)))
    (s : Renderer × Host) :
    (onMachine op).Ensures s (fun _ t => Along R s t ∧ t.1.window = s.1.window)
      (fun _ t => Along R s t) := by
  rw [onMachine, ensures_on]
  exact (hOp (machinery s)).mono (fun _ _ h => ⟨h, rfl⟩) fun _ _ h => h

variable [hR : Gpu.Unsized R]

/-- Setting fields does nothing to the device. -/
theorem along_set (f : Renderer → Renderer) : (set f).Within (Along R) :=
  within_change fun s => hR.refl s.2.gpu

/-- Calls keep to what rebuilds keep to. -/
theorem serving_of_rebuild (hRebuild : rebuild.Within (Along R)) : Serving (Along R) where
  note {_ _ h} _ := hR.refl h.gpu
  reset _ h := hR.refl h.gpu
  edit _ h _ := hR.refl h.gpu
  waitIdle := along_of_beside aside_waitIdle
  beginMachine extent := along_onMachine (Synchronizer.beyond_beginFrame extent)
  endMachine f := along_onMachine (Synchronizer.beyond_endFrame f)
  buildPipelines := along_of_beside aside_buildPipelines
  rebuild := hRebuild

/-- Drawing stores bytes and records commands. -/
theorem along_draw [Gpu.Storable R] (mesh : Mesh) (mode : PolyRenderMode) :
    (draw mesh mode).Within (Along R) := by
  refine within_draw (fun _ => ?_) mesh mode
  refine drawSteps_of_record (fun bytes => ?_) (fun bytes => ?_) fun _ _ => ?_
  · exact along_of_beside (aside_onMemory (FrameMemory.within_store bytes))
  · exact along_of_beside (aside_onMemory (FrameMemory.within_storeUniform bytes))
  · exact within_change fun s => hR.happen rfl _ s.2.gpu

/-- A call goes on as rebuilds do, unless it is a new script. -/
theorem along_serve [Gpu.Storable R] (hRebuild : rebuild.Within (Along R))
    (hFollow : ∀ script, request ≠ .follow script) : (serve request).Within (Along R) := by
  have := serving_of_rebuild hRebuild
  refine within_serve_of_parts ?_ ?_ fun script hScript => absurd hScript (hFollow script)
  · rintro mesh mode rfl
    exact along_draw mesh mode
  · rintro rfl
    exact along_of_beside (aside_serve rfl)

-- Taking apart what was made is a matter of destroying objects.

/-- Descriptors, modules and frame buffer are destroyed. -/
theorem along_destroyProgram (r : Renderer) (h : Host) : Along R h (r.destroyProgram h) := by
  let h₁ := Descriptors.destroy (r.descriptors, h)
  have hDropped : Along R h (Descriptors.drop (r.descriptors, h)).2 :=
    hR.trans (Gpu.unsized_destroyIfAny _ _ h.gpu) (Gpu.unsized_destroyIfAny _ _ _)
  have hDescriptors : Along R h h₁ := hR.trans hDropped (Gpu.unsized_destroyAll _ _ _)
  have hModules : Along R h₁ (ShaderModules.destroy (r.modules, h₁)) :=
    Gpu.unsized_destroyAll _ _ h₁.gpu
  exact hR.trans (hR.trans hDescriptors hModules) (Gpu.unsized_destroyIfAny _ _ _)

/-- Render targets, views and chain are destroyed. -/
theorem along_destroyScreen (r : Renderer) (h : Host) : Along R h (r.destroyScreen h) := by
  have hTargets : Along R h (RenderTargets.destroy (r.targets, h)) :=
    RenderTargets.along_tearDown (r.targets, h)
  have hViews := hR.trans hTargets (Gpu.unsized_destroyAll .imageView r.swapchain.views _)
  exact hR.trans hViews (Gpu.unsized_destroyIfAny _ _ _)

/-- Taking a renderer apart destroys it part by part. -/
theorem along_dismantle (s : Renderer × Host) : Along R s.2 (dismantle s) := by
  let h₁ := Pipelines.destroy (s.1.pipelines, s.2)
  let h₂ := s.1.destroyProgram h₁
  let h₃ := s.1.cache.destroy h₂
  let h₄ := s.1.destroyScreen h₃
  have hPipelines : Along R s.2 h₁ := Pipelines.along_update (fun _ => {}) (s.1.pipelines, s.2)
  have hProgram : Along R h₁ h₂ := along_destroyProgram s.1 h₁
  have hCache : Along R h₂ h₃ := Gpu.unsized_destroyIfAny _ _ h₂.gpu
  have hScreen : Along R h₃ h₄ := along_destroyScreen s.1 h₃
  have hMachine : Along R h₄ (dismantle s) :=
    Synchronizer.beyond_destroy (R := Along R) (s.1.machine, s.1.device, h₄)
  exact hR.trans (hR.trans (hR.trans (hR.trans hPipelines hProgram) hCache) hScreen) hMachine

/-- A context waits for the device and destroys what is left. -/
theorem along_destroyContext (c : GpuContext) (h : Host) : Along R h (c.destroy h) := by
  have hWaited : R h.gpu (Gpu.perform .waitDevice h.gpu).2 := Gpu.unsized_perform rfl _
  have hDevice := hR.trans hWaited (Gpu.unsized_destroy .device c.device _)
  have hSurface := hR.trans hDevice (Gpu.unsized_destroy .surface c.surface _)
  exact hR.trans (hR.trans hSurface (Gpu.unsized_destroyAll .messenger c.messenger.toList _))
    (Gpu.unsized_destroy .apiInstance c.apiInstance _)

end Unsized

-- ---------------------------------------------------------------------------
-- Rebuilds
-- ---------------------------------------------------------------------------

/-- Going on does not change what the surface offers. -/
theorem capabilities_of_goingAt (h : GoingAt P s t) :
    t.2.gpu.capabilities = s.2.gpu.capabilities :=
  Gpu.capabilities_of_setting h.setting

/-- Everything is made again at the size of the surface as it is then. -/
theorem ensures_remakeScreen_at (setup : CommandBuffer)
    (hSize : ∀ size, s.2.gpu.capabilities.imageExtent s.1.window = some size → P size) :
    (remakeScreen setup).Ensures s (fun _ t => GoingAt P s t) (fun _ t => GoingAt P s t) := by
  rw [remakeScreen, ensures_bind, ensures_get]
  have hSwapchain :
      (onSwapchain (Swapchain.recreate s.1.context.surface s.1.window setup)).Ensures s
        (fun _ t => GoingAt P s t ∧ P t.1.swapchain.extent) (fun _ t => GoingAt P s t) := by
    rw [onSwapchain, ensures_on]
    exact Swapchain.ensures_recreate_at _ setup hSize
  refine hSwapchain.bind_steady ?_
  rintro - s₁ ⟨hGoes, hExtent⟩
  refine ⟨hGoes, ?_⟩
  -- From here on the size is that of the chain, not of the surface.
  have hAdmits := Gpu.admits_goesAt hExtent
  rw [ensures_bind, ensures_get]
  exact ((along_onTargets (RenderTargets.within_recreate hAdmits _ setup)).bind fun _ =>
    (along_onTargets (RenderTargets.within_createFramebuffers hAdmits _)).bind fun _ =>
      along_set retarget) s₁

/-- The setup buffer is run and freed. -/
theorem along_flushSetup :
    (onMachine (Synchronizer.onRecorder Recorder.flushSetup)).Within (GoingAt P) :=
  along_onMachine (Synchronizer.beyond_onRecorder Recorder.beyond_flushSetup)

/-- A rebuild asks the surface for its size before anything is made, and everything gets that
size. -/
theorem ensures_remakeAll_at
    (hSize : ∀ size, s.2.gpu.capabilities.imageExtent s.1.window = some size → P size) :
    remakeAll.Ensures s (fun _ t => GoingAt P s t) (fun _ t => GoingAt P s t) := by
  rw [remakeAll]
  have hWait := ensures_onHost_along (R := Gpu.GoesAt P) GpuContext.within_waitIdle s
  refine hWait.bind_steady ?_
  rintro - s₁ ⟨hWaited, hSame⟩
  refine ⟨hWaited, ?_⟩
  have hBegin := ensures_onMachine_along (R := Gpu.GoesAt P)
    (Synchronizer.beyond_onRecorder Recorder.beyond_beginSetup) s₁
  refine hBegin.bind_steady ?_
  rintro setup s₂ ⟨hBegun, hWindow⟩
  refine ⟨hBegun, ?_⟩
  -- Neither the window nor what the surface answers has changed since the area was asked for.
  have hSize₂ : ∀ size, s₂.2.gpu.capabilities.imageExtent s₂.1.window = some size → P size := by
    rw [capabilities_of_goingAt hBegun, capabilities_of_goingAt hWaited, hWindow, hSame]
    exact hSize
  exact (ensures_remakeScreen_at setup hSize₂).bind_steady fun _ s₃ hRemade =>
    ⟨hRemade, along_flushSetup s₃⟩

/-- The renderer stays as it is, and nothing happens to the device. -/
structure Deferred (s t : Renderer × Host) : Prop where
  renderer : t.1 = s.1
  history : t.2.gpu.history = s.2.gpu.history

/-- Only questions are asked to find out whether there is an area. -/
theorem ensures_hasNoArea_iff (s : Renderer × Host) :
    hasNoArea.Ensures s (fun empty t => Deferred s t ∧ (empty = false ↔ HasArea s))
      (fun _ t => Deferred s t) := by
  rw [hasNoArea, ensures_bind, ensures_get]
  refine ensures_ite (fun hEmpty => ?_) fun hWindow => ?_
  · -- the window alone decides, and the surface is not asked
    rw [ensures_pure]
    refine ⟨⟨rfl, rfl⟩, iff_of_false Bool.noConfusion fun hArea => ?_⟩
    rw [hArea.window] at hEmpty
    cases hEmpty
  · rw [Op.onHost, ensures_onSecond]
    refine ((Swapchain.within_isMinimized (R := Gpu.OnlyAsked) s.1.window s.2).and
      (ensures_isMinimized s.1.window s.2)).mono ?_ fun _ _ h => ⟨rfl, h.1.history⟩
    rintro empty h ⟨hAsked, hMinimized⟩
    refine ⟨⟨rfl, hAsked.history⟩, ?_, fun hArea => ?_⟩
    · rintro rfl
      exact ⟨Bool.eq_false_iff.mpr hWindow, hMinimized⟩
    · exact Option.some.inj (hMinimized.symm.trans hArea.surface)

/-- Whatever a rebuild is to create has an area. -/
theorem within_rebuild_at : rebuild.Within (GoingAt fun size => size.isEmpty = false) := by
  intro s
  rw [rebuild_eq]
  have hAsk := (along_of_beside (R := Gpu.GoesAt fun size => size.isEmpty = false)
    aside_hasNoArea s).and (ensures_hasNoArea_iff s)
  refine (hAsk.mono (fun _ _ h => h) fun _ _ h => h.1).bind_steady ?_
  rintro empty s₁ ⟨hAsked, hDeferred, hArea⟩
  refine ⟨hAsked, ensures_ite (fun _ => within_log deferredEntry s₁) fun hEmpty => ?_⟩
  -- the area was just asked for, and it is that of the surface as it is
  have hSize : ∀ size, s₁.2.gpu.capabilities.imageExtent s₁.1.window = some size →
      size.isEmpty = false := by
    intro size hSize
    have hSurface := (hArea.mp (Bool.eq_false_iff.mpr hEmpty)).surface
    rw [← capabilities_of_goingAt hAsked, SurfaceCapabilities.isMinimized, ← hDeferred.renderer,
      hSize] at hSurface
    exact Option.some.inj hSurface
  refine (ensures_remakeAll_at hSize).bind_steady fun _ s₂ hRemade => ⟨hRemade, ?_⟩
  exact ((along_of_beside aside_rebuildPipelines).bind fun _ =>
    within_get.bind fun _ => within_log _) s₂

-- ---------------------------------------------------------------------------
-- Calls
-- ---------------------------------------------------------------------------

/-- A new script adds nothing to the history. -/
theorem history_follow (script : GpuScript) (g : Gpu) : (g.follow script).history = g.history := by
  rw [Gpu.follow]
  split <;> rfl

/-- Whatever a call is to create has an area. -/
theorem Step.sizes (hStep : Step s request t) :
    ∃ later, t.2.gpu.history = later ++ s.2.gpu.history ∧
      SizesIn (fun size => size.isEmpty = false) later := by
  obtain ⟨r, hRun⟩ := hStep
  by_cases hFollow : ∃ script, request = .follow script
  · obtain ⟨script, rfl⟩ := hFollow
    cases hRun
    exact ⟨[], history_follow script s.2.gpu, List.forall_mem_nil _⟩
  · have hServe := along_serve within_rebuild_at fun script h => hFollow ⟨script, h⟩
    cases r with
    | ok a => exact ((hServe s).of_ok hRun).history
    | error e => exact ((hServe s).of_error hRun).history

/-- However long calls go on, areas are a matter of what was there at their beginning. -/
theorem spacious_iff_of_leads {allowed : Renderer × Host → Request → Renderer × Host → Prop}
    (hLeads : Leads allowed s t) : Spacious t.2.gpu.history ↔ Spacious s.2.gpu.history := by
  induction hLeads with
  | here => exact Iff.rfl
  | step request _ hStep _ ih =>
    obtain ⟨later, hHistory, hSizes⟩ := hStep.sizes
    rw [hHistory, spacious_append, ih]
    exact and_iff_right (spacious_of_sizesIn hSizes)

-- ---------------------------------------------------------------------------
-- Deferred rebuilds
-- ---------------------------------------------------------------------------

/-- The window or the surface has no area. -/
def NoArea (s : Renderer × Host) : Prop :=
  s.1.window.isEmpty = true ∨ s.2.gpu.capabilities.isMinimized s.1.window = some true

/-- A renderer without an area has none. -/
theorem NoArea.not_hasArea (h : NoArea s) : ¬ HasArea s := by
  rintro ⟨hWindow, hSurface⟩
  rcases h with hEmpty | hMinimized
  · rw [hWindow] at hEmpty
    cases hEmpty
  · rw [hSurface] at hMinimized
    cases hMinimized

/-- It is found out that there is no area: the surface answers, or is not asked. -/
theorem NoArea.returns (h : NoArea s) : hasNoArea.Returns s := by
  refine returns_hasNoArea fun hWindow => ?_
  have hMinimized := h.resolve_left fun hEmpty => by rw [hWindow] at hEmpty; cases hEmpty
  rw [SurfaceCapabilities.isMinimized] at hMinimized
  rw [← Option.isSome_map, hMinimized]
  rfl

/-- A rebuild without an area comes to an end before it has done anything. -/
theorem start_rebuild_of_noArea (h : NoArea s) :
    ∃ r t, start rebuild s = some (r, t) ∧ Deferred s t := by
  -- the question is answered, and with the answer the rebuild is over
  have hReturns : rebuild.Returns s := by
    rw [rebuild, Op.returns_bind]
    refine ⟨h.returns, (ensures_hasNoArea_iff s).mono ?_ fun _ _ _ => trivial⟩
    rintro empty u ⟨-, hArea⟩
    rw [if_pos (Bool.eq_true_of_not_eq_false fun hEmpty => h.not_hasArea (hArea.mp hEmpty))]
    exact returns_log _ u
  have hDeferred : rebuild.Ensures s (fun _ t => Deferred s t) (fun _ t => Deferred s t) := by
    rw [rebuild, ensures_bind]
    refine (ensures_hasNoArea_iff s).mono ?_ fun _ _ h => h
    rintro empty u ⟨hDeferred, hArea⟩
    rw [if_pos (Bool.eq_true_of_not_eq_false fun hEmpty => h.not_hasArea (hArea.mp hEmpty)),
      ensures_log]
    exact ⟨hDeferred.renderer, hDeferred.history⟩
  obtain ⟨⟨r, t⟩, hRun⟩ := Option.isSome_iff_exists.mp hReturns
  refine ⟨r, t, hRun, ?_⟩
  cases r with
  | ok a => exact hDeferred.of_ok hRun
  | error e => exact hDeferred.of_error hRun

/-- A request that gets as far as to a rebuild, and finds no area there, ends with things as they
were. -/
theorem deferred_of_rebuilds (hRebuilds : Rebuilds s request u) (hNoArea : NoArea u) :
    (∃ t, Step s request t) ∧ ∀ t, Step s request t → Deferred u t := by
  obtain ⟨r, t, hRun, hDeferred⟩ := start_rebuild_of_noArea hNoArea
  obtain ⟨r', hServe⟩ := step_of_rebuilds hRebuilds hRun
  refine ⟨⟨t, r', hServe⟩, ?_⟩
  rintro t' ⟨r'', hServe'⟩
  rw [hServe] at hServe'
  cases hServe'
  exact hDeferred

-- ---------------------------------------------------------------------------
-- The setup
-- ---------------------------------------------------------------------------

/-- The setup makes the chain at the size of the surface, and the targets at the size of the
chain. -/
theorem ensures_makeScreen_at {probe : SurfaceProbe} (setup : CommandBuffer)
    (hSize : ∀ size, probe.capabilities.imageExtent s.1.window = some size → P size) :
    (makeScreen probe setup).Ensures s (fun _ t => GoingAt P s t ∧ P t.1.swapchain.extent)
      (fun _ t => GoingAt P s t) := by
  rw [makeScreen, ensures_bind, ensures_get, ensures_bind, ensures_get, ensures_bind, onSwapchain,
    ensures_on]
  refine (Swapchain.ensures_build_at _ setup hSize (s.1.swapchain, s.2)).mono ?_ fun _ _ h => h
  rintro - ⟨c, h₁⟩ ⟨hBuilt, hExtent⟩
  rw [ensures_bind, ensures_get, ensures_bind, Op.onHost, ensures_onSecond]
  refine (PhysicalDevice.within_chooseDepth (R := Gpu.GoesAt P) _ h₁).mono ?_
    fun _ _ h => Gpu.GoesAt.trans hBuilt h
  intro depthFormat h₂ hAsked
  -- asking for the depth format makes nothing of a size
  have hGoes : Gpu.GoesAt P s.2.gpu h₂.gpu := Gpu.GoesAt.trans hBuilt hAsked
  rw [ensures_bind, Op.onHost, ensures_onSecond]
  refine (RenderTargets.within_create (Gpu.admits_goesAt hExtent) _ depthFormat setup h₂).mono ?_
    fun _ _ h => Gpu.GoesAt.trans hGoes h
  intro targets h₃ hMade
  rw [set, ensures_change]
  exact ⟨Gpu.GoesAt.trans hGoes hMade, hExtent⟩

/-- Framebuffers get the size of the chain. -/
theorem ensures_finishScreen_at (hExtent : P s.1.swapchain.extent) :
    finishScreen.Ensures s (fun _ t => GoingAt P s t) (fun _ t => GoingAt P s t) := by
  have hAdmits := Gpu.admits_goesAt hExtent
  rw [finishScreen, ensures_bind, ensures_get]
  exact ((along_onTargets (RenderTargets.within_createFramebuffers hAdmits _)).bind fun _ =>
    (along_set retarget).bind fun _ => along_flushSetup) s

/-- All parts of a setup together keep to that size. -/
theorem ensures_makeParts_at (config : RendererConfig) {probe : SurfaceProbe}
    (hSize : ∀ size, probe.capabilities.imageExtent s.1.window = some size → P size) :
    (makeParts config probe).Ensures s (fun _ t => GoingAt P s t) (fun _ t => GoingAt P s t) := by
  rw [makeParts, ensures_bind, ensures_get]
  cases s.1.machine.recorder.setup with
  | none =>
    rw [ensures_throw]
    exact Steady.refl s
  | some setup =>
    dsimp only
    refine (ensures_makeScreen_at setup hSize).bind_steady ?_
    rintro - s₁ ⟨hMade, hExtent⟩
    refine ⟨hMade, ?_⟩
    have hLoad := (aside_loadCache (R := Gpu.GoesAt P) config.cachePath s₁).mono
      (fun _ _ h => h) fun _ _ h => h.goes
    refine hLoad.bind_steady fun _ s₂ hBeside => ⟨hBeside.goes, ?_⟩
    -- the chain is still the one that was made
    rw [← hBeside.swapchain] at hExtent
    exact (ensures_finishScreen_at hExtent).bind_steady fun _ s₃ hFinished =>
      ⟨hFinished, along_of_beside (aside_makeRest config) s₃⟩

/-- A setup on a device keeps to that size, also if it is taken apart again. -/
theorem within_createOnDevice_at (device : GpuDevice) {window : Extent} (config : RendererConfig)
    {probe : SurfaceProbe}
    (hSize : ∀ size, probe.capabilities.imageExtent window = some size → P size) :
    (createOnDevice device window config probe).Within (GoingAt P) := by
  have hMachine : (createMachine device config.clearColor).Within (GoingAt P) :=
    (Synchronizer.within_create (R := GoingAt P) config.clearColor).on fun _ _ h => h
  refine hMachine.bind fun machine h => ?_
  rw [ensures_extending]
  refine (ensures_makeParts_at config hSize).mono (fun _ _ h => h) fun _ t hGoes => ?_
  exact Gpu.GoesAt.trans hGoes (along_dismantle t)

/-- Whatever a setup is to create has the size that surface and window decide on. -/
theorem ensures_create_at {window : Window} (config : RendererConfig) {h : Host}
    (hSize : ∀ size, h.gpu.capabilities.imageExtent window.extent = some size → P size) :
    (create window config).Ensures h (fun _ t => GoingAt P h t) (fun _ t => GoingAt P h t) := by
  rw [create]
  refine (GpuContext.within_create window config h).bind_steady fun context h₁ hContext =>
    ⟨hContext, ?_⟩
  -- creating the context leaves the surface's capabilities alone
  have hSame : h₁.gpu.capabilities = h.gpu.capabilities :=
    Gpu.capabilities_of_setting hContext.setting
  have hParts : (createInContext context window.extent config).Ensures h₁
      (fun _ t => GoingAt P h₁ t) (fun _ t => GoingAt P h₁ t) := by
    have hProbe := (SurfaceProbe.within_take (R := Gpu.GoesAt P) h₁).and
      (SurfaceProbe.ensures_take h₁)
    rw [createInContext]
    refine (hProbe.mono (fun _ _ h => h) fun _ _ h => h.1).bind_steady ?_
    rintro probe h₂ ⟨hAsked, hCapabilities⟩
    rw [← hSame, ← hCapabilities] at hSize
    exact ⟨hAsked, ((GpuDevice.within_create context).bind fun device =>
      (within_createOnDevice_at device config hSize).undoing
        (along_onGpu (Gpu.unsized_destroy _ _))) h₂⟩
  rw [ensures_undoing]
  exact hParts.mono (fun _ _ h => h) fun _ t h =>
    Gpu.GoesAt.trans h (along_destroyContext context t)

/-- The things of a new renderer have areas if and only if the surface had one. -/
theorem spacious_iff_of_created {window : Window} {config : RendererConfig} {h h' : Host}
    {r : Renderer}
    (hSizes : SizesIn (fun size => h.gpu.capabilities.imageExtent window.extent = some size)
      h'.gpu.history)
    (hRun : start (create window config) h = some (.ok r, h')) :
    Spacious h'.gpu.history ↔ h.gpu.capabilities.isMinimized window.extent = some false := by
  rw [SurfaceCapabilities.isMinimized, Option.map_eq_some_iff]
  constructor
  · intro hSpacious
    have hScreened := (ensures_create_screened window config h).of_ok hRun
    obtain ⟨chain, hMade, -⟩ := hScreened.swapchain.chain
    exact ⟨chain.extent, hSizes.of_made hMade rfl, hSpacious _ _ _ hMade rfl⟩
  · rintro ⟨size, hSize, hArea⟩
    refine spacious_of_sizesIn (hSizes.mono fun size' hSize' => ?_)
    cases hSize.symm.trans hSize'
    exact hArea

/-- **What there is has an area if and only if the surface had one at the setup.** Whatever a setup
creates has the size that surface and window decide on, and is not asked for an area. All later
calls create only what has one, and a rebuild for which there is none leaves everything as it
is. -/
theorem spacious_iff_of_create {window : Window} {config : RendererConfig} {h h' : Host}
    {a : Except RenderError Renderer} (hNew : h.gpu.IsNew)
    (hRun : start (create window config) h = some (a, h')) :
    SizesIn (fun size => h.gpu.capabilities.imageExtent window.extent = some size)
        h'.gpu.history ∧
      ∀ r, a = .ok r → ∀ {allowed} s, Leads allowed (r, h') s →
        (Spacious s.2.gpu.history ↔
          h.gpu.capabilities.isMinimized window.extent = some false) ∧
        ∀ request,
          (∀ t, Step s request t → ∃ later, t.2.gpu.history = later ++ s.2.gpu.history ∧
            SizesIn (fun size => size.isEmpty = false) later) ∧
          ∀ u, Rebuilds s request u → NoArea u →
            (∃ t, Step s request t) ∧ ∀ t, Step s request t → Deferred u t := by
  have hGoes : GoingAt (fun size => h.gpu.capabilities.imageExtent window.extent = some size)
      h h' := by
    have hCreate := ensures_create_at
      (P := fun size => h.gpu.capabilities.imageExtent window.extent = some size) config
      fun _ hSize => hSize
    cases a with
    | ok r => exact hCreate.of_ok hRun
    | error e => exact hCreate.of_error hRun
  have hSizes : SizesIn (fun size => h.gpu.capabilities.imageExtent window.extent = some size)
      h'.gpu.history := by
    obtain ⟨later, hHistory, hLater⟩ := hGoes.history
    -- a new device has no history but that of the setup
    have hAll : h'.gpu.history = later := by
      rw [← List.append_nil later, ← hNew.history]
      exact hHistory
    exact hAll ▸ hLater
  refine ⟨hSizes, ?_⟩
  rintro r rfl allowed s hLeads
  refine ⟨(spacious_iff_of_leads hLeads).trans (spacious_iff_of_created hSizes hRun), ?_⟩
  exact fun request => ⟨fun t hStep => hStep.sizes, fun u => deferred_of_rebuilds⟩

/-- A new device with a surface that has no area. -/
def sampleFlat : Host :=
  sampleHost.onGpu (Gpu.follow
    { capabilities := { current := ⟨0, 0⟩, minExtent := ⟨0, 0⟩, maxExtent := ⟨0, 0⟩ } })

/-- A renderer can be created for it. -/
theorem isSome_flat : (created? {} sampleConfig sampleFlat).isSome = true := by decide +kernel

/-- A new renderer for it. -/
def flat : Renderer × Host := (created? {} sampleConfig sampleFlat).get isSome_flat

/-- The creation of that renderer. -/
theorem start_flat : start (create {} sampleConfig) sampleFlat = some (.ok flat.1, flat.2) :=
  start_of_created (Option.some_get isSome_flat).symm

/-- The setup creates things without an area where there is none, while a resize of the same
renderer waits for one. -/
theorem not_spacious_of_flat :
    sampleFlat.gpu.IsNew ∧ start (create {} sampleConfig) sampleFlat = some (.ok flat.1, flat.2) ∧
      sampleFlat.gpu.capabilities.isMinimized ⟨640, 480⟩ = some true ∧
      ¬ Spacious flat.2.gpu.history ∧
      ∃ t, Step flat (.resize ⟨800, 600⟩) t ∧ t.1 = { flat.1 with window := ⟨800, 600⟩ } ∧
        t.2.gpu.history = flat.2.gpu.history := by
  have hNew : sampleFlat.gpu.IsNew := ⟨rfl, rfl, Nat.one_pos⟩
  have hMinimized : sampleFlat.gpu.capabilities.isMinimized ⟨640, 480⟩ = some true := by decide
  have hFrame : flat.1.frame = none := by decide +kernel
  have hSurface : flat.2.gpu.capabilities.isMinimized ⟨800, 600⟩ = some true := by decide +kernel
  have hRun := start_flat
  -- only these facts about the sample are needed from here on
  generalize flat = s at hFrame hSurface hRun ⊢
  obtain ⟨r, h'⟩ := s
  have hRebuilds : Rebuilds (r, h') (.resize ⟨800, 600⟩) ({ r with window := ⟨800, 600⟩ }, h') :=
    .resize hFrame
  obtain ⟨-, hLater⟩ := spacious_iff_of_create hNew hRun
  have hHere : Leads (fun _ _ _ => True) (r, h') (r, h') := .here
  obtain ⟨hIff, hCalls⟩ := hLater r rfl _ hHere
  obtain ⟨⟨t, hStep⟩, hDeferred⟩ := (hCalls _).2 _ hRebuilds (.inr hSurface)
  have hNot : ¬ Spacious h'.gpu.history := fun hSpacious =>
    nomatch hMinimized.symm.trans (hIff.mp hSpacious)
  exact ⟨hNew, hRun, hMinimized, hNot, t, hStep, (hDeferred t hStep).renderer,
    (hDeferred t hStep).history⟩

end Renderer

end RenderLoop
