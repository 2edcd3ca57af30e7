import RenderLoop.Proofs.Gpu.Growth
import RenderLoop.Proofs.Renderer.Calls

/-!
# RenderLoop — work on the screen

Swapchain, targets and frames are worked on without a look at the program: what the
renderer has of that stays as it is, and so does the frame buffer
(`Renderer.ScreenWork`). A rebuild is such work up to the pipelines, which it builds
anew at its end (`Renderer.rebuild_eq`).

So a relation that such work and the building of pipelines keep to is kept to by all
calls but drawing and reloading (`Renderer.Working`).
-/

namespace RenderLoop.Renderer

open Op

/-- The program and the frame buffer stay as they are, and the device grows. -/
structure ScreenWork (s t : Renderer × Host) : Prop where
  memory : t.1.memory = s.1.memory
  program : t.1.program = s.1.program
  modules : t.1.modules = s.1.modules
  descriptors : t.1.descriptors = s.1.descriptors
  pipelines : t.1.pipelines = s.1.pipelines
  grows : s.2.gpu.Grows t.2.gpu

variable {s t : Renderer × Host} {α : Type}

/-- The device grows by itself. -/
theorem screenWork_of_grows {r : Renderer} {h h' : Host} (hGrows : h.gpu.Grows h'.gpu) :
    ScreenWork (r, h) (r, h') where
  memory := rfl
  program := rfl
  modules := rfl
  descriptors := rfl
  pipelines := rfl
  grows := hGrows

instance : Steady ScreenWork where
  refl _ := screenWork_of_grows (.refl _)
  trans h h' := ⟨h'.memory.trans h.memory, h'.program.trans h.program, h'.modules.trans h.modules,
    h'.descriptors.trans h.descriptors, h'.pipelines.trans h.pipelines, h.grows.trans h'.grows⟩
  push _ _ := screenWork_of_grows (.refl _)

-- ---------------------------------------------------------------------------
-- Parts
-- ---------------------------------------------------------------------------

/-- Settings of frames and the window are no matter of the program. -/
theorem screenWork_set {f : Renderer → Renderer}
    (h : ∀ r h, ScreenWork (r, h) (f r, h) := by
      exact fun _ _ => ⟨rfl, rfl, rfl, rfl, rfl, .refl _⟩) :
    (set f).Within ScreenWork :=
  within_change fun s => h s.1 s.2

/-- What is done with the host is work on the screen. -/
theorem screenWork_onHost {op : Op Host α} (hOp : op.Within Growing) :
    (op.onHost : Action α).Within ScreenWork := by
  intro s
  rw [Op.onHost, ensures_onSecond]
  exact (hOp s.2).mono (fun _ _ h => screenWork_of_grows h) fun _ _ h => screenWork_of_grows h

/-- What is done with the swapchain is work on the screen. -/
theorem screenWork_onSwapchain {op : Op (Swapchain × Host) α} (hOp : op.Within Growing) :
    (onSwapchain op).Within ScreenWork :=
  hOp.on fun _ _ h => ⟨rfl, rfl, rfl, rfl, rfl, h⟩

/-- What is done with the render targets is work on the screen. -/
theorem screenWork_onTargets {op : Op (RenderTargets × Host) α} (hOp : op.Within Growing) :
    (onTargets op).Within ScreenWork :=
  hOp.on fun _ _ h => ⟨rfl, rfl, rfl, rfl, rfl, h⟩

/-- What is done with the frame machine is work on the screen. -/
theorem screenWork_onMachine {op : Op Machinery α} (hOp : op.Within (Beyond Growing)) :
    (onMachine op).Within ScreenWork :=
  hOp.on fun _ _ h => ⟨rfl, rfl, rfl, rfl, rfl, h⟩

-- ---------------------------------------------------------------------------
-- Frames
-- ---------------------------------------------------------------------------

/-- Beginning a frame on the machine is work on the screen. -/
theorem screenWork_beginMachine (extent : Extent) :
    (onMachine (Synchronizer.beginFrame extent)).Within ScreenWork :=
  screenWork_onMachine (Synchronizer.beyond_beginFrame extent)

/-- Ending a frame on the machine is work on the screen. -/
theorem screenWork_endMachine (f : Frame) :
    (onMachine (Synchronizer.endFrame f)).Within ScreenWork :=
  screenWork_onMachine (Synchronizer.beyond_endFrame f)

-- ---------------------------------------------------------------------------
-- Rebuilds
-- ---------------------------------------------------------------------------

/-- Asking for the area is work on the screen. -/
theorem screenWork_hasNoArea : hasNoArea.Within ScreenWork := by
  refine within_get.bind fun _ => ?_
  exact within_ite (within_pure true) (screenWork_onHost (Swapchain.within_isMinimized _))

/-- Making swapchain and targets again is work on the screen. -/
theorem screenWork_remakeScreen (setup : CommandBuffer) :
    (remakeScreen setup).Within ScreenWork := by
  refine within_get.bind fun _ => ?_
  refine (screenWork_onSwapchain (Swapchain.growing_recreate _ _ _)).bind fun _ => ?_
  refine within_get.bind fun _ => ?_
  refine (screenWork_onTargets (RenderTargets.growing_recreate _ _ _)).bind fun _ => ?_
  refine (screenWork_onTargets (RenderTargets.growing_createFramebuffers _ _)).bind fun _ => ?_
  exact screenWork_set

/-- The part of a rebuild that makes the screen again. -/
def remakeAll : Action Unit := do
  GpuContext.waitIdle.onHost
  let setup ← onMachine (Synchronizer.onRecorder Recorder.beginSetup)
  remakeScreen setup
  onMachine (Synchronizer.onRecorder Recorder.flushSetup)

/-- All of a rebuild between the begin and the flush of the setup buffer is work on the screen. -/
theorem screenWork_remakeAll : remakeAll.Within ScreenWork := by
  refine (screenWork_onHost GpuContext.within_waitIdle).bind fun _ => ?_
  refine (screenWork_onMachine (Synchronizer.beyond_onRecorder Recorder.beyond_beginSetup)).bind
    fun _ => ?_
  refine (screenWork_remakeScreen _).bind fun _ => ?_
  exact screenWork_onMachine (Synchronizer.beyond_onRecorder Recorder.beyond_flushSetup)

/-- A rebuild makes the screen again, and then the pipelines. -/
theorem rebuild_eq : rebuild = (do
    if ← hasNoArea then Op.log deferredEntry
    else
      remakeAll
      rebuildPipelines
      Op.log (resizedEntry (← get).1.extent)) := by
  simp only [rebuild, remakeAll, bind_assoc]

-- ---------------------------------------------------------------------------
-- Calls
-- ---------------------------------------------------------------------------

/-- Relations that calls keep to, since they keep to them with all that calls are made of. -/
class Serving (R : Renderer × Host → Renderer × Host → Prop) : Prop extends Steady R where
  /-- What is noted of frames, the window and the way of drawing. -/
  note : ∀ {r r' h}, ScreenWork (r, h) (r', h) → R (r, h) (r', h)
  /-- A new frame takes the frame buffer back. -/
  reset : ∀ r h, R (r, h) ({ r with memory := r.memory.reset }, h)
  edit : ∀ r h files, R (r, h) (r, { h with files })
  waitIdle : (GpuContext.waitIdle.onHost : Action Unit).Within R
  beginMachine : ∀ extent, (onMachine (Synchronizer.beginFrame extent)).Within R
  endMachine : ∀ f, (onMachine (Synchronizer.endFrame f)).Within R
  buildPipelines : buildPipelines.Within R
  rebuild : rebuild.Within R

section Serving

variable {R : Renderer × Host → Renderer × Host → Prop} [hR : Serving R] {c : Request}

/-- Noting something keeps to any such relation. -/
theorem within_note {f : Renderer → Renderer}
    (h : ∀ r h, ScreenWork (r, h) (f r, h) := by
      exact fun _ _ => ⟨rfl, rfl, rfl, rfl, rfl, .refl _⟩) : (set f).Within R :=
  within_change fun s => hR.note (h s.1 s.2)

/-- Changing the state to draw with keeps to any such relation. -/
theorem within_setPipelineState (state : PipelineState) : (setPipelineState state).Within R := by
  refine (within_requireNoFrame _).bind fun _ => ?_
  refine within_get.bind fun _ => ?_
  exact within_ite ((within_note).bind fun _ => hR.buildPipelines) (within_pure ())

/-- Taking the frame buffer back keeps to any such relation. -/
theorem within_reset : (set fun r => { r with memory := r.memory.reset }).Within R :=
  within_change fun s => hR.reset s.1 s.2

/-- Beginning a frame keeps to any such relation, with a rebuild if the swapchain is out of date. -/
theorem within_beginFrame : beginFrame.Within R := by
  refine within_reset.bind fun _ => ?_
  refine within_get.bind fun _ => ?_
  refine (hR.beginMachine _).attempt.bind fun r => ?_
  split
  · exact within_note
  · exact hR.rebuild.bind fun _ => within_throw _
  · exact within_throw _

/-- Ending a frame keeps to any such relation, with a rebuild as well. -/
theorem within_endFrame : endFrame.Within R := by
  refine (within_currentFrame _).bind fun _ => ?_
  refine (within_note).bind fun _ => ?_
  refine (hR.endMachine _).attempt.bind fun r => ?_
  split
  · exact within_pure ()
  · exact (within_log _).bind fun _ => hR.rebuild
  · exact within_throw _

/-- Following the window keeps to any such relation. -/
theorem within_resize (window : Extent) : (resize window).Within R := by
  refine (within_requireNoFrame _).bind fun _ => ?_
  refine (within_note).bind fun _ => ?_
  exact hR.rebuild

/-- Whatever is called, given draws and reloads. What changes outside has to be given as well. -/
theorem within_serve_of_parts (hDraw : ∀ mesh mode, c = .draw mesh mode → (serve c).Within R)
    (hReload : c = .reloadShaders → (serve c).Within R)
    (hFollow : ∀ script, c = .follow script → (serve c).Within R) : (serve c).Within R := by
  cases c with
  | beginFrame => exact within_beginFrame
  | draw mesh mode => exact hDraw mesh mode rfl
  | endFrame => exact within_endFrame
  | resize window => exact within_resize window
  | setPipelineState state => exact within_setPipelineState state
  | reloadShaders => exact hReload rfl
  | setMatrices matrices => exact within_note
  | setClearColor color => exact within_note
  | waitIdle => exact hR.waitIdle
  | follow script => exact hFollow script rfl
  | edit files => exact within_change fun s => hR.edit s.1 s.2 files

end Serving

/-- Relations that calls keep to if they neither draw nor reload the program. -/
class Working (R : Renderer × Host → Renderer × Host → Prop) : Prop extends Steady R where
  screen : ∀ {s t}, ScreenWork s t → R s t
  /-- A new frame takes the frame buffer back. -/
  reset : ∀ r h, R (r, h) ({ r with memory := r.memory.reset }, h)
  buildPipelines : buildPipelines.Within R
  rebuildPipelines : rebuildPipelines.Within R

section Working

variable {R : Renderer × Host → Renderer × Host → Prop} [hR : Working R] {c : Request}

/-- Work on the screen keeps to any relation of this kind. -/
theorem within_of_screenWork {op : Action α} (hOp : op.Within ScreenWork) : op.Within R :=
  hOp.mono fun _ _ h => hR.screen h

/-- A rebuild with the pipelines at its end keeps to any relation of this kind. -/
theorem within_rebuild : rebuild.Within R := by
  rw [rebuild_eq]
  refine (within_of_screenWork screenWork_hasNoArea).bind fun _ => within_ite (within_log _) ?_
  refine (within_of_screenWork screenWork_remakeAll).bind fun _ => ?_
  refine hR.rebuildPipelines.bind fun _ => ?_
  refine within_get.bind fun _ => ?_
  exact within_log _

instance : Serving R where
  note := hR.screen
  reset := hR.reset
  edit _ h _ := hR.screen (screenWork_of_grows (.refl h.gpu))
  waitIdle := within_of_screenWork (screenWork_onHost GpuContext.within_waitIdle)
  beginMachine extent := within_of_screenWork (screenWork_beginMachine extent)
  endMachine f := within_of_screenWork (screenWork_endMachine f)
  buildPipelines := hR.buildPipelines
  rebuild := within_rebuild

/-- A new script leaves history and memory as they are. -/
theorem grows_follow (script : GpuScript) (g : Gpu) : g.Grows (g.follow script) := by
  rw [Gpu.follow]
  split <;> exact Gpu.grows_of_same rfl rfl

/-- Whatever is called but a draw or a reload. -/
theorem within_serve (hDraw : ∀ mesh mode, c ≠ .draw mesh mode) (hReload : c ≠ .reloadShaders) :
    (serve c).Within R := by
  refine within_serve_of_parts (fun mesh mode h => absurd h (hDraw mesh mode))
    (fun h => absurd h hReload) ?_
  rintro script rfl
  exact within_change fun s => hR.screen (screenWork_of_grows (grows_follow script s.2.gpu))

end Working

end RenderLoop.Renderer
