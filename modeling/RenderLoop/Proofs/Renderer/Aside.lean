import RenderLoop.Proofs.Renderer.Calls

/-!
# RenderLoop — what leaves frames alone

Changing the pipeline state, reloading the program, storing data and setting the
matrices or the colour leave a renderer's frames alone (`Renderer.Aside`): the
recorder, swapchain, targets and frame stay, and the device passes by.
-/

namespace RenderLoop.Renderer

open GpuHistory Op

/-- What frames are made of stays as it is, and the device goes on in a way of its own. -/
structure BesideBy (R : Gpu → Gpu → Prop) (s t : Renderer × Host) : Prop where
  device : t.1.device = s.1.device
  recorder : t.1.machine.recorder = s.1.machine.recorder
  state : t.1.machine.state = s.1.machine.state
  swapchain : t.1.swapchain = s.1.swapchain
  targets : t.1.targets = s.1.targets
  frame : t.1.frame = s.1.frame
  goes : R s.2.gpu t.2.gpu

/-- The device goes on in a way that its history does. -/
abbrev Beside (H : GpuHistory → GpuHistory → Prop) :
    Renderer × Host → Renderer × Host → Prop :=
  BesideBy (Gpu.Goes H)

/-- What frames are made of stays as it is, and the device passes by. -/
abbrev Aside : Renderer × Host → Renderer × Host → Prop := Beside GpuHistory.Passes

section Beside

variable {R R' : Gpu → Gpu → Prop} {s t u : Renderer × Host}

/-- The device may go on in a wider way. -/
theorem BesideBy.mono (h : BesideBy R s t) (hR : ∀ {g g'}, R g g' → R' g g') : BesideBy R' s t where
  device := h.device
  recorder := h.recorder
  state := h.state
  swapchain := h.swapchain
  targets := h.targets
  frame := h.frame
  goes := hR h.goes

/-- The device goes on by itself. -/
theorem beside_of_goes {r : Renderer} {h h' : Host} (hGoes : R h.gpu h'.gpu) :
    BesideBy R (r, h) (r, h') where
  device := rfl
  recorder := rfl
  state := rfl
  swapchain := rfl
  targets := rfl
  frame := rfl
  goes := hGoes

/-- What happens beside frames does so in steps. -/
theorem BesideBy.trans [hR : Gpu.Passage R] (h : BesideBy R s t) (h' : BesideBy R t u) :
    BesideBy R s u where
  device := h'.device.trans h.device
  recorder := h'.recorder.trans h.recorder
  state := h'.state.trans h.state
  swapchain := h'.swapchain.trans h.swapchain
  targets := h'.targets.trans h.targets
  frame := h'.frame.trans h.frame
  goes := hR.trans h.goes h'.goes

instance [hR : Gpu.Passage R] : Steady (BesideBy R) where
  refl _ := beside_of_goes (hR.refl _)
  trans := .trans
  push _ _ := beside_of_goes (hR.refl _)

end Beside

/-- What happens aside does so in steps. -/
theorem Aside.trans {s t u : Renderer × Host} (h : Aside s t) (h' : Aside t u) : Aside s u :=
  BesideBy.trans h h'

/-- The device passes by. -/
theorem Aside.passes {s t : Renderer × Host} (h : Aside s t) : s.2.gpu.Passes t.2.gpu := h.goes

/-- What changes beside frames. -/
theorem aside_of_passes {s t : Renderer × Host} (hPasses : s.2.gpu.Passes t.2.gpu)
    (hDevice : t.1.device = s.1.device := by rfl)
    (hMachine : t.1.machine.recorder = s.1.machine.recorder ∧
      t.1.machine.state = s.1.machine.state := by exact ⟨rfl, rfl⟩)
    (hScreen : t.1.swapchain = s.1.swapchain ∧ t.1.targets = s.1.targets := by exact ⟨rfl, rfl⟩)
    (hFrame : t.1.frame = s.1.frame := by rfl) : Aside s t :=
  ⟨hDevice, hMachine.1, hMachine.2, hScreen.1, hScreen.2, hFrame, hPasses⟩

variable {α : Type} {R : Gpu → Gpu → Prop}

/-- Frames are left alone by what is done with the host. -/
theorem aside_onHost {op : Op Host α} (hOp : op.Within (Along R)) :
    (op.onHost : Action α).Within (BesideBy R) := by
  intro s
  rw [Op.onHost, ensures_onSecond]
  exact (hOp s.2).mono (fun _ _ h => beside_of_goes h) fun _ _ h => beside_of_goes h

/-- Frames are left alone by what is done with the frame buffer. -/
theorem aside_onMemory {op : Op (FrameMemory × Host) α} (hOp : op.Within (Along R)) :
    (onMemory op).Within (BesideBy R) :=
  hOp.on fun _ _ h => ⟨rfl, rfl, rfl, rfl, rfl, rfl, h⟩

/-- Frames are left alone by what is done with the program. -/
theorem aside_onProgram {op : Op (Program × Host) α} (hOp : op.Within (Along R)) :
    (onProgram op).Within (BesideBy R) :=
  hOp.on fun _ _ h => ⟨rfl, rfl, rfl, rfl, rfl, rfl, h⟩

/-- Frames are left alone by what is done with the shader modules. -/
theorem aside_onModules {op : Op (ShaderModules × Host) α} (hOp : op.Within (Along R)) :
    (onModules op).Within (BesideBy R) :=
  hOp.on fun _ _ h => ⟨rfl, rfl, rfl, rfl, rfl, rfl, h⟩

/-- Frames are left alone by what is done with the descriptors. -/
theorem aside_onDescriptors {op : Op (Descriptors × Host) α} (hOp : op.Within (Along R)) :
    (onDescriptors op).Within (BesideBy R) :=
  hOp.on fun _ _ h => ⟨rfl, rfl, rfl, rfl, rfl, rfl, h⟩

/-- Frames are left alone by what is done with the pipelines. -/
theorem aside_onPipelines {op : Op (Pipelines × Host) α} (hOp : op.Within (Along R)) :
    (onPipelines op).Within (BesideBy R) :=
  hOp.on fun _ _ h => ⟨rfl, rfl, rfl, rfl, rfl, rfl, h⟩

/-- What is set beside frames. -/
theorem aside_set [hR : Gpu.Passage R] {f : Renderer → Renderer}
    (h : ∀ r, (f r).device = r.device ∧ (f r).machine.recorder = r.machine.recorder ∧
      (f r).machine.state = r.machine.state ∧ (f r).swapchain = r.swapchain ∧
      (f r).targets = r.targets ∧ (f r).frame = r.frame := by
        exact fun _ => ⟨rfl, rfl, rfl, rfl, rfl, rfl⟩) : (set f).Within (BesideBy R) := by
  refine within_change fun s => ?_
  obtain ⟨hDevice, hRecorder, hState, hSwapchain, hTargets, hFrame⟩ := h s.1
  exact ⟨hDevice, hRecorder, hState, hSwapchain, hTargets, hFrame, hR.refl s.2.gpu⟩

-- ---------------------------------------------------------------------------
-- Pipelines and the program
-- ---------------------------------------------------------------------------

section Plain

variable [hR : Gpu.Plain R]

/-- Building pipelines leaves frames alone. -/
theorem aside_buildPipelines : buildPipelines.Within (BesideBy R) := by
  refine within_get.bind fun _ => ?_
  exact aside_onPipelines (Pipelines.within_buildPair _ _)

/-- Building pipelines anew leaves frames alone. -/
theorem aside_rebuildPipelines : rebuildPipelines.Within (BesideBy R) := by
  refine within_get.bind fun _ => ?_
  exact aside_onPipelines (Pipelines.within_rebuildPair _ _)

/-- Setting another state leaves frames alone. -/
theorem aside_setPipelineState (state : PipelineState) :
    (setPipelineState state).Within (BesideBy R) := by
  refine (within_requireNoFrame _).bind fun _ => ?_
  refine within_get.bind fun s => ?_
  refine within_ite ?_ (within_pure ())
  exact (aside_set).bind fun _ => aside_buildPipelines

/-- Compiling leaves frames alone. -/
theorem aside_compile : (onProgram (Program.compile tools)).Within (BesideBy R) :=
  aside_onProgram (Program.within_compile Program.toolsPass_spirv)

/-- Waiting for the device leaves frames alone. -/
theorem aside_waitIdle : (GpuContext.waitIdle.onHost : Action Unit).Within (BesideBy R) :=
  aside_onHost GpuContext.within_waitIdle

/-- Making all for a program again leaves frames alone. -/
theorem aside_remakeProgram : remakeProgram.Within (BesideBy R) := by
  refine aside_waitIdle.bind fun _ => ?_
  refine (aside_set).bind fun _ => ?_
  refine within_get.bind fun _ => ?_
  refine (aside_onModules (ShaderModules.within_sync _)).bind fun _ => ?_
  refine within_get.bind fun _ => ?_
  refine (aside_onDescriptors (Descriptors.within_rebuild _ _)).bind fun _ => ?_
  exact aside_rebuildPipelines

/-- A reload, which consists of these, leaves frames alone. -/
theorem aside_reloadShaders : reloadShaders.Within (BesideBy R) := by
  refine (within_requireNoFrame _).bind fun _ => ?_
  refine aside_compile.bind fun report => ?_
  refine within_ite ?_ ((within_log _).bind fun _ => within_pure _)
  refine aside_remakeProgram.bind fun _ => ?_
  refine within_get.bind fun _ => ?_
  refine (within_log _).bind fun _ => ?_
  exact within_pure _

/-- Whether a request is none about frames or their screen, and leaves the script alone. -/
def Request.isAside : Request → Bool
  | .beginFrame | .draw _ _ | .endFrame | .resize _ | .follow _ => false
  | _ => true

/-- A request that is aside leaves frames alone. -/
theorem aside_serve {c : Request} (hAside : c.isAside = true) : (serve c).Within (BesideBy R) := by
  cases c with
  | setPipelineState state => exact aside_setPipelineState state
  | reloadShaders => exact aside_reloadShaders.bind fun _ => within_pure ()
  | setMatrices matrices => exact aside_set
  | setClearColor color => exact aside_set
  | waitIdle => exact aside_waitIdle
  | edit files => exact within_change fun s => beside_of_goes (hR.refl s.2.gpu)
  | _ => cases hAside

end Plain

/-- Where there is nothing to render to, nothing happens. -/
theorem aside_hasNoArea [Gpu.Silent R] : hasNoArea.Within (BesideBy R) := by
  refine within_get.bind fun _ => ?_
  exact within_ite (within_pure true) (aside_onHost (Swapchain.within_isMinimized _))

end RenderLoop.Renderer
