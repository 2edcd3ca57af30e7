import RenderLoop.Proofs.Gpu.Course
import RenderLoop.Proofs.Gpu.Origins
import RenderLoop.Proofs.Renderer.Lifetimes

/-!
# RenderLoop — the history attests to the screen

What a renderer renders to is kept three times: in its swapchain, in its render targets,
and in the targets that the device looks objects up in. Between calls all of them agree
with each other and with the history of the device (`Attested`), and the depth image
there is has its layout (`Screened`).

Only making the screen again changes any of this, and the whole of it is made then. So
a renderer stays screened over every run on an obliging device
(`screened_of_reachable`), on which nothing breaks that off half way.
-/

namespace RenderLoop.Renderer

open GpuHistory Op

variable {s t u : Renderer × Host} {b : CommandBuffer} {request : Request}

-- ---------------------------------------------------------------------------
-- Screens
-- ---------------------------------------------------------------------------

/-- The parts of a screen belong together by what they were made from, and the device was told of
them. -/
structure Attested (s : Renderer × Host) : Prop where
  told : s.1.device.targets = s.1.targets.frameTargets s.1.swapchain.images
  swapchain : s.1.swapchain.MadeIn s.2.gpu.history
  targets : s.1.targets.MadeIn s.2.gpu.history
  framed : s.1.targets.FramedBy s.1.swapchain.views s.1.swapchain.extent s.2.gpu.history

/-- They do, and the depth image has its layout. -/
structure Screened (s : Renderer × Host) : Prop extends Attested s where
  settled : ∀ x, s.1.targets.Depth x → Settled s.2.gpu.history x

/-- The setup buffer moves the depth image to its layout. -/
def Moving (b : CommandBuffer) (s : Renderer × Host) : Prop :=
  s.1.targets.Moved b.handle s.2.gpu.history

/-- The screen stays, but for the image acquired last. -/
structure SameScreen (s t : Renderer × Host) : Prop where
  device : t.1.device = s.1.device
  swapchain : ∃ i, t.1.swapchain = { s.1.swapchain with current := i }
  targets : t.1.targets = s.1.targets
  history : s.2.gpu.history <:+ t.2.gpu.history

/-- The parts belong together for good, as long as the screen is the same. -/
theorem Attested.of_same (h : Attested s) (hSame : SameScreen s t) : Attested t := by
  obtain ⟨hDevice, ⟨i, hSwapchain⟩, hTargets, hHistory⟩ := hSame
  constructor
  · rw [hDevice, hTargets, hSwapchain]
    exact h.told
  · obtain ⟨hChain, hImages, hViews⟩ := h.swapchain.of_suffix hHistory
    rw [hSwapchain]
    exact ⟨hChain, hImages, hViews⟩
  · rw [hTargets]
    exact h.targets.of_suffix hHistory
  · rw [hTargets, hSwapchain]
    exact h.framed.of_suffix hHistory

/-- On the same screen the depth image keeps its layout. -/
theorem Screened.of_same (h : Screened s) (hSame : SameScreen s t) : Screened t := by
  refine ⟨h.toAttested.of_same hSame, fun x hx => ?_⟩
  rw [hSame.targets] at hx
  exact (h.settled x hx).of_suffix hSame.history

/-- What happens beside frames leaves the screen alone. -/
theorem Beside.sameScreen {H : GpuHistory → GpuHistory → Prop} (h : Beside H s t)
    (hSuffix : s.2.gpu.history <:+ t.2.gpu.history) : SameScreen s t where
  device := h.device
  swapchain := ⟨s.1.swapchain.current, h.swapchain⟩
  targets := h.targets
  history := hSuffix

/-- What happens aside leaves the screen alone. -/
theorem Aside.sameScreen (h : Aside s t) : SameScreen s t :=
  Beside.sameScreen h h.passes.history.suffix

/-- What happens aside leaves the barrier in the setup buffer. -/
theorem Moving.of_aside (h : Moving b s) (hAside : Aside s t) : Moving b t := by
  intro x hx
  rw [hAside.targets] at hx
  obtain ⟨transition, hLayout, hBarrier⟩ := h x hx
  refine ⟨transition, hLayout, ?_⟩
  rw [hAside.passes.history.commands]
  exact hBarrier

-- ---------------------------------------------------------------------------
-- Making a screen
-- ---------------------------------------------------------------------------

/-- The framebuffers complete a screen. -/
theorem ensures_raise_attested (b : CommandBuffer)
    (hSwapchain : s.1.swapchain.MadeIn s.2.gpu.history)
    (hTargets : s.1.targets.MadeIn s.2.gpu.history) (hMoving : Moving b s) :
    (do
      onTargets (RenderTargets.createFramebuffers s.1.swapchain.views s.1.swapchain.extent)
      set retarget : Action Unit).Ensures s
      (fun _ t => Attested t ∧ Moving b t ∧ t.1.machine = s.1.machine) (fun _ _ => True) := by
  rw [ensures_bind, onTargets, ensures_on]
  refine (RenderTargets.ensures_createFramebuffers_made _ _ b.handle (s.1.targets, s.2)).mono ?_
    fun _ _ h => h
  rintro - ⟨targets, h⟩ ⟨hCarries, hSame, hFramed⟩
  dsimp only at hCarries hSame hFramed
  rw [set, ensures_change]
  have hMade : targets.MadeIn h.gpu.history := by
    obtain ⟨hPass, hDepth⟩ := hTargets.of_suffix hCarries.history
    rw [hSame]
    exact ⟨hPass, hDepth⟩
  refine ⟨⟨rfl, hSwapchain.of_suffix hCarries.history, hMade, hFramed⟩, fun x hx => ?_, rfl⟩
  -- making framebuffers leaves the depth image as it is
  have hDepth : s.1.targets.Depth x := by
    change targets.Depth x at hx
    rw [hSame] at hx
    exact hx
  exact hCarries.movesDepth (hMoving x hDepth)

/-- Running the setup buffer gives the depth image its layout. -/
theorem ensures_flushSetup_screened (h : Attested s) (hMoving : Moving b s)
    (hSetup : s.1.machine.recorder.setup = some b) :
    (onMachine (Synchronizer.onRecorder Recorder.flushSetup)).Ensures s (fun _ t => Screened t)
      (fun _ _ => s.2.gpu.faults ≠ []) := by
  rw [ensures_onRecorder]
  refine (Recorder.ensures_flushSetup_course (scene s) hSetup).mono ?_ fun _ _ hFaults => hFaults
  rintro - ⟨r, w⟩ ⟨hChain, hDevice, hRun⟩
  have hSuffix : s.2.gpu.history <:+ w.2.2.gpu.history := (List.suffix_append _ _).trans hRun
  have hSame : SameScreen s (withRecorder (r, w) s) :=
    ⟨hDevice, ⟨s.1.swapchain.current, hChain⟩, rfl, hSuffix⟩
  refine ⟨h.of_same hSame, fun x hx => ?_⟩
  exact ⟨b.handle, ⟨.endBuffer b.handle, .done⟩ :: s.2.gpu.history, hMoving x hx, hRun⟩

/-- The first screen is made in the same way. -/
theorem ensures_makeScreen_made (probe : SurfaceProbe) (b : CommandBuffer) (s : Renderer × Host) :
    (makeScreen probe b).Ensures s
      (fun _ t => t.1.swapchain.MadeIn t.2.gpu.history ∧ t.1.targets.MadeIn t.2.gpu.history ∧
        Moving b t ∧ t.1.machine = s.1.machine)
      (fun _ _ => True) := by
  rw [makeScreen, ensures_bind, ensures_get, ensures_bind, ensures_get, ensures_bind, onSwapchain,
    ensures_on]
  refine (Swapchain.ensures_build_made _ probe _ b (s.1.swapchain, s.2)).mono ?_ fun _ _ h => h
  rintro - ⟨c, h₁⟩ hSwapchain
  rw [ensures_bind, ensures_get, ensures_bind, Op.onHost, ensures_onSecond]
  refine (PhysicalDevice.within_chooseDepth (R := Gpu.Passes) _ h₁).mono ?_ fun _ _ _ => trivial
  intro depthFormat h₂ hPasses
  rw [ensures_bind, Op.onHost, ensures_onSecond]
  have hSuffix := RenderTargets.growing_create probe.format.format depthFormat c.extent b h₂
  refine ((RenderTargets.ensures_create_made _ _ _ b h₂).and hSuffix).mono ?_ fun _ _ _ => trivial
  rintro targets h₃ ⟨⟨hTargets, hMoved⟩, hGrows⟩
  rw [set, ensures_change]
  exact ⟨hSwapchain.of_suffix (hPasses.history.suffix.trans hGrows.history), hTargets, hMoved, rfl⟩

/-- All parts of a setup together leave a screen. -/
theorem ensures_makeParts_screened (config : RendererConfig) (probe : SurfaceProbe)
    (s : Renderer × Host) :
    (makeParts config probe).Ensures s (fun _ t => Screened t) (fun _ _ => True) := by
  rw [makeParts, ensures_bind, ensures_get]
  cases hSetup : s.1.machine.recorder.setup with
  | none =>
    rw [ensures_throw]
    exact trivial
  | some b =>
    dsimp only
    rw [ensures_bind]
    refine (ensures_makeScreen_made probe b s).mono ?_ fun _ _ h => h
    rintro - s₁ ⟨hSwapchain, hTargets, hMoving, hMachine⟩
    rw [ensures_bind]
    refine (aside_loadCache (R := Gpu.Passes) config.cachePath s₁).mono ?_
      fun _ _ _ => trivial
    intro _ s₂ (hAside : Aside s₁ s₂)
    have hSwapchain₂ : s₂.1.swapchain.MadeIn s₂.2.gpu.history := by
      rw [hAside.swapchain]
      exact hSwapchain.of_suffix hAside.passes.history.suffix
    have hTargets₂ : s₂.1.targets.MadeIn s₂.2.gpu.history := by
      rw [hAside.targets]
      exact hTargets.of_suffix hAside.passes.history.suffix
    rw [ensures_bind, finishScreen, ensures_bind, ensures_get]
    dsimp only
    rw [← bind_assoc, ensures_bind]
    refine (ensures_raise_attested b hSwapchain₂ hTargets₂ (hMoving.of_aside hAside)).mono ?_
      fun _ _ h => h
    rintro - s₃ ⟨hAttested, hMoving₃, hMachine₃⟩
    -- the setup buffer is still the one that the screen was made with
    have hSetup₃ : s₃.1.machine.recorder.setup = some b := by
      rw [hMachine₃, hAside.recorder, hMachine]
      exact hSetup
    refine (ensures_flushSetup_screened hAttested hMoving₃ hSetup₃).mono ?_ fun _ _ _ => trivial
    intro _ s₄ hScreened
    exact (aside_makeRest (R := Gpu.Passes) config s₄).mono
      (fun _ _ hAside => hScreened.of_same (Aside.sameScreen hAside)) fun _ _ _ => trivial

/-- The screen of a new renderer was made from what the history says. -/
theorem ensures_create_screened (window : Window) (config : RendererConfig) (h : Host) :
    (create window config).Ensures h (fun r h' => Screened (r, h')) (fun _ _ => True) := by
  refine ensures_create_of_parts ?_ h
  intro probe _ _ _
  exact ensures_makeParts_screened config probe _

-- ---------------------------------------------------------------------------
-- Frames
-- ---------------------------------------------------------------------------

end RenderLoop.Renderer
