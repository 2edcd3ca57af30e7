import RenderLoop.Proofs.Renderer.Remake
import RenderLoop.Renderer.Resize

/-!
# RenderLoop — rebuilds

A rebuild makes the screen again between the begin and the flush of the setup
buffer (`Rebuilt`), unless it breaks off; then it keeps the setup buffer with what
was recorded so far (`Broken`).

From a fit renderer at rest, a rebuild that gets through leads to a fit one
(`Rebuilt.fit`). From a broken one, it submits what was left in the setup buffer,
after it destroyed what that names (`Rebuilt.not_clean`).
-/

namespace RenderLoop.Renderer

open GpuHistory Op

variable {s t u : Renderer × Host} {b : CommandBuffer}

-- ---------------------------------------------------------------------------
-- Before the screen is made
-- ---------------------------------------------------------------------------

/-- The surface has an area for the window. -/
structure HasArea (s : Renderer × Host) : Prop where
  window : s.1.window.isEmpty = false
  surface : s.2.gpu.capabilities.isMinimized s.1.window = some false

/-- Nothing but a fault keeps from asking for the area. -/
theorem ensures_isMinimized (window : Extent) (h : Host) :
    (Swapchain.isMinimized window).Ensures h
      (fun minimized _ => h.gpu.capabilities.isMinimized window = some minimized)
      (fun _ _ => h.gpu.faults ≠ []) := by
  rw [Swapchain.isMinimized, ensures_bind]
  refine Host.ensures_invoke _ _ ?_ ?_
  · intro capabilities g hAsk
    obtain ⟨rfl, -⟩ := Gpu.ask_ok hAsk
    rw [ensures_ofOption]
    exact fun minimized hMinimized => hMinimized
  · intro code g hAsk e t _
    exact Gpu.faults_of_refusal (Gpu.ask_error hAsk).1

/-- Asking for the area changes nothing, and fails only if something hinders it. -/
theorem ensures_hasNoArea (s : Renderer × Host) :
    hasNoArea.Ensures s (fun empty t => Aside s t ∧ (empty = true → ¬ HasArea s))
      (fun _ t => Aside s t ∧ ¬ s.2.gpu.Obliging) := by
  have hArea : hasNoArea.Ensures s (fun empty _ => empty = true → ¬ HasArea s)
      (fun _ _ => ¬ s.2.gpu.Obliging) := by
    rw [hasNoArea, ensures_bind, ensures_get]
    refine ensures_ite (fun hEmpty => ?_) fun _ => ?_
    · -- an empty window is found without asking the surface
      rw [ensures_pure]
      intro _ hArea
      rw [hArea.window] at hEmpty
      cases hEmpty
    · rw [Op.onHost, ensures_onSecond]
      refine (ensures_isMinimized s.1.window s.2).mono ?_ ?_
      · rintro _ - hMinimized rfl hArea
        rw [hArea.surface] at hMinimized
        cases hMinimized
      · exact fun _ _ hFaults => Gpu.not_obliging_of_faults hFaults
  exact (aside_hasNoArea (R := Gpu.Passes) s).and hArea

/-- Waiting for the device changes nothing, and fails only if something hinders it. -/
theorem ensures_waitIdle (s : Renderer × Host) :
    (GpuContext.waitIdle.onHost : Action Unit).Ensures s (fun _ t => Aside s t)
      (fun _ t => Aside s t ∧ ¬ s.2.gpu.Obliging) := by
  have hWait : (GpuContext.waitIdle.onHost : Action Unit).Ensures s (fun _ _ => True)
      (fun _ _ => ¬ s.2.gpu.Obliging) := by
    rw [Op.onHost, ensures_onSecond]
    refine Host.ensures_invoke _ _ (fun _ _ _ => trivial) ?_
    intro code g hWait e t _
    exact Gpu.not_obliging_of_faults (Gpu.passes_refused (fun _ => rfl) hWait).2
  exact ((aside_waitIdle s).and hWait).mono (fun _ _ h => h.1)
    fun _ _ h => h

-- ---------------------------------------------------------------------------
-- The setup buffer
-- ---------------------------------------------------------------------------

/-- A renderer after an operation of its recorder. -/
def withRecorder (m : Recorder × Scene) (s : Renderer × Host) : Renderer × Host :=
  withMachinery ({ s.1.machine with recorder := m.1 }, m.2) s

/-- What the recorder ensures, the renderer does. -/
theorem ensures_onRecorder {α : Type} {op : Op (Recorder × Scene) α}
    {ok : α → Renderer × Host → Prop} {fail : RenderError → Renderer × Host → Prop} :
    (onMachine (Synchronizer.onRecorder op)).Ensures s ok fail ↔
      op.Ensures (s.1.machine.recorder, scene s) (fun a m => ok a (withRecorder m s))
        (fun e m => fail e (withRecorder m s)) := by
  rw [onMachine, Synchronizer.onRecorder, ensures_on, ensures_on]
  exact Iff.rfl

/-- There is a setup buffer, the one from before or a new one without commands. -/
structure Prepared (b : CommandBuffer) (s t : Renderer × Host) : Prop where
  recorder : t.1.machine.recorder = { s.1.machine.recorder with setup := some b }
  state : t.1.machine.state = s.1.machine.state
  frame : t.1.frame = s.1.frame
  swapchain : t.1.swapchain = s.1.swapchain
  targets : t.1.targets = s.1.targets
  tidy : Tidy t
  risks : Gpu.Risks True s.1.machine.recorder.IsSetup s.2.gpu t.2.gpu
  setup : s.1.machine.recorder.setup = some b ∨
    s.1.machine.recorder.setup = none ∧ commands b.handle t.2.gpu.history = []

/-- A renderer with another setup buffer is as tidy as before. -/
theorem tidy_of_prepared (hTidy : Tidy s) (hSpares : s.2.gpu.Spares t.2.gpu)
    (hApart : t.1.machine.recorder.Apart t.2.gpu.nextHandle)
    (hSwapchain : t.1.swapchain = s.1.swapchain) (hTargets : t.1.targets = s.1.targets) :
    Tidy t := by
  refine ⟨hTidy.orderly.of_spares hSpares, hApart, ?_, ?_⟩
  · rw [hSwapchain]
    exact Nat.lt_of_lt_of_le hTidy.chain hSpares.nextHandle
  · rw [hTargets]
    exact hTidy.targets.mono hSpares.nextHandle

/-- A call on the renderer that left everything as it was. -/
structure Untouched (s t : Renderer × Host) : Prop extends Serves True s t where
  frame : t.1.frame = s.1.frame
  state : t.1.machine.state = s.1.machine.state

/-- What happens aside leaves a renderer untouched. -/
theorem Aside.untouched (h : Aside s t) (hTidy : Tidy s) : Untouched s t where
  toServes := h.serves hTidy
  frame := h.frame
  state := h.state

/-- A setup buffer is prepared, or the renderer is untouched. -/
theorem ensures_beginSetup_renderer (hTidy : Tidy s) :
    (onMachine (Synchronizer.onRecorder Recorder.beginSetup)).Ensures s
      (fun b t => Prepared b s t) (fun _ t => Untouched s t ∧ ¬ s.2.gpu.Obliging) := by
  rw [ensures_onRecorder]
  refine (Recorder.ensures_beginSetup_scene _ (scene s) hTidy.apart).mono ?_ ?_
  · rintro b ⟨r, w⟩ ⟨hRecorder, hServes, hApart, hSetup⟩
    refine ⟨hRecorder, rfl, rfl, hServes.chain, rfl, ?_, hServes.risks, hSetup⟩
    exact tidy_of_prepared hTidy hServes.risks.spares hApart hServes.chain rfl
  · rintro e ⟨r, w⟩ ⟨hRecorder, hServes, hFaults⟩
    dsimp only at hRecorder
    subst hRecorder
    refine ⟨⟨⟨fun _ hb => hb, ?_, id, ?_, ?_, hServes.device, rfl, hServes.risks⟩, rfl, rfl⟩,
      Gpu.not_obliging_of_faults hFaults⟩
    · exact hTidy.apart.mono hServes.risks.spares.nextHandle
    · exact (congrArg Swapchain.handle hServes.chain :)
    · exact (congrArg Swapchain.images hServes.chain :)

/-- The setup buffer was run, and it should have been submittable. -/
structure Finished (s t : Renderer × Host) : Prop extends
    Serves (∀ b ∈ s.1.machine.recorder.setup, Submittable s.2.gpu.history b.handle) s t where
  frame : t.1.frame = s.1.frame
  state : t.1.machine.state = s.1.machine.state
  none : t.1.machine.recorder.setup = none

/-- The setup buffer is run and given up in any case. -/
theorem ensures_flushSetup_renderer (hTidy : Tidy s) :
    (onMachine (Synchronizer.onRecorder Recorder.flushSetup)).Ensures s
      (fun _ t => Finished s t) (fun _ t => Finished s t) := by
  have hFinished : ∀ {r : Recorder} {w : Scene},
      r = { s.1.machine.recorder with setup := none } →
      Scene.Serves (∀ b ∈ s.1.machine.recorder.setup, Submittable s.2.gpu.history b.handle)
        s.1.machine.recorder.IsSetup (scene s) w → Finished s (withRecorder (r, w) s) := by
    rintro r w rfl hServes
    refine ⟨⟨nofun, ?_, id, ?_, ?_, hServes.device, rfl, hServes.risks⟩, rfl, rfl, rfl⟩
    · exact (hTidy.apart.mono hServes.risks.spares.nextHandle).withoutSetup
    · exact (congrArg Swapchain.handle hServes.chain :)
    · exact (congrArg Swapchain.images hServes.chain :)
  rw [ensures_onRecorder]
  exact (Recorder.ensures_flushSetup_scene _ _ _).mono
    (fun _ _ ⟨hRecorder, hServes⟩ => hFinished hRecorder hServes)
    fun _ _ ⟨hRecorder, hServes⟩ => hFinished hRecorder hServes

/-- What happens aside comes after the run. -/
theorem Finished.of_aside (h : Finished s t) (hAside : Aside t u) : Finished s u where
  setup b hb := by
    rw [hAside.recorder, h.none] at hb
    cases hb
  apart := by
    rw [hAside.recorder]
    exact h.apart.mono hAside.passes.nextHandle
  lost hState := hAside.state.trans (h.lost hState)
  handle := (congrArg Swapchain.handle hAside.swapchain).trans h.handle
  images := (congrArg Swapchain.images hAside.swapchain).trans h.images
  device := hAside.device.trans h.device
  targets := hAside.targets.trans h.targets
  risks := (h.risks.trans hAside.passes.risks).congr (iff_of_eq (and_true _))
  frame := hAside.frame.trans h.frame
  state := hAside.state.trans h.state
  none := (congrArg Recorder.setup hAside.recorder).trans h.none

/-- Where the setup buffer was run, the rest of a rebuild is aside. -/
theorem aside_concludeRebuild : (do
    rebuildPipelines
    Op.log (resizedEntry (← get).1.extent) : Action Unit).Within Aside := by
  refine aside_rebuildPipelines.bind fun _ => ?_
  refine within_get.bind fun _ => ?_
  exact within_log _

/-- What follows once the screen was made. -/
theorem ensures_finish (hTidy : Tidy s) :
    (do
      onMachine (Synchronizer.onRecorder Recorder.flushSetup)
      rebuildPipelines
      Op.log (resizedEntry (← get).1.extent) : Action Unit).Ensures s
      (fun _ t => Finished s t) (fun _ t => Finished s t) := by
  rw [ensures_bind]
  refine (ensures_flushSetup_renderer hTidy).mono ?_ (fun _ _ h => h)
  intro _ t hFinished
  exact (aside_concludeRebuild t).mono (fun _ _ hAside => hFinished.of_aside hAside)
    fun _ _ hAside => hFinished.of_aside hAside

-- ---------------------------------------------------------------------------
-- Whole rebuilds
-- ---------------------------------------------------------------------------

/-- The screen was made again, and the setup buffer was run. -/
inductive Completed (s t : Renderer × Host) : Prop
  | intro {b : CommandBuffer} {r u : Renderer × Host} (hPrepared : Prepared b s r)
    (hRemade : Remade b.handle r u) (hGone : ∀ x, Tied r x → ImageGone u.2.gpu.history x)
    (hFinished : Finished u t)

/-- Making the screen again broke off. -/
inductive BrokenOff (s t : Renderer × Host) : Prop
  | intro {b : CommandBuffer} {r : Renderer × Host} (hPrepared : Prepared b s r)
    (hTorn : Torn b.handle r t)

/-- What happens aside may come before the preparation. -/
theorem Prepared.of_aside (h : Prepared b t u) (hAside : Aside s t) : Prepared b s u where
  recorder := by rw [h.recorder, hAside.recorder]
  state := h.state.trans hAside.state
  frame := h.frame.trans hAside.frame
  swapchain := h.swapchain.trans hAside.swapchain
  targets := h.targets.trans hAside.targets
  tidy := h.tidy
  risks := by
    have hRisks := h.risks
    rw [hAside.recorder] at hRisks
    exact (hAside.passes.risks.trans hRisks).congr (iff_of_eq (true_and _))
  setup := by
    rw [← hAside.recorder]
    exact h.setup

/-- What happens aside may come before a call that touches nothing. -/
theorem Untouched.of_aside (h : Untouched t u) (hAside : Aside s t) : Untouched s u where
  setup b hb := by
    rw [← hAside.recorder]
    exact h.setup b hb
  apart := h.apart
  lost hState := h.lost (hAside.state.trans hState)
  handle := h.handle.trans (congrArg Swapchain.handle hAside.swapchain)
  images := h.images.trans (congrArg Swapchain.images hAside.swapchain)
  device := h.device.trans hAside.device
  targets := h.targets.trans hAside.targets
  risks := by
    have hRisks := h.risks
    rw [hAside.recorder] at hRisks
    exact (hAside.passes.risks.trans hRisks).congr (iff_of_eq (true_and _))
  frame := h.frame.trans hAside.frame
  state := h.state.trans hAside.state

/-- A rebuild up to the screen: it is put off, or something hinders it, or it has a setup buffer. The
renderer is not touched before that. -/
theorem ensures_rebuild_of {ok : Unit → Renderer × Host → Prop}
    {fail : RenderError → Renderer × Host → Prop} (hTidy : Tidy s)
    (hDeferred : ∀ t, Aside s t → ¬ HasArea s → ok () t)
    (hHindered : ∀ e t, Untouched s t → ¬ s.2.gpu.Obliging → fail e t)
    (hRemake : ∀ b t, Prepared b s t → (do
      remakeScreen b
      onMachine (Synchronizer.onRecorder Recorder.flushSetup)
      rebuildPipelines
      Op.log (resizedEntry (← get).1.extent) : Action Unit).Ensures t ok fail) :
    rebuild.Ensures s ok fail := by
  rw [rebuild, ensures_bind]
  refine (ensures_hasNoArea s).mono ?_ ?_
  · rintro empty s₁ ⟨hAside₁, hEmpty⟩
    have hObliging₁ := Gpu.obliging_congr hAside₁.passes.setting
    refine ensures_ite (fun hNoArea => ?_) fun _ => ?_
    · rw [ensures_log]
      exact hDeferred _ (hAside₁.trans (Steady.push deferredEntry s₁)) (hEmpty hNoArea)
    · rw [ensures_bind]
      refine (ensures_waitIdle s₁).mono ?_ ?_
      · intro _ s₂ hAside₂
        have hAside := hAside₁.trans hAside₂
        have hObliging₂ := Gpu.obliging_congr hAside.passes.setting
        rw [ensures_bind]
        refine (ensures_beginSetup_renderer (hTidy.of_serves (hAside.serves hTidy))).mono ?_ ?_
        · exact fun b s₃ hPrepared => hRemake b s₃ (hPrepared.of_aside hAside)
        · rintro e t ⟨hUntouched, hNot⟩
          exact hHindered e t (hUntouched.of_aside hAside)
            fun hObliging => hNot (hObliging₂.mpr hObliging)
      · rintro e t ⟨hAside₂, hNot⟩
        exact hHindered e t ((hAside₁.trans hAside₂).untouched hTidy)
          fun hObliging => hNot (hObliging₁.mpr hObliging)
  · rintro e t ⟨hAside, hNot⟩
    -- the surface did not answer
    exact hHindered e t (hAside.untouched hTidy) hNot

/-- All that can come of a rebuild: it is put off, or gets as far as to run the setup buffer, or is
hindered before that. -/
theorem ensures_rebuild (hTidy : Tidy s) :
    rebuild.Ensures s (fun _ t => Untouched s t ∧ ¬ HasArea s ∨ Completed s t)
      (fun _ t => Completed s t ∨ (Untouched s t ∨ BrokenOff s t) ∧ ¬ s.2.gpu.Obliging) := by
  refine ensures_rebuild_of hTidy
    (fun t hAside hNoArea => .inl ⟨hAside.untouched hTidy, hNoArea⟩)
    (fun e t hUntouched hHindered => .inr ⟨.inl hUntouched, hHindered⟩) fun b s₁ hPrepared => ?_
  rw [ensures_bind]
  refine (ensures_remakeScreen b hPrepared.tidy).mono ?_ ?_
  · rintro - s₂ ⟨hRemade, hGone⟩
    exact (ensures_finish hRemade.tidy).mono
      (fun _ _ hFinished => .inr (.intro hPrepared hRemade hGone hFinished))
      fun _ _ hFinished => .inl (.intro hPrepared hRemade hGone hFinished)
  · intro e t hTorn
    have hSame := Gpu.obliging_congr hPrepared.risks.spares.setting
    exact .inr ⟨.inr (.intro hPrepared hTorn),
      fun hObliging => hTorn.hindered (hSame.mpr hObliging)⟩

/-- Whatever comes of a rebuild, what happened stays in the history. -/
theorem ensures_rebuild_suffix (hTidy : Tidy s) :
    rebuild.Ensures s (fun _ t => s.2.gpu.history <:+ t.2.gpu.history)
      (fun _ t => s.2.gpu.history <:+ t.2.gpu.history) := by
  have hUntouched : ∀ {t}, Untouched s t → s.2.gpu.history <:+ t.2.gpu.history :=
    fun h => h.risks.spares.history.suffix
  have hCompleted : ∀ {t}, Completed s t → s.2.gpu.history <:+ t.2.gpu.history := by
    rintro t ⟨hPrepared, hRemade, -, hFinished⟩
    exact (hPrepared.risks.spares.history.suffix.trans hRemade.remakes.suffix).trans
      hFinished.risks.spares.history.suffix
  have hBrokenOff : ∀ {t}, BrokenOff s t → s.2.gpu.history <:+ t.2.gpu.history := by
    rintro t ⟨hPrepared, hTorn⟩
    exact hPrepared.risks.spares.history.suffix.trans hTorn.remakes.suffix
  refine (ensures_rebuild hTidy).mono (fun _ t h => ?_) fun _ t h => ?_
  · exact h.elim (fun h => hUntouched h.1) hCompleted
  · exact h.elim hCompleted fun h => h.1.elim hUntouched hBrokenOff

-- ---------------------------------------------------------------------------
-- Rebuilds of fit renderers
-- ---------------------------------------------------------------------------

/-- Commands that are all barriers begin no render pass. -/
theorem paired_of_barriers {cs : List GpuCommand} (hCs : ∀ c ∈ cs, ∃ x t, c = .barrier x t) :
    Paired cs := by
  induction cs with
  | nil => trivial
  | cons c rest ih =>
    obtain ⟨x, t, rfl⟩ := hCs c List.mem_cons_self
    exact ih fun c' hc' => hCs c' (List.mem_cons_of_mem _ hc')

/-- Once the setup buffer was run on a new screen, nothing is left to come up later. -/
theorem Remade.sound {b : Handle} (h : Remade b s u) (hFinished : Finished u t) : Sound t := by
  constructor
  · rw [hFinished.none]
    exact nofun
  · intro _ i hi
    rw [hFinished.images] at hi
    rw [hFinished.device]
    exact (h.screen i hi).of_spares hFinished.risks.spares.history

/-- A setup buffer that had no commands before the screen was made can be run, and then the renderer
is fit. -/
theorem Remade.fit (h : Remade b.handle s u) (hFinished : Finished u t)
    (hSetup : s.1.machine.recorder.setup = some b)
    (hEmpty : commands b.handle s.2.gpu.history = []) (hResting : Resting s)
    (hClean : Clean s.2.gpu.history) : Fit t := by
  obtain ⟨cs, hCs, hBarriers⟩ := h.remakes.recorded
  rw [hEmpty, List.append_nil] at hCs
  -- all that is in the setup buffer are barriers on images of the new screen
  have hSubmittable : ∀ b' ∈ u.1.machine.recorder.setup,
      Submittable u.2.gpu.history b'.handle := by
    intro b' hb'
    rw [h.recorder, hSetup] at hb'
    obtain rfl : b = b' := Option.some.inj hb'
    constructor
    · rw [hCs]
      intro c hc
      obtain ⟨x, t, rfl, hAlive⟩ := hBarriers c hc
      exact hAlive
    · rw [hCs]
      refine paired_of_barriers fun c hc => ?_
      obtain ⟨x, t, hBarrier, -⟩ := hBarriers c hc
      exact ⟨x, t, hBarrier⟩
  refine ⟨h.tidy.of_serves hFinished.toServes,
    hFinished.risks.clean hSubmittable (h.remakes.clean hClean), h.sound hFinished, .inl ⟨?_, ?_⟩⟩
  · rw [hFinished.frame, h.frame]
    exact hResting.frame
  · rw [hFinished.state, h.state]
    exact hResting.state

/-- A setup buffer without commands has none when it is begun again. -/
theorem Prepared.empty (h : Prepared b s t)
    (hSetup : ∀ b ∈ s.1.machine.recorder.setup, commands b.handle s.2.gpu.history = []) :
    commands b.handle t.2.gpu.history = [] := by
  rcases h.setup with hSome | ⟨-, hEmpty⟩
  · rw [h.risks.commands b.handle ⟨b, hSome, rfl⟩]
    exact hSetup b hSome
  · exact hEmpty

/-- Preparing a setup buffer begins no frame. -/
theorem Prepared.resting (h : Prepared b s t) (hResting : Resting s) : Resting t where
  frame := h.frame.trans hResting.frame
  state := by rw [h.state]; exact hResting.state

/-- After a rebuild nothing is left to come up later. -/
theorem Completed.sound (h : Completed s t) : Sound t := by
  obtain ⟨hPrepared, hRemade, hGone, hFinished⟩ := h
  exact hRemade.sound hFinished

/-- A rebuild that is completed keeps a renderer at rest fit. -/
theorem Completed.fit (h : Completed s t) (hFit : Fit s) (hResting : Resting s) : Fit t := by
  obtain ⟨hPrepared, hRemade, hGone, hFinished⟩ := h
  exact hRemade.fit hFinished (congrArg Recorder.setup hPrepared.recorder)
    (hPrepared.empty hFit.sound.setup) (hPrepared.resting hResting)
    (hPrepared.risks.clean trivial hFit.clean)

/-- A rebuild that changes nothing keeps a renderer fit. -/
theorem Untouched.fit (h : Untouched s t) (hFit : Fit s) (hResting : Resting s) : Fit t := by
  refine ⟨hFit.tidy.of_serves h.toServes, h.risks.clean trivial hFit.clean,
    hFit.sound.of_serves h.toServes, .inl ⟨h.frame.trans hResting.frame, ?_⟩⟩
  rw [h.state]
  exact hResting.state

-- ---------------------------------------------------------------------------
-- Rebuilds that broke off
-- ---------------------------------------------------------------------------

/-- A renderer whose rebuild broke off. The barriers in its setup buffer are on images that the next
rebuild destroys, or that are destroyed already. -/
structure Broken (s : Renderer × Host) : Prop where
  tidy : Tidy s
  clean : Clean s.2.gpu.history
  resting : Resting s
  tied : ∀ b ∈ s.1.machine.recorder.setup, ∀ c ∈ commands b.handle s.2.gpu.history,
    ∃ x t, c = .barrier x t ∧ Tied s x

/-- A rebuild that breaks off leaves a fit renderer broken. -/
theorem BrokenOff.broken (h : BrokenOff s t) (hFit : Fit s) (hResting : Resting s) : Broken t := by
  obtain @⟨b, r, hPrepared, hTorn⟩ := h
  obtain ⟨cs, hCs, hTied⟩ := hTorn.remakes.recorded
  rw [hPrepared.empty hFit.sound.setup, List.append_nil] at hCs
  have hRest := hPrepared.resting hResting
  refine ⟨hTorn.tidy, hTorn.remakes.clean (hPrepared.risks.clean trivial hFit.clean),
    ⟨hTorn.frame.trans hRest.frame, ?_⟩, ?_⟩
  · rw [hTorn.machine]
    exact hRest.state
  · intro b' hb'
    rw [hTorn.machine, hPrepared.recorder] at hb'
    -- the one setup buffer there is
    obtain rfl : b = b' := Option.some.inj hb'
    rw [hCs]
    exact hTied

/-- Images stay tied while the setup buffer is prepared. -/
theorem Tied.of_prepared (hPrepared : Prepared b s t) {x : Handle} (hTied : Tied s x) : Tied t x := by
  have hSuffix := hPrepared.risks.spares.history.suffix
  rcases hTied with ⟨hPos, images, hListed, hx⟩ | ⟨hPos, hDestroyed | hDepth⟩
  · refine .inl ?_
    rw [hPrepared.swapchain]
    exact ⟨hPos, images, hListed.of_suffix hSuffix, hx⟩
  · exact .inr ⟨hPos, .inl (hDestroyed.of_suffix hSuffix)⟩
  · refine .inr ⟨hPos, .inr ?_⟩
    rw [hPrepared.targets]
    exact hDepth

/-- Without faults, a rebuild of a broken renderer submits the barriers that were left. -/
theorem Completed.not_clean (h : Completed s t) (hBroken : Broken s) (hFaults : s.2.gpu.faults = [])
    (hLeft : ∃ b ∈ s.1.machine.recorder.setup, commands b.handle s.2.gpu.history ≠ []) :
    ¬ Clean t.2.gpu.history := by
  obtain @⟨b, r, u, hPrepared, hRemade, hGone, hFinished⟩ := h
  obtain ⟨b', hSetup, hCommands⟩ := hLeft
  obtain ⟨c, hc⟩ := List.exists_mem_of_ne_nil _ hCommands
  obtain ⟨x, transition, rfl, hTied⟩ := hBroken.tied b' hSetup c hc
  have hSome : s.1.machine.recorder.setup = some b' := hSetup
  obtain rfl : b' = b := by
    rcases hPrepared.setup with hSame | ⟨hNone, -⟩
    · exact Option.some.inj (hSome.symm.trans hSame)
    · rw [hNone] at hSome
      cases hSome
  obtain ⟨cs, hCs, -⟩ := hRemade.remakes.recorded
  have hKept := hPrepared.risks.commands b'.handle ⟨b', hSetup, rfl⟩
  -- the old barrier is in the buffer that is run, behind the new ones
  have hNamed : GpuCommand.barrier x transition ∈ commands b'.handle u.2.gpu.history := by
    rw [hCs, hKept]
    exact List.mem_append_right cs hc
  have hFaults' : u.2.gpu.faults = [] := by
    rw [Gpu.faults_of_setting hRemade.remakes.setting,
      Gpu.faults_of_setting hPrepared.risks.spares.setting]
    exact hFaults
  have hRun : u.1.machine.recorder.setup = some b' := by
    rw [hRemade.recorder, hPrepared.recorder]
  intro hClean
  have hSubmittable := hFinished.risks.needed hFaults' hClean b' hRun
  -- and its image is gone by then
  exact hSubmittable.named _ hNamed (hGone x (hTied.of_prepared hPrepared))

end RenderLoop.Renderer
