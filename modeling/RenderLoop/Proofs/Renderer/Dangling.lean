import RenderLoop.Proofs.Renderer.Totality
import RenderLoop.Proofs.Renderer.Upkeep

/-!
# RenderLoop — when a failed rebuild leaves something dangling

A failed rebuild leaves nothing dangling if the renderer is sound afterwards, and
this is necessary as well: from a renderer that is not sound, calls lead to the
submission of a buffer with a command that names something destroyed, although
nothing fails any more.

There are two ways to that, one for each part of being sound:

* Barriers that were left in the setup buffer are submitted by the next rebuild,
  which has destroyed their images by then (`leads_of_left`).
* An image that cannot be rendered to is acquired for the next frame, which is
  recorded and submitted (`leads_of_unrenderable`).

`clean_iff_sound` puts both directions together.
-/

namespace RenderLoop.Renderer

open GpuHistory Op

variable {s t u : Renderer × Host} {c : Request} {f : Frame} {i : UInt32}

-- ---------------------------------------------------------------------------
-- Calls without faults
-- ---------------------------------------------------------------------------

/-- A rebuild that nothing hinders leaves things sound, even if it fails. -/
theorem trusted_of_obliging (h : ∀ u, Rebuilds s c u → Tidy u ∧ u.2.gpu.Obliging) :
    Trusted s c t := by
  rintro ⟨u, e, hRebuilds, hRun⟩
  obtain ⟨hTidy, hObliging⟩ := h u hRebuilds
  rcases (ensures_rebuild hTidy).of_error hRun with hCompleted | ⟨-, hHindered⟩
  · exact hCompleted.sound
  · exact absurd hObliging hHindered

/-- A new script does not get to a rebuild. -/
theorem not_rebuilds_follow {script : GpuScript} : ¬ Rebuilds s (.follow script) u := by
  rintro ⟨⟩

/-- A script without faults that hands out images. -/
def calm (images : List UInt32) : GpuScript :=
  { acquireScript := images.map fun i => (i, .success), faults := some [] }

/-- A renderer whose device goes on by such a script. -/
def calmed (images : List UInt32) (s : Renderer × Host) : Renderer × Host :=
  (s.1, s.2.onGpu (Gpu.follow (calm images)))

/-- Nothing hinders a device that was calmed. -/
theorem obliging_calmed (images : List UInt32) (s : Renderer × Host) :
    (calmed images s).2.gpu.Obliging :=
  ⟨rfl, _, rfl⟩

/-- The surface of a device that was calmed has a size for every window. -/
theorem sizes_calmed (images : List UInt32) (s : Renderer × Host) :
    (calmed images s).2.gpu.capabilities.Sizes :=
  fun _ => rfl

/-- Such a script can be followed anywhere. -/
theorem leads_calmed (images : List UInt32) (s : Renderer × Host) :
    Leads Trusted s (calmed images s) := by
  have hTrusted : Trusted s (.follow (calm images)) (calmed images s) :=
    trusted_of_obliging fun _ hRebuilds => absurd hRebuilds not_rebuilds_follow
  exact .step (.follow (calm images)) .here ⟨.ok (), rfl⟩ hTrusted

/-- A broken renderer stays broken when its device is calmed. -/
theorem Broken.calmed (h : Broken s) (images : List UInt32) : Broken (calmed images s) where
  tidy := h.tidy.follow _
  clean := h.clean
  resting := ⟨h.resting.frame, h.resting.state⟩
  tied := h.tied

/-- A run of a total call, with what the call ensures. -/
theorem exists_step {ok : Unit → Renderer × Host → Prop} {fail : RenderError → Renderer × Host → Prop}
    {P : Renderer × Host → Prop} (hReturns : (serve c).Returns s) (hEnsures : (serve c).Ensures s ok fail)
    (hOk : ∀ a t, ok a t → P t) (hFail : ∀ e t, fail e t → P t) : ∃ t, Step s c t ∧ P t := by
  obtain ⟨⟨r, t⟩, hRun⟩ := Option.isSome_iff_exists.mp hReturns
  refine ⟨t, ⟨r, hRun⟩, ?_⟩
  cases r with
  | ok a => exact hOk a t (hEnsures.of_ok hRun)
  | error e => exact hFail e t (hEnsures.of_error hRun)

-- ---------------------------------------------------------------------------
-- What was left in the setup buffer
-- ---------------------------------------------------------------------------

/-- The size of the window that the device does not mind. -/
def anySize : Extent := ⟨640, 480⟩

/-- Commands that a failed rebuild left in the setup buffer are submitted by the next one. -/
theorem leads_of_left (hBroken : Broken s) (hGeneration : s.1.targets.generation.toNat + 1 < UInt64.size)
    (hLeft : ∃ b ∈ s.1.machine.recorder.setup, commands b.handle s.2.gpu.history ≠ []) :
    ∃ u, Leads Trusted s u ∧ ¬ Clean u.2.gpu.history := by
  -- the window is followed first, and then the rebuild begins
  let t : Renderer × Host := ({ s.1 with window := anySize }, (calmed [] s).2)
  have hCalmed := hBroken.calmed []
  have hTidy : Tidy t := ⟨hCalmed.tidy.orderly, hCalmed.tidy.apart, hCalmed.tidy.chain,
    hCalmed.tidy.targets⟩
  have hBroken' : Broken t := ⟨hTidy, hBroken.clean, ⟨hBroken.resting.frame, hBroken.resting.state⟩,
    hBroken.tied⟩
  have hStart : start (resize anySize) (calmed [] s) = start rebuild t :=
    start_resize hCalmed.resting.frame anySize
  have hReturns : (serve (.resize anySize)).Returns (calmed [] s) := by
    show (start (resize anySize) (calmed [] s)).isSome
    rw [hStart]
    exact returns_rebuild hTidy (sizes_calmed [] s) hGeneration
  have hEnsures : (serve (.resize anySize)).Ensures (calmed [] s)
      (fun _ u => ¬ Clean u.2.gpu.history) (fun _ u => ¬ Clean u.2.gpu.history) := by
    have hArea : HasArea t := ⟨rfl, rfl⟩
    -- with an area and nothing to hinder it, the rebuild is completed and submits what was left
    have hNot : ∀ {u}, Completed t u → ¬ Clean u.2.gpu.history := fun hCompleted =>
      hCompleted.not_clean hBroken' rfl hLeft
    have hRebuild := (ensures_rebuild hTidy).mono
      (fun _ u h => hNot (h.resolve_left fun h' => h'.2 hArea))
      fun _ u h => hNot (h.resolve_right fun h' => h'.2 (obliging_calmed [] s))
    intro r u hRun
    refine hRebuild r u ?_
    rw [← hStart]
    exact hRun
  obtain ⟨u, hStep, hDirty⟩ := exists_step hReturns hEnsures (fun _ _ h => h) fun _ _ h => h
  refine ⟨u, .step (.resize anySize) (leads_calmed [] s) hStep (trusted_of_obliging ?_), hDirty⟩
  rintro v ⟨hFrame⟩
  exact ⟨hTidy, obliging_calmed [] s⟩

-- ---------------------------------------------------------------------------
-- An image that cannot be rendered to
-- ---------------------------------------------------------------------------

/-- A frame began on an image, whether that can be rendered to or not. -/
structure Began (i : UInt32) (s t : Renderer × Host) (f : Frame) : Prop where
  serves : Serves True s t
  recording : Recording t f
  well : Synchronizer.EndsWell f (scene t) → Renderable s.1.device.targets s.2.gpu.history i
  count : t.1.machine.framesCompleted = s.1.machine.framesCompleted

/-- Without faults, a frame begins on the image that is handed out. -/
theorem ensures_beginMachine_began (extent : Extent) (hTidy : Tidy s)
    (hIdle : s.1.machine.state = .idle) (hFaults : s.2.gpu.faults = [])
    (hScript : s.2.gpu.acquireScript.head? = some (i, .success))
    (hi : i < UInt32.ofNat s.1.swapchain.images.length) :
    (onMachine (Synchronizer.beginFrame extent)).Ensures s
      (fun f t => Began i s ({ t.1 with frame := some f }, t.2) f) (fun _ _ => False) := by
  rw [onMachine, ensures_on]
  have hBegins := Synchronizer.ensures_beginFrame_scene extent s.1.machine (scene s) hTidy.apart
  have hCounts := Synchronizer.within_beginFrame extent (s.1.machine, scene s)
  refine (hBegins.and hCounts).mono ?_ ?_
  · rintro f m ⟨⟨-, hBegun⟩, hCount⟩
    have hLost : s.1.machine.state = .lost → m.1.state = .lost := by
      rw [hIdle]
      rintro ⟨⟩
    have h := serves_of_kept hBegun.toKept hLost
    refine ⟨⟨h.setup, h.apart, h.lost, h.handle, h.images, h.device, h.targets, h.risks⟩,
      ⟨rfl, hBegun.state, hBegun.image, hBegun.draw⟩, fun hWell => ?_, hCount⟩
    have hRenderable := (endsWell_of_begun hBegun).mp hWell
    -- the script decides which image is acquired
    rw [hBegun.script i hScript] at hRenderable
    exact hRenderable
  · rintro e m ⟨⟨hBusy, -⟩ | ⟨-, hNotBegun⟩, -⟩
    · exact hBusy hIdle
    · exact hNotBegun.hindered i hScript hi hFaults

theorem began_of_idle (hTidy : Tidy s) (hIdle : s.1.machine.state = .idle)
    (hFaults : s.2.gpu.faults = []) (hScript : s.2.gpu.acquireScript.head? = some (i, .success))
    (hi : i < UInt32.ofNat s.1.swapchain.images.length) :
    ∃ t f, Step s .beginFrame t ∧ Trusted s .beginFrame t ∧ Began i s t f := by
  let r : Renderer × Host := ({ s.1 with memory := s.1.memory.reset }, s.2)
  have hTidy' : Tidy r := ⟨hTidy.orderly, hTidy.apart, hTidy.chain, hTidy.targets⟩
  have hBegins := ensures_beginMachine_began (s := r) s.1.extent hTidy' hIdle hFaults hScript hi
  have hReturns : (onMachine (Synchronizer.beginFrame s.1.extent)).Returns r := by
    rw [onMachine, returns_on]
    exact Synchronizer.returns_beginFrame _ _ fun signal => Swapchain.total_acquire signal _
  obtain ⟨⟨outcome, u⟩, hRun⟩ := Option.isSome_iff_exists.mp hReturns
  cases outcome with
  | error e => exact (hBegins.of_error hRun).elim
  | ok f =>
    have h := hBegins.of_ok hRun
    refine ⟨({ u.1 with frame := some f }, u.2), f, ⟨.ok (), ?_⟩, ?_, ?_⟩
    · show start beginFrame s = _
      rw [beginFrame, start_bind_of_ok (start_set _ _), start_bind_of_ok (start_get _)]
      refine (start_bind_of_ok (start_attempt_of_ok hRun) _).trans ?_
      exact start_set _ _
    · -- the frame began, so there was no rebuild
      refine trusted_of_obliging fun v hRebuilds => ?_
      cases hRebuilds with
      | beginFrame hBegin =>
        have hSame := hBegin.symm.trans hRun
        cases hSame
    · exact ⟨⟨h.serves.setup, h.serves.apart, h.serves.lost, h.serves.handle, h.serves.images,
        h.serves.device, h.serves.targets, h.serves.risks⟩, h.recording, h.well, h.count⟩

/-- A renderer is as tidy as before when a presentation was out of date. -/
theorem tidy_of_endMachine {P : Prop} (hTidy : Tidy s) (hServes : Serves P s t) :
    Tidy (Logging.push outOfDateEntry t) := by
  have hTidy' := hTidy.of_serves hServes
  exact ⟨hTidy'.orderly, hTidy'.apart, hTidy'.chain, hTidy'.targets⟩

/-- The end of a frame comes to an end on a device that tells a size for its surface. -/
theorem returns_endFrame (hTidy : Tidy s) (hRecording : Recording s f)
    (hSizes : s.2.gpu.capabilities.Sizes)
    (hGeneration : s.1.targets.generation.toNat + 1 < UInt64.size)
    (hFrames : s.1.machine.framesCompleted.toNat + 1 < UInt64.size) : endFrame.Returns s := by
  show (start endFrame s).isSome
  rw [endFrame, start_bind_of_ok (start_currentFrame hRecording.frame _),
    start_bind_of_ok (start_set _ _)]
  refine (returns_bind _ _ _).mpr ⟨?_, (ensures_attempt _ _).mpr
    ((ensures_endMachine_serves hTidy hRecording).mono ?_ ?_)⟩
  · rw [returns_attempt, onMachine, returns_on]
    exact Synchronizer.returns_endFrame f _ hFrames
  · exact fun _ t _ => returns_pure () t
  · rintro e t ⟨hServes, -⟩
    split
    · exact returns_pure () t
    · -- the swapchain is out of date: a rebuild, where both bounds still hold
      have hSizes' : t.2.gpu.capabilities.Sizes := by
        rw [Gpu.capabilities_of_setting hServes.risks.spares.setting]
        exact hSizes
      have hGeneration' : t.1.targets.generation.toNat + 1 < UInt64.size := by
        rw [hServes.targets]
        exact hGeneration
      refine (total_log _).returns_bind ?_
      rw [ensures_log]
      exact returns_rebuild (tidy_of_endMachine hTidy hServes) hSizes' hGeneration'
    · exact returns_throw _ t

/-- Whatever follows in the end of a frame, the machine has served the device first. -/
theorem ensures_endFrame_serves (hTidy : Tidy s) (hRecording : Recording s f) :
    endFrame.Ensures s
      (fun _ t => ∃ u, Serves (Synchronizer.EndsWell f (scene s)) s u ∧
        u.2.gpu.history <:+ t.2.gpu.history)
      (fun _ t => ∃ u, Serves (Synchronizer.EndsWell f (scene s)) s u ∧
        u.2.gpu.history <:+ t.2.gpu.history) := by
  rw [endFrame, ensures_bind, ensures_of_start (start_currentFrame hRecording.frame _), outcome_ok,
    ensures_bind, ensures_of_start (start_set _ _), outcome_ok, ensures_bind, ensures_attempt]
  refine (ensures_endMachine_serves hTidy hRecording).mono ?_ ?_
  · rintro - u ⟨hServes, -⟩
    rw [ensures_pure]
    exact ⟨u, hServes, List.suffix_refl _⟩
  · rintro e u ⟨hServes, -⟩
    split
    · rw [ensures_pure]
      exact ⟨u, hServes, List.suffix_refl _⟩
    · -- the rebuild of an outdated chain only adds to the history
      rw [ensures_bind, ensures_log]
      exact (ensures_rebuild_suffix (tidy_of_endMachine hTidy hServes)).mono
        (fun _ _ hSuffix => ⟨u, hServes, hSuffix⟩) fun _ _ hSuffix => ⟨u, hServes, hSuffix⟩
    · rw [ensures_throw]
      exact ⟨u, hServes, List.suffix_refl _⟩

/-- Without faults, a frame that does not end well is submitted all the same. -/
theorem dirty_of_recording (hTidy : Tidy s) (hRecording : Recording s f)
    (hObliging : s.2.gpu.Obliging) (hSizes : s.2.gpu.capabilities.Sizes)
    (hGeneration : s.1.targets.generation.toNat + 1 < UInt64.size)
    (hFrames : s.1.machine.framesCompleted.toNat + 1 < UInt64.size)
    (hNot : ¬ Synchronizer.EndsWell f (scene s)) :
    ∃ t, Step s .endFrame t ∧ Trusted s .endFrame t ∧ ¬ Clean t.2.gpu.history := by
  -- without faults a clean history would need the frame to end well
  have hDirty : ∀ t : Renderer × Host, (∃ u, Serves (Synchronizer.EndsWell f (scene s)) s u ∧
      u.2.gpu.history <:+ t.2.gpu.history) → ¬ Clean t.2.gpu.history := by
    rintro t ⟨u, hServes, hSuffix⟩ hClean
    exact hNot (hServes.risks.needed hObliging.1 (hClean.of_suffix hSuffix))
  have hReturns : (serve .endFrame).Returns s :=
    returns_endFrame hTidy hRecording hSizes hGeneration hFrames
  have hEnsures : (serve .endFrame).Ensures s _ _ := ensures_endFrame_serves hTidy hRecording
  obtain ⟨t, hStep, hUnclean⟩ :=
    exists_step hReturns hEnsures (fun _ t h => hDirty t h) fun _ t h => hDirty t h
  refine ⟨t, hStep, trusted_of_obliging ?_, hUnclean⟩
  intro v hRebuilds
  cases hRebuilds with
  | @endFrame f' u hFrame hEnd =>
    obtain rfl : f = f' := Option.some.inj (hRecording.frame.symm.trans hFrame)
    obtain ⟨hServes, -⟩ := (ensures_endMachine_serves hTidy hRecording).of_error hEnd
    exact ⟨tidy_of_endMachine hTidy hServes,
      (Gpu.obliging_congr hServes.risks.spares.setting).mpr hObliging⟩

/-- An image that cannot be rendered to is submitted with the frame that it is acquired for. -/
theorem leads_of_unrenderable (hBroken : Broken s)
    (hGeneration : s.1.targets.generation.toNat + 1 < UInt64.size)
    (hFrames : s.1.machine.framesCompleted.toNat + 1 < UInt64.size) (hLost : s.1.machine.state ≠ .lost)
    (hi : i < UInt32.ofNat s.1.swapchain.images.length)
    (hNot : ¬ Renderable s.1.device.targets s.2.gpu.history i) :
    ∃ u, Leads Trusted s u ∧ ¬ Clean u.2.gpu.history := by
  have hCalmed := hBroken.calmed [i]
  have hIdle : s.1.machine.state = .idle := hBroken.resting.state.resolve_right hLost
  -- the script is set so that the frame begins with the image in question
  obtain ⟨t, f, hStep, hTrusted, hBegan⟩ := began_of_idle hCalmed.tidy hIdle rfl rfl hi
  have hSetting := hBegan.serves.risks.spares.setting
  have hObliging : t.2.gpu.Obliging :=
    (Gpu.obliging_congr hSetting).mpr (obliging_calmed [i] s)
  have hSizes : t.2.gpu.capabilities.Sizes := by
    rw [Gpu.capabilities_of_setting hSetting]
    exact sizes_calmed [i] s
  have hGeneration' : t.1.targets.generation.toNat + 1 < UInt64.size := by
    rw [hBegan.serves.targets]
    exact hGeneration
  have hFrames' : t.1.machine.framesCompleted.toNat + 1 < UInt64.size := by
    rw [hBegan.count]
    exact hFrames
  obtain ⟨u, hStep', hTrusted', hDirty⟩ := dirty_of_recording (hCalmed.tidy.of_serves hBegan.serves)
    hBegan.recording hObliging hSizes hGeneration' hFrames' fun hWell => hNot (hBegan.well hWell)
  exact ⟨u, ((leads_calmed [i] s).step .beginFrame hStep hTrusted).step .endFrame hStep' hTrusted',
    hDirty⟩

-- ---------------------------------------------------------------------------
-- Failed rebuilds
-- ---------------------------------------------------------------------------

/-- What is not sound comes up in a later frame or rebuild. -/
theorem leads_of_unsound (hBroken : Broken s)
    (hGeneration : s.1.targets.generation.toNat + 1 < UInt64.size)
    (hFrames : s.1.machine.framesCompleted.toNat + 1 < UInt64.size) (hNot : ¬ Sound s) :
    ∃ u, Leads Trusted s u ∧ ¬ Clean u.2.gpu.history := by
  refine Classical.byContradiction fun hNone => hNot ⟨fun b hb => ?_, fun hLost i hi => ?_⟩
  · refine Classical.byContradiction fun hLeft => hNone ?_
    exact leads_of_left hBroken hGeneration ⟨b, hb, hLeft⟩
  · refine Classical.byContradiction fun hUnrenderable => hNone ?_
    exact leads_of_unrenderable hBroken hGeneration hFrames hLost hi hUnrenderable

/-- **A failed rebuild leaves nothing dangling exactly if it leaves the renderer sound.** Later calls
then submit no buffer with a command that names something destroyed, as long as the rebuilds that
fail among them leave the renderer sound as well. -/
theorem clean_iff_sound (hReachable : Reachable Trusted s) (hFailed : FailedRebuild s c t)
    (hGeneration : t.1.targets.generation.toNat + 1 < UInt64.size)
    (hFrames : t.1.machine.framesCompleted.toNat + 1 < UInt64.size) :
    (∀ u, Leads Trusted t u → Clean u.2.gpu.history) ↔ Sound t := by
  have hStep := step_of_failedRebuild hFailed
  constructor
  · intro hClean
    rcases fit_of_step (fit_of_reachable hReachable) hStep with hFit | ⟨-, hBroken⟩
    · exact hFit.sound
    · refine Classical.byContradiction fun hNot => ?_
      obtain ⟨u, hLeads, hDirty⟩ := leads_of_unsound hBroken hGeneration hFrames hNot
      exact hDirty (hClean u hLeads)
  · intro hSound u hLeads
    have hTrusted : Reachable Trusted t := hReachable.step c hStep fun _ => hSound
    exact (fit_of_reachable (hTrusted.leads hLeads)).clean

-- ---------------------------------------------------------------------------
-- A rebuild without a render pass
-- ---------------------------------------------------------------------------

/-- A new renderer on a device that will not make the next render pass. -/
def samplePassless : Renderer × Host :=
  (sample.1, sample.2.onGpu
    (Gpu.follow { faults := some [⟨"vkCreateRenderPass", some 1, ⟨-2⟩⟩] }))

/-- That renderer at another size of the window. -/
def sampleResized : Renderer × Host := ({ samplePassless.1 with window := ⟨800, 600⟩ }, samplePassless.2)

/-- What its rebuild leaves behind. -/
def sampleFailed : Renderer × Host := rebuild.after sampleResized

/-- The barriers of a rebuild that got no render pass come up later. -/
theorem clean_iff_sound_of_failed_pass :
    Reachable Trusted samplePassless ∧
      FailedRebuild samplePassless (.resize ⟨800, 600⟩) sampleFailed ∧
      sampleFailed.1.targets.generation.toNat + 1 < UInt64.size ∧
      sampleFailed.1.machine.framesCompleted.toNat + 1 < UInt64.size ∧
      ¬ Sound sampleFailed ∧ ∃ u, Leads Trusted sampleFailed u ∧ ¬ Clean u.2.gpu.history := by
  have hReachable : Reachable Trusted samplePassless :=
    reachable_sample.step (.follow _) ⟨.ok (), rfl⟩
      (trusted_of_obliging fun _ hRebuilds => absurd hRebuilds not_rebuilds_follow)
  have hFails : rebuild.fails sampleResized = true := by decide +kernel
  obtain ⟨e, hRun⟩ := start_of_fails hFails
  have hFrame : samplePassless.1.frame = none := by decide +kernel
  have hFailed : FailedRebuild samplePassless (.resize ⟨800, 600⟩) sampleFailed :=
    ⟨sampleResized, e, .resize hFrame, hRun⟩
  have hGeneration : sampleFailed.1.targets.generation.toNat + 1 < UInt64.size := by decide +kernel
  have hFrames : sampleFailed.1.machine.framesCompleted.toNat + 1 < UInt64.size := by decide +kernel
  have hLeft : ∃ b ∈ sampleFailed.1.machine.recorder.setup,
      commands b.handle sampleFailed.2.gpu.history ≠ [] := by decide +kernel
  -- what is left in the setup buffer is what makes it unsound
  have hUnsound : ¬ Sound sampleFailed := by
    rintro ⟨hSetup, -⟩
    obtain ⟨b, hb, hCommands⟩ := hLeft
    exact hCommands (hSetup b hb)
  have hDirty : ∃ u, Leads Trusted sampleFailed u ∧ ¬ Clean u.2.gpu.history := by
    refine Classical.byContradiction fun hNone => hUnsound ?_
    refine (clean_iff_sound hReachable hFailed hGeneration hFrames).mp fun u hLeads => ?_
    exact Classical.byContradiction fun hDirty => hNone ⟨u, hLeads, hDirty⟩
  exact ⟨hReachable, hFailed, hGeneration, hFrames, hUnsound, hDirty⟩

end RenderLoop.Renderer
