import RenderLoop.Proofs.Renderer.Dangling
import RenderLoop.Proofs.Renderer.Keeping
import RenderLoop.Proofs.Renderer.FailedSetup

/-!
# RenderLoop — lifetimes over whole runs

On a device that does as it is asked (`Gpu.Obliging`), every call keeps the books of a
renderer balanced and its parts linked (`linked_of_step`). Only making the screen again
may unlink them, and that breaks off only if something hinders it.

So whatever such a run calls, and however acquisitions and presentations end: when the
renderer is closed, no call has named anything that was destroyed before, everything was
destroyed exactly once, and what belongs to the device went before the device and the
instance last (`cleared_of_reachable`).
-/

namespace RenderLoop.Renderer

open GpuHistory Op Estate

variable {s t u : Renderer × Host} {request : Request} {c : GpuContext} {pool : Handle}

-- ---------------------------------------------------------------------------
-- Rebuilds
-- ---------------------------------------------------------------------------

theorem ensures_beginMachine_setting (extent : Extent)
    (hApart : s.1.machine.recorder.Apart s.2.gpu.nextHandle) :
    (onMachine (Synchronizer.beginFrame extent)).Ensures s
      (fun _ t => t.2.gpu.setting = s.2.gpu.setting)
      (fun _ t => t.2.gpu.setting = s.2.gpu.setting) := by
  rw [onMachine, ensures_on]
  refine (Synchronizer.ensures_beginFrame_scene extent s.1.machine (scene s) hApart).mono ?_ ?_
  · exact fun _ _ h => h.2.risks.spares.setting
  · rintro e m (⟨-, rfl, -⟩ | ⟨-, hNotBegun⟩)
    · rfl
    · exact hNotBegun.risks.spares.setting

/-- Where a call gets as far as to a rebuild, the renderer is fit, and its device is as obliging as
before. -/
theorem Rebuilds.fit (hRebuilds : Rebuilds s request u) (hFit : Fit s) :
    Fit u ∧ u.2.gpu.setting = s.2.gpu.setting := by
  cases hRebuilds with
  | resize => exact ⟨hFit.of_aside (aside_of_passes (.refl s.2.gpu)), rfl⟩
  | beginFrame hBegin =>
    have hReset : Fit ({ s.1 with memory := s.1.memory.reset }, s.2) :=
      hFit.of_aside (aside_of_passes (.refl s.2.gpu))
    exact ⟨((ensures_beginMachine _ hReset).of_error hBegin).1,
      (ensures_beginMachine_setting _ hReset.tidy.apart).of_error hBegin⟩
  | @endFrame f u hFrame hEnd =>
    have hPending := hFit.pending hFrame
    obtain ⟨hFit', -⟩ := (ensures_endMachine hFit hPending).of_error hEnd
    obtain ⟨hServes, -⟩ :=
      (ensures_endMachine_serves hFit.tidy hPending.toRecording).of_error hEnd
    have hLogged : Aside u (Logging.push outOfDateEntry u) := Steady.push _ _
    exact ⟨hFit'.of_aside hLogged, hServes.risks.spares.setting⟩

/-- A rebuild that nothing hinders keeps the books. -/
theorem Linked.ensures_rebuild (h : Linked c pool s) (hTidy : Tidy s)
    (hObliging : s.2.gpu.Obliging) :
    rebuild.Ensures s (fun _ t => Linked c pool t) (fun _ t => Linked c pool t) := by
  rw [rebuild, ensures_bind]
  refine ((linked_hasNoArea.preserves h).and (aside_hasNoArea (R := Gpu.Passes) s)).mono ?_
    fun _ _ h => h.1
  rintro empty s₁ ⟨h₁, hAside₁⟩
  refine ensures_ite (fun _ => ?_) fun _ => ?_
  · -- no area: the rebuild is put off and only the log grows
    rw [ensures_log]
    exact Unlogged.push h₁
  rw [ensures_bind]
  refine ((linked_waitIdle.preserves h₁).and (aside_waitIdle (R := Gpu.Passes) s₁)).mono ?_
    fun _ _ h => h.1
  rintro - s₂ ⟨h₂, hAside₂⟩
  have hAside : Aside s s₂ := hAside₁.trans hAside₂
  have hTidy₂ := hTidy.of_serves (hAside.serves hTidy)
  rw [ensures_bind]
  refine ((linked_beginSetup.preserves h₂).and (ensures_beginSetup_renderer hTidy₂)).mono ?_
    fun _ _ h => h.1
  rintro b s₃ ⟨h₃, hPrepared⟩
  have hSetting := (hPrepared.of_aside hAside).risks.spares.setting
  rw [ensures_bind]
  refine ((h₃.ensures_remakeScreen (congrArg Recorder.setup hPrepared.recorder)).and
    (Renderer.ensures_remakeScreen b hPrepared.tidy)).mono ?_ ?_
  · rintro - s₄ ⟨h₄, -⟩
    have hRest : (do
        onMachine (Synchronizer.onRecorder Recorder.flushSetup)
        rebuildPipelines
        Op.log (resizedEntry (← get).1.extent) : Action Unit).Within (Preserving (Linked c pool)) := by
      refine linked_flushSetup.bind fun _ => ?_
      refine linked_rebuildPipelines.bind fun _ => ?_
      refine within_get.bind fun _ => ?_
      exact within_log _
    exact hRest.preserves h₄
  · -- a torn screen needs a device that refuses something, which an obliging one does not
    rintro e t ⟨-, hTorn⟩
    exact absurd ((Gpu.obliging_congr hSetting).mpr hObliging) hTorn.hindered

theorem Linked.ensures_rebuild_of_rebuilds (h : Linked c pool u) (hFit : Fit s)
    (hObliging : s.2.gpu.Obliging) (hRebuilds : Rebuilds s request u) :
    rebuild.Ensures u (fun _ t => Linked c pool t) (fun _ t => Linked c pool t) := by
  obtain ⟨hFit', hSetting⟩ := hRebuilds.fit hFit
  exact h.ensures_rebuild hFit'.tidy ((Gpu.obliging_congr hSetting).mpr hObliging)

-- ---------------------------------------------------------------------------
-- Calls
-- ---------------------------------------------------------------------------

theorem Linked.ensures_resize (h : Linked c pool s) (hFit : Fit s) (hObliging : s.2.gpu.Obliging)
    (window : Extent) :
    (resize window).Ensures s (fun _ t => Linked c pool t) (fun _ t => Linked c pool t) := by
  have hWindow : Linked c pool ({ s.1 with window }, s.2) := h.of_settings
  exact ensures_resize_of h fun hFrame _ =>
    hWindow.ensures_rebuild_of_rebuilds hFit hObliging (.resize hFrame)

theorem Linked.ensures_beginFrame (h : Linked c pool s) (hFit : Fit s)
    (hObliging : s.2.gpu.Obliging) :
    beginFrame.Ensures s (fun _ t => Linked c pool t) (fun _ t => Linked c pool t) := by
  have hReset : Linked c pool ({ s.1 with memory := s.1.memory.reset }, s.2) := h.of_settings
  refine ensures_beginFrame_of (((linked_beginMachine _).preserves hReset).mono
    (fun f t hBegan => hBegan.of_settings) fun e t hNotBegun => ?_)
  exact ⟨fun _ => hNotBegun, fun _ hRebuilds =>
    hNotBegun.ensures_rebuild_of_rebuilds hFit hObliging hRebuilds⟩

theorem Linked.ensures_endFrame (h : Linked c pool s) (hFit : Fit s) (hObliging : s.2.gpu.Obliging) :
    endFrame.Ensures s (fun _ t => Linked c pool t) (fun _ t => Linked c pool t) := by
  have hTaken : Linked c pool ({ s.1 with frame := none }, s.2) := h.of_settings
  refine ensures_endFrame_of (fun _ => h) fun f hFrame =>
    (hTaken.ensures_endMachine (hFit.pending hFrame).draw).mono (fun _ _ h => h) fun e t hEnded => ?_
  have hLogged : Linked c pool (Logging.push outOfDateEntry t) := Unlogged.push hEnded
  exact ⟨fun _ => hEnded, fun _ hRebuilds =>
    hLogged.ensures_rebuild_of_rebuilds hFit hObliging hRebuilds⟩

/-- Every call on an obliging device keeps the books. -/
theorem Linked.ensures_serve (h : Linked c pool s) (hFit : Fit s) (hObliging : s.2.gpu.Obliging)
    (request : Request) :
    (serve request).Ensures s (fun _ t => Linked c pool t) (fun _ t => Linked c pool t) := by
  cases request with
  | beginFrame => exact h.ensures_beginFrame hFit hObliging
  | draw mesh mode => exact h.ensures_draw mesh mode fun _ hFrame => (hFit.pending hFrame).draw
  | endFrame => exact h.ensures_endFrame hFit hObliging
  | resize window => exact h.ensures_resize hFit hObliging window
  | setPipelineState state => exact (linked_setPipelineState state).preserves h
  | reloadShaders => exact (linked_reloadShaders.bind fun _ => within_pure ()).preserves h
  | setMatrices matrices =>
    -- the settings are read by no clause of the link
    rw [serve, set, ensures_change]
    exact h.of_settings
  | setClearColor color =>
    rw [serve, set, ensures_change]
    exact h.of_settings
  | waitIdle => exact linked_waitIdle.preserves h
  | follow script =>
    obtain ⟨hHistory, hNext, -⟩ := follow_keeps script s.2.gpu
    rw [serve, ensures_change]
    exact h.of_lends (h.lends.of_same hHistory hNext.ge) (hHistory ▸ List.suffix_refl _)
  | edit files =>
    rw [serve, ensures_change]
    exact h.of_lends h.lends (List.suffix_refl _)

end RenderLoop.Renderer
