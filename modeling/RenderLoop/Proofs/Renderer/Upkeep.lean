import RenderLoop.Proofs.Renderer.Creation
import RenderLoop.Proofs.Renderer.Draw

/-!
# RenderLoop — renderers stay fit

Every call keeps a renderer fit, except one that fails in its rebuild; then the
renderer may be broken instead (`fit_of_step`). A broken renderer that is sound is
fit. So renderers stay fit for as long as the failed rebuilds leave them sound
(`fit_of_reachable`).
-/

namespace RenderLoop.Renderer

open GpuHistory Op

variable {s t u : Renderer × Host} {c : Request}

/-- A broken renderer is fit if it is sound. -/
theorem Broken.fit (h : Broken s) (hSound : Sound s) : Fit s where
  tidy := h.tidy
  clean := h.clean
  sound := hSound
  frames := .inl h.resting

theorem Fit.resting (h : Fit s) (hFrame : s.1.frame = none) : Resting s := by
  refine h.frames.resolve_right ?_
  rintro ⟨f, hPending⟩
  rw [hPending.frame] at hFrame
  cases hFrame

theorem Fit.pending (h : Fit s) {f : Frame} (hFrame : s.1.frame = some f) : Pending s f := by
  rcases h.frames with hResting | ⟨f', hPending⟩
  · rw [hResting.frame] at hFrame
    cases hFrame
  · obtain rfl : f' = f := Option.some.inj (hPending.frame.symm.trans hFrame)
    exact hPending

/-- What a call comes to: a fit renderer, or one that its rebuild broke. -/
def Comes (s : Renderer × Host) (c : Request) (t : Renderer × Host) : Prop :=
  Fit t ∨ FailedRebuild s c t ∧ Broken t

-- ---------------------------------------------------------------------------
-- Rebuilds in calls
-- ---------------------------------------------------------------------------

theorem ensures_rebuild_comes (hFit : Fit u) (hResting : Resting u) (hRebuilds : Rebuilds s c u) :
    rebuild.Ensures u (fun _ t => Fit t) (fun _ t => Comes s c t) := by
  refine (ensures_rebuild hFit.tidy).run.mono ?_ ?_
  · rintro - t ⟨⟨hUntouched, -⟩ | hCompleted, -⟩
    · exact hUntouched.fit hFit hResting
    · exact hCompleted.fit hFit hResting
  · rintro e t ⟨hCompleted | ⟨hUntouched | hBrokenOff, -⟩, hRun⟩
    · exact .inl (hCompleted.fit hFit hResting)
    · exact .inl (hUntouched.fit hFit hResting)
    · exact .inr ⟨⟨u, e, hRebuilds, hRun⟩, hBrokenOff.broken hFit hResting⟩

/-- Following the window is a rebuild at its new size, or nothing. -/
theorem ensures_resize_of {window : Extent} {P : Renderer × Host → Prop} (hRefused : P s)
    (hRebuild : s.1.frame = none → Aside s ({ s.1 with window }, s.2) →
      rebuild.Ensures ({ s.1 with window }, s.2) (fun _ t => P t) (fun _ t => P t)) :
    (resize window).Ensures s (fun _ t => P t) (fun _ t => P t) := by
  rw [resize, ensures_bind, requireNoFrame, ensures_bind, ensures_get]
  refine ensures_ite (fun _ => ?_) fun hNone => ?_
  · rw [ensures_throw]
    exact hRefused
  · rw [ensures_pure, ensures_bind, set, ensures_change]
    exact hRebuild (Option.not_isSome_iff_eq_none.mp hNone) (aside_of_passes (.refl s.2.gpu))

theorem ensures_resize (window : Extent) (hFit : Fit s) :
    (resize window).Ensures s (fun _ t => Comes s (.resize window) t)
      (fun _ t => Comes s (.resize window) t) := by
  refine ensures_resize_of (.inl hFit) fun hFrame hAside => ?_
  exact (ensures_rebuild_comes (hFit.of_aside hAside) ((hFit.resting hFrame).of_aside hAside)
    (.resize hFrame)).mono (fun _ _ h => .inl h) fun _ _ h => h

-- ---------------------------------------------------------------------------
-- Frames
-- ---------------------------------------------------------------------------

/-- What comes of beginning a frame is what comes of it in the machine, or of a rebuild after that. -/
theorem ensures_beginFrame_of {ok fail : Renderer × Host → Prop}
    (hMachine : (onMachine (Synchronizer.beginFrame s.1.extent)).Ensures
      ({ s.1 with memory := s.1.memory.reset }, s.2)
      (fun f t => ok ({ t.1 with frame := some f }, t.2))
      (fun e t => (e ≠ .swapchainOutOfDate → fail t) ∧
        (e = .swapchainOutOfDate → Rebuilds s .beginFrame t →
          rebuild.Ensures t (fun _ u => fail u) (fun _ u => fail u)))) :
    beginFrame.Ensures s (fun _ t => ok t) (fun _ t => fail t) := by
  rw [beginFrame, ensures_bind, set, ensures_change, ensures_bind, ensures_get, ensures_bind,
    ensures_attempt]
  refine hMachine.run.mono ?_ ?_
  · rintro f t ⟨hBegun, -⟩
    dsimp only
    rw [set, ensures_change]
    exact hBegun
  · rintro e t ⟨⟨hFailed, hStale⟩, hRun⟩
    split
    · simp_all
    · -- an outdated chain is rebuilt before the error is passed on
      rename_i hCause
      cases hCause
      rw [ensures_bind]
      refine (hStale rfl (.beginFrame hRun)).mono (fun _ u hRebuilt => ?_) fun _ _ h => h
      rw [ensures_throw]
      exact hRebuilt
    · rename_i hOther hCause
      cases hCause
      rw [ensures_throw]
      exact hFailed hOther

/-- What comes of ending a frame is what comes of it in the machine, or of a rebuild after that. -/
theorem ensures_endFrame_of {P : Renderer × Host → Prop} (hRefused : s.1.frame = none → P s)
    (hMachine : ∀ f, s.1.frame = some f →
      (onMachine (Synchronizer.endFrame f)).Ensures ({ s.1 with frame := none }, s.2)
        (fun _ t => P t)
        (fun e t => (e ≠ .swapchainOutOfDate → P t) ∧
          (e = .swapchainOutOfDate → Rebuilds s .endFrame (Logging.push outOfDateEntry t) →
            rebuild.Ensures (Logging.push outOfDateEntry t) (fun _ u => P u) (fun _ u => P u)))) :
    endFrame.Ensures s (fun _ t => P t) (fun _ t => P t) := by
  rw [endFrame, ensures_bind]
  refine ensures_currentFrame _ (fun f hFrame => ?_) fun _ hNone => hRefused hNone
  rw [ensures_bind, set, ensures_change, ensures_bind, ensures_attempt]
  refine (hMachine f hFrame).run.mono ?_ ?_
  · rintro - t ⟨hEnded, -⟩
    rw [ensures_pure]
    exact hEnded
  · rintro e t ⟨⟨hFailed, hStale⟩, hRun⟩
    split
    · simp_all
    · -- an outdated chain is logged, and the call comes to what the rebuild comes to
      rename_i hCause
      cases hCause
      rw [ensures_bind, ensures_log]
      exact hStale rfl (.endFrame hFrame hRun)
    · rename_i hOther hCause
      cases hCause
      rw [ensures_throw]
      exact hFailed hOther

/-- Beginning a frame that can be ended, or not beginning one. -/
theorem ensures_beginMachine (extent : Extent) (hFit : Fit s) :
    (onMachine (Synchronizer.beginFrame extent)).Ensures s
      (fun f t => Fit ({ t.1 with frame := some f }, t.2))
      (fun e t => Fit t ∧ (e = .swapchainOutOfDate → Resting t)) := by
  rw [onMachine, ensures_on]
  refine (Synchronizer.ensures_beginFrame_scene extent s.1.machine (scene s) hFit.tidy.apart).mono
    ?_ ?_
  · rintro f m ⟨hIdle, hBegun⟩
    have hLost : s.1.machine.state = .lost → m.1.state = .lost := by
      rw [hIdle]
      rintro ⟨⟩
    have hServes := serves_of_kept hBegun.toKept hLost
    have hTidy := hFit.tidy.of_serves hServes
    have hSound := hFit.sound.of_serves hServes
    -- the image acquired is one of a sound screen, so the frame can be ended on it
    have hWell : Synchronizer.EndsWell f m.2 := by
      refine (endsWell_of_begun hBegun).mpr (hFit.sound.screen ?_ _ hBegun.index)
      rw [hIdle]
      rintro ⟨⟩
    exact ⟨⟨hTidy.orderly, hTidy.apart, hTidy.chain, hTidy.targets⟩,
      hServes.risks.clean trivial hFit.clean, ⟨hSound.setup, hSound.screen⟩,
      .inr ⟨f, ⟨rfl, hBegun.state, hBegun.image, hBegun.draw⟩, hWell⟩⟩
  · rintro e m (⟨-, rfl, hCause⟩ | ⟨hIdle, hNotBegun⟩)
    · exact ⟨hFit, fun hOutOfDate => absurd hOutOfDate hCause⟩
    · have hLost : s.1.machine.state = .lost → m.1.state = .lost := by
        rw [hIdle]
        rintro ⟨⟩
      have hServes := serves_of_kept hNotBegun.toKept hLost
      -- an idle machine held no frame before the call
      have hResting : Resting s := by
        refine hFit.frames.resolve_right ?_
        rintro ⟨f, hPending⟩
        rw [hPending.state] at hIdle
        cases hIdle
      have hResting' : Resting (withMachinery m s) := ⟨hResting.frame, hNotBegun.state⟩
      exact ⟨⟨hFit.tidy.of_serves hServes, hServes.risks.clean trivial hFit.clean,
        hFit.sound.of_serves hServes, .inl hResting'⟩, fun _ => hResting'⟩

theorem ensures_beginFrame (hFit : Fit s) :
    beginFrame.Ensures s (fun _ t => Comes s .beginFrame t) (fun _ t => Comes s .beginFrame t) := by
  have hReset : Fit ({ s.1 with memory := s.1.memory.reset }, s.2) :=
    hFit.of_aside (aside_of_passes (.refl s.2.gpu))
  refine ensures_beginFrame_of ((ensures_beginMachine _ hReset).mono (fun _ _ h => .inl h) ?_)
  rintro e t ⟨hFit', hResting⟩
  exact ⟨fun _ => .inl hFit', fun hOutOfDate hRebuilds =>
    (ensures_rebuild_comes hFit' (hResting hOutOfDate) hRebuilds).mono (fun _ _ h => .inl h)
      fun _ _ h => h⟩

/-- Ending the frame leaves a renderer at rest, and needs the frame to end well. -/
theorem ensures_endMachine_serves {f : Frame} (hTidy : Tidy s) (hRecording : Recording s f) :
    (onMachine (Synchronizer.endFrame f)).Ensures ({ s.1 with frame := none }, s.2)
      (fun _ t => Serves (Synchronizer.EndsWell f (scene s)) s t ∧ Resting t)
      (fun _ t => Serves (Synchronizer.EndsWell f (scene s)) s t ∧ Resting t) := by
  have hEnds : ∀ {m}, Synchronizer.Ended s.1.machine f (scene s) m →
      Serves (Synchronizer.EndsWell f (scene s)) s
          (withMachinery m ({ s.1 with frame := none }, s.2)) ∧
        Resting (withMachinery m ({ s.1 with frame := none }, s.2)) := by
    intro m hEnded
    have hNotLost : s.1.machine.state ≠ .lost := by
      rw [hRecording.state]
      exact nofun
    have h := serves_of_ended hTidy hNotLost hEnded
    exact ⟨⟨h.setup, h.apart, h.lost, h.handle, h.images, h.device, h.targets, h.risks⟩,
      rfl, hEnded.state⟩
  rw [onMachine, ensures_on]
  exact (Synchronizer.ensures_endFrame_scene f s.1.machine (scene s) hRecording.state
    hRecording.image hTidy.apart hRecording.draw).mono (fun _ _ h => hEnds h) fun _ _ h => hEnds h

theorem ensures_endMachine {f : Frame} (hFit : Fit s) (hPending : Pending s f) :
    (onMachine (Synchronizer.endFrame f)).Ensures ({ s.1 with frame := none }, s.2)
      (fun _ t => Fit t ∧ Resting t) (fun _ t => Fit t ∧ Resting t) := by
  have hEnds : ∀ {t}, Serves (Synchronizer.EndsWell f (scene s)) s t ∧ Resting t →
      Fit t ∧ Resting t := by
    rintro t ⟨hServes, hResting⟩
    exact ⟨⟨hFit.tidy.of_serves hServes, hServes.risks.clean hPending.well hFit.clean,
      hFit.sound.of_serves hServes, .inl hResting⟩, hResting⟩
  exact (ensures_endMachine_serves hFit.tidy hPending.toRecording).mono (fun _ _ h => hEnds h)
    fun _ _ h => hEnds h

theorem ensures_endFrame (hFit : Fit s) :
    endFrame.Ensures s (fun _ t => Comes s .endFrame t) (fun _ t => Comes s .endFrame t) := by
  refine ensures_endFrame_of (fun _ => .inl hFit) fun f hFrame =>
    (ensures_endMachine hFit (hFit.pending hFrame)).mono (fun _ _ h => .inl h.1) ?_
  rintro e t ⟨hFit', hResting⟩
  have hAside : Aside t (Logging.push outOfDateEntry t) := Steady.push _ _
  exact ⟨fun _ => .inl hFit', fun _ hRebuilds =>
    (ensures_rebuild_comes (hFit'.of_aside hAside) (hResting.of_aside hAside) hRebuilds).mono
      (fun _ _ h => .inl h) fun _ _ h => h⟩

-- ---------------------------------------------------------------------------
-- All calls
-- ---------------------------------------------------------------------------

theorem ensures_aside {op : Action Unit} (hOp : op.Within Aside) (hFit : Fit s) :
    op.Ensures s (fun _ t => Comes s c t) (fun _ t => Comes s c t) := by
  have hComes : ∀ t, Aside s t → Comes s c t := fun _ hAside => .inl (hFit.of_aside hAside)
  exact (hOp s).mono (fun _ => hComes) fun _ => hComes

/-- Every call keeps a renderer fit, unless its rebuild fails. -/
theorem ensures_serve (c : Request) (hFit : Fit s) :
    (serve c).Ensures s (fun _ t => Comes s c t) (fun _ t => Comes s c t) := by
  by_cases hAside : c.isAside = true
  · exact ensures_aside (aside_serve hAside) hFit
  cases c with
  | beginFrame => exact ensures_beginFrame hFit
  | draw mesh mode =>
    exact (ensures_draw mesh mode hFit).mono (fun _ _ h => .inl h) fun _ _ h => .inl h
  | endFrame => exact ensures_endFrame hFit
  | resize window => exact ensures_resize window hFit
  | follow script =>
    rw [serve, ensures_change]
    exact .inl (hFit.follow script)
  | _ => exact absurd rfl hAside

theorem fit_of_step (hFit : Fit s) (hStep : Step s c t) :
    Fit t ∨ FailedRebuild s c t ∧ Broken t := by
  obtain ⟨r, hRun⟩ := hStep
  cases r with
  | ok a => exact ensures_serve c hFit _ _ hRun
  | error e => exact ensures_serve c hFit _ _ hRun

/-- Renderers are fit as long as failed rebuilds leave them sound. -/
theorem fit_of_reachable (hReachable : Reachable Trusted s) : Fit s := by
  induction hReachable with
  | @created window config h h' r hNew hRun => exact (ensures_create window config h hNew).of_ok hRun
  | step c _ hStep hTrusted ih =>
    rcases fit_of_step ih hStep with hFit | ⟨hFailed, hBroken⟩
    · exact hFit
    · exact hBroken.fit (hTrusted hFailed)

end RenderLoop.Renderer
