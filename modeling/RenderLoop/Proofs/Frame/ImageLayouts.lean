import RenderLoop.Proofs.Frame.BufferLife
import RenderLoop.Proofs.Rehearsal.LayoutRule

/-!
# RenderLoop — the layouts of images along frames

A frame renders its image, moves it to the layout of presentation, presents it and
moves it back. In every faithful session each of these steps finds the image in the
layout it needs (`LayoutRule`), whatever fails and whatever the chain answers, and
when the machine is idle every image that was moved is an attachment again
(`layoutRule_of_reachable`). A presentation that finds the chain out of date is no
exception: its image is moved back as well.

The invariant is `Session.LaidOut`. While a frame is being recorded its draw buffer
holds the start of the render pass on its image and nothing else (`Session.Stage`),
so that submitting it makes the image an attachment. Nothing is ever put into the
setup buffer (`Recorder.Blank`), so that flushing it moves no image; that the draw
buffer is another buffer than that one is known from their life cycle
(`Session.Sound`).
-/

namespace RenderLoop

open DeviceHistory Rehearsal

/-- Any buffer. -/
abbrev AnyBuffer : CommandBuffer → Prop := fun _ => True

-- ---------------------------------------------------------------------------
-- The recorder
-- ---------------------------------------------------------------------------

namespace Recorder

/-- There are no commands in the setup buffer, if there is one. -/
def Blank (r : Recorder) (h : DeviceHistory) : Prop := ∀ b, r.setup = some b → contents b h = []

/-- Freeing some buffers leaves the layouts of images alone. -/
theorem still_freedIfAny (bs : List CommandBuffer) (h : DeviceHistory) :
    Still AnyBuffer h (freedIfAny bs h) := by
  rw [freedIfAny]
  split
  · exact .refl _ h
  · exact (Still.refl _ h).cons trivial

/-- Freeing all of them does so, too. -/
theorem still_released (r : Recorder) (h : DeviceHistory) : Still AnyBuffer h (r.released h) :=
  ((still_freedIfAny _ h).trans (still_freedIfAny _ _)).cons trivial

/-- Allocating buffers leaves the layouts of images alone. -/
theorem still_allocated {w w' : Rehearsal} {bs : List CommandBuffer}
    (hAllocated : Allocated w bs w') : Still AnyBuffer w.history w'.history := by
  rw [hAllocated.history]
  exact (Still.refl _ _).cons trivial

/-- A new buffer has nothing in it, and beginning one puts nothing into those there were. -/
theorem still_newOutcome {w w' : Rehearsal} {out : Except RenderError CommandBuffer}
    (hOutcome : NewOutcome w out w') :
    Still (fun b => b.handle < w.nextHandle) w.history w'.history ∧
      ∀ b, out = .ok b → contents b w'.history = [] := by
  cases hOutcome with
  | notAllocated hHistory _ =>
    rw [hHistory]
    exact ⟨(Still.refl _ _).cons trivial, nofun⟩
  | noBuffer hAllocated hHistory _ =>
    rw [hHistory]
    exact ⟨(still_allocated hAllocated).mono fun _ _ => trivial, nofun⟩
  | notBegun hAllocated hHistory _ =>
    rw [hHistory]
    have hStill := (still_allocated hAllocated).cons (e := .refused .beginBuffer) trivial
    exact ⟨(hStill.cons (e := .freed _) trivial).mono fun _ _ => trivial, nofun⟩
  | @begun b _ _ _ hAllocated hHistory _ =>
    rw [hHistory]
    refine ⟨((still_allocated hAllocated).mono fun _ _ => trivial).cons ?_, ?_⟩
    · -- the buffer that is begun is new, so that none of those there were is emptied
      exact Nat.not_lt.mpr ((hAllocated.mem_iff b).mp List.mem_cons_self).1
    · rintro - ⟨⟩
      exact contents_begun_self

/-- A setup buffer that is asked for is empty, be it old or new. -/
theorem still_setupOutcome {r : Recorder} {w : Rehearsal} {out : Except RenderError CommandBuffer}
    {t : Recorder × Rehearsal} (hBlank : r.Blank w.history) (hOutcome : SetupOutcome r w out t) :
    Still (fun b => b.handle < w.nextHandle) w.history t.2.history ∧ t.1.Blank t.2.history := by
  cases hOutcome with
  | present _ => exact ⟨.refl _ _, hBlank⟩
  | failed hSetup hNew =>
    refine ⟨(still_newOutcome hNew).1, fun b hb => ?_⟩
    rw [hSetup] at hb
    cases hb
  | @begun b _ _ hNew =>
    obtain ⟨hStill, hContents⟩ := still_newOutcome hNew
    refine ⟨hStill, fun b' hb' => ?_⟩
    cases hb'
    exact hContents b rfl

section Flush

variable {b : CommandBuffer} {h : DeviceHistory}

/-- What is planned for a buffer without commands does nothing to images. -/
theorem still_flushEvent (hEmpty : contents b h = []) :
    ∀ i ∈ flushPlan b, ∀ h', Still AnyBuffer h h' → Still AnyBuffer h (i.event :: h') := by
  intro i hi h' hStill
  simp only [flushPlan, List.mem_cons, List.not_mem_nil, or_false] at hi
  rcases hi with rfl | rfl | rfl
  · exact hStill.cons trivial
  · exact hStill.submitted ((hStill.contents b trivial).trans hEmpty) [] []
  · exact hStill.cons trivial

/-- A failure of it does as little. -/
theorem still_flushFailure (hEmpty : contents b h = []) :
    ∀ i ∈ flushPlan b, ∀ e, i.fails e → ∀ h', Still AnyBuffer h h' →
      Still AnyBuffer h (e :: h') := by
  intro i hi e hFails h' hStill
  simp only [flushPlan, List.mem_cons, List.not_mem_nil, or_false] at hi
  rcases hi with rfl | rfl | rfl
  · cases hFails
    exact hStill.cons trivial
  · rcases hFails with rfl | rfl
    · exact hStill.cons trivial
    · exact hStill.submitFailed ((hStill.contents b trivial).trans hEmpty)
  · rcases hFails with rfl | rfl <;> exact hStill.cons trivial

end Flush

/-- Flushing the setup buffer does nothing to images: there is nothing in it. -/
theorem still_flushOutcome {r : Recorder} {w : Rehearsal} {out : Except RenderError Unit}
    {t : Recorder × Rehearsal} (hBlank : r.Blank w.history) (hOutcome : FlushOutcome r w out t) :
    Still AnyBuffer w.history t.2.history ∧ t.1.Blank t.2.history := by
  cases hOutcome with
  | nothing _ => exact ⟨.refl _ _, hBlank⟩
  | @flushed b w' hSetup hHistory _ =>
    refine ⟨?_, nofun⟩
    show Still AnyBuffer w.history w'.history
    rw [hHistory]
    -- up to the free of the buffer, which is the last event
    refine Still.cons ?_ trivial
    exact Plan.keeps_after (P := Still AnyBuffer w.history)
      (still_flushEvent (hBlank b hSetup)) (.refl _ _)
  | @failed _ b h w' hSetup hBroken hHistory _ =>
    refine ⟨?_, nofun⟩
    show Still AnyBuffer w.history w'.history
    rw [hHistory]
    refine Still.cons ?_ trivial
    exact Plan.keeps_brokenOff (P := Still AnyBuffer w.history) hBroken
      (still_flushEvent (hBlank b hSetup)) (still_flushFailure (hBlank b hSetup)) (.refl _ _)

/-- Choosing a draw buffer does nothing to images, and leaves the setup buffer alone. -/
theorem still_drawOutcome {index images : UInt32} {r : Recorder} {w : Rehearsal}
    {out : Except RenderError CommandBuffer} {t : Recorder × Rehearsal}
    (hOutcome : DrawOutcome index images r w out t) :
    Still AnyBuffer w.history t.2.history ∧ t.1.setup = r.setup := by
  cases hOutcome with
  | @outOfRange _ w' _ hHistory _ =>
    refine ⟨?_, rfl⟩
    show Still AnyBuffer w.history w'.history
    rw [hHistory]
    exact .refl _ _
  -- a reset records nothing
  | @reset _ w' _ _ hHistory _ | @notReset _ w' _ hHistory _ =>
    refine ⟨?_, rfl⟩
    show Still AnyBuffer w.history w'.history
    rw [hHistory]
    exact (Still.refl _ _).cons trivial
  -- freeing and allocating touch no image
  | renewed hDropped _ hAllocated _ _ =>
    refine ⟨Still.trans ?_ (still_allocated hAllocated), rfl⟩
    rw [hDropped]
    exact still_freedIfAny _ _
  | @notAllocated _ w' hHistory _ =>
    refine ⟨?_, rfl⟩
    show Still AnyBuffer w.history w'.history
    rw [hHistory]
    exact (still_freedIfAny _ _).cons trivial
  | @miscounted _ _ w₁ w₂ w' hDropped _ hAllocated hHistory _ =>
    refine ⟨?_, rfl⟩
    show Still AnyBuffer w.history w'.history
    rw [hHistory]
    refine (Still.trans ?_ (still_allocated hAllocated)).cons trivial
    rw [hDropped]
    exact still_freedIfAny _ _

/-- There is nothing in the setup buffer of a new recorder. -/
theorem laidOut_of_recorderOutcome {r : Recorder} {w w' : Rehearsal} (hNew : w.history = [])
    (hOutcome : RecorderOutcome w (.ok r) w') :
    w'.history.Obeys LayoutRule ∧ w'.history.layouts = (fun _ => none) ∧ r.Blank w'.history := by
  cases hOutcome with
  | @created b _ _ w₁ _ hBegun hAllocated =>
    obtain ⟨hStill, hContents⟩ := still_newOutcome hBegun
    rw [hNew] at hStill
    have hPresent := still_allocated hAllocated
    refine ⟨hPresent.obeys (hStill.obeys trivial), hPresent.layouts.trans hStill.layouts,
      fun b' hb' => ?_⟩
    cases hb'
    exact (hPresent.contents b trivial).trans (hContents b rfl)

end Recorder

-- ---------------------------------------------------------------------------
-- Frames
-- ---------------------------------------------------------------------------

/-- Every image that was moved is an attachment. -/
def Returned (h : DeviceHistory) : Prop :=
  ∀ index l, h.layouts index = some l → l = .colorAttachment

/-- The rule was kept, and one image was moved to a layout. -/
structure Moves (index : UInt32) (l : ImageLayout) (h h' : DeviceHistory) : Prop where
  obeys : h'.Obeys LayoutRule
  layouts : h'.layouts = Function.update h.layouts index (some l)

namespace Moves

variable {index : UInt32} {l l' : ImageLayout} {h h' h'' : DeviceHistory}

/-- The image is in the layout it was moved to. -/
theorem at_self (hMoves : Moves index l h h') : h'.layouts index = some l := by
  rw [hMoves.layouts, Function.update_self]

/-- Of two moves of an image the second one counts. -/
theorem trans (hFirst : Moves index l h h') (hSecond : Moves index l' h' h'') :
    Moves index l' h h'' := by
  refine ⟨hSecond.obeys, ?_⟩
  rw [hSecond.layouts, hFirst.layouts, Function.update_idem]

/-- Doing nothing to images afterwards leaves them where they were moved to. -/
theorem still {spared : CommandBuffer → Prop} (hMoves : Moves index l h h')
    (hStill : Still spared h' h'') : Moves index l h h'' where
  obeys := hStill.obeys hMoves.obeys
  layouts := hStill.layouts.trans hMoves.layouts

/-- An image that is moved back to be an attachment leaves none elsewhere. -/
theorem returned (hMoves : Moves index .colorAttachment h h') (hReturned : Returned h) :
    Returned h' := by
  intro other l hLayout
  rw [hMoves.layouts, Function.update_apply] at hLayout
  split at hLayout
  · exact (Option.some.inj hLayout).symm
  · exact hReturned other l hLayout

end Moves

namespace Synchronizer

variable {m : Synchronizer} {h : DeviceHistory}

/-- Opening a draw buffer puts the start of a render pass into it and does no more. -/
theorem still_openingPlan (b : CommandBuffer) (index : UInt32) (extent : Extent)
    (clears : List ClearValue) (h : DeviceHistory) :
    Still (· ≠ b) h ((openingPlan b index extent clears).after h) := by
  refine still_after ?_ h
  simp only [openingPlan, openingCommands, List.map, List.forall_mem_cons]
  exact ⟨not_not.mpr rfl, not_not.mpr rfl, not_not.mpr rfl, not_not.mpr rfl, by simp⟩

/-- The draw buffer holds the start of the render pass then, and nothing else. -/
theorem contents_openingPlan (b : CommandBuffer) (index : UInt32) (extent : Extent)
    (clears : List ClearValue) (h : DeviceHistory) :
    contents b ((openingPlan b index extent clears).after h) =
      openingCommands index extent clears := by
  simp only [openingPlan, openingCommands, List.map, Plan.after, Intent.begin, Intent.record,
    contents_recorded_self, contents_begun_self, List.nil_append, List.cons_append]

/-- A frame that is opened has the start of its render pass in its draw buffer. -/
theorem still_openingOutcome_ok {index images : UInt32} {extent : Extent}
    {clears : List ClearValue} {r : Recorder} {w : Rehearsal} {b : CommandBuffer}
    {t : Recorder × Rehearsal} (hOutcome : OpeningOutcome index images extent clears r w (.ok b) t) :
    Still (· ≠ b) w.history t.2.history ∧ t.1.setup = r.setup ∧
      contents b t.2.history = openingCommands index extent clears := by
  cases hOutcome with
  | @opened _ _ w₁ w' hDraw hHistory _ =>
    obtain ⟨hStill, hSetup⟩ := Recorder.still_drawOutcome hDraw
    show Still (· ≠ b) w.history w'.history ∧ _ ∧ contents b w'.history = _
    rw [hHistory]
    exact ⟨(hStill.mono fun _ _ => trivial).trans (still_openingPlan b index extent clears _),
      hSetup, contents_openingPlan b index extent clears _⟩

/-- A frame that is not opened leaves the images and the setup buffer alone. -/
theorem still_openingOutcome_error {index images : UInt32} {extent : Extent}
    {clears : List ClearValue} {r : Recorder} {w : Rehearsal} {e : RenderError}
    {t : Recorder × Rehearsal}
    (hOutcome : OpeningOutcome index images extent clears r w (.error e) t) :
    Still AnyBuffer w.history t.2.history ∧ t.1.setup = r.setup := by
  cases hOutcome with
  | noBuffer hDraw => exact Recorder.still_drawOutcome hDraw
  | @notBegun _ _ _ w₁ w' hDraw hHistory _ =>
    obtain ⟨hStill, hSetup⟩ := Recorder.still_drawOutcome hDraw
    refine ⟨?_, hSetup⟩
    show Still AnyBuffer w.history w'.history
    rw [hHistory]
    exact hStill.cons trivial

/-- A draw buffer with the start of a render pass in it makes the image an attachment. -/
theorem moves_drawPlan {b : CommandBuffer} {index : UInt32} {extent : Extent}
    {clears : List ClearValue} (hObeys : h.Obeys LayoutRule)
    (hContents : contents b h = openingCommands index extent clears) :
    Moves index .colorAttachment h ((drawPlan m b).after h) ∧
      ((drawPlan m b).after h).rendered = h.rendered ++ [index] := by
  have hAll : contents b (.ended b :: .recorded b .endRenderPass :: h) =
      openingCommands index extent clears ++ [.endRenderPass] := by
    show contents b (.recorded b .endRenderPass :: h) = _
    rw [contents_recorded_self, hContents]
  -- the submission is what executes the commands: the layouts fit, the image moves, and it is
  -- rendered
  refine ⟨⟨⟨?_, trivial, trivial, hObeys⟩, ?_⟩, ?_⟩
  · show Command.AllFit h.layouts (contents b (.ended b :: .recorded b .endRenderPass :: h))
    rw [hAll]
    exact ⟨trivial, trivial, trivial, trivial, trivial⟩
  · show (contents b (.ended b :: .recorded b .endRenderPass :: h)).foldl Command.move h.layouts = _
    rw [hAll]
    rfl
  · show h.rendered ++ (contents b (.ended b :: .recorded b .endRenderPass :: h)).filterMap _ = _
    rw [hAll]
    rfl

/-- The buffer of a barrier moves an image that is in the layout to be moved from. -/
theorem moves_barrierPlan (b : CommandBuffer) {index : UInt32} {t : ImageTransition}
    (hObeys : h.Obeys LayoutRule) (hFits : h.layouts index = some t.old) :
    Moves index t.new h ((barrierPlan b index t).after h) ∧
      ((barrierPlan b index t).after h).rendered = h.rendered := by
  let before : DeviceHistory :=
    .ended b :: .recorded b (.barrier (.swapchain index) t) :: .begun b :: h
  -- the buffer was begun afresh, so the barrier is all it holds
  have hAll : contents b before = [.barrier (.swapchain index) t] := by
    show contents b (.recorded b (.barrier (.swapchain index) t) :: .begun b :: h) = _
    rw [contents_recorded_self, contents_begun_self, List.nil_append]
  refine ⟨⟨⟨?_, trivial, trivial, trivial, hObeys⟩, ?_⟩, ?_⟩
  · show Command.AllFit h.layouts (contents b before)
    rw [hAll]
    exact ⟨hFits, trivial⟩
  · show (contents b before).foldl Command.move h.layouts = _
    rw [hAll]
    rfl
  · show h.rendered ++ (contents b before).filterMap _ = _
    rw [hAll]
    exact List.append_nil _

/-- All of the end of a frame finds its image as it needs it, and leaves it an attachment. -/
theorem moves_framePlan {f : Frame} {clears : List ClearValue} (hObeys : h.Obeys LayoutRule)
    (hRendered : h.rendered = [])
    (hContents : contents f.buffer h = openingCommands f.imageIndex f.extent clears)
    (outcome : Except RenderError Unit) :
    Moves f.imageIndex .colorAttachment h ((m.framePlan f outcome).after h) := by
  obtain ⟨hDrawn, hImage⟩ := moves_drawPlan (m := m) hObeys hContents
  rw [hRendered, List.nil_append] at hImage
  obtain ⟨hPre, hSame⟩ :=
    moves_barrierPlan m.recorder.prePresent (t := .prePresent) hDrawn.obeys hDrawn.at_self
  rw [hImage] at hSame
  -- rendered, moved for the presentation, presented, and moved back
  have hPresented : Moves f.imageIndex .presentSource h (.presented f.imageIndex
      [m.renderComplete] outcome :: (barrierPlan m.recorder.prePresent f.imageIndex
        .prePresent).after ((drawPlan m f.buffer).after h)) :=
    ⟨⟨⟨hPre.at_self, hSame⟩, hPre.obeys⟩, (hDrawn.trans hPre).layouts⟩
  obtain ⟨hPost, -⟩ := moves_barrierPlan m.recorder.postPresent (t := .postPresent)
    hPresented.obeys hPresented.at_self
  rw [framePlan]
  simp only [Plan.after_append]
  exact (hPresented.trans hPost).still ((Still.refl AnyBuffer _).cons trivial)

/-- A failure at the end of a frame is as good as what was planned in its place. -/
theorem excusable_framePlan_layouts (m : Synchronizer) (f : Frame)
    (outcome : Except RenderError Unit) : ∀ i ∈ m.framePlan f outcome, i.Excusable LayoutRule := by
  refine forall_mem_framePlan (fun b _ => excusable_begin_layouts b)
    (fun b _ c => excusable_record_layouts b c) (fun b _ => excusable_finish_layouts b)
    (fun b _ waits signals => excusable_submit_layouts b waits signals) ?_
    excusable_wait_layouts outcome
  rintro index out - ⟨cause, -, rfl⟩ h hRule
  exact hRule

end Synchronizer

-- ---------------------------------------------------------------------------
-- Sessions
-- ---------------------------------------------------------------------------

namespace Session

open Synchronizer

/-- What is known of the images in each state of the machine. -/
inductive Stage (s : Session) : FrameState → Prop
  | idle (hReturned : Returned s.world.history) : Stage s .idle
  | recording {f : Frame} (hFrame : s.frame = some f) (hReturned : Returned s.world.history)
    (hRendered : s.world.history.rendered = [])
    (hContents : contents f.buffer s.world.history =
      openingCommands f.imageIndex f.extent s.machine.clearValues) : Stage s .recording
  | lost : Stage s .lost

/-- What is true of the images between any two calls. -/
structure LaidOut (s : Session) : Prop where
  obeys : s.world.history.Obeys LayoutRule
  blank : s.machine.recorder.Blank s.world.history
  stage : Stage s s.machine.state

variable {s : Session}

/-- No image is left in the layout of presentation while the machine is idle. -/
theorem LaidOut.returned (hLaid : LaidOut s) (hIdle : s.machine.state = .idle) :
    Returned s.world.history := by
  have hStage := hLaid.stage
  rw [hIdle] at hStage
  cases hStage with
  | idle hReturned => exact hReturned

/-- What does nothing to images and puts nothing into the buffers of frames leaves them as they
are. -/
theorem LaidOut.still (hLaid : LaidOut s) {r : Recorder} {w : Rehearsal}
    {spared : CommandBuffer → Prop} (hStill : Still spared s.world.history w.history)
    (hBlank : r.Blank w.history)
    (hSpared : ∀ f, s.machine.state = .recording → s.frame = some f → spared f.buffer) :
    LaidOut ⟨{ s.machine with recorder := r }, w, s.frame⟩ := by
  refine ⟨hStill.obeys hLaid.obeys, hBlank, ?_⟩
  have hReturned : Returned s.world.history → Returned w.history := by
    rw [Returned, ← hStill.layouts]
    exact id
  have hStage := hLaid.stage
  show Stage _ s.machine.state
  -- the stage is taken apart by the state, which stays as it is
  generalize hState : s.machine.state = state at hStage
  cases hStage with
  | idle hBefore => exact .idle (hReturned hBefore)
  | @recording f hFrame hBefore hRendered hContents =>
    exact .recording hFrame (hReturned hBefore) (hStill.rendered.trans hRendered)
      ((hStill.contents f.buffer (hSpared f hState hFrame)).trans hContents)
  | lost => exact .lost

/-- A frame that began holds the start of the render pass on its image. -/
theorem LaidOut.began (hLaid : LaidOut s) {extent : Extent} {f : Frame}
    {t : Synchronizer × Rehearsal} (hOutcome : BeginOutcome extent s.machine s.world (.ok f) t)
    (hSound : Sound ⟨t.1, t.2, some f⟩) : LaidOut ⟨t.1, t.2, some f⟩ := by
  cases hOutcome with
  | @begun index b r w₁ w' hIdle hAcquired hOpening =>
    obtain ⟨hStill, hSetup, hContents⟩ := still_openingOutcome_ok hOpening
    have hMem := (hSound.opened rfl rfl).mem
    have hAlive := hSound.alive nofun
    dsimp only at hStill hSetup hContents hMem hAlive
    rw [hAcquired.history] at hStill
    refine ⟨hStill.obeys ⟨trivial, hLaid.obeys⟩, fun b' hb' => ?_, .recording rfl ?_ ?_ hContents⟩
    · -- the setup buffer is not the draw buffer that was just begun
      have hNe : b ≠ b' := hSound.recorder.ne_setup hb' (Recorder.mem_frameBuffers_of_draw hAlive hMem)
      exact (hStill.contents b' hNe.symm).trans (hLaid.blank b' (hSetup ▸ hb'))
    · intro other l hLayout
      exact hLaid.returned hIdle other l ((congrFun hStill.layouts other).symm.trans hLayout)
    · exact hStill.rendered

/-- Nothing became of the images when a frame did not begin. -/
theorem LaidOut.notBegan (hLaid : LaidOut s) {extent : Extent} {e : RenderError}
    {t : Synchronizer × Rehearsal}
    (hOutcome : BeginOutcome extent s.machine s.world (.error e) t) :
    LaidOut ⟨t.1, t.2, s.frame⟩ := by
  cases hOutcome with
  | refused _ => exact hLaid
  -- acquiring changes no layout, so only the history grows
  | @outOfDate w' hIdle hAcquired =>
    refine ⟨?_, ?_, .idle ?_⟩ <;> dsimp only <;> rw [hAcquired.history]
    · exact ⟨trivial, hLaid.obeys⟩
    · exact hLaid.blank
    · exact hLaid.returned hIdle
  | @notAcquired _ w' _ _ hAcquired =>
    refine ⟨?_, ?_, .lost⟩ <;> dsimp only <;> rw [hAcquired.history]
    · exact ⟨trivial, hLaid.obeys⟩
    · exact hLaid.blank
  | @lost _ index r w₁ w₂ w' _ hAcquired hOpening hHistory _ =>
    -- what was recorded for the frame was not submitted
    obtain ⟨hStill, hSetup⟩ := still_openingOutcome_error hOpening
    dsimp only at hStill hSetup
    rw [hAcquired.history, ← hHistory] at hStill
    refine ⟨hStill.obeys ⟨trivial, hLaid.obeys⟩, fun b hb => ?_, .lost⟩
    exact (hStill.contents b trivial).trans (hLaid.blank b (hSetup ▸ hb))

/-- All of the end of a frame leaves its image an attachment, and nothing in the setup buffer. -/
theorem LaidOut.finished (hLaid : LaidOut s) (hSound : Sound s) {f : Frame}
    (hRecording : s.machine.state = .recording) (hFrame : s.frame = some f)
    {outcome : Except RenderError Unit} {h : DeviceHistory}
    (hHistory : h = (s.machine.framePlan f outcome).after s.world.history) :
    h.Obeys LayoutRule ∧ s.machine.recorder.Blank h ∧ Returned h := by
  have hStage := hLaid.stage
  rw [hRecording] at hStage
  cases hStage with
  | recording hFrame' hReturned hRendered hContents =>
    rw [hFrame] at hFrame'
    cases hFrame'
    have hMoves := moves_framePlan (m := s.machine) hLaid.obeys hRendered hContents outcome
    rw [hHistory]
    refine ⟨hMoves.obeys, fun b hb => ?_, hMoves.returned hReturned⟩
    rw [contents_after (avoids_framePlan (hSound.setup_not_mem hRecording hFrame hb) outcome)]
    exact hLaid.blank b hb

/-- However a frame ends, each of its steps found the image as it needed it; and unless the frame
is lost, the image is an attachment again. -/
theorem LaidOut.ended (hLaid : LaidOut s) (hSound : Sound s) {f : Frame} (hFrame : s.frame = some f)
    {out : Except RenderError Unit} {t : Synchronizer × Rehearsal}
    (hOutcome : EndOutcome f s.machine s.world out t) : LaidOut ⟨t.1, t.2, s.frame⟩ := by
  cases hOutcome with
  | refused _ => exact hLaid
  | otherImage _ _ _ => exact hLaid
  | @lost _ outcome w' hRecording _ _ hBroken _ =>
    -- what broke off is part of a whole that keeps to the rule
    have hWhole : ((s.machine.framePlan f outcome).after s.world.history).Obeys LayoutRule :=
      (hLaid.finished hSound hRecording hFrame rfl).1
    refine ⟨Plan.obeys_of_brokenOff hBroken (excusable_framePlan_layouts _ f outcome) hWhole,
      fun b hb => ?_, .lost⟩
    dsimp only
    rw [contents_brokenOff (avoids_framePlan (hSound.setup_not_mem hRecording hFrame hb) outcome)
      hBroken]
    exact hLaid.blank b hb
  | outOfDate hRecording _ hHistory _ =>
    obtain ⟨hObeys, hBlank, hReturned⟩ := hLaid.finished hSound hRecording hFrame hHistory
    exact ⟨hObeys, hBlank, .idle hReturned⟩
  | finished hRecording _ _ hHistory _ =>
    obtain ⟨hObeys, hBlank, hReturned⟩ := hLaid.finished hSound hRecording hFrame hHistory
    exact ⟨hObeys, hBlank, .idle hReturned⟩

/-- Destruction does nothing to images. -/
theorem LaidOut.gone (hLaid : LaidOut s) (hSound : Sound s) :
    LaidOut ⟨(destroy s.both).1, (destroy s.both).2, s.frame⟩ := by
  cases hDestroyed : s.machine.destroyed with
  | true =>
    rw [destroy_of_destroyed s.both hDestroyed]
    exact hLaid
  | false =>
    have hAlive := hSound.destroyed.trans hDestroyed
    obtain ⟨hMachine, hHistory, -⟩ := destroy_of_alive s.machine s.world hDestroyed hAlive
    -- destroying frees buffers and semaphores and moves no image
    have hReleased := ((Recorder.still_released s.machine.recorder s.world.history).cons
      (e := .destroyedSemaphore s.machine.presentComplete) trivial).cons
      (e := .destroyedSemaphore s.machine.renderComplete) trivial
    rw [← hHistory] at hReleased
    refine ⟨hReleased.obeys hLaid.obeys, ?_, ?_⟩ <;> dsimp only <;> rw [both, hMachine]
    · intro b hSetup
      cases hSetup
    · exact .lost

/-- One call keeps the images of a machine in order. -/
theorem LaidOut.call (hLaid : LaidOut s) (hSound : Sound s) {c : Call} {t : Session}
    (hFaithful : Faithful s c) (hCall : s.call c = some t) : LaidOut t := by
  have hAfter := hSound.call hFaithful hCall
  -- the draw buffer of an open frame is older than any that is begun now
  have hOld : ∀ f, s.machine.state = .recording → s.frame = some f →
      f.buffer.handle < s.world.nextHandle := by
    intro f hRecording hFrame
    have hAlive := hSound.alive (by rw [hRecording]; decide)
    exact hSound.recorder.fresh _ (Recorder.mem_owned_of_frame
      (Recorder.mem_frameBuffers_of_draw hAlive (hSound.opened hRecording hFrame).mem))
  cases callOutcome_of_call hCall with
  | began hOutcome => exact hLaid.began hOutcome hAfter
  | notBegan hOutcome => exact hLaid.notBegan hOutcome
  | ended hOutcome => exact hLaid.ended hSound hFaithful hOutcome
  | setup hOutcome =>
    obtain ⟨hStill, hBlank⟩ := Recorder.still_setupOutcome hLaid.blank hOutcome
    exact hLaid.still hStill hBlank hOld
  | flushed hOutcome =>
    obtain ⟨hStill, hBlank⟩ := Recorder.still_flushOutcome hLaid.blank hOutcome
    exact hLaid.still hStill hBlank fun _ _ _ => trivial
  | destroyed => exact hLaid.gone hSound
  | followed => exact hLaid.still (.refl AnyBuffer _) hLaid.blank fun _ _ _ => trivial

/-- No image of a new machine has been moved. -/
theorem laidOut_of_createOutcome {clearColor : Color} {w w' : Rehearsal} {m : Synchronizer}
    (hNew : w.history = []) (hOutcome : CreateOutcome clearColor w (.ok m) w') :
    LaidOut ⟨m, w', none⟩ := by
  cases hOutcome with
  | @created r s s' w₁ w₂ _ hRecorder hFirst hSecond =>
    obtain ⟨hObeys, hLayouts, hBlank⟩ := Recorder.laidOut_of_recorderOutcome hNew hRecorder
    have hStill : Still AnyBuffer w₁.history w'.history := by
      rw [hSecond.history, hFirst.history]
      refine Still.cons (Still.cons (.refl _ _) ?_) ?_ <;> trivial
    refine ⟨hStill.obeys hObeys, fun b hb => ?_, .idle fun index l hLayout => ?_⟩
    · exact (hStill.contents b trivial).trans (hBlank b hb)
    · dsimp only at hLayout
      rw [hStill.layouts, hLayouts] at hLayout
      cases hLayout

/-- The images are in order in every faithful session. -/
theorem laidOut_of_reachable (hReachable : Reachable Faithful s) : LaidOut s := by
  induction hReachable with
  | created hNew hRun => exact laidOut_of_createOutcome hNew ((ensures_create _ _).of_ok hRun)
  | call c hReachable hFaithful hCall ih =>
    exact ih.call (sound_of_reachable hReachable) hFaithful hCall

/-- **Images are used in the layouts they are in.** Whatever fails and whatever the chain answers:
every barrier that is submitted finds its image in the layout that it moves it from; every image
that is presented is in the layout of presentation, and is the one that was rendered in this frame;
and when the machine is idle, every image that was moved is an attachment again, so none is left
in the layout of presentation. -/
theorem layoutRule_of_reachable (hReachable : Reachable Faithful s) :
    s.world.history.Obeys LayoutRule ∧
      (s.machine.state = .idle → ∀ index l, s.world.history.layouts index = some l →
        l = .colorAttachment) := by
  have hLaid := laidOut_of_reachable hReachable
  exact ⟨hLaid.obeys, hLaid.returned⟩

/-- A machine that presents one image and finds the chain out of date with the next. Both have
been moved, and both are attachments again. -/
theorem layoutRule_of_two_frames :
    let w : Rehearsal := { chain :=
      { images := 2, extent := ⟨640, 480⟩
        presentScript := [.ok (), .error .swapchainOutOfDate] } }
    ∃ s, Reachable Faithful s ∧ w.history = [] ∧ s.machine.state = .idle ∧
      s.machine.framesCompleted = 1 ∧ s.world.history.length = 43 ∧
      s.world.history.layouts 0 = some .colorAttachment ∧
      s.world.history.layouts 1 = some .colorAttachment ∧
      s.world.history.Obeys LayoutRule ∧
      ∀ index l, s.world.history.layouts index = some l → l = .colorAttachment := by
  intro w
  -- one full frame, and one whose presentation finds the chain out of date
  have hSteps : ∃ m w' s₁ s₂ s₃ s₄, Op.start (create default) w = some (.ok m, w') ∧
      Session.call ⟨m, w', none⟩ (.beginFrame ⟨640, 480⟩) = some s₁ ∧
      s₁.frame = some ⟨0, ⟨6⟩, ⟨640, 480⟩⟩ ∧
      s₁.call (.endFrame ⟨0, ⟨6⟩, ⟨640, 480⟩⟩) = some s₂ ∧
      s₂.call (.beginFrame ⟨640, 480⟩) = some s₃ ∧
      s₃.frame = some ⟨1, ⟨7⟩, ⟨640, 480⟩⟩ ∧
      s₃.call (.endFrame ⟨1, ⟨7⟩, ⟨640, 480⟩⟩) = some s₄ ∧
      s₄.machine.state = .idle ∧ s₄.machine.framesCompleted = 1 ∧
      s₄.world.history.length = 43 ∧ s₄.world.history.layouts 0 = some .colorAttachment ∧
      s₄.world.history.layouts 1 = some .colorAttachment :=
    ⟨_, _, _, _, _, _, rfl, rfl, rfl, rfl, rfl, rfl, rfl, rfl, rfl, rfl, rfl, rfl⟩
  obtain ⟨m, w', s₁, s₂, s₃, s₄, hRun, hBegin, hFrame, hEnd, hBegin', hFrame', hEnd', hIdle,
    hCount, hLength, hFirst, hSecond⟩ := hSteps
  have hReachable : Reachable Faithful s₄ :=
    ((((Reachable.created rfl hRun).call (.beginFrame ⟨640, 480⟩) trivial hBegin).call
      (.endFrame _) hFrame hEnd).call (.beginFrame ⟨640, 480⟩) trivial hBegin').call
      (.endFrame _) hFrame' hEnd'
  have hRule := layoutRule_of_reachable hReachable
  exact ⟨s₄, hReachable, rfl, hIdle, hCount, hLength, hFirst, hSecond, hRule.1, hRule.2 hIdle⟩

end Session

end RenderLoop
