import RenderLoop.Proofs.Frame.Transitions

/-!
# RenderLoop — which frames may be handed back

While a frame is being recorded, a frame that is handed back is told apart from it by
its image alone. So a frame for another image is refused and changes nothing, and
every frame for the same image is accepted, whatever draw buffer it has: that buffer
is closed and submitted, and the one that was opened stays as it is.

A frame from before may be for the same image with another draw buffer, since the
indices of images come up again, and the buffers are exchanged when the number of
images changes. The machine submits a buffer that it freed then
(`endFrame_of_stale`).

What carries the theorem, `endFrame_iff_of_reachable`, is that the chain still has the
image of the open frame as its current one (`Session.Tracks`), as long as it is not
exchanged for another chain under the open frame.
-/

namespace RenderLoop

open DeviceHistory Rehearsal

-- ---------------------------------------------------------------------------
-- The current image
-- ---------------------------------------------------------------------------

namespace Recorder

/-- The beginning of a new buffer does not exchange the current image. -/
theorem current_of_newOutcome {w w' : Rehearsal} {out : Except RenderError CommandBuffer}
    (hOutcome : NewOutcome w out w') : w'.chain.current = w.chain.current := by
  cases hOutcome with
  | notAllocated _ hKept => exact hKept.current
  | noBuffer hAllocated _ hKept => exact hKept.current.trans hAllocated.current
  | notBegun hAllocated _ hKept => exact hKept.current.trans hAllocated.current
  | begun hAllocated _ hKept => exact hKept.current.trans hAllocated.current

/-- The request for a setup buffer does not exchange the current image. -/
theorem current_of_setupOutcome {r : Recorder} {w : Rehearsal}
    {out : Except RenderError CommandBuffer} {t : Recorder × Rehearsal}
    (hOutcome : SetupOutcome r w out t) : t.2.chain.current = w.chain.current := by
  cases hOutcome with
  | present _ => rfl
  | failed _ hNew => exact current_of_newOutcome hNew
  | begun _ hNew => exact current_of_newOutcome hNew

/-- The flush of a setup buffer does not exchange the current image. -/
theorem current_of_flushOutcome {r : Recorder} {w : Rehearsal} {out : Except RenderError Unit}
    {t : Recorder × Rehearsal} (hOutcome : FlushOutcome r w out t) :
    t.2.chain.current = w.chain.current := by
  cases hOutcome with
  | nothing _ => rfl
  | flushed _ _ hKept => exact hKept.current
  | failed _ _ _ hKept => exact hKept.current

/-- The choice of a draw buffer does not exchange the current image. -/
theorem current_of_drawOutcome {index images : UInt32} {r : Recorder} {w : Rehearsal}
    {b : CommandBuffer} {t : Recorder × Rehearsal}
    (hOutcome : DrawOutcome index images r w (.ok b) t) : t.2.chain.current = w.chain.current := by
  cases hOutcome with
  | reset _ _ _ hKept => exact hKept.current
  | renewed _ hKept hAllocated _ _ => exact hAllocated.current.trans hKept.current

end Recorder

namespace Synchronizer

variable {m : Synchronizer} {w : Rehearsal} {f : Frame}

/-- A frame that began is for the image that the chain has as its current one then. -/
theorem current_of_beginOutcome {extent : Extent} {t : Synchronizer × Rehearsal}
    (hOutcome : BeginOutcome extent m w (.ok f) t) : t.2.chain.current = f.imageIndex := by
  cases hOutcome with
  | begun _ hAcquired hOpening =>
    cases hOpening with
    | opened hDraw _ hKept =>
      rw [hKept.current, Recorder.current_of_drawOutcome hDraw]
      exact hAcquired.current

-- ---------------------------------------------------------------------------
-- The buffer of a frame
-- ---------------------------------------------------------------------------

/-- A history goes on from another one, and of the buffers that have to wait only one was
submitted since. -/
def SubmitsSince (b : CommandBuffer) (base h : DeviceHistory) : Prop :=
  ∃ later, h = later ++ base ∧
    ∀ b' waits signals, .submitted b' waits signals ∈ later → waits ≠ [] → b' = b

/-- What the end of a frame does with a draw buffer: it ends the render pass in it, then submits
no other buffer that has to wait, and is no longer recording. -/
structure Closes (b : CommandBuffer) (s t : Synchronizer × Rehearsal) : Prop where
  state : t.1.state ≠ .recording
  history : SubmitsSince b (.recorded b .endRenderPass :: s.2.history) t.2.history

/-- A call that submits no other buffer that has to wait. -/
def SubmitsOnly (b : CommandBuffer) (i : Intent) : Prop :=
  ∀ b' waits signals, (i.event = .submitted b' waits signals ∨
    i.fails (.submitted b' waits signals)) → waits ≠ [] → b' = b

/-- The buffer of a barrier does not have to wait. -/
theorem submitsOnly_barrierPlan (b b' : CommandBuffer) (index : UInt32) (t : ImageTransition) :
    ∀ i ∈ barrierPlan b' index t, SubmitsOnly b i := by
  simp only [barrierPlan, List.forall_mem_cons]
  refine ⟨?_, ?_, ?_, ?_, by simp⟩
  · simp [SubmitsOnly, Intent.begin]
  · simp [SubmitsOnly, Intent.record]
  · simp [SubmitsOnly, Intent.finish]
  · rintro b'' waits signals (hEvent | hFails) hWaits
    · cases hEvent
      exact absurd rfl hWaits
    · rcases hFails with hRefused | hFailed
      · cases hRefused
      · cases hFailed

/-- What comes after the end of the render pass. -/
theorem submitsOnly_framePlan (m : Synchronizer) (f : Frame) (outcome : Except RenderError Unit) :
    ∀ i ∈ (m.framePlan f outcome).tail, SubmitsOnly f.buffer i := by
  have hPre := submitsOnly_barrierPlan f.buffer m.recorder.prePresent f.imageIndex .prePresent
  have hPost := submitsOnly_barrierPlan f.buffer m.recorder.postPresent f.imageIndex .postPresent
  simp only [framePlan, drawPlan, List.cons_append, List.nil_append, List.tail_cons,
    List.forall_mem_cons, List.forall_mem_append]
  refine ⟨?_, ?_, ⟨⟨hPre, ?_⟩, hPost⟩, ?_⟩ <;>
    simp [SubmitsOnly, Intent.finish, Intent.submit, Intent.wait, presentIntent]

/-- One more event, if it is no submission of another buffer that waits. -/
theorem SubmitsSince.cons {b : CommandBuffer} {base h : DeviceHistory} {e : DeviceEvent}
    (hSince : SubmitsSince b base h)
    (hEvent : ∀ b' waits signals, e = .submitted b' waits signals → waits ≠ [] → b' = b) :
    SubmitsSince b base (e :: h) := by
  obtain ⟨later, rfl, hLater⟩ := hSince
  refine ⟨e :: later, rfl, fun b' waits signals hMem => ?_⟩
  rcases List.mem_cons.mp hMem with hEq | hRest
  · exact hEvent b' waits signals hEq.symm
  · exact hLater b' waits signals hRest

/-- A frame for the current image is closed, wherever its end leads. -/
theorem closes_of_endOutcome (hRecording : m.state = .recording)
    (hImage : f.imageIndex = w.chain.current) {r : Except RenderError Unit}
    {t : Synchronizer × Rehearsal} (hOutcome : EndOutcome f m w r t) :
    Closes f.buffer (m, w) t := by
  let base : DeviceHistory := .recorded f.buffer .endRenderPass :: w.history
  have hStart : SubmitsSince f.buffer base base := ⟨[], rfl, by simp⟩
  have hEvent : ∀ outcome, ∀ i ∈ (m.framePlan f outcome).tail, ∀ h,
      SubmitsSince f.buffer base h → SubmitsSince f.buffer base (i.event :: h) :=
    fun outcome i hi h hSince => hSince.cons fun b' waits signals hEq =>
      submitsOnly_framePlan m f outcome i hi b' waits signals (.inl hEq)
  -- the first event of the plan is the end of the render pass
  have hAfter : ∀ outcome, SubmitsSince f.buffer base ((m.framePlan f outcome).after w.history) :=
    fun outcome => Plan.keeps_after (p := (m.framePlan f outcome).tail) (hEvent outcome) hStart
  cases hOutcome with
  | refused hRefusal => exact absurd hRecording (ne_of_refused (by decide) hRefusal)
  | otherImage _ hOther => exact absurd hImage hOther
  | @lost _ outcome w' _ _ _ hBroken _ =>
    refine ⟨by simp, ?_⟩
    show SubmitsSince f.buffer base w'.history
    generalize w'.history = h' at hBroken
    -- the end of the render pass is only recorded, and that cannot fail
    cases hBroken with
    | here hFails => exact hFails.elim
    | later hRest =>
      refine Plan.keeps_brokenOff hRest (hEvent outcome) (fun i hi e hFails h hSince => ?_) hStart
      refine hSince.cons fun b' waits signals hEq => ?_
      exact submitsOnly_framePlan m f outcome i hi b' waits signals (.inr (hEq ▸ hFails))
  | outOfDate _ _ hHistory _ => exact ⟨by simp, hHistory ▸ hAfter _⟩
  | finished _ _ _ hHistory _ => exact ⟨by simp, hHistory ▸ hAfter _⟩

end Synchronizer

-- ---------------------------------------------------------------------------
-- Sessions
-- ---------------------------------------------------------------------------

namespace Session

open Synchronizer

variable {s t : Session}

/-- The chain is not exchanged under an open frame for one with another current image. -/
def KeepsCurrent (s : Session) : Call → Prop
  | .follow script =>
    s.machine.state = .recording → script.chain.current = s.world.chain.current
  | _ => True

/-- While a frame is open, its image is the current one. -/
def Tracks (s : Session) : Prop :=
  s.machine.state = .recording → ∃ f, s.frame = some f ∧ s.world.chain.current = f.imageIndex

/-- Handing a frame back is refused and changes nothing. -/
def Refuses (s : Session) (f : Frame) : Prop :=
  ∃ operation state, Op.start (endFrame f) s.both =
    some (.error (.invalidFrameState operation state), s.both)

/-- There is nothing to track while no frame is open. -/
theorem tracks_of_not_recording (h : s.machine.state ≠ .recording) : Tracks s := by
  intro hRecording
  exact absurd hRecording h

/-- What leaves the image and the state as they are leaves the open frame tracked. -/
theorem Tracks.of_same (hTracks : Tracks s) (hFrame : t.frame = s.frame)
    (hState : t.machine.state = s.machine.state)
    (hCurrent : s.machine.state = .recording → t.world.chain.current = s.world.chain.current) :
    Tracks t := by
  intro hRecording
  rw [hState] at hRecording
  rw [hFrame, hCurrent hRecording]
  exact hTracks hRecording

/-- A frame that does not begin leaves none open that was not open before. -/
theorem Tracks.notBegan (hTracks : Tracks s) {extent : Extent} {e : RenderError}
    {t : Synchronizer × Rehearsal}
    (hOutcome : BeginOutcome extent s.machine s.world (.error e) t) :
    Tracks ⟨t.1, t.2, s.frame⟩ := by
  cases hOutcome with
  | refused _ => exact hTracks
  | outOfDate _ _ => exact tracks_of_not_recording nofun
  | notAcquired _ _ _ => exact tracks_of_not_recording nofun
  | lost _ _ _ _ _ => exact tracks_of_not_recording nofun

/-- The end of a frame leaves no frame open that was not open before. -/
theorem Tracks.ended (hTracks : Tracks s) {f : Frame} {r : Except RenderError Unit}
    {t : Synchronizer × Rehearsal} (hOutcome : EndOutcome f s.machine s.world r t) :
    Tracks ⟨t.1, t.2, s.frame⟩ := by
  cases hOutcome with
  | refused _ => exact hTracks
  | otherImage _ _ _ => exact hTracks
  | lost _ _ _ _ _ => exact tracks_of_not_recording nofun
  | outOfDate _ _ _ _ => exact tracks_of_not_recording nofun
  | finished _ _ _ _ _ => exact tracks_of_not_recording nofun

/-- A call that does not exchange the chain under an open frame leaves it tracked. -/
theorem Tracks.of_call (hTracks : Tracks s) (hSettled : Settled s.machine) {c : Call}
    (hKeeps : KeepsCurrent s c) (hCall : s.call c = some t) : Tracks t := by
  cases callOutcome_of_call hCall with
  | began hOutcome => exact fun _ => ⟨_, rfl, current_of_beginOutcome hOutcome⟩
  | notBegan hOutcome => exact hTracks.notBegan hOutcome
  | ended hOutcome => exact hTracks.ended hOutcome
  | setup hOutcome =>
    exact hTracks.of_same rfl rfl fun _ => Recorder.current_of_setupOutcome hOutcome
  | flushed hOutcome =>
    exact hTracks.of_same rfl rfl fun _ => Recorder.current_of_flushOutcome hOutcome
  | destroyed =>
    have hLost := Settled.lost_of_destroy (s := s.both) hSettled
    exact tracks_of_not_recording (by rw [hLost]; nofun)
  | followed => exact hTracks.of_same rfl rfl hKeeps

/-- So an open frame is tracked in every session that obeys this. -/
theorem tracks_of_reachable (hReachable : Reachable KeepsCurrent s) : Tracks s := by
  induction hReachable with
  | created _ hRun =>
    cases ensures_create _ _ _ _ hRun with
    | created _ _ => exact tracks_of_not_recording nofun
  | call c hReachable hKeeps hCall ih =>
    exact ih.of_call (settled_of_reachable hReachable) hKeeps hCall

/-- **A frame is refused exactly if it is for another image** than the frame that is open. Of the
others every one is closed, with the draw buffer that it was handed back with. -/
theorem endFrame_iff_of_reachable (hReachable : Reachable KeepsCurrent s)
    (hRecording : s.machine.state = .recording) :
    ∃ g, s.frame = some g ∧ ∀ f : Frame,
      (s.Refuses f ↔ f.imageIndex ≠ g.imageIndex) ∧
      (f.imageIndex = g.imageIndex →
        (s.machine.framesCompleted.toNat + 1 < UInt64.size →
          (Op.start (endFrame f) s.both).isSome) ∧
        ∀ r t, Op.start (endFrame f) s.both = some (r, t) → Closes f.buffer s.both t) := by
  obtain ⟨g, hFrame, hCurrent⟩ := tracks_of_reachable hReachable hRecording
  have hCloses : ∀ f : Frame, f.imageIndex = g.imageIndex → ∀ r t,
      Op.start (endFrame f) s.both = some (r, t) → Closes f.buffer s.both t := by
    intro f hImage r t hRun
    have hOutcome := ensures_endFrame f s.machine s.world r t hRun
    rw [← hCurrent] at hImage
    cases r <;> exact closes_of_endOutcome hRecording hImage hOutcome
  refine ⟨g, hFrame, fun f => ⟨⟨?_, fun hImage => ?_⟩,
    fun hImage => ⟨fun hFrames => ?_, hCloses f hImage⟩⟩⟩
  · -- a frame that closes is no longer recording, so it was not refused
    rintro ⟨operation, state, hRun⟩ hImage
    exact (hCloses f hImage _ _ hRun).state hRecording
  · rw [← hCurrent] at hImage
    exact ⟨_, _, start_endFrame_of_otherImage hRecording hImage⟩
  · exact returns_endFrame f s.world hFrames

/-- A machine whose chain got a third image while it was idle. The frame before is for the same
image as the open one, and its buffer was freed: it is submitted all the same. -/
theorem endFrame_of_stale :
    let stale : Frame := ⟨0, ⟨6⟩, ⟨640, 480⟩⟩
    ∃ s, Reachable KeepsCurrent s ∧ s.machine.state = .recording ∧
      s.frame = some ⟨0, ⟨8⟩, ⟨640, 480⟩⟩ ∧ stale.buffer ∉ s.world.history.liveBuffers ∧
      ¬ s.Refuses stale ∧ ∃ t, Op.start (endFrame stale) s.both = some (.ok (), t) ∧
        Closes stale.buffer s.both t := by
  intro stale
  let w : Rehearsal := { chain := { images := 2, extent := ⟨640, 480⟩ } }
  let script : Script := { chain := { images := 3, extent := ⟨640, 480⟩ } }
  -- between the two frames the chain grows to three images, so the buffers are allocated anew
  have hSteps : ∃ m w' s₁ s₂ s₃ s₄ t, Op.start (create default) w = some (.ok m, w') ∧
      Session.call ⟨m, w', none⟩ (.beginFrame ⟨640, 480⟩) = some s₁ ∧
      s₁.frame = some stale ∧ s₁.call (.endFrame stale) = some s₂ ∧
      s₂.call (.follow script) = some s₃ ∧ s₃.call (.beginFrame ⟨640, 480⟩) = some s₄ ∧
      s₂.machine.state = .idle ∧ s₄.machine.state = .recording ∧
      s₄.frame = some ⟨0, ⟨8⟩, ⟨640, 480⟩⟩ ∧ stale.buffer ∉ s₄.world.history.liveBuffers ∧
      Op.start (endFrame stale) s₄.both = some (.ok (), t) :=
    ⟨_, _, _, _, _, _, _, rfl, rfl, rfl, rfl, rfl, rfl, rfl, rfl, rfl, by decide +kernel, rfl⟩
  obtain ⟨m, w', s₁, s₂, s₃, s₄, t, hRun, hBegin, hFrame, hEnd, hFollow, hBegin', hIdle,
    hRecording, hFrame', hFreed, hStale⟩ := hSteps
  have hReachable : Reachable KeepsCurrent s₄ :=
    ((((Reachable.created (w := w) rfl hRun).call (.beginFrame ⟨640, 480⟩) trivial hBegin).call
      (.endFrame stale) trivial hEnd).call (.follow script)
      (fun hOpen => by rw [hIdle] at hOpen; cases hOpen) hFollow).call
      (.beginFrame ⟨640, 480⟩) trivial hBegin'
  obtain ⟨g, hg, hFrames⟩ := endFrame_iff_of_reachable hReachable hRecording
  -- the stale frame names the image of the current one, with the old buffer
  have hImage : stale.imageIndex = g.imageIndex := by
    rw [hFrame'] at hg
    cases hg
    rfl
  refine ⟨s₄, hReachable, hRecording, hFrame', hFreed, ?_, t, hStale, ?_⟩
  · exact fun hRefuses => (hFrames stale).1.mp hRefuses hImage
  · exact ((hFrames stale).2 hImage).2 _ _ hStale

end Session

end RenderLoop
