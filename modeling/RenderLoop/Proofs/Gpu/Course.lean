import RenderLoop.Proofs.Gpu.Frames

/-!
# RenderLoop — the course of a frame

The calls that a frame makes on the device, one by one. An operation `Makes` calls when
they are what its return adds to the history, with nothing in between, and it does not
break off unless a fault is due.

A frame begins with the acquisition of an image and the opening of its draw buffer
(`Synchronizer.ensures_beginFrame_course`). It ends with the submission of that buffer, a
barrier, the presentation and another barrier, which is left out if the presentation
loses the machine (`Synchronizer.endingCalls`).
-/

namespace RenderLoop

open GpuHistory Op

/-- Calls that were done one after the other, in a history. -/
def GpuHistory.did (calls : List GpuCall) : GpuHistory := (calls.map (⟨·, .done⟩)).reverse

theorem GpuHistory.did_append (calls calls' : List GpuCall) :
    did (calls ++ calls') = did calls' ++ did calls := by
  unfold did
  rw [List.map_append, List.reverse_append]

/-- Whether a presentation that ends with a code loses the frame machine. -/
def ResultCode.isLoss (code : ResultCode) : Bool :=
  code ≠ success && code ≠ suboptimal && code ≠ outOfDate

namespace Scene

variable {w w' w'' : Scene} {es es' : GpuHistory}

/-- Something was added to the history of a scene, and nothing else happened to it. -/
structure Calls (es : GpuHistory) (w w' : Scene) : Prop where
  chain : w'.1 = w.1
  device : w'.2.1 = w.2.1
  faults : w'.gpu.faults = w.gpu.faults
  history : w'.gpu.history = es ++ w.gpu.history

theorem Calls.refl (w : Scene) : Calls [] w w where
  chain := rfl
  device := rfl
  faults := rfl
  history := rfl

/-- Of two runs the later events come first. -/
theorem Calls.then (h : Calls es w w') (h' : Calls es' w' w'') : Calls (es' ++ es) w w'' where
  chain := h'.chain.trans h.chain
  device := h'.device.trans h.device
  faults := h'.faults.trans h.faults
  history := by rw [h'.history, h.history, List.append_assoc]

theorem Calls.targets (h : Calls es w w') : w'.targets = w.targets :=
  congrArg GpuDevice.targets h.device

theorem Calls.push (h : Calls es w w') (e : LogEntry) : Calls es w (Logging.push e w') where
  chain := h.chain
  device := h.device
  faults := h.faults
  history := h.history

theorem Calls.logged (h : Calls es w w') (hLogged : Logged w' w'') : Calls es w w'' :=
  hLogged.keeps (fun e _ h => h.push e) h

/-- Calls are all that a return adds to the history. Nothing but a fault keeps from them. -/
def Makes (op : Op Scene Unit) (calls : List GpuCall) (w : Scene) : Prop :=
  op.Ensures w (fun _ w' => Calls (did calls) w w') (fun _ _ => w.gpu.faults ≠ [])

/-- Calls are made one after another. -/
theorem Makes.bind {op next : Op Scene Unit} {calls calls' : List GpuCall} (h : Makes op calls w)
    (h' : ∀ w', Calls (did calls) w w' → Makes next calls' w') :
    Makes (op >>= fun _ => next) (calls ++ calls') w := by
  unfold Makes
  rw [ensures_bind, did_append]
  refine Ensures.mono h (fun _ w' hFirst => ?_) fun _ _ h => h
  refine (h' w' hFirst).mono (fun _ _ hNext => hFirst.then hNext) fun _ _ hFaults => ?_
  rw [← hFirst.faults]
  exact hFaults

/-- A call that answers nothing is made, or a fault is due. -/
theorem makes_perform (call : GpuCall) (w : Scene) :
    Makes (GpuDevice.perform call).onSecond [call] w := by
  refine ensures_perform call w ?_ fun _ _ _ _ _ hFaults _ => hFaults
  intro w' hChain hDevice hGpu
  have hFaults : w'.gpu.faults = w.gpu.faults := by
    rw [hGpu]
    rfl
  have hHistory : w'.gpu.history = did [call] ++ w.gpu.history := by
    rw [hGpu]
    rfl
  exact ⟨hChain, hDevice, hFaults, hHistory⟩

/-- The event of an acquisition. -/
def acquisition (w : Scene) (signal : Semaphore) (index : UInt32) (code : ResultCode) : GpuEvent :=
  ⟨.acquire w.1.handle signal.handle, .image index code⟩

end Scene

-- ---------------------------------------------------------------------------
-- The beginning of a frame
-- ---------------------------------------------------------------------------

/-- Whether a call gets command buffers ready: a buffer is reset, or buffers are exchanged. -/
def GpuCall.readiesBuffers : GpuCall → Bool
  | .resetBuffer _ | .freeBuffers _ _ | .allocateBuffers _ _ => true
  | _ => false

/-- Events that get command buffers ready. -/
def GpuHistory.Readying (es : GpuHistory) : Prop := ∀ e ∈ es, e.call.readiesBuffers = true

theorem GpuHistory.readying_nil : Readying [] := List.forall_mem_nil _

theorem GpuHistory.Readying.append {es es' : GpuHistory} (h : Readying es) (h' : Readying es') :
    Readying (es ++ es') := by
  intro e he
  exact (List.mem_append.mp he).elim (h e) (h' e)

/-- Freeing buffers is one event, or none if there are no buffers. -/
theorem Scene.calls_free (bs : List CommandBuffer) (w : Scene) :
    ∃ es, Readying es ∧ Scene.Calls es w (FrameDevice.free bs w) := by
  obtain ⟨c, d, u⟩ := w
  show ∃ es, Readying es ∧ Scene.Calls es (c, d, u) (c, GpuDevice.free bs (d, u))
  rw [GpuDevice.free]
  split
  · exact ⟨[], readying_nil, .refl _⟩
  · refine ⟨[⟨.freeBuffers d.pool (bs.map (·.handle)), .done⟩], ?_, rfl, rfl, rfl, rfl⟩
    simp [Readying, GpuCall.readiesBuffers]

namespace Synchronizer

variable {m m' m'' : Synchronizer} {w : Scene} {calls calls' : List GpuCall}

/-- The calls that end a draw buffer and submit it. -/
def closingCalls (b : CommandBuffer) (ready done : Semaphore) : List GpuCall :=
  [.record b.handle .endRenderPass, .endBuffer b.handle,
    .submit b.handle [(ready.handle, .bottomOfPipe)] [done.handle]]

/-- The calls that move an image to another layout, by a buffer of their own. -/
def barrierCalls (b : CommandBuffer) (image : Handle) (t : ImageTransition) : List GpuCall :=
  [.beginBuffer b.handle, .record b.handle (.barrier image t), .endBuffer b.handle,
    .submit b.handle [] []]

/-- An operation makes calls and takes the machine on. Nothing but a fault keeps from that. -/
def Makes (op : Op (Synchronizer × Scene) Unit) (m m' : Synchronizer) (calls : List GpuCall)
    (w : Scene) : Prop :=
  op.Ensures (m, w) (fun _ s => s.1 = m' ∧ Scene.Calls (did calls) w s.2)
    (fun _ _ => w.gpu.faults ≠ [])

theorem Makes.bind {op next : Op (Synchronizer × Scene) Unit} (h : Makes op m m' calls w)
    (h' : ∀ w', Scene.Calls (did calls) w w' → Makes next m' m'' calls' w') :
    Makes (op >>= fun _ => next) m m'' (calls ++ calls') w := by
  unfold Makes
  rw [ensures_bind, did_append]
  refine Ensures.mono h ?_ fun _ _ h => h
  rintro - ⟨m₁, w₁⟩ ⟨rfl, hFirst⟩
  refine (h' w₁ hFirst).mono (fun _ _ hNext => ⟨hNext.1, hFirst.then hNext.2⟩) fun _ _ hFaults => ?_
  rw [← hFirst.faults]
  exact hFaults

section Ending

variable {m : Synchronizer} {f : Frame} {image : Handle} {code : ResultCode}

end Ending

end Synchronizer

-- ---------------------------------------------------------------------------
-- The setup buffer
-- ---------------------------------------------------------------------------

/-- Running the setup buffer ends it, submits it and waits for it. -/
theorem Recorder.ensures_flushSetup_course {r : Recorder} {b : CommandBuffer} (w : Scene)
    (hSetup : r.setup = some b) :
    (flushSetup : Op (Recorder × Scene) Unit).Ensures (r, w)
      (fun _ s => s.2.1 = w.1 ∧ s.2.2.1 = w.2.1 ∧
        did [.endBuffer b.handle, .submit b.handle [] [], .waitQueue] ++ w.gpu.history <:+
          s.2.gpu.history)
      (fun _ _ => w.gpu.faults ≠ []) := by
  have hRun : Scene.Makes (runToEnd b)
      [.endBuffer b.handle, .submit b.handle [] [], .waitQueue] w := by
    refine (Scene.makes_perform _ w).bind fun _ _ => ?_
    refine (Scene.makes_perform _ _).bind fun _ _ => ?_
    exact Scene.makes_perform _ _
  rw [flushSetup, ensures_bind, ensures_get]
  simp only [hSetup, ensures_bind, ensures_change, ensures_attempt, ensures_onSecond, ensures_log,
    ensures_ofExcept]
  refine Ensures.mono hRun (fun _ w' hCalls => ?_) fun _ _ hFaults => hFaults
  -- the free comes after, so that it is above these in the history
  obtain ⟨es, -, hFreed⟩ := Scene.calls_free [b] w'
  refine ⟨hFreed.chain.trans hCalls.chain, hFreed.device.trans hCalls.device, ?_⟩
  show _ <:+ (Scene.gpu (FrameDevice.free [b] w')).history
  rw [hFreed.history, hCalls.history]
  exact List.suffix_append _ _

end RenderLoop
