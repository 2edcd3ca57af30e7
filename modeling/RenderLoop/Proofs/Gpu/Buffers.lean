import RenderLoop.Proofs.Frame.Totality
import RenderLoop.Proofs.Gpu.Bystanders
import RenderLoop.Proofs.Gpu.Watermark

/-!
# RenderLoop — command buffers of the device

What the calls on command buffers do to a history. All of them spare what frames
name; they differ in the buffers they write, and a submission keeps the history
clean just if the buffer could be submitted. Both are said by one relation
(`Gpu.Risks`): the commands of **kept** buffers stay, and the history stays clean
under a condition, which without faults is also necessary.

The same for the world of frames, in which the swapchain and the targets stay, too
(`Scene.Serves`).
-/

namespace RenderLoop

open GpuHistory Op

-- ---------------------------------------------------------------------------
-- The device
-- ---------------------------------------------------------------------------

namespace Gpu

variable {g g' g'' : Gpu} {b : Handle} {P Q : Prop} {kept kept' : Handle → Prop}

/-- Calls that keep the commands of some buffers, and a history clean if a condition holds. Without
faults the condition is needed. -/
structure Risks (P : Prop) (kept : Handle → Prop) (g g' : Gpu) : Prop where
  spares : g.Spares g'
  commands : ∀ b, kept b → commands b g'.history = GpuHistory.commands b g.history
  clean : P → Clean g.history → Clean g'.history
  needed : g.faults = [] → Clean g'.history → P

/-- A buffer that is kept is another one than a buffer that is not. -/
theorem ne_of_kept {b' : Handle} (hb : ¬ kept b) (hb' : kept b') : b ≠ b' := by
  rintro rfl
  exact hb hb'

/-- The faults are part of the setting. -/
theorem faults_of_setting (h : g'.setting = g.setting) : g'.faults = g.faults := by
  simp only [setting, Prod.mk.injEq] at h
  exact h.1

theorem capabilities_of_setting (h : g'.setting = g.setting) : g'.capabilities = g.capabilities := by
  simp only [setting, Prod.mk.injEq] at h
  exact h.2.1

/-- What passes by risks nothing. -/
theorem Passes.risks (h : g.Passes g') : Risks True kept g g' where
  spares := h.spares
  commands b _ := h.history.commands b
  clean _ := h.history.clean
  needed _ _ := trivial

/-- Of two runs both conditions are needed. -/
theorem Risks.trans (h : Risks P kept g g') (h' : Risks Q kept g' g'') :
    Risks (P ∧ Q) kept g g'' := by
  refine ⟨h.spares.trans h'.spares, fun b hb => (h'.commands b hb).trans (h.commands b hb),
    fun hPQ hClean => h'.clean hPQ.2 (h.clean hPQ.1 hClean), fun hFaults hClean => ⟨?_, ?_⟩⟩
  · -- a history that is clean in the end was clean in between
    exact h.needed hFaults (hClean.of_suffix h'.spares.history.suffix)
  · exact h'.needed ((faults_of_setting h.spares.setting).trans hFaults) hClean

theorem Risks.congr (h : Risks P kept g g') (hPQ : P ↔ Q) : Risks Q kept g g' where
  spares := h.spares
  commands := h.commands
  clean hQ := h.clean (hPQ.mpr hQ)
  needed hFaults hClean := hPQ.mp (h.needed hFaults hClean)

/-- Fewer buffers may be asked to be kept. -/
theorem Risks.mono (h : Risks P kept g g') (hKept : ∀ b, kept' b → kept b) : Risks P kept' g g' where
  spares := h.spares
  commands b hb := h.commands b (hKept b hb)
  clean := h.clean
  needed := h.needed

/-- Calls that a fault cut short. -/
theorem Risks.cut (h : Risks P kept g g') (hFaults : g.faults ≠ []) (hPQ : Q → P) :
    Risks Q kept g g' where
  spares := h.spares
  commands := h.commands
  clean hQ := h.clean (hPQ hQ)
  needed hNone := absurd hNone hFaults

/-- A call that answers nothing is done, or it is refused by a fault. -/
theorem perform_cases {call : GpuCall} {r : Except ResultCode Unit}
    (h : perform call g = (r, g')) :
    (r = .ok () ∧ g' = (g.count call.name).happen call .done) ∨
      ∃ code, r = .error code ∧ g.faults ≠ [] ∧
        g' = (g.count call.name).happen call (.failed code) := by
  cases r with
  | ok a => exact .inl ⟨rfl, (attempt_ok h).2⟩
  | error code =>
    obtain ⟨hRefusal, hAfter⟩ := attempt_error h
    exact .inr ⟨code, rfl, faults_of_refusal hRefusal, hAfter⟩

/-- New command buffers have the next handles. -/
theorem allocateBuffers_ok {pool : Handle} {count : UInt32} {hs : List Handle}
    (h : allocateBuffers pool count g = (.ok hs, g')) :
    hs = List.range' g.nextHandle count.toNat ∧ g.Passes g' ∧
      g'.nextHandle = g.nextHandle + count.toNat := by
  have hPasses : Passes g (allocateBuffers pool count g).2 := routine_allocateBuffers pool count g
  rw [h] at hPasses
  obtain ⟨rfl, rfl⟩ := attempt_ok h
  exact ⟨rfl, hPasses, rfl⟩

/-- Emptying a buffer that is not kept. -/
theorem risks_empty {call : GpuCall} (hCall : call = .beginBuffer b ∨ call = .resetBuffer b)
    (hKept : ¬ kept b) (g : Gpu) :
    Risks True kept g (g.happen call .done) ∧
      GpuHistory.commands b (g.happen call .done).history = [] := by
  have hNoSubmit : ∀ b' waits signals, call ≠ .submit b' waits signals := by
    rintro b' waits signals rfl
    rcases hCall with h | h <;> cases h
  have hClean : True → Clean g.history → Clean (g.happen call .done).history :=
    fun _ h => h.cons hNoSubmit
  -- both calls empty the buffer in the same way; no other has its commands changed
  rcases hCall with rfl | rfl
  · refine ⟨⟨goes_happen (spares_cons rfl _), ?_, hClean, fun _ _ => trivial⟩, ?_⟩
    · intro b' hb
      simp only [happen, GpuHistory.commands, if_neg (ne_of_kept hKept hb)]
    · simp only [happen, GpuHistory.commands, if_pos]
  · refine ⟨⟨goes_happen (spares_cons rfl _), ?_, hClean, fun _ _ => trivial⟩, ?_⟩
    · intro b' hb
      simp only [happen, GpuHistory.commands, if_neg (ne_of_kept hKept hb)]
    · simp only [happen, GpuHistory.commands, if_pos]

/-- Recording into a buffer that is not kept. -/
theorem risks_record (hKept : ¬ kept b) (c : GpuCommand) (g : Gpu) :
    Risks True kept g (g.happen (.record b c) .done) where
  spares := spares_record b c g
  commands _ hb := commands_record_of_ne (ne_of_kept hKept hb) c g
  clean _ := clean_record
  needed _ _ := trivial

/-- Whatever comes of it, a submission needs a buffer that can be submitted. -/
theorem risks_submit (waits : List (Handle × PipelineStages)) (signals : List Handle)
    (outcome : GpuOutcome) (g : Gpu) :
    Risks (Submittable g.history b) kept g (g.happen (.submit b waits signals) outcome) := by
  refine ⟨goes_happen (spares_cons ?_ _), fun _ _ => ?_, ?_, fun _ h => h.1 b waits signals rfl⟩
  · cases outcome <;> rfl
  · cases outcome <;> rfl
  · intro hSubmittable hClean
    refine ⟨?_, hClean⟩
    rintro b' waits' signals' ⟨⟩
    exact hSubmittable

end Gpu

-- ---------------------------------------------------------------------------
-- Calls
-- ---------------------------------------------------------------------------

/-- A call is as the call on the device, apart from the log. -/
theorem Host.ensures_invoke {α : Type} {ok : α → Host → Prop} {fail : RenderError → Host → Prop}
    (source name : String) {step : GpuStep α} {s : Host}
    (hOk : ∀ a g, step s.gpu = (.ok a, g) → ok a { s with gpu := g })
    (hFail : ∀ code g, step s.gpu = (.error code, g) → ∀ e (t : Host), t.gpu = g → fail e t) :
    (Host.invoke source name step).Ensures s ok fail := by
  rw [Host.invoke, ensures_bind, Host.call, ensures_act]
  cases hStep : step s.gpu with
  | mk r g =>
    cases r with
    | ok a =>
      rw [ensures_pure]
      exact hOk a g hStep
    | error code =>
      -- what follows a code is reported and thrown; neither touches the device
      have hLogged : (logAll (code.entry? source name).toList).Ensures { s with gpu := g }
          (fun _ t => t.gpu = g) fail := ensures_logAll (fun _ _ h => h) _ rfl
      show (do logAll (code.entry? source name).toList
               throw (code.cause name) : Op Host α).Ensures _ _ _
      rw [ensures_bind]
      refine hLogged.mono ?_ (fun _ _ h => h)
      intro _ t hGpu
      rw [ensures_throw]
      exact hFail code g hStep _ t hGpu

namespace GpuDevice

variable {α : Type} {ok : α → GpuDevice × Host → Prop} {fail : RenderError → GpuDevice × Host → Prop}

/-- The same for a device beside its world. -/
theorem ensures_invoke (name : String) {step : GpuStep α} {w : GpuDevice × Host}
    (hOk : ∀ a g, step w.2.gpu = (.ok a, g) → ok a (w.1, { w.2 with gpu := g }))
    (hFail : ∀ code g, step w.2.gpu = (.error code, g) →
      ∀ e (t : Host), t.gpu = g → fail e (w.1, t)) :
    (invoke name step).Ensures w ok fail := by
  rw [invoke, Op.onHost, ensures_onSecond]
  exact Host.ensures_invoke component name hOk hFail

/-- A call that answers nothing is done, or a fault is in its way. -/
theorem ensures_perform (call : GpuCall) (w : GpuDevice × Host)
    {ok : Unit → GpuDevice × Host → Prop} {fail : RenderError → GpuDevice × Host → Prop}
    (hOk : ∀ w', w'.1 = w.1 → w'.2.gpu = (w.2.gpu.count call.name).happen call .done → ok () w')
    (hFail : ∀ e code w', w'.1 = w.1 → w.2.gpu.faults ≠ [] →
      w'.2.gpu = (w.2.gpu.count call.name).happen call (.failed code) → fail e w') :
    (perform call).Ensures w ok fail := by
  refine ensures_invoke _ ?_ ?_
  · intro _ g hPerform
    rcases Gpu.perform_cases hPerform with ⟨-, rfl⟩ | ⟨code, hError, -, -⟩
    · exact hOk _ rfl rfl
    · cases hError
  · rintro code g hPerform e t rfl
    rcases Gpu.perform_cases hPerform with ⟨hDone, -⟩ | ⟨code', -, hFaults, hGpu⟩
    · cases hDone
    · exact hFail e code' _ rfl hFaults hGpu

/-- New command buffers are not the ones that were there. -/
theorem ensures_allocate (count : UInt32) (w : GpuDevice × Host) :
    (allocate count).Ensures w
      (fun bs w' => w'.1 = w.1 ∧ w.2.gpu.Passes w'.2.gpu ∧ bs.length = count.toNat ∧
        ∀ b ∈ bs, w.2.gpu.nextHandle ≤ b.handle ∧ b.handle < w'.2.gpu.nextHandle)
      (fun _ w' => w'.1 = w.1 ∧ w.2.gpu.Passes w'.2.gpu ∧ w.2.gpu.faults ≠ []) := by
  simp only [allocate, ensures_bind, ensures_log, ensures_get]
  refine ensures_invoke _ ?_ ?_
  · intro hs g hAllocate
    change Gpu.allocateBuffers w.1.pool count w.2.gpu = (.ok hs, g) at hAllocate
    obtain ⟨rfl, hPasses, hNext⟩ := Gpu.allocateBuffers_ok hAllocate
    rw [ensures_pure]
    refine ⟨rfl, hPasses, by rw [List.length_map, List.length_range'], ?_⟩
    intro b hb
    -- the handles are the next ones in a row
    obtain ⟨x, hRange, rfl⟩ := List.mem_map.mp hb
    show w.2.gpu.nextHandle ≤ x ∧ x < g.nextHandle
    rw [hNext]
    exact List.mem_range'_1.mp hRange
  · rintro code g hAllocate e t rfl
    obtain ⟨hPasses, hFaults⟩ := Gpu.passes_refused (fun _ => rfl) hAllocate
    exact ⟨rfl, hPasses, hFaults⟩

/-- A call on the device is answered, and what it reports only logs. -/
theorem total_invoke (name : String) (step : GpuStep α) : (invoke name step).Total := by
  refine Total.onSecond ((total_act _).bind fun r => ?_)
  cases r with
  | ok a => exact total_pure a
  | error code => exact (total_logAll _).bind fun _ => total_throw _

theorem total_perform (call : GpuCall) : (perform call).Total := total_invoke _ _

theorem total_allocate (count : UInt32) : (allocate count).Total := by
  refine (total_log _).bind fun _ => ?_
  refine total_get.bind fun _ => ?_
  refine (total_invoke _ _).bind fun _ => ?_
  exact total_pure _

instance : Answering (GpuDevice × Host) where
  allocate := total_allocate
  reset b := total_perform (.resetBuffer b.handle)
  beginBuffer b := total_perform (.beginBuffer b.handle)
  endBuffer b := total_perform (.endBuffer b.handle)
  submit b _ _ := total_perform (.submit b.handle _ _)
  waitQueue := total_perform .waitQueue

end GpuDevice

-- ---------------------------------------------------------------------------
-- The world of frames
-- ---------------------------------------------------------------------------

/-- The world of a renderer's frames: the swapchain, and the device. -/
abbrev Scene := Swapchain × GpuDevice × Host

namespace Scene

/-- The device of a scene. -/
def gpu (w : Scene) : Gpu := w.2.2.gpu

/-- What the commands of frames refer to. -/
def targets (w : Scene) : FrameTargets := w.2.1.targets

/-- Calls on the device that leave swapchain and targets as they are. -/
structure Serves (P : Prop) (kept : Handle → Prop) (w w' : Scene) : Prop where
  chain : w'.1 = w.1
  device : w'.2.1 = w.2.1
  risks : Gpu.Risks P kept w.gpu w'.gpu

variable {w w' w'' : Scene} {P Q : Prop} {kept kept' : Handle → Prop}

/-- Of two runs both conditions are needed. -/
theorem Serves.trans (h : Serves P kept w w') (h' : Serves Q kept w' w'') :
    Serves (P ∧ Q) kept w w'' :=
  ⟨h'.chain.trans h.chain, h'.device.trans h.device, h.risks.trans h'.risks⟩

theorem Serves.congr (h : Serves P kept w w') (hPQ : P ↔ Q) : Serves Q kept w w' where
  chain := h.chain
  device := h.device
  risks := h.risks.congr hPQ

theorem Serves.cut (h : Serves P kept w w') (hFaults : w.gpu.faults ≠ []) (hPQ : Q → P) :
    Serves Q kept w w' where
  chain := h.chain
  device := h.device
  risks := h.risks.cut hFaults hPQ

/-- Fewer buffers may be asked to be kept. -/
theorem Serves.mono (h : Serves P kept w w') (hKept : ∀ b, kept' b → kept b) :
    Serves P kept' w w' where
  chain := h.chain
  device := h.device
  risks := h.risks.mono hKept

/-- Calls without a condition of their own come first. -/
theorem Serves.then (h : Serves True kept w w') (h' : Serves Q kept w' w'') : Serves Q kept w w'' :=
  (h.trans h').congr (iff_of_eq (true_and _))

theorem Serves.refl (w : Scene) : Serves True kept w w where
  chain := rfl
  device := rfl
  risks := (Gpu.Passes.refl _).risks

/-- The log is no matter of the device. -/
theorem Serves.push (h : Serves P kept w w') (e : LogEntry) :
    Serves P kept w (Logging.push e w') where
  chain := h.chain
  device := h.device
  risks := h.risks

/-- What serves the device sets no faults. -/
theorem Serves.faults (h : Serves P kept w w') : w'.gpu.faults = w.gpu.faults :=
  Gpu.faults_of_setting h.risks.spares.setting

/-- What serves the device does not change what frames are rendered to. -/
theorem Serves.targets (h : Serves P kept w w') : w'.targets = w.targets :=
  congrArg GpuDevice.targets h.device

/-- A device that goes on by itself. -/
theorem serves_of_risks {c : Swapchain} {d : GpuDevice} {h h' : Host}
    (hRisks : Gpu.Risks P kept h.gpu h'.gpu) : Serves P kept (c, d, h) (c, d, h') where
  chain := rfl
  device := rfl
  risks := hRisks

/-- A call that answers nothing, in a scene. -/
theorem ensures_perform (call : GpuCall) (w : Scene) {ok : Unit → Scene → Prop}
    {fail : RenderError → Scene → Prop}
    (hOk : ∀ w', w'.1 = w.1 → w'.2.1 = w.2.1 →
      gpu w' = (w.gpu.count call.name).happen call .done → ok () w')
    (hFail : ∀ e code w', w'.1 = w.1 → w'.2.1 = w.2.1 → w.gpu.faults ≠ [] →
      gpu w' = (w.gpu.count call.name).happen call (.failed code) → fail e w') :
    ((GpuDevice.perform call).onSecond : Op Scene Unit).Ensures w ok fail := by
  rw [ensures_onSecond]
  exact GpuDevice.ensures_perform call w.2 (fun _ hDevice hGpu => hOk _ rfl hDevice hGpu)
    fun e code _ hDevice hFaults hGpu => hFail e code _ rfl hDevice hFaults hGpu

variable (kept)

/-- A routine call that answers nothing. -/
theorem ensures_routine {call : GpuCall}
    (hDone : GpuEvent.isRoutine ⟨call, .done⟩ = true)
    (hFailed : ∀ code, GpuEvent.isRoutine ⟨call, .failed code⟩ = true) (w : Scene) :
    ((GpuDevice.perform call).onSecond : Op Scene Unit).Ensures w
      (fun _ w' => Serves True kept w w')
      (fun _ w' => Serves True kept w w' ∧ w.gpu.faults ≠ []) := by
  refine ensures_perform call w ?_ ?_
  · intro w' hChain hDevice hGpu
    refine ⟨hChain, hDevice, ?_⟩
    rw [hGpu]
    exact ((Gpu.passes_count _ _).trans (Gpu.passes_happen hDone _)).risks
  · intro e code w' hChain hDevice hFaults hGpu
    refine ⟨⟨hChain, hDevice, ?_⟩, hFaults⟩
    rw [hGpu]
    exact ((Gpu.passes_count _ _).trans (Gpu.passes_happen (hFailed code) _)).risks

/-- Ending a buffer is routine. -/
theorem ensures_endBuffer (b : CommandBuffer) (w : Scene) :
    (FrameDevice.endBuffer b : Op Scene Unit).Ensures w (fun _ w' => Serves True kept w w')
      (fun _ w' => Serves True kept w w' ∧ w.gpu.faults ≠ []) :=
  ensures_routine kept rfl (fun _ => rfl) w

/-- Waiting for the queue is routine. -/
theorem ensures_waitQueue (w : Scene) :
    (FrameDevice.waitQueue : Op Scene Unit).Ensures w (fun _ w' => Serves True kept w w')
      (fun _ w' => Serves True kept w w' ∧ w.gpu.faults ≠ []) :=
  ensures_routine kept rfl (fun _ => rfl) w

/-- A call that empties a buffer. -/
theorem ensures_empty {call : GpuCall} {b : CommandBuffer}
    (hCall : call = .beginBuffer b.handle ∨ call = .resetBuffer b.handle)
    (hKept : ¬ kept b.handle) (w : Scene) :
    ((GpuDevice.perform call).onSecond : Op Scene Unit).Ensures w
      (fun _ w' => Serves True kept w w' ∧ commands b.handle (gpu w').history = [])
      (fun _ w' => Serves True kept w w' ∧ w.gpu.faults ≠ []) := by
  have hCount : Gpu.Risks True kept w.gpu (w.gpu.count call.name) := (Gpu.passes_count _ _).risks
  refine ensures_perform call w ?_ ?_
  · intro w' hChain hDevice hGpu
    obtain ⟨hRisks, hEmpty⟩ := Gpu.risks_empty hCall hKept (w.gpu.count call.name)
    rw [← hGpu] at hRisks hEmpty
    exact ⟨⟨hChain, hDevice, (hCount.trans hRisks).congr (iff_of_eq (true_and _))⟩, hEmpty⟩
  · intro e code w' hChain hDevice hFaults hGpu
    refine ⟨⟨hChain, hDevice, ?_⟩, hFaults⟩
    rw [hGpu]
    refine ((Gpu.passes_count _ _).trans (Gpu.passes_happen ?_ _)).risks
    rcases hCall with rfl | rfl <;> rfl

/-- Beginning a buffer empties it. -/
theorem ensures_beginBuffer (b : CommandBuffer) (hKept : ¬ kept b.handle)
    (w : Scene) :
    (FrameDevice.beginBuffer b : Op Scene Unit).Ensures w
      (fun _ w' => Serves True kept w w' ∧ commands b.handle (gpu w').history = [])
      (fun _ w' => Serves True kept w w' ∧ w.gpu.faults ≠ []) :=
  ensures_empty kept (.inl rfl) hKept w

/-- Resetting a buffer empties it. -/
theorem ensures_reset (b : CommandBuffer) (hKept : ¬ kept b.handle) (w : Scene) :
    (FrameDevice.reset b : Op Scene Unit).Ensures w (fun _ w' => Serves True kept w w')
      (fun _ w' => Serves True kept w w' ∧ w.gpu.faults ≠ []) :=
  (ensures_empty kept (.inr rfl) hKept w).mono (fun _ _ h => h.1) fun _ _ h => h

/-- A submission keeps the history clean just if the buffer could be submitted. -/
theorem ensures_submit (b : CommandBuffer) (waits : List (Semaphore × PipelineStages))
    (signals : List Semaphore) (w : Scene) :
    (FrameDevice.submit b waits signals : Op Scene Unit).Ensures w
      (fun _ w' => Serves (Submittable w.gpu.history b.handle) kept w w')
      (fun _ w' => Serves (Submittable w.gpu.history b.handle) kept w w' ∧ w.gpu.faults ≠ []) := by
  -- counting the call comes before it, and is routine
  have hSubmit : ∀ waits signals outcome, Gpu.Risks (Submittable w.gpu.history b.handle) kept w.gpu
      ((w.gpu.count "vkQueueSubmit").happen (.submit b.handle waits signals) outcome) :=
    fun _ _ _ => ((Gpu.passes_count _ _).risks.trans
      (Gpu.risks_submit _ _ _ _)).congr (iff_of_eq (true_and _))
  refine ensures_perform _ w ?_ ?_
  · intro w' hChain hDevice hGpu
    refine ⟨hChain, hDevice, ?_⟩
    rw [hGpu]
    exact hSubmit _ _ _
  · intro e code w' hChain hDevice hFaults hGpu
    refine ⟨⟨hChain, hDevice, ?_⟩, hFaults⟩
    rw [hGpu]
    exact hSubmit _ _ _

/-- Recording a command, if there is one of the device for it. -/
theorem serves_record (b : CommandBuffer) (hKept : ¬ kept b.handle) (c : Command)
    (w : Scene) :
    Serves True kept w (FrameDevice.record b c w) ∧
      commands b.handle (gpu (FrameDevice.record b c w)).history =
        (GpuDevice.resolve w.targets c).toOption.toList ++ commands b.handle w.gpu.history := by
  obtain ⟨chain, d, h⟩ := w
  show Serves True kept (chain, d, h) (chain, GpuDevice.record b c (d, h)) ∧
    commands b.handle (GpuDevice.record b c (d, h)).2.gpu.history =
      (GpuDevice.resolve d.targets c).toOption.toList ++ commands b.handle h.gpu.history
  rw [GpuDevice.record]
  cases GpuDevice.resolve d.targets c with
  | ok c' =>
    exact ⟨serves_of_risks (Gpu.risks_record hKept c' h.gpu), Gpu.commands_record_self _ c' h.gpu⟩
  | error entry => exact ⟨(Serves.refl _).push entry, rfl⟩

theorem ensures_allocate (count : UInt32) (w : Scene) :
    (FrameDevice.allocate count : Op Scene (List CommandBuffer)).Ensures w
      (fun bs w' => Serves True kept w w' ∧ bs.length = count.toNat ∧
        ∀ b ∈ bs, w.gpu.nextHandle ≤ b.handle ∧ b.handle < (gpu w').nextHandle)
      (fun _ w' => Serves True kept w w' ∧ w.gpu.faults ≠ []) := by
  show ((GpuDevice.allocate count).onSecond : Op Scene _).Ensures _ _ _
  rw [ensures_onSecond]
  exact (GpuDevice.ensures_allocate count w.2).mono
    (fun bs w' ⟨hDevice, hPasses, hNew⟩ => ⟨⟨rfl, hDevice, hPasses.risks⟩, hNew⟩)
    fun _ w' ⟨hDevice, hPasses, hFaults⟩ => ⟨⟨rfl, hDevice, hPasses.risks⟩, hFaults⟩

/-- Freeing a buffer is routine. -/
theorem serves_free (bs : List CommandBuffer) (w : Scene) :
    Serves True kept w (FrameDevice.free bs w) := by
  obtain ⟨chain, d, h⟩ := w
  show Serves True kept (chain, d, h) (chain, GpuDevice.free bs (d, h))
  rw [GpuDevice.free]
  split
  · exact .refl _
  · exact serves_of_risks (Gpu.passes_happen rfl _).risks

end Scene

end RenderLoop
