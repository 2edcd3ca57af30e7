import RenderLoop.Frame.Synchronizer
import RenderLoop.Proofs.Op.Ensures

/-!
# RenderLoop — the frame machine in any world

What the machine does by itself, whatever the device is: it refuses an operation in
the wrong state and a frame for another image, and a failure loses it. Losing it
adds to the log, and changes nothing else of the world (`Logged`).
-/

namespace RenderLoop

open Op

/-- Only entries were logged. -/
inductive Logged {σ : Type} [Logging σ] (s : σ) : σ → Prop
  | here : Logged s s
  | push {t : σ} (e : LogEntry) (hLogged : Logged s t) : Logged s (Logging.push e t)

/-- What every entry keeps stays. -/
theorem Logged.keeps {σ : Type} [Logging σ] {s t : σ} (hLogged : Logged s t) {P : σ → Prop}
    (hPush : ∀ e t, P t → P (Logging.push e t)) (hs : P s) : P t := by
  induction hLogged with
  | here => exact hs
  | push e _ ih => exact hPush e _ ih

namespace Synchronizer

variable {σ α : Type}

section Refusals

variable {m : Synchronizer} {expected : FrameState} {operation : String} {e : RenderError}

/-- An operation is refused only in another state than the one it needs. -/
theorem ne_of_refused (hAlive : expected ≠ .lost)
    (hRefusal : m.refusal? expected operation = some e) : m.state ≠ expected := by
  rintro rfl
  simp only [refusal?, if_neg hAlive, ne_eq, not_true, if_false, reduceCtorEq] at hRefusal

/-- A refusal does not ask for another swapchain. -/
theorem ne_outOfDate_of_refused (hRefusal : m.refusal? expected operation = some e) :
    e ≠ .swapchainOutOfDate := by
  rintro rfl
  rw [refusal?] at hRefusal
  split at hRefusal
  · cases hRefusal
  · split at hRefusal <;> cases hRefusal

end Refusals

/-- What to show of an expectation: that it is met in the expected state, and each refusal. -/
theorem ensures_expect (expected : FrameState) (operation : String) (m : Synchronizer) (w : σ)
    {ok : Unit → Synchronizer × σ → Prop} {fail : RenderError → Synchronizer × σ → Prop}
    (hOk : m.state = expected → ok () (m, w))
    (hFail : ∀ e, m.refusal? expected operation = some e → fail e (m, w)) :
    (expect expected operation : Op (Synchronizer × σ) Unit).Ensures (m, w) ok fail := by
  rw [expect, ensures_bind, ensures_get]
  split
  · rename_i e hRefusal
    rw [ensures_throw]
    exact hFail e hRefusal
  · rename_i hRefusal
    rw [ensures_pure]
    refine hOk ?_
    -- nothing is refused only in the state that was expected
    rw [refusal?] at hRefusal
    split at hRefusal
    · cases hRefusal
    · split at hRefusal
      · cases hRefusal
      · rename_i hState
        exact Decidable.not_not.mp hState

section Device

variable [FrameDevice σ]

/-- A failure that loses the machine sets its state and logs, and does nothing else. -/
theorem ensures_lose (e : RenderError) (m : Synchronizer) (w : σ)
    {ok : α → Synchronizer × σ → Prop} {fail : RenderError → Synchronizer × σ → Prop}
    (hFail : ∀ w', Logged w w' → fail e ({ m with state := .lost }, w')) :
    (lose e : Op (Synchronizer × σ) α).Ensures (m, w) ok fail := by
  simp only [lose, enter, ensures_bind, ensures_get, ensures_log, ensures_change, ensures_failWith]
  exact hFail _ (.push _ (.push _ .here))

/-- An operation whose failure loses the machine fails in the state `lost`, with only entries logged
after it. -/
theorem ensures_orLose {op : Op (Synchronizer × σ) α} {m : Synchronizer} {w : σ}
    {ok : α → Synchronizer × σ → Prop} {fail fail' : RenderError → Synchronizer × σ → Prop}
    (hOp : op.Ensures (m, w) ok fail')
    (hFail : ∀ e m' w₁ w', fail' e (m', w₁) → Logged w₁ w' →
      fail e ({ m' with state := .lost }, w')) :
    (orLose op).Ensures (m, w) ok fail := by
  rw [orLose, ensures_bind, ensures_attempt]
  refine hOp.mono ?_ ?_
  · intro a s hOk
    rw [ensures_pure]
    exact hOk
  · -- the state the operation left, lost
    rintro e ⟨m', w₁⟩ hFail'
    exact ensures_lose e m' w₁ fun w' hLogged => hFail e m' w₁ w' hFail' hLogged

end Device

section World

variable [FrameWorld σ] {f : Frame}

/-- A frame is checked against the image that the chain hands out; another one is refused. -/
theorem ensures_expectCurrent (f : Frame) (m : Synchronizer) (w : σ)
    {ok : Unit → Synchronizer × σ → Prop} {fail : RenderError → Synchronizer × σ → Prop}
    (hOk : f.imageIndex = FrameWorld.currentImage w → ok () (m, w))
    (hFail : f.imageIndex ≠ FrameWorld.currentImage w →
      fail (.invalidFrameState "end frame"
        (m.otherImageText (FrameWorld.currentImage w) f.imageIndex)) (m, w)) :
    (expectCurrent f : Op (Synchronizer × σ) Unit).Ensures (m, w) ok fail := by
  simp only [expectCurrent, ensures_bind, ensures_get]
  refine ensures_ite ?_ ?_
  · intro hImage
    simp only [ensures_bind, ensures_get, ensures_throw]
    exact hFail hImage
  · intro hImage
    rw [ensures_pure]
    exact hOk (Decidable.not_not.mp hImage)

-- ---------------------------------------------------------------------------
-- The end of a frame
-- ---------------------------------------------------------------------------

/-- The end of a frame that is not refused, in the parts before and after the presentation. -/
def finishFrame (f : Frame) : Op (Synchronizer × σ) Unit := do
  (do finishDraw f; finishPre f)
  let presented ← presentImage f.imageIndex
  (do enter .presenting; finishPost f; enter .idle)
  if presented then countFrame else throw .swapchainOutOfDate

/-- Ending a frame is two checks and then finishing it. -/
theorem endFrame_eq (f : Frame) :
    (endFrame f : Op (Synchronizer × σ) Unit) = (do
      expect .recording "end frame"
      expectCurrent f
      finishFrame f) := by
  simp only [endFrame, finishFrame, bind_assoc]

/-- Ending a frame is refused in another state and for another image, and finishes it else. -/
theorem ensures_endFrame_of {m : Synchronizer} {w : σ} {ok : Unit → Synchronizer × σ → Prop}
    {fail : RenderError → Synchronizer × σ → Prop}
    (hRefused : ∀ e, m.refusal? .recording "end frame" = some e → fail e (m, w))
    (hOther : m.state = .recording → f.imageIndex ≠ FrameWorld.currentImage w →
      fail (.invalidFrameState "end frame"
        (m.otherImageText (FrameWorld.currentImage w) f.imageIndex)) (m, w))
    (hFinish : m.state = .recording → f.imageIndex = FrameWorld.currentImage w →
      (finishFrame f : Op (Synchronizer × σ) Unit).Ensures (m, w) ok fail) :
    (endFrame f : Op (Synchronizer × σ) Unit).Ensures (m, w) ok fail := by
  rw [endFrame_eq, ensures_bind]
  refine ensures_expect _ _ m w (fun hRecording => ?_) hRefused
  rw [ensures_bind]
  exact ensures_expectCurrent f m w (hFinish hRecording) (hOther hRecording)

/-- Finishing a frame part by part: `P` holds before the presentation, `Q` after it, and `R` when
the machine is idle again. -/
theorem ensures_finishFrame_of {s : Synchronizer × σ} {ok : Unit → Synchronizer × σ → Prop}
    {fail : RenderError → Synchronizer × σ → Prop} {P : Synchronizer × σ → Prop}
    {Q R : Bool → Synchronizer × σ → Prop}
    (hApproach : (do finishDraw f; finishPre f : Op (Synchronizer × σ) Unit).Ensures s
      (fun _ t => P t) fail)
    (hPresent : ∀ t, P t →
      (presentImage f.imageIndex : Op (Synchronizer × σ) Bool).Ensures t Q fail)
    (hDeparture : ∀ presented t, Q presented t →
      (do enter .presenting; finishPost f; enter .idle : Op (Synchronizer × σ) Unit).Ensures t
        (fun _ u => R presented u) fail)
    (hCounted : ∀ t frames, R true t → Checked.add64 t.1.framesCompleted 1 = some frames →
      ok () ({ t.1 with framesCompleted := frames }, t.2))
    (hStale : ∀ t, R false t → fail .swapchainOutOfDate t) :
    (finishFrame f : Op (Synchronizer × σ) Unit).Ensures s ok fail := by
  rw [finishFrame, ensures_bind]
  refine hApproach.mono (fun _ t hBefore => ?_) (fun _ _ h => h)
  rw [ensures_bind]
  refine (hPresent t hBefore).mono (fun presented u hAfter => ?_) (fun _ _ h => h)
  rw [ensures_bind]
  refine (hDeparture presented u hAfter).mono (fun _ v hIdle => ?_) (fun _ _ h => h)
  -- only now does it matter what the presentation answered
  cases presented with
  | true =>
    simp only [if_true, countFrame, ensures_bind, ensures_get, ensures_ofOption, ensures_change]
    exact fun frames hFrames => hCounted v frames hIdle hFrames
  | false =>
    simp only [Bool.false_eq_true, if_false, ensures_throw]
    exact hStale v hIdle

end World

end Synchronizer

end RenderLoop
