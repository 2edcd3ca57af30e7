import RenderLoop.Proofs.Frame.Transitions

/-!
# RenderLoop — how many draw buffers there are

The beginning of a frame **obtains** a draw buffer if it gets as far as that, whatever
becomes of the frame afterwards (`Synchronizer.obtained?`). The recorder has one draw
buffer for each image then. A frame that obtains none leaves the draw buffers as they
are, or leaves none (`ensures_beginFrame_draw`), and nothing else changes them. So
between calls there are none, or as many as there were images when one was obtained
last (`Session.drawCount_of_tracked`).
-/

namespace RenderLoop

open Rehearsal

-- ---------------------------------------------------------------------------
-- Obtaining a draw buffer
-- ---------------------------------------------------------------------------

namespace Recorder

variable {index images : UInt32} {r : Recorder} {w : Rehearsal} {t : Recorder × Rehearsal}

/-- A draw buffer that is obtained is one of as many as there are images. -/
theorem length_of_drawOutcome {b : CommandBuffer} (h : DrawOutcome index images r w (.ok b) t) :
    t.1.draw.length = images.toNat := by
  cases h with
  | reset hCount _ _ _ => exact hCount
  | renewed _ _ _ hCount _ => exact hCount

/-- If none is obtained, the draw buffers stay, or there are none. -/
theorem draw_of_drawOutcome {e : RenderError} (h : DrawOutcome index images r w (.error e) t) :
    t.1.draw = [] ∨ t.1.draw = r.draw := by
  cases h with
  | outOfRange _ _ _ => exact .inr rfl
  | notReset _ _ _ => exact .inr rfl
  | notAllocated _ _ => exact .inl rfl
  | miscounted _ _ _ _ _ => exact .inl rfl

end Recorder

namespace Synchronizer

/-- The beginning of a frame as far as its draw buffer. The answer is the number of images. -/
def obtainDraw {σ : Type} [FrameWorld σ] : Op (Synchronizer × σ) UInt32 := do
  expect .idle "begin frame"
  let imageIndex ← acquireImage
  let images := FrameWorld.imageCount (← get).2
  let _ ← onRecorder (Recorder.drawBuffer imageIndex images)
  pure images

/-- The number of images when a draw buffer is obtained, if one is. -/
def obtained? (s : Synchronizer × Rehearsal) : Option UInt32 :=
  (Op.start obtainDraw s).bind fun (r, _) => r.toOption

/-- What becomes of the draw buffers when a frame obtains one, and when it does not. -/
def Renews (bs : List CommandBuffer) : Option UInt32 → List CommandBuffer → Prop
  | some images, bs' => bs'.length = images.toNat
  | none, bs' => bs' = [] ∨ bs' = bs

section Obtained

variable {m : Synchronizer} {w : Rehearsal} {s : Synchronizer × Rehearsal} {index : UInt32}

/-- In another state than idle none is obtained. -/
theorem obtained?_of_ne (hState : m.state ≠ .idle) : obtained? (m, w) = none := by
  rw [obtained?, obtainDraw, start_expect_bind_of_ne hState]
  rfl

/-- Where no image is acquired none is obtained. -/
theorem obtained?_of_not_acquired (hIdle : m.state = .idle) {e : RenderError}
    (hAcquire : Op.start acquireImage (m, w) = some (.error e, s)) : obtained? (m, w) = none := by
  rw [obtained?, obtainDraw, start_expect_bind hIdle (by decide), Op.start_bind_of_error hAcquire]
  rfl

/-- With an image it depends on the choice of the draw buffer what is obtained. -/
theorem obtained?_of_acquired (hIdle : m.state = .idle)
    (hAcquire : Op.start acquireImage (m, w) = some (.ok index, s))
    {r : Except RenderError CommandBuffer} {t : Synchronizer × Rehearsal}
    (hDraw : Op.start (onRecorder (Recorder.drawBuffer index s.2.chain.images)) s = some (r, t)) :
    obtained? (m, w) = r.toOption.map fun _ => s.2.chain.images := by
  rw [obtained?, obtainDraw, start_expect_bind hIdle (by decide), Op.start_bind_of_ok hAcquire,
    Op.start_bind_of_ok (Op.start_get _)]
  show (Op.start (onRecorder (Recorder.drawBuffer index s.2.chain.images) >>= fun _ =>
    pure s.2.chain.images) s).bind _ = _
  cases r with
  | ok b =>
    rw [Op.start_bind_of_ok hDraw]
    rfl
  | error e =>
    rw [Op.start_bind_of_error hDraw]
    rfl

end Obtained

-- ---------------------------------------------------------------------------
-- The beginning of a frame
-- ---------------------------------------------------------------------------

/-- An acquisition has nothing to do with the recorder. -/
theorem ensures_acquireImage_recorder (m : Synchronizer) (w : Rehearsal) :
    (acquireImage : Op (Synchronizer × Rehearsal) UInt32).Ensures (m, w)
      (fun _ s => s.1.recorder = m.recorder) (fun _ s => s.1.recorder = m.recorder) := by
  simp only [acquireImage, enter, Op.ensures_bind, Op.ensures_change, Op.ensures_get,
    Op.ensures_attempt, Op.ensures_onSecond]
  refine (Op.ensures_true _ w).mono ?_ ?_
  · intro index w' _
    simp only [Op.ensures_log, Op.ensures_pure]
    rfl
  · intro e w₁ _
    split
    · -- a failure is no success; out of date; or anything else, with which the machine is lost
      rename_i hOk
      cases hOk
    · simp only [Op.ensures_bind, Op.ensures_change, Op.ensures_failWith]
      rfl
    · exact ensures_lose _ _ _ fun _ _ => rfl

/-- Opening a draw buffer does nothing more to the draw buffers than choosing it. -/
theorem ensures_recordOpening_draw (index images : UInt32) (extent : Extent) (m : Synchronizer)
    (w : Rehearsal) {P : List CommandBuffer → Prop}
    (hDraw : ∀ r t, Op.start (onRecorder (Recorder.drawBuffer index images)) (m, w) = some (r, t) →
      Renews m.recorder.draw (r.toOption.map fun _ => images) t.1.recorder.draw →
      P t.1.recorder.draw) :
    (recordOpening index images extent : Op (Synchronizer × Rehearsal) CommandBuffer).Ensures (m, w)
      (fun _ t => P t.1.recorder.draw) (fun _ t => P t.1.recorder.draw) := by
  have hOutcome : (onRecorder (Recorder.drawBuffer index images)).Ensures (m, w)
      (fun _ t => t.1.recorder.draw.length = images.toNat)
      (fun _ t => t.1.recorder.draw = [] ∨ t.1.recorder.draw = m.recorder.draw) := by
    rw [onRecorder, Op.ensures_on]
    exact (Recorder.ensures_drawBuffer index images m.recorder w).mono
      (fun b t hDraw => Recorder.length_of_drawOutcome hDraw)
      (fun e t hDraw => Recorder.draw_of_drawOutcome hDraw)
  simp only [recordOpening, Op.ensures_bind, Op.ensures_onSecond, Op.ensures_change,
    Op.ensures_pure]
  -- what follows the choice of the buffer does not touch the draw buffers
  refine hOutcome.run.mono ?_ ?_
  · rintro b t ⟨hCount, hRun⟩
    exact (Op.ensures_true _ t.2).mono (fun _ _ _ => hDraw _ _ hRun hCount)
      (fun _ _ _ => hDraw _ _ hRun hCount)
  · rintro e t ⟨hSame, hRun⟩
    exact hDraw _ _ hRun hSame

/-- The beginning of a frame renews the draw buffers if it obtains one. -/
theorem ensures_beginFrame_draw (extent : Extent) (m : Synchronizer) (w : Rehearsal) :
    (beginFrame extent : Op (Synchronizer × Rehearsal) Frame).Ensures (m, w)
      (fun _ t => Renews m.recorder.draw (obtained? (m, w)) t.1.recorder.draw)
      (fun _ t => Renews m.recorder.draw (obtained? (m, w)) t.1.recorder.draw) := by
  rw [beginFrame, Op.ensures_bind]
  refine ensures_expect _ _ m w (fun hIdle => ?_) (fun e hRefusal => ?_)
  · rw [Op.ensures_bind]
    refine (ensures_acquireImage_recorder m w).run.mono ?_ ?_
    · rintro index ⟨m₁, w₁⟩ ⟨hRecorder, hAcquire⟩
      simp only [Op.ensures_bind, Op.ensures_get]
      -- the draw buffer is chosen; what follows it does not touch the list
      have hOpening := ensures_recordOpening_draw index w₁.chain.images extent m₁ w₁
        (P := Renews m.recorder.draw (obtained? (m, w))) fun r t hRun hRenews => by
          rw [obtained?_of_acquired hIdle hAcquire hRun, ← hRecorder]
          exact hRenews
      refine ensures_orLose (hOpening.mono ?_ (fun _ _ h => h)) (fun _ _ _ _ h _ => h)
      intro b t hRenews
      simp only [enter, Op.ensures_change, Op.ensures_pure]
      exact hRenews
    · rintro e ⟨m₁, w₁⟩ ⟨hRecorder, hAcquire⟩
      rw [obtained?_of_not_acquired hIdle hAcquire]
      exact .inr (congrArg Recorder.draw hRecorder)
  · rw [obtained?_of_ne (ne_of_refused (by decide) hRefusal)]
    exact .inr rfl

end Synchronizer

-- ---------------------------------------------------------------------------
-- Sessions
-- ---------------------------------------------------------------------------

namespace Session

/-- The number of images when a call obtains a draw buffer, if it does. -/
def obtained? (s : Session) : Call → Option UInt32
  | .beginFrame _ => Synchronizer.obtained? s.both
  | _ => none

/-- The sessions that allowed calls lead to from a session, with the number of images when a draw
buffer was obtained last on the way. -/
inductive Tracked (allowed : Session → Call → Prop) (s : Session) : Option UInt32 → Session → Prop
  | here : Tracked allowed s none s
  | call {last : Option UInt32} {t u : Session} (c : Call) (hTracked : Tracked allowed s last t)
    (hAllowed : allowed t c) (hCall : t.call c = some u) :
    Tracked allowed s (t.obtained? c <|> last) u

/-- There are no draw buffers, or as many as there were images. -/
def DrawCount (s : Session) (last : Option UInt32) : Prop :=
  s.machine.recorder.draw = [] ∨
    ∃ images, last = some images ∧ s.machine.recorder.draw.length = images.toNat

variable {s t : Session} {last : Option UInt32}

/-- The count is that of the images, if the buffers were renewed, and the one of before if not. -/
theorem DrawCount.renewed (hCount : s.DrawCount last) {images? : Option UInt32}
    (hRenews : Synchronizer.Renews s.machine.recorder.draw images? t.machine.recorder.draw) :
    t.DrawCount (images? <|> last) := by
  cases images? with
  | some images => exact .inr ⟨images, rfl, hRenews⟩
  | none =>
    obtain hNone | hSame := hRenews
    · exact .inl hNone
    · rw [DrawCount, hSame]
      exact hCount

/-- No other call has to do with the draw buffers, but for the one that frees them. -/
theorem draw_of_call {c : Call} (hCall : s.call c = some t)
    (hBegin : ∀ extent, c ≠ .beginFrame extent) (hDestroy : c ≠ .destroy) :
    t.machine.recorder.draw = s.machine.recorder.draw := by
  cases callOutcome_of_call hCall with
  | began _ => exact absurd rfl (hBegin _)
  | notBegan _ => exact absurd rfl (hBegin _)
  | ended hOutcome => cases hOutcome <;> rfl
  | setup hOutcome => cases hOutcome <;> rfl
  | flushed hOutcome => cases hOutcome <;> rfl
  | destroyed => exact absurd rfl hDestroy
  | followed => rfl

/-- Each call but destruction keeps to the count. -/
theorem DrawCount.of_call (hCount : s.DrawCount last) {c : Call} (hDestroy : c ≠ .destroy)
    (hCall : s.call c = some t) : t.DrawCount (s.obtained? c <|> last) := by
  refine hCount.renewed ?_
  -- only the beginning of a frame obtains a draw buffer
  by_cases hBegin : ∃ extent, c = .beginFrame extent
  · obtain ⟨extent, rfl⟩ := hBegin
    obtain ⟨⟨r, m, w⟩, hRun, rfl⟩ := Option.map_eq_some_iff.mp hCall
    have hRenews := Synchronizer.ensures_beginFrame_draw extent s.machine s.world r (m, w) hRun
    cases r <;> exact hRenews
  · have hNone : s.obtained? c = none := by
      cases c with
      | beginFrame extent => exact absurd ⟨extent, rfl⟩ hBegin
      | _ => rfl
    rw [hNone]
    exact .inr (draw_of_call hCall (fun extent hEq => hBegin ⟨extent, hEq⟩) hDestroy)

/-- A run without destruction keeps to the count, from a machine without draw buffers on. -/
theorem drawCount_of_tracked {allowed : Session → Call → Prop}
    (hNoDestroy : ∀ t, ¬ allowed t .destroy) (hNone : s.machine.recorder.draw = [])
    (hTracked : Tracked allowed s last t) : t.DrawCount last := by
  induction hTracked with
  | here => exact .inl hNone
  | call c _ hAllowed hCall ih =>
    refine ih.of_call ?_ hCall
    rintro rfl
    exact hNoDestroy _ hAllowed

end Session

end RenderLoop
