import RenderLoop.Proofs.Rehearsal.Plan

/-!
# RenderLoop — why a call failed

The event of a failed call does not carry its failure. That was decided before the
call: by the fault that was due, by what the device was told about its next
submission or wait, or by the script of the chain. `Rehearsal.cause?` reads it off.

An operation that **passes on** the failures of its calls (`PassesOn`) fails with the
cause of the last event there is, and leaves alone what decides about later calls as
long as it goes well. So the cause of a failure can be read off the world in which
the operation began (`Blamed`).
-/

namespace RenderLoop.Rehearsal

/-- The failure of a call whose event came after a history, if it is one that failed. -/
def cause? (w : Rehearsal) (before : DeviceHistory) : DeviceEvent → Option RenderError
  | .refused c =>
    match ({ w with history := before } : Rehearsal).effect? c with
    | some (.fail e) => some e
    | _ => none
  | .submitFailed _ => w.submitFailure
  | .waited false => w.waitFailure
  | .presented _ _ (.error e) => some e
  | _ => none

/-- The last event is a call that failed, and this is why. -/
def Blamed (w : Rehearsal) (e : RenderError) (w' : Rehearsal) : Prop :=
  ∃ event before, w'.history = event :: before ∧ w.cause? before event = some e

/-- Later calls fail alike. -/
structure SameFate (w w' : Rehearsal) : Prop where
  faults : w'.faults = w.faults
  submitFailure : w'.submitFailure = w.submitFailure
  waitFailure : w'.waitFailure = w.waitFailure

theorem SameFate.refl (w : Rehearsal) : SameFate w w where
  faults := rfl
  submitFailure := rfl
  waitFailure := rfl

theorem SameFate.trans {w w' w'' : Rehearsal} (h : SameFate w w') (h' : SameFate w' w'') :
    SameFate w w'' where
  faults := h'.faults.trans h.faults
  submitFailure := h'.submitFailure.trans h.submitFailure
  waitFailure := h'.waitFailure.trans h.waitFailure

theorem sameFate_push (e : LogEntry) (w : Rehearsal) : SameFate w (Logging.push e w) where
  faults := rfl
  submitFailure := rfl
  waitFailure := rfl

theorem sameFate_happen (e : DeviceEvent) (w : Rehearsal) : SameFate w (happen e w) where
  faults := rfl
  submitFailure := rfl
  waitFailure := rfl

/-- Worlds with the same fate give the same causes. -/
theorem SameFate.cause? {w w' : Rehearsal} (h : SameFate w w') (before : DeviceHistory)
    (event : DeviceEvent) : w'.cause? before event = w.cause? before event := by
  cases event with
  | refused c => simp only [Rehearsal.cause?, effect?, h.faults]
  | submitFailed b => exact h.submitFailure
  | waited finished =>
    cases finished with
    | false => exact h.waitFailure
    | true => rfl
  | presented index waits outcome => cases outcome <;> rfl
  | _ => rfl

/-- What a later world puts the blame on, the earlier one does. -/
theorem SameFate.blamed {w w' w'' : Rehearsal} {e : RenderError} (h : SameFate w w')
    (hBlamed : Blamed w' e w'') : Blamed w e w'' := by
  obtain ⟨event, before, hHistory, hCause⟩ := hBlamed
  exact ⟨event, before, hHistory, (h.cause? before event).symm.trans hCause⟩

-- ---------------------------------------------------------------------------
-- Passing on failures
-- ---------------------------------------------------------------------------

variable {σ α β : Type} {world : σ → Rehearsal}

/-- An operation in a world with a rehearsal fails with the failure of the last call. -/
def PassesOn (world : σ → Rehearsal) (op : Op σ α) : Prop :=
  ∀ s, op.Ensures s (fun _ t => SameFate (world s) (world t)) (fun e t => Blamed (world s) e (world t))

/-- A sequence fails with the failure of the call that failed last. -/
theorem PassesOn.bind {op : Op σ α} {f : α → Op σ β} (hOp : PassesOn world op)
    (hf : ∀ a, PassesOn world (f a)) : PassesOn world (op >>= f) := by
  intro s
  rw [Op.ensures_bind]
  refine (hOp s).mono ?_ (fun _ _ h => h)
  -- the second part goes on from a world with the same fate
  intro a t hFirst
  exact (hf a t).mono (fun _ _ h => hFirst.trans h) (fun _ _ h => hFirst.blamed h)

/-- What is done after a look at the world may depend on it. -/
theorem PassesOn.of_get {f : σ → Op σ α} (hf : ∀ s, PassesOn world (f s)) :
    PassesOn world (get >>= f) := by
  intro s
  rw [Op.ensures_bind, Op.ensures_get]
  exact hf s s

/-- A rehearsal beside something else is the world of such an operation. -/
theorem PassesOn.onSecond {ρ : Type} {op : Op Rehearsal α} (hOp : PassesOn id op) :
    PassesOn (fun s : ρ × Rehearsal => s.2) op.onSecond := by
  intro s
  rw [Op.ensures_onSecond]
  exact hOp s.2

theorem passesOn_change {f : σ → σ} (hf : ∀ s, SameFate (world s) (world (f s))) :
    PassesOn world (Op.change f) := by
  intro s
  rw [Op.ensures_change]
  exact hf s

-- ---------------------------------------------------------------------------
-- The calls of the device
-- ---------------------------------------------------------------------------

/-- A fault is blamed on the call that it refuses. -/
theorem PassesOn.unlessRefused {op : Op Rehearsal α} (c : DeviceCall) (hOp : PassesOn id op) :
    PassesOn id (unlessRefused c op) := by
  intro w
  rw [Rehearsal.unlessRefused, Op.ensures_bind, Op.ensures_get]
  split
  · rename_i e hEffect
    rw [Op.ensures_bind, note, Op.ensures_change, Op.ensures_throw]
    refine ⟨.refused c, w.history, rfl, ?_⟩
    -- the refusal was decided by the history that is before it now
    have hEffect' : ({ w with history := w.history } : Rehearsal).effect? c = some (.fail e) := hEffect
    simp only [id, Rehearsal.cause?, hEffect']
  · exact hOp w

theorem passesOn_note (e : DeviceEvent) : PassesOn id (note e) := by
  refine passesOn_change fun w => ?_
  exact sameFate_happen e w

theorem passesOn_record (b : CommandBuffer) (c : Command) :
    PassesOn id (Op.change (FrameDevice.record b c : Rehearsal → Rehearsal)) :=
  passesOn_note _

theorem passesOn_beginBuffer (b : CommandBuffer) :
    PassesOn id (FrameDevice.beginBuffer b : Op Rehearsal Unit) := by
  refine PassesOn.unlessRefused _ ?_
  exact passesOn_note _

theorem passesOn_endBuffer (b : CommandBuffer) :
    PassesOn id (FrameDevice.endBuffer b : Op Rehearsal Unit) := by
  refine PassesOn.unlessRefused _ ?_
  exact passesOn_note _

/-- A submission that is not accepted fails as the world says. -/
theorem passesOn_submit (b : CommandBuffer) (waits : List (Semaphore × PipelineStages))
    (signals : List Semaphore) :
    PassesOn id (FrameDevice.submit b waits signals : Op Rehearsal Unit) := by
  refine PassesOn.unlessRefused .submit ?_
  intro w
  rw [submit, Op.ensures_bind, Op.ensures_get]
  split
  · rename_i e hFailure
    simp only [note, Op.ensures_bind, Op.ensures_change, Op.ensures_throw]
    exact ⟨.submitFailed b, w.history, rfl, hFailure⟩
  · exact passesOn_note _ w

/-- A wait that does not come to an end fails as the world says. -/
theorem passesOn_waitQueue : PassesOn id (FrameDevice.waitQueue : Op Rehearsal Unit) := by
  refine PassesOn.unlessRefused .waitIdle ?_
  intro w
  rw [waitIdle, Op.ensures_bind, Op.ensures_get]
  split
  · rename_i e hFailure
    simp only [note, Op.ensures_bind, Op.ensures_change, Op.ensures_throw]
    exact ⟨.waited false, w.history, rfl, hFailure⟩
  · exact passesOn_note _ w

/-- A presentation changes nothing of what decides about later calls, even if it fails. -/
theorem ensures_present_sameFate (index : UInt32) (waits : List Semaphore) (w : Rehearsal) :
    (FrameWorld.present index waits : Op Rehearsal Unit).Ensures w (fun _ w' => SameFate w w')
      (fun e w' => SameFate w w' ∧ Blamed w e w') := by
  show (present index waits).Ensures w _ _
  simp only [present, note, Op.ensures_bind, Op.ensures_get, Op.ensures_change,
    Op.ensures_ofExcept]
  cases w.chain.presentScript.headD (.ok ()) with
  | ok a => exact ⟨rfl, rfl, rfl⟩
  | error e => exact ⟨⟨rfl, rfl, rfl⟩, .presented index waits (.error e), w.history, rfl, rfl⟩

end RenderLoop.Rehearsal
