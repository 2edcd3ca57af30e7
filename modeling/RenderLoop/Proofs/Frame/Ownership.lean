import RenderLoop.Proofs.Frame.DrawCount
import RenderLoop.Proofs.Frame.OwnedBuffers
import RenderLoop.Proofs.Rehearsal.Live

/-!
# RenderLoop — what is alive is owned

Between calls the device holds the command buffers of the recorder and the two
semaphores of the machine, and nothing else (`Session.Owns`); after the destruction of
the machine it holds nothing, and neither does it when a machine could not be created
(`owns_of_run`). This is so whatever fails, and whichever frames are handed back.

A recorder that needs one buffer takes the first of those it gets, and would not free
any others. So a call that allocates a single buffer must not be miscounted to more
than one (`Sparing`); where several are asked for, a wrong number is taken care of.
-/

namespace RenderLoop

open DeviceHistory Rehearsal

-- ---------------------------------------------------------------------------
-- Recorders
-- ---------------------------------------------------------------------------

/-- Without a fault that miscounts them, as many buffers are handed out as were asked for. -/
theorem Rehearsal.allocatedCount_eq {w : Rehearsal}
    (hCounts : ∀ f ∈ w.faults, ∀ n, f.effect ≠ .miscount n) (count : UInt32) :
    w.allocatedCount count = count.toNat := by
  rw [allocatedCount, effect?]
  split
  · rename_i n hEffect
    obtain ⟨f, hFind, hMiscount⟩ := Option.map_eq_some_iff.mp hEffect
    exact absurd hMiscount (hCounts f (List.mem_of_find?_eq_some hFind) n)
  · rfl

/-- What was allocated comes to what was alive. -/
theorem Rehearsal.Allocated.holds {w w' : Rehearsal} {bs owned : List CommandBuffer}
    {ss : List Semaphore} (hAllocated : Allocated w bs w') (hHolds : w.Holds owned ss) :
    w'.Holds (bs ++ owned) ss where
  buffers := by
    rw [hAllocated.history]
    exact hHolds.buffers.append_left bs
  nodup := by
    refine List.nodup_append.mpr ⟨hAllocated.nodup, hHolds.nodup, ?_⟩
    -- handles are given once, so that a new buffer is none of the old
    rintro b hNew _ hOwned rfl
    exact hAllocated.not_mem (hHolds.old b hOwned) hNew
  old b hb := by
    rcases List.mem_append.mp hb with hNew | hOwned
    · exact ((hAllocated.mem_iff b).mp hNew).2
    · exact Nat.lt_of_lt_of_le (hHolds.old b hOwned) hAllocated.nextHandle_le
  semaphores := by
    rw [hAllocated.history]
    exact hHolds.semaphores

namespace Recorder

variable {r : Recorder} {w w' : Rehearsal} {bs : List CommandBuffer} {ss : List Semaphore}
  {e : RenderError} {t : Recorder × Rehearsal}

/-- A new buffer that could not be begun is not kept. -/
theorem holds_of_notNew (hHolds : w.Holds bs ss) (hOne : w.allocatedCount 1 ≤ 1)
    (hNew : NewOutcome w (.error e) w') : w'.Holds bs ss := by
  cases hNew with
  | notAllocated hHistory hKept =>
    exact holds_of_history (hHolds.quiet (quiet_refused _)) hHistory hKept
  | noBuffer hAllocated hHistory hKept =>
    exact holds_of_history (hAllocated.holds hHolds) hHistory hKept
  | @notBegun _ b others w₁ _ hAllocated hHistory hKept hCount =>
    -- of a single buffer at most one is handed out, so that none besides it is left behind
    obtain rfl : others = [] := List.length_eq_zero_iff.mp (by omega)
    have hTaken : w₁.history.Holds w₁.nextHandle ([b] ++ bs) ss := hAllocated.holds hHolds
    exact holds_of_history (hTaken.quiet (quiet_refused _)).freed hHistory hKept

/-- One that was begun is the only thing that came to life. -/
theorem holds_of_new {b : CommandBuffer} (hHolds : w.Holds bs ss)
    (hOne : w.allocatedCount 1 ≤ 1) (hNew : NewOutcome w (.ok b) w') : w'.Holds (b :: bs) ss := by
  cases hNew with
  | @begun _ others w₁ _ hAllocated hHistory hKept hCount =>
    obtain rfl : others = [] := List.length_eq_zero_iff.mp (by omega)
    have hTaken : w₁.history.Holds w₁.nextHandle (b :: bs) ss := hAllocated.holds hHolds
    exact holds_of_history (hTaken.quiet fun _ => ⟨rfl, rfl⟩) hHistory hKept

/-- The recorder answers for its setup buffer, whether it was there or not. -/
theorem holds_of_setupOutcome {out : Except RenderError CommandBuffer}
    (hHolds : w.Holds r.owned ss) (hOne : w.allocatedCount 1 ≤ 1)
    (hOutcome : SetupOutcome r w out t) : t.2.Holds t.1.owned ss := by
  cases hOutcome with
  | present _ => exact hHolds
  | failed _ hNew => exact holds_of_notNew hHolds hOne hNew
  | begun hSetup hNew =>
    rw [owned_withSetup hSetup]
    exact holds_of_new hHolds hOne hNew

/-- A flush makes nothing come to life or die before its end. -/
theorem quiet_flushPlan (b : CommandBuffer) : ∀ i ∈ flushPlan b, i.Quiet := by
  simp only [flushPlan, List.forall_mem_cons]
  exact ⟨quiet_finish b, quiet_submit b [] [], quiet_wait, by simp⟩

/-- The setup buffer is freed, also when running it fails. -/
theorem holds_of_flushOutcome {out : Except RenderError Unit} (hHolds : w.Holds r.owned ss)
    (hOutcome : FlushOutcome r w out t) : t.2.Holds t.1.owned ss := by
  cases hOutcome with
  | nothing _ => exact hHolds
  | @flushed b w' hSetup hHistory hKept =>
    rw [owned_of_setup hSetup] at hHolds
    exact holds_of_history (hHolds.after (quiet_flushPlan b)).freed hHistory hKept
  | @failed _ b h w' hSetup hBroken hHistory hKept =>
    rw [owned_of_setup hSetup] at hHolds
    exact holds_of_history (hHolds.brokenOff (quiet_flushPlan b) hBroken).freed hHistory hKept

-- ---------------------------------------------------------------------------
-- Draw buffers
-- ---------------------------------------------------------------------------

/-- Buffers that are freed are no longer alive. -/
theorem holds_freedIfAny {h : DeviceHistory} {next : Nat} {freed : List CommandBuffer}
    (hHolds : h.Holds next (freed ++ bs) ss) : (freedIfAny freed h).Holds next bs ss := by
  rw [freedIfAny]
  split
  · rename_i hNone
    rwa [List.isEmpty_iff.mp hNone, List.nil_append] at hHolds
  · exact hHolds.freed

/-- Whether a draw buffer is found, made or neither, the recorder answers for what it has then. -/
theorem holds_of_drawOutcome {index images : UInt32} {out : Except RenderError CommandBuffer}
    (hAlive : r.destroyed = false) (hHolds : w.Holds r.owned ss)
    (hOutcome : DrawOutcome index images r w out t) :
    t.2.Holds t.1.owned ss ∧ t.1.destroyed = false := by
  have hDropped : (freedIfAny r.draw w.history).Holds w.nextHandle (owned { r with draw := [] }) ss :=
    holds_freedIfAny (hHolds.perm (perm_owned hAlive))
  -- the draw buffers that there were are freed before new ones are allocated
  cases hOutcome with
  | outOfRange _ hHistory hKept => exact ⟨holds_of_history hHolds hHistory hKept, hAlive⟩
  | reset _ _ hHistory hKept =>
    exact ⟨holds_of_history (hHolds.quiet fun _ => ⟨rfl, rfl⟩) hHistory hKept, hAlive⟩
  | notReset _ hHistory hKept =>
    exact ⟨holds_of_history (hHolds.quiet (quiet_refused _)) hHistory hKept, hAlive⟩
  | @renewed b bs w₁ w' hHistory hKept hAllocated _ _ =>
    have hTaken := hAllocated.holds (holds_of_history hDropped hHistory hKept)
    exact ⟨hTaken.perm (perm_owned (r := { r with draw := bs }) hAlive).symm, hAlive⟩
  | notAllocated hHistory hKept =>
    exact ⟨holds_of_history (hDropped.quiet (quiet_refused _)) hHistory hKept, hAlive⟩
  | miscounted hHistory hKept hAllocated hFreed hKept' =>
    have hTaken := hAllocated.holds (holds_of_history hDropped hHistory hKept)
    exact ⟨holds_of_history hTaken.freed hFreed hKept', hAlive⟩

-- ---------------------------------------------------------------------------
-- Beginning and end
-- ---------------------------------------------------------------------------

/-- A recorder frees all that it answers for. -/
theorem holds_released {h : DeviceHistory} {next : Nat} (hAlive : r.destroyed = false)
    (hHolds : h.Holds next r.owned ss) : (r.released h).Holds next [] ss := by
  rw [owned, frameBuffers_of_alive hAlive] at hHolds
  have hPresent : ([r.prePresent, r.postPresent] ++ []).Perm [r.prePresent, r.postPresent] :=
    .refl _
  exact ((holds_freedIfAny (holds_freedIfAny hHolds)).perm hPresent.symm).freed

/-- A recorder that could not be created leaves nothing alive. -/
theorem holds_of_notCreated (hHolds : w.Holds [] ss) (hOne : w.allocatedCount 1 ≤ 1)
    (hOutcome : RecorderOutcome w (.error e) w') : w'.Holds [] ss := by
  cases hOutcome with
  | noSetup hNew => exact holds_of_notNew hHolds hOne hNew
  | @notAllocated _ b w₁ _ hNew hHistory hKept =>
    have hSetup : w₁.history.Holds w₁.nextHandle ([b] ++ []) ss := holds_of_new hHolds hOne hNew
    exact holds_of_history (hSetup.quiet (quiet_refused _)).freed hHistory hKept
  | @miscounted _ b others w₁ w₂ _ hNew hAllocated hHistory hKept =>
    have hSetup : w₁.Holds ([b] ++ []) ss := holds_of_new hHolds hOne hNew
    have hTaken : w₂.history.Holds w₂.nextHandle (others ++ ([b] ++ [])) ss :=
      hAllocated.holds hSetup
    exact holds_of_history hTaken.freed.freed hHistory hKept

theorem holds_of_created (hHolds : w.Holds [] ss) (hOne : w.allocatedCount 1 ≤ 1)
    (hOutcome : RecorderOutcome w (.ok r) w') :
    w'.Holds r.owned ss ∧ r.destroyed = false ∧ r.draw = [] := by
  cases hOutcome with
  | @created b pre post w₁ _ hNew hAllocated =>
    have hTaken := hAllocated.holds (holds_of_new hHolds hOne hNew)
    have hPerm : ([pre, post] ++ [b]).Perm ([b] ++ [pre, post]) := List.perm_append_comm
    exact ⟨hTaken.perm hPerm, rfl, rfl⟩

end Recorder

-- ---------------------------------------------------------------------------
-- The frame machine
-- ---------------------------------------------------------------------------

namespace Synchronizer

/-- A machine that was not destroyed has two semaphores, and all that is alive is its own. -/
structure Owns (m : Synchronizer) (w : Rehearsal) : Prop where
  holds : w.Holds m.recorder.owned [m.renderComplete, m.presentComplete]
  different : m.renderComplete ≠ m.presentComplete
  alive : m.destroyed = false
  recorder : m.recorder.destroyed = false

variable {m : Synchronizer} {w w' : Rehearsal} {e : RenderError}

/-- An acquisition makes nothing come to life or die. -/
theorem Acquired.holds {bs : List CommandBuffer} {ss : List Semaphore}
    {out : Except RenderError UInt32} (hAcquired : Acquired m w out w') (hHolds : w.Holds bs ss) :
    w'.Holds bs ss := by
  rw [Rehearsal.Holds, hAcquired.history, hAcquired.nextHandle]
  exact hHolds.quiet fun _ => ⟨rfl, rfl⟩

/-- The opening of a draw buffer changes nothing in what is alive. -/
theorem quiet_openingPlan (b : CommandBuffer) (index : UInt32) (extent : Extent)
    (clears : List ClearValue) : ∀ i ∈ openingPlan b index extent clears, i.Quiet := by
  simp only [openingPlan, openingCommands, List.map, List.forall_mem_cons]
  exact ⟨quiet_begin b, quiet_record b _, quiet_record b _, quiet_record b _, by simp⟩

/-- A recorder answers for what is alive however the opening of a frame ends. -/
theorem holds_of_openingOutcome {index images : UInt32} {extent : Extent}
    {clears : List ClearValue} {r : Recorder} {ss : List Semaphore}
    {out : Except RenderError CommandBuffer} {t : Recorder × Rehearsal}
    (hAlive : r.destroyed = false) (hHolds : w.Holds r.owned ss)
    (hOutcome : OpeningOutcome index images extent clears r w out t) :
    t.2.Holds t.1.owned ss ∧ t.1.destroyed = false := by
  cases hOutcome with
  | noBuffer hDraw => exact Recorder.holds_of_drawOutcome hAlive hHolds hDraw
  | notBegun hDraw hHistory hKept =>
    obtain ⟨hDrawn, hAlive'⟩ := Recorder.holds_of_drawOutcome hAlive hHolds hDraw
    exact ⟨holds_of_history (hDrawn.quiet (quiet_refused _)) hHistory hKept, hAlive'⟩
  | @opened b _ _ _ hDraw hHistory hKept =>
    obtain ⟨hDrawn, hAlive'⟩ := Recorder.holds_of_drawOutcome hAlive hHolds hDraw
    exact ⟨holds_of_history (hDrawn.after (quiet_openingPlan b _ _ _)) hHistory hKept, hAlive'⟩

/-- The beginning of a frame, however it ends. -/
theorem Owns.begun {extent : Extent} {out : Except RenderError Frame}
    {t : Synchronizer × Rehearsal} (hOwns : m.Owns w)
    (hOutcome : BeginOutcome extent m w out t) : t.1.Owns t.2 := by
  cases hOutcome with
  | refused _ => exact hOwns
  | outOfDate _ hAcquired | notAcquired _ _ hAcquired =>
    exact ⟨hAcquired.holds hOwns.holds, hOwns.different, hOwns.alive, hOwns.recorder⟩
  | lost _ hAcquired hOpening hHistory hKept =>
    obtain ⟨hHolds, hAlive⟩ :=
      holds_of_openingOutcome hOwns.recorder (hAcquired.holds hOwns.holds) hOpening
    exact ⟨holds_of_history hHolds hHistory hKept, hOwns.different, hOwns.alive, hAlive⟩
  | begun _ hAcquired hOpening =>
    obtain ⟨hHolds, hAlive⟩ :=
      holds_of_openingOutcome hOwns.recorder (hAcquired.holds hOwns.holds) hOpening
    exact ⟨hHolds, hOwns.different, hOwns.alive, hAlive⟩

/-- The end of a frame changes nothing in what is alive. -/
theorem quiet_framePlan (m : Synchronizer) (f : Frame) (outcome : Except RenderError Unit) :
    ∀ i ∈ m.framePlan f outcome, i.Quiet := by
  refine forall_mem_framePlan (fun b _ => quiet_begin b) (fun b _ c => quiet_record b c)
    (fun b _ => quiet_finish b) (fun b _ waits signals => quiet_submit b waits signals) ?_
    quiet_wait outcome
  refine fun index out => ⟨fun _ => ⟨rfl, rfl⟩, ?_⟩
  rintro - ⟨cause, -, rfl⟩ h
  exact ⟨rfl, rfl⟩

/-- The end of a frame, however it ends and whatever frame it is. -/
theorem Owns.ended {f : Frame} {out : Except RenderError Unit} {t : Synchronizer × Rehearsal}
    (hOwns : m.Owns w) (hOutcome : EndOutcome f m w out t) : t.1.Owns t.2 := by
  have hAfter : ∀ outcome, ((m.framePlan f outcome).after w.history).Holds w.nextHandle
      m.recorder.owned [m.renderComplete, m.presentComplete] :=
    fun outcome => hOwns.holds.after (quiet_framePlan m f outcome)
  cases hOutcome with
  | refused _ | otherImage _ _ _ => exact hOwns
  | @lost _ outcome w' _ _ _ hBroken hKept =>
    have hHolds := hOwns.holds.brokenOff (quiet_framePlan m f outcome) hBroken
    exact ⟨holds_of_history hHolds rfl hKept, hOwns.different, hOwns.alive, hOwns.recorder⟩
  | outOfDate _ _ hHistory hKept | finished _ _ _ hHistory hKept =>
    exact ⟨holds_of_history (hAfter _) hHistory hKept, hOwns.different, hOwns.alive,
      hOwns.recorder⟩

/-- Nothing is alive after the destruction. -/
theorem Owns.gone (hOwns : m.Owns w) : (destroy (m, w)).2.Holds [] [] := by
  obtain ⟨-, hHistory, hKept⟩ := destroy_of_alive m w hOwns.alive hOwns.recorder
  have hBuffers := Recorder.holds_released hOwns.recorder hOwns.holds
  have hSemaphores := (hBuffers.destroyedSemaphore m.presentComplete).destroyedSemaphore
    m.renderComplete
  have hNone : ([m.renderComplete, m.presentComplete].filter (· ≠ m.presentComplete)).filter
      (· ≠ m.renderComplete) = [] := by
    simp [List.filter_cons]
  rw [hNone] at hSemaphores
  exact holds_of_history hSemaphores hHistory hKept

-- ---------------------------------------------------------------------------
-- Creation
-- ---------------------------------------------------------------------------

/-- A semaphore that could not be made is not alive. -/
theorem quiet_noSemaphore {event : DeviceEvent} (hEvent : NoSemaphore event) : event.Quiet := by
  rcases hEvent with rfl | rfl <;> exact fun _ => ⟨rfl, rfl⟩

/-- A semaphore that was made is alive besides all others. -/
theorem Created.holds {bs : List CommandBuffer} {ss : List Semaphore} {s : Semaphore}
    (hCreated : Created w s w') (hHolds : w.Holds bs ss) : w'.Holds bs (s :: ss) := by
  rw [Rehearsal.Holds, hCreated.history, hCreated.nextHandle]
  exact (hHolds.later (Nat.le_succ _)).createdSemaphore s

/-- A new machine owns what is alive. -/
theorem owns_of_createOutcome {clearColor : Color} (hHolds : w.Holds [] [])
    (hOne : w.allocatedCount 1 ≤ 1) (hOutcome : CreateOutcome clearColor w (.ok m) w') :
    m.Owns w' ∧ m.recorder.draw = [] := by
  cases hOutcome with
  | created hRecorder hFirst hSecond =>
    obtain ⟨hRecorderHolds, hAlive, hDraw⟩ := Recorder.holds_of_created hHolds hOne hRecorder
    refine ⟨⟨hSecond.holds (hFirst.holds hRecorderHolds), ?_, rfl, hAlive⟩, hDraw⟩
    intro hEq
    have hHandles := congrArg Semaphore.handle hEq
    dsimp only at hHandles
    rw [hSecond.handle, hFirst.handle, hFirst.nextHandle] at hHandles
    exact Nat.succ_ne_self _ hHandles

/-- A machine that could not be created leaves nothing alive. -/
theorem holds_of_notCreated {clearColor : Color} (hHolds : w.Holds [] [])
    (hOne : w.allocatedCount 1 ≤ 1) (hOutcome : CreateOutcome clearColor w (.error e) w') :
    ∃ next, w'.history.Holds next [] [] := by
  cases hOutcome with
  | noRecorder hRecorder => exact ⟨_, Recorder.holds_of_notCreated hHolds hOne hRecorder⟩
  | noFirst hRecorder hEvent hHistory =>
    obtain ⟨hRecorderHolds, hAlive, -⟩ := Recorder.holds_of_created hHolds hOne hRecorder
    rw [hHistory]
    exact ⟨_, Recorder.holds_released hAlive (hRecorderHolds.quiet (quiet_noSemaphore hEvent))⟩
  | @noSecond _ r s event w₁ w₂ _ hRecorder hFirst hEvent hHistory =>
    obtain ⟨hRecorderHolds, hAlive, -⟩ := Recorder.holds_of_created hHolds hOne hRecorder
    have hKept := (hFirst.holds hRecorderHolds).quiet (quiet_noSemaphore hEvent)
    have hOwned := hKept.destroyedSemaphore s
    have hNone : [s].filter (· ≠ s) = [] := by simp
    rw [hNone] at hOwned
    rw [hHistory]
    exact ⟨_, Recorder.holds_released hAlive hOwned⟩

end Synchronizer

-- ---------------------------------------------------------------------------
-- Sessions
-- ---------------------------------------------------------------------------

namespace Session

open Synchronizer

/-- A single buffer is not miscounted, and the machine is not destroyed. -/
def Sparing (s : Session) : Call → Prop
  | .beginSetup => s.world.allocatedCount 1 ≤ 1
  | .destroy => False
  | _ => True

/-- What is alive belongs to the machine: the setup buffer if there is one, the draw buffers and the
two of presentation, all different, and the two semaphores. The draw buffers are as many as there
were images when a frame obtained one last, or none. -/
structure Owns (s : Session) (last : Option UInt32) : Prop where
  buffers : s.world.history.liveBuffers.Perm (s.machine.recorder.setup.toList ++
    (s.machine.recorder.draw ++ [s.machine.recorder.prePresent, s.machine.recorder.postPresent]))
  nodup : s.world.history.liveBuffers.Nodup
  draw : s.DrawCount last
  semaphores : s.world.history.liveSemaphores =
    [s.machine.renderComplete, s.machine.presentComplete]
  different : s.machine.renderComplete ≠ s.machine.presentComplete

/-- Nothing is alive. -/
def Bare (h : DeviceHistory) : Prop := h.liveBuffers = [] ∧ h.liveSemaphores = []

/-- Holding nothing is to have nothing alive. -/
theorem bare_of_holds {h : DeviceHistory} {next : Nat} (hHolds : h.Holds next [] []) : Bare h :=
  ⟨hHolds.buffers.eq_nil, hHolds.semaphores⟩

variable {s t : Session} {last : Option UInt32}

/-- What a machine owns, a session owns, with the count of its draw buffers. -/
theorem owns_of_machine (hOwns : s.machine.Owns s.world) (hCount : s.DrawCount last) :
    s.Owns last where
  buffers := by
    have hPerm := hOwns.holds.buffers
    rwa [Recorder.owned, Recorder.frameBuffers_of_alive hOwns.recorder] at hPerm
  nodup := hOwns.holds.buffers.nodup_iff.mpr hOwns.holds.nodup
  draw := hCount
  semaphores := hOwns.holds.semaphores
  different := hOwns.different

/-- A call leaves what is alive to the machine. -/
theorem machine_owns_of_call (hOwns : s.machine.Owns s.world) {c : Call} (hSparing : Sparing s c)
    (hCall : s.call c = some t) : t.machine.Owns t.world := by
  cases callOutcome_of_call hCall with
  | began hOutcome => exact hOwns.begun hOutcome
  | notBegan hOutcome => exact hOwns.begun hOutcome
  | ended hOutcome => exact hOwns.ended hOutcome
  | setup hOutcome =>
    have hHolds := Recorder.holds_of_setupOutcome hOwns.holds hSparing hOutcome
    refine ⟨hHolds, hOwns.different, hOwns.alive, ?_⟩
    cases hOutcome <;> exact hOwns.recorder
  | flushed hOutcome =>
    have hHolds := Recorder.holds_of_flushOutcome hOwns.holds hOutcome
    refine ⟨hHolds, hOwns.different, hOwns.alive, ?_⟩
    cases hOutcome <;> exact hOwns.recorder
  | destroyed => exact hSparing.elim
  | followed => exact ⟨hOwns.holds, hOwns.different, hOwns.alive, hOwns.recorder⟩

/-- A run of calls leaves what is alive to the machine. -/
theorem machine_owns_of_tracked (hOwns : s.machine.Owns s.world)
    (hTracked : Tracked Sparing s last t) : t.machine.Owns t.world := by
  induction hTracked with
  | here => exact hOwns
  | call c _ hSparing hCall ih => exact machine_owns_of_call ih hSparing hCall

/-- **What is alive is owned.** A machine that could not be created leaves nothing alive. One that
was created owns all that is alive after any calls, whatever fails and however the chain changes,
and its destruction leaves nothing alive. -/
theorem owns_of_run {clearColor : Color} {w w' : Rehearsal} {r : Except RenderError Synchronizer}
    (hNew : w.history = []) (hOne : w.allocatedCount 1 ≤ 1)
    (hRun : Op.start (create clearColor) w = some (r, w')) :
    (∀ e, r = .error e → Bare w'.history) ∧
      ∀ m last s, r = .ok m → Tracked Sparing ⟨m, w', none⟩ last s →
        s.Owns last ∧ Bare (Synchronizer.destroy s.both).2.history := by
  have hHolds : w.Holds [] [] := by
    rw [Rehearsal.Holds, hNew]
    exact ⟨.refl _, List.nodup_nil, by simp, rfl⟩
  have hOutcome := ensures_create clearColor w r w' hRun
  -- the machine could not be created, or it was
  constructor
  · rintro e rfl
    obtain ⟨next, hBare⟩ := holds_of_notCreated hHolds hOne hOutcome
    exact bare_of_holds hBare
  · rintro m last s rfl hTracked
    obtain ⟨hCreated, hDraw⟩ := owns_of_createOutcome hHolds hOne hOutcome
    have hOwns := machine_owns_of_tracked hCreated hTracked
    have hCount := drawCount_of_tracked (fun _ hAllowed => hAllowed) hDraw hTracked
    exact ⟨owns_of_machine hOwns hCount, bare_of_holds hOwns.gone⟩

/-- A machine that takes a frame through a chain of two images and begins another one when there
are three, whose buffer it cannot begin. It lost that frame, with three new draw buffers. -/
theorem owns_of_lost_frame :
    let w : Rehearsal := { chain := { images := 2, extent := ⟨640, 480⟩ } }
    w.history = [] ∧ w.allocatedCount 1 ≤ 1 ∧
      ∃ m w' s, Op.start (create default) w = some (.ok m, w') ∧
        Tracked Sparing ⟨m, w', none⟩ (some 3) s ∧ s.machine.state = .lost ∧
        s.machine.recorder.draw.length = 3 ∧ s.Owns (some 3) ∧
        Bare (Synchronizer.destroy s.both).2.history := by
  intro w
  let script : Script :=
    { faults := [⟨.beginBuffer, 5, .fail .outOfMemory⟩]
      chain := { images := 3, extent := ⟨640, 480⟩ } }
  -- the second frame's buffers are allocated anew, and beginning its buffer fails
  have hSteps : ∃ m w' s₁ s₂ s₃ s₄, Op.start (create default) w = some (.ok m, w') ∧
      Session.call ⟨m, w', none⟩ (.beginFrame ⟨640, 480⟩) = some s₁ ∧
      s₁.call (.endFrame ⟨0, ⟨6⟩, ⟨640, 480⟩⟩) = some s₂ ∧
      s₂.call (.follow script) = some s₃ ∧ s₃.call (.beginFrame ⟨640, 480⟩) = some s₄ ∧
      s₃.obtained? (.beginFrame ⟨640, 480⟩) = some 3 ∧ s₄.machine.state = .lost ∧
      s₄.machine.recorder.draw.length = 3 :=
    ⟨_, _, _, _, _, _, rfl, rfl, rfl, rfl, rfl, rfl, rfl, rfl⟩
  obtain ⟨m, w', s₁, s₂, s₃, s₄, hRun, hBegin, hEnd, hFollow, hBegin', hObtained, hLost, hDraw⟩ :=
    hSteps
  have hCounts : ∀ f ∈ w.faults, ∀ n, f.effect ≠ .miscount n :=
    fun _ hFault => absurd hFault List.not_mem_nil
  have hOne : w.allocatedCount 1 ≤ 1 := Nat.le_of_eq (allocatedCount_eq hCounts 1)
  have hStart : Tracked Sparing ⟨m, w', none⟩ none ⟨m, w', none⟩ := .here
  have hTracked := (((hStart.call (.beginFrame ⟨640, 480⟩) trivial hBegin).call (.endFrame _)
    trivial hEnd).call (.follow script) trivial hFollow).call (.beginFrame ⟨640, 480⟩)
    trivial hBegin'
  rw [hObtained] at hTracked
  obtain ⟨hOwns, hBare⟩ := (owns_of_run rfl hOne hRun).2 m (some 3) s₄ rfl hTracked
  exact ⟨rfl, hOne, m, w', s₄, hRun, hTracked, hLost, hDraw, hOwns, hBare⟩

end Session

end RenderLoop
