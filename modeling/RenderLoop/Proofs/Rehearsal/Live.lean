import RenderLoop.Proofs.Rehearsal.Plan

/-!
# RenderLoop — what a device holds

A device **holds** command buffers and semaphores: those that are alive by its
history. The buffers are told apart by handles that were handed out before, so that
new ones are none of them (`Holds`).

Most events are **quiet**: they neither make nor end anything. What is held after the
others is what was held before, with the new added or the freed taken away
(`Holds.freed`, `Holds.createdSemaphore`, `Holds.destroyedSemaphore`); a plan of quiet
calls leaves it as it is, carried out or not.
-/

namespace RenderLoop

open DeviceHistory

/-- The live buffers are those of a list, in any order; they are all different, and their handles
are below the next one. The live semaphores are those of another list, newest first. -/
structure DeviceHistory.Holds (h : DeviceHistory) (next : Nat) (bs : List CommandBuffer)
    (ss : List Semaphore) : Prop where
  buffers : h.liveBuffers.Perm bs
  nodup : bs.Nodup
  old : ∀ b ∈ bs, b.handle < next
  semaphores : h.liveSemaphores = ss

/-- What is alive in a rehearsal. -/
def Rehearsal.Holds (w : Rehearsal) (bs : List CommandBuffer) (ss : List Semaphore) : Prop :=
  w.history.Holds w.nextHandle bs ss

/-- An event that neither makes nor ends anything. -/
def DeviceEvent.Quiet (e : DeviceEvent) : Prop :=
  ∀ h, liveBuffers (e :: h) = liveBuffers h ∧ liveSemaphores (e :: h) = liveSemaphores h

/-- A call that is quiet, whether it goes well or fails. -/
def Intent.Quiet (i : Intent) : Prop := i.event.Quiet ∧ ∀ e, i.fails e → e.Quiet

theorem quiet_refused (c : DeviceCall) : (DeviceEvent.refused c).Quiet := fun _ => ⟨rfl, rfl⟩

-- ---------------------------------------------------------------------------
-- One event
-- ---------------------------------------------------------------------------

namespace DeviceHistory.Holds

variable {h h' : DeviceHistory} {next next' : Nat} {bs bs' news : List CommandBuffer}
  {ss : List Semaphore}

/-- The order of what is held does not matter. -/
theorem perm (hHolds : h.Holds next bs ss) (hPerm : bs.Perm bs') : h.Holds next bs' ss where
  buffers := hHolds.buffers.trans hPerm
  nodup := hPerm.nodup_iff.mp hHolds.nodup
  old b hb := hHolds.old b (hPerm.mem_iff.mpr hb)
  semaphores := hHolds.semaphores

/-- Handles below the next one are below a later one. -/
theorem later (hHolds : h.Holds next bs ss) (hNext : next ≤ next') : h.Holds next' bs ss where
  buffers := hHolds.buffers
  nodup := hHolds.nodup
  old b hb := Nat.lt_of_lt_of_le (hHolds.old b hb) hNext
  semaphores := hHolds.semaphores

/-- A quiet event leaves what is held. -/
theorem quiet (hHolds : h.Holds next bs ss) {e : DeviceEvent} (hQuiet : e.Quiet) :
    DeviceHistory.Holds (e :: h) next bs ss where
  buffers := by
    rw [(hQuiet h).1]
    exact hHolds.buffers
  nodup := hHolds.nodup
  old := hHolds.old
  semaphores := by
    rw [(hQuiet h).2]
    exact hHolds.semaphores

/-- Freed buffers are taken away. -/
theorem freed (hHolds : h.Holds next (news ++ bs) ss) :
    DeviceHistory.Holds (.freed news :: h) next bs ss := by
  obtain ⟨-, hNodup, hDisjoint⟩ := List.nodup_append.mp hHolds.nodup
  refine ⟨?_, hNodup, fun b hb => hHolds.old b (List.mem_append_right _ hb), hHolds.semaphores⟩
  -- all that were freed are gone, and none of the others is
  have hNone : (news.filter fun b => !news.contains b) = [] := by
    simp [List.filter_eq_nil_iff]
  have hAll : (bs.filter fun b => !news.contains b) = bs := by
    rw [List.filter_eq_self]
    intro b hb
    simpa using fun hNew => hDisjoint b hNew b hb rfl
  have hPerm := hHolds.buffers.filter fun b => !news.contains b
  rwa [List.filter_append, hNone, hAll] at hPerm

/-- A new semaphore is held beside the others. -/
theorem createdSemaphore (hHolds : h.Holds next bs ss) (s : Semaphore) :
    DeviceHistory.Holds (.createdSemaphore s :: h) next bs (s :: ss) where
  buffers := hHolds.buffers
  nodup := hHolds.nodup
  old := hHolds.old
  semaphores := congrArg (s :: ·) hHolds.semaphores

/-- A semaphore that was destroyed is not held any more. -/
theorem destroyedSemaphore (hHolds : h.Holds next bs ss) (s : Semaphore) :
    DeviceHistory.Holds (.destroyedSemaphore s :: h) next bs (ss.filter (· ≠ s)) where
  buffers := hHolds.buffers
  nodup := hHolds.nodup
  old := hHolds.old
  semaphores := congrArg (List.filter (· ≠ s)) hHolds.semaphores

-- ---------------------------------------------------------------------------
-- Plans
-- ---------------------------------------------------------------------------

/-- A quiet plan leaves what is held. -/
theorem after {p : Plan} (hHolds : h.Holds next bs ss) (hQuiet : ∀ i ∈ p, i.Quiet) :
    (p.after h).Holds next bs ss := by
  refine Plan.keeps_after (P := fun h => h.Holds next bs ss) (fun i hi h' hHolds' => ?_) hHolds
  exact hHolds'.quiet (hQuiet i hi).1

/-- A quiet plan leaves what is held when it breaks off. -/
theorem brokenOff {p : Plan} (hHolds : h.Holds next bs ss) (hQuiet : ∀ i ∈ p, i.Quiet)
    (hBroken : p.BrokenOff h h') : h'.Holds next bs ss := by
  refine Plan.keeps_brokenOff (P := fun h => h.Holds next bs ss) hBroken
    (fun i hi h'' hHolds' => ?_) (fun i hi e hFails h'' hHolds' => ?_) hHolds
  · exact hHolds'.quiet (hQuiet i hi).1
  · exact hHolds'.quiet ((hQuiet i hi).2 e hFails)

end DeviceHistory.Holds

theorem quiet_begin (b : CommandBuffer) : (Intent.begin b).Quiet := by
  refine ⟨fun h => ⟨rfl, rfl⟩, ?_⟩
  rintro - rfl
  exact quiet_refused _

theorem quiet_record (b : CommandBuffer) (c : Command) : (Intent.record b c).Quiet := by
  refine ⟨fun h => ⟨rfl, rfl⟩, ?_⟩
  intro e hFails
  exact hFails.elim

theorem quiet_finish (b : CommandBuffer) : (Intent.finish b).Quiet := by
  refine ⟨fun h => ⟨rfl, rfl⟩, ?_⟩
  rintro - rfl
  exact quiet_refused _

theorem quiet_submit (b : CommandBuffer) (waits : List (Semaphore × PipelineStages))
    (signals : List Semaphore) : (Intent.submit b waits signals).Quiet := by
  refine ⟨fun h => ⟨rfl, rfl⟩, ?_⟩
  rintro - (rfl | rfl) h
  · exact ⟨rfl, rfl⟩
  · exact ⟨rfl, rfl⟩

theorem quiet_wait : Intent.wait.Quiet := by
  refine ⟨fun h => ⟨rfl, rfl⟩, ?_⟩
  rintro - (rfl | rfl) h
  · exact ⟨rfl, rfl⟩
  · exact ⟨rfl, rfl⟩

namespace Rehearsal

variable {w w' : Rehearsal} {bs : List CommandBuffer} {ss : List Semaphore}

/-- What is held goes by the history, as long as no handle is handed out. -/
theorem holds_of_history {h : DeviceHistory} (hHolds : h.Holds w.nextHandle bs ss)
    (hHistory : w'.history = h) (hKept : Kept w w') : w'.Holds bs ss := by
  rw [Holds, hHistory, hKept.nextHandle]
  exact hHolds

end Rehearsal

end RenderLoop
