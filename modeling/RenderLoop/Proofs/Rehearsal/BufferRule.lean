import RenderLoop.Proofs.Rehearsal.Plan

/-!
# RenderLoop — the life cycle of command buffers

What a device asks of those who use its command buffers, as a rule on histories
(`BufferRule`): a buffer is named only between its allocation and when it is freed,
commands go into a buffer only between its begin and its end, a buffer is not begun
or reset while it is recorded or while the device may still be running it, and it
is submitted once for each time it was ended.

An event that does not name a buffer does not disturb it (`undisturbed_cons`); so a
plan that avoids a buffer leaves it as it was (`undisturbed_after`,
`undisturbed_brokenOff`).
-/

namespace RenderLoop

namespace DeviceHistory

/-- A buffer is between its begin and its end. -/
def Recording (b : CommandBuffer) : DeviceHistory → Prop
  | [] => False
  | e :: before =>
    match e with
    | .allocated bs => b ∉ bs ∧ Recording b before
    | .begun b' => b' = b ∨ Recording b before
    | .ended b' | .wasReset b' => b' ≠ b ∧ Recording b before
    | _ => Recording b before

/-- A buffer was submitted, and the device has not finished since. -/
def Pending (b : CommandBuffer) : DeviceHistory → Prop
  | [] => False
  | e :: before =>
    match e with
    | .allocated bs => b ∉ bs ∧ Pending b before
    | .submitted b' _ _ => b' = b ∨ Pending b before
    | .waited true => False
    | _ => Pending b before

/-- A buffer was ended after it was begun last, and nobody tried to submit it since. -/
def Ready (b : CommandBuffer) : DeviceHistory → Prop
  | [] => False
  | e :: before =>
    match e with
    | .allocated bs => b ∉ bs ∧ Ready b before
    | .ended b' => b' = b ∨ Ready b before
    | .begun b' | .wasReset b' | .submitted b' _ _ | .submitFailed b' => b' ≠ b ∧ Ready b before
    | _ => Ready b before

/-- A buffer is neither being recorded nor run. -/
def AtRest (b : CommandBuffer) (h : DeviceHistory) : Prop := ¬ Recording b h ∧ ¬ Pending b h

end DeviceHistory

open DeviceHistory

/-- What may happen to command buffers after a history. -/
def BufferRule (before : DeviceHistory) : DeviceEvent → Prop
  | .freed bs => ∀ b ∈ bs, b ∈ before.liveBuffers
  | .wasReset b | .begun b => b ∈ before.liveBuffers ∧ AtRest b before
  | .recorded b _ | .ended b => b ∈ before.liveBuffers ∧ Recording b before
  | .submitted b _ _ | .submitFailed b => b ∈ before.liveBuffers ∧ Ready b before
  | _ => True

-- ---------------------------------------------------------------------------
-- Events that do not concern a buffer
-- ---------------------------------------------------------------------------

/-- The buffers that an event names. -/
def DeviceEvent.buffers : DeviceEvent → List CommandBuffer
  | .allocated bs | .freed bs => bs
  | .wasReset b | .begun b | .ended b | .recorded b _ | .submitted b _ _ | .submitFailed b => [b]
  | _ => []

/-- A buffer is no less alive than before, is recorded if it was recorded before, and is run only
if it was run before. -/
structure Undisturbed (b : CommandBuffer) (h h' : DeviceHistory) : Prop where
  live : b ∈ h.liveBuffers → b ∈ h'.liveBuffers
  recording : Recording b h' ↔ Recording b h
  pending : Pending b h' → Pending b h

namespace Undisturbed

variable {b : CommandBuffer} {h h' h'' : DeviceHistory}

theorem refl (b : CommandBuffer) (h : DeviceHistory) : Undisturbed b h h where
  live := id
  recording := Iff.rfl
  pending := id

theorem trans (hFirst : Undisturbed b h h') (hSecond : Undisturbed b h' h'') :
    Undisturbed b h h'' where
  live hLive := hSecond.live (hFirst.live hLive)
  recording := hSecond.recording.trans hFirst.recording
  pending hPending := hFirst.pending (hSecond.pending hPending)

/-- A buffer at rest stays at rest while it is not disturbed. -/
theorem atRest (hSame : Undisturbed b h h') (hRest : AtRest b h) : AtRest b h' := by
  obtain ⟨hNotRecording, hNotPending⟩ := hRest
  refine ⟨fun hRecording => ?_, fun hPending => ?_⟩
  · exact hNotRecording (hSame.recording.mp hRecording)
  · exact hNotPending (hSame.pending hPending)

end Undisturbed

/-- An event that does not name a buffer does not disturb it. -/
theorem undisturbed_cons {b : CommandBuffer} {e : DeviceEvent} (hOther : b ∉ e.buffers)
    (h : DeviceHistory) : Undisturbed b h (e :: h) := by
  cases e with
  | allocated bs =>
    exact ⟨fun hLive => List.mem_append_right _ hLive, and_iff_right hOther, fun hPending => hPending.2⟩
  | freed bs =>
    refine ⟨fun hLive => List.mem_filter.mpr ⟨hLive, ?_⟩, Iff.rfl, id⟩
    simpa [DeviceEvent.buffers] using hOther
  | begun b' =>
    have hNe : b' ≠ b := fun hEq => hOther (List.mem_singleton.mpr hEq.symm)
    exact ⟨id, or_iff_right hNe, id⟩
  | ended b' | wasReset b' =>
    have hNe : b' ≠ b := fun hEq => hOther (List.mem_singleton.mpr hEq.symm)
    exact ⟨id, and_iff_right hNe, id⟩
  | submitted b' waits signals =>
    have hNe : b' ≠ b := fun hEq => hOther (List.mem_singleton.mpr hEq.symm)
    exact ⟨id, Iff.rfl, (or_iff_right hNe).mp⟩
  | waited finished =>
    -- a buffer that is run may be through with it when the device was waited for
    cases finished with
    | true => exact ⟨id, Iff.rfl, False.elim⟩
    | false => exact ⟨id, Iff.rfl, id⟩
  | _ => exact ⟨id, Iff.rfl, id⟩

/-- Neither an intended event nor a failure in its place names a buffer. -/
def Intent.Avoids (b : CommandBuffer) (i : Intent) : Prop :=
  b ∉ i.event.buffers ∧ ∀ e, i.fails e → b ∉ e.buffers

/-- A plan that avoids a buffer does not disturb it. -/
theorem undisturbed_after {b : CommandBuffer} {p : Plan} (hAvoids : ∀ i ∈ p, i.Avoids b)
    (h : DeviceHistory) : Undisturbed b h (p.after h) := by
  refine Plan.keeps_after (P := Undisturbed b h) (fun i hi h' hSame => ?_) (.refl b h)
  have hNext := undisturbed_cons (hAvoids i hi).1 h'
  exact hSame.trans hNext

/-- A plan that avoids a buffer does not disturb it when it breaks off. -/
theorem undisturbed_brokenOff {b : CommandBuffer} {p : Plan} {h h' : DeviceHistory}
    (hAvoids : ∀ i ∈ p, i.Avoids b) (hBroken : p.BrokenOff h h') : Undisturbed b h h' := by
  refine Plan.keeps_brokenOff (P := Undisturbed b h) hBroken (fun i hi h'' hSame => ?_)
    (fun i hi e he h'' hSame => ?_) (.refl b h)
  · exact hSame.trans (undisturbed_cons (hAvoids i hi).1 h'')
  · exact hSame.trans (undisturbed_cons ((hAvoids i hi).2 e he) h'')

section Avoids

variable {b b' : CommandBuffer}

theorem avoids_begin (hNe : b ≠ b') : (Intent.begin b').Avoids b := by
  refine ⟨fun hMem => hNe (List.mem_singleton.mp hMem), ?_⟩
  rintro - rfl
  exact List.not_mem_nil

theorem avoids_finish (hNe : b ≠ b') : (Intent.finish b').Avoids b := by
  refine ⟨fun hMem => hNe (List.mem_singleton.mp hMem), ?_⟩
  rintro - rfl
  exact List.not_mem_nil

theorem avoids_record (hNe : b ≠ b') (c : Command) : (Intent.record b' c).Avoids b := by
  refine ⟨fun hMem => hNe (List.mem_singleton.mp hMem), ?_⟩
  intro e hFails
  exact hFails.elim

/-- A submission names its buffer also when it is not accepted. -/
theorem avoids_submit (hNe : b ≠ b') (waits : List (Semaphore × PipelineStages))
    (signals : List Semaphore) : (Intent.submit b' waits signals).Avoids b := by
  refine ⟨fun hMem => hNe (List.mem_singleton.mp hMem), ?_⟩
  rintro - (rfl | rfl)
  · exact List.not_mem_nil
  · exact fun hMem => hNe (List.mem_singleton.mp hMem)

theorem avoids_wait (b : CommandBuffer) : Intent.wait.Avoids b := by
  refine ⟨List.not_mem_nil, ?_⟩
  rintro - (rfl | rfl) <;> exact List.not_mem_nil

end Avoids

-- ---------------------------------------------------------------------------
-- Events that free nothing
-- ---------------------------------------------------------------------------

/-- The buffers that an event frees. -/
def DeviceEvent.frees : DeviceEvent → List CommandBuffer
  | .freed bs => bs
  | _ => []

/-- A buffer that an event does not free stays alive. -/
theorem live_cons {b : CommandBuffer} {e : DeviceEvent} (hNot : b ∉ e.frees) {h : DeviceHistory}
    (hLive : b ∈ h.liveBuffers) : b ∈ liveBuffers (e :: h) := by
  cases e with
  | allocated bs => exact List.mem_append_right _ hLive
  | freed bs =>
    refine List.mem_filter.mpr ⟨hLive, ?_⟩
    simpa [DeviceEvent.frees] using hNot
  | _ => exact hLive

/-- Neither an intended event nor a failure in its place frees a buffer. -/
def Intent.FreesNone (i : Intent) : Prop :=
  i.event.frees = [] ∧ ∀ e, i.fails e → e.frees = []

/-- Buffers stay alive while a plan is carried out that frees none. -/
theorem live_after {b : CommandBuffer} {p : Plan} (hNone : ∀ i ∈ p, i.FreesNone)
    {h : DeviceHistory} (hLive : b ∈ h.liveBuffers) : b ∈ (p.after h).liveBuffers := by
  refine Plan.keeps_after (P := fun h => b ∈ h.liveBuffers) (fun i hi h' => ?_) hLive
  have hNot : b ∉ i.event.frees := by
    rw [(hNone i hi).1]
    exact List.not_mem_nil
  exact live_cons hNot

/-- Buffers stay alive when a plan that frees none breaks off. -/
theorem live_brokenOff {b : CommandBuffer} {p : Plan} {h h' : DeviceHistory}
    (hNone : ∀ i ∈ p, i.FreesNone) (hBroken : p.BrokenOff h h') (hLive : b ∈ h.liveBuffers) :
    b ∈ h'.liveBuffers := by
  refine Plan.keeps_brokenOff (P := fun h => b ∈ h.liveBuffers) hBroken (fun i hi h' => ?_)
    (fun i hi e he h' => ?_) hLive
  · have hNot : b ∉ i.event.frees := by
      rw [(hNone i hi).1]
      exact List.not_mem_nil
    exact live_cons hNot
  · have hNot : b ∉ e.frees := by
      rw [(hNone i hi).2 e he]
      exact List.not_mem_nil
    exact live_cons hNot

theorem freesNone_begin (b : CommandBuffer) : (Intent.begin b).FreesNone := by
  refine ⟨rfl, ?_⟩
  rintro - rfl
  rfl

theorem freesNone_finish (b : CommandBuffer) : (Intent.finish b).FreesNone := by
  refine ⟨rfl, ?_⟩
  rintro - rfl
  rfl

theorem freesNone_record (b : CommandBuffer) (c : Command) : (Intent.record b c).FreesNone := by
  refine ⟨rfl, ?_⟩
  intro e hFails
  exact hFails.elim

theorem freesNone_submit (b : CommandBuffer) (waits : List (Semaphore × PipelineStages))
    (signals : List Semaphore) : (Intent.submit b waits signals).FreesNone := by
  refine ⟨rfl, ?_⟩
  rintro - (rfl | rfl)
  · rfl
  · rfl

theorem freesNone_wait : Intent.wait.FreesNone := by
  refine ⟨rfl, ?_⟩
  rintro - (rfl | rfl)
  · rfl
  · rfl

-- ---------------------------------------------------------------------------
-- Failures
-- ---------------------------------------------------------------------------

/-- The rule says nothing about an event that names no buffer. -/
theorem bufferRule_of_no_buffers {e : DeviceEvent} (hNone : e.buffers = [])
    (h : DeviceHistory) : BufferRule h e := by
  cases e with
  | freed bs =>
    intro b hb
    rw [show bs = [] from hNone] at hb
    cases hb
  | wasReset b | begun b | recorded b c | ended b | submitted b waits signals | submitFailed b =>
    cases hNone
  | _ => trivial

/-- A failure that names no buffer is always excused. -/
theorem excusable_of_no_buffers {i : Intent} (hNone : ∀ e, i.fails e → e.buffers = []) :
    i.Excusable BufferRule := by
  intro e he h _
  exact bufferRule_of_no_buffers (hNone e he) h

theorem excusable_begin (b : CommandBuffer) : (Intent.begin b).Excusable BufferRule := by
  refine excusable_of_no_buffers ?_
  rintro - rfl
  rfl

theorem excusable_finish (b : CommandBuffer) : (Intent.finish b).Excusable BufferRule := by
  refine excusable_of_no_buffers ?_
  rintro - rfl
  rfl

theorem excusable_record (b : CommandBuffer) (c : Command) : (Intent.record b c).Excusable BufferRule := by
  intro _ hFails
  exact hFails.elim

/-- The rule is the same for a submission that is not accepted. -/
theorem excusable_submit (b : CommandBuffer) (waits : List (Semaphore × PipelineStages))
    (signals : List Semaphore) : (Intent.submit b waits signals).Excusable BufferRule := by
  rintro - (rfl | rfl) h hRule
  · trivial
  · exact hRule

theorem excusable_wait : Intent.wait.Excusable BufferRule := by
  refine excusable_of_no_buffers ?_
  rintro - (rfl | rfl)
  · rfl
  · rfl

end RenderLoop
