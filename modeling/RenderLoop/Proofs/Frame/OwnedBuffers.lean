import RenderLoop.Proofs.Frame.Recorder
import RenderLoop.Proofs.Rehearsal.BufferRule

/-!
# RenderLoop — the command buffers of a recorder

A recorder answers for the buffers it was handed. They are alive and different,
and its setup buffer, if there is one, is being recorded (`Recorder.Sound`). Every
operation of a recorder keeps this up, also when it fails:

* operations on the setup buffer leave the buffers of frames as they are
  (`spares_setupOutcome`, `spares_flushOutcome`);
* a draw buffer is handed out at rest (`drawn_of_drawOutcome`);
* destruction frees what there is, once (`Sound.released`).
-/

namespace RenderLoop

open DeviceHistory Rehearsal

-- ---------------------------------------------------------------------------
-- Handles
-- ---------------------------------------------------------------------------

namespace Rehearsal.Allocated

variable {w w' : Rehearsal} {bs : List CommandBuffer}

/-- The new buffers are those with the new handles. -/
theorem mem_iff (hAllocated : Allocated w bs w') (b : CommandBuffer) :
    b ∈ bs ↔ w.nextHandle ≤ b.handle ∧ b.handle < w'.nextHandle := by
  rw [hAllocated.buffers, hAllocated.nextHandle, List.mem_map]
  simp only [List.mem_range'_1]
  constructor
  · rintro ⟨n, hn, rfl⟩
    exact hn
  · intro hb
    exact ⟨b.handle, hb, rfl⟩

/-- The new buffers are all different. -/
theorem nodup (hAllocated : Allocated w bs w') : bs.Nodup := by
  rw [hAllocated.buffers]
  refine List.Pairwise.map _ ?_ List.nodup_range'
  intro m n hNe hEq
  exact hNe (congrArg CommandBuffer.handle hEq)

/-- An allocation does not take handles back. -/
theorem nextHandle_le (hAllocated : Allocated w bs w') : w.nextHandle ≤ w'.nextHandle := by
  rw [hAllocated.nextHandle]
  exact Nat.le_add_right _ _

/-- The buffers that were there before are not among the new ones. -/
theorem not_mem (hAllocated : Allocated w bs w') {b : CommandBuffer}
    (hOld : b.handle < w.nextHandle) : b ∉ bs := by
  intro hb
  exact Nat.not_lt.mpr ((hAllocated.mem_iff b).mp hb).1 hOld

/-- The buffers that were there before are not disturbed. -/
theorem undisturbed (hAllocated : Allocated w bs w') {b : CommandBuffer}
    (hOld : b.handle < w.nextHandle) : Undisturbed b w.history w'.history := by
  rw [hAllocated.history]
  exact undisturbed_cons (hAllocated.not_mem hOld) w.history

/-- New buffers are alive and at rest. -/
theorem live (hAllocated : Allocated w bs w') {b : CommandBuffer} (hb : b ∈ bs) :
    b ∈ w'.history.liveBuffers := by
  rw [hAllocated.history]
  exact List.mem_append_left _ hb

/-- New buffers are at rest. -/
theorem atRest (hAllocated : Allocated w bs w') {b : CommandBuffer} (hb : b ∈ bs) :
    AtRest b w'.history := by
  rw [hAllocated.history]
  exact ⟨fun hRecording => hRecording.1 hb, fun hPending => hPending.1 hb⟩

/-- Allocating is always allowed. -/
theorem obeys (hAllocated : Allocated w bs w') (hObeys : w.history.Obeys BufferRule) :
    w'.history.Obeys BufferRule := by
  rw [hAllocated.history]
  exact ⟨trivial, hObeys⟩

end Rehearsal.Allocated

-- ---------------------------------------------------------------------------
-- The buffers of a recorder
-- ---------------------------------------------------------------------------

namespace Recorder

/-- The buffers that frames are made with. -/
def frameBuffers (r : Recorder) : List CommandBuffer :=
  if r.destroyed then [] else r.draw ++ [r.prePresent, r.postPresent]

/-- The buffers that a recorder answers for. -/
def owned (r : Recorder) : List CommandBuffer := r.setup.toList ++ r.frameBuffers

/-- What is true of the buffers of a recorder between any two calls. -/
structure Sound (r : Recorder) (w : Rehearsal) : Prop where
  obeys : w.history.Obeys BufferRule
  fresh : ∀ b ∈ r.owned, b.handle < w.nextHandle
  nodup : r.owned.Nodup
  live : ∀ b ∈ r.owned, b ∈ w.history.liveBuffers
  setup : ∀ b, r.setup = some b → Recording b w.history

/-- A recorder answers for its setup buffer. -/
theorem mem_owned_of_setup {r : Recorder} {b : CommandBuffer} (hSetup : r.setup = some b) :
    b ∈ r.owned := by
  rw [owned, hSetup]
  exact List.mem_cons_self

/-- A recorder answers for the buffers that frames are made with. -/
theorem mem_owned_of_frame {r : Recorder} {b : CommandBuffer} (hb : b ∈ r.frameBuffers) :
    b ∈ r.owned :=
  List.mem_append_right _ hb

/-- A setup buffer comes first among the buffers a recorder answers for. -/
theorem owned_withSetup {r : Recorder} {b : CommandBuffer} (hSetup : r.setup = none) :
    owned { r with setup := some b } = b :: r.owned := by
  rw [owned, owned, hSetup]
  rfl

/-- Apart from its setup buffer, a recorder answers for what it answers for without one. -/
theorem owned_of_setup {r : Recorder} {b : CommandBuffer} (hSetup : r.setup = some b) :
    r.owned = [b] ++ owned { r with setup := none } := by
  rw [owned, owned, hSetup]
  rfl

namespace Sound

variable {r r' : Recorder} {w w' : Rehearsal}

/-- Nothing changes for a recorder whose buffers are not disturbed. -/
theorem of_undisturbed (hSound : r.Sound w) (hObeys : w'.history.Obeys BufferRule)
    (hNext : w.nextHandle ≤ w'.nextHandle)
    (hSame : ∀ b ∈ r.owned, Undisturbed b w.history w'.history) : r.Sound w' where
  obeys := hObeys
  fresh b hb := Nat.lt_of_lt_of_le (hSound.fresh b hb) hNext
  nodup := hSound.nodup
  live b hb := (hSame b hb).live (hSound.live b hb)
  setup b hSetup := (hSame b (mem_owned_of_setup hSetup)).recording.mpr (hSound.setup b hSetup)

/-- A recorder may stop answering for some buffers. -/
theorem of_sublist (hSound : r.Sound w) (hSub : r'.owned.Sublist r.owned)
    (hSetup : ∀ b, r'.setup = some b → r.setup = some b) : r'.Sound w where
  obeys := hSound.obeys
  fresh b hb := hSound.fresh b (hSub.mem hb)
  nodup := hSound.nodup.sublist hSub
  live b hb := hSound.live b (hSub.mem hb)
  setup b hb := hSound.setup b (hSetup b hb)

/-- The setup buffer is none of the buffers that frames are made with. -/
theorem ne_setup (hSound : r.Sound w) {b b' : CommandBuffer} (hSetup : r.setup = some b)
    (hb' : b' ∈ r.frameBuffers) : b' ≠ b := by
  have hNodup := hSound.nodup
  rw [owned, hSetup] at hNodup
  rintro rfl
  exact (List.nodup_cons.mp hNodup).1 hb'

end Sound

-- ---------------------------------------------------------------------------
-- The setup buffer
-- ---------------------------------------------------------------------------

/-- The rule was kept, and the buffers there were are as before. -/
structure Aside (w w' : Rehearsal) : Prop where
  obeys : w'.history.Obeys BufferRule
  nextHandle : w.nextHandle ≤ w'.nextHandle
  undisturbed : ∀ b : CommandBuffer, b.handle < w.nextHandle →
    Undisturbed b w.history w'.history

/-- A new buffer is being recorded. -/
structure BegunNew (w : Rehearsal) (b : CommandBuffer) (w' : Rehearsal) : Prop extends
    Aside w w' where
  old : w.nextHandle ≤ b.handle
  new : b.handle < w'.nextHandle
  live : b ∈ w'.history.liveBuffers
  recording : Recording b w'.history

/-- A new buffer that could not be begun is freed again, and no other is disturbed. -/
theorem aside_of_newOutcome {w w' : Rehearsal} {e : RenderError}
    (hObeys : w.history.Obeys BufferRule) (hNew : NewOutcome w (.error e) w') : Aside w w' := by
  cases hNew with
  | notAllocated hHistory hKept =>
    refine ⟨?_, Nat.le_of_eq hKept.nextHandle.symm, ?_⟩
    · rw [hHistory]
      exact ⟨trivial, hObeys⟩
    · intro b _
      rw [hHistory]
      exact undisturbed_cons List.not_mem_nil _
  | noBuffer hAllocated hHistory hKept =>
    refine ⟨?_, ?_, ?_⟩
    · rw [hHistory]
      exact hAllocated.obeys hObeys
    · rw [hKept.nextHandle]
      exact hAllocated.nextHandle_le
    · intro b hOld
      rw [hHistory]
      exact hAllocated.undisturbed hOld
  | @notBegun _ b' others w₁ _ hAllocated hHistory hKept =>
    refine ⟨?_, ?_, ?_⟩
    · rw [hHistory]
      refine ⟨?_, trivial, hAllocated.obeys hObeys⟩
      intro b hb
      rw [List.mem_singleton.mp hb]
      exact hAllocated.live List.mem_cons_self
    · rw [hKept.nextHandle]
      exact hAllocated.nextHandle_le
    · intro b hOld
      -- the buffer that is given back is one of the new ones
      have hNe : b ∉ [b'] := fun hb =>
        hAllocated.not_mem hOld (List.mem_singleton.mp hb ▸ List.mem_cons_self)
      rw [hHistory]
      exact (hAllocated.undisturbed hOld).trans
        ((undisturbed_cons List.not_mem_nil _).trans (undisturbed_cons hNe _))

/-- One that was begun is new, alive and being recorded. -/
theorem begunNew_of_newOutcome {w w' : Rehearsal} {b : CommandBuffer}
    (hObeys : w.history.Obeys BufferRule) (hNew : NewOutcome w (.ok b) w') : BegunNew w b w' := by
  cases hNew with
  | @begun _ others w₁ _ hAllocated hHistory hKept =>
    -- the setup buffer is the first of those allocated
    have hHandle := (hAllocated.mem_iff b).mp List.mem_cons_self
    have hLive := hAllocated.live (b := b) List.mem_cons_self
    have hRest := hAllocated.atRest (b := b) List.mem_cons_self
    refine { obeys := ?_, nextHandle := ?_, undisturbed := ?_, old := hHandle.1, new := ?_,
             live := ?_, recording := ?_ }
    · rw [hHistory]
      exact ⟨⟨hLive, hRest⟩, hAllocated.obeys hObeys⟩
    · rw [hKept.nextHandle]
      exact hAllocated.nextHandle_le
    · intro b' hOld
      have hNe : b' ∉ [b] := fun hb' =>
        hAllocated.not_mem hOld (List.mem_singleton.mp hb' ▸ List.mem_cons_self)
      rw [hHistory]
      exact (hAllocated.undisturbed hOld).trans (undisturbed_cons hNe _)
    · rw [hKept.nextHandle]
      exact hHandle.2
    · rw [hHistory]
      exact hLive
    · rw [hHistory]
      exact .inl rfl

/-- An operation on the setup buffer spares the others. -/
structure Spares (r : Recorder) (w : Rehearsal) (r' : Recorder) (w' : Rehearsal) : Prop where
  sound : r'.Sound w'
  same : r' = { r with setup := r'.setup }
  undisturbed : ∀ b ∈ r.frameBuffers, Undisturbed b w.history w'.history

/-- What happens aside of the buffers there were leaves a recorder sound. -/
theorem Sound.aside {r : Recorder} {w w' : Rehearsal} (hSound : r.Sound w) (hAside : Aside w w') :
    r.Sound w' := by
  refine hSound.of_undisturbed hAside.obeys hAside.nextHandle ?_
  intro b hb
  exact hAside.undisturbed b (hSound.fresh b hb)

/-- A recorder without a setup buffer gets one. -/
theorem Sound.withSetup {r : Recorder} {w w' : Rehearsal} {b : CommandBuffer} (hSound : r.Sound w)
    (hSetup : r.setup = none) (hBegun : BegunNew w b w') :
    Sound { r with setup := some b } w' := by
  have hOwned := owned_withSetup (b := b) hSetup
  have hKeep := hSound.aside hBegun.toAside
  refine ⟨hBegun.obeys, ?_, ?_, ?_, ?_⟩
  · rw [hOwned]
    exact List.forall_mem_cons.mpr ⟨hBegun.new, hKeep.fresh⟩
  · rw [hOwned]
    refine List.nodup_cons.mpr ⟨fun hb => ?_, hKeep.nodup⟩
    exact Nat.not_lt.mpr hBegun.old (hSound.fresh b hb)
  · rw [hOwned]
    exact List.forall_mem_cons.mpr ⟨hBegun.live, hKeep.live⟩
  · intro b' hb'
    cases hb'
    exact hBegun.recording

/-- Asking for a setup buffer spares the buffers of frames. -/
theorem spares_setupOutcome {r r' : Recorder} {w w' : Rehearsal}
    {out : Except RenderError CommandBuffer} (hSound : r.Sound w)
    (hOutcome : SetupOutcome r w out (r', w')) : Spares r w r' w' := by
  cases hOutcome with
  | present _ => exact ⟨hSound, rfl, fun b _ => .refl b _⟩
  | failed _ hNew =>
    have hAside := aside_of_newOutcome hSound.obeys hNew
    exact ⟨hSound.aside hAside, rfl,
      fun b hb => hAside.undisturbed b (hSound.fresh b (mem_owned_of_frame hb))⟩
  | begun hSetup hNew =>
    have hBegun := begunNew_of_newOutcome hSound.obeys hNew
    exact ⟨hSound.withSetup hSetup hBegun, rfl,
      fun b hb => hBegun.undisturbed b (hSound.fresh b (mem_owned_of_frame hb))⟩

/-- A flush is about the setup buffer alone. -/
theorem avoids_flushPlan {b b' : CommandBuffer} (hNe : b' ≠ b) :
    ∀ i ∈ flushPlan b, i.Avoids b' := by
  simp only [flushPlan, List.forall_mem_cons]
  exact ⟨avoids_finish hNe, avoids_submit hNe [] [], avoids_wait b', by simp⟩

/-- No step of a flush can fail in a way that breaks the rule. -/
theorem excusable_flushPlan (b : CommandBuffer) : ∀ i ∈ flushPlan b, i.Excusable BufferRule := by
  simp only [flushPlan, List.forall_mem_cons]
  exact ⟨excusable_finish b, excusable_submit b [] [], excusable_wait, by simp⟩

/-- A flush that is carried out keeps to the rule. -/
theorem obeys_flushPlan {b : CommandBuffer} {h : DeviceHistory} (hObeys : h.Obeys BufferRule)
    (hLive : b ∈ h.liveBuffers) (hRecording : Recording b h) :
    ((flushPlan b).after h).Obeys BufferRule :=
  ⟨trivial, ⟨hLive, .inl rfl⟩, ⟨hLive, hRecording⟩, hObeys⟩

/-- A flush frees nothing before its end. -/
theorem freesNone_flushPlan (b : CommandBuffer) : ∀ i ∈ flushPlan b, i.FreesNone := by
  simp only [flushPlan, List.forall_mem_cons]
  exact ⟨freesNone_finish b, freesNone_submit b [] [], freesNone_wait, by simp⟩

/-- The setup buffer may be freed once nothing else was disturbed. -/
theorem spares_freeSetup {r : Recorder} {w w' : Rehearsal} {b : CommandBuffer} {h : DeviceHistory}
    (hSound : r.Sound w) (hSetup : r.setup = some b) (hObeys : h.Obeys BufferRule)
    (hLive : b ∈ h.liveBuffers) (hOthers : ∀ b', b' ≠ b → Undisturbed b' w.history h)
    (hHistory : w'.history = .freed [b] :: h) (hKept : Kept w w') :
    Spares r w { r with setup := none } w' := by
  have hSame : ∀ b' ∈ r.frameBuffers, Undisturbed b' w.history w'.history := by
    intro b' hb'
    have hNe := hSound.ne_setup hSetup hb'
    rw [hHistory]
    exact (hOthers b' hNe).trans
      (undisturbed_cons (fun hMem => hNe (List.mem_singleton.mp hMem)) h)
  have hRest : Sound { r with setup := none } w := hSound.of_sublist
    (List.sublist_append_right r.setup.toList r.frameBuffers) (fun b' hb' => by cases hb')
  refine ⟨?_, rfl, hSame⟩
  refine hRest.of_undisturbed ?_ (Nat.le_of_eq hKept.nextHandle.symm) hSame
  rw [hHistory]
  -- what is freed is the setup buffer alone, and it is alive
  refine ⟨fun b' hb' => ?_, hObeys⟩
  rw [List.mem_singleton.mp hb']
  exact hLive

/-- Flushing the setup buffer spares the buffers of frames, as far as it gets. -/
theorem spares_flushOutcome {r r' : Recorder} {w w' : Rehearsal} {out : Except RenderError Unit}
    (hSound : r.Sound w) (hOutcome : FlushOutcome r w out (r', w')) : Spares r w r' w' := by
  cases hOutcome with
  | nothing _ => exact ⟨hSound, rfl, fun b _ => .refl b _⟩
  | @flushed b _ hSetup hHistory hKept =>
    have hLive := hSound.live b (mem_owned_of_setup hSetup)
    exact spares_freeSetup hSound hSetup
      (obeys_flushPlan hSound.obeys hLive (hSound.setup b hSetup)) hLive
      (fun b' hNe => undisturbed_after (avoids_flushPlan hNe) _) hHistory hKept
  | @failed _ b h _ hSetup hBroken hHistory hKept =>
    have hLive := hSound.live b (mem_owned_of_setup hSetup)
    have hObeys := Plan.obeys_of_brokenOff hBroken (excusable_flushPlan b)
      (obeys_flushPlan hSound.obeys hLive (hSound.setup b hSetup))
    exact spares_freeSetup hSound hSetup hObeys (live_brokenOff (freesNone_flushPlan b) hBroken hLive)
      (fun b' hNe => undisturbed_brokenOff (avoids_flushPlan hNe) hBroken) hHistory hKept

-- ---------------------------------------------------------------------------
-- Draw buffers
-- ---------------------------------------------------------------------------

/-- The buffers that frames are made with are at rest. -/
def Rests (r : Recorder) (w : Rehearsal) : Prop := ∀ b ∈ r.frameBuffers, AtRest b w.history

/-- A recorder that was not destroyed has its buffers. -/
theorem frameBuffers_of_alive {r : Recorder} (hAlive : r.destroyed = false) :
    r.frameBuffers = r.draw ++ [r.prePresent, r.postPresent] := by
  rw [frameBuffers, if_neg (by rw [hAlive]; exact Bool.false_ne_true)]

/-- The draw buffers are among them. -/
theorem mem_frameBuffers_of_draw {r : Recorder} (hAlive : r.destroyed = false) {b : CommandBuffer}
    (hb : b ∈ r.draw) : b ∈ r.frameBuffers := by
  rw [frameBuffers_of_alive hAlive]
  exact List.mem_append_left _ hb

/-- The draw buffers are some of the buffers that a recorder answers for. -/
theorem perm_owned {r : Recorder} (hAlive : r.destroyed = false) :
    r.owned.Perm (r.draw ++ owned { r with draw := [] }) := by
  rw [owned, owned, frameBuffers_of_alive hAlive, frameBuffers_of_alive (by exact hAlive),
    List.nil_append]
  exact List.perm_append_comm_assoc _ _ _

/-- Freeing other buffers does not disturb a buffer. -/
theorem undisturbed_freedIfAny {b : CommandBuffer} {bs : List CommandBuffer} (hOther : b ∉ bs)
    (h : DeviceHistory) : Undisturbed b h (freedIfAny bs h) := by
  rw [freedIfAny]
  split
  · exact .refl b h
  · exact undisturbed_cons hOther h

/-- Freeing buffers that are alive keeps to the rule. -/
theorem obeys_freedIfAny {bs : List CommandBuffer} {h : DeviceHistory}
    (hObeys : h.Obeys BufferRule) (hLive : ∀ b ∈ bs, b ∈ h.liveBuffers) :
    (freedIfAny bs h).Obeys BufferRule := by
  rw [freedIfAny]
  split
  · exact hObeys
  · exact ⟨hLive, hObeys⟩

/-- Freeing the draw buffers leaves a recorder without them. -/
theorem Sound.dropDraw {r : Recorder} {w w' : Rehearsal} (hAlive : r.destroyed = false)
    (hSound : r.Sound w) (hHistory : w'.history = freedIfAny r.draw w.history) (hKept : Kept w w') :
    Sound { r with draw := [] } w' ∧
      ∀ b ∈ owned { r with draw := [] }, Undisturbed b w.history w'.history := by
  have hSub : (owned { r with draw := [] }).Sublist r.owned := by
    rw [owned, owned, frameBuffers_of_alive hAlive, frameBuffers_of_alive (by exact hAlive)]
    exact (List.sublist_append_right r.draw _).append_left _
  -- the setup buffer stands before the draw buffers, those around the presentation after them
  have hOther : ∀ b ∈ owned { r with draw := [] }, b ∉ r.draw := by
    intro b hb hDraw
    have hNodup := hSound.nodup
    rw [owned, frameBuffers_of_alive hAlive, ← List.append_assoc] at hNodup
    rw [owned, frameBuffers_of_alive (by exact hAlive), List.nil_append] at hb
    rcases List.mem_append.mp hb with hSetup | hPresent
    · have hParts := List.nodup_append.mp (List.nodup_append.mp hNodup).1
      exact hParts.2.2 b hSetup b hDraw rfl
    · exact (List.nodup_append.mp hNodup).2.2 b (List.mem_append_right _ hDraw) b hPresent rfl
  have hSame : ∀ b ∈ owned { r with draw := [] }, Undisturbed b w.history w'.history := by
    intro b hb
    rw [hHistory]
    exact undisturbed_freedIfAny (hOther b hb) _
  refine ⟨?_, hSame⟩
  refine (hSound.of_sublist hSub (fun b hb => hb)).of_undisturbed ?_
    (Nat.le_of_eq hKept.nextHandle.symm) hSame
  rw [hHistory]
  exact obeys_freedIfAny hSound.obeys
    fun b hb => hSound.live b (mem_owned_of_frame (mem_frameBuffers_of_draw hAlive hb))

/-- A recorder without draw buffers gets new ones. -/
theorem Sound.withDraw {r : Recorder} {w w' : Rehearsal} {bs : List CommandBuffer}
    (hAlive : r.destroyed = false) (hSound : Sound { r with draw := [] } w)
    (hAllocated : Allocated w bs w') : Sound { r with draw := bs } w' := by
  have hPerm := perm_owned (r := { r with draw := bs }) hAlive
  have hKeep := hSound.of_undisturbed (hAllocated.obeys hSound.obeys) hAllocated.nextHandle_le
    fun b hb => hAllocated.undisturbed (hSound.fresh b hb)
  refine ⟨hKeep.obeys, ?_, ?_, ?_, hKeep.setup⟩
  · intro b hb
    rcases List.mem_append.mp (hPerm.mem_iff.mp hb) with hNew | hOld
    · exact ((hAllocated.mem_iff b).mp hNew).2
    · exact hKeep.fresh b hOld
  · -- the new buffers have new handles, those that stay have old ones
    rw [hPerm.nodup_iff]
    refine List.nodup_append.mpr ⟨hAllocated.nodup, hKeep.nodup, ?_⟩
    intro b hNew b' hOld hEq
    subst hEq
    exact hAllocated.not_mem (hSound.fresh b hOld) hNew
  · intro b hb
    rcases List.mem_append.mp (hPerm.mem_iff.mp hb) with hNew | hOld
    · exact hAllocated.live hNew
    · exact hKeep.live b hOld

/-- The draw buffers that a recorder gets are at rest like the buffers it keeps. -/
theorem Rests.withDraw {r : Recorder} {w w₁ w' : Rehearsal} {bs : List CommandBuffer}
    (hAlive : r.destroyed = false) (hRests : r.Rests w)
    (hSame : ∀ b ∈ owned { r with draw := [] }, Undisturbed b w.history w₁.history)
    (hFresh : ∀ b ∈ owned { r with draw := [] }, b.handle < w₁.nextHandle)
    (hAllocated : Allocated w₁ bs w') : Rests { r with draw := bs } w' := by
  intro b hb
  rw [frameBuffers_of_alive (by exact hAlive)] at hb
  rcases List.mem_append.mp hb with hNew | hPresent
  · exact hAllocated.atRest hNew
  · have hOld : b ∈ owned { r with draw := [] } := by
      refine mem_owned_of_frame ?_
      rw [frameBuffers_of_alive (by exact hAlive)]
      exact hPresent
    refine (hAllocated.undisturbed (hFresh b hOld)).atRest ((hSame b hOld).atRest (hRests b ?_))
    rw [frameBuffers_of_alive hAlive]
    exact List.mem_append_right _ hPresent

/-- A draw buffer may be reset, and is at rest like the others then. -/
theorem Sound.resetDraw {r : Recorder} {w w' : Rehearsal} {b : CommandBuffer}
    (hSound : r.Sound w) (hRests : r.Rests w) (hFrame : b ∈ r.frameBuffers)
    (hHistory : w'.history = .wasReset b :: w.history) (hKept : Kept w w') :
    r.Sound w' ∧ r.Rests w' := by
  refine ⟨⟨?_, ?_, hSound.nodup, ?_, ?_⟩, ?_⟩
  · rw [hHistory]
    exact ⟨⟨hSound.live b (mem_owned_of_frame hFrame), hRests b hFrame⟩, hSound.obeys⟩
  · rw [hKept.nextHandle]
    exact hSound.fresh
  · rw [hHistory]
    exact hSound.live
  · intro b' hSetup
    rw [hHistory]
    exact ⟨hSound.ne_setup hSetup hFrame, hSound.setup b' hSetup⟩
  · intro b' hb'
    rw [hHistory]
    exact ⟨fun hRecording => (hRests b' hb').1 hRecording.2, (hRests b' hb').2⟩

/-- A call that is refused is nothing to the buffers. -/
theorem Sound.refused {r : Recorder} {w w' : Rehearsal} {c : DeviceCall} {h : DeviceHistory}
    (hSound : r.Sound { w with history := h }) (hHistory : w'.history = .refused c :: h)
    (hKept : Kept w w') : r.Sound w' := by
  refine hSound.of_undisturbed ?_ (Nat.le_of_eq hKept.nextHandle.symm) fun b _ => ?_
  · rw [hHistory]
    exact ⟨trivial, hSound.obeys⟩
  · rw [hHistory]
    exact undisturbed_cons List.not_mem_nil _

/-- Buffers that are given back right away are none of a recorder's. -/
theorem Sound.givenBack {r : Recorder} {w w₁ w' : Rehearsal} {bs : List CommandBuffer}
    (hSound : r.Sound w) (hAllocated : Allocated w bs w₁)
    (hHistory : w'.history = .freed bs :: w₁.history) (hKept : Kept w₁ w') : r.Sound w' := by
  refine hSound.of_undisturbed ?_ ?_ fun b hb => ?_
  · rw [hHistory]
    exact ⟨fun b hb => hAllocated.live hb, hAllocated.obeys hSound.obeys⟩
  · rw [hKept.nextHandle]
    exact hAllocated.nextHandle_le
  · have hOld := hSound.fresh b hb
    rw [hHistory]
    exact (hAllocated.undisturbed hOld).trans (undisturbed_cons (hAllocated.not_mem hOld) _)

/-- A draw buffer was found or made. -/
structure Drawn (r : Recorder) (b : CommandBuffer) (r' : Recorder) (w' : Rehearsal) : Prop where
  sound : r'.Sound w'
  same : r' = { r with draw := r'.draw }
  rests : r'.Rests w'
  mem : b ∈ r'.draw

/-- A draw buffer that is handed out is at rest, whether it was there or not. -/
theorem drawn_of_drawOutcome {index images : UInt32} {r r' : Recorder} {w w' : Rehearsal}
    {b : CommandBuffer} (hAlive : r.destroyed = false) (hSound : r.Sound w) (hRests : r.Rests w)
    (hOutcome : DrawOutcome index images r w (.ok b) (r', w')) : Drawn r b r' w' := by
  cases hOutcome with
  | reset _ hBuffer hHistory hKept =>
    have hDraw := List.mem_of_getElem? hBuffer
    obtain ⟨hSound', hRests'⟩ :=
      hSound.resetDraw hRests (mem_frameBuffers_of_draw hAlive hDraw) hHistory hKept
    exact ⟨hSound', rfl, hRests', hDraw⟩
  | renewed hDropped hKept hAllocated _ hBuffer =>
    obtain ⟨hDropSound, hSame⟩ := hSound.dropDraw hAlive hDropped hKept
    exact ⟨hDropSound.withDraw hAlive hAllocated, rfl,
      hRests.withDraw hAlive hSame hDropSound.fresh hAllocated, List.mem_of_getElem? hBuffer⟩

/-- A recorder that hands out none is still sound. -/
theorem sound_of_drawOutcome {index images : UInt32} {r r' : Recorder} {w w' : Rehearsal}
    {e : RenderError} (hAlive : r.destroyed = false) (hSound : r.Sound w)
    (hOutcome : DrawOutcome index images r w (.error e) (r', w')) :
    r'.Sound w' ∧ r' = { r with draw := r'.draw } := by
  cases hOutcome with
  | outOfRange _ hHistory hKept =>
    refine ⟨hSound.of_undisturbed ?_ (Nat.le_of_eq hKept.nextHandle.symm) fun b _ => ?_, rfl⟩
    · rw [hHistory]
      exact hSound.obeys
    · rw [hHistory]
      exact .refl b _
  | notReset _ hHistory hKept => exact ⟨hSound.refused hHistory hKept, rfl⟩
  | notAllocated hHistory hKept =>
    -- the world in between, with the draw buffers freed and nothing allocated yet
    let w₁ : Rehearsal := { w with history := freedIfAny r.draw w.history }
    have hDropped : w₁.history = freedIfAny r.draw w.history := rfl
    obtain ⟨hDropSound, -⟩ := hSound.dropDraw hAlive hDropped ⟨rfl, rfl, rfl⟩
    exact ⟨hDropSound.refused hHistory hKept, rfl⟩
  | miscounted hDropped hKept hAllocated hHistory hKept' =>
    obtain ⟨hDropSound, -⟩ := hSound.dropDraw hAlive hDropped hKept
    exact ⟨hDropSound.givenBack hAllocated hHistory hKept', rfl⟩

-- ---------------------------------------------------------------------------
-- Beginning and end
-- ---------------------------------------------------------------------------

/-- A recorder that freed all of its buffers answers for none. -/
theorem Sound.released {r : Recorder} {w w' : Rehearsal} (hAlive : r.destroyed = false)
    (hSound : r.Sound w) (hHistory : w'.history = r.released w.history) : r.emptied.Sound w' := by
  have hParts := List.nodup_append.mp hSound.nodup
  have hFrames := hParts.2.1
  rw [frameBuffers_of_alive hAlive] at hFrames
  have hFrameParts := List.nodup_append.mp hFrames
  have hDraw : ∀ b ∈ r.draw, b ∈ r.frameBuffers := fun b hb => mem_frameBuffers_of_draw hAlive hb
  have hPresent : ∀ b ∈ [r.prePresent, r.postPresent], b ∈ r.frameBuffers := by
    intro b hb
    rw [frameBuffers_of_alive hAlive]
    exact List.mem_append_right _ hb
  have hLive : ∀ b ∈ r.frameBuffers, b ∈ (freedIfAny r.setup.toList w.history).liveBuffers :=
    fun b hb => (undisturbed_freedIfAny (fun hSetup => hParts.2.2 b hSetup b hb rfl) _).live
      (hSound.live b (mem_owned_of_frame hb))
  -- the buffers are freed in three calls, each of them still alive when its turn comes
  refine ⟨?_, fun b hb => ?_, List.nodup_nil, fun b hb => ?_, fun b hSetup => by cases hSetup⟩
  · rw [hHistory, Recorder.released]
    refine ⟨fun b hb => ?_, obeys_freedIfAny (obeys_freedIfAny hSound.obeys ?_) ?_⟩
    · exact (undisturbed_freedIfAny (fun hb' => hFrameParts.2.2 b hb' b hb rfl) _).live
        (hLive b (hPresent b hb))
    · exact fun b hb => hSound.live b (List.mem_append_left _ hb)
    · exact fun b hb => hLive b (hDraw b hb)
  · cases hb
  · cases hb

/-- A new recorder answers for its buffers, and none of those that frames are made with is in
use. -/
theorem sound_of_created {w w' : Rehearsal} {r : Recorder} (hObeys : w.history.Obeys BufferRule)
    (hOutcome : RecorderOutcome w (.ok r) w') :
    r.Sound w' ∧ r.Rests w' ∧ r.destroyed = false ∧ r.draw = [] := by
  cases hOutcome with
  | @created b pre post w₁ _ hNew hAllocated =>
    have hBegun := begunNew_of_newOutcome hObeys hNew
    -- the barrier buffers are allocated after the setup buffer, which they do not disturb
    have hSame := hAllocated.undisturbed hBegun.new
    have hNotNew := hAllocated.not_mem hBegun.new
    refine ⟨⟨hAllocated.obeys hBegun.obeys, ?_, ?_, ?_, ?_⟩, ?_, rfl, rfl⟩
    · refine List.forall_mem_cons.mpr ⟨?_, ?_⟩
      · exact Nat.lt_of_lt_of_le hBegun.new hAllocated.nextHandle_le
      · exact fun b' hb' => ((hAllocated.mem_iff b').mp hb').2
    · exact List.nodup_cons.mpr ⟨hNotNew, hAllocated.nodup⟩
    · exact List.forall_mem_cons.mpr ⟨hSame.live hBegun.live, fun b' hb' => hAllocated.live hb'⟩
    · intro b' hSetup
      cases hSetup
      exact hSame.recording.mpr hBegun.recording
    · exact fun b' hb' => hAllocated.atRest hb'

/-- A recorder that is not created gives back what it was handed. -/
theorem obeys_of_not_created {w w' : Rehearsal} {e : RenderError}
    (hObeys : w.history.Obeys BufferRule) (hOutcome : RecorderOutcome w (.error e) w') :
    w'.history.Obeys BufferRule := by
  cases hOutcome with
  | noSetup hNew => exact (aside_of_newOutcome hObeys hNew).obeys
  | notAllocated hNew hHistory hKept =>
    have hBegun := begunNew_of_newOutcome hObeys hNew
    rw [hHistory]
    refine ⟨fun b hb => ?_, trivial, hBegun.obeys⟩
    rw [List.mem_singleton.mp hb]
    exact hBegun.live
  -- the wrong number of buffers was allocated; they and the setup buffer are freed
  | @miscounted _ b others w₁ w₂ _ hNew hAllocated hHistory hKept =>
    have hBegun := begunNew_of_newOutcome hObeys hNew
    rw [hHistory]
    refine ⟨fun b' hb' => ?_, fun b' hb' => hAllocated.live hb', hAllocated.obeys hBegun.obeys⟩
    rw [List.mem_singleton.mp hb']
    exact ((hAllocated.undisturbed hBegun.new).trans
      (undisturbed_cons (hAllocated.not_mem hBegun.new) _)).live hBegun.live

end Recorder

end RenderLoop
