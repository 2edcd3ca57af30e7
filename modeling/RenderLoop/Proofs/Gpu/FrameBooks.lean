import RenderLoop.Proofs.Gpu.Holdings

/-!
# RenderLoop — what frames answer for

A recorder answers for its command buffers, and a frame machine for its recorder and its
semaphores. What that comes to does not depend on the world the frames are made in, only
on how its calls change the books (`Bookkeeping`, `ChainBookkeeping`): allocating and
creating add to them, freeing and destroying take from them, and a call may only mention
what is in them.

A frame may begin and end in any way: the machine goes on to answer for exactly what it
has (`Synchronizer.within_beginFrame_of_books`, `Synchronizer.within_endFrame_of_books`), and its
destruction gives all of it back.
-/

namespace RenderLoop

open Op Estate

-- ---------------------------------------------------------------------------
-- Worlds with books
-- ---------------------------------------------------------------------------

/-- Worlds whose books say what somebody answers for. All command buffers come from one pool. -/
class Bookkeeping {σ : Type} [FrameDevice σ] (pool : outParam Handle)
    (books : Estate → σ → Prop) : Prop where
  push : ∀ {xs w e}, books xs w → books xs (Logging.push e w)
  createSemaphore : ∀ {xs w}, books xs w → (FrameDevice.createSemaphore : Op σ Semaphore).Ensures w
    (fun x t => books (object .semaphore x.handle + xs) t) (fun _ t => books xs t)
  destroySemaphore : ∀ {xs w} {x : Semaphore}, books (object .semaphore x.handle + xs) w →
    books xs (FrameDevice.destroySemaphore x w)
  allocate : ∀ {xs w} count, books xs w → (FrameDevice.allocate count : Op σ _).Ensures w
    (fun bs t => bs.length = count.toNat ∧ books (buffers pool bs + xs) t) (fun _ t => books xs t)
  free : ∀ {xs w bs}, books (buffers pool bs + xs) w → books xs (FrameDevice.free bs w)
  reset : ∀ {xs w} {b : CommandBuffer}, .commandBuffer pool b.handle ∈ xs → books xs w →
    (FrameDevice.reset b : Op σ Unit).Ensures w (fun _ t => books xs t) (fun _ t => books xs t)
  beginBuffer : ∀ {xs w} {b : CommandBuffer}, .commandBuffer pool b.handle ∈ xs → books xs w →
    (FrameDevice.beginBuffer b : Op σ Unit).Ensures w (fun _ t => books xs t) (fun _ t => books xs t)
  endBuffer : ∀ {xs w} {b : CommandBuffer}, .commandBuffer pool b.handle ∈ xs → books xs w →
    (FrameDevice.endBuffer b : Op σ Unit).Ensures w (fun _ t => books xs t) (fun _ t => books xs t)
  submit : ∀ {xs w} {b : CommandBuffer} {waits : List (Semaphore × PipelineStages)}
    {signals : List Semaphore}, .commandBuffer pool b.handle ∈ xs →
    (∀ x ∈ waits, xs.Has .semaphore x.1.handle) → (∀ x ∈ signals, xs.Has .semaphore x.handle) →
    books xs w → (FrameDevice.submit b waits signals : Op σ Unit).Ensures w (fun _ t => books xs t)
      (fun _ t => books xs t)
  waitQueue : ∀ {xs w}, books xs w → (FrameDevice.waitQueue : Op σ Unit).Ensures w
    (fun _ t => books xs t) (fun _ t => books xs t)

/-- Recording, acquisitions and presentations keep the books, too. -/
class ChainBookkeeping {σ : Type} [FrameWorld σ] (pool : outParam Handle)
    (books : Estate → σ → Prop) : Prop extends Bookkeeping pool books where
  record : ∀ {xs w} {b : CommandBuffer} c, .commandBuffer pool b.handle ∈ xs → books xs w →
    books xs (FrameDevice.record b c w)
  acquire : ∀ {xs w} {signal : Semaphore}, xs.Has .semaphore signal.handle → books xs w →
    (FrameWorld.acquire signal : Op σ UInt32).Ensures w (fun _ t => books xs t) (fun _ t => books xs t)
  present : ∀ {xs w} index {waits : List Semaphore}, (∀ x ∈ waits, xs.Has .semaphore x.handle) →
    books xs w → (FrameWorld.present index waits : Op σ Unit).Ensures w (fun _ t => books xs t)
      (fun _ t => books xs t)

instance {σ : Type} [FrameDevice σ] {pool : Handle} {books : Estate → σ → Prop} {xs : Estate}
    [hBooks : Bookkeeping pool books] : Unlogged (books xs) :=
  ⟨hBooks.push⟩

-- ---------------------------------------------------------------------------
-- The recorder
-- ---------------------------------------------------------------------------

namespace Recorder

variable {σ : Type} [FrameDevice σ] {pool : Handle} {books : Estate → σ → Prop} {xs rest : Estate}
  {r : Recorder} {w : σ} {b : CommandBuffer}

/-- The buffers of a recorder that was not destroyed. -/
def estate (pool : Handle) (r : Recorder) : Estate :=
  buffers pool (r.setup.toList ++ (r.draw ++ [r.prePresent, r.postPresent]))

/-- The setup buffer is among what a recorder answers for. -/
theorem mem_estate_of_setup (pool : Handle) (hb : r.setup = some b) :
    Holding.commandBuffer pool b.handle ∈ r.estate pool := by
  have hSetup : b ∈ r.setup.toList := by
    rw [hb]
    exact List.mem_singleton_self b
  exact mem_buffers pool (List.mem_append_left _ hSetup)

/-- Each draw buffer is among what a recorder answers for. -/
theorem mem_estate_of_draw (pool : Handle) (hb : b ∈ r.draw) :
    Holding.commandBuffer pool b.handle ∈ r.estate pool :=
  mem_buffers pool (List.mem_append_right _ (List.mem_append_left _ hb))

/-- The two buffers that stand around a presentation are among what a recorder answers for. -/
theorem mem_estate_of_present (pool : Handle) (hb : b ∈ [r.prePresent, r.postPresent]) :
    Holding.commandBuffer pool b.handle ∈ r.estate pool :=
  mem_buffers pool (List.mem_append_right _ (List.mem_append_right _ hb))

/-- The books of a recorder that was not destroyed, and of what others answer for. -/
structure Balanced (pool : Handle) (books : Estate → σ → Prop) (rest : Estate) (s : Recorder × σ) :
    Prop where
  alive : s.1.destroyed = false
  books : books (s.1.estate pool + rest) s.2

variable [hBooks : Bookkeeping pool books]

instance : Unlogged (Balanced pool books rest : Recorder × σ → Prop) where
  push h := ⟨h.alive, hBooks.push h.books⟩

/-- The setup buffer, taken apart from the other buffers. -/
theorem estate_withSetup (pool : Handle) (r : Recorder) (b : CommandBuffer) :
    estate pool { r with setup := some b } =
      buffers pool [b] + estate pool { r with setup := none } :=
  buffers_append pool [b] _

/-- The draw buffers, taken apart from the other buffers. -/
theorem estate_withDraw (pool : Handle) (r : Recorder) (bs : List CommandBuffer) :
    estate pool { r with draw := bs } = buffers pool bs + estate pool { r with draw := [] } := by
  simp only [estate, buffers_append, buffers_nil, zero_add]
  exact add_left_comm _ _ _

/-- A new buffer is answered for once it was begun, and given back if it could not be. -/
theorem ensures_beginNew_of_books (h : books xs w) :
    (beginNew : Op σ CommandBuffer).Ensures w (fun b t => books (buffers pool [b] + xs) t)
      (fun _ t => books xs t) := by
  rw [beginNew, ensures_bind, allocateOne, ensures_bind]
  refine (hBooks.allocate 1 h).mono (fun bs t hAllocated => ?_) fun _ _ h => h
  obtain ⟨b, rfl⟩ := List.length_eq_one_iff.mp hAllocated.1
  rw [ensures_pure, ensures_bind, FrameDevice.freeOnFailure, ensures_undoing]
  -- a buffer that cannot be begun is freed at once
  refine (hBooks.beginBuffer (Multiset.mem_add.mpr (.inl (mem_buffers _ (List.mem_singleton_self b))))
    hAllocated.2).mono (fun _ t hBegun => ?_) fun _ _ h => hBooks.free h
  rw [ensures_pure]
  exact hBegun

/-- The two buffers around a presentation are answered for, or there are none. -/
theorem ensures_allocatePresent_of_books (h : books xs w) :
    (allocatePresent : Op σ (CommandBuffer × CommandBuffer)).Ensures w
      (fun p t => books (buffers pool [p.1, p.2] + xs) t) (fun _ t => books xs t) := by
  rw [allocatePresent, ensures_bind]
  refine (hBooks.allocate 2 h).mono (fun bs t hAllocated => ?_) fun _ _ h => h
  split
  · rw [ensures_pure]
    exact hAllocated.2
  · -- not two buffers: they are freed, and the error is logged
    rw [ensures_bind, ensures_change, failBackend, ensures_failWith]
    exact hBooks.push (hBooks.free hAllocated.2)

/-- A recorder that was created answers for three buffers; if it cannot be, nothing is left of
it. -/
theorem ensures_create_of_books (h : books xs w) :
    (create : Op σ Recorder).Ensures w (fun r t => Balanced pool books xs (r, t))
      (fun _ t => books xs t) := by
  rw [create, ensures_bind]
  refine (ensures_beginNew_of_books h).mono (fun setup t hSetup => ?_) fun _ _ h => h
  rw [ensures_bind, FrameDevice.freeOnFailure, ensures_undoing]
  refine (ensures_allocatePresent_of_books hSetup).mono (fun p t hPresent => ?_)
    fun _ _ h => hBooks.free h
  rw [ensures_pure]
  refine ⟨rfl, ?_⟩
  have hEstate := estate_withSetup pool { prePresent := p.1, postPresent := p.2 } setup
  show books (estate pool { setup := some setup, prePresent := p.1, postPresent := p.2 } + xs) t
  rw [hEstate, add_right_comm, add_comm]
  exact hPresent

-- ---------------------------------------------------------------------------
-- The setup buffer
-- ---------------------------------------------------------------------------

/-- The setup buffer there is, or a new one that the recorder answers for from now on. -/
theorem ensures_beginSetup_of_books (h : Balanced pool books rest (r, w)) :
    (beginSetup : Op (Recorder × σ) CommandBuffer).Ensures (r, w)
      (fun b s => Balanced pool books rest s ∧ s.1.setup = some b)
      (fun _ s => Balanced pool books rest s) := by
  rw [beginSetup, ensures_bind, ensures_get]
  dsimp only
  cases hSetup : r.setup with
  | some b =>
    rw [ensures_pure]
    exact ⟨h, hSetup⟩
  | none =>
    rw [ensures_bind, ensures_onSecond]
    refine (ensures_beginNew_of_books h.books).mono (fun b t hBegun => ?_) fun _ _ hFailed =>
      ⟨h.alive, hFailed⟩
    rw [ensures_bind, ensures_change, ensures_pure]
    -- the new buffer is what the recorder has besides what it had without one
    have hNone : r = { r with setup := none } := by rw [← hSetup]
    refine ⟨⟨h.alive, ?_⟩, rfl⟩
    show books (estate pool { r with setup := some b } + rest) t
    rw [estate_withSetup, ← hNone, add_assoc]
    exact hBegun

/-- Running a buffer that is answered for changes nothing in the books. -/
theorem within_runToEnd (hb : Holding.commandBuffer pool b.handle ∈ xs) :
    (runToEnd b : Op σ Unit).Within (Preserving (books xs)) := by
  have hEnd : (FrameDevice.endBuffer b : Op σ Unit).Within (Preserving (books xs)) :=
    within_preserving fun _ => hBooks.endBuffer hb
  have hSubmit : (FrameDevice.submit b [] [] : Op σ Unit).Within (Preserving (books xs)) :=
    within_preserving fun _ => hBooks.submit hb (List.forall_mem_nil _) (List.forall_mem_nil _)
  refine hEnd.bind fun _ => ?_
  refine hSubmit.bind fun _ => ?_
  exact within_preserving fun _ => hBooks.waitQueue

/-- The setup buffer is freed, whether it could be run or not. -/
theorem within_flushSetup :
    (flushSetup : Op (Recorder × σ) Unit).Within (Preserving (Balanced pool books rest)) := by
  refine within_get_bind fun s h => ?_
  obtain ⟨r, w⟩ := s
  dsimp only
  cases hSetup : r.setup with
  | none =>
    rw [ensures_pure]
    exact h
  | some b =>
    -- the setup buffer leaves the recorder, so its entry is the one that freeing takes out
    have hEstate : r.estate pool = buffers pool [b] + estate pool { r with setup := none } := by
      rw [← estate_withSetup, ← hSetup]
    have hRun := h.books
    rw [hEstate, add_assoc] at hRun
    have hMem := Multiset.mem_add.mpr (.inl (mem_buffers pool (List.mem_singleton_self b)) :
      _ ∨ _ ∈ estate pool { r with setup := none } + rest)
    simp only [ensures_bind, ensures_change, ensures_attempt, ensures_onSecond, ensures_log,
      ensures_ofExcept]
    exact ((within_runToEnd hMem).preserves hRun).mono
      (fun _ _ h' => ⟨h.alive, hBooks.push (hBooks.free h')⟩)
      fun _ _ h' => ⟨h.alive, hBooks.push (hBooks.free h')⟩

-- ---------------------------------------------------------------------------
-- Draw buffers
-- ---------------------------------------------------------------------------

/-- The draw buffers are given back, and the recorder answers for the others as before. -/
theorem books_dropDraw (h : books (r.estate pool + rest) w) :
    (dropDraw (r, w)).1 = { r with draw := [] } ∧
      books (estate pool { r with draw := [] } + rest) (dropDraw (r, w)).2 := by
  rw [dropDraw]
  split
  · rename_i hNone
    rw [List.isEmpty_iff] at hNone
    have hSame : r = { r with draw := [] } := by rw [← hNone]
    rw [← hSame]
    exact ⟨rfl, h⟩
  · have hSplit := estate_withDraw pool r r.draw
    rw [hSplit, add_assoc] at h
    exact ⟨rfl, hBooks.free h⟩

/-- As many draw buffers as there are images, or none. -/
theorem ensures_allocateDraw_of_books (images : UInt32) (h : books xs w) :
    (allocateDraw images : Op σ (List CommandBuffer)).Ensures w
      (fun bs t => books (buffers pool bs + xs) t) (fun _ t => books xs t) := by
  rw [allocateDraw, ensures_bind]
  refine (hBooks.allocate images h).mono (fun bs t hAllocated => ?_) fun _ _ h => h
  rw [if_pos hAllocated.1, ensures_pure]
  exact hAllocated.2

/-- The draw buffers are replaced, and if that fails there are none. -/
theorem within_renewDraw (images : UInt32) :
    (renewDraw images : Op (Recorder × σ) Unit).Within (Preserving (Balanced pool books rest)) := by
  refine within_preserving fun s h => ?_
  obtain ⟨r, w⟩ := s
  obtain ⟨hNone, hDropped⟩ := books_dropDraw h.books
  simp only [renewDraw, ensures_bind, ensures_change, ensures_onSecond]
  rw [hNone]
  -- the old buffers are gone by now, so a failure leaves a recorder without draw buffers
  refine (ensures_allocateDraw_of_books images hDropped).mono (fun bs t hAllocated => ?_)
    fun _ _ hFailed => ⟨h.alive, hFailed⟩
  refine ⟨h.alive, ?_⟩
  show books (estate pool { r with draw := bs } + rest) t
  rw [estate_withDraw, add_assoc]
  exact hAllocated

omit [FrameDevice σ] in
/-- A buffer that is found under an index is one of the draw buffers. -/
theorem ensures_drawAt_of_books (index : UInt32) {s : Recorder × σ} {P : Recorder × σ → Prop}
    (h : P s) :
    (drawAt index : Op (Recorder × σ) CommandBuffer).Ensures s (fun b t => P t ∧ b ∈ t.1.draw)
      (fun _ t => P t) := by
  rw [drawAt, ensures_bind, ensures_get, ensures_ofOption]
  exact fun b hb => ⟨h, List.mem_of_getElem? hb⟩

/-- A draw buffer is one that the recorder has. -/
theorem ensures_drawBuffer_of_books (index images : UInt32) {s : Recorder × σ}
    (h : Balanced pool books rest s) :
    (drawBuffer index images : Op (Recorder × σ) CommandBuffer).Ensures s
      (fun b t => Balanced pool books rest t ∧ b ∈ t.1.draw)
      (fun _ t => Balanced pool books rest t) := by
  rw [drawBuffer]
  refine ensures_ite (fun _ => ?_) fun _ => ?_
  · rw [failBackend, ensures_failWith]
    exact ⟨h.alive, hBooks.push h.books⟩
  · rw [ensures_bind, ensures_get]
    refine ensures_ite (fun _ => ?_) fun _ => ?_
    · rw [ensures_bind]
      -- there is a buffer for each image: the one for this image is reset
      refine (ensures_drawAt_of_books index h).mono ?_ fun _ _ h => h
      rintro b ⟨r, w⟩ ⟨h₁, hb⟩
      rw [ensures_bind, ensures_onSecond]
      have hMem := Multiset.mem_add.mpr (.inl (mem_estate_of_draw pool hb) : _ ∨ _ ∈ rest)
      refine (hBooks.reset hMem h₁.books).mono (fun _ t hReset => ?_)
        fun _ _ hFailed => ⟨h₁.alive, hFailed⟩
      rw [ensures_pure]
      exact ⟨⟨h₁.alive, hReset⟩, hb⟩
    · rw [ensures_bind]
      -- the number of images has changed
      exact ((within_renewDraw images).preserves h).mono
        (fun _ _ h₁ => ensures_drawAt_of_books index h₁) fun _ _ h => h

-- ---------------------------------------------------------------------------
-- The end
-- ---------------------------------------------------------------------------

/-- The setup buffer is given back, and the recorder answers for the others as before. -/
theorem books_dropSetup (h : books (r.estate pool + rest) w) :
    (dropSetup (r, w)).1 = { r with setup := none } ∧
      books (estate pool { r with setup := none } + rest) (dropSetup (r, w)).2 := by
  rw [dropSetup]
  dsimp only
  split
  · rename_i b hSetup
    have hEstate : r.estate pool = buffers pool [b] + estate pool { r with setup := none } := by
      rw [← estate_withSetup, ← hSetup]
    rw [hEstate, add_assoc] at h
    exact ⟨rfl, hBooks.free h⟩
  · rename_i hSetup
    have hSame : r = { r with setup := none } := by rw [← hSetup]
    rw [← hSame]
    exact ⟨rfl, h⟩

/-- A recorder that is destroyed frees all that it has. -/
theorem Balanced.books_destroy {s : Recorder × σ} (h : Balanced pool books rest s) :
    books rest (Recorder.destroy s).2 := by
  obtain ⟨r, w⟩ := s
  have hAlive : ¬ r.destroyed = true := by
    rw [h.alive]
    exact Bool.false_ne_true
  -- the setup buffer first, then the draw buffers, and the two others in the end
  obtain ⟨hSetup, hBooks₁⟩ := books_dropSetup (r := { r with destroyed := true }) h.books
  rw [Recorder.destroy, if_neg hAlive]
  generalize dropSetup ({ r with destroyed := true }, w) = s₁ at hSetup hBooks₁
  obtain ⟨r₁, w₁⟩ := s₁
  dsimp only at hSetup hBooks₁
  subst hSetup
  obtain ⟨hDraw, hBooks₂⟩ := books_dropDraw hBooks₁
  generalize dropDraw (_, w₁) = s₂ at hDraw hBooks₂
  obtain ⟨r₂, w₂⟩ := s₂
  dsimp only at hDraw hBooks₂
  subst hDraw
  exact hBooks.free hBooks₂

end Recorder

-- ---------------------------------------------------------------------------
-- The machine
-- ---------------------------------------------------------------------------

namespace Synchronizer

/-- The semaphores of a machine that was not destroyed. -/
def semaphores (m : Synchronizer) : Estate :=
  object .semaphore m.presentComplete.handle + object .semaphore m.renderComplete.handle

theorem has_presentComplete (m : Synchronizer) :
    m.semaphores.Has .semaphore m.presentComplete.handle :=
  (has_object _ _).left _

theorem has_renderComplete (m : Synchronizer) :
    m.semaphores.Has .semaphore m.renderComplete.handle :=
  (has_object _ _).right _

variable {σ : Type}

/-- The books of a machine that was not destroyed. -/
structure Balanced (pool : Handle) (books : Estate → σ → Prop) (s : Synchronizer × σ) : Prop where
  alive : s.1.destroyed = false
  recorder : Recorder.Balanced pool books s.1.semaphores (s.1.recorder, s.2)

/-- There is a frame that can be ended: its buffer is one that the machine has. -/
structure Drawing (pool : Handle) (books : Estate → σ → Prop) (f : Frame) (s : Synchronizer × σ) :
    Prop extends Balanced pool books s where
  draw : f.buffer ∈ s.1.recorder.draw

/-- The machine stays as it is, and so do the books. -/
theorem Balanced.kept {pool : Handle} {books : Estate → σ → Prop} {s : Synchronizer × σ} {w : σ}
    (h : Balanced pool books s) (hBooks : books (s.1.recorder.estate pool + s.1.semaphores) w) :
    Balanced pool books (s.1, w) :=
  ⟨h.alive, h.recorder.alive, hBooks⟩

section Device

variable [FrameDevice σ] {pool : Handle} {books : Estate → σ → Prop} {xs : Estate}
  {m : Synchronizer} {w : σ} {f : Frame} {α : Type} [hBooks : Bookkeeping pool books]

instance : Unlogged (Balanced pool books : Synchronizer × σ → Prop) where
  push h := ⟨h.alive, (inferInstance : Unlogged (Recorder.Balanced pool books _)).push h.recorder⟩

instance : Unlogged (Drawing pool books f : Synchronizer × σ → Prop) where
  push h := ⟨(inferInstance : Unlogged (Balanced pool books)).push h.toBalanced, h.draw⟩

-- ---------------------------------------------------------------------------
-- Beginning and end
-- ---------------------------------------------------------------------------

include hBooks in
/-- Both semaphores are answered for, or neither. -/
theorem ensures_createSemaphores_of_books (h : books xs w) :
    (createSemaphores : Op σ (Semaphore × Semaphore)).Ensures w
      (fun p t => books (object .semaphore p.1.handle + object .semaphore p.2.handle + xs) t)
      (fun _ t => books xs t) := by
  rw [createSemaphores, ensures_bind]
  refine (hBooks.createSemaphore h).mono (fun first t hFirst => ?_) fun _ _ h => h
  rw [ensures_bind, ensures_undoing]
  refine (hBooks.createSemaphore hFirst).mono (fun second t hSecond => ?_)
    fun _ _ h => hBooks.destroySemaphore h
  rw [ensures_pure, add_assoc, add_left_comm]
  exact hSecond

/-- A machine that was created answers for its recorder and both semaphores; if it cannot be,
nothing is left of it. -/
theorem ensures_create_of_books (clearColor : Color) (h : books 0 w) :
    (create clearColor : Op σ Synchronizer).Ensures w (fun m t => Balanced pool books (m, t))
      (fun _ t => books 0 t) := by
  rw [create, ensures_bind]
  refine (Recorder.ensures_create_of_books h).mono (fun r t hRecorder => ?_) fun _ _ h => h
  rw [ensures_bind, destroyOnFailure, ensures_undoing]
  -- without the semaphores the recorder is destroyed again
  refine (ensures_createSemaphores_of_books hRecorder.books).mono (fun p t hMade => ?_)
    fun _ _ hFailed => Recorder.Balanced.books_destroy ⟨hRecorder.alive, hFailed⟩
  rw [ensures_pure]
  rw [add_zero, add_comm] at hMade
  exact ⟨rfl, hRecorder.alive, hMade⟩

/-- A machine that is destroyed gives back all that it has. -/
theorem Balanced.books_destroy (h : Balanced pool books (m, w)) : books 0 (destroy (m, w)).2 := by
  have hAlive : ¬ m.destroyed = true := by
    rw [h.alive]
    exact Bool.false_ne_true
  have hFreed := h.recorder.books_destroy
  rw [semaphores, ← add_zero (object .semaphore m.renderComplete.handle)] at hFreed
  rw [destroy, if_neg hAlive]
  exact hBooks.destroySemaphore (hBooks.destroySemaphore hFreed)

-- ---------------------------------------------------------------------------
-- Steps
-- ---------------------------------------------------------------------------

omit [FrameDevice σ] hBooks in
/-- The state a machine enters does not matter to its books. -/
theorem within_enter_of_books (state : FrameState) :
    (enter state : Op (Synchronizer × σ) Unit).Within (Preserving (Balanced pool books)) :=
  within_change fun _ h => ⟨h.alive, h.recorder⟩

omit [FrameDevice σ] hBooks in
/-- The state a machine enters does not matter to the frame it draws. -/
theorem within_enter_of_drawing (state : FrameState) :
    (enter state : Op (Synchronizer × σ) Unit).Within (Preserving (Drawing pool books f)) :=
  within_change fun _ h => ⟨⟨h.alive, h.recorder⟩, h.draw⟩

omit [FrameDevice σ] hBooks in
/-- What the recorder does with its own buffers. -/
theorem within_onRecorder {op : Op (Recorder × σ) α}
    (hOp : ∀ rest, op.Within (Preserving (Recorder.Balanced pool books rest))) :
    (onRecorder op).Within (Preserving (Balanced pool books)) := by
  refine within_preserving fun s h => ?_
  rw [onRecorder, ensures_on]
  exact ((hOp s.1.semaphores).preserves h.recorder).mono (fun _ _ h' => ⟨h.alive, h'⟩)
    fun _ _ h' => ⟨h.alive, h'⟩

/-- What is done with the device while there is a frame, and loses the machine if it fails. -/
theorem Drawing.ensures_orLose {op : Op σ α} (h : Drawing pool books f (m, w))
    (hOp : op.Within (Preserving (books (m.recorder.estate pool + m.semaphores)))) :
    (orLose op.onSecond : Op (Synchronizer × σ) α).Ensures (m, w)
      (fun _ t => Drawing pool books f t) (fun _ t => Drawing pool books f t) := by
  rw [orLose, ensures_bind, ensures_attempt, ensures_onSecond]
  refine (hOp.preserves h.recorder.books).mono (fun a t h' => ?_) fun e t h' => ?_
  · rw [ensures_pure]
    exact ⟨h.toBalanced.kept h', h.draw⟩
  · exact (within_lose (within_enter_of_drawing _) e).preserves ⟨h.toBalanced.kept h', h.draw⟩

end Device

-- ---------------------------------------------------------------------------
-- Frames
-- ---------------------------------------------------------------------------

section World

variable [FrameWorld σ] {pool : Handle} {books : Estate → σ → Prop} {xs : Estate} {w : σ}
  {m : Synchronizer} [hBooks : ChainBookkeeping pool books]

/-- Commands are recorded into a buffer that is answered for. -/
theorem books_recordAll {b : CommandBuffer} (hb : .commandBuffer pool b.handle ∈ xs)
    (cs : List Command) (h : books xs w) : books xs (FrameDevice.recordAll b cs w) := by
  induction cs generalizing w with
  | nil => exact h
  | cons c rest ih => exact ih (hBooks.record c hb h)

/-- What belongs to the recorder, once the semaphores are counted as well. -/
theorem mem_left {i : Holding} (hi : i ∈ m.recorder.estate pool) :
    i ∈ m.recorder.estate pool + m.semaphores :=
  Multiset.mem_add.mpr (.inl hi)

/-- The opening of a frame goes into a buffer that the machine has. -/
theorem within_recordOpening_of_books (index images : UInt32) (extent : Extent) :
    (recordOpening index images extent : Op (Synchronizer × σ) CommandBuffer).Within
      (Preserving (Balanced pool books)) := by
  refine within_preserving fun s h => ?_
  simp only [recordOpening, onRecorder, ensures_bind, ensures_on, ensures_onSecond, ensures_change,
    ensures_pure]
  refine (Recorder.ensures_drawBuffer_of_books index images h.recorder).mono ?_
    fun _ _ h' => ⟨h.alive, h'⟩
  rintro b ⟨r, w⟩ ⟨hRecorder, hb⟩
  have hMem := Multiset.mem_add.mpr (.inl (Recorder.mem_estate_of_draw pool hb) :
    _ ∨ _ ∈ s.1.semaphores)
  exact (hBooks.beginBuffer hMem hRecorder.books).mono
    (fun _ _ hBegun => ⟨h.alive, hRecorder.alive, books_recordAll hMem _ hBegun⟩)
    fun _ _ hFailed => ⟨h.alive, hRecorder.alive, hFailed⟩

/-- Submitting the drawing mentions its buffer and both semaphores. -/
theorem within_submitDraw_of_books {b : CommandBuffer} {ready done : Semaphore}
    (hb : .commandBuffer pool b.handle ∈ xs) (hReady : xs.Has .semaphore ready.handle)
    (hDone : xs.Has .semaphore done.handle) :
    (submitDraw b ready done : Op σ Unit).Within (Preserving (books xs)) := by
  have hEnd : (FrameDevice.endBuffer b : Op σ Unit).Within (Preserving (books xs)) :=
    within_preserving fun _ => hBooks.endBuffer hb
  refine (within_change fun _ => hBooks.record _ hb).bind fun _ => ?_
  refine hEnd.bind fun _ => ?_
  exact within_preserving fun _ => hBooks.submit hb (List.forall_mem_singleton.mpr hReady)
    (List.forall_mem_singleton.mpr hDone)

/-- Submitting a barrier mentions its buffer and no semaphore. -/
theorem within_submitBarrier_of_books {b : CommandBuffer} (hb : .commandBuffer pool b.handle ∈ xs)
    (index : UInt32) (t : ImageTransition) :
    (submitBarrier b index t : Op σ Unit).Within (Preserving (books xs)) := by
  have hBegin : (FrameDevice.beginBuffer b : Op σ Unit).Within (Preserving (books xs)) :=
    within_preserving fun _ => hBooks.beginBuffer hb
  have hEnd : (FrameDevice.endBuffer b : Op σ Unit).Within (Preserving (books xs)) :=
    within_preserving fun _ => hBooks.endBuffer hb
  refine hBegin.bind fun _ => ?_
  refine (within_change fun _ => hBooks.record _ hb).bind fun _ => ?_
  refine hEnd.bind fun _ => ?_
  exact within_preserving fun _ => hBooks.submit hb (List.forall_mem_nil _) (List.forall_mem_nil _)

/-- An acquisition signals a semaphore of the machine. -/
theorem within_acquireImage_of_books :
    (acquireImage : Op (Synchronizer × σ) UInt32).Within (Preserving (Balanced pool books)) := by
  refine (within_enter_of_books _).bind fun _ => within_get_bind_bind (fun s h => ?_) fun r => ?_
  · have hSignal := s.1.has_presentComplete.right (s.1.recorder.estate pool)
    rw [ensures_attempt, ensures_onSecond]
    exact (hBooks.acquire hSignal h.recorder.books).mono (fun _ _ h' => h.kept h')
      fun _ _ h' => h.kept h'
  · split
    · -- the image can be drawn, though the swapchain no longer fits
      exact (within_log _).bind fun _ => within_pure _
    · exact (within_enter_of_books _).bind fun _ => within_failWith _ _
    · exact within_lose (within_enter_of_books _) _

/-- However the beginning of a frame goes, the machine answers for what it has. -/
theorem within_beginFrame_of_books (extent : Extent) :
    (beginFrame extent : Op (Synchronizer × σ) Frame).Within (Preserving (Balanced pool books)) := by
  refine (within_expect _ _).bind fun _ => ?_
  refine within_acquireImage_of_books.bind fun _ => ?_
  refine within_get.bind fun _ => ?_
  refine (within_orLose (within_enter_of_books _) (within_recordOpening_of_books _ _ _)).bind
    fun _ => ?_
  refine (within_enter_of_books _).bind fun _ => ?_
  exact within_pure _

variable (f : Frame)

/-- A frame is submitted from a draw buffer that the machine has. -/
theorem within_finishDraw_of_books :
    (finishDraw f : Op (Synchronizer × σ) Unit).Within (Preserving (Drawing pool books f)) := by
  refine within_get_bind_bind (fun s h => ?_) fun _ => within_enter_of_drawing _
  refine h.ensures_orLose (within_submitDraw_of_books ?_ ?_ ?_)
  · exact mem_left (Recorder.mem_estate_of_draw _ h.draw)
  · exact s.1.has_presentComplete.right _
  · exact s.1.has_renderComplete.right _

/-- The barrier before the presentation is submitted from a buffer that the machine has. -/
theorem within_finishPre_of_books :
    (finishPre f : Op (Synchronizer × σ) Unit).Within (Preserving (Drawing pool books f)) := by
  refine within_get_bind fun _ h => ?_
  refine h.ensures_orLose (within_submitBarrier_of_books ?_ _ _)
  exact mem_left (Recorder.mem_estate_of_present _ List.mem_cons_self)

/-- The barrier after the presentation is submitted from a buffer that the machine has. -/
theorem within_finishPost_of_books :
    (finishPost f : Op (Synchronizer × σ) Unit).Within (Preserving (Drawing pool books f)) := by
  refine within_get_bind_bind (fun s h => h.ensures_orLose ?_) fun _ => within_enter_of_drawing _
  have hPost := @Recorder.mem_estate_of_present s.1.recorder _ pool
    (List.mem_cons_of_mem _ List.mem_cons_self)
  exact (within_submitBarrier_of_books (mem_left hPost) _ _).bind fun _ =>
    within_preserving fun _ => hBooks.waitQueue

/-- A presentation waits for a semaphore of the machine. -/
theorem within_presentImage_of_books (index : UInt32) :
    (presentImage index : Op (Synchronizer × σ) Bool).Within (Preserving (Drawing pool books f)) := by
  refine within_get_bind_bind (fun s h => ?_) fun r => ?_
  · have hWaits : ∀ x ∈ [s.1.renderComplete],
        (s.1.recorder.estate pool + s.1.semaphores).Has .semaphore x.handle :=
      List.forall_mem_singleton.mpr (s.1.has_renderComplete.right _)
    rw [ensures_attempt, ensures_onSecond]
    exact (hBooks.present index hWaits h.recorder.books).mono
      (fun _ _ h' => ⟨h.toBalanced.kept h', h.draw⟩) fun _ _ h' => ⟨h.toBalanced.kept h', h.draw⟩
  · split
    · exact within_pure _
    · exact (within_log _).bind fun _ => within_pure _
    · exact within_lose (within_enter_of_drawing _) _

/-- The books are kept however the end of a frame goes. -/
theorem within_endFrame_of_books :
    (endFrame f : Op (Synchronizer × σ) Unit).Within (Preserving (Drawing pool books f)) := by
  have hCount : (countFrame : Op (Synchronizer × σ) Unit).Within (Preserving (Drawing pool books f)) := by
    refine within_get.bind fun _ => ?_
    refine (within_ofOption _).bind fun _ => ?_
    exact within_change fun _ h => ⟨⟨h.alive, h.recorder⟩, h.draw⟩
  refine (within_expect _ _).bind fun _ => ?_
  refine (within_expectCurrent f).bind fun _ => ?_
  refine (within_finishDraw_of_books f).bind fun _ => ?_
  refine (within_finishPre_of_books f).bind fun _ => ?_
  refine (within_presentImage_of_books f _).bind fun _ => ?_
  refine (within_enter_of_drawing _).bind fun _ => ?_
  refine (within_finishPost_of_books f).bind fun _ => ?_
  refine (within_enter_of_drawing _).bind fun _ => ?_
  exact within_ite hCount (within_throw _)

end World

end Synchronizer

end RenderLoop
