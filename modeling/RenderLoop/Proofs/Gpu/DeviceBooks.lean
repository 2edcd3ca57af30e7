import RenderLoop.Proofs.Gpu.Frames
import RenderLoop.Proofs.Gpu.FrameBooks
import RenderLoop.Proofs.Gpu.ScreenEstate

/-!
# RenderLoop — frames on a device

The books of a device that frames are made on (`GpuDevice.Books`), and those of a scene, in
which there is a swapchain as well (`Scene.Books`). Beside what the frame machine answers
for there is a **rest** that others do, with the command pool in it. In a scene, whatever
the commands of frames refer to is in the rest as well (`FrameTargets.Backed`).

Images are not in an estate. That they came with a swapchain is in the **past** of the
device, which is the end of its history.
-/

namespace RenderLoop

open GpuHistory Op Estate

-- ---------------------------------------------------------------------------
-- Targets
-- ---------------------------------------------------------------------------

/-- What the commands of frames refer to is there; images may come with a swapchain. -/
structure FrameTargets.Backed (t : FrameTargets) (rest : Estate) (past : GpuHistory) : Prop where
  pass : rest.Has .renderPass t.pass
  framebuffers : ∀ x ∈ t.framebuffers, rest.Has .framebuffer x
  images : ∀ x ∈ t.images, ∃ chain images, .object .swapchain chain ∈ rest ∧
    Listed past chain images ∧ x ∈ images
  depthImage : rest.Has .image t.depthImage

variable {d : GpuDevice} {past : GpuHistory} {rest xs : Estate}

/-- A command of frames becomes one of the device that names only what is there. -/
theorem FrameTargets.Backed.permits_resolve {t : FrameTargets} {g : Gpu}
    (hBacked : t.Backed rest past) (hLends : g.Lends (xs + rest)) (hPast : past <:+ g.history)
    {c : Command} {c' : GpuCommand} (hResolve : GpuDevice.resolve t c = .ok c') :
    ∀ m ∈ c'.mentions, Permits g.history m := by
  have hObject : ∀ {kind x}, rest.Has kind x → Permits g.history (.object kind x) :=
    fun h => hLends.permits_object (h.right _)
  rw [GpuDevice.resolve.eq_def] at hResolve
  split at hResolve
  · cases hResolve
    exact List.forall_mem_nil _
  · cases hResolve
    exact List.forall_mem_nil _
  · split at hResolve
    · rename_i hFramebuffer
      cases hResolve
      exact List.forall_mem_cons.mpr ⟨hObject hBacked.pass, List.forall_mem_singleton.mpr
        (hObject (hBacked.framebuffers _ (List.mem_of_getElem? hFramebuffer)))⟩
    · cases hResolve
  · cases hResolve
    exact List.forall_mem_nil _
  · split at hResolve
    · rename_i image _ _ x hImage
      cases hResolve
      refine List.forall_mem_singleton.mpr ?_
      -- an image of the swapchain, or the depth image
      cases image with
      | swapchain index =>
        obtain ⟨chain, images, hChain, hListed, hx⟩ :=
          hBacked.images x (List.mem_of_getElem? hImage)
        exact hLends.permits_listed (Multiset.mem_add.mpr (.inr hChain)) (hListed.of_suffix hPast) hx
      | depthStencil =>
        rw [FrameTargets.image?] at hImage
        split at hImage
        · cases hImage
        · cases hImage
          exact hLends.permits_image (hBacked.depthImage.right _)
    · cases hResolve

-- ---------------------------------------------------------------------------
-- The device
-- ---------------------------------------------------------------------------

namespace GpuDevice

/-- The device lends what somebody answers for, and the rest. -/
structure Books (d : GpuDevice) (rest xs : Estate) (w : GpuDevice × Host) : Prop where
  device : w.1 = d
  pool : .object .commandPool d.pool ∈ rest
  lends : w.2.gpu.Lends (xs + rest)

variable {w : GpuDevice × Host} {ys : Estate} {b : CommandBuffer}

theorem Books.mem_pool (h : Books d rest xs w) : .object .commandPool d.pool ∈ xs + rest :=
  Multiset.mem_add.mpr (.inr h.pool)

/-- A buffer that is answered for may be named. -/
theorem Books.permits_buffer (h : Books d rest xs w) (hb : .commandBuffer d.pool b.handle ∈ xs) :
    Permits w.2.gpu.history (.commandBuffer b.handle) :=
  h.lends.permits_buffer h.mem_pool (Multiset.mem_add.mpr (.inl hb))

/-- What comes of a call on the device. -/
theorem ensures_invoke_of_does {α : Type} (name : String) {step : GpuStep α} {ok : α → Gpu → Prop}
    {fail : Gpu → Prop} (hDoes : Gpu.Does step w.2.gpu ok fail) :
    (invoke name step).Ensures w (fun a t => ok a t.2.gpu ∧ t.1 = w.1)
      (fun _ t => fail t.2.gpu ∧ t.1 = w.1) := by
  rw [invoke, Op.onHost, ensures_onSecond]
  exact (Host.ensures_invoke_of_does component name hDoes).mono (fun _ _ h => ⟨h, rfl⟩)
    fun _ _ h => ⟨h, rfl⟩

/-- What the device lends may change, as long as the rest stays. -/
theorem Books.of_lends {t : GpuDevice × Host} (h : Books d rest xs w) (hDevice : t.1 = w.1)
    (hLends : t.2.gpu.Lends (ys + rest)) : Books d rest ys t where
  device := hDevice.trans h.device
  pool := h.pool
  lends := hLends

/-- A call that only mentions things keeps the books. -/
theorem Books.ensures_perform (h : Books d rest xs w) {call : GpuCall}
    (hMentions : ∀ m ∈ call.mentions, Permits w.2.gpu.history m)
    (hFailed : ∀ code, GpuEvent.Idle ⟨call, .failed code⟩ := by exact fun _ => ⟨rfl, rfl, rfl⟩)
    (hDone : GpuEvent.Idle ⟨call, .done⟩ := by exact ⟨rfl, rfl, rfl⟩) :
    (perform call).Ensures w (fun _ t => Books d rest xs t) (fun _ t => Books d rest xs t) := by
  have hDoes := h.lends.does_perform hMentions hFailed hDone
  refine (ensures_invoke_of_does call.name hDoes).mono ?_ ?_
  · exact fun _ _ h' => h.of_lends h'.2 h'.1
  · exact fun _ _ h' => h.of_lends h'.2 h'.1

/-- A new semaphore is answered for by the one who asked for it. -/
theorem Books.ensures_createSemaphore (h : Books d rest xs w) :
    (FrameDevice.createSemaphore : Op (GpuDevice × Host) Semaphore).Ensures w
      (fun x t => Books d rest (object .semaphore x.handle + xs) t)
      (fun _ t => Books d rest xs t) := by
  show (do return ⟨← invoke "vkCreateSemaphore" (Gpu.create .semaphore)⟩ :
    Op (GpuDevice × Host) Semaphore).Ensures w _ _
  rw [ensures_bind]
  refine (ensures_invoke_of_does _ (h.lends.does_create (c := .semaphore)
    (List.forall_mem_nil _))).mono (fun x t hMade => ?_) fun _ _ h' => h.of_lends h'.2 h'.1
  rw [ensures_pure]
  refine h.of_lends hMade.2 ?_
  rw [add_assoc]
  exact hMade.1.2

/-- New command buffers are answered for by the one who asked for them. -/
theorem Books.ensures_allocate (h : Books d rest xs w) (count : UInt32) :
    (allocate count).Ensures w
      (fun bs t => bs.length = count.toNat ∧ Books d rest (buffers d.pool bs + xs) t)
      (fun _ t => Books d rest xs t) := by
  rw [allocate, ensures_bind, ensures_log, ensures_bind, ensures_get, ensures_bind]
  -- the request is logged first, which is no matter of the books
  generalize hLogged : Logging.push _ w = w'
  have hAfter : Books d rest xs w' := hLogged ▸ h.of_lends rfl h.lends
  have hPool : w'.1.pool = d.pool := congrArg GpuDevice.pool hAfter.device
  rw [hPool]
  refine (ensures_invoke_of_does _ (hAfter.lends.does_allocateBuffers hAfter.mem_pool count)).mono
    (fun hs t hMade => ?_) fun _ _ h' => hAfter.of_lends h'.2 h'.1
  rw [ensures_pure]
  refine ⟨(List.length_map _).trans hMade.1.1, hAfter.of_lends hMade.2 ?_⟩
  rw [add_assoc]
  exact hMade.1.2

/-- Buffers that are freed are not answered for any more. -/
theorem Books.free {bs : List CommandBuffer} (h : Books d rest (buffers d.pool bs + xs) w) :
    Books d rest xs (free bs w) := by
  have hLends := h.lends
  rw [add_assoc] at hLends
  rw [GpuDevice.free]
  -- nothing is freed where there is nothing to free
  split
  · rename_i hNone
    rw [List.isEmpty_iff.mp hNone, buffers_nil, zero_add] at hLends
    exact h.of_lends rfl hLends
  · have hPool : w.1.pool = d.pool := congrArg GpuDevice.pool h.device
    rw [hPool]
    exact h.of_lends rfl (hLends.free (Multiset.mem_add.mpr (.inr h.pool)))

instance : Bookkeeping d.pool (Books d rest) where
  push h := h.of_lends rfl h.lends
  createSemaphore h := h.ensures_createSemaphore
  destroySemaphore h := by
    have hLends := h.lends
    rw [add_assoc] at hLends
    exact h.of_lends rfl hLends.destroy
  allocate count h := h.ensures_allocate count
  free h := h.free
  reset hb h := h.ensures_perform (List.forall_mem_singleton.mpr (h.permits_buffer hb))
  beginBuffer hb h := h.ensures_perform (List.forall_mem_singleton.mpr (h.permits_buffer hb))
  endBuffer hb h := h.ensures_perform (List.forall_mem_singleton.mpr (h.permits_buffer hb))
  submit := by
    intro xs w b waits signals hb hWaits hSignals h
    refine h.ensures_perform (List.forall_mem_cons.mpr ⟨h.permits_buffer hb,
      h.lends.permits_objects fun x hx => ?_⟩)
    rw [List.map_map, List.mem_append, List.mem_map, List.mem_map] at hx
    rcases hx with ⟨p, hp, rfl⟩ | ⟨y, hy, rfl⟩
    · exact (hWaits p hp).left _
    · exact (hSignals y hy).left _
  waitQueue h := h.ensures_perform (List.forall_mem_nil _)

end GpuDevice

-- ---------------------------------------------------------------------------
-- The scene
-- ---------------------------------------------------------------------------

namespace Scene

/-- The swapchain stays but for the image acquired last. It is in the rest, and so is what the
commands of frames refer to. -/
structure Books (c : Swapchain) (d : GpuDevice) (past : GpuHistory) (rest xs : Estate) (w : Scene) :
    Prop where
  chain : ∃ i, w.1 = { c with current := i }
  has : rest.Has .swapchain c.handle
  targets : d.targets.Backed rest past
  past : past <:+ w.gpu.history
  device : GpuDevice.Books d rest xs w.2

variable {c : Swapchain} {w : Scene} {ys : Estate} {α : Type} {b : CommandBuffer}

/-- The books of a scene are those of its device, and what is in the rest stays there. -/
theorem Books.of_device (h : Books c d past rest xs w) {v : GpuDevice × Host}
    (hDevice : GpuDevice.Books d rest ys v) (hGrowing : Growing w.2 v) :
    Books c d past rest ys (w.1, v) where
  chain := h.chain
  has := h.has
  targets := h.targets
  past := h.past.trans hGrowing.history
  device := hDevice

theorem Books.push (h : Books c d past rest xs w) (e : LogEntry) :
    Books c d past rest xs (Logging.push e w) :=
  h.of_device (h.device.of_lends rfl h.device.lends) (Steady.push e w.2)

/-- The swapchain is still the same. -/
theorem Books.handle_eq (h : Books c d past rest xs w) : w.1.handle = c.handle := by
  obtain ⟨i, hChain⟩ := h.chain
  rw [hChain]

/-- A command that there is none of the device for is only logged. -/
theorem Books.record (h : Books c d past rest xs w) (hb : .commandBuffer d.pool b.handle ∈ xs)
    (command : Command) : Books c d past rest xs (w.1, GpuDevice.record b command w.2) := by
  have hTargets : w.2.1.targets = d.targets := congrArg GpuDevice.targets h.device.device
  refine h.of_device ?_ (GpuDevice.along_record b command w.2)
  rw [GpuDevice.record]
  split
  · rename_i hResolve
    rw [hTargets] at hResolve
    exact h.device.of_lends rfl (h.device.lends.record
      ⟨d.pool, Multiset.mem_add.mpr (.inl hb), h.device.mem_pool⟩
      (h.targets.permits_resolve h.device.lends h.past hResolve))
  · exact h.device.of_lends rfl h.device.lends

/-- What is done with the device alone. -/
theorem Books.onSecond (h : Books c d past rest xs w) {op : Op (GpuDevice × Host) α}
    {zs : α → Estate} (hGrowing : op.Within Growing)
    (hOp : op.Ensures w.2 (fun a v => GpuDevice.Books d rest (zs a) v)
      (fun _ v => GpuDevice.Books d rest xs v)) :
    (op.onSecond : Op Scene α).Ensures w (fun a t => Books c d past rest (zs a) t)
      (fun _ t => Books c d past rest xs t) := by
  rw [ensures_onSecond]
  exact (hOp.and (hGrowing w.2)).mono (fun _ _ h' => h.of_device h'.1 h'.2)
    fun _ _ h' => h.of_device h'.1 h'.2

/-- A failure after an answer of the device. -/
theorem Books.ensures_fail (h : Books c d past rest xs w) (code : ResultCode) (source call : String)
    {ok : α → Scene → Prop} :
    (code.fail source call : Op Scene α).Ensures w ok (fun _ t => Books c d past rest xs t) := by
  refine ensures_failing code source call w ?_
  intro _ _ hLogged
  exact hLogged.keeps (fun e _ h => h.push e) h

/-- An acquisition names the chain and its semaphore, and may change whose turn it is. -/
theorem Books.ensures_acquire (h : Books c d past rest xs w) {signal : Semaphore}
    (hSignal : xs.Has .semaphore signal.handle) :
    (Swapchain.acquire signal).Ensures w (fun _ t => Books c d past rest xs t)
      (fun _ t => Books c d past rest xs t) := by
  obtain ⟨c', v⟩ := w
  have hAcquired : Books c d past rest xs
      (c', v.1, { v.2 with gpu := (v.2.gpu.acquire c'.handle signal.handle).2 }) := by
    have hHandle : c'.handle = c.handle := h.handle_eq
    rw [hHandle]
    exact h.of_device
      (h.device.of_lends rfl (h.device.lends.acquire (h.has.right _) (hSignal.left _)))
      (Gpu.routine_acquire _ _ v.2.gpu)
  -- the image that is handed out is all that changes of the chain
  have hDone : ∀ {t : Scene} (index : UInt32), Books c d past rest xs t →
      (do change fun s => ({ s.1 with current := index }, s.2)
          pure index : Op Scene UInt32).Ensures t (fun _ u => Books c d past rest xs u)
        (fun _ u => Books c d past rest xs u) := by
    intro t index h
    obtain ⟨i, hChain⟩ := h.chain
    rw [ensures_bind, ensures_change, ensures_pure, hChain]
    exact ⟨⟨index, rfl⟩, h.has, h.targets, h.past, h.device⟩
  simp only [Swapchain.acquire, ensures_bind, ensures_get, Op.onHost, ensures_onSecond, Host.call,
    ensures_act]
  generalize v.2.gpu.acquire c'.handle signal.handle = answer at hAcquired ⊢
  obtain ⟨⟨index, code⟩, g⟩ := answer
  -- suboptimal, failing or successful
  refine ensures_ite (fun _ => ?_) fun _ => ensures_ite (fun _ => ?_) fun _ => ?_
  · rw [ensures_bind, ensures_log]
    exact hDone index (hAcquired.push _)
  · rw [ensures_bind]
    exact hAcquired.ensures_fail _ _ _
  · exact hDone index hAcquired

/-- A presentation names the chain and what it waits for. -/
theorem Books.ensures_present (h : Books c d past rest xs w) (index : UInt32)
    {waits : List Semaphore} (hWaits : ∀ x ∈ waits, xs.Has .semaphore x.handle) :
    (Swapchain.present index waits).Ensures w (fun _ t => Books c d past rest xs t)
      (fun _ t => Books c d past rest xs t) := by
  obtain ⟨c', v⟩ := w
  have hPresented : Books c d past rest xs
      (c', v.1, { v.2 with gpu := (v.2.gpu.present (waits.map (·.handle)) c'.handle index).2 }) := by
    have hHandle : c'.handle = c.handle := h.handle_eq
    rw [hHandle]
    refine h.of_device (h.device.of_lends rfl (h.device.lends.present (h.has.right _)
      (fun x hx => ?_) index)) (Gpu.routine_present _ _ _ v.2.gpu)
    obtain ⟨y, hy, rfl⟩ := List.mem_map.mp hx
    exact (hWaits y hy).left _
  simp only [Swapchain.present, ensures_bind, ensures_get, Op.onHost, ensures_onSecond, Host.call,
    ensures_act]
  -- all three outcomes leave the device as it is after the call
  refine ensures_ite (fun _ => ?_) fun _ => ensures_ite (fun _ => ?_) fun _ => ?_
  · rw [ensures_log]
    exact hPresented.push _
  · exact hPresented.ensures_fail _ _ _
  · rw [ensures_pure]
    exact hPresented

instance : ChainBookkeeping d.pool (Books c d past rest) where
  push h := h.push _
  createSemaphore h := h.onSecond
    ((GpuDevice.within_invoke _ (Gpu.grows_create _)).bind fun _ => within_pure _)
    h.device.ensures_createSemaphore
  destroySemaphore h :=
    h.of_device (Bookkeeping.destroySemaphore h.device) (Gpu.grows_happen _ _ _)
  allocate count h := by
    show (GpuDevice.allocate count).onSecond.Ensures _ _ _
    rw [ensures_onSecond]
    exact ((h.device.ensures_allocate count).and (GpuDevice.within_allocate count _)).mono
      (fun _ _ h' => ⟨h'.1.1, h.of_device h'.1.2 h'.2⟩) fun _ _ h' => h.of_device h'.1 h'.2
  free h := h.of_device h.device.free (GpuDevice.along_free _ _)
  reset hb h := h.onSecond (Steadfast.reset _) (Bookkeeping.reset hb h.device)
  beginBuffer hb h := h.onSecond (Steadfast.beginBuffer _) (Bookkeeping.beginBuffer hb h.device)
  endBuffer hb h := h.onSecond (Steadfast.endBuffer _) (Bookkeeping.endBuffer hb h.device)
  submit hb hWaits hSignals h := h.onSecond (Steadfast.submit _ _ _)
    (Bookkeeping.submit hb hWaits hSignals h.device)
  waitQueue h := h.onSecond Steadfast.waitQueue (Bookkeeping.waitQueue h.device)
  record command hb h := h.record hb command
  acquire hSignal h := h.ensures_acquire hSignal
  present index _ hWaits h := h.ensures_present index hWaits

end Scene

end RenderLoop
