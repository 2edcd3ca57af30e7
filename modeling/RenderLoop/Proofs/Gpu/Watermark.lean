import RenderLoop.Proofs.Gpu.Passes

/-!
# RenderLoop — what a rebuild destroys and what it makes

Handles are given out in order, so a **mark** in that order tells apart what was
there before a rebuild and what the rebuild makes: everything destroyed is below
the mark, and an image belongs to a swapchain on the same side of it
(`Gpu.Marked`). What is above the mark is not destroyed (`Marked.alive`,
`Marked.image_alive`).

A device is **orderly** when its history and its swapchains mention only handles
that it gave out (`Gpu.Orderly`). Setting the mark to the next handle of an orderly
device is how a rebuild begins (`Orderly.marked`).

`Gpu.Remakes` is what the steps of a rebuild do to the setup buffer: they add
barriers on images that the rebuild has made.
-/

namespace RenderLoop.Gpu

open GpuHistory

/-- The history and the swapchains of a device mention handles that it gave out. -/
structure Orderly (g : Gpu) : Prop where
  pos : 0 < g.nextHandle
  destroyed : ∀ {kind x}, kind.isScreen = true → Destroyed g.history kind x → x < g.nextHandle
  listed : ∀ {chain images}, Listed g.history chain images → ∀ x ∈ images, x < g.nextHandle
  stock : ∀ p ∈ g.stock, p.1 < g.nextHandle ∧ ∀ x ∈ p.2, x < g.nextHandle

/-- What is destroyed is below the mark, and no swapchain has images on the other side of it. -/
structure Marked (mark : Handle) (g : Gpu) : Prop where
  pos : 0 < mark
  le : mark ≤ g.nextHandle
  destroyed : ∀ {kind x}, kind.isScreen = true → Destroyed g.history kind x → x < mark
  listed : ∀ {chain images}, Listed g.history chain images → chain < mark →
    ∀ x ∈ images, x < mark
  stock : ∀ p ∈ g.stock, mark ≤ p.1 → ∀ x ∈ p.2, mark ≤ x

variable {g g' : Gpu} {mark b x : Handle}

/-- A mark may be set at the next handle. -/
theorem Orderly.marked (h : g.Orderly) : g.Marked g.nextHandle where
  pos := h.pos
  le := Nat.le_refl _
  destroyed := h.destroyed
  listed hListed _ := h.listed hListed
  stock p hp hMark := absurd (h.stock p hp).1 (Nat.not_lt.mpr hMark)

/-- What is above the mark is not destroyed. -/
theorem Marked.alive (h : g.Marked mark) {kind : ObjectKind} (hKind : kind.isScreen = true)
    (hx : mark ≤ x) : ¬ Destroyed g.history kind x := by
  intro hDestroyed
  exact Nat.not_lt.mpr hx (h.destroyed hKind hDestroyed)

/-- An image above the mark is not gone, since its swapchain is above the mark as well. -/
theorem Marked.image_alive (h : g.Marked mark) (hx : mark ≤ x) : ¬ ImageGone g.history x := by
  -- the mark keeps a swapchain and its images on the same side
  rintro (hDestroyed | ⟨chain, images, hListed, hImage, hChain⟩)
  · exact h.alive rfl hx hDestroyed
  · exact Nat.not_lt.mpr hx (h.listed hListed (h.destroyed rfl hChain) x hImage)

/-- What spares the things that frames name leaves a device orderly. -/
theorem Orderly.of_spares (h : g.Orderly) (hSpares : g.Spares g') : g'.Orderly := by
  have hNext := hSpares.nextHandle
  refine ⟨Nat.lt_of_lt_of_le h.pos hNext, ?_, ?_, ?_⟩
  · intro kind x hKind hDestroyed
    exact Nat.lt_of_lt_of_le (h.destroyed hKind (hSpares.history.destroyed hKind hDestroyed)) hNext
  · intro chain images hListed x hx
    exact Nat.lt_of_lt_of_le (h.listed (hSpares.history.listed hListed) x hx) hNext
  · intro p hp
    rw [hSpares.stock] at hp
    obtain ⟨hChain, hImages⟩ := h.stock p hp
    exact ⟨Nat.lt_of_lt_of_le hChain hNext, fun x hx => Nat.lt_of_lt_of_le (hImages x hx) hNext⟩

/-- What spares the things that frames name leaves the mark where it is. -/
theorem Marked.of_spares (h : g.Marked mark) (hSpares : g.Spares g') : g'.Marked mark where
  pos := h.pos
  le := Nat.le_trans h.le hSpares.nextHandle
  destroyed hKind hDestroyed := h.destroyed hKind (hSpares.history.destroyed hKind hDestroyed)
  listed hListed := h.listed (hSpares.history.listed hListed)
  stock := by
    rw [hSpares.stock]
    exact h.stock

-- ---------------------------------------------------------------------------
-- Steps of a rebuild
-- ---------------------------------------------------------------------------

/-- A rebuild goes on: what it records into the setup buffer are barriers on its own images. -/
structure Remakes (b : Handle) (own : Handle → Prop) (g g' : Gpu) : Prop where
  suffix : g.history <:+ g'.history
  clean : Clean g.history → Clean g'.history
  nextHandle : g.nextHandle ≤ g'.nextHandle
  setting : g'.setting = g.setting
  recorded : ∃ cs, commands b g'.history = cs ++ commands b g.history ∧
    ∀ c ∈ cs, ∃ x t, c = .barrier x t ∧ own x

/-- Of two steps the later commands come first. -/
theorem Remakes.trans {own : Handle → Prop} {g'' : Gpu} (h : Remakes b own g g')
    (h' : Remakes b own g' g'') : Remakes b own g g'' := by
  obtain ⟨cs, hCs, hOwn⟩ := h.recorded
  obtain ⟨cs', hCs', hOwn'⟩ := h'.recorded
  refine ⟨h.suffix.trans h'.suffix, fun hClean => h'.clean (h.clean hClean),
    Nat.le_trans h.nextHandle h'.nextHandle, h'.setting.trans h.setting, cs' ++ cs, ?_, ?_⟩
  · rw [hCs', hCs, List.append_assoc]
  · intro c hc
    rcases List.mem_append.mp hc with hc | hc
    · exact hOwn' c hc
    · exact hOwn c hc

theorem Remakes.mono {own own' : Handle → Prop} (h : Remakes b own g g')
    (hOwn : ∀ x, own x → own' x) : Remakes b own' g g' := by
  obtain ⟨cs, hCs, hOwned⟩ := h.recorded
  refine ⟨h.suffix, h.clean, h.nextHandle, h.setting, cs, hCs, ?_⟩
  -- the barriers stay the same, and their images are in the wider set
  intro c hc
  obtain ⟨x, t, hc, hx⟩ := hOwned c hc
  exact ⟨x, t, hc, hOwn x hx⟩

/-- What passes by records nothing. -/
theorem Remakes.of_passes {own : Handle → Prop} (h : g.Passes g') : Remakes b own g g' :=
  ⟨h.history.suffix, h.history.clean, h.nextHandle, h.setting, [], h.history.commands b, nofun⟩

/-- A rebuild in progress, as far as the device is concerned. -/
structure Preparing (mark : Handle) (g : Gpu) : Prop where
  orderly : g.Orderly
  marked : g.Marked mark

theorem Preparing.of_passes (h : g.Preparing mark) (hPasses : g.Passes g') : g'.Preparing mark where
  orderly := h.orderly.of_spares hPasses.spares
  marked := h.marked.of_spares hPasses.spares

-- ---------------------------------------------------------------------------
-- Destroying
-- ---------------------------------------------------------------------------

/-- After a destruction, what is destroyed was so before or is the object. -/
theorem destroyed_of_destroyed_destroy {kind kind' : ObjectKind} {y : Handle}
    (h : Destroyed (g.destroy kind x).history kind' y) : y = x ∨ Destroyed g.history kind' y := by
  refine (destroyed_cons.mp h).imp_left ?_
  intro hEvent
  simp only [GpuEvent.destroyed?] at hEvent
  split at hEvent
  · cases hEvent
  · cases hEvent
    rfl

theorem destroyed_destroy {kind : ObjectKind} (hx : 0 < x) :
    Destroyed (g.destroy kind x).history kind x := by
  refine destroyed_cons.mpr (.inl ?_)
  simp only [GpuEvent.destroyed?, if_neg (Nat.ne_of_gt hx)]

theorem listed_of_listed_destroy {kind : ObjectKind} {chain : Handle} {images : List Handle}
    (h : Listed (g.destroy kind x).history chain images) : Listed g.history chain images :=
  (listed_cons.mp h).resolve_left nofun

theorem clean_destroy {kind : ObjectKind} (h : Clean g.history) :
    Clean (g.destroy kind x).history :=
  h.cons nofun

/-- Destroying what was given out leaves a device orderly. -/
theorem Orderly.destroy (h : g.Orderly) (kind : ObjectKind) (hx : x < g.nextHandle) :
    (g.destroy kind x).Orderly where
  pos := h.pos
  destroyed hKind hDestroyed := by
    rcases destroyed_of_destroyed_destroy hDestroyed with rfl | hBefore
    · exact hx
    · exact h.destroyed hKind hBefore
  listed hListed := h.listed (listed_of_listed_destroy hListed)
  stock := h.stock

/-- Destroying what is below the mark goes with a rebuild. -/
theorem Preparing.destroy (h : g.Preparing mark) (kind : ObjectKind) (hx : x < mark) :
    (g.destroy kind x).Preparing mark where
  orderly := h.orderly.destroy kind (Nat.lt_of_lt_of_le hx h.marked.le)
  marked := by
    refine ⟨h.marked.pos, h.marked.le, ?_, ?_, h.marked.stock⟩
    · intro kind y hKind hDestroyed
      rcases destroyed_of_destroyed_destroy hDestroyed with rfl | hBefore
      · exact hx
      · exact h.marked.destroyed hKind hBefore
    · exact fun hListed => h.marked.listed (listed_of_listed_destroy hListed)

/-- Destroying records nothing. -/
theorem remakes_destroy {own : Handle → Prop} (kind : ObjectKind) (x : Handle) (g : Gpu) :
    Remakes b own g (g.destroy kind x) :=
  ⟨List.suffix_cons _ _, clean_destroy, Nat.le_refl _, rfl, [], rfl, nofun⟩

theorem Preparing.destroyIfAny (h : g.Preparing mark) (kind : ObjectKind) (hx : x < mark) :
    (g.destroyIfAny kind x).Preparing mark := by
  rw [Gpu.destroyIfAny]
  split
  · exact h
  · exact h.destroy kind hx

theorem remakes_destroyIfAny {own : Handle → Prop} (kind : ObjectKind) (x : Handle) (g : Gpu) :
    Remakes b own g (g.destroyIfAny kind x) := by
  rw [destroyIfAny]
  split
  · exact .of_passes (.refl g)
  · exact remakes_destroy kind x g

/-- One after another. -/
theorem Preparing.destroyAll (h : g.Preparing mark) (kind : ObjectKind) {xs : List Handle}
    (hxs : ∀ x ∈ xs, x < mark) : (g.destroyAll kind xs).Preparing mark := by
  induction xs generalizing g with
  | nil => exact h
  | cons x rest ih =>
    exact ih (h.destroy kind (hxs x List.mem_cons_self))
      fun y hy => hxs y (List.mem_cons_of_mem x hy)

theorem remakes_destroyAll {own : Handle → Prop} (kind : ObjectKind) (xs : List Handle) (g : Gpu) :
    Remakes b own g (g.destroyAll kind xs) := by
  induction xs generalizing g with
  | nil => exact .of_passes (.refl g)
  | cons x rest ih => exact (remakes_destroy kind x g).trans (ih (g.destroy kind x))

-- ---------------------------------------------------------------------------
-- Barriers
-- ---------------------------------------------------------------------------

/-- A command is recorded into its buffer. -/
theorem commands_record_self (b : Handle) (c : GpuCommand) (g : Gpu) :
    commands b (g.happen (.record b c) .done).history = c :: commands b g.history := by
  simp only [happen, commands, if_pos]

/-- A command is recorded into no other buffer. -/
theorem commands_record_of_ne {b b' : Handle} (hb : b' ≠ b) (c : GpuCommand) (g : Gpu) :
    commands b (g.happen (.record b' c) .done).history = commands b g.history := by
  simp only [happen, commands, if_neg hb]

theorem spares_record (b : Handle) (c : GpuCommand) (g : Gpu) :
    g.Spares (g.happen (.record b c) .done) :=
  goes_happen (spares_cons rfl _)

theorem clean_record {c : GpuCommand} (h : Clean g.history) :
    Clean (g.happen (.record b c) .done).history :=
  h.cons nofun

theorem Preparing.record (h : g.Preparing mark) (c : GpuCommand) :
    (g.happen (.record b c) .done).Preparing mark :=
  ⟨h.orderly.of_spares (spares_record b c g), h.marked.of_spares (spares_record b c g)⟩

/-- A barrier on an image of its own is what a rebuild records. -/
theorem remakes_record {own : Handle → Prop} (t : ImageTransition) (hx : own x) (g : Gpu) :
    Remakes b own g (g.happen (.record b (.barrier x t)) .done) := by
  refine ⟨List.suffix_cons _ _, clean_record, Nat.le_refl _, rfl, [.barrier x t], ?_, ?_⟩
  · exact commands_record_self b _ g
  · intro c hc
    exact ⟨x, t, List.mem_singleton.mp hc, hx⟩

-- ---------------------------------------------------------------------------
-- Refusals
-- ---------------------------------------------------------------------------

/-- Only a fault has a call refused. -/
theorem faults_of_refusal {call : String} {code : ResultCode}
    (h : g.refusal? call = some code) : g.faults ≠ [] := by
  intro hFaults
  simp only [refusal?, hFaults, List.find?_nil, Option.map_none] at h
  cases h

/-- A refused call is routine, unless it is a submission. -/
theorem passes_refused {α : Type} {call : GpuCall} {effect : Gpu → α × GpuOutcome × Gpu}
    {code : ResultCode} (hFailed : ∀ code, GpuEvent.isRoutine ⟨call, .failed code⟩ = true)
    (h : attempt call effect g = (.error code, g')) : g.Passes g' ∧ g.faults ≠ [] := by
  obtain ⟨hRefusal, rfl⟩ := attempt_error h
  exact ⟨(passes_count _ g).trans (passes_happen (hFailed code) _), faults_of_refusal hRefusal⟩

/-- A new object has the next handle. -/
theorem create_ok {creation : Creation} (hKind : creation.kind ≠ .swapchain)
    (h : create creation g = (.ok x, g')) :
    x = g.nextHandle ∧ g.Passes g' ∧ g.nextHandle < g'.nextHandle := by
  have hPasses : g.Passes g' := by
    have h' : Passes g (create creation g).2 := routine_create hKind g
    rw [h] at h'
    exact h'
  obtain ⟨rfl, rfl⟩ := attempt_ok h
  refine ⟨rfl, hPasses, ?_⟩
  cases creation <;> first | exact Nat.lt_succ_self _ | exact absurd rfl hKind

-- ---------------------------------------------------------------------------
-- Swapchains
-- ---------------------------------------------------------------------------

/-- A new swapchain has the next handle, and its images have those after it. -/
theorem create_swapchain_ok {request : SwapchainRequest}
    (h : create (.swapchain request) g = (.ok x, g')) :
    x = g.nextHandle ∧ g.nextHandle < g'.nextHandle ∧ g'.setting = g.setting ∧
      GpuHistory.Passes g.history g'.history ∧
      ∃ count, g'.stock = (x, List.range' (x + 1) count) :: g.stock ∧
        x + 1 + count ≤ g'.nextHandle := by
  obtain ⟨rfl, rfl⟩ := attempt_ok h
  refine ⟨rfl, ?_, rfl, passes_cons rfl _, _, rfl, Nat.le_refl _⟩
  exact Nat.lt_of_lt_of_le (Nat.lt_succ_self _) (Nat.le_add_right _ _)

/-- A new swapchain and its images are above the mark. -/
theorem Preparing.create_swapchain (h : g.Preparing mark) {request : SwapchainRequest}
    (hCreate : create (.swapchain request) g = (.ok x, g')) :
    g'.Preparing mark ∧ Remakes b (fun _ => False) g g' ∧ mark ≤ x ∧ x < g'.nextHandle := by
  obtain ⟨rfl, hNext, hSetting, hHistory, count, hStock, hCount⟩ := create_swapchain_ok hCreate
  have hLe := Nat.le_of_lt hNext
  refine ⟨⟨⟨Nat.lt_of_lt_of_le h.orderly.pos hLe, ?_, ?_, ?_⟩,
    ⟨h.marked.pos, Nat.le_trans h.marked.le hLe, ?_, ?_, ?_⟩⟩,
    ⟨hHistory.suffix, hHistory.clean, hLe, hSetting, [], hHistory.commands b, nofun⟩, h.marked.le, hNext⟩
  · intro kind y hKind hDestroyed
    exact Nat.lt_of_lt_of_le (h.orderly.destroyed hKind (hHistory.destroyed hKind hDestroyed)) hLe
  · intro chain images hListed y hy
    exact Nat.lt_of_lt_of_le (h.orderly.listed (hHistory.listed hListed) y hy) hLe
  · rw [hStock]
    intro p hp
    -- the new chain, whose images have the handles right after its own; or one of the old
    rcases List.mem_cons.mp hp with rfl | hp
    · refine ⟨hNext, fun y hy => ?_⟩
      have hy' := (List.mem_range'_1.mp hy).2
      exact Nat.lt_of_lt_of_le hy' hCount
    · obtain ⟨hChain, hImages⟩ := h.orderly.stock p hp
      exact ⟨Nat.lt_of_lt_of_le hChain hLe, fun y hy => Nat.lt_of_lt_of_le (hImages y hy) hLe⟩
  · exact fun hKind hDestroyed => h.marked.destroyed hKind (hHistory.destroyed hKind hDestroyed)
  · exact fun hListed => h.marked.listed (hHistory.listed hListed)
  · rw [hStock]
    intro p hp hMark y hy
    rcases List.mem_cons.mp hp with rfl | hp
    · have hy' := (List.mem_range'_1.mp hy).1
      exact Nat.le_trans (Nat.le_succ_of_le hMark) hy'
    · exact h.marked.stock p hp hMark y hy

/-- The images of a swapchain are those it was made with. -/
theorem stock_of_chain? {chain : SimulatedChain} (h : g.chain? x = some chain) :
    (x, chain.images) ∈ g.stock := by
  have hMem := List.mem_of_find?_eq_some h
  have hHandle := List.find?_some h
  rw [beq_iff_eq] at hHandle
  rw [← hHandle]
  exact List.mem_map.mpr ⟨chain, hMem, rfl⟩

/-- A question for images that is refused was refused by a fault. -/
theorem swapchainImages_error {code : ResultCode}
    (h : swapchainImages x g = (.error code, g')) : g.Passes g' ∧ g.faults ≠ [] := by
  rw [swapchainImages] at h
  split at h
  · rename_i hAsk
    cases h
    obtain ⟨hRefusal, rfl⟩ := ask_error hAsk
    exact ⟨passes_count _ g, faults_of_refusal hRefusal⟩
  · cases h

/-- The images that are answered for a swapchain are those there are. -/
theorem swapchainImages_ok {images : List Handle}
    (h : swapchainImages x g = (.ok images, g')) :
    images = ((g.chain? x).map (·.images)).getD [] ∧
      g' = (g.count (GpuCall.swapchainImages x).name).happen (.swapchainImages x)
        (.handles images) := by
  rw [swapchainImages] at h
  split at h
  · cases h
  · rename_i hAsk
    obtain ⟨-, rfl⟩ := ask_ok hAsk
    cases h
    exact ⟨rfl, rfl⟩

/-- Images that were given out may be found. -/
theorem Orderly.listed_more (h : g.Orderly) {images : List Handle}
    (hImages : ∀ y ∈ images, y < g.nextHandle) :
    (g.happen (.swapchainImages x) (.handles images)).Orderly where
  pos := h.pos
  destroyed hKind hDestroyed := h.destroyed hKind (destroyed_of_cons rfl hDestroyed)
  listed hListed y hy := by
    rcases listed_cons.mp hListed with hEvent | hBefore
    · cases hEvent
      exact hImages y hy
    · exact h.listed hBefore y hy
  stock := h.stock

/-- A mark stays where the images of a swapchain above it are found. -/
theorem Marked.listed_more (h : g.Marked mark) (hx : mark ≤ x) (images : List Handle) :
    (g.happen (.swapchainImages x) (.handles images)).Marked mark where
  pos := h.pos
  le := h.le
  destroyed hKind hDestroyed := h.destroyed hKind (destroyed_of_cons rfl hDestroyed)
  listed hListed hChain := by
    rcases listed_cons.mp hListed with hEvent | hBefore
    · cases hEvent
      exact absurd hChain (Nat.not_lt.mpr hx)
    · exact h.listed hBefore hChain
  stock := h.stock

/-- Finding images records nothing. -/
theorem remakes_listed {own : Handle → Prop} (images : List Handle) (g : Gpu) :
    Remakes b own g (g.happen (.swapchainImages x) (.handles images)) :=
  ⟨List.suffix_cons _ _, fun hClean => hClean.cons nofun, Nat.le_refl _, rfl, [], rfl,
    List.forall_mem_nil _⟩

/-- What finding the images of a new swapchain says. -/
theorem Preparing.swapchainImages (h : g.Preparing mark) {images : List Handle} (hx : mark ≤ x)
    (hImages : Gpu.swapchainImages x g = (.ok images, g')) :
    g'.Preparing mark ∧ Remakes b (fun _ => False) g g' ∧ Listed g'.history x images ∧
      ∀ y ∈ images, mark ≤ y := by
  obtain ⟨hFound, rfl⟩ := swapchainImages_ok hImages
  have hCounted := h.of_passes (passes_count (GpuCall.swapchainImages x).name g)
  -- an unknown swapchain has no images, a known one those it was made with
  have hStock : ∀ y ∈ images, mark ≤ y ∧ y < g.nextHandle := by
    intro y hy
    rw [hFound] at hy
    cases hChain : g.chain? x with
    | none =>
      rw [hChain] at hy
      cases hy
    | some chain =>
      rw [hChain] at hy
      have hMem := stock_of_chain? hChain
      exact ⟨h.marked.stock _ hMem hx y hy, (h.orderly.stock _ hMem).2 y hy⟩
  refine ⟨⟨hCounted.orderly.listed_more fun y hy => (hStock y hy).2,
    hCounted.marked.listed_more hx images⟩, ?_, listed_cons.mpr (.inl rfl),
    fun y hy => (hStock y hy).1⟩
  exact (Remakes.of_passes (passes_count _ g)).trans (remakes_listed images _)

end RenderLoop.Gpu
