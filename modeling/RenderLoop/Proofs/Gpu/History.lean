import RenderLoop.Gpu.Simulation

/-!
# RenderLoop — what the history of a device says

Whether a submission is sound can be read off the **history** alone: which objects
were destroyed before it, which images belong to which swapchain, and which
commands were in the buffer.

A command **dangles** when it names an image, a framebuffer or a render pass that
was destroyed; an image of a swapchain is destroyed with that (`Dangles`). A buffer
is **submittable** when none of its commands dangles and no render pass ends in it
that did not begin there (`Submittable`). A history is **clean** when every buffer
was submittable at the time it was submitted (`Clean`).
-/

namespace RenderLoop

/-- What happened to a device, newest first. -/
abbrev GpuHistory := List GpuEvent

/-- The kinds of objects that the commands of frames name, and what brings them along. -/
def ObjectKind.isScreen : ObjectKind → Bool
  | .swapchain | .image | .renderPass | .framebuffer => true
  | _ => false

namespace GpuHistory

-- ---------------------------------------------------------------------------
-- Objects
-- ---------------------------------------------------------------------------

/-- An object was destroyed. -/
def Destroyed (h : GpuHistory) (kind : ObjectKind) (x : Handle) : Prop :=
  ∃ e ∈ h, e.destroyed? = some (kind, x)

/-- A swapchain was found to have these images. -/
def Listed (h : GpuHistory) (chain : Handle) (images : List Handle) : Prop :=
  ⟨.swapchainImages chain, .handles images⟩ ∈ h

/-- An image was destroyed, by itself or with its swapchain. -/
def ImageGone (h : GpuHistory) (x : Handle) : Prop :=
  h.Destroyed .image x ∨
    ∃ chain images, h.Listed chain images ∧ x ∈ images ∧ h.Destroyed .swapchain chain

/-- A command names something that was destroyed. -/
def Dangles (h : GpuHistory) : GpuCommand → Prop
  | .beginRenderPass pass framebuffer _ _ =>
    h.Destroyed .renderPass pass ∨ h.Destroyed .framebuffer framebuffer
  | .barrier image _ => h.ImageGone image
  | _ => False

-- ---------------------------------------------------------------------------
-- Buffers
-- ---------------------------------------------------------------------------

/-- The commands in a buffer, newest first. Beginning and resetting a buffer empty it. -/
def commands (b : Handle) : GpuHistory → List GpuCommand
  | [] => []
  | e :: before =>
    match e.call, e.outcome with
    | .record b' c, _ => if b' = b then c :: commands b before else commands b before
    | .beginBuffer b', .done => if b' = b then [] else commands b before
    | .resetBuffer b', .done => if b' = b then [] else commands b before
    | _, _ => commands b before

/-- Whether a render pass is open after commands, newest first. -/
def inPass : List GpuCommand → Bool
  | [] => false
  | .beginRenderPass _ _ _ _ :: _ => true
  | .endRenderPass :: _ => false
  | _ :: before => inPass before

/-- Every render pass that ends among commands, newest first, began among them. -/
def Paired : List GpuCommand → Prop
  | [] => True
  | .endRenderPass :: before => inPass before = true ∧ Paired before
  | _ :: before => Paired before

/-- A buffer can be submitted. -/
structure Submittable (h : GpuHistory) (b : Handle) : Prop where
  named : ∀ c ∈ h.commands b, ¬ h.Dangles c
  paired : Paired (h.commands b)

/-- A buffer can be submitted once its render pass has ended. -/
structure Finishable (h : GpuHistory) (b : Handle) : Prop where
  named : ∀ c ∈ h.commands b, ¬ h.Dangles c
  paired : Paired (.endRenderPass :: h.commands b)

/-- Whatever was submitted could be. -/
def Clean : GpuHistory → Prop
  | [] => True
  | e :: before =>
    (∀ b waits signals, e.call = .submit b waits signals → Submittable before b) ∧ Clean before

/-- The two conditions on a buffer that can be submitted. -/
theorem submittable_iff {h : GpuHistory} {b : Handle} :
    Submittable h b ↔ (∀ c ∈ h.commands b, ¬ h.Dangles c) ∧ Paired (h.commands b) := by
  constructor
  · rintro ⟨hNamed, hPaired⟩
    exact ⟨hNamed, hPaired⟩
  · rintro ⟨hNamed, hPaired⟩
    exact ⟨hNamed, hPaired⟩

theorem finishable_iff {h : GpuHistory} {b : Handle} :
    Finishable h b ↔ (∀ c ∈ h.commands b, ¬ h.Dangles c) ∧ Paired (.endRenderPass :: h.commands b) := by
  constructor
  · rintro ⟨hNamed, hPaired⟩
    exact ⟨hNamed, hPaired⟩
  · rintro ⟨hNamed, hPaired⟩
    exact ⟨hNamed, hPaired⟩

-- ---------------------------------------------------------------------------
-- One more event
-- ---------------------------------------------------------------------------

variable {h : GpuHistory} {e : GpuEvent} {kind : ObjectKind} {x : Handle}

theorem destroyed_cons : Destroyed (e :: h) kind x ↔
    e.destroyed? = some (kind, x) ∨ h.Destroyed kind x := by
  simp only [Destroyed, List.mem_cons, or_and_right, exists_or, exists_eq_left]

theorem listed_cons {chain : Handle} {images : List Handle} : Listed (e :: h) chain images ↔
    e = ⟨.swapchainImages chain, .handles images⟩ ∨ h.Listed chain images := by
  rw [Listed, List.mem_cons, eq_comm]
  exact Iff.rfl

/-- An event that destroys nothing leaves what is destroyed. -/
theorem destroyed_of_cons (hEvent : e.destroyed? = none) (hDestroyed : Destroyed (e :: h) kind x) :
    h.Destroyed kind x := by
  rcases destroyed_cons.mp hDestroyed with hNow | hBefore
  · rw [hEvent] at hNow
    cases hNow
  · exact hBefore

/-- Only a submission can spoil a clean history. -/
theorem Clean.cons (hClean : Clean h)
    (hCall : ∀ b waits signals, e.call ≠ .submit b waits signals) : Clean (e :: h) :=
  ⟨fun b waits signals hSubmit => absurd hSubmit (hCall b waits signals), hClean⟩

/-- A history does not get clean again. -/
theorem Clean.of_suffix {h' : GpuHistory} (hClean : Clean h') (hSuffix : h <:+ h') : Clean h := by
  induction h' with
  | nil =>
    rw [List.suffix_nil.mp hSuffix]
    exact trivial
  | cons e before ih =>
    rcases List.suffix_cons_iff.mp hSuffix with rfl | hBefore
    · exact hClean
    · exact ih hClean.2 hBefore

/-- What was destroyed is destroyed ever after. -/
theorem Destroyed.of_suffix {h' : GpuHistory} (hDestroyed : h.Destroyed kind x)
    (hSuffix : h <:+ h') : Destroyed h' kind x := by
  obtain ⟨e, he, hKind⟩ := hDestroyed
  exact ⟨e, hSuffix.mem he, hKind⟩

theorem Listed.of_suffix {h' : GpuHistory} {chain : Handle} {images : List Handle}
    (hListed : h.Listed chain images) (hSuffix : h <:+ h') : Listed h' chain images :=
  hSuffix.mem hListed

/-- An image that is gone is gone ever after. -/
theorem ImageGone.of_suffix {h' : GpuHistory} (hGone : h.ImageGone x) (hSuffix : h <:+ h') :
    ImageGone h' x := by
  -- an image is gone by itself, or with its swapchain
  rcases hGone with hDestroyed | ⟨chain, images, hListed, hx, hChain⟩
  · exact .inl (hDestroyed.of_suffix hSuffix)
  · exact .inr ⟨chain, images, hListed.of_suffix hSuffix, hx, hChain.of_suffix hSuffix⟩

-- ---------------------------------------------------------------------------
-- Histories that go on
-- ---------------------------------------------------------------------------

/-- A history goes on without anything that frames name being destroyed or found. -/
structure Spares (h h' : GpuHistory) : Prop where
  suffix : h <:+ h'
  destroyed : ∀ {kind x}, kind.isScreen = true → Destroyed h' kind x → Destroyed h kind x
  listed : ∀ {chain images}, Listed h' chain images → Listed h chain images

/-- A history goes on without any buffer being touched, either. -/
structure Passes (h h' : GpuHistory) : Prop extends Spares h h' where
  commands : ∀ b, commands b h' = commands b h
  clean : Clean h → Clean h'

theorem Spares.refl (h : GpuHistory) : Spares h h :=
  ⟨List.suffix_refl h, fun _ hx => hx, fun hx => hx⟩

/-- Sparing goes on from one history to the next. -/
theorem Spares.trans {h₁ h₂ h₃ : GpuHistory} (h : Spares h₁ h₂) (h' : Spares h₂ h₃) :
    Spares h₁ h₃ := by
  refine ⟨h.suffix.trans h'.suffix, ?_, ?_⟩
  · exact fun hKind hx => h.destroyed hKind (h'.destroyed hKind hx)
  · exact fun hx => h.listed (h'.listed hx)

theorem Passes.refl (h : GpuHistory) : Passes h h where
  toSpares := .refl h
  commands _ := rfl
  clean hClean := hClean

theorem Passes.trans {h₁ h₂ h₃ : GpuHistory} (h : Passes h₁ h₂) (h' : Passes h₂ h₃) :
    Passes h₁ h₃ where
  toSpares := h.toSpares.trans h'.toSpares
  commands b := (h'.commands b).trans (h.commands b)
  clean hClean := h'.clean (h.clean hClean)

/-- Where histories are spared, no more images are gone than before. -/
theorem Spares.imageGone {h' : GpuHistory} (hSpares : Spares h h') {x : Handle}
    (hGone : ImageGone h' x) : ImageGone h x := by
  rcases hGone with hDestroyed | ⟨chain, images, hListed, hx, hChain⟩
  · exact .inl (hSpares.destroyed rfl hDestroyed)
  · exact .inr ⟨chain, images, hSpares.listed hListed, hx, hSpares.destroyed rfl hChain⟩

theorem Spares.imageGone_iff {h' : GpuHistory} (hSpares : Spares h h') {x : Handle} :
    ImageGone h' x ↔ ImageGone h x := by
  constructor
  · exact hSpares.imageGone
  · intro hGone
    exact hGone.of_suffix hSpares.suffix

/-- Where histories are spared, nothing of the screen is destroyed that was not before. -/
theorem Spares.destroyed_iff {h' : GpuHistory} (hSpares : Spares h h')
    (hKind : kind.isScreen = true) : Destroyed h' kind x ↔ Destroyed h kind x := by
  constructor
  · exact hSpares.destroyed hKind
  · intro hDestroyed
    exact hDestroyed.of_suffix hSpares.suffix

/-- The same commands dangle as before. -/
theorem Spares.dangles_iff {h' : GpuHistory} (hSpares : Spares h h') (c : GpuCommand) :
    Dangles h' c ↔ Dangles h c := by
  cases c with
  | beginRenderPass pass framebuffer area clears =>
    exact or_congr (hSpares.destroyed_iff rfl) (hSpares.destroyed_iff rfl)
  | barrier image transition => exact hSpares.imageGone_iff
  | _ => exact Iff.rfl

/-- The same of some commands dangle as before. -/
theorem Spares.named_iff {h' : GpuHistory} (hSpares : Spares h h') (cs : List GpuCommand) :
    (∀ c ∈ cs, ¬ Dangles h' c) ↔ ∀ c ∈ cs, ¬ Dangles h c :=
  forall₂_congr fun c _ => not_congr (hSpares.dangles_iff c)

/-- A buffer stays submittable as long as it has the same commands. -/
theorem Spares.submittable_iff {h' : GpuHistory} (hSpares : Spares h h') {b : Handle}
    (hCommands : commands b h' = commands b h) : Submittable h' b ↔ Submittable h b := by
  rw [GpuHistory.submittable_iff, GpuHistory.submittable_iff, hCommands, hSpares.named_iff]

/-- A buffer stays finishable as long as it has the same commands. -/
theorem Spares.finishable_iff {h' : GpuHistory} (hSpares : Spares h h') {b : Handle}
    (hCommands : commands b h' = commands b h) : Finishable h' b ↔ Finishable h b := by
  rw [GpuHistory.finishable_iff, GpuHistory.finishable_iff, hCommands, hSpares.named_iff]

/-- Ending the render pass makes a buffer submittable just if it was finishable. -/
theorem Spares.submittable_of_ended {h' : GpuHistory} (hSpares : Spares h h') {b : Handle}
    (hCommands : commands b h' = .endRenderPass :: commands b h) :
    Submittable h' b ↔ Finishable h b := by
  rw [GpuHistory.submittable_iff, GpuHistory.finishable_iff, hCommands, hSpares.named_iff,
    List.forall_mem_cons]
  exact and_congr_left fun _ => ⟨And.right, And.intro id⟩

end GpuHistory

-- ---------------------------------------------------------------------------
-- Routine events
-- ---------------------------------------------------------------------------

/-- Whether an event neither concerns what frames name nor the commands of a buffer. -/
def GpuEvent.isRoutine (e : GpuEvent) : Bool :=
  match e.call, e.outcome with
  | .destroy kind _, _ => !kind.isScreen
  | .beginBuffer _, .done | .resetBuffer _, .done => false
  | .record _ _, _ | .submit _ _ _, _ => false
  | .swapchainImages _, .handles _ => false
  | _, _ => true

/-- Whether an event destroys nothing that frames name, and finds no images. -/
def GpuEvent.isSparing (e : GpuEvent) : Bool :=
  match e.call, e.outcome with
  | .destroy kind _, _ => !kind.isScreen
  | .swapchainImages _, .handles _ => false
  | _, _ => true

/-- The size of what is to be created: only swapchains, images and framebuffers have one. -/
def Creation.size? : Creation → Option Extent
  | .swapchain request => some request.extent
  | .image _ size | .framebuffer _ _ size => some size
  | _ => none

/-- The size of what a call is to create. -/
def GpuCall.size? : GpuCall → Option Extent
  | .create creation => creation.size?
  | _ => none

namespace GpuHistory

/-- An event spares what frames name, if it destroys none of it and finds no images. -/
theorem spares_cons {e : GpuEvent} (he : e.isSparing = true) (h : GpuHistory) :
    Spares h (e :: h) := by
  obtain ⟨call, outcome⟩ := e
  refine ⟨List.suffix_cons _ h, ?_, ?_⟩
  · intro kind x hKind hDestroyed
    refine (destroyed_cons.mp hDestroyed).resolve_left ?_
    intro hEvent
    -- only a destruction destroys, and what this one destroys is not of the screen
    cases call <;> simp_all [GpuEvent.destroyed?, GpuEvent.isSparing]
  · intro chain images hListed
    refine (listed_cons.mp hListed).resolve_left ?_
    rintro ⟨⟩
    cases he

/-- A routine event passes by all that frames are made of. -/
theorem passes_cons {e : GpuEvent} (he : e.isRoutine = true) (h : GpuHistory) :
    Passes h (e :: h) := by
  obtain ⟨call, outcome⟩ := e
  refine ⟨spares_cons ?_ h, ?_, ?_⟩
  · cases call <;> cases outcome <;> first | exact he | rfl
  · -- the commands of a buffer depend on the calls that are not routine
    intro b
    cases call <;> cases outcome <;> first | rfl | cases he
  · intro hClean
    refine ⟨?_, hClean⟩
    rintro b waits signals rfl
    cases he

end GpuHistory

end RenderLoop
