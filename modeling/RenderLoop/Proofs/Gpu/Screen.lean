import RenderLoop.Gpu.RenderTargets
import RenderLoop.Proofs.Gpu.Bystanders
import RenderLoop.Proofs.Gpu.Watermark

/-!
# RenderLoop — rebuilding swapchain and render targets

Each part of a rebuild either gets on (`Gpu.Advanced`): it destroys what is below
the mark and makes things above it; or it breaks off (`Gpu.BrokeOff`) with the
device still orderly. It breaks off only if something hinders it: a fault, or a
surface none of whose formats is known (`Gpu.Obliging`).

The specifications of the swapchain (`ensures_recreate`) and of the render targets
(`ensures_recreate`, `ensures_createFramebuffers`) say what there is afterwards,
above the mark, and whose images the setup buffer has barriers on.
-/

namespace RenderLoop

open GpuHistory Op

namespace Gpu

/-- Nothing hinders a rebuild: no fault is due and the surface has a format that is known. -/
def Obliging (g : Gpu) : Prop :=
  g.faults = [] ∧
    ∃ format, SurfaceFormat.choose (g.formats.filterMap SurfaceProbe.known?) = .ok format

/-- A rebuild got on. -/
structure Advanced (mark b : Handle) (own : Handle → Prop) (g g' : Gpu) : Prop where
  preparing : g'.Preparing mark
  remakes : Remakes b own g g'

/-- A rebuild broke off. -/
structure BrokeOff (b : Handle) (own : Handle → Prop) (g g' : Gpu) : Prop where
  orderly : g'.Orderly
  remakes : Remakes b own g g'
  hindered : ¬ g.Obliging

variable {g g' g'' : Gpu} {mark b : Handle} {own own' : Handle → Prop}

/-- Whether a device is obliging depends on what was set up for it alone. -/
theorem obliging_congr (h : g'.setting = g.setting) : g'.Obliging ↔ g.Obliging := by
  simp only [setting, Prod.mk.injEq] at h
  simp only [Obliging, h]

/-- A device that a fault waits for is not obliging. -/
theorem not_obliging_of_faults (h : g.faults ≠ []) : ¬ g.Obliging := by
  intro hObliging
  exact h hObliging.1

/-- A call that passes by does not stop a rebuild. -/
theorem Preparing.advanced (h : g.Preparing mark) (hPasses : g.Passes g') :
    Advanced mark b own g g' where
  preparing := h.of_passes hPasses
  remakes := .of_passes hPasses

/-- A rebuild gets on in steps. -/
theorem Advanced.trans (h : Advanced mark b own g g') (h' : Advanced mark b own g' g'') :
    Advanced mark b own g g'' where
  preparing := h'.preparing
  remakes := h.remakes.trans h'.remakes

/-- There may be barriers on more than was said before. -/
theorem Advanced.mono (h : Advanced mark b own g g') (hOwn : ∀ x, own x → own' x) :
    Advanced mark b own' g g' where
  preparing := h.preparing
  remakes := h.remakes.mono hOwn

/-- Where a rebuild broke off, there may be barriers on more than was said before. -/
theorem BrokeOff.mono (h : BrokeOff b own g g') (hOwn : ∀ x, own x → own' x) :
    BrokeOff b own' g g' where
  orderly := h.orderly
  remakes := h.remakes.mono hOwn
  hindered := h.hindered

/-- A rebuild that got on first has broken off, too. -/
theorem BrokeOff.after (h : BrokeOff b own g' g'') (hFirst : Remakes b own g g') :
    BrokeOff b own g g'' where
  orderly := h.orderly
  remakes := hFirst.trans h.remakes
  hindered hObliging := h.hindered ((obliging_congr hFirst.setting).mpr hObliging)

/-- A rebuild that breaks off at a call that passes by. -/
theorem Preparing.brokeOff (h : g.Preparing mark) (hPasses : g.Passes g')
    (hHindered : ¬ g.Obliging) : BrokeOff b own g g' where
  orderly := h.orderly.of_spares hPasses.spares
  remakes := .of_passes hPasses
  hindered := hHindered

end Gpu

open Gpu

-- ---------------------------------------------------------------------------
-- Calls of the setup
-- ---------------------------------------------------------------------------

namespace Host

variable {α : Type} {ok : α → Host → Prop} {fail : RenderError → Host → Prop}

/-- A call of the setup is as the call on the device, apart from the log. -/
theorem ensures_setUp (source noticed told : String) {step : GpuStep α} {s : Host}
    (hOk : ∀ a g, step s.gpu = (.ok a, g) → ok a { s with gpu := g })
    (hFail : ∀ code g, step s.gpu = (.error code, g) → ∀ e (t : Host), t.gpu = g → fail e t) :
    (Host.setUp source noticed told step).Ensures s ok fail := by
  rw [Host.setUp, ensures_bind, Host.call, ensures_act]
  cases hStep : step s.gpu with
  | mk r g =>
    cases r with
    | ok a =>
      rw [ensures_pure]
      exact hOk a g hStep
    | error code =>
      rw [ensures_failWith]
      exact hFail code g hStep _ _ rfl

/-- Creating anything but a swapchain. -/
theorem ensures_create (source noticed told : String) {creation : Creation} {s : Host}
    {ok : Handle → Host → Prop} (hKind : creation.kind ≠ .swapchain)
    (hOk : ∀ t : Host, s.gpu.Passes t.gpu → s.gpu.nextHandle < t.gpu.nextHandle →
      ok s.gpu.nextHandle t)
    (hFail : ∀ e (t : Host), s.gpu.Passes t.gpu → ¬ s.gpu.Obliging → fail e t) :
    (Host.setUp source noticed told (Gpu.create creation)).Ensures s ok fail := by
  refine ensures_setUp _ _ _ ?_ ?_
  · intro x g hCreate
    obtain ⟨rfl, hPasses, hNext⟩ := create_ok hKind hCreate
    exact hOk _ hPasses hNext
  · rintro code g hCreate e t rfl
    obtain ⟨hPasses, hFaults⟩ := passes_refused (fun _ => rfl) hCreate
    exact hFail e t hPasses (not_obliging_of_faults hFaults)

/-- A call that passes by, and fails only by a fault. -/
theorem ensures_routine (source noticed told : String) {step : GpuStep α} {s : Host}
    (hPasses : ∀ g : Gpu, g.Passes (step g).2)
    (hFaults : ∀ {g g' code}, step g = (.error code, g') → g.faults ≠ []) :
    (Host.setUp source noticed told step).Ensures s (fun _ t => s.gpu.Passes t.gpu)
      (fun _ t => s.gpu.Passes t.gpu ∧ ¬ s.gpu.Obliging) := by
  have hStep := hPasses s.gpu
  refine ensures_setUp _ _ _ ?_ ?_
  · intro a g hRun
    rw [hRun] at hStep
    exact hStep
  · rintro code g hRun e t rfl
    rw [hRun] at hStep
    exact ⟨hStep, not_obliging_of_faults (hFaults hRun)⟩

end Host

/-- Logging leaves everything but the log as it is. -/
theorem ensures_logged {τ : Type} (entries : List LogEntry) (s : τ × Host)
    {fail : RenderError → τ × Host → Prop} :
    (logAll entries).Ensures s (fun _ t => t.1 = s.1 ∧ t.2.gpu = s.2.gpu) fail :=
  ensures_logAll (fun _ _ h => h) _ ⟨rfl, rfl⟩

namespace SurfaceProbe

/-- Without faults a question is answered. -/
theorem ensures_ask {α : Type} (source noticed told call : String) (answer : Gpu → α) {s : Host}
    (hFaults : s.gpu.faults = []) {fail : RenderError → Host → Prop} :
    (Host.setUp source noticed told (Gpu.ask call answer)).Ensures s
      (fun a t => a = answer s.gpu ∧ t.gpu.setting = s.gpu.setting) fail := by
  refine Host.ensures_setUp _ _ _ ?_ ?_
  · intro a g hStep
    obtain ⟨rfl, rfl⟩ := ask_ok hStep
    exact ⟨rfl, rfl⟩
  · intro code g hStep
    exact absurd hFaults (faults_of_refusal (ask_error hStep).1)

/-- Probing a surface does not fail unless something hinders it. -/
theorem ensures_take_of_obliging {s : Host} (h : s.gpu.Obliging) :
    take.Ensures s (fun _ _ => True) (fun _ _ => False) := by
  -- three questions, and none of them changes what the next one is answered
  obtain ⟨hFaults, format, hFormat⟩ := h
  have hKeep : ∀ {t : Host}, t.gpu.setting = s.gpu.setting →
      t.gpu.faults = [] ∧ t.gpu.formats = s.gpu.formats := by
    intro t hSetting
    simp only [setting, Prod.mk.injEq] at hSetting
    exact ⟨hSetting.1.trans hFaults, hSetting.2.2.1⟩
  rw [take, ensures_bind]
  refine (ensures_ask _ _ _ _ _ hFaults).mono ?_ (fun _ _ h => h)
  rintro - s₁ ⟨-, hSetting₁⟩
  rw [ensures_bind]
  refine (ensures_ask _ _ _ _ _ (hKeep hSetting₁).1).mono ?_ (fun _ _ h => h)
  rintro reported s₂ ⟨rfl, hSetting₂⟩
  rw [(hKeep hSetting₁).2, chooseFormat, hFormat]
  simp only [ensures_bind, ensures_log, ensures_pure]
  have hLogged : (logAll (s.gpu.formats.filterMap skipEntry?)).Ensures s₂
      (fun _ t => t.gpu.setting = s₂.gpu.setting) (fun _ _ => False) :=
    ensures_logAll (fun _ _ h => h) _ rfl
  refine hLogged.mono ?_ (fun _ _ h => h)
  intro _ t hSetting₃
  refine (ensures_ask _ _ _ _ _ ?_).mono (fun _ _ _ => trivial) (fun _ _ h => h)
  exact (hKeep (hSetting₃.trans (hSetting₂.trans hSetting₁))).1

end SurfaceProbe

-- ---------------------------------------------------------------------------
-- The swapchain
-- ---------------------------------------------------------------------------

namespace Swapchain

variable {mark : Handle} {own : Handle → Prop}

/-- Recording a barrier for the setup. -/
theorem advanced_record {g : Gpu} {b : Handle} (h : g.Preparing mark) (x : Handle)
    (t : ImageTransition) (hx : own x) :
    Advanced mark b own g (g.happen (.record b (.barrier x t)) .done) where
  preparing := h.record _
  remakes := remakes_record t hx g

/-- Views were made for a chain, and nothing else changed that matters. -/
structure Viewed (c c' : Swapchain) (count : Nat) : Prop where
  handle : c'.handle = c.handle
  images : c'.images = c.images
  views : c'.views.length = c.views.length + count

/-- Each image gets a barrier and a view; if a view is refused, the views made before it are still
there. -/
theorem ensures_addViews (setup : CommandBuffer) (format : TextureFormat) (images : List Handle)
    (c : Swapchain) (h : Host) (hPre : h.gpu.Preparing mark) (hOwn : ∀ x ∈ images, own x) :
    (addViews setup format images).Ensures (c, h)
      (fun _ t => Viewed c t.1 images.length ∧ Advanced mark setup.handle own h.gpu t.2.gpu)
      (fun _ t => (∃ count, Viewed c t.1 count) ∧
        BrokeOff setup.handle own h.gpu t.2.gpu) := by
  induction images generalizing c h with
  | nil =>
    rw [addViews, ensures_pure]
    exact ⟨⟨rfl, rfl, rfl⟩, hPre.advanced (.refl _)⟩
  | cons image rest ih =>
    have hRecorded : Advanced mark setup.handle own h.gpu
        (h.record setup.handle (.barrier image .presentSource)).gpu :=
      advanced_record hPre image _ (hOwn image List.mem_cons_self)
    simp only [addViews, addView, ensures_bind, ensures_change, Op.onHost, ensures_onSecond]
    refine Host.ensures_create _ _ _ (by rintro ⟨⟩) ?_ ?_
    · intro t hPasses _
      have hAdvanced := hRecorded.trans (hRecorded.preparing.advanced hPasses)
      -- one view, and as many as the other images got
      have hOne : ∀ {c' : Swapchain} {count : Nat} {view : Handle},
          Viewed { c with views := c.views ++ [view] } c' count → Viewed c c' (count + 1) := by
        intro c' count view hViewed
        refine ⟨hViewed.handle, hViewed.images, ?_⟩
        rw [hViewed.views, List.length_append, List.length_singleton]
        omega
      refine (ih _ t hAdvanced.preparing fun x hx => hOwn x (List.mem_cons_of_mem _ hx)).mono ?_ ?_
      · rintro - ⟨c', t'⟩ ⟨hViewed, hRest⟩
        exact ⟨hOne hViewed, hAdvanced.trans hRest⟩
      · rintro e ⟨c', t'⟩ ⟨⟨count, hViewed⟩, hBroken⟩
        exact ⟨⟨count + 1, hOne hViewed⟩, hBroken.after hAdvanced.remakes⟩
    · intro e t hPasses hHindered
      refine ⟨⟨0, rfl, rfl, rfl⟩, ?_⟩
      refine (hRecorded.preparing.brokeOff hPasses ?_).after hRecorded.remakes
      exact hHindered

/-- The images of a chain as the device knows them. -/
def Owns (c : Swapchain) (g : Gpu) (x : Handle) : Prop :=
  0 < c.handle ∧ ∃ images, Listed g.history c.handle images ∧ x ∈ images

/-- A chain was built above the mark. -/
structure Built (mark : Handle) (c : Swapchain) (g : Gpu) : Prop where
  handle_ge : mark ≤ c.handle
  handle_lt : c.handle < g.nextHandle
  images : ∀ x ∈ c.images, mark ≤ x
  listed : Listed g.history c.handle c.images
  views : c.views.length = c.images.length

/-- A chain that was built stays so while the rebuild goes on. -/
theorem Built.of_remakes {c : Swapchain} {g g' : Gpu} {b : Handle} (h : c.Built mark g)
    (hRemakes : Remakes b own g g') : c.Built mark g' where
  handle_ge := h.handle_ge
  handle_lt := Nat.lt_of_lt_of_le h.handle_lt hRemakes.nextHandle
  images := h.images
  listed := h.listed.of_suffix hRemakes.suffix
  views := h.views

/-- A new chain is built once there is a view for each of its images. -/
theorem Viewed.built {c c' : Swapchain} {g : Gpu} (h : Viewed c c' c.images.length)
    (hViews : c.views = []) (hMark : mark ≤ c.handle) (hNext : c.handle < g.nextHandle)
    (hAbove : ∀ x ∈ c.images, mark ≤ x) (hListed : Listed g.history c.handle c.images) :
    c'.Built mark g := by
  refine ⟨?_, ?_, ?_, ?_, ?_⟩
  · rw [h.handle]
    exact hMark
  · rw [h.handle]
    exact hNext
  · rw [h.images]
    exact hAbove
  · rw [h.handle, h.images]
    exact hListed
  · rw [h.views, hViews, h.images, List.length_nil, Nat.zero_add]

/-- Giving up the old chain for a new one. -/
theorem advanced_replace {c : Swapchain} {h : Host} {b : Handle} (hPre : h.gpu.Preparing mark)
    (hHandle : c.handle < mark) (handle : Handle) :
    ((replace handle (c, h)).1.handle = handle ∧ (replace handle (c, h)).1.views = []) ∧
      Advanced mark b (fun _ => False) h.gpu (replace handle (c, h)).2.gpu ∧
      (0 < c.handle → Destroyed (replace handle (c, h)).2.gpu.history .swapchain c.handle) := by
  have hAdvanced : Advanced mark b (fun _ => False) h.gpu (h.gpu.destroyAll .imageView c.views) :=
    hPre.advanced (routine_destroyAll _ _)
  refine ⟨⟨rfl, rfl⟩, ⟨hAdvanced.preparing.destroyIfAny _ hHandle,
    hAdvanced.remakes.trans (remakes_destroyIfAny _ _ _)⟩, ?_⟩
  intro hPos
  show Destroyed (Gpu.destroyIfAny .swapchain c.handle _).history _ _
  rw [Gpu.destroyIfAny, if_neg (Nat.ne_of_gt hPos)]
  exact destroyed_destroy hPos

/-- The images of a new chain are found, or that breaks off. -/
theorem ensures_findImages {handle : Handle} {h : Host} {b : Handle} (hPre : h.gpu.Preparing mark)
    (hMark : mark ≤ handle) :
    (Host.setUp component "get swapchain images" "get swapchain images"
        (Gpu.swapchainImages handle)).Ensures h
      (fun images t => Advanced mark b (fun _ => False) h.gpu t.gpu ∧
        Listed t.gpu.history handle images ∧ ∀ x ∈ images, mark ≤ x)
      (fun _ t => BrokeOff b (fun _ => False) h.gpu t.gpu) := by
  refine Host.ensures_setUp _ _ _ ?_ ?_
  · intro images g hFound
    obtain ⟨hPreparing, hRemakes, hListed, hAbove⟩ := hPre.swapchainImages hMark hFound
    exact ⟨⟨hPreparing, hRemakes⟩, hListed, hAbove⟩
  · rintro code g hFound e t rfl
    obtain ⟨hPasses, hFaults⟩ := swapchainImages_error hFound
    exact hPre.brokeOff hPasses (not_obliging_of_faults hFaults)

/-- A chain was rebuilt: it is there above the mark, and the one before it is gone. -/
structure Rebuilt (mark b : Handle) (old : Swapchain) (g : Gpu) (c : Swapchain) (g' : Gpu) :
    Prop where
  built : c.Built mark g'
  advanced : Advanced mark b (· ∈ c.images) g g'
  gone : 0 < old.handle → Destroyed g'.history .swapchain old.handle

/-- Rebuilding a chain broke off. The setup buffer has barriers only on images of the chain there
is now. -/
structure Stopped (b : Handle) (g : Gpu) (c : Swapchain) (g' : Gpu) : Prop where
  handle_lt : c.handle < g'.nextHandle
  brokeOff : BrokeOff b (c.Owns g') g g'

/-- A new chain took the place of the old one. Its images are not known yet. -/
structure Begun (mark b : Handle) (old : Swapchain) (g : Gpu) (c : Swapchain) (g' : Gpu) :
    Prop where
  handle_ge : mark ≤ c.handle
  handle_lt : c.handle < g'.nextHandle
  views : c.views = []
  advanced : Advanced mark b (fun _ => False) g g'
  gone : 0 < old.handle → Destroyed g'.history .swapchain old.handle

section Outcomes

variable {g g' g'' : Gpu} {b : Handle} {old c c' : Swapchain} {images : List Handle} {count : Nat}

/-- A chain was rebuilt, also if the device was prepared before. -/
theorem Rebuilt.after (h : Rebuilt mark b old g' c g'')
    (hFirst : Advanced mark b (fun _ => False) g g') : Rebuilt mark b old g c g'' where
  built := h.built
  advanced := (hFirst.mono fun _ hx => hx.elim).trans h.advanced
  gone := h.gone

/-- A rebuild broke off, also if something was remade before. -/
theorem Stopped.after (h : Stopped b g' c g'') (hFirst : Remakes b (fun _ => False) g g') :
    Stopped b g c g'' where
  handle_lt := h.handle_lt
  brokeOff := h.brokeOff.after (hFirst.mono fun _ hx => hx.elim)

/-- The old chain is still there if already its successor, or what is asked before, is refused. -/
theorem stopped_of_passes (hPre : g.Preparing mark) (hHandle : c.handle < mark)
    (hPasses : g.Passes g') (hHindered : ¬ g.Obliging) : Stopped b g c g' := by
  have hNext : c.handle < g.nextHandle := Nat.lt_of_lt_of_le hHandle hPre.marked.le
  exact ⟨Nat.lt_of_lt_of_le hNext hPasses.nextHandle, hPre.brokeOff hPasses hHindered⟩

/-- The images of a new chain were not found. -/
theorem Begun.stopped (h : Begun mark b old g c g')
    (hBroken : BrokeOff b (fun _ => False) g' g'') : Stopped b g c g'' := by
  refine ⟨Nat.lt_of_lt_of_le h.handle_lt hBroken.remakes.nextHandle, ?_⟩
  exact (hBroken.after h.advanced.remakes).mono fun _ hx => hx.elim

variable {g₁ g₂ : Gpu}

/-- A view of a new chain was refused. What was recorded until then is for images of that chain. -/
theorem Begun.stopped_viewing (h : Begun mark b old g c g₁) (hPos : 0 < c.handle)
    (hFound : Advanced mark b (fun _ => False) g₁ g₂) (hListed : Listed g₂.history c.handle images)
    (hViewed : Viewed { c with images } c' count) (hBroken : BrokeOff b (· ∈ images) g₂ g') :
    Stopped b g c' g' := by
  have hHandle : c'.handle = c.handle := hViewed.handle
  have hBegun : Remakes b (· ∈ images) g g₂ :=
    (h.advanced.remakes.trans hFound.remakes).mono fun _ hx => hx.elim
  refine ⟨?_, (hBroken.after hBegun).mono ?_⟩
  · rw [hHandle]
    exact Nat.lt_of_lt_of_le h.handle_lt
      (Nat.le_trans hFound.remakes.nextHandle hBroken.remakes.nextHandle)
  · intro x hx
    rw [Owns, hHandle]
    exact ⟨hPos, images, hListed.of_suffix hBroken.remakes.suffix, hx⟩

/-- A new chain with a view for each of its images. -/
theorem Begun.rebuilt (h : Begun mark b old g c g₁)
    (hFound : Advanced mark b (fun _ => False) g₁ g₂) (hListed : Listed g₂.history c.handle images)
    (hAbove : ∀ x ∈ images, mark ≤ x) (hViewed : Viewed { c with images } c' images.length)
    (hMade : Advanced mark b (· ∈ images) g₂ g') : Rebuilt mark b old g c' g' := by
  have hSuffix : g₂.history <:+ g'.history := hMade.remakes.suffix
  have hNext : c.handle < g'.nextHandle := Nat.lt_of_lt_of_le h.handle_lt
    (Nat.le_trans hFound.remakes.nextHandle hMade.remakes.nextHandle)
  refine ⟨hViewed.built h.views h.handle_ge hNext hAbove (hListed.of_suffix hSuffix), ?_, ?_⟩
  · rw [show c'.images = images from hViewed.images]
    exact ((h.advanced.trans hFound).mono fun _ hx => hx.elim).trans hMade
  · intro hPos
    exact (h.gone hPos).of_suffix (hFound.remakes.suffix.trans hSuffix)

end Outcomes

/-- A chain that was created takes the place of the old one. -/
theorem begun_replace {c : Swapchain} {h : Host} {b : Handle} {request : SwapchainRequest}
    {handle : Handle} {g : Gpu} (hPre : h.gpu.Preparing mark) (hHandle : c.handle < mark)
    (hCreate : Gpu.create (.swapchain request) h.gpu = (.ok handle, g)) :
    (replace handle (c, { h with gpu := g })).1.handle = handle ∧
      Begun mark b c h.gpu (replace handle (c, { h with gpu := g })).1
        (replace handle (c, { h with gpu := g })).2.gpu := by
  obtain ⟨hCreated, hRemakes, hMark, hNext⟩ := hPre.create_swapchain (b := b) hCreate
  obtain ⟨⟨hNew, hViews⟩, hAdvanced, hGone⟩ :=
    advanced_replace (h := { h with gpu := g }) (b := b) hCreated hHandle handle
  refine ⟨hNew, ?_, ?_, hViews, ⟨hAdvanced.preparing, hRemakes.trans hAdvanced.remakes⟩, hGone⟩
  · rw [hNew]
    exact hMark
  · rw [hNew]
    exact Nat.lt_of_lt_of_le hNext hAdvanced.remakes.nextHandle

/-- Building a chain makes a new one and destroys the old one, or breaks off at a call that is
refused. -/
theorem ensures_build (surface : Handle) (probe : SurfaceProbe) (window : Extent)
    (setup : CommandBuffer) (c : Swapchain) (h : Host) (hPre : h.gpu.Preparing mark)
    (hHandle : c.handle < mark) :
    (build surface probe window setup).Ensures (c, h)
      (fun _ t => Rebuilt mark setup.handle c h.gpu t.1 t.2.gpu)
      (fun _ t => Stopped setup.handle h.gpu t.1 t.2.gpu) := by
  simp only [build, ensures_bind, ensures_get, ensures_ofOption]
  rintro ⟨request, entries⟩ -
  refine (ensures_logged entries (c, h)).mono ?_ (fun _ _ h => h)
  rintro - ⟨c₁, h₁⟩ ⟨rfl, hGpu⟩
  dsimp only at hGpu
  rw [← hGpu] at hPre ⊢
  simp only [Op.onHost, ensures_onSecond, ensures_change]
  refine Host.ensures_setUp _ _ _ ?_ ?_
  · intro handle g hCreate
    -- the new chain is there, the old one is destroyed
    obtain ⟨hNew, hBegun⟩ := begun_replace (b := setup.handle) hPre hHandle hCreate
    generalize replace handle (c₁, { h₁ with gpu := g }) = s at hNew hBegun ⊢
    obtain ⟨c₂, h₂⟩ := s
    dsimp only at hNew hBegun ⊢
    subst hNew
    have hPos : 0 < c₂.handle := Nat.lt_of_lt_of_le hPre.marked.pos hBegun.handle_ge
    refine (ensures_findImages (b := setup.handle) hBegun.advanced.preparing
      hBegun.handle_ge).mono ?_ ?_
    · rintro images h₃ ⟨hFound, hListed, hAbove⟩
      refine (ensures_addViews setup _ images _ h₃ hFound.preparing fun _ hx => hx).mono ?_ ?_
      · rintro - ⟨c₄, h₄⟩ ⟨hViewed, hMade⟩
        rw [ensures_log]
        exact hBegun.rebuilt hFound hListed hAbove ⟨hViewed.handle, hViewed.images, hViewed.views⟩
          hMade
      · rintro e ⟨c₄, h₄⟩ ⟨⟨count, hViewed⟩, hBroken⟩
        -- a view was refused
        exact hBegun.stopped_viewing hPos hFound hListed hViewed hBroken
    · intro e h₃ hBroken
      -- its images were not told
      exact hBegun.stopped hBroken
  · rintro code g hCreate e t rfl
    obtain ⟨hPasses, hFaults⟩ := passes_refused (fun _ => rfl) hCreate
    -- the chain itself was refused
    exact stopped_of_passes hPre hHandle hPasses (not_obliging_of_faults hFaults)

/-- What a rebuilt swapchain is like. If the rebuild broke off, the setup buffer has barriers on
images of the chain there is now. -/
theorem ensures_recreate (surface : Handle) (window : Extent) (setup : CommandBuffer)
    (c : Swapchain) (h : Host) (hPre : h.gpu.Preparing mark) (hHandle : c.handle < mark) :
    (recreate surface window setup).Ensures (c, h)
      (fun _ t => Rebuilt mark setup.handle c h.gpu t.1 t.2.gpu)
      (fun _ t => Stopped setup.handle h.gpu t.1 t.2.gpu) := by
  have hTaken : SurfaceProbe.take.Ensures h (fun _ t => h.gpu.Passes t.gpu)
      (fun _ t => h.gpu.Passes t.gpu ∧ ¬ h.gpu.Obliging) := by
    intro r t hRun
    have hPasses := SurfaceProbe.within_take (R := Gpu.Passes) h r t hRun
    cases r with
    | ok probe => exact hPasses
    | error e => exact ⟨hPasses, fun h' => SurfaceProbe.ensures_take_of_obliging h' _ _ hRun⟩
  simp only [recreate, ensures_bind, Op.onHost, ensures_onSecond]
  refine hTaken.mono ?_ ?_
  · intro probe h₁ hPasses
    rw [ensures_get]
    refine (ensures_logged (c.formatEntries probe.format) (c, h₁)).mono ?_ (fun _ _ h => h)
    rintro - ⟨c₂, h₂⟩ ⟨rfl, hGpu⟩
    dsimp only at hGpu
    rw [← hGpu] at hPasses
    -- the surface was probed, which changes nothing on the device
    have hTook : Advanced mark setup.handle (fun _ => False) h.gpu h₂.gpu := hPre.advanced hPasses
    rw [ensures_change]
    refine (ensures_build surface probe window setup { c₂ with format := probe.format } h₂
      hTook.preparing hHandle).mono ?_ ?_
    · intro _ t hRebuilt
      exact ⟨hRebuilt.built, (hRebuilt.after hTook).advanced, hRebuilt.gone⟩
    · intro e t hStopped
      exact hStopped.after hTook.remakes
  · rintro e t ⟨hPasses, hHindered⟩
    exact stopped_of_passes hPre hHandle hPasses hHindered

end Swapchain

-- ---------------------------------------------------------------------------
-- The depth image
-- ---------------------------------------------------------------------------

namespace RenderTargets

variable {mark : Handle} {own : Handle → Prop}

/-- Memory for a depth image is provided, and refused only by a fault. -/
theorem ensures_provideDepth (s : Host) :
    (Host.provide component "allocate depth image memory" Gpu.provideDepthMemory).Ensures s
      (fun _ t => s.gpu.Passes t.gpu) (fun _ t => s.gpu.Passes t.gpu ∧ ¬ s.gpu.Obliging) := by
  have hPasses : Gpu.Passes s.gpu (provideDepthMemory s.gpu).2 := silent_provideDepthMemory s.gpu
  rw [Host.provide, ensures_bind, Host.call, ensures_act]
  cases hStep : provideDepthMemory s.gpu with
  | mk r g =>
    rw [hStep] at hPasses
    cases r with
    | ok a =>
      rw [ensures_pure]
      exact hPasses
    | error e =>
      rw [ensures_failWith]
      -- only the allocation can be refused, and what refuses it is a fault
      refine ⟨hPasses, not_obliging_of_faults ?_⟩
      rw [provideDepthMemory] at hStep
      split at hStep
      · cases hStep
      · split at hStep
        · cases hStep
        · rename_i hAsk
          exact faults_of_refusal (ask_error hAsk).1

/-- Binding memory to a depth image is refused only by a fault. -/
theorem ensures_bindImage (image : Handle) (s : Host) :
    (setUp "bind depth image memory" (Gpu.perform (.bindImage image))).Ensures s
      (fun _ t => s.gpu.Passes t.gpu) (fun _ t => s.gpu.Passes t.gpu ∧ ¬ s.gpu.Obliging) := by
  refine Host.ensures_routine _ _ _ routine_perform ?_
  intro g g' code hRun
  exact (passes_refused (fun _ => rfl) hRun).2

/-- Memory and a view for a depth image. Only that image is ever put a barrier on. -/
theorem ensures_finishDepth (format : TextureFormat) (image : Handle) (setup : CommandBuffer)
    (t : Host) (hPre : t.gpu.Preparing mark) :
    (finishDepth format image setup).Ensures t
      (fun d t' => d.image = image ∧ Advanced mark setup.handle (· = image) t.gpu t'.gpu)
      (fun _ t' => BrokeOff setup.handle (· = image) t.gpu t'.gpu) := by
  rw [finishDepth, ensures_bind]
  refine (ensures_provideDepth t).mono ?_ ?_
  · intro _ t₁ hPasses₁
    have hProvided : Advanced mark setup.handle (· = image) t.gpu t₁.gpu := hPre.advanced hPasses₁
    rw [ensures_bind]
    refine (ensures_bindImage image t₁).mono ?_ ?_
    · intro _ t₂ hPasses₂
      have hBound := hProvided.trans (hProvided.preparing.advanced hPasses₂)
      simp only [ensures_bind, ensures_change, ensures_pure]
      -- the one barrier, on the image itself
      have hRecorded := hBound.trans (Swapchain.advanced_record hBound.preparing image
        (.depthStencilInit format.depthAspects) rfl)
      refine Host.ensures_create _ _ _ (by rintro ⟨⟩) ?_ ?_
      · intro t₃ hPasses₃ _
        exact ⟨trivial, hRecorded.trans (hRecorded.preparing.advanced hPasses₃)⟩
      · intro e t₃ hPasses₃ hHindered
        exact (hRecorded.preparing.brokeOff hPasses₃ hHindered).after hRecorded.remakes
    · rintro e t₂ ⟨hPasses₂, hHindered⟩
      exact (hProvided.preparing.brokeOff hPasses₂ hHindered).after hProvided.remakes
  · rintro e t₁ ⟨hPasses₁, hHindered⟩
    exact hPre.brokeOff hPasses₁ hHindered

/-- What broke off over a depth image takes the image with it. -/
theorem brokeOff_destroyed {g g' : Gpu} {b image : Handle} (hPos : 0 < image)
    (hNext : image < g.nextHandle) (h : BrokeOff b (· = image) g g') :
    BrokeOff b (fun x => 0 < x ∧ Destroyed (g'.destroy .image image).history .image x) g
      (g'.destroy .image image) := by
  have hLess : image < g'.nextHandle := Nat.lt_of_lt_of_le hNext h.remakes.nextHandle
  refine ⟨h.orderly.destroy .image hLess, ?_, h.hindered⟩
  refine (h.remakes.trans (remakes_destroy .image image g')).mono ?_
  rintro x rfl
  exact ⟨hPos, destroyed_destroy hPos⟩

/-- A depth image above the mark, or one that is destroyed again. -/
theorem ensures_createDepth (format : TextureFormat) (extent : Extent) (setup : CommandBuffer)
    (h : Host) (hPre : h.gpu.Preparing mark) :
    (createDepth format extent setup).Ensures h
      (fun d t => (mark ≤ d.image ∧ d.image < t.gpu.nextHandle) ∧
        Advanced mark setup.handle (· = d.image) h.gpu t.gpu)
      (fun _ t => BrokeOff setup.handle
        (fun x => 0 < x ∧ Destroyed t.gpu.history .image x) h.gpu t.gpu) := by
  rw [createDepth, ensures_bind]
  refine Host.ensures_create _ _ _ (by rintro ⟨⟩) ?_ ?_
  · intro t hPasses hNext
    generalize hImage : h.gpu.nextHandle = image at hNext ⊢
    -- a new handle is above the mark
    have hMark : mark ≤ image := hImage ▸ hPre.marked.le
    have hPos : 0 < image := Nat.lt_of_lt_of_le hPre.marked.pos hMark
    have hCreated : Advanced mark setup.handle (· = image) h.gpu t.gpu := hPre.advanced hPasses
    rw [ensures_undoing]
    refine (ensures_finishDepth format image setup t hCreated.preparing).mono ?_ ?_
    · rintro d t' ⟨rfl, hDone⟩
      exact ⟨⟨hMark, Nat.lt_of_lt_of_le hNext hDone.remakes.nextHandle⟩, hCreated.trans hDone⟩
    · intro e t' hBroken
      exact (brokeOff_destroyed hPos hNext hBroken).after (.of_passes hPasses)
  · intro e t hPasses hHindered
    exact hPre.brokeOff hPasses hHindered

-- ---------------------------------------------------------------------------
-- Pass and framebuffers
-- ---------------------------------------------------------------------------

/-- Everything to render to was made before a mark. -/
structure Below (n : Handle) (t : RenderTargets) : Prop where
  pass : ∀ p ∈ t.pass, p < n
  depth : ∀ d ∈ t.depth, d.image < n
  framebuffers : ∀ f ∈ t.framebuffers, f < n

/-- What was made before a mark was made before a later one. -/
theorem Below.mono {n n' : Handle} {t : RenderTargets} (h : t.Below n) (hLe : n ≤ n') :
    t.Below n' where
  pass p hp := Nat.lt_of_lt_of_le (h.pass p hp) hLe
  depth d hd := Nat.lt_of_lt_of_le (h.depth d hd) hLe
  framebuffers f hf := Nat.lt_of_lt_of_le (h.framebuffers f hf) hLe

/-- Pass and depth image were made after a mark. -/
structure Above (mark : Handle) (t : RenderTargets) : Prop where
  pass : ∃ p, t.pass = some p ∧ mark ≤ p
  depth : ∀ d ∈ t.depth, mark ≤ d.image

/-- The image of a depth image. -/
def Depth (t : RenderTargets) (x : Handle) : Prop := ∃ d ∈ t.depth, d.image = x

/-- Pass and depth image are there, made after a mark, and no framebuffers yet. -/
structure Fresh (mark : Handle) (t : RenderTargets) (g : Gpu) : Prop where
  above : t.Above mark
  below : t.Below g.nextHandle
  bare : t.framebuffers = []

/-- A depth image, and a pass made after it. -/
theorem fresh_of_made {t : RenderTargets} {d : DepthImage} {p : Handle} {g g' : Gpu}
    (hDepth : t.depth = some d) (hImage : mark ≤ d.image ∧ d.image < g.nextHandle)
    (hPasses : g.Passes g') (hPass : t.pass = some p) (hMade : mark ≤ p ∧ p < g'.nextHandle)
    (hBare : t.framebuffers = []) : t.Fresh mark g' := by
  refine ⟨⟨⟨p, hPass, hMade.1⟩, ?_⟩, ⟨?_, ?_, ?_⟩, hBare⟩
  · intro d' hd
    obtain rfl : d = d' := Option.some.inj (hDepth.symm.trans hd)
    exact hImage.1
  · intro p' hp
    obtain rfl : p = p' := Option.some.inj (hPass.symm.trans hp)
    exact hMade.2
  · intro d' hd
    obtain rfl : d = d' := Option.some.inj (hDepth.symm.trans hd)
    exact Nat.lt_of_lt_of_le hImage.2 hPasses.nextHandle
  · rw [hBare]
    exact List.forall_mem_nil _

/-- Targets without a depth image and framebuffers, whose passes are gone. -/
theorem below_of_torn {t t' : RenderTargets} {n : Handle} (hPos : 0 < n)
    (hTorn : t' = { t with pass := t.pass.map fun _ => 0, depth := none, framebuffers := [] }) :
    t'.Below n := by
  rw [hTorn]
  refine ⟨?_, ?_, List.forall_mem_nil _⟩
  · intro p hp
    obtain ⟨-, -, rfl⟩ := Option.map_eq_some_iff.mp hp
    exact hPos
  · rintro d ⟨⟩

/-- Framebuffers below the mark are destroyed. -/
theorem advanced_dropFramebuffers {t : RenderTargets} {h : Host} {b : Handle}
    (hPre : h.gpu.Preparing mark) (hBelow : ∀ f ∈ t.framebuffers, f < mark) :
    Advanced mark b own h.gpu (dropFramebuffers (t, h)).2.gpu where
  preparing := hPre.destroyAll .framebuffer hBelow
  remakes := remakes_destroyAll _ _ _

/-- Destroying a depth image below the mark. -/
theorem advanced_destroyDepth {d : DepthImage} {h : Host} {b : Handle}
    (hPre : h.gpu.Preparing mark) (hBelow : d.image < mark) :
    Advanced mark b own h.gpu (destroyDepth d h).gpu := by
  have hView : Advanced mark b own h.gpu (h.gpu.destroyIfAny .imageView d.view) :=
    hPre.advanced (routine_destroyIfAny _ _)
  exact ⟨hView.preparing.destroy .image hBelow, hView.remakes.trans (remakes_destroy _ _ _)⟩

/-- Tearing down destroys what is there. -/
theorem advanced_tearDown {t : RenderTargets} {h : Host} {b : Handle} (hPre : h.gpu.Preparing mark)
    (hBelow : t.Below mark) :
    ((tearDown (t, h)).1 =
        { t with pass := t.pass.map fun _ => 0, depth := none, framebuffers := [] }) ∧
      Advanced mark b (fun _ => False) h.gpu (tearDown (t, h)).2.gpu ∧
      ∀ x, 0 < x → t.Depth x → Destroyed (tearDown (t, h)).2.gpu.history .image x := by
  have hDropped : Advanced mark b (fun _ => False) h.gpu (dropFramebuffers (t, h)).2.gpu :=
    advanced_dropFramebuffers hPre hBelow.framebuffers
  have hPass : ∀ p ∈ t.pass.toList, p < mark :=
    fun p hp => hBelow.pass p (Option.mem_toList.mp hp)
  -- framebuffers and passes are destroyed first, then the depth image if there is one
  let h' := (dropFramebuffers (t, h)).2.onGpu (Gpu.destroyAll .renderPass t.pass.toList)
  have hTorn : Advanced mark b (fun _ => False) h.gpu h'.gpu :=
    hDropped.trans ⟨hDropped.preparing.destroyAll .renderPass hPass, remakes_destroyAll _ _ _⟩
  obtain ⟨pass, depthFormat, depth, framebuffers, generation⟩ := t
  cases depth with
  | none =>
    refine ⟨rfl, hTorn, ?_⟩
    rintro x - ⟨d, hd, -⟩
    cases hd
  | some d =>
    refine ⟨rfl, hTorn.trans (advanced_destroyDepth hTorn.preparing (hBelow.depth d rfl)), ?_⟩
    rintro x hPos ⟨d', hd, rfl⟩
    cases hd
    exact destroyed_destroy hPos

/-- A new pass is above the mark. -/
theorem ensures_createPass (color depth : TextureFormat) (s : Host) (hPre : s.gpu.Preparing mark) :
    (createPass color depth).Ensures s
      (fun p t => (mark ≤ p ∧ p < t.gpu.nextHandle) ∧ s.gpu.Passes t.gpu)
      (fun _ t => s.gpu.Passes t.gpu ∧ ¬ s.gpu.Obliging) := by
  refine Host.ensures_create _ _ _ nofun ?_ ?_
  · exact fun _ hPasses hNext => ⟨⟨hPre.marked.le, hNext⟩, hPasses⟩
  · exact fun _ _ hPasses hHindered => ⟨hPasses, hHindered⟩

/-- What new targets are like. -/
theorem ensures_create (color depthFormat : TextureFormat) (extent : Extent) (setup : CommandBuffer)
    (h : Host) (hPre : h.gpu.Preparing mark) :
    (create color depthFormat extent setup).Ensures h
      (fun t h' => t.Fresh mark h'.gpu ∧ Advanced mark setup.handle t.Depth h.gpu h'.gpu)
      (fun _ _ => True) := by
  rw [create, ensures_bind]
  refine (ensures_createDepth depthFormat extent setup h hPre).mono ?_ (fun _ _ _ => trivial)
  rintro d h₁ ⟨hImage, hDepth⟩
  rw [ensures_bind, ensures_undoing]
  refine (ensures_createPass color depthFormat h₁ hDepth.preparing).mono ?_ (fun _ _ _ => trivial)
  rintro p h₂ ⟨hPass, hPasses⟩
  rw [ensures_pure]
  refine ⟨fresh_of_made rfl hImage hPasses rfl hPass rfl, ?_⟩
  refine (hDepth.trans (hDepth.preparing.advanced hPasses)).mono ?_
  rintro x rfl
  exact ⟨d, rfl, rfl⟩

/-- What remade targets are like. If that broke off, the setup buffer has barriers on depth images
that are destroyed or belong to the targets there are now. -/
theorem ensures_recreate (color : TextureFormat) (extent : Extent) (setup : CommandBuffer)
    (t : RenderTargets) (h : Host) (hPre : h.gpu.Preparing mark) (hBelow : t.Below mark) :
    (recreate color extent setup).Ensures (t, h)
      (fun _ s => s.1.Fresh mark s.2.gpu ∧ Advanced mark setup.handle s.1.Depth h.gpu s.2.gpu ∧
        ∀ x, 0 < x → t.Depth x → Destroyed s.2.gpu.history .image x)
      (fun _ s => s.1.Below s.2.gpu.nextHandle ∧
        BrokeOff setup.handle
          (fun x => 0 < x ∧ (Destroyed s.2.gpu.history .image x ∨ s.1.Depth x)) h.gpu s.2.gpu) := by
  obtain ⟨hTorn, hAdvanced, hGone⟩ :=
    advanced_tearDown (b := setup.handle) hPre hBelow
  simp only [recreate, ensures_bind, ensures_change]
  generalize tearDown (t, h) = s at hTorn hAdvanced hGone ⊢
  obtain ⟨t₁, h₁⟩ := s
  dsimp only at hTorn hAdvanced hGone ⊢
  -- what was torn down keeps no handle but zero
  have hBelow₁ : ∀ {n}, h₁.gpu.nextHandle ≤ n → t₁.Below n := fun hLe =>
    below_of_torn (Nat.lt_of_lt_of_le hAdvanced.preparing.orderly.pos hLe) hTorn
  have hBare : t₁.framebuffers = [] := congrArg RenderTargets.framebuffers hTorn
  simp only [ensures_get, Op.onHost, ensures_onSecond]
  refine (ensures_createDepth _ _ setup h₁ hAdvanced.preparing).mono ?_ ?_
  · -- there is a depth image
    rintro d h₂ ⟨hImage, hDepth⟩
    have hBegun : Advanced mark setup.handle (· = d.image) h.gpu h₂.gpu :=
      (hAdvanced.mono fun _ hx => hx.elim).trans hDepth
    refine (ensures_createPass color _ h₂ hBegun.preparing).mono ?_ ?_
    · -- and a pass
      rintro p h₃ ⟨hPass, hPasses⟩
      simp only [ensures_ofOption, ensures_log]
      intro generation _
      refine ⟨fresh_of_made rfl hImage hPasses rfl hPass hBare, ?_, ?_⟩
      · refine (hBegun.trans (hBegun.preparing.advanced hPasses)).mono ?_
        rintro x rfl
        exact ⟨d, rfl, rfl⟩
      · intro x hPos hOld
        exact (hGone x hPos hOld).of_suffix
          (hDepth.remakes.suffix.trans hPasses.history.suffix)
    · -- no pass: the barrier is on the depth image there is now
      rintro e h₃ ⟨hPasses, hHindered⟩
      have hFirst := hBelow₁ (Nat.le_trans hDepth.remakes.nextHandle hPasses.nextHandle)
      refine ⟨⟨hFirst.pass, ?_, hFirst.framebuffers⟩, ?_⟩
      · rintro d' ⟨⟩
        exact Nat.lt_of_lt_of_le hImage.2 hPasses.nextHandle
      · refine ((hBegun.preparing.brokeOff hPasses hHindered).after hBegun.remakes).mono ?_
        rintro x rfl
        exact ⟨Nat.lt_of_lt_of_le hPre.marked.pos hImage.1, .inr ⟨d, rfl, rfl⟩⟩
  · -- no depth image: the barrier is on one that is destroyed
    intro e h₂ hBroken
    refine ⟨hBelow₁ hBroken.remakes.nextHandle, ?_⟩
    refine (hBroken.mono fun x hx => ⟨hx.1, .inl hx.2⟩).after
      (hAdvanced.remakes.mono fun _ hx => hx.elim)

/-- Framebuffers were made for targets, and nothing else changed. -/
structure Framed (mark : Handle) (t t' : RenderTargets) (g : Gpu) (count : Nat) : Prop where
  pass : t'.pass = t.pass
  depth : t'.depth = t.depth
  made : ∃ fs, t'.framebuffers = t.framebuffers ++ fs ∧ fs.length = count ∧
    ∀ f ∈ fs, mark ≤ f ∧ f < g.nextHandle

/-- Each view gets a framebuffer; if one is refused, those made before it are still there. -/
theorem ensures_addFramebuffers (extent : Extent) (views : List Handle) (t : RenderTargets)
    (h : Host) (hPre : h.gpu.Preparing mark) (b : Handle) (own : Handle → Prop) :
    (addFramebuffers extent views).Ensures (t, h)
      (fun _ s => Framed mark t s.1 s.2.gpu views.length ∧ Advanced mark b own h.gpu s.2.gpu)
      (fun _ s => (∃ count, Framed mark t s.1 s.2.gpu count) ∧ BrokeOff b own h.gpu s.2.gpu) := by
  induction views generalizing t h with
  | nil =>
    rw [addFramebuffers, ensures_pure]
    exact ⟨⟨rfl, rfl, [], (List.append_nil _).symm, rfl, List.forall_mem_nil _⟩,
      hPre.advanced (.refl _)⟩
  | cons view rest ih =>
    simp only [addFramebuffers, ensures_bind, ensures_get, ensures_change, Op.onHost,
      ensures_onSecond]
    refine Host.ensures_create _ _ _ (by rintro ⟨⟩) ?_ ?_
    · intro h₁ hPasses hNext
      have hMade : Advanced mark b own h.gpu h₁.gpu := hPre.advanced hPasses
      -- what the rest of the views get stands behind the framebuffer of the first
      have hOne : ∀ {t' g count}, h₁.gpu.nextHandle ≤ g.nextHandle →
          Framed mark { t with framebuffers := t.framebuffers ++ [h.gpu.nextHandle] } t' g count →
            Framed mark t t' g (count + 1) := by
        rintro t' g count hLe ⟨hPass, hDepth, fs, hFs, hCount, hAbove⟩
        refine ⟨hPass, hDepth, h.gpu.nextHandle :: fs, ?_, congrArg Nat.succ hCount, ?_⟩
        · rw [hFs, List.append_assoc]
          rfl
        · intro f hf
          rcases List.mem_cons.mp hf with rfl | hf
          · exact ⟨hPre.marked.le, Nat.lt_of_lt_of_le hNext hLe⟩
          · exact hAbove f hf
      refine (ih _ h₁ hMade.preparing).mono ?_ ?_
      · rintro - ⟨t', h'⟩ ⟨hFramed, hAdvanced⟩
        exact ⟨hOne hAdvanced.remakes.nextHandle hFramed, hMade.trans hAdvanced⟩
      · rintro e ⟨t', h'⟩ ⟨⟨count, hFramed⟩, hBroken⟩
        exact ⟨⟨count + 1, hOne hBroken.remakes.nextHandle hFramed⟩, hBroken.after hMade.remakes⟩
    · intro e h₁ hPasses hHindered
      exact ⟨⟨0, rfl, rfl, [], (List.append_nil _).symm, rfl, List.forall_mem_nil _⟩,
        hPre.brokeOff hPasses hHindered⟩

/-- New framebuffers, one per view. -/
theorem ensures_createFramebuffers (views : List Handle) (extent : Extent) (t : RenderTargets)
    (h : Host) (hPre : h.gpu.Preparing mark) (hOld : ∀ f ∈ t.framebuffers, f < mark)
    (b : Handle) (own : Handle → Prop) :
    (createFramebuffers views extent).Ensures (t, h)
      (fun _ s => Framed mark { t with framebuffers := [] } s.1 s.2.gpu views.length ∧
        Advanced mark b own h.gpu s.2.gpu)
      (fun _ s => (∃ count, Framed mark { t with framebuffers := [] } s.1 s.2.gpu count) ∧
        BrokeOff b own h.gpu s.2.gpu) := by
  have hDropped : Advanced mark b own h.gpu (dropFramebuffers (t, h)).2.gpu :=
    advanced_dropFramebuffers hPre hOld
  rw [createFramebuffers, ensures_bind, ensures_change]
  refine (ensures_addFramebuffers extent views _ _ hDropped.preparing b own).mono ?_ ?_
  · rintro - s ⟨hFramed, hAdvanced⟩
    exact ⟨hFramed, hDropped.trans hAdvanced⟩
  · rintro e s ⟨hFramed, hBroken⟩
    exact ⟨hFramed, hBroken.after hDropped.remakes⟩

end RenderTargets

end RenderLoop
