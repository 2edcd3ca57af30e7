import RenderLoop.Proofs.Gpu.Growth
import RenderLoop.Proofs.Gpu.Made

/-!
# RenderLoop — the sizes of what is created

Swapchains, depth images and framebuffers are created at a size; nothing else has one.
A device that goes on **at** sizes of some kind (`Gpu.GoesAt`) answers the same
questions in the same way, and whatever it is asked to create meanwhile is of that
kind, if it has a size at all. All calls but creating something of a size are such
steps, so every one of the traversals over calls applies.

What was created is **spacious** (`GpuHistory.Spacious`) if nothing of it has an empty
size.
-/

namespace RenderLoop

namespace GpuHistory

/-- Whatever was to be created has a size of this kind, if it has one. -/
def SizesIn (P : Extent → Prop) (h : GpuHistory) : Prop :=
  ∀ e ∈ h, ∀ size, e.call.size? = some size → P size

/-- Whatever was created has an area, if it has a size. -/
def Spacious (h : GpuHistory) : Prop :=
  ∀ creation x size, Made h creation x → creation.size? = some size → size.isEmpty = false

section SizesIn

variable {P Q : Extent → Prop} {h h' : GpuHistory}

theorem SizesIn.mono (hSizes : SizesIn P h) (hPQ : ∀ size, P size → Q size) : SizesIn Q h := by
  intro e he size hSize
  exact hPQ size (hSizes e he size hSize)

/-- Sizes of a kind, one history after the other. -/
theorem SizesIn.append (hSizes : SizesIn P h) (hSizes' : SizesIn P h') : SizesIn P (h ++ h') := by
  intro e he
  rcases List.mem_append.mp he with he | he
  · exact hSizes e he
  · exact hSizes' e he

/-- The size of what was made is that which it was asked for at. -/
theorem SizesIn.of_made (hSizes : SizesIn P h) {creation : Creation} {x : Handle} {size : Extent}
    (hMade : Made h creation x) (hSize : creation.size? = some size) : P size :=
  hSizes _ hMade size hSize

theorem spacious_of_sizesIn (hSizes : SizesIn (fun size => size.isEmpty = false) h) : Spacious h :=
  fun _ _ _ => hSizes.of_made

/-- A history is spacious just if its parts are. -/
theorem spacious_append : Spacious (h ++ h') ↔ Spacious h ∧ Spacious h' := by
  constructor
  · intro hAll
    exact ⟨fun c x size hMade => hAll c x size (List.mem_append_left _ hMade),
      fun c x size hMade => hAll c x size (List.mem_append_right _ hMade)⟩
  · rintro ⟨hSpacious, hSpacious'⟩ c x size hMade
    rcases List.mem_append.mp hMade with hMade | hMade
    · exact hSpacious c x size hMade
    · exact hSpacious' c x size hMade

end SizesIn

end GpuHistory

open GpuHistory

namespace Gpu

/-- A device goes on at sizes of this kind: it answers in the same way, and what it is asked to
create has such a size, if any. -/
structure GoesAt (P : Extent → Prop) (g g' : Gpu) : Prop where
  setting : g'.setting = g.setting
  history : ∃ later, g'.history = later ++ g.history ∧ SizesIn P later

section GoesAt

variable {P : Extent → Prop} {g g' g'' : Gpu}

theorem goesAt_of_same (hHistory : g'.history = g.history) (hSetting : g'.setting = g.setting) :
    GoesAt P g g' :=
  ⟨hSetting, [], hHistory, List.forall_mem_nil _⟩

/-- Of two runs, both create at sizes of the kind. -/
theorem GoesAt.trans (h : GoesAt P g g') (h' : GoesAt P g' g'') : GoesAt P g g'' := by
  obtain ⟨later, hHistory, hSizes⟩ := h.history
  obtain ⟨later', hHistory', hSizes'⟩ := h'.history
  refine ⟨h'.setting.trans h.setting, later' ++ later, ?_, hSizes'.append hSizes⟩
  rw [hHistory', hHistory, List.append_assoc]

/-- A call goes on at the size of what it creates, if it creates anything of a size. -/
theorem goesAt_happen {call : GpuCall} (hSize : ∀ size, call.size? = some size → P size)
    (outcome : GpuOutcome) (g : Gpu) : GoesAt P g (g.happen call outcome) :=
  ⟨rfl, [⟨call, outcome⟩], rfl, List.forall_mem_singleton.mpr hSize⟩

instance : Unsized (GoesAt P) where
  refl _ := goesAt_of_same rfl rfl
  trans := .trans
  of_same hHistory _ _ hSetting _ := goesAt_of_same hHistory hSetting
  takeHandles _ _ := goesAt_of_same rfl rfl
  addChain _ _ _ := goesAt_of_same rfl rfl
  happen hNone := goesAt_happen fun _ hSize => by rw [hNone] at hSize; cases hSize

instance : Storable (GoesAt P) := ⟨fun _ _ => goesAt_of_same rfl rfl⟩

/-- What is of the kind may be created. -/
theorem admits_goesAt {size : Extent} (hP : P size) : Admits (GoesAt P) size := by
  intro _ hSize
  exact goesAt_happen fun _ hSize' => Option.some.inj (hSize.symm.trans hSize') ▸ hP

end GoesAt

end Gpu

end RenderLoop
