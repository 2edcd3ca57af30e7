import RenderLoop.Gpu.Allocation
import RenderLoop.Gpu.Probe
import RenderLoop.Proofs.Gpu.History
import RenderLoop.Proofs.Op.Within

/-!
# RenderLoop — calls that leave the screen alone

A device **goes on** (`Goes`) in a way that its history does, without giving out a
handle twice, without a change to the images of its swapchains and with the same
answers to the same questions. Most calls pass by all that frames are made of:
after them nothing more is destroyed of what frames name, and every buffer has the
commands it had (`Gpu.Passes`).

These are the **routine** calls. What else they keep to is said by other relations,
which hold of a call when they hold of what it is made of (`Gpu.Routine`). Of these calls
the **plain** ones, which are most of them, create nothing of a size (`Gpu.Plain`).
-/

namespace RenderLoop

/-- What a swapchain is, apart from whose turn it is. -/
def SimulatedChain.stock (c : SimulatedChain) : Handle × List Handle := (c.handle, c.images)

namespace Gpu

/-- The swapchains of a device with their images. -/
def stock (g : Gpu) : List (Handle × List Handle) := g.chains.map SimulatedChain.stock

/-- What decides the answers of a device about its surface, and which calls fail. -/
def setting (g : Gpu) : List GpuFault × SurfaceCapabilities × List (Int × Int) × List Int :=
  (g.faults, g.capabilities, g.formats, g.presentModes)

/-- A device goes on in a way that its history does. -/
structure Goes (H : GpuHistory → GpuHistory → Prop) (g g' : Gpu) : Prop where
  history : H g.history g'.history
  nextHandle : g.nextHandle ≤ g'.nextHandle
  stock : g'.stock = g.stock
  setting : g'.setting = g.setting

/-- A device goes on without anything that frames name being destroyed. -/
abbrev Spares : Gpu → Gpu → Prop := Goes GpuHistory.Spares

/-- A device goes on without any buffer being touched, either. -/
abbrev Passes : Gpu → Gpu → Prop := Goes GpuHistory.Passes

section Goes

variable {H H' : GpuHistory → GpuHistory → Prop} {g g' g'' : Gpu}

/-- A history that goes on in one way goes on in a wider one. -/
theorem Goes.mono (h : Goes H g g') (hH : ∀ {a b}, H a b → H' a b) : Goes H' g g' where
  history := hH h.history
  nextHandle := h.nextHandle
  stock := h.stock
  setting := h.setting

theorem Goes.trans (h : Goes H g g') (h' : Goes H g' g'')
    (hH : ∀ {a b c}, H a b → H b c → H a c) : Goes H g g'' where
  history := hH h.history h'.history
  nextHandle := Nat.le_trans h.nextHandle h'.nextHandle
  stock := h'.stock.trans h.stock
  setting := h'.setting.trans h.setting

/-- A change that does not show. -/
theorem Goes.of_same (hH : H g.history g.history) (hHistory : g'.history = g.history)
    (hNext : g'.nextHandle = g.nextHandle) (hStock : g'.stock = g.stock)
    (hSetting : g'.setting = g.setting) : Goes H g g' where
  history := by rw [hHistory]; exact hH
  nextHandle := Nat.le_of_eq hNext.symm
  stock := hStock
  setting := hSetting

/-- A call adds one event, and changes nothing else that shows. -/
theorem goes_happen {call : GpuCall} {outcome : GpuOutcome}
    (hH : H g.history (⟨call, outcome⟩ :: g.history)) : Goes H g (g.happen call outcome) where
  history := hH
  nextHandle := Nat.le_refl _
  stock := rfl
  setting := rfl

end Goes

theorem Passes.refl (g : Gpu) : Passes g g := ⟨.refl _, Nat.le_refl _, rfl, rfl⟩

theorem Passes.trans {g g' g'' : Gpu} (h : Passes g g') (h' : Passes g' g'') : Passes g g'' :=
  Goes.trans h h' GpuHistory.Passes.trans

theorem Passes.spares {g g' : Gpu} (h : Passes g g') : Spares g g' :=
  Goes.mono h GpuHistory.Passes.toSpares

theorem Spares.trans {g g' g'' : Gpu} (h : Spares g g') (h' : Spares g' g'') : Spares g g'' :=
  Goes.trans h h' GpuHistory.Spares.trans

theorem passes_of_same {g g' : Gpu} (hHistory : g'.history = g.history)
    (hNext : g'.nextHandle = g.nextHandle) (hStock : g'.stock = g.stock)
    (hSetting : g'.setting = g.setting) : Passes g g' :=
  Goes.of_same (GpuHistory.Passes.refl _) hHistory hNext hStock hSetting

/-- A routine event passes by. -/
theorem passes_happen {call : GpuCall} {outcome : GpuOutcome}
    (hRoutine : GpuEvent.isRoutine ⟨call, outcome⟩ = true) (g : Gpu) :
    Passes g (g.happen call outcome) :=
  goes_happen (GpuHistory.passes_cons hRoutine _)

theorem passes_count (call : String) (g : Gpu) : Passes g (g.count call) :=
  passes_of_same rfl rfl rfl rfl

-- ---------------------------------------------------------------------------
-- Routine calls
-- ---------------------------------------------------------------------------

/-- Relations between a device and what becomes of it. -/
class Passage (R : Gpu → Gpu → Prop) : Prop where
  refl : ∀ g, R g g
  trans : ∀ {g g' g''}, R g g' → R g' g'' → R g g''

/-- Nothing becomes of a device that is not called. -/
instance : Passage (· = ·) := ⟨fun _ => rfl, Eq.trans⟩

/-- Relations between devices that questions keep to. -/
class Silent (R : Gpu → Gpu → Prop) : Prop extends Passage R where
  /-- What does not show: counters and scripts. -/
  of_same : ∀ {g g'}, g'.history = g.history → g'.nextHandle = g.nextHandle → g'.stock = g.stock →
    g'.setting = g.setting → g'.frameMemory = g.frameMemory → R g g'

/-- Relations between devices that routine calls keep to. Such a call destroys nothing that frames
name, and touches neither a buffer of commands nor the memory of the frame buffer. -/
class Routine (R : Gpu → Gpu → Prop) : Prop extends Silent R where
  takeHandles : ∀ n g, R g (g.takeHandles n).2
  happen : ∀ {call outcome}, GpuEvent.isRoutine ⟨call, outcome⟩ = true → ∀ g,
    R g (g.happen call outcome)

/-- Relations between devices that plain calls keep to: the routine ones that create nothing of a
size. -/
class Plain (R : Gpu → Gpu → Prop) : Prop extends Silent R where
  takeHandles : ∀ n g, R g (g.takeHandles n).2
  happen : ∀ {call outcome}, GpuEvent.isRoutine ⟨call, outcome⟩ = true → call.size? = none → ∀ g,
    R g (g.happen call outcome)

/-- Relations between devices that are not about the memory of the frame buffer. -/
class Storable (R : Gpu → Gpu → Prop) : Prop where
  store : ∀ (g : Gpu) memory, R g { g with frameMemory := memory }

instance {R : Gpu → Gpu → Prop} [hR : Routine R] : Plain R where
  takeHandles := hR.takeHandles
  happen hRoutine _ := hR.happen hRoutine

instance : Routine Passes where
  refl := .refl
  trans := .trans
  of_same hHistory hNext hStock hSetting _ := passes_of_same hHistory hNext hStock hSetting
  takeHandles _ _ := ⟨.refl _, Nat.le_add_right _ _, rfl, rfl⟩
  happen := passes_happen

instance : Storable Passes := ⟨fun _ _ => passes_of_same rfl rfl rfl rfl⟩

section Silent

variable {R : Gpu → Gpu → Prop} [hR : Silent R]

theorem silent_count (call : String) (g : Gpu) : R g (g.count call) :=
  hR.of_same rfl rfl rfl rfl rfl

/-- A question changes only counters, whether it is answered or refused. -/
theorem silent_ask {α : Type} (call : String) (answer : Gpu → α) (g : Gpu) :
    R g (ask call answer g).2 := by
  rw [ask]
  split <;> exact silent_count call g

/-- Providing memory for a depth image is asking for it. -/
theorem silent_provideDepthMemory (g : Gpu) : R g (provideDepthMemory g).2 := by
  have hAsk : R g (ask "vkAllocateMemory" (fun _ => ()) g).2 := silent_ask _ _ g
  rw [provideDepthMemory]
  split
  · exact hR.refl g
  · split
    · -- the answer is told apart, whether there is memory or not
      rename_i hAllocate
      rw [allocateMemory] at hAllocate
      rw [hAllocate] at hAsk
      exact hR.trans hAsk (hR.of_same rfl rfl rfl rfl rfl)
    · rename_i hAllocate
      rw [allocateMemory] at hAllocate
      rw [hAllocate] at hAsk
      exact hAsk

/-- Memory that is written to is asked for, and then mapped. -/
theorem silent_allocateAccessible (g : Gpu) : R g (allocateAccessible g).2 := by
  have hAllocate : R g (allocateMemory g).2 := silent_ask _ _ g
  have hMap : ∀ g, R g (mapMemory g).2 := silent_ask _ _
  rw [allocateAccessible]
  split
  · rename_i hEq
    rw [hEq] at hAllocate
    exact hAllocate
  · rename_i g₁ hEq
    rw [hEq] at hAllocate
    have hMapped := hMap g₁
    split <;> (rename_i hEq'; rw [hEq'] at hMapped; exact hR.trans hAllocate hMapped)

/-- Providing memory for a buffer is silent, if it may be stored that there is some. -/
theorem silent_provideFrameMemory [hMemory : Storable R] (size : UInt64) (g : Gpu) :
    R g (provideFrameMemory size g).2 := by
  -- a first attempt, and a second one if it fails
  have hTwo : R g (allocateInTwoAttempts g).2 := by
    have hFirst : R g (allocateAccessible g).2 := silent_allocateAccessible g
    rw [allocateInTwoAttempts]
    split <;> (rename_i hEq; rw [hEq] at hFirst)
    · exact hFirst
    · exact hR.trans hFirst (silent_allocateAccessible _)
  rw [provideFrameMemory]
  split
  · exact hR.refl g
  · split <;> (rename_i hEq; rw [hEq] at hTwo)
    · exact hR.trans hTwo (hMemory.store _ _)
    · exact hTwo

/-- A call keeps to what its effect and the line in the history keep to. -/
theorem silent_attempt {α : Type} {call : GpuCall} {effect : Gpu → α × GpuOutcome × Gpu}
    (hFailed : ∀ code (g : Gpu), R g (g.happen call (.failed code)))
    (hEffect : ∀ g, R g (effect g).2.2)
    (hDone : ∀ g g', R g' (g'.happen call (effect g).2.1)) (g : Gpu) :
    R g (attempt call effect g).2 := by
  cases hRefusal : g.refusal? call.name with
  | some code =>
    rw [attempt_of_refusal hRefusal]
    exact hR.trans (silent_count _ g) (hFailed code _)
  | none =>
    rw [attempt_of_none hRefusal]
    exact hR.trans (hR.trans (silent_count _ g) (hEffect _)) (hDone _ _)

/-- Creating an object, which takes a handle, keeps to what its effect and its line in the history
keep to. -/
theorem silent_create {creation : Creation} (hTake : ∀ g, R g g.takeHandle.2)
    (hSettle : ∀ x g, R g (g.settle creation x))
    (hHappen : ∀ outcome g, R g (g.happen (.create creation) outcome)) (g : Gpu) :
    R g (create creation g).2 := by
  refine silent_attempt ?_ ?_ ?_ g
  · exact fun _ => hHappen _
  · exact fun g => hR.trans (hTake g) (hSettle g.nextHandle _)
  · exact fun _ => hHappen _

end Silent

section Routine

variable {R : Gpu → Gpu → Prop}

/-- Only a swapchain brings something along. -/
theorem settle_of_kind {creation : Creation} (hKind : creation.kind ≠ .swapchain) (x : Handle)
    (g : Gpu) : g.settle creation x = g := by
  cases creation <;> first | rfl | exact absurd rfl hKind

/-- Creating anything but a swapchain passes by. -/
theorem routine_create [hR : Routine R] {creation : Creation} (hKind : creation.kind ≠ .swapchain)
    (g : Gpu) : R g (create creation g).2 := by
  refine silent_create (hR.takeHandles 1) (fun x g => ?_) (fun _ => hR.happen rfl) g
  rw [settle_of_kind hKind]
  exact hR.refl g

variable [hR : Plain R]

/-- A call that passes by when it has its effect and when it is refused. -/
theorem routine_attempt {α : Type} {call : GpuCall} {effect : Gpu → α × GpuOutcome × Gpu}
    (hFailed : ∀ code, GpuEvent.isRoutine ⟨call, .failed code⟩ = true)
    (hEffect : ∀ g, R g (effect g).2.2)
    (hRoutine : ∀ g, GpuEvent.isRoutine ⟨call, (effect g).2.1⟩ = true)
    (hSize : call.size? = none) (g : Gpu) : R g (attempt call effect g).2 := by
  refine silent_attempt ?_ hEffect ?_ g
  · exact fun code => hR.happen (hFailed code) hSize
  · exact fun g => hR.happen (hRoutine g) hSize

/-- A routine call that answers nothing. -/
theorem routine_perform {call : GpuCall}
    (hFailed : ∀ code, GpuEvent.isRoutine ⟨call, .failed code⟩ = true := by exact fun _ => rfl)
    (hDone : GpuEvent.isRoutine ⟨call, .done⟩ = true := by rfl)
    (hSize : call.size? = none := by rfl) (g : Gpu) : R g (perform call g).2 :=
  routine_attempt hFailed hR.refl (fun _ => hDone) hSize g

/-- Taking a handle is part of routine calls. -/
theorem routine_takeHandle (g : Gpu) : R g g.takeHandle.2 := hR.takeHandles 1 g

/-- Creating what has no size is plain. -/
theorem plain_create {creation : Creation} (hSize : creation.size? = none) (g : Gpu) :
    R g (create creation g).2 := by
  have hKind : creation.kind ≠ .swapchain := by
    cases creation <;> first | (cases hSize; done) | nofun
  refine silent_create routine_takeHandle (fun x g => ?_) (fun _ => hR.happen rfl hSize) g
  rw [settle_of_kind hKind]
  exact hR.refl g

/-- Getting a queue takes a handle, and never fails. -/
theorem routine_getQueue (family : Nat) (g : Gpu) : R g (g.getQueue family).2 :=
  hR.trans (routine_takeHandle g) (hR.happen rfl rfl _)

/-- Allocating command buffers takes handles for them. -/
theorem routine_allocateBuffers (pool : Handle) (count : UInt32) (g : Gpu) :
    R g (allocateBuffers pool count g).2 :=
  routine_attempt (fun _ => rfl) (hR.takeHandles _) (fun _ => rfl) rfl g

/-- Allocating sets takes handles for them. -/
theorem routine_allocateSets (pool : Handle) (layouts : List Handle) (g : Gpu) :
    R g (allocateSets pool layouts g).2 :=
  routine_attempt (fun _ => rfl) (hR.takeHandles _) (fun _ => rfl) rfl g

/-- Destroying what frames do not name passes by. -/
theorem routine_destroy {kind : ObjectKind} (x : Handle) (g : Gpu)
    (hKind : kind.isScreen = false := by rfl) : R g (g.destroy kind x) :=
  hR.happen (by simp only [GpuEvent.isRoutine, hKind, Bool.not_false]) rfl g

theorem routine_destroyIfAny {kind : ObjectKind} (x : Handle) (g : Gpu)
    (hKind : kind.isScreen = false := by rfl) : R g (g.destroyIfAny kind x) := by
  rw [destroyIfAny]
  split
  · exact hR.refl g
  · exact routine_destroy x g hKind

theorem routine_destroyAll {kind : ObjectKind} (xs : List Handle) (g : Gpu)
    (hKind : kind.isScreen = false := by rfl) : R g (g.destroyAll kind xs) := by
  induction xs generalizing g with
  | nil => exact hR.refl g
  | cons x rest ih => exact hR.trans (routine_destroy x g hKind) (ih (g.destroy kind x))

/-- An acquisition takes an outcome off the script, or moves its chain on by one image. -/
theorem routine_acquire (swapchain semaphore : Handle) (g : Gpu) :
    R g (g.acquire swapchain semaphore).2 := by
  have hNext : R g (g.nextAcquisition swapchain).2 := by
    rw [nextAcquisition]
    split
    · exact hR.of_same rfl rfl rfl rfl rfl
    · refine hR.of_same rfl rfl ?_ rfl rfl
      -- whose turn it is does not count for what a swapchain is
      rw [stock, stock, List.map_map]
      refine List.map_congr_left ?_
      intro c _
      rw [Function.comp_apply]
      split <;> rfl
  refine hR.trans hNext (hR.happen ?_ rfl _)
  split <;> rfl

/-- A presentation takes an outcome off the script. -/
theorem routine_present (waits : List Handle) (swapchain : Handle) (image : UInt32) (g : Gpu) :
    R g (g.present waits swapchain image).2 := by
  have hScript : R g { g with presentScript := g.presentScript.tail } :=
    hR.of_same rfl rfl rfl rfl rfl
  exact hR.trans hScript (hR.happen rfl rfl _)

end Routine

end Gpu

end RenderLoop
