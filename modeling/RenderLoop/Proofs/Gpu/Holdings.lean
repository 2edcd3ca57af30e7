import Mathlib.Algebra.BigOperators.Group.List.Basic
import Mathlib.Algebra.Order.Group.Multiset
import RenderLoop.Proofs.Gpu.Growth
import RenderLoop.Proofs.Gpu.Lifetimes

/-!
# RenderLoop — what a device lends

The books of a device **balance** with an estate when everything it gave out was taken
back or is in the estate (`Gpu.Lends`). No handle is given out twice, so what is in the
estate lives (`Lends.lives`), and with an empty estate everything was taken back exactly
once (`Lends.cleared`).

There is one lemma for each kind of call: creating adds to the estate, destroying takes
from it, and all other calls leave it alone. A call may only mention what is in the
estate or comes with something that is.
-/

namespace RenderLoop

/-- Things that somebody answers for. -/
abbrev Estate := Multiset Holding

namespace Estate

/-- An object, if there is one. -/
def object (kind : ObjectKind) (x : Handle) : Estate := if x = 0 then 0 else {.object kind x}

/-- Objects of one kind, as far as there are any. -/
def objects (kind : ObjectKind) (xs : List Handle) : Estate := (xs.map (object kind)).sum

/-- Command buffers of one pool. -/
def buffers (pool : Handle) (bs : List CommandBuffer) : Estate :=
  ↑(bs.map fun b => Holding.commandBuffer pool b.handle)

/-- An object is in an estate, unless there is none. -/
def Has (estate : Estate) (kind : ObjectKind) (x : Handle) : Prop :=
  x ≠ 0 → .object kind x ∈ estate

variable {estate rest : Estate} {kind : ObjectKind} {x y : Handle} {xs ys : List Handle}
  {pool : Handle} {bs bs' : List CommandBuffer}

@[simp] theorem object_zero (kind : ObjectKind) : object kind 0 = 0 := if_pos rfl

theorem object_of_ne (hx : x ≠ 0) : object kind x = {.object kind x} := if_neg hx

@[simp] theorem objects_nil (kind : ObjectKind) : objects kind [] = 0 := rfl

@[simp] theorem objects_cons (kind : ObjectKind) (x : Handle) (xs : List Handle) :
    objects kind (x :: xs) = object kind x + objects kind xs := List.sum_cons

@[simp] theorem objects_append (kind : ObjectKind) (xs ys : List Handle) :
    objects kind (xs ++ ys) = objects kind xs + objects kind ys := by
  rw [objects, List.map_append, List.sum_append]
  rfl

/-- The order of objects does not matter. -/
theorem objects_of_perm (h : xs.Perm ys) : objects kind xs = objects kind ys :=
  (h.map _).sum_eq

@[simp] theorem buffers_nil (pool : Handle) : buffers pool [] = 0 := rfl

theorem buffers_append (pool : Handle) (bs bs' : List CommandBuffer) :
    buffers pool (bs ++ bs') = buffers pool bs + buffers pool bs' := by
  rw [buffers, List.map_append]
  exact (Multiset.coe_add _ _).symm

theorem mem_buffers (pool : Handle) {b : CommandBuffer} (hb : b ∈ bs) :
    Holding.commandBuffer pool b.handle ∈ buffers pool bs :=
  Multiset.mem_coe.mpr (List.mem_map_of_mem hb)

/-- An object is in its own estate. -/
theorem has_object (kind : ObjectKind) (x : Handle) : (object kind x).Has kind x := by
  intro hx
  rw [object_of_ne hx]
  exact Multiset.mem_singleton_self _

/-- What is in an estate of objects is of their kind. -/
theorem exists_of_mem_objects {i : Holding} (hi : i ∈ objects kind xs) : ∃ x, i = .object kind x := by
  induction xs with
  | nil => cases hi
  | cons x rest ih =>
    rw [objects_cons, object] at hi
    split at hi
    · exact ih (by rwa [zero_add] at hi)
    · rcases Multiset.mem_add.mp hi with hx | hRest
      · exact ⟨x, Multiset.mem_singleton.mp hx⟩
      · exact ih hRest

/-- What is in the estate of one object is of its kind. -/
theorem exists_of_mem_object {i : Holding} (hi : i ∈ object kind x) : ∃ x, i = .object kind x := by
  have hObjects : i ∈ objects kind [x] := by rwa [objects_cons, objects_nil, add_zero]
  exact exists_of_mem_objects hObjects

/-- What is in part of an estate is in all of it. -/
theorem Has.of_le (h : rest.Has kind x) (hLe : rest ≤ estate) : estate.Has kind x := by
  intro hx
  exact Multiset.mem_of_le hLe (h hx)

theorem Has.left (h : estate.Has kind x) (rest : Estate) : (estate + rest).Has kind x :=
  h.of_le (Multiset.le_add_right _ _)

theorem Has.right (h : rest.Has kind x) (estate : Estate) : (estate + rest).Has kind x :=
  h.of_le (Multiset.le_add_left _ _)

/-- Each object of a list is in the estate of all. -/
theorem has_of_mem (hx : x ∈ xs) : (objects kind xs).Has kind x := by
  induction xs with
  | nil => cases hx
  | cons y rest ih =>
    rw [objects_cons]
    rcases List.mem_cons.mp hx with rfl | hRest
    · exact (has_object kind x).left _
    · exact (ih hRest).right _

end Estate

open Estate GpuHistory

-- ---------------------------------------------------------------------------
-- Devices
-- ---------------------------------------------------------------------------

/-- What the images or the sets of an event come with. -/
def GpuEvent.hosts (e : GpuEvent) : List Holding :=
  match e.call, e.outcome with
  | .swapchainImages chain, .handles _ => [.object .swapchain chain]
  | .allocateSets pool _, .handles _ => [.object .descriptorPool pool]
  | _, _ => []

/-- An event that changes nothing about what is held. -/
structure GpuEvent.Idle (e : GpuEvent) : Prop where
  given : e.given = []
  taken : e.taken = []
  hosts : e.hosts = []

namespace Gpu

/-- The books of a device balance with an estate, and its history is in order. -/
structure Lends (g : Gpu) (estate : Estate) : Prop where
  balance : (given g.history : Estate) = taken g.history + estate
  nodup : (given g.history).Nodup
  fresh : ∀ i ∈ given g.history, 0 < i.handle ∧ i.handle < g.nextHandle
  pos : 0 < g.nextHandle
  hosted : ∀ e ∈ g.history, ∀ i ∈ e.hosts, i ∈ given g.history
  mentionsAlive : MentionsAlive g.history

variable {g g' : Gpu} {estate estate' : Estate} {kind : ObjectKind} {x pool : Handle}
  {call : GpuCall} {outcome : GpuOutcome}

/-- A device that nothing has happened to lends nothing. -/
theorem lends_of_new (hHistory : g.history = []) (hPos : 0 < g.nextHandle) : g.Lends 0 := by
  refine ⟨?_, ?_, ?_, hPos, ?_, ?_⟩ <;> rw [hHistory]
  · rfl
  · exact List.nodup_nil
  · exact List.forall_mem_nil _
  · exact List.forall_mem_nil _
  · exact trivial

namespace Lends

/-- What was given out was taken back or is in the estate, counted. -/
theorem count_given (h : g.Lends estate) (i : Holding) :
    (given g.history).count i = (taken g.history).count i + estate.count i := by
  have hCount := congrArg (Multiset.count i) h.balance
  rwa [Multiset.count_add, Multiset.coe_count, Multiset.coe_count] at hCount

/-- What is in the estate was given out. -/
theorem mem_given (h : g.Lends estate) {i : Holding} (hi : i ∈ estate) : i ∈ given g.history := by
  have hCount := h.count_given i
  have hHeld := Multiset.count_pos.mpr hi
  -- it is held at least once, and given out as often as taken back and held
  exact List.count_pos_iff.mp (by omega)

/-- What is in the estate lives. -/
theorem lives (h : g.Lends estate) {i : Holding} (hi : i ∈ estate) : Lives g.history i := by
  refine ⟨h.mem_given hi, fun hTaken => ?_⟩
  have hCount := h.count_given i
  have hOnce := List.nodup_iff_count_le_one.mp h.nodup i
  have hHeld := Multiset.count_pos.mpr hi
  have hGone := List.count_pos_iff.mpr hTaken
  omega

/-- With nothing left, everything was taken back exactly once. -/
theorem cleared (h : g.Lends 0) : Cleared g.history := by
  have hOnce : ∀ i ∈ given g.history, (taken g.history).count i = 1 := by
    intro i hi
    have hCount := h.count_given i
    rw [Multiset.count_zero, List.count_eq_one_of_mem h.nodup hi] at hCount
    exact hCount.symm
  refine ⟨hOnce, fun hListed => ?_, fun ⟨layouts, hAllocated⟩ => ?_⟩
  · exact hOnce _ (h.hosted _ hListed _ (List.mem_singleton_self _))
  · exact hOnce _ (h.hosted _ hAllocated _ (List.mem_singleton_self _))

/-- Nothing is in the estate twice. -/
theorem nodup_estate (h : g.Lends estate) : estate.Nodup := by
  rw [Multiset.nodup_iff_count_le_one]
  intro i
  have hCount := h.count_given i
  have hOnce := List.nodup_iff_count_le_one.mp h.nodup i
  omega

/-- As long as something is left, not everything was taken back. -/
theorem not_cleared (h : g.Lends estate) (hEstate : estate ≠ 0) : ¬ Cleared g.history := by
  intro hCleared
  obtain ⟨i, hi⟩ := Multiset.exists_mem_of_ne_zero hEstate
  obtain ⟨hGiven, hNot⟩ := h.lives hi
  have hOnce := hCleared.once i hGiven
  rw [List.count_eq_zero_of_not_mem hNot] at hOnce
  cases hOnce

-- ---------------------------------------------------------------------------
-- Mentions
-- ---------------------------------------------------------------------------

/-- What is in the estate may be named. -/
theorem permits_object (h : g.Lends estate) (hHas : estate.Has kind x) :
    Permits g.history (.object kind x) := by
  intro hx
  exact h.lives (hHas hx)

theorem permits_objects (h : g.Lends estate) {xs : List Handle} (hHas : ∀ x ∈ xs, estate.Has kind x) :
    ∀ m ∈ xs.map (Mention.object kind), Permits g.history m := by
  rw [List.forall_mem_map]
  exact fun x hx => h.permits_object (hHas x hx)

/-- An image in the estate may be named. -/
theorem permits_image (h : g.Lends estate) (hHas : estate.Has .image x) :
    Permits g.history (.image x) := by
  intro hx
  exact .inl (h.lives (hHas hx))

/-- Images of a swapchain may be mentioned as long as that is there. -/
theorem permits_listed (h : g.Lends estate) {chain : Handle} {images : List Handle}
    (hChain : .object .swapchain chain ∈ estate) (hListed : Listed g.history chain images)
    (hx : x ∈ images) : Permits g.history (.image x) :=
  fun _ => .inr ⟨chain, images, hListed, hx, h.lives hChain⟩

/-- A command buffer may be named as long as its pool is there. -/
theorem permits_buffer (h : g.Lends estate) (hPool : .object .commandPool pool ∈ estate)
    (hx : .commandBuffer pool x ∈ estate) : Permits g.history (.commandBuffer x) :=
  fun _ => ⟨pool, h.lives hx, h.lives hPool⟩

/-- A descriptor set may be named as long as its pool is there. -/
theorem permits_set (h : g.Lends estate) {sets : List Handle}
    (hPool : .object .descriptorPool pool ∈ estate) (hSets : Allocated g.history pool sets)
    (hx : x ∈ sets) : Permits g.history (.descriptorSet x) :=
  fun _ => ⟨pool, sets, hSets, hx, h.lives hPool⟩

-- ---------------------------------------------------------------------------
-- Events
-- ---------------------------------------------------------------------------

/-- A change that does not show. -/
theorem of_same (h : g.Lends estate) (hHistory : g'.history = g.history)
    (hNext : g.nextHandle ≤ g'.nextHandle) : g'.Lends estate := by
  refine ⟨?_, ?_, ?_, Nat.lt_of_lt_of_le h.pos hNext, ?_, ?_⟩ <;> rw [hHistory]
  · exact h.balance
  · exact h.nodup
  · exact fun i hi => ⟨(h.fresh i hi).1, Nat.lt_of_lt_of_le (h.fresh i hi).2 hNext⟩
  · exact h.hosted
  · exact h.mentionsAlive

/-- One more event: what it gives out is new, and the books balance with the new estate. -/
theorem cons (h : g.Lends estate) {e : GpuEvent} (hHistory : g'.history = e :: g.history)
    (hNext : g.nextHandle ≤ g'.nextHandle)
    (hBalance : (e.given : Estate) + estate = e.taken + estate')
    (hNew : ∀ i ∈ e.given, g.nextHandle ≤ i.handle ∧ i.handle < g'.nextHandle)
    (hNodup : e.given.Nodup) (hMentions : ∀ m ∈ e.call.mentions, Permits g.history m)
    (hHosts : ∀ i ∈ e.hosts, i ∈ estate) : g'.Lends estate' := by
  refine ⟨?_, ?_, ?_, Nat.lt_of_lt_of_le h.pos hNext, ?_, ?_⟩ <;> rw [hHistory]
  · -- what was given out before balances with what was taken back before and the old estate
    calc (given (e :: g.history) : Estate)
        = e.given + (taken g.history + estate) := by
          rw [given_cons, ← Multiset.coe_add, h.balance]
      _ = taken g.history + (e.given + estate) := add_left_comm _ _ _
      _ = taken g.history + (e.taken + estate') := by rw [hBalance]
      _ = e.taken + taken g.history + estate' := by
          rw [← add_assoc, add_comm (taken g.history : Estate)]
      _ = taken (e :: g.history) + estate' := by rw [taken_cons, ← Multiset.coe_add]
  · rw [given_cons, List.nodup_append]
    refine ⟨hNodup, h.nodup, ?_⟩
    -- handles are given out in order, so that a new thing is none of the old
    rintro i hi _ hOld rfl
    exact Nat.not_lt.mpr (hNew i hi).1 (h.fresh i hOld).2
  · rw [given_cons]
    intro i hi
    rcases List.mem_append.mp hi with hi | hi
    · exact ⟨Nat.lt_of_lt_of_le h.pos (hNew i hi).1, (hNew i hi).2⟩
    · exact ⟨(h.fresh i hi).1, Nat.lt_of_lt_of_le (h.fresh i hi).2 hNext⟩
  · rw [given_cons]
    intro d hd i hi
    refine List.mem_append_right _ ?_
    rcases List.mem_cons.mp hd with rfl | hd
    · exact h.mem_given (hHosts i hi)
    · exact h.hosted d hd i hi
  · exact ⟨hMentions, h.mentionsAlive⟩

/-- An event that only mentions things. -/
theorem happen (h : g.Lends estate) (hIdle : GpuEvent.Idle ⟨call, outcome⟩)
    (hMentions : ∀ m ∈ call.mentions, Permits g.history m) :
    (g.happen call outcome).Lends estate := by
  refine h.cons rfl (Nat.le_refl _) ?_ ?_ ?_ hMentions ?_
  · rw [hIdle.given, hIdle.taken]
  · rw [hIdle.given]
    exact List.forall_mem_nil _
  · rw [hIdle.given]
    exact List.nodup_nil
  · rw [hIdle.hosts]
    exact List.forall_mem_nil _

/-- Something goes back to the device. -/
theorem release (h : g.Lends estate) (hGiven : GpuEvent.given ⟨call, outcome⟩ = [])
    (hTaken : estate = GpuEvent.taken ⟨call, outcome⟩ + estate')
    (hHosts : GpuEvent.hosts ⟨call, outcome⟩ = [])
    (hMentions : ∀ m ∈ call.mentions, Permits g.history m) :
    (g.happen call outcome).Lends estate' := by
  refine h.cons rfl (Nat.le_refl _) ?_ ?_ ?_ hMentions ?_
  · rw [hGiven, Multiset.coe_nil, zero_add]
    exact hTaken
  · rw [hGiven]
    exact List.forall_mem_nil _
  · rw [hGiven]
    exact List.nodup_nil
  · rw [hHosts]
    exact List.forall_mem_nil _

/-- An object goes back to the device. -/
theorem destroy (h : g.Lends (Estate.object kind x + estate)) : (g.destroy kind x).Lends estate := by
  refine h.release rfl ?_ rfl ?_
  · rw [Estate.object, GpuEvent.taken]
    dsimp only
    split <;> rfl
  · exact List.forall_mem_singleton.mpr (h.permits_object ((has_object kind x).left estate))

/-- An object that may not be there goes back to the device. -/
theorem destroyIfAny (h : g.Lends (Estate.object kind x + estate)) :
    (g.destroyIfAny kind x).Lends estate := by
  rw [Gpu.destroyIfAny]
  split
  · rename_i hx
    rwa [hx, object_zero, zero_add] at h
  · exact h.destroy

/-- Objects go back to the device one after another. -/
theorem destroyAll {xs : List Handle} (h : g.Lends (Estate.objects kind xs + estate)) :
    (g.destroyAll kind xs).Lends estate := by
  induction xs generalizing g with
  | nil => rwa [objects_nil, zero_add] at h
  | cons x rest ih =>
    rw [objects_cons, add_assoc] at h
    exact ih h.destroy

/-- Command buffers go back to their pool. -/
theorem free {bs : List CommandBuffer} (h : g.Lends (Estate.buffers pool bs + estate))
    (hPool : .object .commandPool pool ∈ estate) :
    (g.happen (.freeBuffers pool (bs.map (·.handle))) .done).Lends estate := by
  refine h.release rfl ?_ rfl ?_
  · show Estate.buffers pool bs + estate =
      ((bs.map (·.handle)).map (Holding.commandBuffer pool) : Estate) + estate
    rw [List.map_map]
    rfl
  · have hPool' := Multiset.mem_add.mpr (.inr hPool : _ ∈ Estate.buffers pool bs ∨ _)
    refine List.forall_mem_cons.mpr ⟨fun _ => h.lives hPool', ?_⟩
    simp only [List.forall_mem_map]
    exact fun b hb => h.permits_buffer hPool' (Multiset.mem_add.mpr (.inl (mem_buffers pool hb)))

-- ---------------------------------------------------------------------------
-- Calls
-- ---------------------------------------------------------------------------

theorem count (h : g.Lends estate) (name : String) : (g.count name).Lends estate :=
  h.of_same rfl (Nat.le_refl _)

end Lends

/-- What comes of a call that can fail. -/
def Does {α : Type} (step : GpuStep α) (g : Gpu) (ok : α → Gpu → Prop) (fail : Gpu → Prop) : Prop :=
  match step g with
  | (.ok a, g') => ok a g'
  | (.error _, g') => fail g'

namespace Lends

/-- What comes of a call: it is refused and changes nothing, or it has its effect. -/
theorem does_attempt {α : Type} {effect : Gpu → α × GpuOutcome × Gpu} {ok : α → Gpu → Prop}
    (h : g.Lends estate) (hFailed : ∀ code, GpuEvent.Idle ⟨call, .failed code⟩)
    (hMentions : ∀ m ∈ call.mentions, Permits g.history m)
    (hOk : ∀ g₁ : Gpu, g₁.Lends estate → g₁.history = g.history →
      ok (effect g₁).1 ((effect g₁).2.2.happen call (effect g₁).2.1)) :
    Does (attempt call effect) g ok (fun g' => g'.Lends estate) := by
  rw [Does]
  cases hRefusal : g.refusal? call.name with
  | some code =>
    rw [attempt_of_refusal hRefusal]
    exact (h.count _).happen (hFailed code) hMentions
  | none =>
    rw [attempt_of_none hRefusal]
    exact hOk _ (h.count _) rfl

/-- A call that only mentions things. -/
theorem does_perform (h : g.Lends estate) (hMentions : ∀ m ∈ call.mentions, Permits g.history m)
    (hFailed : ∀ code, GpuEvent.Idle ⟨call, .failed code⟩ := by exact fun _ => ⟨rfl, rfl, rfl⟩)
    (hDone : GpuEvent.Idle ⟨call, .done⟩ := by exact ⟨rfl, rfl, rfl⟩) :
    Does (perform call) g (fun _ g' => g'.Lends estate) (fun g' => g'.Lends estate) := by
  refine h.does_attempt hFailed hMentions fun g₁ h₁ hHistory => h₁.happen hDone ?_
  rw [hHistory]
  exact hMentions

/-- What is created is added to the estate. -/
theorem does_create {c : Creation} (h : g.Lends estate)
    (hMentions : ∀ m ∈ c.mentions, Permits g.history m) :
    Does (create c) g (fun x g' => x ≠ 0 ∧ g'.Lends (Estate.object c.kind x + estate))
      (fun g' => g'.Lends estate) := by
  refine h.does_attempt (fun _ => ⟨rfl, rfl, rfl⟩) hMentions fun g₁ h₁ hHistory => ?_
  have hx : g₁.nextHandle ≠ 0 := Nat.ne_of_gt h₁.pos
  -- a swapchain takes handles for its images as well
  have hSettle : (g₁.takeHandle.2.settle c g₁.nextHandle).history = g₁.history ∧
      g₁.nextHandle < (g₁.takeHandle.2.settle c g₁.nextHandle).nextHandle := by
    cases c with
    | swapchain request => exact ⟨rfl, Nat.lt_of_lt_of_le (Nat.lt_succ_self _) (Nat.le_add_right _ _)⟩
    | _ => exact ⟨rfl, Nat.lt_succ_self _⟩
  refine ⟨hx, h₁.cons (congrArg (_ :: ·) hSettle.1) (Nat.le_of_lt hSettle.2) ?_ ?_ ?_ ?_ ?_⟩
  · show (↑[Holding.object c.kind g₁.nextHandle] : Estate) + estate =
      (↑([] : List Holding) : Estate) + (Estate.object c.kind g₁.nextHandle + estate)
    rw [object_of_ne hx]
    exact (zero_add _).symm
  · exact List.forall_mem_singleton.mpr ⟨Nat.le_refl _, hSettle.2⟩
  · exact List.nodup_singleton _
  · rw [hHistory]
    exact hMentions
  · exact List.forall_mem_nil _

/-- New command buffers are added to the estate. -/
theorem does_allocateBuffers (h : g.Lends estate) (hPool : .object .commandPool pool ∈ estate)
    (count : UInt32) :
    Does (allocateBuffers pool count) g
      (fun xs g' => xs.length = count.toNat ∧
        g'.Lends (Estate.buffers pool (xs.map CommandBuffer.mk) + estate))
      (fun g' => g'.Lends estate) := by
  have hMentions : ∀ g : Gpu, g.Lends estate →
      ∀ m ∈ (GpuCall.allocateBuffers pool count).mentions, Permits g.history m :=
    fun g h => List.forall_mem_singleton.mpr fun _ => h.lives hPool
  refine h.does_attempt (fun _ => ⟨rfl, rfl, rfl⟩) (hMentions g h) fun g₁ h₁ hHistory => ?_
  refine ⟨List.length_range', h₁.cons rfl (Nat.le_add_right _ _) ?_ ?_ ?_ (hMentions g₁ h₁) ?_⟩
  · rw [Estate.buffers, List.map_map]
    exact (zero_add _).symm
  · simp only [GpuEvent.given, takeHandles, List.forall_mem_map, List.mem_range'_1]
    exact fun x hx => hx
  · refine List.Nodup.map ?_ List.nodup_range'
    exact fun x y hEq => (Holding.commandBuffer.inj hEq).2
  · exact List.forall_mem_nil _

/-- Sets come with their pool, and are not in the estate themselves. -/
theorem does_allocateSets (h : g.Lends estate) {layouts : List Handle}
    (hPool : .object .descriptorPool pool ∈ estate)
    (hLayouts : ∀ x ∈ layouts, estate.Has .setLayout x) :
    Does (allocateSets pool layouts) g
      (fun sets g' => Allocated g'.history pool sets ∧ g'.Lends estate)
      (fun g' => g'.Lends estate) := by
  have hMentions : ∀ g : Gpu, g.Lends estate →
      ∀ m ∈ (GpuCall.allocateSets pool layouts).mentions, Permits g.history m := fun g h =>
    List.forall_mem_cons.mpr ⟨fun _ => h.lives hPool, h.permits_objects hLayouts⟩
  refine h.does_attempt (fun _ => ⟨rfl, rfl, rfl⟩) (hMentions g h) fun g₁ h₁ hHistory => ?_
  refine ⟨⟨layouts, List.mem_cons_self⟩,
    h₁.cons rfl (Nat.le_add_right _ _) rfl ?_ ?_ (hMentions g₁ h₁) ?_⟩
  · exact List.forall_mem_nil _
  · exact List.nodup_nil
  · exact List.forall_mem_singleton.mpr hPool

/-- The images that are found come with their swapchain. -/
theorem does_swapchainImages (h : g.Lends estate) {chain : Handle}
    (hChain : .object .swapchain chain ∈ estate) :
    Does (swapchainImages chain) g
      (fun images g' => Listed g'.history chain images ∧ g'.Lends estate)
      (fun g' => g'.Lends estate) := by
  have hAsked := h.count (GpuCall.swapchainImages chain).name
  -- the question is refused, or answered with an event
  cases hRefusal : g.refusal? (GpuCall.swapchainImages chain).name with
  | some code =>
    simp only [Does, swapchainImages, ask, hRefusal]
    exact hAsked
  | none =>
    simp only [Does, swapchainImages, ask, hRefusal]
    refine ⟨List.mem_cons_self, hAsked.cons rfl (Nat.le_refl _) rfl ?_ ?_ ?_ ?_⟩
    · exact List.forall_mem_nil _
    · exact List.nodup_nil
    · exact List.forall_mem_singleton.mpr fun _ => h.lives hChain
    · exact List.forall_mem_singleton.mpr hChain

theorem getQueue (h : g.Lends estate) (family : Nat) : (g.getQueue family).2.Lends estate := by
  have hTaken : g.takeHandle.2.Lends estate := h.of_same rfl (Nat.le_succ _)
  exact hTaken.happen ⟨rfl, rfl, rfl⟩ (List.forall_mem_nil _)

/-- An acquisition gives out nothing. -/
theorem acquire (h : g.Lends estate) {chain semaphore : Handle}
    (hChain : estate.Has .swapchain chain) (hSemaphore : estate.Has .semaphore semaphore) :
    (g.acquire chain semaphore).2.Lends estate := by
  have hNext : (g.nextAcquisition chain).2.Lends estate := by
    rw [nextAcquisition]
    split <;> exact h.of_same rfl (Nat.le_refl _)
  refine hNext.happen ?_ ?_
  · split <;> exact ⟨rfl, rfl, rfl⟩
  · exact List.forall_mem_cons.mpr ⟨hNext.permits_object hChain,
      List.forall_mem_singleton.mpr (hNext.permits_object hSemaphore)⟩

/-- A presentation gives out nothing. -/
theorem present (h : g.Lends estate) {waits : List Handle} {chain : Handle}
    (hChain : estate.Has .swapchain chain) (hWaits : ∀ x ∈ waits, estate.Has .semaphore x)
    (image : UInt32) : (g.present waits chain image).2.Lends estate := by
  have hScript : Gpu.Lends { g with presentScript := g.presentScript.tail } estate :=
    h.of_same rfl (Nat.le_refl _)
  exact hScript.happen ⟨rfl, rfl, rfl⟩ (List.forall_mem_cons.mpr
    ⟨hScript.permits_object hChain, hScript.permits_objects hWaits⟩)

end Lends

/-- Only questions were asked. -/
structure OnlyAsked (g g' : Gpu) : Prop where
  history : g'.history = g.history
  nextHandle : g'.nextHandle = g.nextHandle

instance : Silent OnlyAsked where
  refl _ := ⟨rfl, rfl⟩
  trans h h' := ⟨h'.history.trans h.history, h'.nextHandle.trans h.nextHandle⟩
  of_same hHistory hNext _ _ _ := ⟨hHistory, hNext⟩

instance : Storable OnlyAsked := ⟨fun _ _ => ⟨rfl, rfl⟩⟩

/-- Questions leave the books alone. -/
theorem Lends.of_asked (h : g.Lends estate) (hAsked : OnlyAsked g g') : g'.Lends estate :=
  h.of_same hAsked.history (Nat.le_of_eq hAsked.nextHandle.symm)

end Gpu

-- ---------------------------------------------------------------------------
-- Operations
-- ---------------------------------------------------------------------------

open Op

namespace Host

variable {α : Type} {step : GpuStep α} {s : Host} {ok : α → Gpu → Prop} {fail : Gpu → Prop}

/-- What comes of a call on the device, in a host. -/
theorem ensures_call_of_does (h : Gpu.Does step s.gpu ok fail)
    {failed : RenderError → Host → Prop} :
    (Host.call step).Ensures s
      (fun r t => match r with
        | .ok a => ok a t.gpu
        | .error _ => fail t.gpu) failed := by
  rw [Gpu.Does] at h
  rw [Host.call, ensures_act]
  cases hStep : step s.gpu with
  | mk r g =>
    rw [hStep] at h
    cases r <;> exact h

/-- What comes of a call whose failure is reported. -/
theorem ensures_answer_of_does (h : Gpu.Does step s.gpu ok fail) {report : ResultCode → Op Host α}
    (hReport : ∀ code t, fail t.gpu →
      (report code).Ensures t (fun a u => ok a u.gpu) (fun _ u => fail u.gpu)) :
    (do match ← Host.call step with
        | .ok a => pure a
        | .error code => report code : Op Host α).Ensures s (fun a t => ok a t.gpu)
      (fun _ t => fail t.gpu) := by
  rw [ensures_bind]
  refine (ensures_call_of_does h).mono ?_ fun _ _ h => h
  rintro (code | a) t hDone
  · exact hReport code t hDone
  · rw [ensures_pure]
    exact hDone

theorem ensures_setUp_of_does (source noticed told : String) (h : Gpu.Does step s.gpu ok fail) :
    (Host.setUp source noticed told step).Ensures s (fun a t => ok a t.gpu)
      (fun _ t => fail t.gpu) :=
  ensures_answer_of_does h fun _ _ hFailed => (ensures_failWith _ _ _).mpr hFailed

theorem ensures_expect_of_does (source noticed told : String) (h : Gpu.Does step s.gpu ok fail) :
    (Host.expect source noticed told step).Ensures s (fun a t => ok a t.gpu)
      (fun _ t => fail t.gpu) :=
  ensures_answer_of_does h fun _ _ hFailed => (ensures_failWith _ _ _).mpr hFailed

/-- A failure that is reported by the name of the call. -/
theorem ensures_invoke_of_does (source name : String) (h : Gpu.Does step s.gpu ok fail) :
    (Host.invoke source name step).Ensures s (fun a t => ok a t.gpu) (fun _ t => fail t.gpu) := by
  refine ensures_answer_of_does h fun code t hFailed => ?_
  have hLogged : (logAll (code.entry? source name).toList : Op Host Unit).Ensures t
      (fun _ u => fail u.gpu) (fun _ u => fail u.gpu) :=
    ensures_logAll (fun _ _ h => h) _ hFailed
  show (do logAll (code.entry? source name).toList
           throw (code.cause name) : Op Host α).Ensures _ _ _
  rw [ensures_bind]
  refine hLogged.mono (fun _ u hFailed => ?_) fun _ _ h => h
  rw [ensures_throw]
  exact hFailed

end Host

end RenderLoop
