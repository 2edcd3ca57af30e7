import RenderLoop.Proofs.Descriptor.DynamicSlots
import RenderLoop.Proofs.Gpu.Made

/-!
# RenderLoop — the layouts of descriptor sets

Descriptor sets are allocated from the objects of layouts. Which layouts that are is in
the history of the device (`Descriptors.AllocatedFrom`), and it is not for the renderer
to say: it finds objects by the 64-bit keys of its layouts, and takes what it finds.

As long as keys tell layouts apart (`Descriptors.KeysApart`), the sets of a compiled
program have layouts of the same content as the program has, and all their descriptors
were written (`Descriptors.MadeFor.exists_setsOf`).
-/

namespace RenderLoop

open GpuHistory

-- ---------------------------------------------------------------------------
-- Sets and their layouts
-- ---------------------------------------------------------------------------

/-- The layouts that objects were made for, each with its object. -/
def GpuHistory.layoutsMade (h : GpuHistory) : List (SetLayout × Handle) :=
  h.filterMap fun e => match e with
    | ⟨.create (.setLayout l), .handle x⟩ => some (l, x)
    | _ => none

/-- The layouts made are those that the history tells of. -/
theorem GpuHistory.mem_layoutsMade {h : GpuHistory} {l : SetLayout} {x : Handle} :
    (l, x) ∈ h.layoutsMade ↔ Made h (.setLayout l) x := by
  rw [layoutsMade, List.mem_filterMap]
  constructor
  · rintro ⟨e, he, hSome⟩
    split at hSome
    · cases hSome
      exact he
    · cases hSome
  · exact fun hMade => ⟨_, hMade, rfl⟩

/-- The objects that sets were allocated from, with these sets. -/
def GpuHistory.allocations (h : GpuHistory) : List (List Handle × List Handle) :=
  h.filterMap fun e => match e with
    | ⟨.allocateSets _ objects, .handles sets⟩ => some (objects, sets)
    | _ => none

namespace DescriptorWrite

variable {region : BufferRegion} {layouts : List SetLayout}

/-- There is a write for every binding. -/
theorem mem_planFrom {l : SetLayout} {b : UniformBinding} (hb : b ∈ l.bindings) {first i : Nat}
    (hl : layouts[i]? = some l) :
    ⟨first + i, b.slot.binding, b.kind, 1, region⟩ ∈ planFrom region first layouts := by
  induction layouts generalizing first i with
  | nil => cases hl
  | cons layout rest ih =>
    rw [planFrom, List.mem_append]
    cases i with
    | zero =>
      cases hl
      exact .inl (List.mem_map_of_mem hb)
    | succ i =>
      rw [← Nat.add_assoc, Nat.add_right_comm]
      exact .inr (ih hl)

end DescriptorWrite

namespace Descriptors

variable {h h' : GpuHistory} {region : BufferRegion} {layouts ls : List SetLayout}
  {sets xs : List Handle}

theorem mem_writes_of_binding {i : Nat} {l : SetLayout} {set : Handle} {b : UniformBinding}
    (hl : layouts[i]? = some l) (hSet : sets[i]? = some set) (hb : b ∈ l.bindings) :
    ⟨set, b.slot.binding, b.kind, region⟩ ∈ writes layouts sets region := by
  refine List.mem_filterMap.mpr ⟨_, DescriptorWrite.mem_planFrom hb hl, ?_⟩
  simp only [Nat.zero_add, hSet, Option.map_some]

/-- Sets were allocated from objects that were made for layouts, one for each. -/
def AllocatedFrom (h : GpuHistory) (layouts : List SetLayout) (sets : List Handle) : Prop :=
  ∃ pool objects, ⟨.allocateSets pool objects, .handles sets⟩ ∈ h ∧
    List.Forall₂ (fun l x => Made h (.setLayout l) x) layouts objects

/-- Sets have layouts, each for the set of its position, and all their descriptors were written with a
region. -/
structure SetsOf (h : GpuHistory) (region : BufferRegion) (layouts : List SetLayout)
    (sets : List Handle) : Prop where
  allocated : AllocatedFrom h layouts sets
  length_eq : sets.length = layouts.length
  numbered : ∀ (i : Nat) (l : SetLayout), layouts[i]? = some l → ∀ b ∈ l.bindings, b.slot.set.toNat = i
  written : ∃ ws, ⟨.updateSets ws, .done⟩ ∈ h ∧
    ∀ (i : Nat) (l : SetLayout) (set : Handle), layouts[i]? = some l → sets[i]? = some set →
      ∀ b ∈ l.bindings, ⟨set, b.slot.binding, b.kind, region⟩ ∈ ws

/-- Layouts are told apart by their keys: no object was made for a layout that has the key of one of
them and other bindings. -/
def KeysApart (h : GpuHistory) (layouts : List SetLayout) : Prop :=
  ∀ made x, Made h (.setLayout made) x → ∀ l ∈ layouts, made.key = l.key →
    SameContent made.bindings l.bindings

/-- Keys are apart exactly if equal keys mean equal content. -/
theorem keysApart_iff : KeysApart h layouts ↔
    ∀ made ∈ h.layoutsMade, ∀ l ∈ layouts, made.1.key = l.key →
      SameContent made.1.bindings l.bindings := by
  constructor
  · exact fun hApart made hMade => hApart made.1 made.2 (mem_layoutsMade.mp hMade)
  · exact fun hAll made x hMade => hAll (made, x) (mem_layoutsMade.mpr hMade)

instance {as bs : List UniformBinding} : Decidable (SameContent as bs) :=
  inferInstanceAs (Decidable (List.Perm _ _))

instance : Decidable (KeysApart h layouts) := decidable_of_iff _ keysApart_iff.symm

theorem AllocatedFrom.exists_objects (hAllocated : AllocatedFrom h layouts sets) :
    ∃ objects, (objects, sets) ∈ h.allocations ∧ layouts.length = objects.length ∧
      ∀ l ∈ layouts, ∃ x, (l, x) ∈ h.layoutsMade := by
  obtain ⟨pool, objects, hSets, hObjects⟩ := hAllocated
  refine ⟨objects, List.mem_filterMap.mpr ⟨_, hSets, rfl⟩, hObjects.length_eq, fun l hl => ?_⟩
  obtain ⟨i, hi⟩ := List.getElem?_of_mem hl
  obtain ⟨x, -, hMade⟩ := getElem?_of_forall₂ hObjects hi
  exact ⟨x, mem_layoutsMade.mpr hMade⟩

theorem AllocatedFrom.of_suffix (hAllocated : AllocatedFrom h layouts sets) (hSuffix : h <:+ h') :
    AllocatedFrom h' layouts sets := by
  obtain ⟨pool, objects, hSets, hObjects⟩ := hAllocated
  exact ⟨pool, objects, hSuffix.mem hSets, hObjects.imp fun _ _ hMade => hMade.of_suffix hSuffix⟩

/-- Sets stay sets of their layouts as the history goes on. -/
theorem SetsOf.of_suffix (hSets : SetsOf h region layouts sets) (hSuffix : h <:+ h') :
    SetsOf h' region layouts sets := by
  obtain ⟨ws, hWritten, hAll⟩ := hSets.written
  exact ⟨hSets.allocated.of_suffix hSuffix, hSets.length_eq, hSets.numbered,
    ws, hSuffix.mem hWritten, hAll⟩

/-- Objects that were found by key were made for layouts of the same content. -/
theorem KeysApart.exists_made (hApart : KeysApart h ls) (hObjects : List.Forall₂ (LayoutObject h) ls xs) :
    ∃ layouts, List.Forall₂ (fun l x => Made h (.setLayout l) x) layouts xs ∧
      List.Forall₂ (fun l l' => SameContent l.bindings l'.bindings) layouts ls := by
  induction hObjects with
  | nil => exact ⟨[], .nil, .nil⟩
  | cons hObject _ ih =>
    obtain ⟨made, hKey, hMade⟩ := hObject
    obtain ⟨layouts, hMades, hSames⟩ :=
      ih fun made' x hMade' l hl => hApart made' x hMade' l (List.mem_cons_of_mem _ hl)
    exact ⟨made :: layouts, .cons hMade hMades, .cons (hApart made _ hMade _ List.mem_cons_self hKey) hSames⟩

theorem flatMap_dynamicSlots_of_sameContent
    (hSame : List.Forall₂ (fun l l' => SameContent l.bindings l'.bindings) layouts ls) :
    layouts.flatMap SetLayout.dynamicSlots = ls.flatMap SetLayout.dynamicSlots := by
  induction hSame with
  | nil => rfl
  | cons hFirst _ ih =>
    rw [List.flatMap_cons, List.flatMap_cons, SetLayout.dynamicSlots_of_sameContent hFirst, ih]

/-- A binding is in every layout of the same content, but for its name and members. -/
theorem exists_binding_of_sameContent {bs bs' : List UniformBinding} (hSame : SameContent bs bs')
    {b : UniformBinding} (hb : b ∈ bs) : ∃ b' ∈ bs', b'.slot = b.slot ∧ b'.kind = b.kind := by
  obtain ⟨b', hb', hSignature⟩ :=
    List.mem_map.mp (hSame.mem_iff.mp (List.mem_map_of_mem (f := UniformBinding.signature) hb))
  exact ⟨b', hb', congrArg Prod.fst hSignature, congrArg (·.2.1) hSignature⟩

/-- The sets of a compiled program, told by the objects that they were allocated from. -/
theorem MadeFor.exists_setsOf {p : Program} {d : Descriptors} (hMade : d.MadeFor p region h)
    (hDerived : p.Derived) (hApart : KeysApart h p.layouts) (hSets : d.sets ≠ []) :
    ∃ layouts, SetsOf h region layouts d.sets ∧
      layouts.flatMap SetLayout.dynamicSlots = d.dynamicSlots := by
  have hFor : d.SetsFor p.layouts region h := by
    have hCases := hMade.sets
    split at hCases
    · exact absurd hCases hSets
    · exact hCases
  obtain ⟨layouts, hObjects, hSame⟩ := hApart.exists_made hMade.layouts
  -- what a layout has is what the layout of the program in its position has
  have hBinding : ∀ (i : Nat) (l : SetLayout), layouts[i]? = some l → ∀ b ∈ l.bindings,
      ∃ l', p.layouts[i]? = some l' ∧
        ∃ b' ∈ SetLayout.bindings l', b'.slot = b.slot ∧ b'.kind = b.kind := by
    intro i l hl b hb
    obtain ⟨l', hl', hContent⟩ := getElem?_of_forall₂ hSame hl
    exact ⟨l', hl', exists_binding_of_sameContent hContent hb⟩
  refine ⟨layouts, ⟨⟨_, _, hFor.allocated, hObjects⟩, ?_, ?_, ?_⟩, ?_⟩
  · rw [hFor.length_eq, hSame.length_eq]
  · intro i l hl b hb
    obtain ⟨l', hl', b', hb', hSlot, -⟩ := hBinding i l hl b hb
    rw [← hSlot, ((hDerived.layouts l' (List.mem_of_getElem? hl')).single b' hb').2.2]
    exact hDerived.set_eq hl'
  · refine ⟨_, hFor.written, fun i l set hl hSet b hb => ?_⟩
    obtain ⟨l', hl', b', hb', hSlot, hKind⟩ := hBinding i l hl b hb
    rw [← hSlot, ← hKind]
    exact mem_writes_of_binding hl' hSet hb'
  · rw [flatMap_dynamicSlots_of_sameContent hSame, hMade.dynamicSlots, hDerived.slots_eq]

end Descriptors

end RenderLoop
