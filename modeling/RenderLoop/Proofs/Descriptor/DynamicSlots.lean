import RenderLoop.Gpu.Descriptors
import RenderLoop.Proofs.Descriptor.LayoutKey
import RenderLoop.Proofs.Descriptor.SetLayout
import RenderLoop.Proofs.Shader.Coherence
import RenderLoop.Proofs.Shader.Generation

/-!
# RenderLoop — the dynamic descriptors of a program

When sets are bound, the device takes one offset for each of their dynamic
descriptors, by ascending set and, within a set, by ascending number. Which those
are follows from the layouts that the sets were allocated for
(`SetLayout.dynamicSlots`), and for that it does not matter in which order or by
which names a layout lists its bindings (`SetLayout.dynamicSlots_of_sameContent`).

A program counts its offsets by its own layouts (`Descriptors.slots`). The layouts of
a compiled program have nothing but dynamic uniform blocks, one descriptor each, and
list them by number, so that is the same list (`Program.Derived.slots_eq`).
-/

namespace RenderLoop

-- ---------------------------------------------------------------------------
-- The order of slots
-- ---------------------------------------------------------------------------

namespace Slot

/-- A slot may stand before another in the order of sets, then numbers. -/
def le (a b : Slot) : Bool := a.set < b.set || (a.set == b.set && a.binding ≤ b.binding)

variable {a b c : Slot}

/-- Slots are ordered by set and then by binding. -/
theorem le_iff : a.le b = true ↔ a.set.toNat < b.set.toNat ∨
    a.set.toNat = b.set.toNat ∧ a.binding.toNat ≤ b.binding.toNat := by
  simp only [le, Bool.or_eq_true, Bool.and_eq_true, decide_eq_true_eq, beq_iff_eq,
    UInt32.lt_iff_toNat_lt, UInt32.le_iff_toNat_le, ← UInt32.toNat_inj]

theorem le_trans (h : a.le b = true) (h' : b.le c = true) : a.le c = true := by
  rw [le_iff] at h h' ⊢
  omega

theorem le_total (a b : Slot) : (a.le b || b.le a) = true := by
  rw [Bool.or_eq_true, le_iff, le_iff]
  omega

theorem le_antisymm (h : a.le b = true) (h' : b.le a = true) : a = b := by
  rw [le_iff] at h h'
  obtain ⟨set, binding⟩ := a
  obtain ⟨set', binding'⟩ := b
  simp only [Slot.mk.injEq, ← UInt32.toNat_inj] at h h' ⊢
  omega

/-- Slots in order. -/
def Ascending (slots : List Slot) : Prop := slots.Pairwise fun a b => a.le b = true

/-- Sorted by that order, slots ascend. -/
theorem ascending_sortBy (slots : List Slot) : Ascending (sortBy le slots) := by
  have hTrans : ∀ a b c : Slot, a.le b → b.le c → a.le c := fun _ _ _ => le_trans
  have hTotal : ∀ a b : Slot, a.le b || b.le a := le_total
  have hAny : slots.Pairwise fun _ _ => True := List.pairwise_of_forall fun _ _ => trivial
  exact (pairwise_sortBy hTrans hTotal hAny).imp fun h => h.1

/-- Slots have one order. -/
theorem sortBy_eq_of_perm {slots slots' : List Slot} (hPerm : slots.Perm slots')
    (hAscending : Ascending slots') : sortBy le slots = slots' := by
  have hSame : (sortBy le slots).Perm slots' := (sortBy_perm le slots).trans hPerm
  exact hSame.eq_of_pairwise (fun _ _ _ _ => le_antisymm) (ascending_sortBy slots) hAscending

end Slot

-- ---------------------------------------------------------------------------
-- Dynamic descriptors
-- ---------------------------------------------------------------------------

/-- The slots of the dynamic descriptors at a binding. -/
def UniformBinding.dynamicSlots (b : UniformBinding) : List Slot :=
  if b.kind.isDynamic then List.replicate b.count.toNat b.slot else []

namespace SetLayout

/-- The slots of the dynamic descriptors in a set of a layout, in the order of their offsets. -/
def dynamicSlots (l : SetLayout) : List Slot :=
  sortBy Slot.le (l.bindings.flatMap UniformBinding.dynamicSlots)

/-- What a set takes offsets for is a matter of the content of its layout. -/
theorem dynamicSlots_of_sameContent {l l' : SetLayout} (h : SameContent l.bindings l'.bindings) :
    l.dynamicSlots = l'.dynamicSlots := by
  let slots (s : Slot × DescriptorKind × UInt32 × StageMask × UInt32) : List Slot :=
    if s.2.1.isDynamic then List.replicate s.2.2.1.toNat s.1 else []
  have hSlots : ∀ bindings : List UniformBinding,
      bindings.flatMap UniformBinding.dynamicSlots =
        (bindings.map UniformBinding.signature).flatMap slots := by
    intro bindings
    rw [List.flatMap_map]
    rfl
  rw [dynamicSlots, dynamicSlots, hSlots, hSlots]
  refine Slot.sortBy_eq_of_perm ?_ (Slot.ascending_sortBy _)
  exact (h.flatMap_right slots).trans (sortBy_perm Slot.le _).symm

/-- A layout of single dynamic uniform blocks, all of its set and by ascending number. -/
structure Plain (l : SetLayout) : Prop where
  single : ∀ b ∈ l.bindings, b.kind = .uniformBufferDynamic ∧ b.count = 1 ∧ b.slot.set = l.set
  ascending : l.bindings.Pairwise fun b c => b.slot.binding ≤ c.slot.binding

/-- The slots of the bindings of a layout, as they are listed. -/
def slots (l : SetLayout) : List Slot := l.bindings.map fun b => ⟨l.set, b.slot.binding⟩

/-- The slots of a plain layout ascend. -/
theorem Plain.ascending_slots {l : SetLayout} (h : l.Plain) : Slot.Ascending l.slots := by
  refine List.pairwise_map.mpr (h.ascending.imp fun hLE => ?_)
  exact Slot.le_iff.mpr (.inr ⟨rfl, UInt32.le_iff_toNat_le.mp hLE⟩)

/-- A plain layout lists its slots as those of its dynamic descriptors. -/
theorem Plain.dynamicSlots_eq {l : SetLayout} (h : l.Plain) : l.dynamicSlots = l.slots := by
  have hSlots : ∀ b ∈ l.bindings, b.dynamicSlots = [⟨l.set, b.slot.binding⟩] := by
    intro b hb
    obtain ⟨hKind, hCount, hSet⟩ := h.single b hb
    have hSlot : b.slot = ⟨l.set, b.slot.binding⟩ := by
      rw [← hSet]
    rw [UniformBinding.dynamicSlots, hKind, hCount, ← hSlot]
    rfl
  have hListed : l.bindings.flatMap UniformBinding.dynamicSlots = l.slots := by
    rw [slots, List.flatMap_congr hSlots, ← List.map_eq_flatMap]
  rw [dynamicSlots, hListed]
  exact Slot.sortBy_eq_of_perm (.refl _) h.ascending_slots

end SetLayout

-- ---------------------------------------------------------------------------
-- The layouts of a table
-- ---------------------------------------------------------------------------

namespace UniformTable

variable {t : UniformTable} {set : Nat}

/-- A table has single dynamic uniform blocks only. -/
def Plain (t : UniformTable) : Prop :=
  ∀ b ∈ t.bindings, b.kind = .uniformBufferDynamic ∧ b.count = 1

theorem Sums.plain {ds : List Declaration} (h : t.Sums ds) : t.Plain := by
  intro b hb
  obtain ⟨⟨name, b⟩, hEntry, rfl⟩ := List.mem_map.mp hb
  have hSums := h.binding name b hEntry
  exact ⟨hSums.kind, hSums.count⟩

theorem Plain.layoutOf (h : t.Plain) (hSet : set < t.setCount) : (t.layoutOf set).Plain := by
  have hLists := layoutOf_lists hSet
  constructor
  · intro b hb
    obtain ⟨hMem, hIn⟩ := List.mem_filter.mp ((t.perm_layoutOf set).mem_iff.mp hb)
    obtain ⟨hKind, hCount⟩ := h b hMem
    refine ⟨hKind, hCount, UInt32.toNat_inj.mp ?_⟩
    rw [hLists.set]
    exact beq_iff_eq.mp hIn
  · obtain ⟨entries, -, hBefore, hBindings⟩ := hLists.bindings
    rw [hBindings, List.pairwise_map]
    refine hBefore.imp ?_
    rintro e e' (hLess | ⟨hSame, -⟩)
    · exact UInt32.le_of_lt hLess
    · exact UInt32.le_of_eq hSame

theorem Plain.setLayouts {policy : SparseSetPolicy} {layouts : List SetLayout} (h : t.Plain)
    (hLayouts : RenderLoop.setLayouts t policy = .ok layouts) : ∀ l ∈ layouts, l.Plain := by
  obtain rfl := setLayouts_of_ok hLayouts
  rw [List.forall_mem_map]
  exact fun set hSet => h.layoutOf (List.mem_range.mp hSet)

/-- There is a layout for each set, in order. -/
theorem set_of_setLayouts {policy : SparseSetPolicy} {layouts : List SetLayout}
    (hLayouts : RenderLoop.setLayouts t policy = .ok layouts) {i : Nat} {l : SetLayout}
    (hl : layouts[i]? = some l) : l.set.toNat = i := by
  obtain rfl := setLayouts_of_ok hLayouts
  rw [List.getElem?_map, Option.map_eq_some_iff] at hl
  obtain ⟨set, hSet, rfl⟩ := hl
  obtain ⟨hLess, rfl⟩ := List.getElem?_eq_some_iff.mp hSet
  rw [List.getElem_range]
  exact (layoutOf_lists (by simpa using hLess)).set

end UniformTable

-- ---------------------------------------------------------------------------
-- Compiled programs
-- ---------------------------------------------------------------------------

namespace Program

/-- The table of a program was merged from the interfaces of stages, and its layouts are those of the
table. -/
def Derived (p : Program) : Prop :=
  ∃ stages policy, p.uniforms = (UniformTable.mergeStages {} stages).1 ∧
    setLayouts p.uniforms policy = .ok p.layouts

variable {p p' : Program}

theorem Derived.congr (h : p.Derived) (hSame : p.SameButHashes p') : p'.Derived := by
  rw [hSame]
  exact h

/-- A new program is derived: its table is empty, and it has no layouts. -/
theorem derived_of_new (sources : List ShaderSource) (policy : SparseSetPolicy) :
    Derived { sources, sparseSets := policy } :=
  ⟨[], .allow, rfl, rfl⟩

/-- A compilation that returns has derived the program, or has found nothing changed. -/
theorem ensures_compile_derived {σ : Type} [Logging σ] {tools : ShaderTools σ} (p : Program) (w : σ) :
    (compile tools).Ensures (p, w)
      (fun report s => if report.rebuilt then Derived s.1 else SameButHashes p s.1)
      (fun _ s => s.1 = p) := by
  rintro (e | report) ⟨p', w'⟩ hRun
  · exact (ensures_compile p w).of_error hRun
  · obtain ⟨outcomes, w₁, -, ⟨-, rfl, rfl⟩ | ⟨-, hRebuilt, hReflect⟩⟩ := compile_cases hRun
    · exact .refl p'
    · obtain ⟨⟨found, w₂, -, hUniforms, -, hLayouts⟩, -⟩ :=
        (ensures_reflect_reflected _ _ w₁).of_ok hReflect
      rw [Op.outcome_ok, if_pos hRebuilt]
      exact ⟨found, _, hUniforms, hLayouts⟩

theorem Derived.plain (h : p.Derived) : p.uniforms.Plain := by
  obtain ⟨stages, -, hUniforms, -⟩ := h
  rw [hUniforms]
  exact (UniformTable.sums_empty.mergeStages stages).1.plain

theorem Derived.layouts (h : p.Derived) : ∀ l ∈ p.layouts, l.Plain :=
  h.elim fun _ ⟨_, _, hLayouts⟩ => h.plain.setLayouts hLayouts

theorem Derived.set_eq (h : p.Derived) {i : Nat} {l : SetLayout} (hl : p.layouts[i]? = some l) :
    l.set.toNat = i :=
  h.elim fun _ ⟨_, _, hLayouts⟩ => UniformTable.set_of_setLayouts hLayouts hl

/-- The offsets of a program are those of the dynamic descriptors of its layouts. -/
theorem Derived.slots_eq (h : p.Derived) :
    Descriptors.slots p.layouts = p.layouts.flatMap SetLayout.dynamicSlots :=
  (List.flatMap_congr fun l hl => (h.layouts l hl).dynamicSlots_eq).symm

/-- The offsets of a program come in the order that the device takes them in. -/
theorem Derived.ascending_slots (h : p.Derived) : Slot.Ascending (Descriptors.slots p.layouts) := by
  have hSets : p.layouts.Pairwise fun l l' => l.set < l'.set := by
    refine List.pairwise_iff_getElem.mpr fun i j hi hj hLess => ?_
    rw [UInt32.lt_iff_toNat_lt, h.set_eq (List.getElem?_eq_getElem hi),
      h.set_eq (List.getElem?_eq_getElem hj)]
    exact hLess
  refine List.pairwise_flatMap.mpr ⟨fun l hl => (h.layouts l hl).ascending_slots, ?_⟩
  refine hSets.imp fun {l l'} hLess a ha b hb => ?_
  obtain ⟨_, -, rfl⟩ := List.mem_map.mp ha
  obtain ⟨_, -, rfl⟩ := List.mem_map.mp hb
  exact Slot.le_iff.mpr (.inl (UInt32.lt_iff_toNat_lt.mp hLess))

end Program

end RenderLoop
