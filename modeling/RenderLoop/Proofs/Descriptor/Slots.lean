import Mathlib.Data.List.Nodup
import RenderLoop.Proofs.Descriptor.SetLayout
import RenderLoop.Proofs.Shader.Declarations

/-!
# RenderLoop — blocks at one slot

A declaration is compared with those before it under the same name. So if nothing is
complained about, each name has one slot (`agree_of_complaints`). Declarations under
different names are not compared: the table has a binding for each name, and each is
listed in the layout of its set, whatever else is there.

The numbers of a layout are **distinct** for that reason only if the names are
**apart**, each at a slot of its own; and if they are, all layouts have distinct
numbers (`distinct_iff_apart`).
-/

namespace RenderLoop

attribute [ext] Slot

/-- The bindings of a layout have different numbers. -/
def SetLayout.Distinct (l : SetLayout) : Prop := (l.bindings.map fun b => b.slot.binding).Nodup

-- ---------------------------------------------------------------------------
-- Declarations without complaints
-- ---------------------------------------------------------------------------

namespace Declaration

/-- The declarations of one name are at one slot. -/
def Agree (ds : List Declaration) : Prop := ∀ d ∈ ds, ∀ d' ∈ ds, d.name = d'.name → d.slot = d'.slot

/-- The declarations at one slot are of one name. -/
def Apart (ds : List Declaration) : Prop := ∀ d ∈ ds, ∀ d' ∈ ds, d.slot = d'.slot → d.name = d'.name

variable {earlier ds : List Declaration} {d : Declaration}

/-- A declaration that is not complained about is where those before it are. -/
theorem slot_eq_of_complaint? (hAgree : Agree earlier) (h : complaint? earlier d = none)
    {e : Declaration} (he : e ∈ earlier) (hName : e.name = d.name) : e.slot = d.slot := by
  have hOf : e ∈ of d.name earlier := List.mem_filter.mpr ⟨he, beq_iff_eq.mpr hName⟩
  cases hLast : (of d.name earlier).getLast? with
  | none =>
    rw [List.getLast?_eq_none_iff.mp hLast] at hOf
    cases hOf
  | some previous =>
    obtain ⟨hMem, hPrevious⟩ := List.mem_filter.mp (List.mem_of_getLast? hLast)
    have hSame : e.slot = previous.slot :=
      hAgree e he previous hMem (hName.trans (beq_iff_eq.mp hPrevious).symm)
    rw [complaint?, hLast, Option.bind_some] at h
    split at h
    · cases h
    · rename_i hSlot
      exact hSame.trans (not_not.mp hSlot)

theorem agree_append (hAgree : Agree earlier) (h : complaint? earlier d = none) :
    Agree (earlier ++ [d]) := by
  have hNew : ∀ e ∈ earlier, e.name = d.name → e.slot = d.slot := fun e he =>
    slot_eq_of_complaint? hAgree h he
  intro a ha b hb hName
  simp only [List.mem_append, List.mem_singleton] at ha hb
  obtain ha | rfl := ha <;> obtain hb | rfl := hb
  · exact hAgree a ha b hb hName
  · exact hNew a ha hName
  · exact (hNew b hb hName.symm).symm
  · rfl

theorem agree_of_complaints (hAgree : Agree earlier) (h : complaints earlier ds = []) :
    Agree (earlier ++ ds) := by
  induction ds generalizing earlier with
  | nil => simpa using hAgree
  | cons d rest ih =>
    rw [complaints, List.append_eq_nil_iff, Option.toList_eq_nil_iff] at h
    have hRest := ih (agree_append hAgree h.1) h.2
    simpa using hRest

end Declaration

open Declaration

-- ---------------------------------------------------------------------------
-- Slots and numbers
-- ---------------------------------------------------------------------------

namespace UniformTable

variable {t : UniformTable} {ds : List Declaration}

/-- Slots differ exactly if the numbers of each set do. -/
theorem nodup_slots_iff :
    (t.bindings.map (·.slot)).Nodup ↔
      ∀ set, ((t.inSet set).map fun b => b.slot.binding).Nodup := by
  simp only [List.Nodup, List.pairwise_map, inSet, List.pairwise_filter]
  simp only [List.pairwise_iff_getElem]
  constructor
  · intro hSlots set i j hi hj hLess hSet hSet' hNumber
    have hIndex : t.bindings[i].slot.set = t.bindings[j].slot.set :=
      UInt32.toNat_inj.mp ((beq_iff_eq.mp hSet).trans (beq_iff_eq.mp hSet').symm)
    exact hSlots i j hi hj hLess (Slot.ext hIndex hNumber)
  · intro hNumbers i j hi hj hLess hSlot
    exact hNumbers t.bindings[j].slot.set.toNat i j hi hj hLess (by rw [hSlot, beq_self_eq_true])
      (beq_self_eq_true _) (congrArg Slot.binding hSlot)

theorem distinct_layoutOf_iff {set : Nat} :
    (t.layoutOf set).Distinct ↔ ((t.inSet set).map fun b => b.slot.binding).Nodup :=
  ((t.perm_layoutOf set).map _).nodup_iff

/-- The layouts of a table have different numbers exactly if its slots differ. -/
theorem distinct_iff_nodup {policy : SparseSetPolicy} {layouts : List SetLayout}
    (h : setLayouts t policy = .ok layouts) :
    (∀ l ∈ layouts, l.Distinct) ↔ (t.bindings.map (·.slot)).Nodup := by
  rw [setLayouts_of_ok h, List.forall_mem_map, nodup_slots_iff]
  simp only [List.mem_range, distinct_layoutOf_iff]
  constructor
  · intro hBelow set
    by_cases hSet : set < t.setCount
    · exact hBelow set hSet
    · -- beyond the last set there are no bindings
      have hUnused : ¬ t.Uses set := fun hUses => hSet (lt_setCount_of_uses hUses)
      rw [List.isEmpty_iff.mp (inSet_isEmpty_iff.mpr hUnused)]
      exact List.nodup_nil
  · exact fun hAll set _ => hAll set

-- ---------------------------------------------------------------------------
-- Slots and names
-- ---------------------------------------------------------------------------

/-- The bindings of a table are at the slots that are declared for their names. -/
theorem Sums.exists_declaration (h : t.Sums ds) {name : String} {b : UniformBinding}
    (hEntry : (name, b) ∈ t.byName.entries) : ∃ d ∈ ds, d.name = name ∧ d.slot = b.slot := by
  obtain ⟨d, hLast, hSlot, -⟩ := (h.binding name b hEntry).last
  obtain ⟨hMem, hName⟩ := List.mem_filter.mp (List.mem_of_getLast? hLast)
  exact ⟨d, hMem, beq_iff_eq.mp hName, hSlot.symm⟩

/-- If the declarations of each name agree, they are where the table has the name. -/
theorem Sums.exists_entry (h : t.Sums ds) (hAgree : Agree ds) {d : Declaration} (hd : d ∈ ds) :
    ∃ b, (d.name, b) ∈ t.byName.entries ∧ b.slot = d.slot := by
  have hKey := (h.declared d.name).mpr ⟨d, hd, rfl⟩
  obtain ⟨b, hGet⟩ := (SortedMap.mem_keys_iff t.byName d.name).mp hKey
  have hEntry := (SortedMap.mem_entries_iff t.byName d.name b).mpr hGet
  obtain ⟨last, hLast, hName, hSlot⟩ := h.exists_declaration hEntry
  exact ⟨b, hEntry, hSlot.symm.trans (hAgree last hLast d hd hName)⟩

/-- The slots of a table differ exactly if the declarations of different names are apart. -/
theorem Sums.nodup_slots_iff_apart (h : t.Sums ds) (hAgree : Agree ds) :
    (t.bindings.map (·.slot)).Nodup ↔ Apart ds := by
  have hEntries : t.byName.entries.Nodup := List.Nodup.of_map Prod.fst t.byName.nodup_keys
  rw [bindings, SortedMap.values, List.map_map, List.nodup_map_iff_inj_on hEntries]
  constructor
  · intro hSlots d hd d' hd' hSlot
    -- each declaration has its entry, at its slot as all of its name agree on it
    obtain ⟨b, hEntry, hb⟩ := h.exists_entry hAgree hd
    obtain ⟨b', hEntry', hb'⟩ := h.exists_entry hAgree hd'
    have hSame : b.slot = b'.slot := by rw [hb, hb', hSlot]
    exact congrArg Prod.fst (hSlots _ hEntry _ hEntry' hSame)
  · rintro hApart ⟨name, b⟩ hEntry ⟨name', b'⟩ hEntry' hSlot
    obtain ⟨d, hd, rfl, hdb⟩ := h.exists_declaration hEntry
    obtain ⟨d', hd', rfl, hdb'⟩ := h.exists_declaration hEntry'
    have hName : d.name = d'.name := hApart d hd d' hd' (by rw [hdb, hdb']; exact hSlot)
    rw [SortedMap.mem_entries_iff] at hEntry hEntry'
    rw [hName, hEntry'] at hEntry
    rw [hName, Option.some.inj hEntry]

/-- **The layouts of a program have different numbers exactly if its blocks are apart.** Merging
the stages without a complaint does not make them so. -/
theorem distinct_iff_apart (stages : List (ShaderStage × StageInterface))
    (policy : SparseSetPolicy) (layouts : List SetLayout)
    (hFailures : (mergeStages {} stages).2 = [])
    (hLayouts : setLayouts (mergeStages {} stages).1 policy = .ok layouts) :
    (∀ l ∈ layouts, l.Distinct) ↔ Apart (declarations stages) := by
  obtain ⟨hSums, hComplaints⟩ := sums_empty.mergeStages stages
  rw [List.nil_append] at hSums
  rw [hFailures] at hComplaints
  have hAgree : Agree (declarations stages) := by
    have hNone : Agree [] := fun d hd => by cases hd
    simpa using agree_of_complaints hNone hComplaints.symm
  rw [distinct_iff_nodup hLayouts, hSums.nodup_slots_iff_apart hAgree]

/-- Two stages with a block each, both at slot (0, 0). -/
def sampleShared : List (ShaderStage × StageInterface) :=
  [(.vertex, { blocks := [{ name := "Camera", set := some 0, binding := some 0, size := 64 }] }),
    (.fragment, { blocks := [{ name := "Light", set := some 0, binding := some 0, size := 16 }] })]

/-- The two blocks are merged in silence, and share a number in the layout of set 0. -/
theorem distinct_iff_apart_of_shared :
    (mergeStages {} sampleShared).2 = [] ∧
      ∃ layouts, setLayouts (mergeStages {} sampleShared).1 .error = .ok layouts ∧
        ¬ Apart (declarations sampleShared) ∧ ¬ ∀ l ∈ layouts, l.Distinct := by
  have hFailures : (mergeStages {} sampleShared).2 = [] := by decide +kernel
  have hGap : (mergeStages {} sampleShared).1.firstGap? = none := by decide +kernel
  obtain ⟨layouts, hLayouts⟩ := setLayouts_ok_iff.mpr (.inr (firstGap?_eq_none_iff.mp hGap))
  have hShared : ¬ Apart (declarations sampleShared) := by
    intro hApart
    have hName : "Camera" = "Light" := hApart _ (.head _) _ (.tail _ (.head _)) rfl
    exact absurd hName (by decide)
  refine ⟨hFailures, layouts, hLayouts, hShared, fun hDistinct => hShared ?_⟩
  exact (distinct_iff_apart sampleShared .error layouts hFailures hLayouts).mp hDistinct

end UniformTable

end RenderLoop
