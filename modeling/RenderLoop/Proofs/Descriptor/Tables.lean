import RenderLoop.Proofs.Descriptor.DynamicSlots
import RenderLoop.Proofs.Descriptor.PoolRoom
import RenderLoop.Proofs.Descriptor.Slots
import RenderLoop.Proofs.Gpu.Made

/-!
# RenderLoop — the descriptor tables line up

Three tables go through the set layouts of a program, each in its own way. The plan of the
descriptor writes numbers the sets by the positions of their layouts, the offsets by the
set that each layout says it is of, and the bindings that the device is given for a layout
have a number and no set at all. They are one sequence of **places**, a set and a number
each (`SetLayout.places`), because the layout at a position is that of the set
(`map_place_slots`).

What carries this is that a program was **surveyed** (`Program.Surveyed`): its table was
merged from what was found in its code, and its layouts were made from that table. It is so
from the start, and every compilation leaves it so (`Program.exists_surveyed`).
-/

namespace RenderLoop

open Op

-- ---------------------------------------------------------------------------
-- Places
-- ---------------------------------------------------------------------------

/-- A set with the number of a binding in it. -/
abbrev DescriptorPlace : Type := Nat × UInt32

/-- One place comes before another, or is the same: by the set, and then by the number. -/
def DescriptorPlace.LE (a b : DescriptorPlace) : Prop := a.1 < b.1 ∨ a.1 = b.1 ∧ a.2 ≤ b.2

def Slot.place (s : Slot) : DescriptorPlace := (s.set.toNat, s.binding)

def DescriptorWrite.place (w : DescriptorWrite) : DescriptorPlace := (w.setIndex, w.binding)

/-- A binding of a set layout, as the device is given it. -/
structure DeviceBinding where
  number : UInt32
  kind : UInt32
  count : UInt32
  stages : UInt32
  deriving DecidableEq, Repr

namespace DeviceBinding

def text (b : DeviceBinding) : String := s!"{b.number}:{b.kind}x{b.count}@{b.stages}"

end DeviceBinding

namespace SetLayout

/-- The bindings that the device is given for a layout. -/
def deviceBindings (l : SetLayout) : List DeviceBinding :=
  l.bindings.map fun b => ⟨b.slot.binding, b.kind.number, b.count, b.stages.bits⟩

/-- A layout is created from the bindings that the device is given for it. -/
theorem parameters_setLayout (l : SetLayout) :
    (Creation.setLayout l).parameters =
      CallText.list (l.deviceBindings.map DeviceBinding.text) := by
  rw [deviceBindings, List.map_map]
  rfl

/-- The numbers of what the device is given for a layout at a position. -/
def placesAt (l : SetLayout) (i : Nat) : List DescriptorPlace :=
  l.deviceBindings.map fun b => (i, b.number)

theorem placesAt_eq (l : SetLayout) (i : Nat) :
    l.placesAt i = l.bindings.map fun b => (i, b.slot.binding) := by
  rw [placesAt, deviceBindings, List.map_map]
  rfl

/-- The numbers of what the device is given, each with the position of its layout. -/
def places (layouts : List SetLayout) : List DescriptorPlace :=
  layouts.zipIdx.flatMap fun e => e.1.placesAt e.2

end SetLayout

open SetLayout

/-- Writes are planned for the places. -/
theorem DescriptorWrite.map_place_plan (layouts : List SetLayout) (region : BufferRegion) :
    (plan layouts region).map place = places layouts := by
  have hFrom : ∀ first, (planFrom region first layouts).map place =
      (layouts.zipIdx first).flatMap fun e => e.1.placesAt e.2 := by
    induction layouts with
    | nil => exact fun _ => rfl
    | cons l rest ih =>
      intro first
      rw [planFrom, List.map_append, ih, List.zipIdx_cons, List.flatMap_cons, ofLayout, List.map_map,
        placesAt_eq]
      rfl
  exact hFrom 0

/-- Offsets are listed for the places, if the layout at each position is that of the set. -/
theorem Descriptors.map_place_slots {layouts : List SetLayout}
    (hSet : ∀ (i : Nat) (l : SetLayout), layouts[i]? = some l → l.set.toNat = i) :
    (slots layouts).map Slot.place = places layouts := by
  have hLayouts : layouts = layouts.zipIdx.map Prod.fst := (List.zipIdx_map_fst 0 layouts).symm
  rw [slots, List.map_flatMap, places]
  conv_lhs => rw [hLayouts, List.flatMap_map]
  refine List.flatMap_congr fun (l, i) hMem => ?_
  have hIndex : l.set.toNat = i := hSet i l (List.mk_mem_zipIdx_iff_getElem?.mp hMem)
  rw [List.map_map, placesAt_eq, ← hIndex]
  rfl

-- ---------------------------------------------------------------------------
-- Offsets of descriptors that were built
-- ---------------------------------------------------------------------------

namespace Descriptors

/-- Pool and sets leave the offsets as they are. -/
theorem ensures_buildSets_dynamicSlots (p : Program) (region : BufferRegion)
    (s : Descriptors × Host) :
    (buildSets p region).Ensures s (fun _ t => t.1.dynamicSlots = s.1.dynamicSlots)
      (fun _ _ => True) := by
  rw [buildSets]
  refine ensures_ite (fun _ => ?_) fun _ => ?_
  · rw [ensures_log]
    rfl
  · rw [ensures_bind]
    refine (ensures_createPool p).mono ?_ fun _ _ _ => trivial
    rintro - s₁ ⟨hPool, -⟩
    rw [ensures_bind]
    refine (ensures_allocateSets p.layouts region).mono ?_ fun _ _ _ => trivial
    rintro - s₂ ⟨hSets, -⟩
    rw [ensures_bind, ensures_get, ensures_log]
    exact (hPool.trans hSets).dynamicSlots

/-- Descriptors that were built take the offsets of the layouts, whatever there was before. -/
theorem ensures_build_dynamicSlots (p : Program) (region : BufferRegion) (s : Descriptors × Host) :
    (build p region).Ensures s (fun _ t => t.1.dynamicSlots = slots p.layouts)
      (fun _ _ => True) := by
  rw [build, ensures_bind]
  refine (ensures_true _ s).mono (fun layouts s₁ _ => ?_) fun _ _ h => h
  rw [ensures_bind, ensures_change, ensures_bind]
  refine (ensures_true _ _).mono (fun pipelineLayout s₂ _ => ?_) fun _ _ h => h
  rw [ensures_bind, ensures_change]
  exact ensures_buildSets_dynamicSlots p region _

/-- Building anew lists the slots of the layouts as well. -/
theorem ensures_rebuild_dynamicSlots (p : Program) (region : BufferRegion)
    (s : Descriptors × Host) :
    (rebuild p region).Ensures s (fun _ t => t.1.dynamicSlots = slots p.layouts)
      (fun _ _ => True) := by
  rw [rebuild, ensures_bind, ensures_change]
  exact ensures_build_dynamicSlots p region (drop s)

end Descriptors

-- ---------------------------------------------------------------------------
-- Programs that were surveyed
-- ---------------------------------------------------------------------------

namespace Program

/-- The programs that there can be: new ones, what compilations lead to with any tools and in any
world, and what becomes of them if the policy is replaced or code is looked at in between. -/
inductive Reached : Program → Prop
  | new (sources : List ShaderSource) (policy : SparseSetPolicy) :
    Reached { sources, sparseSets := policy }
  | policy {p : Program} (hReached : Reached p) (policy : SparseSetPolicy) :
    Reached { p with sparseSets := policy }
  | look {p : Program} (hReached : Reached p) (stage : ShaderStage) (code : ShaderCode) :
    Reached (p.noteHash stage code)
  | compile {p p' : Program} {σ : Type} [Logging σ] {tools : ShaderTools σ} {w w' : σ}
    {r : Except RenderError CompileReport} (hReached : Reached p)
    (hRun : start (compile tools) (p, w) = some (r, p', w')) : Reached p'

/-- Interfaces were found in the code of a program, its table was merged from them, and its layouts
were made from the table. -/
structure Surveyed (p : Program) (found : List (ShaderStage × StageInterface)) : Prop where
  reflects : ∃ (σ : Type) (_ : Logging σ) (tools : ShaderTools σ) (w w' : σ),
    Reflects tools p.code.entries w found w'
  uniforms : p.uniforms = (UniformTable.mergeStages {} found).1
  layouts : ∃ policy, setLayouts p.uniforms policy = .ok p.layouts

variable {p : Program} {found : List (ShaderStage × StageInterface)}

/-- A new program was surveyed without finding anything. -/
theorem surveyed_new (sources : List ShaderSource) (policy : SparseSetPolicy) :
    Surveyed { sources, sparseSets := policy } [] where
  reflects := ⟨Workbench, _, sampleTools [], {}, {}, .done _⟩
  uniforms := rfl
  layouts := ⟨.allow, rfl⟩

theorem Reflected.exists_surveyed {σ : Type} [Logging σ] {tools : ShaderTools σ} {w : σ}
    (h : Reflected tools w p) : ∃ found, p.Surveyed found := by
  obtain ⟨found, w', hReflects, hUniforms, -, hLayouts⟩ := h
  exact ⟨found, ⟨σ, _, tools, w, w', hReflects⟩, hUniforms, _, hLayouts⟩

/-- A compilation surveys the program, or leaves it alone. -/
theorem exists_surveyed_of_compile {σ : Type} [Logging σ] {tools : ShaderTools σ} {w w' : σ}
    {p' : Program} {r : Except RenderError CompileReport} (h : ∃ found, p.Surveyed found)
    (hRun : start (compile tools) (p, w) = some (r, p', w')) : ∃ found, p'.Surveyed found := by
  cases r with
  | error e =>
    have hSame : p' = p := (ensures_compile p w).of_error hRun
    rwa [hSame]
  | ok report =>
    obtain ⟨outcomes, w₁, -, ⟨-, -, rfl⟩ | ⟨-, -, hReflect⟩⟩ := compile_cases hRun
    · exact h
    · obtain ⟨hReflected, -⟩ := (ensures_reflect_reflected _ _ w₁).of_ok hReflect
      exact hReflected.exists_surveyed

/-- Every program that is reached was surveyed. -/
theorem exists_surveyed (h : Reached p) : ∃ found, p.Surveyed found := by
  induction h with
  | new sources policy => exact ⟨[], surveyed_new sources policy⟩
  | policy _ _ ih =>
    obtain ⟨found, hReflects, hUniforms, hLayouts⟩ := ih
    exact ⟨found, hReflects, hUniforms, hLayouts⟩
  | look _ _ _ ih =>
    obtain ⟨found, hReflects, hUniforms, hLayouts⟩ := ih
    exact ⟨found, hReflects, hUniforms, hLayouts⟩
  | compile _ hRun ih => exact exists_surveyed_of_compile ih hRun

theorem Surveyed.derived (h : p.Surveyed found) : p.Derived :=
  h.layouts.elim fun policy hLayouts => ⟨found, policy, h.uniforms, hLayouts⟩

-- ---------------------------------------------------------------------------
-- The places of a program
-- ---------------------------------------------------------------------------

theorem Derived.map_place_slots (h : p.Derived) :
    (Descriptors.slots p.layouts).map Slot.place = places p.layouts :=
  Descriptors.map_place_slots fun _ _ hl => h.set_eq hl

/-- The places of a derived program ascend. -/
theorem Derived.ascending_places (h : p.Derived) :
    (places p.layouts).Pairwise DescriptorPlace.LE := by
  rw [← h.map_place_slots, List.pairwise_map]
  refine h.ascending_slots.imp fun hLE => ?_
  rw [Slot.le_iff] at hLE
  exact hLE

/-- The places are those of the table. -/
theorem Surveyed.perm_places (h : p.Surveyed found) :
    (places p.layouts).Perm (p.uniforms.bindings.map fun b => b.slot.place) := by
  have hListed : Descriptors.slots p.layouts = p.bindings.map (·.slot) := by
    rw [Descriptors.slots, bindings, List.map_flatMap]
    refine List.flatMap_congr fun l hl => List.map_congr_left fun b hb => ?_
    rw [← ((h.derived.layouts l hl).single b hb).2.2]
  rw [← h.derived.map_place_slots, hListed, List.map_map]
  exact (LaidOut.perm_bindings h.layouts).map _

/-- Every place was declared, by the last declaration of a name. -/
theorem Surveyed.exists_declaration (h : p.Surveyed found) {place : DescriptorPlace}
    (hPlace : place ∈ places p.layouts) : ∃ d ∈ declarations found,
      (Declaration.of d.name (declarations found)).getLast? = some d ∧ d.slot.place = place := by
  obtain ⟨b, hb, rfl⟩ := List.mem_map.mp (h.perm_places.mem_iff.mp hPlace)
  obtain ⟨⟨name, b⟩, hEntry, rfl⟩ := List.mem_map.mp hb
  rw [h.uniforms] at hEntry
  obtain ⟨hSums, -⟩ := UniformTable.mergeStages_sums found
  obtain ⟨d, hLast, hSlot, -⟩ := (hSums.binding name b hEntry).last
  obtain ⟨hMem, hName⟩ := List.mem_filter.mp (List.mem_of_getLast? hLast)
  refine ⟨d, hMem, ?_, congrArg Slot.place hSlot.symm⟩
  rw [beq_iff_eq.mp hName]
  exact hLast

/-- **The descriptor tables of a program line up.** Whatever was compiled, under either policy: the
writes that are planned, the offsets of descriptors that are built or built again, and the bindings
that the device is given, each with the position of its layout, are at the same places in the same
order. They are in order by set and number, and are the places of the table, each as often as there.
The set and the number of a write are those that the shader declares, in the last declaration of
some name; layouts that fill gaps do not shift them. -/
theorem tables_line_up (hReached : Reached p) : ∃ found, p.Surveyed found ∧
    (∀ region, (DescriptorWrite.plan p.layouts region).map DescriptorWrite.place =
      places p.layouts) ∧
    (∀ region s d h, start (Descriptors.build p region) s = some (.ok (), (d, h)) ∨
        start (Descriptors.rebuild p region) s = some (.ok (), (d, h)) →
      d.dynamicSlots.map Slot.place = places p.layouts) ∧
    (places p.layouts).Pairwise DescriptorPlace.LE ∧
    (places p.layouts).Perm (p.uniforms.bindings.map fun b => b.slot.place) ∧
    ∀ region, ∀ w ∈ DescriptorWrite.plan p.layouts region, ∃ d ∈ declarations found,
      (Declaration.of d.name (declarations found)).getLast? = some d ∧
      d.slot.set.toNat = w.setIndex ∧ d.slot.binding = w.binding := by
  obtain ⟨found, hSurveyed⟩ := exists_surveyed hReached
  refine ⟨found, hSurveyed, DescriptorWrite.map_place_plan p.layouts, ?_,
    hSurveyed.derived.ascending_places, hSurveyed.perm_places, ?_⟩
  · intro region s d h hRun
    -- the slots are listed alike by the first build and by a later one
    have hSlots : d.dynamicSlots = Descriptors.slots p.layouts := by
      rcases hRun with hBuild | hRebuild
      · exact (Descriptors.ensures_build_dynamicSlots p region s).of_ok hBuild
      · exact (Descriptors.ensures_rebuild_dynamicSlots p region s).of_ok hRebuild
    rw [hSlots, hSurveyed.derived.map_place_slots]
  · intro region w hw
    have hPlace : w.place ∈ places p.layouts := by
      rw [← DescriptorWrite.map_place_plan p.layouts region]
      exact List.mem_map_of_mem hw
    -- each place is that of the last declaration of its name
    obtain ⟨d, hMem, hLast, hSame⟩ := hSurveyed.exists_declaration hPlace
    obtain ⟨hSet, hBinding⟩ := Prod.mk.inj hSame
    exact ⟨d, hMem, hLast, hSet, hBinding⟩

/-- A program of one stage with blocks in sets 0 and 2, whose names have another order. -/
def gapped : Option (Except RenderError CompileReport × Program × Workbench) :=
  start (compile (sampleTools [("A", ⟨2, 0⟩), ("B", ⟨0, 1⟩), ("C", ⟨0, 0⟩)]))
    ({ sources := [⟨.vertex, "a"⟩], sparseSets := .allow }, { files := ⟨[(["", "a"], .file [])]⟩ })

/-- Its descriptors are built, and their offsets are in the order of the sets. -/
theorem tables_line_up_of_gapped : ∃ p d h, Reached p ∧ p.layouts.length = 3 ∧
    p.uniforms.bindings.map (fun b => b.slot.place) = [(2, 0), (0, 1), (0, 0)] ∧
    places p.layouts = [(0, 0), (0, 1), (2, 0)] ∧
    start (Descriptors.build p default) ({}, {}) = some (.ok (), (d, h)) ∧
    d.dynamicSlots.map Slot.place = [(0, 0), (0, 1), (2, 0)] := by
  have hSample : gapped.map (fun s => (s.2.1.layouts.length,
      s.2.1.uniforms.bindings.map (fun b => b.slot.place), places s.2.1.layouts,
      (Descriptors.build s.2.1 default).succeeds ({}, {}))) =
    some (3, [(2, 0), (0, 1), (0, 0)], [(0, 0), (0, 1), (2, 0)], true) := by decide +kernel
  obtain ⟨⟨r, p, w⟩, hRun, hNumbers⟩ := Option.map_eq_some_iff.mp hSample
  simp only [Prod.mk.injEq] at hNumbers
  obtain ⟨hLayouts, hTable, hPlaces, hSucceeds⟩ := hNumbers
  have hReached : Reached p := (Reached.new _ .allow).compile hRun
  obtain ⟨_, hBuild⟩ := start_of_succeeds hSucceeds
  obtain ⟨-, -, -, hOffsets, -⟩ := tables_line_up hReached
  refine ⟨p, _, _, hReached, hLayouts, hTable, hPlaces, hBuild, ?_⟩
  rw [← hPlaces]
  exact hOffsets default _ _ _ (.inl hBuild)

end Program

end RenderLoop
