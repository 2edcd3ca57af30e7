import RenderLoop.Gpu.Descriptors
import RenderLoop.Proofs.Descriptor.Budget
import RenderLoop.Proofs.Shader.Compile
import RenderLoop.Rehearsal.Tools

/-!
# RenderLoop — pools have room for the programs they are made for

The sizes of a pool are counted in the uniform tables of programs, and what is reserved
from it is counted in their layouts. Compilation keeps both in step: whatever it is
called with and whether it succeeds or fails, the layouts of a program are those of its
table (`Program.LaidOut`), and have each of its bindings once
(`UniformTable.perm_flatMap_layouts`).

So a pool is used up exactly by the programs it was made for
(`reserve_of_compiled`), and the check that is made before a pool is created always
passes (`checkBudget_of_laidOut`). The layouts that fill gaps need no descriptors, but
they need sets; they are why a pool has no fewer sets than there are layouts.
-/

namespace RenderLoop

namespace Program

/-- The programs that compilations lead to from new ones, with any tools and in any world. -/
inductive Compiled : Program → Prop
  | new (sources : List ShaderSource) (policy : SparseSetPolicy) :
    Compiled { sources, sparseSets := policy }
  | compile {p p' : Program} {σ : Type} [Logging σ] {tools : ShaderTools σ} {w w' : σ}
    {r : Except RenderError CompileReport} (hCompiled : Compiled p)
    (hRun : Op.start (compile tools) (p, w) = some (r, p', w')) : Compiled p'

/-- The layouts of a program are those of its table. -/
def LaidOut (p : Program) : Prop := ∃ policy, setLayouts p.uniforms policy = .ok p.layouts

variable {p p' : Program}

/-- What loading writes has nothing to do with layouts. -/
theorem LaidOut.of_loaded (h : LaidOut p) (hSame : SameButLoaded p p') : LaidOut p' := by
  rw [hSame]
  exact h

/-- Compilation leaves a program laid out, also when it fails. -/
theorem ensures_compile_laidOut {σ : Type} [Logging σ] {tools : ShaderTools σ} (h : LaidOut p)
    (w : σ) : (compile tools).Ensures (p, w) (fun _ s => LaidOut s.1) (fun _ s => LaidOut s.1) := by
  have hReturn : (compile tools).Ensures (p, w) (fun _ s => LaidOut s.1) (fun _ _ => True) := by
    rw [compile, Op.ensures_bind, Op.ensures_get, Op.ensures_undoing, loadAndReflect,
      Op.ensures_bind, Op.ensures_get, Op.ensures_bind]
    refine (ensures_loadSources p.sources {} p w).mono ?_ fun _ _ _ => trivial
    rintro l ⟨p₁, w₁⟩ hLoaded
    refine Op.ensures_ite (fun _ => ?_) (fun _ => ?_)
    · rw [Op.ensures_bind]
      refine (ensures_reflect l.errors p₁ w₁).mono ?_ fun _ _ _ => trivial
      rintro errors ⟨q, v⟩ ⟨r, layouts, -, hLayouts, -, rfl⟩
      rw [Op.ensures_pure]
      exact ⟨_, hLayouts⟩
    · -- nothing was reflected, so the layouts and the table are the old ones
      rw [Op.ensures_pure]
      exact h.of_loaded hLoaded
  refine (hReturn.and (ensures_compile p w)).mono (fun _ _ hBoth => hBoth.1) ?_
  rintro e s ⟨-, hSame⟩
  rw [hSame]
  exact h

/-- A compiled program is laid out. -/
theorem laidOut_of_compiled (h : Compiled p) : LaidOut p := by
  induction h with
  | new sources policy => exact ⟨.allow, rfl⟩
  | @compile p p' σ _ tools w w' r _ hRun ih =>
    have hOutcome := ensures_compile_laidOut ih w r (p', w') hRun
    cases r <;> exact hOutcome

-- ---------------------------------------------------------------------------
-- Programs and their pool
-- ---------------------------------------------------------------------------

/-- The bindings in the layouts of a program. -/
def bindings (p : Program) : List UniformBinding := p.layouts.flatMap (·.bindings)

/-- What a pool for some programs is computed from. -/
def poolSizes (ps : List Program) : Option PoolSizes :=
  PoolSizes.ofPrograms (ps.map fun p => (p.uniforms, p.layouts.length))

theorem LaidOut.perm_bindings (h : LaidOut p) : p.bindings.Perm p.uniforms.bindings :=
  h.elim fun _ hLayouts => UniformTable.perm_flatMap_layouts hLayouts

/-- The pool for some programs holds the bindings in their layouts. -/
theorem holds_of_laidOut (ps : List Program) (hLaid : ∀ p ∈ ps, LaidOut p)
    (hDescriptors : descriptors (ps.flatMap fun p => p.uniforms.bindings) < UInt32.size)
    (hLayouts : (ps.map fun p => p.layouts.length).sum < UInt32.size) :
    ∃ sizes, poolSizes ps = some sizes ∧ (DescriptorBudget.ofSizes sizes).Holds
      (ps.map fun p => p.layouts.length).sum (ps.flatMap bindings) := by
  obtain ⟨sizes, hSizes, hHolds⟩ := DescriptorBudget.holds_of_programs
    (ps.map fun p => (p.uniforms, p.layouts.length))
    (by rw [List.flatMap_map]; exact hDescriptors) (by rw [List.map_map]; exact hLayouts)
  rw [List.map_map, List.flatMap_map] at hHolds
  refine ⟨sizes, hSizes, hHolds.perm ?_⟩
  exact (List.Perm.flatMap_left _ fun p hp => (hLaid p hp).perm_bindings).symm

end Program

open Program

/-- The check before a pool is created for a program passes, and does nothing else. -/
theorem Descriptors.checkBudget_of_laidOut {p : Program} (hLaid : LaidOut p)
    (hDescriptors : descriptors p.uniforms.bindings < UInt32.size)
    (hLayouts : p.layouts.length < UInt32.size) :
    ∃ sizes, PoolSizes.ofPrograms [(p.uniforms, p.layouts.length)] = some sizes ∧
      ∀ h, Op.start (checkBudget sizes p.layouts) h = some (.ok (), h) := by
  obtain ⟨sizes, hSizes, hHolds⟩ := holds_of_laidOut [p]
    (List.forall_mem_singleton.mpr hLaid) (by simpa using hDescriptors) (by simpa using hLayouts)
  have hOwn : (DescriptorBudget.ofSizes sizes).Holds (p.layouts.length + 0)
      (p.layouts.flatMap (·.bindings) ++ []) := by
    simpa [bindings] using hHolds
  obtain ⟨b, hReserve, -⟩ := hOwn.reserve
  refine ⟨sizes, hSizes, fun h => ?_⟩
  rw [checkBudget, Op.start_on, DescriptorBudget.request, Op.start_bind_of_ok (Op.start_get _)]
  simp only [hReserve]
  rfl

/-- **A pool is used up exactly by the programs it is made for.** Whatever was compiled, as long as
all descriptors and all layouts together can be counted in 32 bits: the sizes of the pool are
computed; a budget of these sizes accepts a request for each program, in whichever order they
come, and a single request for all layouts, in whichever order they come; nothing is left
afterwards; and the check before the pool of any of the programs is created passes. -/
theorem Program.reserve_of_compiled (ps : List Program) (hCompiled : ∀ p ∈ ps, Compiled p)
    (hDescriptors : descriptors (ps.flatMap fun p => p.uniforms.bindings) < UInt32.size)
    (hLayouts : (ps.map fun p => p.layouts.length).sum < UInt32.size) :
    ∃ sizes, poolSizes ps = some sizes ∧
      (∀ qs : List Program, qs.Perm ps →
        ∃ b, (DescriptorBudget.ofSizes sizes).reserveEach (qs.map (·.layouts)) = some (.ok b) ∧
          ∀ kind, b.remaining kind = 0) ∧
      (∀ layouts : List SetLayout, layouts.Perm (ps.flatMap (·.layouts)) →
        ∃ b, (DescriptorBudget.ofSizes sizes).reserve layouts = some (.ok b) ∧
          ∀ kind, b.remaining kind = 0) ∧
      ∀ p ∈ ps, ∃ own, PoolSizes.ofPrograms [(p.uniforms, p.layouts.length)] = some own ∧
        ∀ h, Op.start (Descriptors.checkBudget own p.layouts) h = some (.ok (), h) := by
  have hLaid : ∀ p ∈ ps, LaidOut p := fun p hp => laidOut_of_compiled (hCompiled p hp)
  obtain ⟨sizes, hSizes, hHolds⟩ := holds_of_laidOut ps hLaid hDescriptors hLayouts
  refine ⟨sizes, hSizes, fun qs hPerm => ?_, fun layouts hPerm => ?_, fun p hp => ?_⟩
  · have hSame : ((qs.map (·.layouts)).map List.length).sum =
        (ps.map fun p => p.layouts.length).sum := by
      rw [List.map_map]
      exact (hPerm.map _).sum_eq
    -- the order of the programs changes neither the number of layouts nor the bindings
    have hAll : (DescriptorBudget.ofSizes sizes).Holds
        (((qs.map (·.layouts)).map List.length).sum + 0)
        (((qs.map (·.layouts)).flatMap fun layouts => layouts.flatMap (·.bindings)) ++ []) := by
      rw [hSame, List.append_nil, List.flatMap_map]
      exact hHolds.perm (hPerm.symm.flatMap_right bindings)
    obtain ⟨b, hReserve, hRest⟩ := hAll.reserveEach
    exact ⟨b, hReserve, hRest.remaining_eq_zero⟩
  · -- one reservation of all layouts, in any order, comes to the same
    have hCount : layouts.length = (ps.map fun p => p.layouts.length).sum := by
      rw [hPerm.length_eq, List.length_flatMap]
    have hSame : (layouts.flatMap (·.bindings)).Perm (ps.flatMap bindings) := by
      refine (hPerm.flatMap_right _).trans ?_
      rw [List.flatMap_assoc]
      exact List.Perm.refl _
    have hAll : (DescriptorBudget.ofSizes sizes).Holds (layouts.length + 0)
        (layouts.flatMap (·.bindings) ++ []) := by
      rw [hCount, List.append_nil]
      exact hHolds.perm hSame.symm
    obtain ⟨b, hReserve, hRest⟩ := hAll.reserve
    exact ⟨b, hReserve, hRest.remaining_eq_zero⟩
  · -- a single program asks for no more than all of them
    refine Descriptors.checkBudget_of_laidOut (hLaid p hp) ?_ ?_
    · refine Nat.lt_of_le_of_lt ?_ hDescriptors
      rw [descriptors_flatMap]
      exact List.le_sum_of_mem (List.mem_map_of_mem hp)
    · refine Nat.lt_of_le_of_lt ?_ hLayouts
      exact List.le_sum_of_mem (List.mem_map_of_mem hp)

/-- Tools that find blocks at the given slots in any shader. -/
def Program.sampleTools (slots : List (String × Slot)) : ShaderTools Workbench :=
  Workbench.tools (.fixed (some (.sample 1))) (.fixed [(.vertex, { blocks := slots.map fun s =>
    { name := s.1, set := some s.2.set, binding := some s.2.binding, size := 16 } })])

/-- What compiling a program of one stage comes to: its numbers of layouts and descriptors. -/
def Program.sampleNumbers (slots : List (String × Slot)) (policy : SparseSetPolicy) : Option (Nat × Nat) :=
  (Op.start (compile (sampleTools slots)) ({ sources := [⟨.vertex, "a"⟩], sparseSets := policy },
      { files := ⟨[(["", "a"], .file [])]⟩ })).map
    fun s => (s.2.1.layouts.length, descriptors s.2.1.uniforms.bindings)

/-- There is a compiled program with these numbers. -/
theorem Program.exists_compiled {slots : List (String × Slot)} {policy : SparseSetPolicy}
    {layouts count : Nat} (h : sampleNumbers slots policy = some (layouts, count)) :
    ∃ p, Compiled p ∧ p.layouts.length = layouts ∧ descriptors p.uniforms.bindings = count := by
  obtain ⟨⟨_, p, _⟩, hRun, hNumbers⟩ := Option.map_eq_some_iff.mp h
  obtain ⟨hLayouts, hCount⟩ := Prod.mk.inj hNumbers
  exact ⟨p, (Compiled.new _ policy).compile hRun, hLayouts, hCount⟩

/-- Two programs that were compiled: one with two blocks in set 0, one in set 2 and none in set 1,
the other one with a block in set 0. Their pool is used up in either order. -/
theorem Program.reserve_of_two_programs :
    ∃ p q sizes, Compiled p ∧ Compiled q ∧ p.layouts.length = 3 ∧ q.layouts.length = 1 ∧
      descriptors ([p, q].flatMap fun p => p.uniforms.bindings) = 4 ∧
      poolSizes [p, q] = some sizes ∧
      (∃ b, (DescriptorBudget.ofSizes sizes).reserveEach [p.layouts, q.layouts] = some (.ok b) ∧
        ∀ kind, b.remaining kind = 0) ∧
      ∃ b, (DescriptorBudget.ofSizes sizes).reserveEach [q.layouts, p.layouts] = some (.ok b) ∧
        ∀ kind, b.remaining kind = 0 := by
  obtain ⟨p, hp, hpLayouts, hpCount⟩ := exists_compiled
    (show sampleNumbers [("U", ⟨0, 0⟩), ("V", ⟨0, 1⟩), ("W", ⟨2, 0⟩)] .allow = some (3, 3) by
      decide +kernel)
  obtain ⟨q, hq, hqLayouts, hqCount⟩ := exists_compiled
    (show sampleNumbers [("X", ⟨0, 0⟩)] .error = some (1, 1) by decide +kernel)
  have hCount : descriptors ([p, q].flatMap fun p => p.uniforms.bindings) = 4 := by
    simp [hpCount, hqCount]
  obtain ⟨sizes, hSizes, hOrder, -⟩ := Program.reserve_of_compiled [p, q] (by simp [hp, hq])
    (by rw [hCount]; decide) (by simp [hpLayouts, hqLayouts, UInt32.size])
  exact ⟨p, q, sizes, hp, hq, hpLayouts, hqLayouts, hCount, hSizes, hOrder [p, q] (.refl _),
    hOrder [q, p] (.swap p q [])⟩

end RenderLoop
