import RenderLoop.Proofs.Gpu.Made
import RenderLoop.Proofs.Pipeline.Key

/-!
# RenderLoop — the state that pipelines were built for

Which state a pipeline was built for is in the history of the device
(`GpuHistory.BuiltFor`). A pair **shows** a state if it consists of a pipeline built for
that and one built for the same state with polygons drawn as lines (`Pipelines.Shows`).

A pair that is asked for shows its state exactly if what the registry has for the two
states was built for them (`PipelineBasis.Finds`): what is not there is built, and what
is there is taken as it is. The registry is asked by key. So there is nothing wrong to be
found as long as all that is in it was built in the generations of now
(`PipelineBasis.Filed`), for then keys tell states apart. And there is nothing to be found
at all in a registry that was just emptied.
-/

namespace RenderLoop

open GpuHistory Op

/-- A pipeline was built for a state. -/
def GpuHistory.BuiltFor (h : GpuHistory) (v : PipelineState) (x : Handle) : Prop :=
  ∃ r : PipelineRequest, Made h (.pipeline r) x ∧ r.state = v

/-- A pipeline stays built for what it was built for. -/
theorem GpuHistory.BuiltFor.of_suffix {h h' : GpuHistory} {v : PipelineState} {x : Handle}
    (hBuilt : BuiltFor h v x) (hSuffix : h <:+ h') : BuiltFor h' v x := by
  obtain ⟨r, hMade, hState⟩ := hBuilt
  exact ⟨r, hMade.of_suffix hSuffix, hState⟩

/-- Whether something that happened was the building of a pipeline for a state. -/
def GpuEvent.builds (v : PipelineState) (x : Handle) (e : GpuEvent) : Bool :=
  match e.call, e.outcome with
  | .create (.pipeline r), .handle y => r.state = v && y = x
  | _, _ => false

/-- An event builds a pipeline for a state just if it is the creation with that state. -/
theorem GpuEvent.builds_iff {v : PipelineState} {x : Handle} {e : GpuEvent} :
    e.builds v x = true ↔
      ∃ r : PipelineRequest, e = ⟨.create (.pipeline r), .handle x⟩ ∧ r.state = v := by
  constructor
  · intro hBuilds
    obtain ⟨call, outcome⟩ := e
    rw [builds] at hBuilds
    split at hBuilds
    · rename_i r y hCall hOutcome
      simp only [Bool.and_eq_true, decide_eq_true_eq] at hBuilds
      obtain ⟨hState, rfl⟩ := hBuilds
      exact ⟨r, by rw [← hCall, ← hOutcome], hState⟩
    · cases hBuilds
  · rintro ⟨r, rfl, rfl⟩
    simp [builds]

/-- What was built for what can be decided by a walk through the history. -/
theorem GpuHistory.builtFor_iff {h : GpuHistory} {v : PipelineState} {x : Handle} :
    BuiltFor h v x ↔ h.any (·.builds v x) = true := by
  rw [List.any_eq_true]
  constructor
  · rintro ⟨r, hMade, hState⟩
    exact ⟨_, hMade, GpuEvent.builds_iff.mpr ⟨r, rfl, hState⟩⟩
  · rintro ⟨e, he, hBuilds⟩
    obtain ⟨r, rfl, hState⟩ := GpuEvent.builds_iff.mp hBuilds
    exact ⟨r, he, hState⟩

instance (h : GpuHistory) (v : PipelineState) (x : Handle) : Decidable (BuiltFor h v x) :=
  decidable_of_iff _ GpuHistory.builtFor_iff.symm

-- ---------------------------------------------------------------------------
-- Registries
-- ---------------------------------------------------------------------------

namespace PipelineBasis

/-- The key of a state in the generations of now. -/
def key (b : PipelineBasis) (v : PipelineState) : PipelineKey :=
  .of v b.programGeneration b.passGeneration

/-- In the same generations, keys tell states apart. -/
theorem key_inj {b : PipelineBasis} {v w : PipelineState} (h : b.key v = b.key w) : v = w :=
  PipelineKey.of_injective _ _ h

/-- What a registry has for a state was built for it. -/
def Finds (b : PipelineBasis) (h : GpuHistory) (registry : PipelineRegistry Handle)
    (v : PipelineState) : Prop :=
  ∀ x, registry.get? (b.key v) = some x → BuiltFor h v x

/-- Everything in a registry is there under the key of the state that it was built for, in the
generations of now. -/
def Filed (b : PipelineBasis) (h : GpuHistory) (registry : PipelineRegistry Handle) : Prop :=
  ∀ key x, registry.get? key = some x → ∃ v, b.key v = key ∧ BuiltFor h v x

variable {b b' : PipelineBasis} {h h' : GpuHistory} {registry : PipelineRegistry Handle}
  {v w : PipelineState} {x : Handle} {s t : PipelineRegistry Handle × Host}

/-- What is filed stays filed. -/
theorem Filed.of_suffix (hFiled : b.Filed h registry) (hSuffix : h <:+ h') :
    b.Filed h' registry := by
  intro key x hx
  obtain ⟨v, hKey, hBuilt⟩ := hFiled key x hx
  exact ⟨v, hKey, hBuilt.of_suffix hSuffix⟩

/-- Only the generations count. -/
theorem Filed.congr (hFiled : b.Filed h registry)
    (hProgram : b'.programGeneration = b.programGeneration)
    (hPass : b'.passGeneration = b.passGeneration) : b'.Filed h registry := by
  rw [Filed]
  unfold key
  rw [hProgram, hPass]
  exact hFiled

/-- In an empty registry everything is filed, and nothing to be found. -/
theorem filed_empty (b : PipelineBasis) (h : GpuHistory) : b.Filed h {} := by
  intro key x hx
  cases hx

theorem finds_empty (b : PipelineBasis) (h : GpuHistory) (v : PipelineState) : b.Finds h {} v := by
  intro x hx
  cases hx

/-- Among pipelines of the generations of now, the key of a state finds what was built for it. -/
theorem Filed.finds (hFiled : b.Filed h registry) (v : PipelineState) : b.Finds h registry v := by
  intro x hx
  obtain ⟨w, hKey, hBuilt⟩ := hFiled _ x hx
  obtain rfl := key_inj hKey
  exact hBuilt

/-- The pipeline of a state was found, or it was not there and was built for it. -/
structure Takes (b : PipelineBasis) (v : PipelineState) (s : PipelineRegistry Handle × Host)
    (x : Handle) (t : PipelineRegistry Handle × Host) : Prop where
  cases : (s.1.get? (b.key v) = some x ∧ t.1 = s.1) ∨
    (s.1.get? (b.key v) = none ∧ t.1 = s.1.insert (b.key v) x ∧ BuiltFor t.2.gpu.history v x)
  history : s.2.gpu.history <:+ t.2.gpu.history

/-- It was built for the state exactly if the registry did not have a wrong one. -/
theorem Takes.builtFor_iff (hTakes : b.Takes v s x t) (hSuffix : t.2.gpu.history <:+ h) :
    BuiltFor h v x ↔ b.Finds h s.1 v := by
  rcases hTakes.cases with ⟨hFound, -⟩ | ⟨hNone, -, hBuilt⟩
  · constructor
    · intro hBuilt y hy
      rw [hFound] at hy
      cases hy
      exact hBuilt
    · intro hFinds
      exact hFinds x hFound
  · constructor
    · intro _ y hy
      rw [hNone] at hy
      cases hy
    · intro _
      exact hBuilt.of_suffix hSuffix

/-- Nothing wrong gets into the registry. -/
theorem Takes.finds_iff (hTakes : b.Takes v s x t) (hSuffix : t.2.gpu.history <:+ h)
    (w : PipelineState) : b.Finds h t.1 w ↔ b.Finds h s.1 w := by
  rcases hTakes.cases with ⟨-, hSame⟩ | ⟨hNone, hInsert, hBuilt⟩
  · rw [hSame]
  · -- the state that was asked for, or another one
    by_cases hKey : b.key w = b.key v
    · obtain rfl := key_inj hKey
      constructor
      · intro _ y hy
        rw [hNone] at hy
        cases hy
      · intro _ y hy
        rw [hInsert, PipelineRegistry.get?_insert, if_pos Std.compare_self] at hy
        cases hy
        exact hBuilt.of_suffix hSuffix
    · have hNe : compare (b.key w) (b.key v) ≠ .eq :=
        fun hEq => hKey (Std.LawfulEqOrd.eq_of_compare hEq)
      rw [Finds, Finds, hInsert, PipelineRegistry.get?_insert, if_neg hNe]

/-- What is taken is filed as well. -/
theorem Takes.filed (hTakes : b.Takes v s x t) (hFiled : b.Filed s.2.gpu.history s.1) :
    b.Filed t.2.gpu.history t.1 := by
  have hOld := hFiled.of_suffix hTakes.history
  rcases hTakes.cases with ⟨-, hSame⟩ | ⟨-, hInsert, hBuilt⟩
  · rw [hSame]
    exact hOld
  · intro key y hy
    rw [hInsert, PipelineRegistry.get?_insert] at hy
    -- the new entry is under the key of its state, the old ones are where they were
    split at hy
    · rename_i hKey
      cases hy
      exact ⟨v, (Std.LawfulEqOrd.eq_of_compare hKey).symm, hBuilt⟩
    · exact hOld key y hy

/-- Asking the registry takes what is there, or builds it. -/
theorem ensures_getOrBuild_takes (b : PipelineBasis) (v : PipelineState)
    (s : PipelineRegistry Handle × Host) :
    (PipelineRegistry.getOrBuild (b.key v) (b.build v)).Ensures s (fun x t => b.Takes v s x t)
      (fun _ t => t.1 = s.1 ∧ s.2.gpu.history <:+ t.2.gpu.history) := by
  rw [PipelineRegistry.getOrBuild, ensures_bind, ensures_get]
  cases hGet : s.1.get? (b.key v) with
  | some x =>
    simp only [ensures_pure]
    exact ⟨.inl ⟨hGet, rfl⟩, List.suffix_refl _⟩
  | none =>
    simp only [ensures_bind, ensures_onSecond, ensures_change, ensures_pure, build]
    refine (Host.ensures_expectObject _ _ _ _).mono ?_ fun _ _ hGrowing => ⟨trivial, hGrowing.history⟩
    rintro x h₁ ⟨hMade, hGrowing⟩
    exact ⟨.inr ⟨hGet, rfl, _, hMade, rfl⟩, hGrowing.history⟩

end PipelineBasis

-- ---------------------------------------------------------------------------
-- Pairs
-- ---------------------------------------------------------------------------

namespace Pipelines

/-- The pair in use was built for a state. -/
def Shows (v : PipelineState) (h : GpuHistory) (p : Pipelines) : Prop :=
  ∃ d, p.pair = some d ∧ BuiltFor h v d.solid ∧ BuiltFor h v.wireframe d.wireframe

variable {h h' : GpuHistory} {v : PipelineState} {p p' : Pipelines} {s t : Pipelines × Host}

/-- A pair shows its state as long as it stays. -/
theorem Shows.kept (hShows : Shows v h p) (hPair : p'.pair = p.pair) (hSuffix : h <:+ h') :
    Shows v h' p' := by
  obtain ⟨d, hOld, hSolid, hWireframe⟩ := hShows
  exact ⟨d, hPair.trans hOld, hSolid.of_suffix hSuffix, hWireframe.of_suffix hSuffix⟩

instance (v : PipelineState) (h : GpuHistory) (p : Pipelines) : Decidable (Shows v h p) :=
  inferInstanceAs (Decidable (∃ d ∈ p.pair, BuiltFor h v d.solid ∧ BuiltFor h v.wireframe d.wireframe))

/-- The registry goes on: a pair is asked for, and what is filed as it is now stays so. -/
structure Goes (b : PipelineBasis) (s t : Pipelines × Host) : Prop where
  history : s.2.gpu.history <:+ t.2.gpu.history
  filed : b.Filed s.2.gpu.history s.1.registry → b.Filed t.2.gpu.history t.1.registry

/-- A pair shows its state exactly if nothing wrong is found. If one of it cannot be built, the old
pair stays in use. -/
theorem ensures_buildPair_shows (b : PipelineBasis) (v : PipelineState) (s : Pipelines × Host) :
    (buildPair b v).Ensures s
      (fun _ t => Goes b s t ∧ (Shows v t.2.gpu.history t.1 ↔
        b.Finds t.2.gpu.history s.1.registry v ∧
          b.Finds t.2.gpu.history s.1.registry v.wireframe))
      (fun _ t => Goes b s t ∧ t.1.pair = s.1.pair) := by
  rw [buildPair, ensures_bind, ensures_on, DefaultPipelines.build, ensures_bind]
  refine (b.ensures_getOrBuild_takes v (s.1.registry, s.2)).mono ?_ ?_
  · intro solid s₁ hSolid
    rw [ensures_bind]
    refine (b.ensures_getOrBuild_takes v.wireframe s₁).mono ?_ ?_
    · intro wireframe s₂ hWireframe
      rw [ensures_pure, ensures_change]
      -- what is no longer referred to is destroyed once both are there
      have hDestroyed : s₂.2.gpu.history <:+
          (adopt ⟨solid, wireframe⟩ ({ s.1 with registry := s₂.1 }, s₂.2)).2.gpu.history :=
        (Gpu.unsized_destroyAll (R := Gpu.Grows) _ _ s₂.2.gpu).history
      have hLater := hWireframe.history.trans hDestroyed
      refine ⟨⟨hSolid.history.trans hLater, ?_⟩, ?_⟩
      · intro hFiled
        exact (hWireframe.filed (hSolid.filed hFiled)).of_suffix hDestroyed
      · -- what the registry has for the second state is not changed by the first
        rw [← hSolid.builtFor_iff hLater, ← hSolid.finds_iff hLater v.wireframe,
          ← hWireframe.builtFor_iff hDestroyed]
        constructor
        · rintro ⟨d, hPair, hBuilt⟩
          cases hPair
          exact hBuilt
        · intro hBuilt
          exact ⟨_, rfl, hBuilt⟩
    · -- the solid pipeline stays in the registry
      rintro e ⟨registry, h₂⟩ ⟨rfl, hHistory⟩
      exact ⟨⟨hSolid.history.trans hHistory, fun hFiled => (hSolid.filed hFiled).of_suffix hHistory⟩,
        rfl⟩
  · rintro e ⟨registry, h₁⟩ ⟨rfl, hHistory⟩
    exact ⟨⟨hHistory, fun hFiled => hFiled.of_suffix hHistory⟩, rfl⟩

/-- A pair that is built anew shows its state, and all that is in the registry then is filed as it is
now. -/
theorem ensures_rebuildPair_shows (b : PipelineBasis) (v : PipelineState) (s : Pipelines × Host) :
    (rebuildPair b v).Ensures s
      (fun _ t => s.2.gpu.history <:+ t.2.gpu.history ∧ Shows v t.2.gpu.history t.1 ∧
        b.Filed t.2.gpu.history t.1.registry)
      (fun _ t => s.2.gpu.history <:+ t.2.gpu.history ∧ t.1.pair = s.1.pair) := by
  have hDrained : s.2.gpu.history <:+ (drain s).2.gpu.history :=
    (Gpu.unsized_destroyAll (R := Gpu.Grows) _ _ s.2.gpu).history
  rw [rebuildPair, ensures_bind, ensures_change]
  refine (ensures_buildPair_shows b v (drain s)).mono ?_ ?_
  · rintro - t ⟨hGoes, hShows⟩
    exact ⟨hDrained.trans hGoes.history, hShows.mpr ⟨b.finds_empty _ _, b.finds_empty _ _⟩,
      hGoes.filed (b.filed_empty _)⟩
  · rintro e t ⟨hGoes, hPair⟩
    exact ⟨hDrained.trans hGoes.history, hPair⟩

end Pipelines

end RenderLoop
