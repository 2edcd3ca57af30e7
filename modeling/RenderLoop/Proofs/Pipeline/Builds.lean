import Mathlib.Data.List.Nodup
import RenderLoop.Proofs.Op.Noted
import RenderLoop.Proofs.Pipeline.Key
import RenderLoop.Proofs.SortedMap

/-!
# RenderLoop — pipelines are what was asked for

Pairs of pipelines come out of a registry that knows keys only, so a pipeline could
be handed out that was built from something else. It is not: in one generation of the
program and one of the pass, keys tell states apart (`PipelineKey.of_injective`).

Builds are watched in two ways. Every pipeline is **marked** with the state that it was
built from (`Marked`), and every build that is run is noted. The calls that were made of a
registry are a **history** (`History`), newest first, and the pipelines built in it are
the successful builds of its notes (`built`).

The invariant is that the registry holds the pipelines of the history, each under the key
of its own state, and that no two of them have the same state (`Holds`). Hence a
pipeline that is found has the state that was asked for, and no state is built again.
-/

namespace RenderLoop.PipelineRegistry

open Op

variable {α τ : Type}

/-- A pipeline and the state it was built from. -/
structure Marked (α : Type) where
  state : PipelineState
  pipeline : α
  deriving DecidableEq, Repr

/-- A build that marks its pipeline and is noted. -/
def marked (build : PipelineState → Op τ α) (state : PipelineState) :
    Op (Notes PipelineState (Marked α) × τ) (Marked α) :=
  (Marked.mk state <$> build state).noted state

/-- The pipelines of the builds that have succeeded. -/
def successes (notes : Notes PipelineState (Marked α)) : List (Marked α) :=
  notes.filterMap (·.2.toOption)

/-- A call for a pair: its state, the builds that were run for it, and what it answered. -/
structure Event (α : Type) where
  state : PipelineState
  notes : Notes PipelineState (Marked α)
  result : Except RenderError (DefaultPipelines (Marked α))

/-- The pipelines that have been built, newest first. -/
def built (es : List (Event α)) : List (Marked α) := es.flatMap fun e => successes e.notes

/-- The calls made of a new registry in one generation of the program and one of the pass, newest
first, and the registry they have led to. The builds are arbitrary. -/
inductive History (program pass : UInt64) :
    List (Event α) → PipelineRegistry (Marked α) → Prop
  | new : History program pass [] {}
  | build {τ : Type} {before : List (Event α)} {r r' : PipelineRegistry (Marked α)}
      {notes : Notes PipelineState (Marked α)}
      {result : Except RenderError (DefaultPipelines (Marked α))} {t' : τ}
      (hBefore : History program pass before r) (state : PipelineState)
      (build : PipelineState → Op τ α) (t : τ)
      (hRun : start (DefaultPipelines.build state program pass (marked build)) (r, [], t) =
        some (result, r', notes, t')) :
      History program pass (⟨state, notes, result⟩ :: before) r'

-- ---------------------------------------------------------------------------
-- What the registry holds
-- ---------------------------------------------------------------------------

/-- A registry holds some pipelines: each under the key of its state, and no two of one state. -/
structure Holds (program pass : UInt64) (r : PipelineRegistry (Marked α))
    (pipelines : List (Marked α)) : Prop where
  entries : r.byKey.entries.Perm
    (pipelines.map fun x => (PipelineKey.of x.state program pass, x))
  states : (pipelines.map Marked.state).Nodup

namespace Holds

variable {program pass : UInt64} {r : PipelineRegistry (Marked α)} {pipelines : List (Marked α)}
  {state : PipelineState} {x : Marked α}

/-- What is found under a key is a pipeline held for it. -/
theorem get?_eq_some_iff (h : Holds program pass r pipelines) (key : PipelineKey) (x : Marked α) :
    r.get? key = some x ↔ x ∈ pipelines ∧ PipelineKey.of x.state program pass = key := by
  rw [get?, ← SortedMap.mem_entries_iff, h.entries.mem_iff, List.mem_map]
  constructor
  · rintro ⟨y, hMem, hEntry⟩
    cases hEntry
    exact ⟨hMem, rfl⟩
  · rintro ⟨hMem, rfl⟩
    exact ⟨x, hMem, rfl⟩

/-- Under the key of a state there is the pipeline of that state. -/
theorem get?_iff (h : Holds program pass r pipelines) (state : PipelineState) (x : Marked α) :
    r.get? (.of state program pass) = some x ↔ x ∈ pipelines ∧ x.state = state := by
  rw [h.get?_eq_some_iff, (PipelineKey.of_injective program pass).eq_iff]

/-- A key that no state has in these generations has no pipeline. -/
theorem get?_eq_none (h : Holds program pass r pipelines) {key : PipelineKey}
    (hOther : ∀ state, PipelineKey.of state program pass ≠ key) : r.get? key = none := by
  cases hGet : r.get? key with
  | none => rfl
  | some x => exact absurd ((h.get?_eq_some_iff key x).mp hGet).2 (hOther x.state)

/-- A pipeline of a state that has none can be added. -/
theorem insert (h : Holds program pass r pipelines) (x : Marked α)
    (hNone : r.get? (.of x.state program pass) = none) :
    Holds program pass (r.insert (.of x.state program pass) x) (x :: pipelines) where
  entries := (SortedMap.perm_insertEntry x hNone).trans (h.entries.cons _)
  states := by
    rw [List.map_cons, List.nodup_cons]
    constructor
    · intro hMem
      obtain ⟨y, hOld, hState⟩ := List.mem_map.mp hMem
      have hSome := (h.get?_iff x.state y).mpr ⟨hOld, hState⟩
      rw [hNone] at hSome
      cases hSome
    · exact h.states

end Holds

/-- An empty registry holds nothing. -/
theorem holds_empty (program pass : UInt64) :
    Holds program pass ({} : PipelineRegistry (Marked α)) [] :=
  ⟨.refl _, List.nodup_nil⟩

-- ---------------------------------------------------------------------------
-- One call
-- ---------------------------------------------------------------------------

section Call

variable {program pass : UInt64} {old : List (Marked α)} {build : PipelineState → Op τ α}
  {s : PipelineRegistry (Marked α) × Notes PipelineState (Marked α) × τ}

/-- The registry holds what was built before a call and what its notes tell of. -/
def Tracks (program pass : UInt64) (old : List (Marked α))
    (s : PipelineRegistry (Marked α) × Notes PipelineState (Marked α) × τ) : Prop :=
  Holds program pass s.1 (successes s.2.1 ++ old)

/-- The last build that was run has failed with a cause. -/
def FailedLast (cause : RenderError) (notes : Notes PipelineState (Marked α)) : Prop :=
  ∃ state rest, notes = (state, .error cause) :: rest

/-- Whatever a build does, a state is looked up or built once, and its own pipeline comes back. -/
theorem ensures_getOrBuild_marked (state : PipelineState) (build : PipelineState → Op τ α)
    (hTracks : Tracks program pass old s) :
    (getOrBuild (.of state program pass) (marked build state)).Ensures s
      (fun x t => Tracks program pass old t ∧ successes s.2.1 ⊆ successes t.2.1 ∧
        x ∈ successes t.2.1 ++ old ∧ x.state = state)
      (fun e t => Tracks program pass old t ∧ FailedLast e t.2.1) := by
  rw [getOrBuild, ensures_bind, ensures_get]
  cases hGet : s.1.get? (.of state program pass) with
  | some x =>
    -- a hit: keys tell states apart, so the pipeline found is of the state
    obtain ⟨hMem, hState⟩ := (hTracks.get?_iff state x).mp hGet
    simp only [ensures_pure]
    exact ⟨hTracks, List.Subset.refl _, hMem, hState⟩
  | none =>
    simp only [marked, ensures_bind, ensures_onSecond, ensures_noted, ensures_map, ensures_change,
      ensures_pure]
    refine (ensures_true (build state) s.2.2).mono ?_ ?_
    · intro a t _
      -- a miss: one build, noted and entered
      have hAdded := Holds.insert hTracks ⟨state, a⟩ hGet
      refine ⟨hAdded, ?_, ?_, trivial⟩
      · exact List.subset_cons_self _ _
      · exact List.mem_cons_self
    · intro e t _
      exact ⟨hTracks, state, _, rfl⟩

/-- The pair of a state is made of the pipelines of the two states it is about. -/
def OfState (state : PipelineState) (pipelines : List (Marked α))
    (pair : DefaultPipelines (Marked α)) : Prop :=
  (pair.solid ∈ pipelines ∧ pair.solid.state = state) ∧
    pair.wireframe ∈ pipelines ∧ pair.wireframe.state = state.wireframe

theorem OfState.mono {state : PipelineState} {pipelines pipelines' : List (Marked α)}
    {pair : DefaultPipelines (Marked α)} (h : OfState state pipelines pair)
    (hSub : pipelines ⊆ pipelines') : OfState state pipelines' pair :=
  ⟨⟨hSub h.1.1, h.1.2⟩, hSub h.2.1, h.2.2⟩

/-- A call answers with the pair of its state, or with the failure of its last build. -/
theorem ensures_build_marked (state : PipelineState) (build : PipelineState → Op τ α)
    (hTracks : Tracks program pass old s) :
    (DefaultPipelines.build state program pass (marked build)).Ensures s
      (fun pair t => Tracks program pass old t ∧ OfState state (successes t.2.1 ++ old) pair)
      (fun e t => Tracks program pass old t ∧ FailedLast e t.2.1) := by
  rw [DefaultPipelines.build, ensures_bind]
  refine (ensures_getOrBuild_marked state build hTracks).mono ?_ fun _ _ h => h
  rintro solid t ⟨hTracks₁, -, hSolid, hState⟩
  rw [ensures_bind]
  refine (ensures_getOrBuild_marked state.wireframe build hTracks₁).mono ?_ fun _ _ h => h
  rintro wireframe u ⟨hTracks₂, hGrows, hWireframe, hState'⟩
  rw [ensures_pure]
  refine ⟨hTracks₂, ⟨?_, hState⟩, hWireframe, hState'⟩
  rcases List.mem_append.mp hSolid with hNew | hOld
  · exact List.mem_append_left _ (hGrows hNew)
  · exact List.mem_append_right _ hOld

end Call

-- ---------------------------------------------------------------------------
-- All calls
-- ---------------------------------------------------------------------------

variable {program pass : UInt64} {es : List (Event α)} {r : PipelineRegistry (Marked α)}

/-- A call has answered with the pair of its state, or with the failure of its last build. -/
def Event.Fits (pipelines : List (Marked α)) (e : Event α) : Prop :=
  Outcome (fun pair _ => OfState e.state pipelines pair) (fun cause _ => FailedLast cause e.notes)
    e.result ()

theorem Event.Fits.mono {pipelines pipelines' : List (Marked α)} {e : Event α}
    (h : e.Fits pipelines) (hSub : pipelines ⊆ pipelines') : e.Fits pipelines' := by
  obtain ⟨state, notes, cause | pair⟩ := e
  · exact h
  · exact OfState.mono h hSub

/-- The call that is made next has answered so, and its pipelines are added. -/
theorem holds_build {before : List (Event α)} {r' : PipelineRegistry (Marked α)}
    {notes : Notes PipelineState (Marked α)}
    {result : Except RenderError (DefaultPipelines (Marked α))} {state : PipelineState}
    {build : PipelineState → Op τ α} {t t' : τ} (hHolds : Holds program pass r (built before))
    (hRun : start (DefaultPipelines.build state program pass (marked build)) (r, [], t) =
      some (result, r', notes, t')) :
    Holds program pass r' (built (⟨state, notes, result⟩ :: before)) ∧
      Event.Fits (built (⟨state, notes, result⟩ :: before)) ⟨state, notes, result⟩ := by
  have hTracks : Tracks program pass (built before) (r, [], t) := hHolds
  have hCall := ensures_build_marked state build hTracks
  cases result with
  | ok pair => exact hCall.of_ok hRun
  | error cause => exact hCall.of_error hRun

/-- **The registry holds the pipelines of its history**, and every call has answered with them. -/
theorem holds_of_history (h : History program pass es r) :
    Holds program pass r (built es) ∧ ∀ e ∈ es, e.Fits (built es) := by
  induction h with
  | new => exact ⟨holds_empty program pass, by simp⟩
  | build hBefore state build t hRun ih =>
    obtain ⟨hHolds, hFits⟩ := holds_build ih.1 hRun
    refine ⟨hHolds, List.forall_mem_cons.mpr ⟨hFits, ?_⟩⟩
    intro e hMem
    exact (ih.2 e hMem).mono (List.subset_append_right _ _)

/-- Pipelines are what was asked for, as far as a history goes and after it. -/
structure Unmixed (program pass : UInt64) (es : List (Event α))
    (r : PipelineRegistry (Marked α)) : Prop where
  /-- Both pipelines of a pair that was answered are of the states that were asked for. -/
  pairs : ∀ e ∈ es, ∀ pair, e.result = .ok pair →
    pair.solid.state = e.state ∧ pair.wireframe.state = e.state.wireframe ∧
      pair.solid ∈ built es ∧ pair.wireframe ∈ built es
  /-- A call fails if one of its builds does. -/
  failures : ∀ e ∈ es, ∀ cause, e.result = .error cause → FailedLast cause e.notes
  /-- No state was built twice. -/
  once : ((built es).map Marked.state).Nodup
  /-- What is found for a state is what was built for it. -/
  found : ∀ state x, r.get? (.of state program pass) = some x ↔ x ∈ built es ∧ x.state = state
  /-- Nothing is found for the next generation of the program. -/
  reloaded : ∀ state, r.get? (.of state (program + 1) pass) = none
  /-- Nothing is found for the next generation of the pass. -/
  rebuilt : ∀ state, r.get? (.of state program (pass + 1)) = none

theorem unmixed_of_history (h : History program pass es r) : Unmixed program pass es r := by
  obtain ⟨hHolds, hFits⟩ := holds_of_history h
  exact {
    pairs := by
      intro e hMem pair hResult
      have hOfState := hFits e hMem
      rw [Event.Fits, hResult, outcome_ok] at hOfState
      obtain ⟨⟨hSolid, hState⟩, hWireframe, hState'⟩ := hOfState
      exact ⟨hState, hState', hSolid, hWireframe⟩
    failures := by
      intro e hMem cause hResult
      have hFailed := hFits e hMem
      rw [Event.Fits, hResult, outcome_error] at hFailed
      exact hFailed
    once := hHolds.states
    found := hHolds.get?_iff
    -- a key of another generation is in no registry of this one
    reloaded := by
      intro state
      exact hHolds.get?_eq_none fun other => (PipelineKey.of_succ_program_ne state other _ _).symm
    rebuilt := by
      intro state
      exact hHolds.get?_eq_none fun other => (PipelineKey.of_succ_pass_ne state other _ _).symm }

/-- **Pipelines never get mixed up.** Keys tell the states of one generation apart, and the
generations of one state; so whatever was built for a registry in one generation of the program and
one of the pass, and whichever builds have failed, every pair consists of the pipelines that were
asked for, no state was built twice, and a reload or a new pass starts without any of them. -/
theorem pipelines_of_history (h : History program pass es r) :
    (∀ g p, Function.Injective fun state => PipelineKey.of state g p) ∧
      (∀ state p, Function.Injective fun g => PipelineKey.of state g p) ∧
      (∀ state g, Function.Injective fun p => PipelineKey.of state g p) ∧
      Unmixed program pass es r := by
  refine ⟨?_, ?_, ?_, unmixed_of_history h⟩
  · exact PipelineKey.of_injective
  · exact PipelineKey.of_program_injective
  · exact PipelineKey.of_pass_injective

set_option synthInstance.maxSize 512 in
/-- The wireframe build of a pair fails. The next call finds the solid pipeline and builds the other
one; a call for the wireframe state alone finds all it needs. -/
theorem pipelines_of_history_with_failure :
    let state : PipelineState := {}
    let solid : Marked String := ⟨state, "solid"⟩
    let lines : Marked String := ⟨state.wireframe, "lines"⟩
    let es : List (Event String) :=
      [⟨state.wireframe, [], .ok ⟨lines, lines⟩⟩,
        ⟨state, [(state.wireframe, .ok lines)], .ok ⟨solid, lines⟩⟩,
        ⟨state, [(state.wireframe, .error .outOfMemory), (state, .ok solid)],
          .error .outOfMemory⟩]
    ∃ r, History 1 1 es r ∧ Unmixed 1 1 es r := by
  intro state solid lines es
  let first (s : PipelineState) : Op (List LogEntry) String :=
    if s.polygonMode = .line then throw .outOfMemory else pure "solid"
  let second (_ : PipelineState) : Op (List LogEntry) String := pure "lines"
  let r₁ : PipelineRegistry (Marked String) :=
    PipelineRegistry.insert {} (.of state 1 1) solid
  let r₂ := r₁.insert (.of state.wireframe 1 1) lines
  -- the lines fail after the solid pipeline was built, so the next build finds that one
  have hFails : start (DefaultPipelines.build state 1 1 (marked first)) ({}, [], []) =
      some (.error .outOfMemory, r₁, [(state.wireframe, .error .outOfMemory), (state, .ok solid)],
        []) := by
    decide +kernel
  have hBuilds : start (DefaultPipelines.build state 1 1 (marked second)) (r₁, [], []) =
      some (.ok ⟨solid, lines⟩, r₂, [(state.wireframe, .ok lines)], []) := by
    decide +kernel
  have hFinds : start (DefaultPipelines.build state.wireframe 1 1 (marked first)) (r₂, [], []) =
      some (.ok ⟨lines, lines⟩, r₂, [], []) := by
    decide +kernel
  have hHistory : History 1 1 es r₂ :=
    ((History.new.build state first [] hFails).build state second [] hBuilds).build
      state.wireframe first [] hFinds
  exact ⟨r₂, hHistory, (pipelines_of_history hHistory).2.2.2⟩

end RenderLoop.PipelineRegistry
