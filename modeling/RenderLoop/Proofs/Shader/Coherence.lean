import RenderLoop.Proofs.Frame.Machine
import RenderLoop.Proofs.Shader.Declarations
import RenderLoop.Proofs.Shader.Loading

/-!
# RenderLoop — the parts of a program belong together

A program is compiled again and again, with other files, other tools and in other worlds
each time (`History`), and its parts are written at different moments of that. Still
they belong together:

* its generation is the number of compilations that have rebuilt it;
* the stages with a noted hash are those with code, and the hash is that of the code
  (`Coherent`);
* a compilation that rebuilds it leaves it **reflected**: its table, vertex input and
  layouts are those of the stages that have code and could be reflected (`Reflected`);
* any other compilation leaves it as it was.

Code is replaced by code with another hash only; a source that could not be loaded does
not touch the code of its stage (`keeping`).
-/

namespace RenderLoop.Program

-- ---------------------------------------------------------------------------
-- Code and hashes
-- ---------------------------------------------------------------------------

/-- The stages with a noted hash are those with code, and the hash is that of the code. -/
def Coherent (p : Program) : Prop :=
  ∀ stage, p.hashes.get? stage = (p.code.get? stage).map ShaderCode.hash

/-- The code of a stage after code was loaded for it: code with the same hash is not replaced. -/
def keeping (kept : Option ShaderCode) (code : ShaderCode) : Option ShaderCode :=
  if kept.map ShaderCode.hash = some code.hash then kept else some code

variable {p p' : Program} {stage : ShaderStage} {code : ShaderCode} {o : LoadOutcome}
  {outcomes : List LoadOutcome}

/-- The code of a stage depends on what is loaded for that stage only. -/
theorem get?_code_take (h : p.Coherent) (o : LoadOutcome) (stage : ShaderStage) :
    (p.take o).code.get? stage = (loadedCodes stage [o]).foldl keeping (p.code.get? stage) := by
  obtain ⟨s, e | code⟩ := o
  · rfl
  · rw [code_take_ok]
    -- only the outcome's own stage can change
    by_cases hStage : s = stage
    · subst hStage
      have hNoted := h s
      simp only [loadedCodes, if_true, List.foldl_cons, List.foldl_nil, keeping, ← hNoted]
      -- a known hash keeps the old code, a new one replaces it
      by_cases hSame : p.hashes.get? s = some code.hash
      · rw [isDirty_eq_false_iff.mpr hSame, if_neg Bool.false_ne_true, if_pos hSame]
      · rw [if_pos (isDirty_iff.mpr hSame), SortedMap.get?_insert, if_neg hSame,
          if_pos Std.compare_self]
    · have hNe : ¬ compare stage s = .eq := fun hEq =>
        hStage (Std.LawfulEqOrd.eq_of_compare hEq).symm
      simp only [loadedCodes, if_neg hStage, List.foldl_nil]
      split
      · rw [SortedMap.get?_insert, if_neg hNe]
      · rfl

/-- Hash and code of a stage are written together. -/
theorem coherent_take (h : p.Coherent) (o : LoadOutcome) : (p.take o).Coherent := by
  intro stage
  obtain ⟨s, e | code⟩ := o
  · exact h stage
  · rw [get?_code_take h, hashes_take_ok, SortedMap.get?_insert]
    -- the hash is noted with the code, so the two agree at its stage
    by_cases hStage : s = stage
    · subst hStage
      simp only [loadedCodes, if_true, List.foldl_cons, List.foldl_nil, keeping, Std.compare_self]
      split
      · rename_i hSame
        exact hSame.symm
      · rfl
    · have hNe : ¬ compare stage s = .eq := fun hEq =>
        hStage (Std.LawfulEqOrd.eq_of_compare hEq).symm
      simp only [loadedCodes, if_neg hStage, if_neg hNe, List.foldl_nil]
      exact h stage

/-- Taking outcomes keeps a program coherent. -/
theorem coherent_takeAll (h : p.Coherent) (outcomes : List LoadOutcome) :
    (p.takeAll outcomes).Coherent := by
  induction outcomes generalizing p with
  | nil => exact h
  | cons o rest ih => exact ih (coherent_take h o)

theorem loadedCodes_cons (stage : ShaderStage) (o : LoadOutcome) (rest : List LoadOutcome) :
    loadedCodes stage (o :: rest) = loadedCodes stage [o] ++ loadedCodes stage rest := by
  obtain ⟨s, e | code⟩ := o
  · rfl
  · simp only [loadedCodes]
    split <;> rfl

/-- A stage's code is then the last new one that was loaded for it, if any was. -/
theorem get?_code_takeAll (h : p.Coherent) (outcomes : List LoadOutcome) (stage : ShaderStage) :
    (p.takeAll outcomes).code.get? stage =
      (loadedCodes stage outcomes).foldl keeping (p.code.get? stage) := by
  induction outcomes generalizing p with
  | nil => rfl
  | cons o rest ih =>
    rw [takeAll, ih (coherent_take h o), get?_code_take h, loadedCodes_cons stage o rest, List.foldl_append]

-- ---------------------------------------------------------------------------
-- Reflection
-- ---------------------------------------------------------------------------

section Reflection

variable {σ : Type} [Logging σ]

/-- The stages are gone through in order; each is reflected, or skipped after a failure that is
reported and not fatal. -/
inductive Reflects (tools : ShaderTools σ) : List (ShaderStage × ShaderCode) → σ →
    List (ShaderStage × StageInterface) → σ → Prop
  | done (w : σ) : Reflects tools [] w [] w
  | found {stage : ShaderStage} {code : ShaderCode} {rest : List (ShaderStage × ShaderCode)}
    {interface : StageInterface} {found : List (ShaderStage × StageInterface)} {w w₁ w₂ w' : σ}
    (hReflect : Op.start (tools.reflect stage code) w = some (.ok interface, w₁))
    (hLogged : Logged w₁ w₂) (hRest : Reflects tools rest w₂ found w') :
    Reflects tools ((stage, code) :: rest) w ((stage, interface) :: found) w'
  | skipped {stage : ShaderStage} {code : ShaderCode} {rest : List (ShaderStage × ShaderCode)}
    {e : RenderError} {found : List (ShaderStage × StageInterface)} {w w₁ w' : σ}
    (hReflect : Op.start (tools.reflect stage code) w = some (.error e, w₁))
    (hFatal : e.isFatal = false)
    (hRest : Reflects tools rest (Logging.push (.report ShaderSource.component e) w₁) found w') :
    Reflects tools ((stage, code) :: rest) w found w'

/-- A layout is that of the inputs of the vertex stage; the one before, if that was not found. -/
def ReadsInputs (before : VertexLayout) (found : List (ShaderStage × StageInterface))
    (layout : VertexLayout) : Prop :=
  match found.lookup .vertex with
  | none => layout = before
  | some interface => ∃ rejected, VertexLayout.ofInputs interface.inputs = some (layout, rejected)

/-- The table, vertex input and layouts of a program are those of the stages that have code and can
be reflected from a world on. -/
def Reflected (tools : ShaderTools σ) (w : σ) (p : Program) : Prop :=
  ∃ found w', Reflects tools p.code.entries w found w' ∧
    p.uniforms = (UniformTable.mergeStages {} found).1 ∧
    ReadsInputs {} found p.vertexInput ∧
    setLayouts p.uniforms p.sparseSets = .ok p.layouts

variable {tools : ShaderTools σ} {stages : List (ShaderStage × ShaderCode)}
  {found : List (ShaderStage × StageInterface)} {w w' : σ}

/-- What was found belongs to a stage that was gone through. -/
theorem Reflects.mem_stages (h : Reflects tools stages w found w') {interface : StageInterface}
    (hMem : (stage, interface) ∈ found) : stage ∈ stages.map (·.1) := by
  induction h with
  | done w => cases hMem
  | found _ _ _ ih =>
    rcases List.mem_cons.mp hMem with hHere | hLater
    · cases hHere
      exact List.mem_cons_self
    · exact List.mem_cons_of_mem _ (ih hLater)
  | skipped _ _ _ ih => exact List.mem_cons_of_mem _ (ih hMem)

/-- Nothing is found for a stage that is not reflected. -/
theorem Reflects.lookup_eq_none (h : Reflects tools stages w found w')
    (hOther : stage ∉ stages.map (·.1)) : found.lookup stage = none := by
  rw [List.lookup_eq_none_iff]
  rintro ⟨s, interface⟩ hMem
  rw [bne_iff_ne]
  rintro rfl
  exact hOther (h.mem_stages hMem)

/-- Taking in an interface does nothing to the world but log. -/
theorem ensures_takeInterface (r : Reflection) (stage : ShaderStage) (interface : StageInterface)
    (w : σ) :
    (takeInterface r stage interface).Ensures w
      (fun r' w' => Logged w w' ∧ r'.uniforms = (r.uniforms.mergeStage stage interface).1 ∧
        ReadsInputs r.vertexInput [(stage, interface)] r'.vertexInput)
      (fun _ _ => True) := by
  have hPush : ∀ e w', Logged w w' → Logged w (Logging.push e w') := fun e _ h => h.push e
  rw [takeInterface, Op.ensures_bind]
  refine (Op.ensures_logAll hPush _ .here).mono (fun _ w₁ hLogged => ?_) fun _ _ h => h
  rw [takeInputs]
  split
  · -- only the vertex stage has inputs to read
    rename_i hVertex
    rw [Op.ensures_bind, Op.ensures_ofOption]
    rintro ⟨layout, rejected⟩ hInputs
    rw [Op.ensures_bind]
    refine (Op.ensures_logAll hPush _ hLogged).mono (fun _ w₂ hLogged₂ => ?_) fun _ _ h => h
    rw [Op.ensures_pure]
    refine ⟨hLogged₂, rfl, ?_⟩
    subst hVertex
    simp only [ReadsInputs, List.lookup_cons_self]
    exact ⟨rejected, hInputs⟩
  · rename_i hOther
    rw [Op.ensures_pure]
    refine ⟨hLogged, rfl, ?_⟩
    have hBeq : (ShaderStage.vertex == stage) = false := beq_false_of_ne fun h => hOther h.symm
    simp only [ReadsInputs, List.lookup_cons, hBeq, List.lookup_nil]

/-- The vertex stage is found once, so one of the two has no say in the layout. -/
theorem ReadsInputs.cons {before between layout : VertexLayout} {interface : StageInterface}
    (h : ReadsInputs before [(stage, interface)] between) (hRest : ReadsInputs between found layout)
    (hOther : found.lookup stage = none) :
    ReadsInputs before ((stage, interface) :: found) layout := by
  unfold ReadsInputs at h hRest ⊢
  by_cases hVertex : stage = .vertex
  · subst hVertex
    rw [hOther] at hRest
    dsimp only at hRest
    rw [List.lookup_cons_self] at h ⊢
    rw [hRest]
    exact h
  · have hBeq : (ShaderStage.vertex == stage) = false := beq_false_of_ne fun h => hVertex h.symm
    simp only [List.lookup_cons, hBeq, List.lookup_nil] at h ⊢
    rw [h] at hRest
    exact hRest

/-- A stage is reflected and taken in, or skipped with the failure among the errors. -/
inductive StageReflected (tools : ShaderTools σ) (r : Reflection) (stage : ShaderStage)
    (code : ShaderCode) (w : σ) : Reflection → σ → Prop
  | taken {interface : StageInterface} {r' : Reflection} {w₁ w' : σ}
    (hReflect : Op.start (tools.reflect stage code) w = some (.ok interface, w₁))
    (hLogged : Logged w₁ w') (hUniforms : r'.uniforms = (r.uniforms.mergeStage stage interface).1)
    (hInputs : ReadsInputs r.vertexInput [(stage, interface)] r'.vertexInput) :
    StageReflected tools r stage code w r' w'
  | skipped {e : RenderError} {w₁ : σ}
    (hReflect : Op.start (tools.reflect stage code) w = some (.error e, w₁))
    (hFatal : e.isFatal = false) : StageReflected tools r stage code w
      { r with errors := r.errors ++ [e] } (Logging.push (.report ShaderSource.component e) w₁)

theorem ensures_reflectStage (r : Reflection) (stage : ShaderStage) (code : ShaderCode) (w : σ) :
    (reflectStage tools r stage code).Ensures w
      (fun r' w' => StageReflected tools r stage code w r' w') (fun _ _ => True) := by
  rw [reflectStage, Op.ensures_bind, Op.ensures_attempt]
  refine (Op.ensures_true _ w).run.mono (fun interface w₁ hFound => ?_) (fun e w₁ hFailed => ?_)
  · refine (ensures_takeInterface r stage interface w₁).mono ?_ fun _ _ h => h
    rintro r' w' ⟨hLogged, hUniforms, hInputs⟩
    exact .taken hFound.2 hLogged hUniforms hInputs
  · rw [Op.ensures_bind, survive]
    split
    · rw [Op.ensures_throw]
      trivial
    · rename_i hFatal
      rw [Op.ensures_log, Op.ensures_pure]
      exact .skipped hFailed.2 (eq_false_of_ne_true hFatal)

/-- Reflection goes through the stages, and merges what it finds in order. -/
theorem ensures_reflectStages (r : Reflection) (stages : List (ShaderStage × ShaderCode)) (w : σ)
    (hDistinct : (stages.map (·.1)).Nodup) :
    (reflectStages tools r stages).Ensures w
      (fun r' w' => ∃ found, Reflects tools stages w found w' ∧
        r'.uniforms = (r.uniforms.mergeStages found).1 ∧
        ReadsInputs r.vertexInput found r'.vertexInput)
      (fun _ _ => True) := by
  induction stages generalizing r w with
  | nil =>
    rw [reflectStages, Op.ensures_pure]
    exact ⟨[], .done w, rfl, rfl⟩
  | cons entry rest ih =>
    obtain ⟨stage, code⟩ := entry
    rw [List.map_cons, List.nodup_cons] at hDistinct
    obtain ⟨hOther, hRest⟩ := hDistinct
    rw [reflectStages, Op.ensures_bind]
    refine (ensures_reflectStage r stage code w).mono ?_ fun _ _ h => h
    intro r₁ w₁ hStage
    refine (ih r₁ w₁ hRest).mono ?_ fun _ _ h => h
    rintro r' w' ⟨found, hReflects, hUniforms', hInputs'⟩
    -- a stage that fails without being fatal adds no interface and no inputs
    cases hStage with
    | @taken interface _ _ _ hReflect hLogged hUniforms hInputs =>
      refine ⟨(stage, interface) :: found, .found hReflect hLogged hReflects, ?_,
        hInputs.cons hInputs' (hReflects.lookup_eq_none hOther)⟩
      rw [hUniforms', hUniforms]
      rfl
    | skipped hReflect hFatal =>
      exact ⟨found, .skipped hReflect hFatal hReflects, hUniforms', hInputs'⟩

/-- A reflection leaves the program reflected, in its next generation. Nothing else changes. -/
theorem ensures_reflect_reflected (errors : List RenderError) (p : Program) (w : σ) :
    (reflect tools errors).Ensures (p, w)
      (fun _ s => Reflected tools w s.1 ∧ s.1.generation.toNat = p.generation.toNat + 1 ∧
        ∃ r layouts generation, s.1 = p.withReflection r layouts generation)
      (fun _ _ => True) := by
  have hStages : (reflectStages tools { errors } p.code.entries).Ensures w _ _ :=
    ensures_reflectStages { errors } p.code.entries w (SortedMap.nodup_keys p.code)
  refine (ensures_reflect_of (hStages.mono (fun r w' h => Exists.intro w' h) fun _ _ h => h)).mono
    ?_ fun _ _ _ => trivial
  rintro errors' ⟨q, v⟩ ⟨r, layouts, generation, hFound, -, hLayouts, hNext, rfl⟩
  obtain ⟨w', found, hReflects, hUniforms, hInputs⟩ := hFound
  have hReflected : Reflected tools w (p.withReflection r layouts generation) :=
    ⟨found, w', hReflects, hUniforms, hInputs, hLayouts⟩
  exact ⟨hReflected, Checked.add64_eq_some_iff.mp hNext, r, layouts, generation, rfl⟩

end Reflection

-- ---------------------------------------------------------------------------
-- Histories
-- ---------------------------------------------------------------------------

/-- How often a compilation has rebuilt the program. -/
def rebuilds : Except RenderError CompileReport → Nat
  | .ok report => if report.rebuilt then 1 else 0
  | .error _ => 0

/-- The programs that compilations lead to from new ones, with the number of times they were
rebuilt. Each compilation may be in another world with other tools. -/
inductive History : Nat → Program → Prop
  | new (sources : List ShaderSource) (policy : SparseSetPolicy) :
    History 0 { sources, sparseSets := policy }
  | compile {n : Nat} {p p' : Program} {σ : Type} [Logging σ] {tools : ShaderTools σ} {w w' : σ}
    {r : Except RenderError CompileReport} (hHistory : History n p)
    (hRun : Op.start (compile tools) (p, w) = some (r, p', w')) : History (n + rebuilds r) p'

section Step

variable {σ : Type} [Logging σ] {tools : ShaderTools σ} {w w' : σ} {report : CompileReport}

/-- What a compilation that returns makes of a coherent program. -/
theorem compile_step (hCoherent : p.Coherent)
    (hRun : Op.start (compile tools) (p, w) = some (.ok report, p', w')) :
    ∃ outcomes wLoaded, Loads tools p.sources w outcomes wLoaded ∧
      p'.sources = p.sources ∧ p'.sparseSets = p.sparseSets ∧
      (∀ stage, p'.code.get? stage =
        (loadedCodes stage outcomes).foldl keeping (p.code.get? stage)) ∧
      p'.Coherent ∧ p'.generation.toNat = p.generation.toNat + rebuilds (.ok report) ∧
      if report.rebuilt then Reflected tools wLoaded p' else p' = p := by
  obtain ⟨outcomes, wLoaded, hLoads, hCases⟩ := compile_cases hRun
  have hCode := get?_code_takeAll hCoherent outcomes
  refine ⟨outcomes, wLoaded, hLoads, ?_⟩
  rcases hCases with ⟨hClean, rfl, rfl⟩ | ⟨-, hRebuilt, hReflect⟩
  · rw [takeAll_eq_self hClean] at hCode
    exact ⟨rfl, rfl, hCode, hCoherent, rfl, rfl⟩
  · -- loading changes neither sources nor policy nor generation, and reflecting only counts one
    -- generation on
    obtain ⟨hReflected, hNext, r, layouts, generation, hBuilt⟩ :=
      (ensures_reflect_reflected _ _ wLoaded).of_ok hReflect
    have hSame := sameButLoaded_takeAll p outcomes
    have hSources : (p.takeAll outcomes).sources = p.sources := by rw [hSame]
    have hPolicy : (p.takeAll outcomes).sparseSets = p.sparseSets := by rw [hSame]
    have hGeneration : (p.takeAll outcomes).generation = p.generation := by rw [hSame]
    dsimp only at hReflected hNext hBuilt
    rw [hGeneration] at hNext
    simp only [rebuilds, hRebuilt, if_true]
    refine ⟨?_, ?_, ?_, ?_, hNext, hReflected⟩
    · rw [hBuilt]
      exact hSources
    · rw [hBuilt]
      exact hPolicy
    · rw [hBuilt]
      exact hCode
    · rw [hBuilt]
      exact coherent_takeAll hCoherent outcomes

end Step

/-- The generation counts the rebuilds, and hashes and code belong together. -/
theorem counted_of_history {n : Nat} (h : History n p) : p.generation.toNat = n ∧ p.Coherent := by
  induction h with
  | new sources policy => exact ⟨rfl, fun _ => rfl⟩
  | @compile n p p' σ _ tools w w' r _ hRun ih =>
    obtain ⟨hCount, hCoherent⟩ := ih
    cases r with
    | error e =>
      have hSame : p' = p := (ensures_compile p w).of_error hRun
      rw [hSame]
      exact ⟨hCount, hCoherent⟩
    | ok report =>
      obtain ⟨_, _, -, -, -, -, hCoherent', hNext, -⟩ := compile_step hCoherent hRun
      exact ⟨hNext.trans (congrArg (· + _) hCount), hCoherent'⟩

/-- A stage all of whose sources were skipped has had no code loaded. -/
theorem loadedCodes_eq_nil
    (h : ∀ o ∈ outcomes, o.stage = stage → ∃ e, o.result = .error e) :
    loadedCodes stage outcomes = [] := by
  induction outcomes with
  | nil => rfl
  | cons o rest ih =>
    rw [List.forall_mem_cons] at h
    obtain ⟨hHere, hLater⟩ := h
    rw [loadedCodes_cons, ih hLater, List.append_nil]
    obtain ⟨s, e | code⟩ := o
    · rfl
    · have hOther : ¬ s = stage := by
        intro hStage
        obtain ⟨e, hError⟩ := hHere hStage
        cases hError
      simp [loadedCodes, hOther]

/-- **The parts of a program belong together**, whatever compilations it has been through. Its
generation is the number of those that rebuilt it; it has hashes of just the stages it has code of,
and they are the hashes of that code. A further compilation in any world leaves it as it was, if it
fails. If it returns, each stage has the code it had before or code that was loaded, where code with
another hash replaces the old one; so a stage whose sources were all skipped has kept its code. If
it has rebuilt the program, the program is reflected, and nothing has changed if it has not. -/
theorem coherent_of_history {n : Nat} (h : History n p) :
    p.generation.toNat = n ∧
      (∀ stage, p.hashes.get? stage = (p.code.get? stage).map ShaderCode.hash) ∧
      ∀ (σ : Type) [Logging σ] (tools : ShaderTools σ) (w w' : σ) (p' : Program)
        (r : Except RenderError CompileReport),
        Op.start (compile tools) (p, w) = some (r, p', w') →
        match r with
        | .error _ => p' = p
        | .ok report => ∃ outcomes wLoaded, Loads tools p.sources w outcomes wLoaded ∧
          p'.sources = p.sources ∧ p'.sparseSets = p.sparseSets ∧
          (∀ stage, p'.code.get? stage =
            (loadedCodes stage outcomes).foldl keeping (p.code.get? stage)) ∧
          (∀ stage, (∀ o ∈ outcomes, o.stage = stage → ∃ e, o.result = .error e) →
            p'.code.get? stage = p.code.get? stage) ∧
          if report.rebuilt then Reflected tools wLoaded p' else p' = p := by
  obtain ⟨hCount, hCoherent⟩ := counted_of_history h
  refine ⟨hCount, hCoherent, ?_⟩
  intro σ _ tools w w' p' r hRun
  cases r with
  | error e => exact (ensures_compile p w).of_error hRun
  | ok report =>
    obtain ⟨outcomes, wLoaded, hLoads, hSources, hPolicy, hCode, -, -, hParts⟩ :=
      compile_step hCoherent hRun
    refine ⟨outcomes, wLoaded, hLoads, hSources, hPolicy, hCode, ?_, hParts⟩
    intro stage hSkipped
    rw [hCode, loadedCodes_eq_nil hSkipped, List.foldl_nil]

/-- A program that was compiled twice, the second time with other code and a fragment stage that
has gone: it is in its second generation, has kept the code of that stage, and a third compilation
leaves it as it is. -/
theorem coherent_of_history_of_two :
    let tools := fun seed => Workbench.tools (.fixed (some (.sample seed))) (.fixed [])
    let w : Workbench := { files := ⟨[(["", "a"], .file [])]⟩ }
    ∃ p p' w', History 2 p ∧ p.generation.toNat = 2 ∧
      p.code.get? .vertex = some (.sample 2) ∧ p.code.get? .fragment = some (.sample 1) ∧
      p.hashes.get? .fragment = some (ShaderCode.sample 1).hash ∧
      Op.start (compile (tools 2)) (p, w) = some (.ok ⟨false, [.shaderNotFound "b"]⟩, p', w') ∧
      p' = p := by
  intro tools w
  -- two compiles with different code for the vertex stage, then the second again
  have hRuns : (Op.start (compile (tools 1))
      ({ sources := [⟨.vertex, "a"⟩, ⟨.fragment, "b"⟩] },
        { files := ⟨[(["", "a"], .file []), (["", "b"], .file [])]⟩ })).bind (fun (r₁, p₁, _) =>
        (Op.start (compile (tools 2)) (p₁, w)).bind fun (r₂, p₂, _) =>
          (Op.start (compile (tools 2)) (p₂, w)).map fun (r₃, _, _) =>
            (rebuilds r₁ + rebuilds r₂, r₃.toOption, p₂.code.get? .vertex,
              p₂.code.get? .fragment)) =
      some (2, some ⟨false, [.shaderNotFound "b"]⟩, some (.sample 2), some (.sample 1)) := by
    decide +kernel
  obtain ⟨⟨r₁, p₁, w₁⟩, hFirst, hRuns⟩ := Option.bind_eq_some_iff.mp hRuns
  obtain ⟨⟨r₂, p₂, w₂⟩, hSecond, hRuns⟩ := Option.bind_eq_some_iff.mp hRuns
  obtain ⟨⟨r₃, p₃, w₃⟩, hThird, hRuns⟩ := Option.map_eq_some_iff.mp hRuns
  simp only [Prod.mk.injEq] at hRuns
  obtain ⟨hRebuilds, hReport, hVertex, hFragment⟩ := hRuns
  have hHistory : History 2 p₂ := by
    have hBoth := ((History.new _ _).compile hFirst).compile hSecond
    rw [Nat.zero_add, hRebuilds] at hBoth
    exact hBoth
  cases r₃ with
  | error e => cases hReport
  | ok report =>
    cases hReport
    obtain ⟨hCount, hHashes, hNext⟩ := coherent_of_history hHistory
    obtain ⟨_, _, -, -, -, -, -, hSame⟩ := hNext _ _ _ _ _ _ hThird
    refine ⟨p₂, p₃, w₃, hHistory, hCount, hVertex, hFragment, ?_, hThird, hSame⟩
    rw [hHashes, hFragment]
    rfl

end RenderLoop.Program
