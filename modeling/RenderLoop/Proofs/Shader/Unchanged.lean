import RenderLoop.Proofs.Shader.Loading

/-!
# RenderLoop — compiling unchanged files

If no stage has two sources, what is noted for a stage is the hash of what its source
was last loaded as. So a program has changed exactly if a stage was loaded whose hash was
not noted before (`changedBy_iff`), and after a compilation everything that was loaded is
noted (`noted_of_compile_cases`).

A compilation after one that returned therefore does nothing, if the files are the same
and the compiler is steady (`recompile_unchanged`): it comes to the same outcomes, and
stops there. The reflector is not asked, so it may be any other one.
-/

namespace RenderLoop.Program

variable {p : Program} {stage : ShaderStage} {code : ShaderCode} {outcomes : List LoadOutcome}

-- ---------------------------------------------------------------------------
-- What is noted
-- ---------------------------------------------------------------------------

/-- What is noted for a stage is up to its own outcomes. -/
theorem get?_hashes_take_of_ne {o : LoadOutcome} (h : o.stage ≠ stage) :
    (p.take o).hashes.get? stage = p.hashes.get? stage := by
  obtain ⟨s, e | code⟩ := o
  · rfl
  · have hNe : ¬ compare stage s = .eq := fun hSame => h (Std.LawfulEqOrd.eq_of_compare hSame).symm
    rw [hashes_take_ok, SortedMap.get?_insert, if_neg hNe]

theorem get?_hashes_takeAll_of_ne (h : ∀ o ∈ outcomes, o.stage ≠ stage) :
    (p.takeAll outcomes).hashes.get? stage = p.hashes.get? stage := by
  induction outcomes generalizing p with
  | nil => rfl
  | cons o rest ih =>
    rw [List.forall_mem_cons] at h
    rw [takeAll, ih h.2, get?_hashes_take_of_ne h.1]

/-- If no stage has two outcomes, the hash of what was loaded is noted in the end. -/
theorem get?_hashes_takeAll (hDistinct : (outcomes.map (·.stage)).Nodup)
    (hMem : ⟨stage, .ok code⟩ ∈ outcomes) :
    (p.takeAll outcomes).hashes.get? stage = some code.hash := by
  induction outcomes generalizing p with
  | nil => cases hMem
  | cons o rest ih =>
    rw [List.map_cons, List.nodup_cons] at hDistinct
    obtain ⟨hOther, hRest⟩ := hDistinct
    rw [takeAll]
    rcases List.mem_cons.mp hMem with rfl | hLater
    · have hAlone : ∀ o ∈ rest, o.stage ≠ stage := by
        intro o ho hSame
        exact hOther (List.mem_map.mpr ⟨o, ho, hSame⟩)
      rw [get?_hashes_takeAll_of_ne hAlone, hashes_take_ok, SortedMap.get?_insert]
      simp
    · exact ih hRest hLater

/-- If no stage has two outcomes, the program has changed exactly if something was loaded whose
hash was not noted before all of them. -/
theorem changedBy_iff (hDistinct : (outcomes.map (·.stage)).Nodup) :
    p.changedBy outcomes = true ↔
      ∃ stage code, ⟨stage, .ok code⟩ ∈ outcomes ∧ p.hashes.get? stage ≠ some code.hash := by
  induction outcomes generalizing p with
  | nil => simp [changedBy]
  | cons o rest ih =>
    rw [List.map_cons, List.nodup_cons] at hDistinct
    obtain ⟨hOther, hRest⟩ := hDistinct
    -- the stages are distinct, so taking the first outcome notes nothing for the later ones
    have hKept : ∀ stage code, ⟨stage, .ok code⟩ ∈ rest →
        (p.take o).hashes.get? stage = p.hashes.get? stage := by
      intro stage code hMem
      refine get?_hashes_take_of_ne fun hSame => hOther ?_
      rw [hSame]
      exact List.mem_map.mpr ⟨_, hMem, rfl⟩
    rw [changedBy, Bool.or_eq_true, ih hRest]
    constructor
    · rintro (hFirst | ⟨stage, code, hMem, hNew⟩)
      · obtain ⟨stage, e | code⟩ := o
        · cases hFirst
        · exact ⟨stage, code, List.mem_cons_self, isDirty_iff.mp hFirst⟩
      · rw [hKept stage code hMem] at hNew
        exact ⟨stage, code, List.mem_cons_of_mem _ hMem, hNew⟩
    · rintro ⟨stage, code, hMem, hNew⟩
      rcases List.mem_cons.mp hMem with rfl | hLater
      · exact .inl (isDirty_iff.mpr hNew)
      · rw [← hKept stage code hLater] at hNew
        exact .inr ⟨stage, code, hLater, hNew⟩

/-- Outcomes whose hashes are all noted change nothing. -/
theorem changedBy_of_noted (hDistinct : (outcomes.map (·.stage)).Nodup)
    (hNoted : ∀ stage code, ⟨stage, .ok code⟩ ∈ outcomes → p.hashes.get? stage = some code.hash) :
    p.changedBy outcomes = false := by
  rw [Bool.eq_false_iff, ne_eq, changedBy_iff hDistinct]
  rintro ⟨stage, code, hMem, hNew⟩
  exact hNew (hNoted stage code hMem)

-- ---------------------------------------------------------------------------
-- What reflection adds
-- ---------------------------------------------------------------------------

section Reflection

variable {σ : Type} [Logging σ] {tools : ShaderTools σ}

/-- Reflection goes on reporting after what was reported before. -/
def ReportsAfter (errors : List RenderError) (r : Reflection) : Prop := errors <+: r.errors

theorem ensures_takeInterface_reports (r : Reflection) (stage : ShaderStage)
    (interface : StageInterface) (w : σ) :
    (takeInterface r stage interface).Ensures w (fun r' _ => ReportsAfter r.errors r')
      (fun _ _ => True) := by
  rw [takeInterface, Op.ensures_bind]
  refine ensures_logAll _ w fun w₁ => ?_
  rw [takeInputs]
  split
  · rw [Op.ensures_bind, Op.ensures_ofOption]
    rintro ⟨layout, rejected⟩ -
    rw [Op.ensures_bind]
    refine ensures_logAll _ w₁ fun w₂ => ?_
    rw [Op.ensures_pure, ReportsAfter, List.append_assoc]
    exact List.prefix_append _ _
  · rw [Op.ensures_pure]
    exact List.prefix_append _ _

theorem ensures_reflectStages_reports (r : Reflection) (stages : List (ShaderStage × ShaderCode))
    (w : σ) :
    (reflectStages tools r stages).Ensures w (fun r' _ => ReportsAfter r.errors r')
      (fun _ _ => True) := by
  induction stages generalizing r w with
  | nil =>
    rw [reflectStages, Op.ensures_pure]
    exact List.prefix_rfl
  | cons entry rest ih =>
    obtain ⟨stage, code⟩ := entry
    -- the later stages only add reports to those of the first
    have hRest : ∀ r' w', ReportsAfter r.errors r' →
        (reflectStages tools r' rest).Ensures w' (fun r'' _ => ReportsAfter r.errors r'')
          (fun _ _ => True) := by
      intro r' w' hFirst
      exact (ih r' w').mono (fun _ _ hLater => hFirst.trans hLater) fun _ _ h => h
    rw [reflectStages, Op.ensures_bind, reflectStage, Op.ensures_bind, Op.ensures_attempt]
    refine (Op.ensures_true _ w).mono (fun interface w₁ _ => ?_) (fun e w₁ _ => ?_)
    · exact (ensures_takeInterface_reports r stage interface w₁).mono hRest fun _ _ h => h
    · rw [Op.ensures_bind]
      refine (Op.ensures_true _ w₁).mono (fun _ w₂ _ => ?_) fun _ _ h => h
      rw [Op.ensures_pure]
      exact hRest _ w₂ (List.prefix_append _ _)

theorem ensures_reflect_reports (errors : List RenderError) (p : Program) (w : σ) :
    (reflect tools errors).Ensures (p, w) (fun errors' _ => errors <+: errors')
      (fun _ _ => True) := by
  have hStages : (reflectStages tools { errors } p.code.entries).Ensures w _ _ :=
    ensures_reflectStages_reports { errors } p.code.entries w
  refine (ensures_reflect_of hStages).mono ?_ fun _ _ _ => trivial
  rintro errors' s ⟨r, layouts, generation, hAfter, rfl, -⟩
  exact hAfter

end Reflection

-- ---------------------------------------------------------------------------
-- The second compilation
-- ---------------------------------------------------------------------------

variable {σ : Type} [Logging σ] {tools : ShaderTools σ} {w w' : σ}

/-- Loading does not ask the reflector. -/
theorem Loads.withReflector {sources : List ShaderSource}
    (hLoads : Loads tools sources w outcomes w')
    (reflector : ShaderStage → ShaderCode → Op σ StageInterface) :
    Loads { tools with reflect := reflector } sources w outcomes w' := by
  induction hLoads with
  | done w => exact .done w
  | loaded hLoad _ ih => exact .loaded hLoad ih
  | skipped hLoad hFatal _ ih => exact .skipped hLoad hFatal ih

/-- After a compilation that returned, its sources are the same and all that it loaded is noted. -/
theorem noted_of_compile_cases {p' : Program} {report : CompileReport}
    (hDistinct : (outcomes.map (·.stage)).Nodup)
    (hCases : (p.changedBy outcomes = false ∧ report = ⟨false, loadFailures outcomes⟩ ∧ p' = p) ∨
      (p.changedBy outcomes = true ∧ report.rebuilt = true ∧
        Op.start (reflect tools (loadFailures outcomes)) (p.takeAll outcomes, w) =
          some (.ok report.errors, p', w'))) :
    p'.sources = p.sources ∧ ∀ stage code, ⟨stage, .ok code⟩ ∈ outcomes →
      p'.hashes.get? stage = some code.hash := by
  rcases hCases with ⟨hClean, -, rfl⟩ | ⟨-, -, hReflect⟩
  · refine ⟨rfl, fun stage code hMem => ?_⟩
    by_contra hNew
    have hChanged := (changedBy_iff hDistinct).mpr ⟨stage, code, hMem, hNew⟩
    cases hClean.symm.trans hChanged
  · obtain ⟨r, layouts, generation, -, -, hBuilt⟩ := (ensures_reflect _ _ w).of_ok hReflect
    have hSame := sameButLoaded_takeAll p outcomes
    have hSources : (p.takeAll outcomes).sources = p.sources := by rw [hSame]
    rw [show p' = (p.takeAll outcomes).withReflection r layouts generation from hBuilt]
    exact ⟨hSources, fun stage code hMem => get?_hashes_takeAll hDistinct hMem⟩

/-- **Compiling unchanged files does nothing.** If no stage has two sources, a compilation that
returned has rebuilt the program exactly if a stage was loaded that had no hash noted, or another
one; its report begins with the failures to load. If the compiler is steady, another compilation
from any world with the same files returns as well: it reports these failures and no others,
rebuilds nothing and leaves the whole program as it is. It does so with any reflector, also one that
would give up. -/
theorem recompile_unchanged {p' : Program} {report : CompileReport}
    (hDistinct : (p.sources.map (·.stage)).Nodup)
    (hRun : Op.start (compile tools) (p, w) = some (.ok report, p', w')) :
    ∃ outcomes wLoaded, Loads tools p.sources w outcomes wLoaded ∧
      (report.rebuilt = true ↔ ∃ stage code, ⟨stage, .ok code⟩ ∈ outcomes ∧
        p.hashes.get? stage ≠ some code.hash) ∧
      loadFailures outcomes <+: report.errors ∧
      ∀ files, tools.Steady files → tools.files w = files → tools.files w' = files ∧
        ∀ reflector w₁, tools.files w₁ = files →
          ∃ w₂, Op.start (compile { tools with reflect := reflector }) (p', w₁) =
              some (.ok ⟨false, loadFailures outcomes⟩, p', w₂) ∧
            tools.files w₂ = files := by
  obtain ⟨outcomes, wLoaded, hLoads, hCases⟩ := compile_cases hRun
  have hStages : (outcomes.map (·.stage)).Nodup := by
    rw [hLoads.stages]
    exact hDistinct
  have hRebuilt : report.rebuilt = p.changedBy outcomes := by
    rcases hCases with ⟨hClean, rfl, -⟩ | ⟨hChanged, hReport, -⟩
    · exact hClean.symm
    · rw [hChanged, hReport]
  -- reflecting reports after loading has, so the failures to load come first
  have hErrors : loadFailures outcomes <+: report.errors := by
    rcases hCases with ⟨-, rfl, -⟩ | ⟨-, -, hReflect⟩
    · exact List.prefix_rfl
    · exact (ensures_reflect_reports _ _ wLoaded).of_ok hReflect
  obtain ⟨hSources, hNoted⟩ := noted_of_compile_cases hStages hCases
  refine ⟨outcomes, wLoaded, hLoads, ?_, hErrors, fun files hSteady hFiles => ⟨?_, ?_⟩⟩
  · rw [hRebuilt, changedBy_iff hStages]
  · -- a run on the same files is a twin of this one, so it leaves them as they are
    have hTwins : Twins tools files (p, w) (p, w) := ⟨rfl, hFiles, hFiles⟩
    obtain ⟨_, -, -, hKept, -⟩ := (agree_compile hSteady hTwins).start_right hRun
    exact hKept
  · intro reflector w₁ hFiles₁
    -- the same files load again to the same outcomes, whose hashes are noted by now
    obtain ⟨w₂, hAgain, -, hFiles₂⟩ := hLoads.again hSteady ⟨hFiles, hFiles₁⟩
    rw [← hSources] at hAgain
    have hSecond := compile_of_unchanged (hAgain.withReflector reflector)
      (changedBy_of_noted hStages hNoted)
    exact ⟨w₂, hSecond, hFiles₂⟩

/-- A program whose vertex stage is loaded and whose fragment stage is missing: the second compilation
finds the same stage missing and is done, although its reflector gives up. -/
theorem recompile_with_missing_stage :
    let p : Program := { sources := [⟨.vertex, "a"⟩, ⟨.fragment, "b"⟩] }
    let tools := Workbench.tools (.fixed (some (.sample 1))) (.fixed [])
    let w : Workbench := { files := ⟨[(["", "a"], .file [])]⟩ }
    (p.sources.map (·.stage)).Nodup ∧ tools.Steady w.files ∧
      ∃ p' w' w₂, Op.start (compile tools) (p, w) =
          some (.ok ⟨true, [.shaderNotFound "b"]⟩, p', w') ∧
        Op.start (compile { tools with reflect := fun _ _ => Op.abandon }) (p', w') =
          some (.ok ⟨false, [.shaderNotFound "b"]⟩, p', w₂) := by
  intro p tools w
  have hDistinct : (p.sources.map (·.stage)).Nodup := by decide
  have hSteady := Workbench.steady_tools (.fixed (some (.sample 1))) (.fixed []) w.files
  have hOutcome : (Op.start (compile tools) (p, w)).map Prod.fst =
      some (.ok ⟨true, [.shaderNotFound "b"]⟩) := rfl
  obtain ⟨⟨r, p', w'⟩, hRun, hReport⟩ := Option.map_eq_some_iff.mp hOutcome
  dsimp only at hReport
  subst hReport
  obtain ⟨outcomes, wLoaded, hLoads, hRebuilt, hErrors, hAgain⟩ := recompile_unchanged hDistinct hRun
  obtain ⟨hFiles, hNext⟩ := hAgain w.files hSteady rfl
  obtain ⟨w₂, hSecond, -⟩ := hNext (fun _ _ => Op.abandon) w' hFiles
  refine ⟨hDistinct, hSteady, p', w', w₂, hRun, ?_⟩
  -- the only failure to load is the missing fragment stage
  have hFailures : loadFailures outcomes = [.shaderNotFound "b"] := by
    have hLoading : (Op.start (loadSources tools {} p.sources) (p, w)).map
        (fun s => s.1.map Loading.errors) = some (.ok [.shaderNotFound "b"]) := rfl
    rw [hLoads.start] at hLoading
    exact Except.ok.inj (Option.some.inj hLoading)
  rw [hFailures] at hSecond
  exact hSecond

end RenderLoop.Program
