import RenderLoop.Proofs.Op.Agree
import RenderLoop.Proofs.Op.Ensures
import RenderLoop.Rehearsal.Tools

/-!
# RenderLoop — compilations that fail

A compilation changes the program in place, stage by stage: the code and the hash of
a stage are written as soon as it is loaded, and a failure may come from any stage
after that, while loading, while reflecting or when the set layouts are built. The
program is still what it was before (`program_of_failed_compile`): what the loading
wrote is put back, and reflection writes nothing before it can fail no more.

So the failure is there to stay. If the tools answer as before and the files are the
same (`ShaderTools.Steady`), the next compilation fails with the same cause, whatever
else has changed in the world. That it depends on nothing else is shown by running it
from two worlds at once (`Op.Agree`).
-/

namespace RenderLoop

namespace Program

-- ---------------------------------------------------------------------------
-- What loading and reflection write
-- ---------------------------------------------------------------------------

/-- Two programs are the same but for the code that was loaded. -/
def SameButLoaded (p p' : Program) : Prop := p' = { p with code := p'.code, hashes := p'.hashes }

theorem SameButLoaded.refl (p : Program) : SameButLoaded p p := rfl

theorem SameButLoaded.trans {p p' p'' : Program} (hFirst : SameButLoaded p p')
    (hSecond : SameButLoaded p' p'') : SameButLoaded p p'' := by
  rw [SameButLoaded] at hFirst hSecond ⊢
  rw [hFirst] at hSecond
  exact hSecond

/-- Putting the code back undoes a loading. -/
theorem SameButLoaded.restore {p p' : Program} (hSame : SameButLoaded p p') :
    { p' with code := p.code, hashes := p.hashes } = p := by
  rw [hSame]

section Ensures

variable {σ : Type} [Logging σ] {tools : ShaderTools σ}

omit [Logging σ] in
/-- Taking in the code of a stage changes what was loaded, and cannot fail. -/
theorem ensures_accept (l : Loading) (stage : ShaderStage) (code : ShaderCode) (p : Program)
    (w : σ) : (accept l stage code).Ensures (p, w) (fun _ s => SameButLoaded p s.1)
      (fun _ _ => False) := by
  rw [accept]
  simp only [Op.ensures_bind, Op.ensures_get, Op.ensures_change]
  refine Op.ensures_ite (fun _ => ?_) (fun _ => ?_)
  · rw [Op.ensures_bind, Op.ensures_change, Op.ensures_pure]
    rfl
  · rw [Op.ensures_pure]
    rfl

theorem ensures_loadSource (l : Loading) (source : ShaderSource) (p : Program) (w : σ) :
    (loadSource tools l source).Ensures (p, w) (fun _ s => SameButLoaded p s.1)
      (fun _ s => s.1 = p) := by
  rw [loadSource, Op.ensures_bind, Op.ensures_attempt, Op.ensures_onSecond]
  refine (Op.ensures_true _ w).mono (fun code w' _ => ?_) (fun e w' _ => ?_)
  · exact (ensures_accept l source.stage code p w').mono (fun _ _ h => h) (fun _ _ h => h.elim)
  · simp only [Op.ensures_bind, Op.ensures_onSecond, Op.ensures_pure]
    exact (Op.ensures_true _ w').mono (fun _ _ _ => SameButLoaded.refl p) (fun _ _ h => h)

/-- Loading writes code and hashes only, as far as it gets. -/
theorem ensures_loadSources (sources : List ShaderSource) (l : Loading) (p : Program) (w : σ) :
    (loadSources tools l sources).Ensures (p, w) (fun _ s => SameButLoaded p s.1)
      (fun _ s => SameButLoaded p s.1) := by
  induction sources generalizing l p w with
  | nil =>
    rw [loadSources, Op.ensures_pure]
    exact SameButLoaded.refl p
  | cons source rest ih =>
    rw [loadSources, Op.ensures_bind]
    refine (ensures_loadSource l source p w).mono ?_ ?_
    · rintro l' ⟨p', w'⟩ hSame
      exact (ih l' p' w').mono (fun _ _ h => hSame.trans h) (fun _ _ h => hSame.trans h)
    · rintro e ⟨p', w'⟩ rfl
      exact SameButLoaded.refl p'

theorem ensures_logAll {ok : Unit → σ → Prop} {fail : RenderError → σ → Prop}
    (es : List LogEntry) (w : σ) (hOk : ∀ w', ok () w') : (Op.logAll es).Ensures w ok fail := by
  refine (Op.ensures_logAll (P := fun _ => True) (fun _ _ _ => trivial) es trivial).mono ?_
    fun _ _ h => h
  exact fun _ w' _ => hOk w'

/-- Reflection fails before it writes anything. What it writes is the next generation: what is found
in the stages, with the layouts of that. -/
theorem ensures_reflect_of {found : Reflection → Prop} {errors : List RenderError} {p : Program}
    {w : σ} (hStages : (reflectStages tools { errors } p.code.entries).Ensures w (fun r _ => found r)
      (fun _ _ => True)) :
    (reflect tools errors).Ensures (p, w)
      (fun errors' s => ∃ r layouts generation, found r ∧ r.errors = errors' ∧
        setLayouts r.uniforms p.sparseSets = .ok layouts ∧
        Checked.add64 p.generation 1 = some generation ∧
        s.1 = p.withReflection r layouts generation)
      (fun _ s => s.1 = p) := by
  rw [reflect]
  simp only [Op.ensures_bind, Op.ensures_get, Op.ensures_onSecond, Op.ensures_change]
  refine hStages.mono (fun r w₁ hFound => ?_) (fun _ _ h => h)
  refine ensures_logAll _ w₁ fun w₂ => ?_
  rw [Op.ensures_ofExcept]
  cases hLayouts : setLayouts r.uniforms p.sparseSets with
  | error e => rfl
  | ok layouts =>
    refine ensures_logAll _ w₂ fun w₃ => ?_
    rw [Op.ensures_ofOption]
    intro generation hNext
    rw [Op.ensures_log, Op.ensures_pure]
    exact ⟨r, layouts, generation, hFound, rfl, hLayouts, hNext, rfl⟩

theorem ensures_reflect (errors : List RenderError) (p : Program) (w : σ) :
    (reflect tools errors).Ensures (p, w)
      (fun _ s => ∃ r layouts generation, setLayouts r.uniforms p.sparseSets = .ok layouts ∧
        Checked.add64 p.generation 1 = some generation ∧
        s.1 = p.withReflection r layouts generation)
      (fun _ s => s.1 = p) := by
  refine (ensures_reflect_of (Op.ensures_true _ w)).mono ?_ fun _ _ h => h
  rintro errors' s ⟨r, layouts, generation, -, -, hWritten⟩
  exact ⟨r, layouts, generation, hWritten⟩

/-- Until what was loaded is put back, that is all that a failure leaves changed. -/
theorem ensures_loadAndReflect (p : Program) (w : σ) :
    (loadAndReflect tools).Ensures (p, w) (fun _ _ => True) (fun _ s => SameButLoaded p s.1) := by
  rw [loadAndReflect, Op.ensures_bind, Op.ensures_get, Op.ensures_bind]
  refine (ensures_loadSources p.sources {} p w).mono ?_ (fun _ _ h => h)
  rintro l ⟨p', w'⟩ hSame
  refine Op.ensures_ite (fun _ => ?_) (fun _ => ?_)
  · rw [Op.ensures_bind]
    refine (ensures_reflect l.errors p' w').mono (fun errors s _ => ?_) (fun e s hProgram => ?_)
    · rw [Op.ensures_pure]
      trivial
    · rw [hProgram]
      exact hSame
  · rw [Op.ensures_pure]
    trivial

theorem ensures_compile (p : Program) (w : σ) :
    (compile tools).Ensures (p, w) (fun _ _ => True) (fun _ s => s.1 = p) := by
  rw [compile, Op.ensures_bind, Op.ensures_get, Op.ensures_undoing]
  exact (ensures_loadAndReflect p w).mono (fun _ _ h => h) (fun _ _ hSame => hSame.restore)

end Ensures

end Program

-- ---------------------------------------------------------------------------
-- What a compilation depends on
-- ---------------------------------------------------------------------------

section Steady

variable {σ : Type} [Logging σ] {tools : ShaderTools σ} {files : Files}

/-- Both of two worlds have the given files. -/
def ShaderTools.HaveFiles (tools : ShaderTools σ) (files : Files) (w w' : σ) : Prop :=
  tools.files w = files ∧ tools.files w' = files

/-- As long as the files are the given ones, the tools answer always the same to the same question,
and neither they nor the log change the files. -/
structure ShaderTools.Steady (tools : ShaderTools σ) (files : Files) : Prop where
  log : ∀ e w, tools.files w = files → tools.files (Logging.push e w) = files
  compile : ∀ stage text name w w', tools.HaveFiles files w w' →
    Op.Agree (tools.HaveFiles files) (tools.compile stage text name)
      (tools.compile stage text name) w w'
  reflect : ∀ stage code w w', tools.HaveFiles files w w' →
    Op.Agree (tools.HaveFiles files) (tools.reflect stage code) (tools.reflect stage code) w w'

theorem ShaderTools.Steady.push (hSteady : tools.Steady files) (e : LogEntry) (w w' : σ)
    (hFiles : tools.HaveFiles files w w') :
    tools.HaveFiles files (Logging.push e w) (Logging.push e w') :=
  ⟨hSteady.log e w hFiles.1, hSteady.log e w' hFiles.2⟩

theorem ShaderSource.agree_load (hSteady : tools.Steady files) (source : ShaderSource) {w w' : σ}
    (hFiles : tools.HaveFiles files w w') :
    Op.Agree (tools.HaveFiles files) (source.load tools) (source.load tools) w w' := by
  refine Op.agree_get_bind ?_
  rw [hFiles.1, hFiles.2]
  dsimp only
  split
  · exact Op.agree_throw _ hFiles
  · split
    · exact (Op.agree_ofExcept _ hFiles).bind fun _ _ _ hFiles₁ => Op.agree_ofExcept _ hFiles₁
    · refine (Op.agree_ofExcept _ hFiles).bind fun _ t t' hFiles₁ => ?_
      refine (Op.agree_log (hSteady.push _ t t' hFiles₁)).bind fun _ u u' hFiles₂ => ?_
      exact hSteady.compile _ _ _ u u' hFiles₂

namespace Program

/-- Two worlds with the same program and the given files. -/
def Twins (tools : ShaderTools σ) (files : Files) : Program × σ → Program × σ → Prop :=
  Op.Beside (tools.HaveFiles files)

theorem agree_survive (hSteady : tools.Steady files) (e : RenderError) {w w' : σ}
    (hFiles : tools.HaveFiles files w w') :
    Op.Agree (tools.HaveFiles files) (survive e) (survive e) w w' := by
  rw [survive]
  split
  · exact Op.agree_throw e hFiles
  · exact Op.agree_log (hSteady.push _ w w' hFiles)

omit [Logging σ] in
theorem agree_accept (l : Loading) (stage : ShaderStage) (code : ShaderCode) {s s' : Program × σ}
    (hTwins : Twins tools files s s') :
    Op.Agree (Twins tools files) (accept l stage code) (accept l stage code) s s' := by
  obtain ⟨p, w⟩ := s
  obtain ⟨p', w'⟩ := s'
  obtain ⟨hSame, hFiles⟩ := hTwins
  dsimp only at hSame hFiles
  subst hSame
  refine Op.agree_get_bind ?_
  refine Op.Agree.bind (Op.agree_change ⟨rfl, hFiles⟩) fun _ t t' hTwins₁ => ?_
  split
  · refine Op.Agree.bind (Op.agree_change ?_) fun _ u u' hTwins₂ => Op.agree_pure _ hTwins₂
    rw [hTwins₁.1]
    exact ⟨rfl, hTwins₁.2⟩
  · exact Op.agree_pure _ hTwins₁

theorem agree_loadSources (hSteady : tools.Steady files) (sources : List ShaderSource)
    (l : Loading) {s s' : Program × σ} (hTwins : Twins tools files s s') :
    Op.Agree (Twins tools files) (loadSources tools l sources) (loadSources tools l sources)
      s s' := by
  induction sources generalizing l s s' with
  | nil => exact Op.agree_pure l hTwins
  | cons source rest ih =>
    refine Op.Agree.bind ?_ fun l' t t' hTwins₁ => ih l' hTwins₁
    refine Op.Agree.bind
      ((source.agree_load hSteady hTwins.2).onSecond hTwins.1).attempt fun r t t' hTwins₁ => ?_
    cases r with
    | ok code => exact agree_accept l source.stage code hTwins₁
    | error e =>
      exact Op.Agree.bind ((agree_survive hSteady e hTwins₁.2).onSecond hTwins₁.1)
        fun _ _ _ hTwins₂ => Op.agree_pure _ hTwins₂

theorem agree_takeInterface (hSteady : tools.Steady files) (r : Reflection) (stage : ShaderStage)
    (interface : StageInterface) {w w' : σ} (hFiles : tools.HaveFiles files w w') :
    Op.Agree (tools.HaveFiles files) (takeInterface r stage interface)
      (takeInterface r stage interface) w w' := by
  refine (Op.agree_logAll hSteady.push _ hFiles).bind fun _ t t' hFiles₁ => ?_
  rw [takeInputs]
  split
  · refine (Op.agree_ofOption _ hFiles₁).bind fun _ u u' hFiles₂ => ?_
    refine (Op.agree_logAll hSteady.push _ hFiles₂).bind fun _ _ _ hFiles₃ => ?_
    exact Op.agree_pure _ hFiles₃
  · exact Op.agree_pure _ hFiles₁

theorem agree_reflectStages (hSteady : tools.Steady files) (r : Reflection)
    (stages : List (ShaderStage × ShaderCode)) {w w' : σ}
    (hFiles : tools.HaveFiles files w w') :
    Op.Agree (tools.HaveFiles files) (reflectStages tools r stages) (reflectStages tools r stages)
      w w' := by
  induction stages generalizing r w w' with
  | nil => exact Op.agree_pure r hFiles
  | cons entry rest ih =>
    obtain ⟨stage, code⟩ := entry
    refine Op.Agree.bind ?_ fun r' t t' hFiles₁ => ih r' hFiles₁
    refine (hSteady.reflect stage code w w' hFiles).attempt.bind fun outcome t t' hFiles₁ => ?_
    cases outcome with
    | ok interface => exact agree_takeInterface hSteady r stage interface hFiles₁
    | error e =>
      exact (agree_survive hSteady e hFiles₁).bind fun _ _ _ hFiles₂ => Op.agree_pure _ hFiles₂

theorem agree_reflect (hSteady : tools.Steady files) (errors : List RenderError)
    {s s' : Program × σ} (hTwins : Twins tools files s s') :
    Op.Agree (Twins tools files) (reflect tools errors) (reflect tools errors) s s' := by
  refine Op.agree_get_bind ?_
  rw [hTwins.1]
  -- both programs are the same all along, and both worlds keep the files
  refine Op.Agree.bind ((agree_reflectStages hSteady _ _ hTwins.2).onSecond hTwins.1)
    fun r t t' hTwins₁ => ?_
  refine Op.Agree.bind ((Op.agree_logAll hSteady.push _ hTwins₁.2).onSecond hTwins₁.1)
    fun _ t t' hTwins₂ => ?_
  refine Op.Agree.bind (Op.agree_ofExcept _ hTwins₂) fun layouts t t' hTwins₃ => ?_
  refine Op.Agree.bind ((Op.agree_logAll hSteady.push _ hTwins₃.2).onSecond hTwins₃.1)
    fun _ t t' hTwins₄ => ?_
  refine Op.Agree.bind (Op.agree_ofOption _ hTwins₄) fun generation t t' hTwins₅ => ?_
  refine Op.Agree.bind (Op.agree_change ?_) fun _ t t' hTwins₆ => ?_
  · rw [hTwins₅.1]
    exact ⟨rfl, hTwins₅.2⟩
  · refine Op.agree_get_bind ?_
    rw [hTwins₆.1]
    exact Op.Agree.bind (Op.agree_log ⟨hTwins₆.1, hSteady.push _ _ _ hTwins₆.2⟩)
      fun _ _ _ hTwins₇ => Op.agree_pure _ hTwins₇

/-- A compilation depends on the program, the files and the answers of the tools only. -/
theorem agree_compile (hSteady : tools.Steady files) {s s' : Program × σ}
    (hTwins : Twins tools files s s') :
    Op.Agree (Twins tools files) (compile tools) (compile tools) s s' := by
  refine Op.agree_get_bind (Op.Agree.undoing (Op.agree_get_bind ?_) fun t t' hTwins₁ => ?_)
  · rw [hTwins.1]
    refine Op.Agree.bind (agree_loadSources hSteady _ _ hTwins) fun l t t' hTwins₁ => ?_
    split
    · exact Op.Agree.bind (agree_reflect hSteady _ hTwins₁) fun _ _ _ hTwins₂ =>
        Op.agree_pure _ hTwins₂
    · exact Op.agree_pure _ hTwins₁
  · rw [hTwins.1, hTwins₁.1]
    exact ⟨rfl, hTwins₁.2⟩

-- ---------------------------------------------------------------------------
-- Failures
-- ---------------------------------------------------------------------------

/-- **A compilation that fails leaves the program as it was**, whatever the files hold and whatever
the tools do. If files and tools stay the same, so does what it fails with: every further
compilation fails with the same cause, and leaves the program as it was. -/
theorem program_of_failed_compile {p p' : Program} {w w' : σ} {e : RenderError}
    (hRun : Op.start (compile tools) (p, w) = some (.error e, p', w')) :
    p' = p ∧ ∀ files, tools.Steady files → tools.files w = files → tools.files w' = files ∧
      ∀ w₁, tools.files w₁ = files →
        ∃ w₂, Op.start (compile tools) (p', w₁) = some (.error e, p', w₂) ∧
          tools.files w₂ = files := by
  have hProgram : p' = p := (ensures_compile p w).of_error hRun
  refine ⟨hProgram, ?_⟩
  intro files hSteady hFiles
  -- the program is the old one and the files are the same, so a second run is a twin of the first
  have hAgain : ∀ w₁, tools.files w₁ = files → ∃ w₂,
      Op.start (compile tools) (p', w₁) = some (.error e, p', w₂) ∧
        tools.HaveFiles files w' w₂ := by
    intro w₁ hFiles₁
    have hTwins : Twins tools files (p, w) (p', w₁) := ⟨hProgram.symm, hFiles, hFiles₁⟩
    obtain ⟨⟨p₂, w₂⟩, hRun₂, hSame, hFiles₂⟩ := (agree_compile hSteady hTwins).start_right hRun
    dsimp only at hSame hFiles₂
    subst hSame
    exact ⟨w₂, hRun₂, hFiles₂⟩
  obtain ⟨-, -, hKept, -⟩ := hAgain w hFiles
  refine ⟨hKept, fun w₁ hFiles₁ => ?_⟩
  obtain ⟨w₂, hRun₂, -, hFiles₂⟩ := hAgain w₁ hFiles₁
  exact ⟨w₂, hRun₂, hFiles₂⟩

end Program

end Steady

-- ---------------------------------------------------------------------------
-- Rehearsed tools
-- ---------------------------------------------------------------------------

/-- What is found in code depends on the code only. -/
theorem Spirv.agree_reflect {σ : Type} [Logging σ] {rel : σ → σ → Prop}
    (hPush : ∀ e t t', rel t t' → rel (Logging.push e t) (Logging.push e t')) (stage : ShaderStage)
    (code : ShaderCode) {w w' : σ} (hRel : rel w w') :
    Op.Agree rel (Spirv.reflect stage code) (Spirv.reflect stage code) w w' := by
  rw [Spirv.reflect]
  split
  · split
    · exact .abandoned
    · exact Op.agree_failWith (hPush _ w w' hRel)
  · split
    · exact Op.agree_failWith (hPush _ w w' hRel)
    · exact (Op.agree_ofOption _ hRel).bind fun _ _ _ hRel' => Op.agree_pure _ hRel'

/-- The tools of a workbench stay the same. -/
theorem Workbench.steady_tools (compiler : RehearsedCompiler) (reflector : RehearsedReflector)
    (files : Files) : (Workbench.tools compiler reflector).Steady files where
  log _ _ hFiles := hFiles
  compile stage text name w w' hFiles := by
    cases compiler with
    -- the rehearsed compiler only counts the call and answers
    | fixed code | table answers =>
      refine Op.Agree.bind (Op.agree_change ?_) fun _ _ _ hFiles' => Op.agree_ofExcept _ hFiles'
      exact hFiles
    | missing => exact Op.agree_failWith hFiles
  reflect stage code w w' hFiles := by
    cases reflector with
    | fixed interfaces =>
      refine Op.Agree.bind (Op.agree_change ?_) fun _ _ _ hFiles' => Op.agree_pure _ hFiles'
      exact hFiles
    | table answers =>
      refine Op.Agree.bind (Op.agree_change ?_) fun _ _ _ hFiles' => Op.agree_ofExcept _ hFiles'
      exact hFiles
    | reading => exact Spirv.agree_reflect (fun _ _ _ hFiles' => hFiles') stage code hFiles

/-- A program whose only block is in set 1: set 0 is missing, also the second time. -/
theorem Program.compile_with_gap_fails_again :
    let p : Program := { sources := [⟨.vertex, "a"⟩] }
    let tools := Workbench.tools (.fixed (some (.sample 1))) (.fixed
      [(.vertex, { blocks := [{ name := "U", set := some 1, binding := some 0, size := 16 }] })])
    let w : Workbench := { files := ⟨[(["", "a"], .file [])]⟩ }
    ∃ p' w' w'', Op.start (compile tools) (p, w) = some (.error (.sparseDescriptorSet 0), p', w') ∧
      tools.Steady w.files ∧ p' = p ∧
      Op.start (compile tools) (p', w') = some (.error (.sparseDescriptorSet 0), p', w'') := by
  intro p tools w
  have hOutcome : (Op.start (compile tools) (p, w)).map Prod.fst =
      some (.error (.sparseDescriptorSet 0)) := by decide +kernel
  obtain ⟨⟨r, p', w'⟩, hRun, hError⟩ := Option.map_eq_some_iff.mp hOutcome
  dsimp only at hError
  subst hError
  have hSteady := Workbench.steady_tools (.fixed (some (.sample 1))) (.fixed
    [(.vertex, { blocks := [{ name := "U", set := some 1, binding := some 0, size := 16 }] })])
    w.files
  obtain ⟨hProgram, hAgain⟩ := program_of_failed_compile hRun
  obtain ⟨hFiles, hNext⟩ := hAgain w.files hSteady rfl
  obtain ⟨w'', hRun', -⟩ := hNext w' hFiles
  exact ⟨p', w', w'', hRun, hSteady, hProgram, hRun'⟩

end RenderLoop
