import RenderLoop.Proofs.Shader.Compile
import RenderLoop.Proofs.SortedMap

/-!
# RenderLoop — what loading makes of a program

Loading goes through the sources in order. Each is loaded, or skipped after a failure
that can be lived with; files and tools have nothing to say beyond these **outcomes**
(`Loads`). What becomes of the program depends on the outcomes alone (`takeAll`), and so
does whether it has changed (`changedBy`).

A compilation that returns is a loading, and a reflection after it exactly if the
program has changed (`compile_cases`).
-/

namespace RenderLoop.Program

-- ---------------------------------------------------------------------------
-- Outcomes
-- ---------------------------------------------------------------------------

/-- What became of the source of a stage. -/
structure LoadOutcome where
  stage : ShaderStage
  result : Except RenderError ShaderCode

/-- The failure after which a source was skipped. -/
def LoadOutcome.failure? (o : LoadOutcome) : Option RenderError :=
  match o.result with
  | .ok _ => none
  | .error e => some e

/-- The failures among outcomes, in order. -/
def loadFailures (outcomes : List LoadOutcome) : List RenderError :=
  outcomes.filterMap LoadOutcome.failure?

/-- The code that was loaded for a stage, in order. -/
def loadedCodes (stage : ShaderStage) : List LoadOutcome → List ShaderCode
  | [] => []
  | ⟨s, .ok code⟩ :: rest =>
    if s = stage then code :: loadedCodes stage rest else loadedCodes stage rest
  | ⟨_, .error _⟩ :: rest => loadedCodes stage rest

/-- The sources are gone through in order, and each is loaded, or skipped after a failure that is
reported and not fatal. -/
inductive Loads {σ : Type} [Logging σ] (tools : ShaderTools σ) :
    List ShaderSource → σ → List LoadOutcome → σ → Prop
  | done (w : σ) : Loads tools [] w [] w
  | loaded {source : ShaderSource} {rest : List ShaderSource} {w w₁ w' : σ} {code : ShaderCode}
    {outcomes : List LoadOutcome} (hLoad : Op.start (source.load tools) w = some (.ok code, w₁))
    (hRest : Loads tools rest w₁ outcomes w') :
    Loads tools (source :: rest) w (⟨source.stage, .ok code⟩ :: outcomes) w'
  | skipped {source : ShaderSource} {rest : List ShaderSource} {w w₁ w' : σ} {e : RenderError}
    {outcomes : List LoadOutcome} (hLoad : Op.start (source.load tools) w = some (.error e, w₁))
    (hFatal : e.isFatal = false)
    (hRest : Loads tools rest (Logging.push (.report ShaderSource.component e) w₁) outcomes w') :
    Loads tools (source :: rest) w (⟨source.stage, .error e⟩ :: outcomes) w'

-- ---------------------------------------------------------------------------
-- The program after outcomes
-- ---------------------------------------------------------------------------

/-- Whether an outcome changes the program. -/
def changedByOne (p : Program) (o : LoadOutcome) : Bool :=
  match o.result with
  | .ok code => p.isDirty o.stage code
  | .error _ => false

/-- The program after an outcome: code is noted, and kept if it differs from what was noted before. -/
def take (p : Program) (o : LoadOutcome) : Program :=
  match o.result with
  | .ok code =>
    if p.isDirty o.stage code then
      { p.noteHash o.stage code with code := p.code.insert o.stage code }
    else p.noteHash o.stage code
  | .error _ => p

/-- The program after outcomes in order. -/
def takeAll (p : Program) : List LoadOutcome → Program
  | [] => p
  | o :: rest => (p.take o).takeAll rest

/-- Whether any of some outcomes changes the program. -/
def changedBy (p : Program) : List LoadOutcome → Bool
  | [] => false
  | o :: rest => p.changedByOne o || (p.take o).changedBy rest

/-- A loading after outcomes. -/
def Loading.following (l : Loading) (p : Program) (outcomes : List LoadOutcome) : Loading :=
  ⟨l.dirty || p.changedBy outcomes, l.errors ++ loadFailures outcomes⟩

variable {p : Program} {stage : ShaderStage} {code : ShaderCode} {o : LoadOutcome}
  {outcomes : List LoadOutcome}

@[simp] theorem take_error (p : Program) (stage : ShaderStage) (e : RenderError) :
    p.take ⟨stage, .error e⟩ = p := rfl

theorem isDirty_iff : p.isDirty stage code = true ↔ p.hashes.get? stage ≠ some code.hash := by
  unfold isDirty
  exact decide_eq_true_iff

theorem isDirty_eq_false_iff :
    p.isDirty stage code = false ↔ p.hashes.get? stage = some code.hash := by
  unfold isDirty
  rw [decide_eq_false_iff_not, Decidable.not_not]

/-- The hash of what was loaded is noted in any case. -/
@[simp] theorem hashes_take_ok (p : Program) (stage : ShaderStage) (code : ShaderCode) :
    (p.take ⟨stage, .ok code⟩).hashes = p.hashes.insert stage code.hash := by
  simp only [take]
  split <;> rfl

/-- Code that was noted before is not put in the place of the old one. -/
theorem code_take_ok (p : Program) (stage : ShaderStage) (code : ShaderCode) :
    (p.take ⟨stage, .ok code⟩).code =
      if p.isDirty stage code then p.code.insert stage code else p.code := by
  simp only [take]
  split <;> rfl

theorem sameButLoaded_take (p : Program) (o : LoadOutcome) : SameButLoaded p (p.take o) := by
  obtain ⟨stage, e | code⟩ := o
  · exact .refl p
  · simp only [take]
    split <;> rfl

/-- Taking outcomes changes the loaded code and hashes only. -/
theorem sameButLoaded_takeAll (p : Program) (outcomes : List LoadOutcome) :
    SameButLoaded p (p.takeAll outcomes) := by
  induction outcomes generalizing p with
  | nil => exact .refl p
  | cons o rest ih => exact (sameButLoaded_take p o).trans (ih (p.take o))

/-- An outcome that does not change the program leaves it as it is. -/
theorem take_eq_self (h : p.changedByOne o = false) : p.take o = p := by
  obtain ⟨stage, e | code⟩ := o
  · rfl
  · have hClean : p.isDirty stage code = false := h
    have hNoted : p.hashes.insert stage code.hash = p.hashes :=
      SortedMap.insert_of_get? (isDirty_eq_false_iff.mp hClean)
    simp only [take, hClean, Bool.false_eq_true, if_false, noteHash, hNoted]

/-- What changes nothing leaves the program as it was. -/
theorem takeAll_eq_self (h : p.changedBy outcomes = false) : p.takeAll outcomes = p := by
  induction outcomes with
  | nil => rfl
  | cons o rest ih =>
    rw [changedBy, Bool.or_eq_false_iff] at h
    obtain ⟨hFirst, hRest⟩ := h
    rw [take_eq_self hFirst] at hRest
    rw [takeAll, take_eq_self hFirst, ih hRest]

-- ---------------------------------------------------------------------------
-- Loading comes to its outcomes
-- ---------------------------------------------------------------------------

section Start

variable {σ : Type}

theorem start_accept (l : Loading) (stage : ShaderStage) (code : ShaderCode) (p : Program) (w : σ) :
    Op.start (accept l stage code) (p, w) =
      some (.ok ⟨l.dirty || p.isDirty stage code, l.errors⟩, p.take ⟨stage, .ok code⟩, w) := by
  simp only [accept, take]
  rw [Op.start_bind_of_ok (Op.start_get _), Op.start_bind_of_ok (Op.start_change _ _)]
  split
  · rename_i hDirty
    rw [Op.start_bind_of_ok (Op.start_change _ _), Op.start_pure, hDirty, Bool.or_true]
    rfl
  · rename_i hClean
    rw [Op.start_pure, eq_false_of_ne_true hClean, Bool.or_false]

variable [Logging σ] {tools : ShaderTools σ} {sources : List ShaderSource} {source : ShaderSource}
  {w w₁ w' : σ} {e : RenderError}

theorem start_loadSource_of_ok (hLoad : Op.start (source.load tools) w = some (.ok code, w₁))
    (l : Loading) (p : Program) :
    Op.start (loadSource tools l source) (p, w) =
      some (.ok (l.following p [⟨source.stage, .ok code⟩]), p.take ⟨source.stage, .ok code⟩, w₁) := by
  have hAttempt : Op.start (source.load tools).onSecond.attempt (p, w) =
      some (.ok (.ok code), p, w₁) := by
    rw [Op.start_attempt, Op.start_onSecond, hLoad]
    rfl
  rw [loadSource, Op.start_bind_of_ok hAttempt]
  dsimp only
  rw [start_accept]
  simp [Loading.following, changedBy, changedByOne, loadFailures, LoadOutcome.failure?]

/-- After a failure, that the failure is fatal decides. -/
theorem start_loadSource_of_error (hLoad : Op.start (source.load tools) w = some (.error e, w₁))
    (l : Loading) (p : Program) :
    Op.start (loadSource tools l source) (p, w) =
      if e.isFatal then some (.error e, p, w₁)
      else some (.ok (l.following p [⟨source.stage, .error e⟩]), p,
        Logging.push (.report ShaderSource.component e) w₁) := by
  have hAttempt : Op.start (source.load tools).onSecond.attempt (p, w) =
      some (.ok (.error e), p, w₁) := by
    rw [Op.start_attempt, Op.start_onSecond, hLoad]
    rfl
  rw [loadSource, Op.start_bind_of_ok hAttempt]
  dsimp only
  rw [survive, Op.start_bind, Op.start_onSecond]
  split
  · rfl
  · simp [Loading.following, Loading.skip, changedBy, changedByOne, loadFailures,
      LoadOutcome.failure?]

omit [Logging σ] in
theorem Loading.following_cons (l : Loading) (p : Program) (o : LoadOutcome)
    (rest : List LoadOutcome) :
    (l.following p [o]).following (p.take o) rest = l.following p (o :: rest) := by
  have hFailures : loadFailures (o :: rest) = loadFailures [o] ++ loadFailures rest := by
    simp only [loadFailures, ← List.filterMap_append, List.singleton_append]
  simp only [following, hFailures, changedBy, Bool.or_false, Bool.or_assoc, List.append_assoc]

/-- Outcomes decide what a loading returns and what it makes of the program. -/
theorem Loads.start (hLoads : Loads tools sources w outcomes w') (l : Loading) (p : Program) :
    Op.start (loadSources tools l sources) (p, w) =
      some (.ok (l.following p outcomes), p.takeAll outcomes, w') := by
  induction hLoads generalizing l p with
  | done w => simp [loadSources, Loading.following, changedBy, loadFailures, takeAll]
  | loaded hLoad hRest ih =>
    rw [loadSources, Op.start_bind_of_ok (start_loadSource_of_ok hLoad l p), ih,
      Loading.following_cons, takeAll]
  | @skipped source rest w w₁ w' e outcomes hLoad hFatal hRest ih =>
    have hFirst := start_loadSource_of_error hLoad l p
    rw [hFatal, if_neg Bool.false_ne_true] at hFirst
    have hFollow := Loading.following_cons l p ⟨source.stage, .error e⟩ outcomes
    rw [take_error] at hFollow
    rw [loadSources, Op.start_bind_of_ok hFirst, ih, hFollow, takeAll, take_error]

/-- A loading that returns comes to outcomes. -/
theorem loads_of_start {l l' : Loading} {p p' : Program}
    (hRun : Op.start (loadSources tools l sources) (p, w) = some (.ok l', p', w')) :
    ∃ outcomes, Loads tools sources w outcomes w' := by
  induction sources generalizing l p w with
  | nil =>
    cases hRun
    exact ⟨[], .done _⟩
  | cons source rest ih =>
    rw [loadSources, Op.start_bind_eq_ok_iff] at hRun
    obtain ⟨l₁, ⟨p₁, w₁⟩, hFirst, hRest⟩ := hRun
    obtain ⟨outcomes, hLoads⟩ := ih hRest
    -- a source that does not come to an end ends no run, and a fatal failure ends it with an error
    rcases hLoad : Op.start (source.load tools) w with _ | ⟨e | code, w₀⟩
    · rw [loadSource, Op.start_bind_of_none] at hFirst
      · cases hFirst
      · rw [Op.start_attempt, Op.start_onSecond, hLoad]
        rfl
    · rw [start_loadSource_of_error hLoad] at hFirst
      split at hFirst
      · cases hFirst
      · rename_i hFatal
        cases hFirst
        exact ⟨_, .skipped hLoad (eq_false_of_ne_true hFatal) hLoads⟩
    · rw [start_loadSource_of_ok hLoad] at hFirst
      cases hFirst
      exact ⟨_, .loaded hLoad hLoads⟩

/-- Every source has its outcome. -/
theorem Loads.stages (hLoads : Loads tools sources w outcomes w') :
    outcomes.map (·.stage) = sources.map (·.stage) := by
  induction hLoads with
  | done w => rfl
  | loaded _ _ ih | skipped _ _ _ ih => rw [List.map_cons, List.map_cons, ih]

/-- With steady tools, the same files lead to the same outcomes. -/
theorem Loads.again {files : Files} (hSteady : tools.Steady files)
    (hLoads : Loads tools sources w outcomes w') {v : σ} (hFiles : tools.HaveFiles files w v) :
    ∃ v', Loads tools sources v outcomes v' ∧ tools.HaveFiles files w' v' := by
  induction hLoads generalizing v with
  | done w => exact ⟨v, .done v, hFiles⟩
  | @loaded source rest w w₁ w' code outcomes hLoad hRest ih =>
    obtain ⟨v₁, hLoad', hFiles₁⟩ := (source.agree_load hSteady hFiles).start_right hLoad
    obtain ⟨v', hRest', hFiles'⟩ := ih hFiles₁
    exact ⟨v', .loaded hLoad' hRest', hFiles'⟩
  | @skipped source rest w w₁ w' e outcomes hLoad hFatal hRest ih =>
    obtain ⟨v₁, hLoad', hFiles₁⟩ := (source.agree_load hSteady hFiles).start_right hLoad
    obtain ⟨v', hRest', hFiles'⟩ := ih (hSteady.push _ _ _ hFiles₁)
    exact ⟨v', .skipped hLoad' hFatal hRest', hFiles'⟩

-- ---------------------------------------------------------------------------
-- Compilation
-- ---------------------------------------------------------------------------

/-- **What a compilation that returns has done**: it has gone through the sources; then it has
reflected the program, if the outcomes have changed it, and has left it alone, if they have not. -/
theorem compile_cases {p p' : Program} {report : CompileReport}
    (hRun : Op.start (compile tools) (p, w) = some (.ok report, p', w')) :
    ∃ outcomes w₁, Loads tools p.sources w outcomes w₁ ∧
      ((p.changedBy outcomes = false ∧ report = ⟨false, loadFailures outcomes⟩ ∧ p' = p) ∨
        (p.changedBy outcomes = true ∧ report.rebuilt = true ∧
          Op.start (reflect tools (loadFailures outcomes)) (p.takeAll outcomes, w₁) =
            some (.ok report.errors, p', w'))) := by
  -- a run that returns is not undone
  have hBody : Op.start (loadAndReflect tools) (p, w) = some (.ok report, p', w') := by
    rw [compile, Op.start_bind_of_ok (Op.start_get _), Op.start_undoing] at hRun
    obtain ⟨⟨r, s⟩, hBody, hSame⟩ := Option.map_eq_some_iff.mp hRun
    cases r <;> cases hSame
    exact hBody
  rw [loadAndReflect, Op.start_bind_of_ok (Op.start_get _), Op.start_bind_eq_ok_iff] at hBody
  obtain ⟨l, ⟨q, w₁⟩, hLoad, hRest⟩ := hBody
  obtain ⟨outcomes, hLoads⟩ := loads_of_start hLoad
  rw [hLoads.start] at hLoad
  cases hLoad
  have hDirty : (Loading.following {} p outcomes).dirty = p.changedBy outcomes := rfl
  have hErrors : (Loading.following {} p outcomes).errors = loadFailures outcomes := rfl
  rw [hDirty, hErrors] at hRest
  refine ⟨outcomes, w₁, hLoads, ?_⟩
  -- the program is reflected exactly if an outcome changed it
  split at hRest
  · rename_i hChanged
    rw [Op.start_bind_eq_ok_iff] at hRest
    obtain ⟨errors, s, hReflect, hReport⟩ := hRest
    cases hReport
    exact .inr ⟨hChanged, rfl, hReflect⟩
  · rename_i hSame
    have hClean := eq_false_of_ne_true hSame
    cases hRest
    exact .inl ⟨hClean, rfl, takeAll_eq_self hClean⟩

/-- A compilation whose outcomes change nothing does nothing after loading. -/
theorem compile_of_unchanged (hLoads : Loads tools p.sources w outcomes w')
    (hClean : p.changedBy outcomes = false) :
    Op.start (compile tools) (p, w) = some (.ok ⟨false, loadFailures outcomes⟩, p, w') := by
  have hLoad := hLoads.start {} p
  rw [takeAll_eq_self hClean] at hLoad
  have hDirty : (Loading.following {} p outcomes).dirty = false := hClean
  rw [compile, Op.start_bind_of_ok (Op.start_get _), Op.start_undoing, loadAndReflect,
    Op.start_bind_of_ok (Op.start_get _), Op.start_bind_of_ok hLoad, hDirty,
    if_neg Bool.false_ne_true]
  rfl

end Start

end RenderLoop.Program
