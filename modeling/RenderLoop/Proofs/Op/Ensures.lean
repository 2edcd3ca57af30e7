import RenderLoop.Op.Lemmas

/-!
# RenderLoop — what operations ensure

An operation **ensures** two conditions from a world: one on the value and the
world of a return, one on the cause and the world of a failure. Nothing is said
about a run that is abandoned, since it leaves no world behind.

There is one equation for each way of making operations (`ensures_bind`,
`ensures_attempt`, `ensures_undoing`, `ensures_on`, ...). With them a statement
about an operation becomes one about the worlds it passes through, and an
operation that has a statement of its own is used through that (`Ensures.mono`).

`Returns` says that a run is not abandoned.
-/

namespace RenderLoop.Op

variable {σ τ ρ α β : Type}

/-- An outcome satisfies the condition on its kind. -/
def Outcome (ok : α → σ → Prop) (fail : RenderError → σ → Prop) :
    Except RenderError α → σ → Prop
  | .ok a, t => ok a t
  | .error e, t => fail e t

/-- A return from `s` satisfies `ok`, and a failure satisfies `fail`. -/
def Ensures (op : Op σ α) (s : σ) (ok : α → σ → Prop) (fail : RenderError → σ → Prop) : Prop :=
  ∀ r t, start op s = some (r, t) → Outcome ok fail r t

/-- A run from `s` is not abandoned. -/
def Returns (op : Op σ α) (s : σ) : Prop := (start op s).isSome

variable {ok : α → σ → Prop} {fail : RenderError → σ → Prop} {s : σ}

@[simp] theorem outcome_ok (a : α) (t : σ) : Outcome ok fail (.ok a) t ↔ ok a t := Iff.rfl

@[simp] theorem outcome_error (e : RenderError) (t : σ) :
    Outcome ok fail (.error e) t ↔ fail e t := Iff.rfl

/-- What an operation ensures of a return holds of one that happened. -/
theorem Ensures.of_ok {op : Op σ α} (h : op.Ensures s ok fail) {a : α} {t : σ}
    (hRun : start op s = some (.ok a, t)) : ok a t := by
  have hOutcome := h (.ok a) t hRun
  exact hOutcome

/-- What it ensures of a failure holds of one that happened. -/
theorem Ensures.of_error {op : Op σ α} (h : op.Ensures s ok fail) {e : RenderError} {t : σ}
    (hRun : start op s = some (.error e, t)) : fail e t := by
  have hOutcome := h (.error e) t hRun
  exact hOutcome

/-- What an operation ensures may be weakened. -/
theorem Ensures.mono {op : Op σ α} {ok' : α → σ → Prop} {fail' : RenderError → σ → Prop}
    (h : op.Ensures s ok fail) (hOk : ∀ a t, ok a t → ok' a t)
    (hFail : ∀ e t, fail e t → fail' e t) : op.Ensures s ok' fail' := by
  intro r t hRun
  cases r with
  | ok a => exact hOk a t (h _ _ hRun)
  | error e => exact hFail e t (h _ _ hRun)

/-- An operation ensures both of what it ensures. -/
theorem Ensures.and {op : Op σ α} {ok' : α → σ → Prop} {fail' : RenderError → σ → Prop}
    (h : op.Ensures s ok fail) (h' : op.Ensures s ok' fail') :
    op.Ensures s (fun a t => ok a t ∧ ok' a t) (fun e t => fail e t ∧ fail' e t) := by
  intro r t hRun
  cases r with
  | ok a => exact ⟨h _ _ hRun, h' _ _ hRun⟩
  | error e => exact ⟨h _ _ hRun, h' _ _ hRun⟩

/-- What an operation ensures can be read off its run. -/
theorem Ensures.run {op : Op σ α} (h : op.Ensures s ok fail) :
    op.Ensures s (fun a t => ok a t ∧ start op s = some (.ok a, t))
      (fun e t => fail e t ∧ start op s = some (.error e, t)) := by
  intro r t hRun
  cases r with
  | ok a => exact ⟨h _ _ hRun, hRun⟩
  | error e => exact ⟨h _ _ hRun, hRun⟩

/-- Whatever becomes of an operation, there is nothing to show of `True`. -/
theorem ensures_true (op : Op σ α) (s : σ) :
    op.Ensures s (fun _ _ => True) (fun _ _ => True) := by
  intro r t _
  cases r <;> trivial

-- ---------------------------------------------------------------------------
-- Values and sequences
-- ---------------------------------------------------------------------------

/-- What an operation with a known outcome ensures. -/
theorem ensures_of_start {op : Op σ α} {r : Except RenderError α} {t : σ}
    (h : start op s = some (r, t)) :
    op.Ensures s ok fail ↔ Outcome ok fail r t := by
  constructor
  · intro hOp
    exact hOp r t h
  · intro hr r' t' hRun
    rw [h] at hRun
    cases hRun
    exact hr

@[simp] theorem ensures_pure (a : α) (s : σ) : (pure a : Op σ α).Ensures s ok fail ↔ ok a s :=
  ensures_of_start (start_pure a s)

@[simp] theorem ensures_throw (e : RenderError) (s : σ) :
    (throw e : Op σ α).Ensures s ok fail ↔ fail e s :=
  ensures_of_start (start_throw e s)

@[simp] theorem ensures_abandon (s : σ) : (abandon : Op σ α).Ensures s ok fail := by
  intro r t hRun
  cases hRun

/-- The second part has to ensure what is wanted, from wherever the first part returns. -/
@[simp] theorem ensures_bind {ok : β → σ → Prop} (op : Op σ α) (f : α → Op σ β) (s : σ) :
    (op >>= f).Ensures s ok fail ↔ op.Ensures s (fun a t => (f a).Ensures t ok fail) fail := by
  constructor
  · intro h r t hRun
    cases r with
    | ok a =>
      intro r' u hRun'
      exact h r' u (by rw [start_bind_of_ok hRun, hRun'])
    -- a failure of the first part is one of the whole
    | error e => exact h (.error e) t (start_bind_of_error hRun f)
  · intro h r u hRun
    -- the run of the whole is followed through the first part
    rw [start_bind] at hRun
    rcases hOp : start op s with _ | ⟨e | a, t⟩
    · rw [hOp] at hRun
      cases hRun
    · rw [hOp] at hRun
      cases hRun
      exact h _ _ hOp
    · rw [hOp] at hRun
      exact h _ _ hOp r u hRun

/-- Whatever becomes of the first part, if all that follows ensures what is wanted. -/
theorem ensures_bind_of_forall {ok : β → σ → Prop} {op : Op σ α} {f : α → Op σ β}
    (h : ∀ a t, (f a).Ensures t ok (fun _ _ => True)) :
    (op >>= f).Ensures s ok (fun _ _ => True) := by
  rw [ensures_bind]
  exact (ensures_true op s).mono (fun a t _ => h a t) fun _ _ h => h

/-- A value that is mapped is returned from the same world. -/
@[simp] theorem ensures_map {ok : β → σ → Prop} (f : α → β) (op : Op σ α) (s : σ) :
    (f <$> op).Ensures s ok fail ↔ op.Ensures s (fun a t => ok (f a) t) fail := by
  rw [← bind_pure_comp, ensures_bind]
  simp only [ensures_pure]

/-- Each branch has to ensure what is wanted, and may use what it was chosen for. -/
theorem ensures_ite {p : Prop} [Decidable p] {op op' : Op σ α}
    (hThen : p → op.Ensures s ok fail) (hElse : ¬ p → op'.Ensures s ok fail) :
    (if p then op else op').Ensures s ok fail := by
  split
  · exact hThen ‹p›
  · exact hElse ‹¬ p›

-- ---------------------------------------------------------------------------
-- The world
-- ---------------------------------------------------------------------------

@[simp] theorem ensures_get {ok : σ → σ → Prop} (s : σ) :
    (get : Op σ σ).Ensures s ok fail ↔ ok s s :=
  ensures_of_start (start_get s)

@[simp] theorem ensures_change {ok : Unit → σ → Prop} (f : σ → σ) (s : σ) :
    (change f).Ensures s ok fail ↔ ok () (f s) :=
  ensures_of_start (start_change f s)

@[simp] theorem ensures_act (f : σ → α × σ) (s : σ) :
    (act f).Ensures s ok fail ↔ ok (f s).1 (f s).2 :=
  ensures_of_start (start_act f s)

@[simp] theorem ensures_log {ok : Unit → σ → Prop} [Logging σ] (e : LogEntry) (s : σ) :
    (log e).Ensures s ok fail ↔ ok () (Logging.push e s) :=
  ensures_of_start (start_log e s)

/-- Nothing is to be shown where there is no value, since the run is abandoned then. -/
@[simp] theorem ensures_ofOption (a : Option α) (s : σ) :
    (ofOption a).Ensures s ok fail ↔ ∀ b, a = some b → ok b s := by
  cases a with
  | none => simp [ofOption]
  | some a => simp [ofOption]

@[simp] theorem ensures_ofExcept (r : Except RenderError α) (s : σ) :
    (ofExcept r).Ensures s ok fail ↔ Outcome ok fail r s :=
  ensures_of_start (start_ofExcept r s)

/-- A failure that is logged first leaves the entry in the log. -/
@[simp] theorem ensures_failWith [Logging σ] (entry : LogEntry) (e : RenderError) (s : σ) :
    (failWith entry e : Op σ α).Ensures s ok fail ↔ fail e (Logging.push entry s) := by
  rw [failWith, ensures_bind, ensures_log, ensures_throw]

/-- Logging does not fail, and keeps what every entry keeps. -/
theorem ensures_logAll [Logging σ] {P : σ → Prop} (hPush : ∀ e t, P t → P (Logging.push e t))
    (es : List LogEntry) {s : σ} (hStart : P s) :
    (logAll es : Op σ Unit).Ensures s (fun _ t => P t) fail := by
  induction es generalizing s with
  | nil =>
    rw [logAll, ensures_pure]
    exact hStart
  | cons e rest ih =>
    rw [logAll, ensures_bind, ensures_log]
    exact ih (hPush e s hStart)

-- ---------------------------------------------------------------------------
-- Failures
-- ---------------------------------------------------------------------------

/-- After an attempt, both outcomes go on as values. -/
@[simp] theorem ensures_attempt {ok : Except RenderError α → σ → Prop} (op : Op σ α) (s : σ) :
    op.attempt.Ensures s ok fail ↔
      op.Ensures s (fun a t => ok (.ok a) t) (fun e t => ok (.error e) t) := by
  constructor
  · intro h r t hRun
    have hr := h (.ok r) t (by rw [start_attempt, hRun]; rfl)
    cases r <;> exact hr
  · intro h r t hRun
    rw [start_attempt] at hRun
    obtain ⟨⟨r', t'⟩, hOp, hEq⟩ := Option.map_eq_some_iff.mp hRun
    cases hEq
    have hr := h _ _ hOp
    cases r' <;> exact hr

/-- An attempt does not fail. -/
theorem Ensures.attempt {op : Op σ α} {P : σ → Prop}
    (h : op.Ensures s (fun _ t => P t) (fun _ t => P t)) :
    op.attempt.Ensures s (fun _ t => P t) (fun _ _ => False) :=
  (ensures_attempt op s).mpr h

/-- Only a failure is followed by the change that takes something back. -/
@[simp] theorem ensures_undoing (undo : σ → σ) (op : Op σ α) (s : σ) :
    (undoing undo op).Ensures s ok fail ↔ op.Ensures s ok (fun e t => fail e (undo t)) := by
  constructor
  · intro h r t hRun
    cases r with
    | ok a => exact h (.ok a) t (by rw [start_undoing, hRun]; rfl)
    | error e => exact h (.error e) (undo t) (by rw [start_undoing, hRun]; rfl)
  · intro h r t hRun
    rw [start_undoing] at hRun
    obtain ⟨⟨r', t'⟩, hOp, hEq⟩ := Option.map_eq_some_iff.mp hRun
    cases r' <;> cases hEq <;> exact h _ _ hOp

/-- What is new is part of the world while the operation runs. -/
@[simp] theorem ensures_extending {ok : ρ → σ → Prop} (a : ρ) (undo : ρ × σ → σ)
    (op : Op (ρ × σ) Unit) (s : σ) :
    (extending a undo op).Ensures s ok fail ↔
      op.Ensures (a, s) (fun _ t => ok t.1 t.2) (fun e t => fail e (undo t)) := by
  constructor
  · intro h r t hRun
    cases r with
    | ok u => exact h (.ok t.1) t.2 (by rw [start_extending, hRun]; rfl)
    | error e => exact h (.error e) (undo t) (by rw [start_extending, hRun]; rfl)
  · intro h r t hRun
    rw [start_extending] at hRun
    obtain ⟨⟨r', t'⟩, hOp, hEq⟩ := Option.map_eq_some_iff.mp hRun
    cases r' <;> cases hEq <;> exact h _ _ hOp

-- ---------------------------------------------------------------------------
-- Parts of a world
-- ---------------------------------------------------------------------------

/-- A part of the world is all that such an operation sees. -/
@[simp] theorem ensures_on (part : σ → τ) (withPart : τ → σ → σ) (op : Op τ α) (s : σ) :
    (op.on part withPart).Ensures s ok fail ↔
      op.Ensures (part s) (fun a t => ok a (withPart t s)) (fun e t => fail e (withPart t s)) := by
  constructor
  · intro h r t hRun
    have hr := h r (withPart t s) (by rw [start_on, hRun]; rfl)
    cases r <;> exact hr
  · intro h r t hRun
    rw [start_on] at hRun
    obtain ⟨⟨r', t'⟩, hOp, hEq⟩ := Option.map_eq_some_iff.mp hRun
    cases hEq
    have hr := h _ _ hOp
    cases r <;> exact hr

@[simp] theorem ensures_onSecond {ok : α → ρ × τ → Prop} {fail : RenderError → ρ × τ → Prop}
    (op : Op τ α) (s : ρ × τ) :
    op.onSecond.Ensures s ok fail ↔
      op.Ensures s.2 (fun a t => ok a (s.1, t)) (fun e t => fail e (s.1, t)) := by
  rw [onSecond, ensures_on]

-- ---------------------------------------------------------------------------
-- Runs that are not abandoned
-- ---------------------------------------------------------------------------

/-- A sequence is not abandoned when its parts are not. -/
@[simp] theorem returns_bind (op : Op σ α) (f : α → Op σ β) (s : σ) :
    (op >>= f).Returns s ↔
      op.Returns s ∧ op.Ensures s (fun a t => (f a).Returns t) (fun _ _ => True) := by
  rw [Returns, Returns, start_bind]
  rcases hOp : start op s with _ | ⟨e | a, t⟩
  · simp
  · rw [ensures_of_start hOp]
    simp
  · rw [ensures_of_start hOp]
    simp [Returns]

/-- An attempt is abandoned only with what it attempts. -/
@[simp] theorem returns_attempt (op : Op σ α) (s : σ) : op.attempt.Returns s ↔ op.Returns s := by
  rw [Returns, Returns, start_attempt, Option.isSome_map]

@[simp] theorem returns_undoing (undo : σ → σ) (op : Op σ α) (s : σ) :
    (undoing undo op).Returns s ↔ op.Returns s := by
  rw [Returns, Returns, start_undoing, Option.isSome_map]

@[simp] theorem returns_on (part : σ → τ) (withPart : τ → σ → σ) (op : Op τ α) (s : σ) :
    (op.on part withPart).Returns s ↔ op.Returns (part s) := by
  rw [Returns, Returns, start_on, Option.isSome_map]

@[simp] theorem returns_onSecond (op : Op τ α) (s : ρ × τ) :
    op.onSecond.Returns s ↔ op.Returns s.2 := by
  rw [onSecond, returns_on]

@[simp] theorem returns_pure (a : α) (s : σ) : (pure a : Op σ α).Returns s := rfl

@[simp] theorem returns_throw (e : RenderError) (s : σ) : (throw e : Op σ α).Returns s := rfl

@[simp] theorem returns_get (s : σ) : (get : Op σ σ).Returns s := rfl

@[simp] theorem returns_change (f : σ → σ) (s : σ) : (change f).Returns s := rfl

@[simp] theorem returns_log [Logging σ] (e : LogEntry) (s : σ) : (log e).Returns s := rfl

@[simp] theorem returns_ofOption (a : Option α) (s : σ) : (ofOption a).Returns s ↔ a.isSome := by
  cases a <;> simp [ofOption, Returns]

-- ---------------------------------------------------------------------------
-- Runs that can be computed
-- ---------------------------------------------------------------------------

/-- The world that an operation leaves behind; the one it started in, if it was abandoned. -/
def after (op : Op σ α) (s : σ) : σ := ((start op s).map (·.2)).getD s

/-- Whether an operation returns. -/
def succeeds (op : Op σ α) (s : σ) : Bool := (start op s).any (·.1.toBool)

/-- Whether an operation fails. -/
def fails (op : Op σ α) (s : σ) : Bool := (start op s).any (!·.1.toBool)

/-- An operation that returns does so with some value. -/
theorem start_of_succeeds {op : Op σ α} (h : op.succeeds s = true) :
    ∃ a, start op s = some (.ok a, op.after s) := by
  rw [succeeds] at h
  rw [after]
  rcases hRun : start op s with _ | ⟨e | a, t⟩ <;> rw [hRun] at h
  · cases h
  · cases h
  · exact ⟨a, rfl⟩

/-- An operation that fails does so for some cause. -/
theorem start_of_fails {op : Op σ α} (h : op.fails s = true) :
    ∃ e, start op s = some (.error e, op.after s) := by
  rw [fails] at h
  rw [after]
  rcases hRun : start op s with _ | ⟨e | a, t⟩ <;> rw [hRun] at h
  · cases h
  · exact ⟨e, rfl⟩
  · cases h

end RenderLoop.Op
