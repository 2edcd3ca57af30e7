import RenderLoop.Op.Lemmas

/-!
# RenderLoop — operations that agree

Two runs, from worlds that may differ, **agree** when they end alike: both are
abandoned, or both end with the same answer or the same failure. A relation between
the worlds is carried along, so that agreement goes from the parts of an operation
to the whole (`Agree.bind`).

This says of an operation what it depends on: it agrees with itself from any two
worlds that are related.
-/

namespace RenderLoop.Op

variable {σ ρ α β : Type} {rel : σ → σ → Prop}

/-- Two runs end alike. -/
inductive Alike (rel : σ → σ → Prop) :
    Option (Except RenderError α × σ) → Option (Except RenderError α × σ) → Prop
  | abandoned : Alike rel none none
  | ended {r : Except RenderError α} {t t' : σ} (hRel : rel t t') :
    Alike rel (some (r, t)) (some (r, t'))

/-- The runs of two operations, each from a world of its own, end alike. -/
def Agree (rel : σ → σ → Prop) (op op' : Op σ α) (s s' : σ) : Prop :=
  Alike rel (start op s) (start op' s')

variable {s s' : σ}

/-- What the first run ended with, the second one ended with. -/
theorem Agree.start_right {op op' : Op σ α} (hAgree : Agree rel op op' s s')
    {r : Except RenderError α} {t : σ} (hRun : start op s = some (r, t)) :
    ∃ t', start op' s' = some (r, t') ∧ rel t t' := by
  rw [Agree, hRun] at hAgree
  cases hRun' : start op' s' with
  | none =>
    rw [hRun'] at hAgree
    cases hAgree
  | some u =>
    rw [hRun'] at hAgree
    cases hAgree with
    | ended hRel => exact ⟨_, rfl, hRel⟩

-- ---------------------------------------------------------------------------
-- Values and sequences
-- ---------------------------------------------------------------------------

/-- The same value is returned from both worlds. -/
theorem agree_pure (a : α) (hRel : rel s s') : Agree rel (pure a) (pure a) s s' := .ended hRel

/-- The same failure is thrown from both worlds. -/
theorem agree_throw (e : RenderError) (hRel : rel s s') :
    Agree rel (throw e : Op σ α) (throw e) s s' := .ended hRel

/-- A value that is missing abandons both runs, one that is there is returned by both. -/
theorem agree_ofOption (a : Option α) (hRel : rel s s') :
    Agree rel (ofOption a) (ofOption a) s s' := by
  cases a with
  | none => exact .abandoned
  | some a => exact agree_pure a hRel

/-- An outcome that is known is the same from any world. -/
theorem agree_ofExcept (r : Except RenderError α) (hRel : rel s s') :
    Agree rel (ofExcept r) (ofExcept r) s s' := by
  cases r with
  | ok a => exact agree_pure a hRel
  | error e => exact agree_throw e hRel

/-- Sequences agree when their parts do, from wherever the first parts end. -/
theorem Agree.bind {op op' : Op σ α} {f f' : α → Op σ β} (hOp : Agree rel op op' s s')
    (hf : ∀ a t t', rel t t' → Agree rel (f a) (f' a) t t') :
    Agree rel (op >>= f) (op' >>= f') s s' := by
  rw [Agree] at hOp
  rcases hRun : start op s with _ | ⟨e | a, t⟩ <;> rcases hRun' : start op' s' with _ | ⟨r', t'⟩ <;>
    rw [hRun, hRun'] at hOp
  · rw [Agree, start_bind_of_none hRun, start_bind_of_none hRun']
    exact .abandoned
  · -- of all ways for the first parts to end, those remain in which they end alike
    cases hOp
  · cases hOp
  · cases hOp with
    | ended hRel =>
      rw [Agree, start_bind_of_error hRun, start_bind_of_error hRun']
      exact .ended hRel
  · cases hOp
  · cases hOp with
    | ended hRel =>
      rw [Agree, start_bind_of_ok hRun, start_bind_of_ok hRun']
      exact hf a t t' hRel

/-- What is done after a look at the world has to agree for the two worlds. -/
theorem agree_get_bind {f f' : σ → Op σ β} (hf : Agree rel (f s) (f' s') s s') :
    Agree rel (get >>= f) (get >>= f') s s' := by
  rw [Agree, start_bind_of_ok (start_get s), start_bind_of_ok (start_get s')]
  exact hf

/-- A change leads from related worlds to related ones. -/
theorem agree_change {f f' : σ → σ} (hRel : rel (f s) (f' s')) :
    Agree rel (change f) (change f') s s' := .ended hRel

theorem agree_log [Logging σ] {e : LogEntry}
    (hRel : rel (Logging.push e s) (Logging.push e s')) : Agree rel (log e) (log e) s s' :=
  agree_change hRel

/-- Entries are logged in both worlds, one after the other. -/
theorem agree_logAll [Logging σ]
    (hPush : ∀ e t t', rel t t' → rel (Logging.push e t) (Logging.push e t')) (es : List LogEntry)
    (hRel : rel s s') : Agree rel (logAll es) (logAll es) s s' := by
  induction es generalizing s s' with
  | nil => exact agree_pure () hRel
  | cons e rest ih => exact (agree_log (hPush e s s' hRel)).bind fun _ t t' hRel' => ih hRel'

theorem agree_failWith [Logging σ] {entry : LogEntry} {e : RenderError}
    (hRel : rel (Logging.push entry s) (Logging.push entry s')) :
    Agree rel (failWith entry e : Op σ α) (failWith entry e) s s' := by
  rw [failWith]
  refine (agree_log hRel).bind fun _ _ _ hRel' => ?_
  exact agree_throw e hRel'

-- ---------------------------------------------------------------------------
-- Failures and parts of a world
-- ---------------------------------------------------------------------------

/-- What the attempts come to is the same. -/
theorem Agree.attempt {op op' : Op σ α} (hOp : Agree rel op op' s s') :
    Agree rel op.attempt op'.attempt s s' := by
  rw [Agree] at hOp
  rw [Agree, start_attempt, start_attempt]
  -- only what the two runs come to matters from here on
  generalize start op s = x at hOp ⊢
  generalize start op' s' = y at hOp ⊢
  cases hOp with
  | abandoned => exact .abandoned
  | ended hRel => exact .ended hRel

/-- What is taken back after a failure has to keep the worlds related. -/
theorem Agree.undoing {op op' : Op σ α} {undo undo' : σ → σ} (hOp : Agree rel op op' s s')
    (hUndo : ∀ t t', rel t t' → rel (undo t) (undo' t')) :
    Agree rel (op.undoing undo) (op'.undoing undo') s s' := by
  rw [Agree] at hOp
  rw [Agree, start_undoing, start_undoing]
  generalize start op s = x at hOp ⊢
  generalize start op' s' = y at hOp ⊢
  cases hOp with
  | abandoned => exact .abandoned
  | @ended r t t' hRel =>
    cases r with
    | ok a => exact .ended hRel
    | error e => exact .ended (hUndo t t' hRel)

/-- Pairs with the same first component and related second ones. -/
def Beside (rel : σ → σ → Prop) (s s' : ρ × σ) : Prop := s.1 = s'.1 ∧ rel s.2 s'.2

/-- Operations on the second component leave the first one the same. -/
theorem Agree.onSecond {op op' : Op σ α} {s s' : ρ × σ} (hOp : Agree rel op op' s.2 s'.2)
    (hSame : s.1 = s'.1) : Agree (Beside rel) op.onSecond op'.onSecond s s' := by
  rw [Agree] at hOp
  rw [Agree, Op.onSecond, Op.onSecond, start_on, start_on]
  generalize start op s.2 = x at hOp ⊢
  generalize start op' s'.2 = y at hOp ⊢
  cases hOp with
  | abandoned => exact .abandoned
  | ended hRel => exact .ended ⟨hSame, hRel⟩

end RenderLoop.Op
