import RenderLoop.Op

/-!
# RenderLoop — how operations run

What running an operation from a world comes to, for each way of making one. With
these equations a run is followed step by step, without a look at how operations
are represented:

* `start_bind` — the second part runs from the world the first one left, unless
  that failed or was abandoned;
* `start_attempt`, `start_undoing`, `start_extending` — what becomes of a failure;
* `start_on` — a part of the world runs by itself and is written back.
-/

namespace RenderLoop.Op

variable {σ τ ρ α β : Type}

-- ---------------------------------------------------------------------------
-- Values, failures and sequences
-- ---------------------------------------------------------------------------

/-- A value is returned from the world as it is. -/
@[simp] theorem start_pure (a : α) (s : σ) : start (pure a : Op σ α) s = some (.ok a, s) := rfl

/-- A failure leaves the world as it is. -/
@[simp] theorem start_throw (e : RenderError) (s : σ) :
    start (throw e : Op σ α) s = some (.error e, s) := rfl

@[simp] theorem start_abandon (s : σ) : start (abandon : Op σ α) s = none := rfl

/-- The second part runs from the world that the first one left. -/
theorem start_bind (op : Op σ α) (f : α → Op σ β) (s : σ) :
    start (op >>= f) s = (start op s).bind fun (r, t) =>
      match r with
      | .ok a => start (f a) t
      | .error e => some (.error e, t) := by
  show (ExceptT.run op s).bind _ = _
  congr 1
  funext ⟨r, t⟩
  cases r <;> rfl

/-- After a first part that returned, the second part decides. -/
theorem start_bind_of_ok {op : Op σ α} {s t : σ} {a : α} (h : start op s = some (.ok a, t))
    (f : α → Op σ β) : start (op >>= f) s = start (f a) t := by
  rw [start_bind, h]
  rfl

/-- After a first part that failed, the second part does not run. -/
theorem start_bind_of_error {op : Op σ α} {s t : σ} {e : RenderError}
    (h : start op s = some (.error e, t)) (f : α → Op σ β) :
    start (op >>= f) s = some (.error e, t) := by
  rw [start_bind, h]
  rfl

/-- An abandoned first part abandons the whole. -/
theorem start_bind_of_none {op : Op σ α} {s : σ} (h : start op s = none) (f : α → Op σ β) :
    start (op >>= f) s = none := by
  rw [start_bind, h]
  rfl

/-- A sequence ends well exactly when both parts do. -/
theorem start_bind_eq_ok_iff {op : Op σ α} {f : α → Op σ β} {s u : σ} {b : β} :
    start (op >>= f) s = some (.ok b, u) ↔
      ∃ a t, start op s = some (.ok a, t) ∧ start (f a) t = some (.ok b, u) := by
  rw [start_bind]
  rcases h : start op s with _ | ⟨e | a, t⟩
  · -- an abandoned or failed first part leaves nothing to go on from
    simp
  · simp
  · constructor
    · intro hb
      exact ⟨a, t, rfl, hb⟩
    · rintro ⟨a', t', heq, hb⟩
      cases heq
      exact hb

-- ---------------------------------------------------------------------------
-- The world
-- ---------------------------------------------------------------------------

@[simp] theorem start_get (s : σ) : start (get : Op σ σ) s = some (.ok s, s) := rfl

@[simp] theorem start_change (f : σ → σ) (s : σ) : start (change f) s = some (.ok (), f s) := rfl

@[simp] theorem start_act (f : σ → α × σ) (s : σ) :
    start (act f) s = some (.ok (f s).1, (f s).2) := rfl

@[simp] theorem start_log [Logging σ] (e : LogEntry) (s : σ) :
    start (log e) s = some (.ok (), Logging.push e s) := rfl

@[simp] theorem start_ofOption_some (a : α) (s : σ) :
    start (ofOption (some a)) s = some (.ok a, s) := rfl

@[simp] theorem start_ofOption_none (s : σ) : start (ofOption none : Op σ α) s = none := rfl

/-- An outcome that is known leaves the world alone. -/
@[simp] theorem start_ofExcept (r : Except RenderError α) (s : σ) :
    start (ofExcept r) s = some (r, s) := by
  cases r <;> rfl

-- ---------------------------------------------------------------------------
-- Failures
-- ---------------------------------------------------------------------------

/-- An attempt cannot fail: it answers what came of it. -/
theorem start_attempt (op : Op σ α) (s : σ) :
    start (attempt op) s = (start op s).map fun (r, t) => (.ok r, t) := rfl

/-- A failure stays one, and is followed by the change that takes something back. -/
theorem start_undoing (undo : σ → σ) (op : Op σ α) (s : σ) :
    start (undoing undo op) s = (start op s).map fun (r, t) =>
      (r, match r with
        | .ok _ => t
        | .error _ => undo t) := by
  rw [undoing, start_bind, start_attempt]
  rcases start op s with _ | ⟨_ | a, t⟩ <;> rfl

/-- What is new comes back after a success, and is taken back after a failure. -/
theorem start_extending (a : ρ) (undo : ρ × σ → σ) (op : Op (ρ × σ) Unit) (s : σ) :
    start (extending a undo op) s = (start op (a, s)).map fun (r, t) =>
      match r with
      | .ok () => (.ok t.1, t.2)
      | .error e => (.error e, undo t) := rfl

-- ---------------------------------------------------------------------------
-- Parts of a world
-- ---------------------------------------------------------------------------

/-- A part of the world runs by itself, and is written back also after a failure. -/
theorem start_on (part : σ → τ) (withPart : τ → σ → σ) (op : Op τ α) (s : σ) :
    start (op.on part withPart) s = (start op (part s)).map fun (r, t) => (r, withPart t s) := rfl

theorem start_onSecond (op : Op τ α) (a : ρ) (t : τ) :
    start op.onSecond (a, t) = (start op t).map fun (r, t) => (r, (a, t)) := rfl

end RenderLoop.Op
