import RenderLoop.Proofs.Op.Total

/-!
# RenderLoop — operations that stay within a relation

Most operations touch only a part of their world. What they leave alone is said by
a **relation** between the world an operation starts in and the world it leaves
behind, whether it returns or fails. A relation that is **steady** (`Steady`) holds
of a whole operation when it holds of the steps; logging is never a step that
matters.

There is one lemma for each way of making operations. Together they take an
operation apart down to the calls it makes. A condition that is kept is one such
relation (`Preserving`).
-/

namespace RenderLoop.Op

variable {σ τ ρ α β : Type}

/-- A relation that whole operations are in if their steps are. -/
class Steady [Logging σ] (R : σ → σ → Prop) : Prop where
  refl : ∀ s, R s s
  trans : ∀ {s t u}, R s t → R t u → R s u
  push : ∀ e s, R s (Logging.push e s)

/-- Wherever an operation starts, the world it leaves behind is in a relation to that. -/
def Within (R : σ → σ → Prop) (op : Op σ α) : Prop :=
  ∀ s, op.Ensures s (fun _ t => R s t) (fun _ t => R s t)

/-- A relation may be weakened. -/
theorem Within.mono {R R' : σ → σ → Prop} {op : Op σ α} (h : op.Within R)
    (hR : ∀ s t, R s t → R' s t) : op.Within R' := by
  intro s
  exact (h s).mono (fun _ t => hR s t) (fun _ t => hR s t)

section Steady

variable [Logging σ] {R : σ → σ → Prop} [hSteady : Steady R]

theorem within_pure (a : α) : (pure a : Op σ α).Within R := by
  intro s
  rw [ensures_pure]
  exact hSteady.refl s

theorem within_throw (e : RenderError) : (throw e : Op σ α).Within R := by
  intro s
  rw [ensures_throw]
  exact hSteady.refl s

theorem within_get : (get : Op σ σ).Within R := by
  intro s
  rw [ensures_get]
  exact hSteady.refl s

/-- A value that may be missing changes nothing; without it there is no world to speak of. -/
theorem within_ofOption (a : Option α) : (ofOption a : Op σ α).Within R := by
  intro s
  rw [ensures_ofOption]
  exact fun _ _ => hSteady.refl s

theorem within_ofExcept (r : Except RenderError α) : (ofExcept r : Op σ α).Within R := by
  intro s
  rw [ensures_ofExcept]
  cases r <;> exact hSteady.refl s

theorem within_log (e : LogEntry) : (log e : Op σ Unit).Within R := by
  intro s
  rw [ensures_log]
  exact hSteady.push e s

/-- What begins by keeping to a relation keeps to it, if the rest does from there on. -/
theorem Ensures.bind_steady {op : Op σ α} {f : α → Op σ β} {s : σ} {ok : α → σ → Prop}
    (hOp : op.Ensures s ok fun _ t => R s t)
    (hRest : ∀ a t, ok a t → R s t ∧ (f a).Ensures t (fun _ u => R t u) fun _ u => R t u) :
    (op >>= f).Ensures s (fun _ u => R s u) fun _ u => R s u := by
  rw [ensures_bind]
  -- a failure of the first part ends the whole, and is in the relation as it is
  refine hOp.mono (fun a t hOk => ?_) fun _ _ h => h
  obtain ⟨hR, hEnsures⟩ := hRest a t hOk
  exact hEnsures.mono (fun _ _ h => hSteady.trans hR h) fun _ _ h => hSteady.trans hR h

/-- Steps in the relation make up a whole in it. -/
theorem Within.bind {op : Op σ α} {f : α → Op σ β} (hOp : op.Within R)
    (hf : ∀ a, (f a).Within R) : (op >>= f).Within R := by
  intro s
  refine (hOp s).bind_steady fun a t hFirst => ?_
  exact ⟨hFirst, hf a t⟩

theorem within_failWith (entry : LogEntry) (e : RenderError) :
    (failWith entry e : Op σ α).Within R := by
  rw [failWith]
  refine (within_log entry).bind fun _ => ?_
  exact within_throw e

theorem within_logAll (entries : List LogEntry) : (logAll entries : Op σ Unit).Within R := by
  induction entries with
  | nil => exact within_pure ()
  | cons e rest ih => exact (within_log e).bind fun _ => ih

end Steady

section Any

variable {R : σ → σ → Prop}

/-- A change is in a relation that it is in from every world. -/
theorem within_change {f : σ → σ} (h : ∀ s, R s (f s)) : (change f).Within R := by
  intro s
  rw [ensures_change]
  exact h s

/-- What follows a choice has to be said only of what can be chosen. -/
theorem within_ofOption_bind {a : Option α} {f : α → Op σ β}
    (h : ∀ b, a = some b → (f b).Within R) : (ofOption a >>= f).Within R := by
  intro s
  rw [ensures_bind, ensures_ofOption]
  exact fun b hb => h b hb s

theorem Within.map {op : Op σ α} (hOp : op.Within R) (f : α → β) : (f <$> op).Within R := by
  intro s
  rw [ensures_map]
  exact hOp s

/-- An attempt leaves the same world behind as what it attempts. -/
theorem Within.attempt {op : Op σ α} (hOp : op.Within R) : op.attempt.Within R := by
  intro s
  rw [ensures_attempt]
  exact hOp s

/-- Taking back has to stay within the relation, too. -/
theorem Within.undoing [Logging σ] [hSteady : Steady R] {op : Op σ α} (hOp : op.Within R)
    {undo : σ → σ} (hUndo : ∀ s, R s (undo s)) : (op.undoing undo).Within R := by
  intro s
  rw [ensures_undoing]
  exact (hOp s).mono (fun _ _ h => h) (fun _ t h => hSteady.trans h (hUndo t))

/-- An operation on a part, when what is known of the part is enough. -/
theorem Within.on {R' : τ → τ → Prop} {op : Op τ α} (hOp : op.Within R') {part : σ → τ}
    {withPart : τ → σ → σ} (h : ∀ s t, R' (part s) t → R s (withPart t s)) :
    (op.on part withPart).Within R := by
  intro s
  rw [ensures_on]
  exact (hOp (part s)).mono (fun _ t => h s t) (fun _ t => h s t)

/-- What follows an operation has to come to an end only from where that can lead. -/
theorem Returns.bind_within {op : Op σ α} {f : α → Op σ β} {s : σ} (hOp : op.Returns s)
    (hWithin : op.Within R) (hf : ∀ a t, R s t → (f a).Returns t) : (op >>= f).Returns s := by
  rw [returns_bind]
  refine ⟨hOp, ?_⟩
  exact (hWithin s).mono hf fun _ _ _ => trivial

/-- An operation that always comes to an end leaves only the rest to be shown. -/
theorem Total.returns_bind_within {op : Op σ α} {f : α → Op σ β} {s : σ} (hOp : op.Total)
    (hWithin : op.Within R) (hf : ∀ a t, R s t → (f a).Returns t) : (op >>= f).Returns s :=
  (hOp s).bind_within hWithin hf

/-- Both branches have to be in the relation. -/
theorem within_ite {p : Prop} [Decidable p] {op op' : Op σ α} (hThen : op.Within R)
    (hElse : op'.Within R) : (if p then op else op').Within R := by
  split
  · exact hThen
  · exact hElse

end Any

-- ---------------------------------------------------------------------------
-- Conditions that are kept
-- ---------------------------------------------------------------------------

/-- A condition is kept. -/
def Preserving (P : σ → Prop) (s t : σ) : Prop := P s → P t

/-- Conditions that logging does not touch. -/
class Unlogged [Logging σ] (P : σ → Prop) : Prop where
  push : ∀ {e s}, P s → P (Logging.push e s)

instance [Logging σ] {P : σ → Prop} [hP : Unlogged P] : Steady (Preserving P) where
  refl _ h := h
  trans h h' hs := h' (h hs)
  push _ _ h := hP.push h

section Preserving

variable {P : σ → Prop}

/-- From where the condition holds, it goes on to hold. -/
theorem Within.preserves {op : Op σ α} (h : op.Within (Preserving P)) {s : σ} (hs : P s) :
    op.Ensures s (fun _ t => P t) (fun _ t => P t) := by
  refine (h s).mono (fun _ _ hKept => ?_) fun _ _ hKept => ?_
  · exact hKept hs
  · exact hKept hs

/-- Only worlds in which the condition holds have to be looked at. -/
theorem within_preserving {op : Op σ α}
    (h : ∀ s, P s → op.Ensures s (fun _ t => P t) (fun _ t => P t)) : op.Within (Preserving P) := by
  intro s r t hRun
  cases r with
  | ok a => exact fun hs => (h s hs).of_ok hRun
  | error e => exact fun hs => (h s hs).of_error hRun

/-- What is done with the world it starts from. -/
theorem within_get_bind {f : σ → Op σ α}
    (h : ∀ s, P s → (f s).Ensures s (fun _ t => P t) (fun _ t => P t)) :
    ((get : Op σ σ) >>= f).Within (Preserving P) := by
  refine within_preserving fun s hs => ?_
  rw [ensures_bind, ensures_get]
  exact h s hs

/-- What follows does not depend on that world any more. -/
theorem within_get_bind_bind [Logging σ] [Unlogged P] {f : σ → Op σ α} {g : α → Op σ β}
    (hf : ∀ s, P s → (f s).Ensures s (fun _ t => P t) (fun _ t => P t))
    (hg : ∀ a, (g a).Within (Preserving P)) :
    ((get : Op σ σ) >>= fun s => f s >>= g).Within (Preserving P) := by
  rw [← bind_assoc]
  exact (within_get_bind hf).bind hg

end Preserving

end RenderLoop.Op
