import RenderLoop.Proofs.Op.Ensures

/-!
# RenderLoop — operations that come to an end

Most operations come to an end from any world: they are **total** (`Total`). A
sequence of total operations is total, and so is whatever is made of one by
attempting, undoing, or running it on a part of a world.
-/

namespace RenderLoop.Op

variable {σ τ α β : Type}

/-- A run is abandoned from no world. -/
def Total (op : Op σ α) : Prop := ∀ s, op.Returns s

/-- A sequence of total operations is total. -/
theorem Total.bind {op : Op σ α} {f : α → Op σ β} (hOp : op.Total) (hf : ∀ a, (f a).Total) :
    (op >>= f).Total := by
  intro s
  rw [returns_bind]
  exact ⟨hOp s, (ensures_true op s).mono (fun a t _ => hf a t) (fun _ _ h => h)⟩

/-- A total operation may be followed by one that is total only where it is used. -/
theorem Total.returns_bind {op : Op σ α} {f : α → Op σ β} {s : σ} (hOp : op.Total)
    (hf : op.Ensures s (fun a t => (f a).Returns t) (fun _ _ => True)) : (op >>= f).Returns s := by
  rw [Op.returns_bind]
  exact ⟨hOp s, hf⟩

theorem total_pure (a : α) : (pure a : Op σ α).Total := returns_pure a

theorem total_throw (e : RenderError) : (throw e : Op σ α).Total := returns_throw e

theorem total_get : (get : Op σ σ).Total := returns_get

theorem total_change (f : σ → σ) : (change f).Total := returns_change f

theorem total_log [Logging σ] (e : LogEntry) : (log e : Op σ Unit).Total := returns_log e

/-- An outcome that is known is one. -/
theorem total_ofExcept (r : Except RenderError α) : (ofExcept r : Op σ α).Total := by
  intro s
  rw [Returns, start_ofExcept]
  rfl

theorem total_failWith [Logging σ] (entry : LogEntry) (e : RenderError) :
    (failWith entry e : Op σ α).Total := by
  rw [failWith]
  refine (total_log entry).bind fun _ => ?_
  exact total_throw e

/-- An attempt comes to an end when what it attempts does. -/
theorem Total.attempt {op : Op σ α} (hOp : op.Total) : op.attempt.Total := by
  intro s
  rw [returns_attempt]
  exact hOp s

/-- Taking something back never abandons a run. -/
theorem Total.undoing {op : Op σ α} (hOp : op.Total) (undo : σ → σ) : (op.undoing undo).Total := by
  intro s
  rw [returns_undoing]
  exact hOp s

/-- On a part of a world an operation comes to an end as it does by itself. -/
theorem Total.on {op : Op τ α} (hOp : op.Total) (part : σ → τ) (withPart : τ → σ → σ) :
    (op.on part withPart).Total := by
  intro s
  rw [returns_on]
  exact hOp (part s)

theorem Total.onSecond {ρ : Type} {op : Op τ α} (hOp : op.Total) :
    (op.onSecond : Op (ρ × τ) α).Total :=
  hOp.on _ _

theorem total_ite {p : Prop} [Decidable p] {op op' : Op σ α} (hThen : op.Total)
    (hElse : op'.Total) : (if p then op else op').Total := by
  split
  · exact hThen
  · exact hElse

theorem total_logAll [Logging σ] (entries : List LogEntry) : (logAll entries : Op σ Unit).Total := by
  induction entries with
  | nil => exact total_pure ()
  | cons e rest ih => exact (total_log e).bind fun _ => ih

theorem total_act (f : σ → α × σ) : (act f).Total := fun _ => rfl

end RenderLoop.Op
