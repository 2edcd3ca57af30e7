import RenderLoop.Proofs.Op.Ensures

/-!
# RenderLoop — operations that are written down

Whether an operation of a caller is run at all, and what comes of it, cannot be
seen in its result alone. An operation is **noted** by keeping a list beside its
world: a run adds what the operation was for and what came of it, whether it
returned or failed (`start_noted`). Nothing else changes, so a registry cannot tell
a noted operation from a plain one.
-/

namespace RenderLoop.Op

variable {τ α β : Type}

/-- Runs of noted operations, newest first: what each was for and what came of it. -/
abbrev Notes (β α : Type) := List (β × Except RenderError α)

/-- An operation that is written down together with what it is for. -/
def noted (purpose : β) (op : Op τ α) : Op (Notes β α × τ) α := do
  let r ← op.onSecond.attempt
  change fun s => ((purpose, r) :: s.1, s.2)
  ofExcept r

/-- A noted operation does what it does, and leaves a note of it. -/
theorem start_noted (purpose : β) (op : Op τ α) (notes : Notes β α) (t : τ) :
    start (op.noted purpose) (notes, t) =
      (start op t).map fun (r, t') => (r, (purpose, r) :: notes, t') := by
  rw [noted, start_bind, start_attempt, start_onSecond]
  rcases start op t with _ | ⟨r, t'⟩
  · rfl
  · -- the note is added from the world that the operation left
    show start (change _ >>= fun _ => ofExcept r) (notes, t') = _
    rw [start_bind_of_ok (start_change _ _), start_ofExcept]
    rfl

/-- What a noted operation ensures is about the notes with its own on top. -/
@[simp] theorem ensures_noted {ok : α → Notes β α × τ → Prop}
    {fail : RenderError → Notes β α × τ → Prop} (purpose : β) (op : Op τ α) (s : Notes β α × τ) :
    (op.noted purpose).Ensures s ok fail ↔
      op.Ensures s.2 (fun a t => ok a ((purpose, .ok a) :: s.1, t))
        (fun e t => fail e ((purpose, .error e) :: s.1, t)) := by
  simp only [noted, ensures_bind, ensures_attempt, ensures_onSecond, ensures_change,
    ensures_ofExcept, outcome_ok, outcome_error]

end RenderLoop.Op
