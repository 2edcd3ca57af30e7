import RenderLoop.Files

/-!
# RenderLoop — files that were written

A file that was written is read back as it is, at the path it was written to
(`Files.read_of_write`). A write replaces one entry of the tree, and that was no directory:
so every directory on the way is still there, and paths that led somewhere lead there still
(`Files.walk_put`).
-/

namespace RenderLoop.Files

variable {t t' : Files} {path : String} {place place' other : List String} {node : FileNode}
  {bytes : List UInt8}

/-- What follows a result gets it. -/
theorem ok_bind {ε α β : Type} (a : α) (f : α → Except ε β) : (Except.ok a >>= f) = f a := rfl

/-- What is no directory is not the top and not the working directory. -/
theorem ne_top_of_not_directory (hPlace : t.nodeAt place ≠ some .directory) :
    place ≠ top ∧ place ≠ workingDirectory := by
  constructor <;> rintro rfl <;> exact hPlace rfl

/-- Directories stay when something else is replaced. -/
theorem nodeAt_put_of_directory (hPlace : t.nodeAt place ≠ some .directory)
    (hOther : t.nodeAt other = some .directory) :
    (t.put place node).nodeAt other = some .directory := by
  obtain ⟨hTop, hWorking⟩ := ne_top_of_not_directory hPlace
  have hNe : other ≠ place := by
    rintro rfl
    exact hPlace hOther
  rw [nodeAt_put t node other hTop hWorking, if_neg hNe, hOther]

/-- A way through directories is the same after something else is replaced. -/
theorem walk_put (hPlace : t.nodeAt place ≠ some .directory) {origin : List String}
    {components : List String} (hWalk : t.walk origin components = .ok place') :
    (t.put place node).walk origin components = .ok place' := by
  induction components generalizing origin with
  | nil => exact hWalk
  | cons c rest ih =>
    rw [walk] at hWalk ⊢
    split at hWalk
    · -- the entry is no directory, so a directory on the way is the one it was
      rename_i hDirectory
      rw [nodeAt_put_of_directory hPlace hDirectory]
      dsimp only
      by_cases hStay : c = "" ∨ c = "."
      · rw [if_pos hStay] at hWalk ⊢
        exact ih hWalk
      · rw [if_neg hStay] at hWalk ⊢
        by_cases hUp : c = ".."
        · rw [if_pos hUp] at hWalk ⊢
          exact ih hWalk
        · rw [if_neg hUp] at hWalk ⊢
          split at hWalk
          · cases hWalk
          · rename_i hLength
            rw [if_neg hLength]
            exact ih hWalk
    · cases hWalk
    · cases hWalk

theorem locate_put (hPlace : t.nodeAt place ≠ some .directory)
    (hLocate : t.locate path = .ok place') : (t.put place node).locate path = .ok place' := by
  rw [locate, follow] at hLocate ⊢
  cases hFault : Path.fault? path with
  | some e =>
    rw [hFault] at hLocate
    cases hLocate
  | none =>
    rw [hFault] at hLocate
    exact walk_put hPlace hLocate

/-- A write replaces what is at the place that the path leads to, unless that is a directory. -/
theorem of_write (hWrite : t.write path bytes = .ok t') :
    ∃ place, t.locate path = .ok place ∧ t.nodeAt place ≠ some .directory ∧
      t' = t.put place (.file bytes) := by
  rw [write] at hWrite
  cases hDirectory : t.follow path (Path.directory path ++ ["."]) with
  | error e =>
    rw [hDirectory] at hWrite
    cases hWrite
  | ok _ =>
    rw [hDirectory, ok_bind] at hWrite
    split at hWrite
    · cases hWrite
    · cases hLocate : t.locate path with
      | error e =>
        rw [hLocate] at hWrite
        cases hWrite
      | ok place =>
        rw [hLocate, ok_bind] at hWrite
        split at hWrite
        · cases hWrite
        · -- of all the exits only the last one writes
          rename_i hPlace
          cases hWrite
          exact ⟨place, rfl, hPlace, rfl⟩

/-- A file that was written is read back. -/
theorem read_of_write (hWrite : t.write path bytes = .ok t') : t'.read path = .ok bytes := by
  obtain ⟨place, hLocate, hPlace, rfl⟩ := of_write hWrite
  obtain ⟨hTop, hWorking⟩ := ne_top_of_not_directory hPlace
  rw [read, locate_put hPlace hLocate, ok_bind, nodeAt_put t _ place hTop hWorking,
    if_pos rfl]

end RenderLoop.Files
