import RenderLoop.Proofs.Shader.Loading

/-!
# RenderLoop — compilations and generations

A compilation that returns has either begun the next generation of the program, or
found nothing changed; then nothing but the notes on what was loaded is different
(`ensures_compile_generation`). Its report says which.
-/

namespace RenderLoop.Program

/-- Two programs are the same but for the notes on what was loaded. -/
def SameButHashes (p p' : Program) : Prop := p' = { p with hashes := p'.hashes }

variable {p p' p'' : Program}

theorem SameButHashes.refl (p : Program) : SameButHashes p p := rfl

theorem SameButHashes.trans (hFirst : SameButHashes p p') (hSecond : SameButHashes p' p'') :
    SameButHashes p p'' := by
  rw [SameButHashes] at hFirst hSecond ⊢
  rw [hFirst] at hSecond
  exact hSecond

theorem SameButHashes.symm (h : SameButHashes p p') : SameButHashes p' p := by
  rw [SameButHashes] at h ⊢
  rw [h]

theorem SameButHashes.generation (h : SameButHashes p p') : p'.generation = p.generation := by
  rw [h]

/-- A number that can be counted is the next one. -/
theorem next_of_add64 {n next : UInt64} (h : Checked.add64 n 1 = some next) : next = n + 1 := by
  have hSum : next.toNat = n.toNat + 1 := Checked.add64_eq_some_iff.mp h
  rw [← UInt64.toNat_inj, UInt64.toNat_add, UInt64.toNat_one, ← hSum]
  exact (Nat.mod_eq_of_lt next.toNat_lt).symm

variable {σ : Type} [Logging σ] {tools : ShaderTools σ}

/-- **What a compilation does to the generation.** -/
theorem ensures_compile_generation (p : Program) (w : σ) :
    (compile tools).Ensures (p, w)
      (fun report s => if report.rebuilt then s.1.generation = p.generation + 1
        else SameButHashes p s.1)
      (fun _ s => s.1 = p) := by
  rintro (e | report) ⟨p', w'⟩ hRun
  · exact (ensures_compile p w).of_error hRun
  · obtain ⟨outcomes, wLoaded, -, hCases⟩ := compile_cases hRun
    rcases hCases with ⟨-, rfl, rfl⟩ | ⟨-, hRebuilt, hReflect⟩
    · exact .refl p'
    · obtain ⟨r, layouts, generation, -, hNext, hBuilt⟩ :=
        (ensures_reflect _ _ wLoaded).of_ok hReflect
      have hSame : (p.takeAll outcomes).generation = p.generation := by
        rw [sameButLoaded_takeAll p outcomes]
      dsimp only at hBuilt
      rw [Op.outcome_ok, if_pos hRebuilt, hBuilt, ← hSame]
      exact next_of_add64 hNext

end RenderLoop.Program
