/-!
# RenderLoop — sorting

Lists in the order of a relation. Elements that the relation puts on a level keep the
order they had. Sorting inserts one element after the other, so what it comes to can
be computed wherever a list is given.
-/

namespace RenderLoop

variable {α : Type}

/-- Puts an element before the first one that may come after it. -/
def insertBy (le : α → α → Bool) (a : α) : List α → List α
  | [] => [a]
  | b :: rest => if le a b then a :: b :: rest else b :: insertBy le a rest

/-- The elements of a list in order. -/
def sortBy (le : α → α → Bool) (xs : List α) : List α := xs.foldr (insertBy le) []

/-- Insertion adds its element and nothing else. -/
theorem insertBy_perm (le : α → α → Bool) (a : α) (xs : List α) :
    (insertBy le a xs).Perm (a :: xs) := by
  induction xs with
  | nil => exact .refl _
  | cons b rest ih =>
    rw [insertBy]
    split
    · exact .refl _
    · exact (ih.cons b).trans (.swap a b rest)

/-- Sorting changes nothing but the order. -/
theorem sortBy_perm (le : α → α → Bool) (xs : List α) : (sortBy le xs).Perm xs := by
  induction xs with
  | nil => exact .refl _
  | cons a rest ih => exact (insertBy_perm le a _).trans (ih.cons a)

/-- Sorting by what elements are mapped to is sorting what they are mapped to. -/
theorem map_sortBy {β : Type} (le : β → β → Bool) (f : α → β) (xs : List α) :
    (sortBy (fun a b => le (f a) (f b)) xs).map f = sortBy le (xs.map f) := by
  -- the order looks at the images alone, so inserting commutes with the map
  have hInsert : ∀ a (ys : List α), (insertBy (fun a b => le (f a) (f b)) a ys).map f =
      insertBy le (f a) (ys.map f) := by
    intro a ys
    induction ys with
    | nil => rfl
    | cons b rest ih =>
      simp only [insertBy, List.map_cons]
      split
      · rfl
      · rw [List.map_cons, ih]
  induction xs with
  | nil => rfl
  | cons a rest ih =>
    show (insertBy _ a (sortBy _ rest)).map f = insertBy le (f a) (sortBy le (rest.map f))
    rw [hInsert, ih]

section Order

variable {le : α → α → Bool} {before : α → α → Prop}

/-- An element that came before all others of a sorted list comes before those on its level. -/
theorem pairwise_insertBy (hTrans : ∀ a b c, le a b → le b c → le a c)
    (hTotal : ∀ a b, le a b || le b a) (a : α) {xs : List α} (hBefore : ∀ b ∈ xs, before a b)
    (h : xs.Pairwise fun a b => le a b ∧ (le b a → before a b)) :
    (insertBy le a xs).Pairwise fun a b => le a b ∧ (le b a → before a b) := by
  induction xs with
  | nil => exact List.pairwise_singleton _ _
  | cons b rest ih =>
    obtain ⟨hFirst, hRest⟩ := List.pairwise_cons.mp h
    rw [insertBy]
    split
    · rename_i hLe
      refine List.pairwise_cons.mpr ⟨fun c hc => ⟨?_, fun _ => hBefore c hc⟩, h⟩
      rcases List.mem_cons.mp hc with rfl | hc
      · exact hLe
      · exact hTrans a b c hLe (hFirst c hc).1
    · rename_i hNot
      have hInserted := ih (fun c hc => hBefore c (List.mem_cons_of_mem b hc)) hRest
      refine List.pairwise_cons.mpr ⟨fun c hc => ?_, hInserted⟩
      rcases List.mem_cons.mp ((insertBy_perm le a rest).mem_iff.mp hc) with rfl | hc
      · -- the element in front was passed, so it must not come after the new one
        have hEither := hTotal c b
        simp only [Bool.or_eq_true] at hEither
        exact ⟨hEither.resolve_left hNot, fun hLe => absurd hLe hNot⟩
      · exact hFirst c hc

/-- Sorted lists are in order, and elements on a level stand as they stood before. -/
theorem pairwise_sortBy (hTrans : ∀ a b c, le a b → le b c → le a c)
    (hTotal : ∀ a b, le a b || le b a) {xs : List α} (h : xs.Pairwise before) :
    (sortBy le xs).Pairwise fun a b => le a b ∧ (le b a → before a b) := by
  induction xs with
  | nil => exact .nil
  | cons a rest ih =>
    obtain ⟨hFirst, hRest⟩ := List.pairwise_cons.mp h
    refine pairwise_insertBy hTrans hTotal a (fun b hb => ?_) (ih hRest)
    exact hFirst b ((sortBy_perm le rest).mem_iff.mp hb)

end Order

end RenderLoop
