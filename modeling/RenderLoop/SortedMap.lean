/-!
# RenderLoop — maps in key order

A **sorted map** is a list of entries whose keys ascend strictly, so a key occurs
at most once and two maps with the same entries are equal. Insertion replaces
the value of a key that is present and otherwise puts the new entry where it
belongs.

`get?_insert` says what insertion does to every look-up.
-/

namespace RenderLoop

variable {κ ν : Type} [Ord κ]

/-- The keys of a list of entries ascend strictly. -/
def Ascending (entries : List (κ × ν)) : Prop :=
  entries.Pairwise fun a b => compare a.1 b.1 = .lt

/-- A map whose entries are listed in key order. -/
structure SortedMap (κ ν : Type) [Ord κ] where
  entries : List (κ × ν)
  ascending : Ascending entries

namespace SortedMap

-- ---------------------------------------------------------------------------
-- Insertion into a list of entries
-- ---------------------------------------------------------------------------

/-- Puts an entry at its place, in exchange for an entry with the same key. -/
def insertEntry (k : κ) (v : ν) : List (κ × ν) → List (κ × ν)
  | [] => [(k, v)]
  | e :: rest =>
    match compare k e.1 with
    | .lt => (k, v) :: e :: rest
    | .eq => (k, v) :: rest
    | .gt => e :: insertEntry k v rest

/-- The value of the first entry with a key. -/
def lookup (k : κ) : List (κ × ν) → Option ν
  | [] => none
  | e :: rest => if compare k e.1 = .eq then some e.2 else lookup k rest

/-- After an insertion there is the new entry, and what was there before. -/
theorem mem_insertEntry {k : κ} {v : ν} {a : κ × ν} {entries : List (κ × ν)}
    (h : a ∈ insertEntry k v entries) : a = (k, v) ∨ a ∈ entries := by
  induction entries with
  | nil => simpa [insertEntry] using h
  | cons e rest ih =>
    simp only [insertEntry] at h
    split at h <;> simp only [List.mem_cons] at h ⊢ <;> grind

/-- An entry is put where the keys go on ascending. -/
theorem insertEntry_ascending [Std.TransOrd κ] [Std.LawfulEqOrd κ] (k : κ) (v : ν)
    {entries : List (κ × ν)} (h : Ascending entries) : Ascending (insertEntry k v entries) := by
  induction entries with
  | nil => exact List.pairwise_singleton _ _
  | cons e rest ih =>
    have he := List.pairwise_cons.1 h
    simp only [insertEntry]
    split
    · rename_i hlt
      refine List.pairwise_cons.2 ⟨fun b hb => ?_, h⟩
      rcases List.mem_cons.1 hb with rfl | hb
      · exact hlt
      · exact Std.TransCmp.lt_trans hlt (he.1 b hb)
    · rename_i heq
      -- the key stays the same, and so do all comparisons with it
      have hk : k = e.1 := Std.LawfulEqOrd.eq_of_compare heq
      exact List.pairwise_cons.2 ⟨fun b hb => hk ▸ he.1 b hb, he.2⟩
    · rename_i hgt
      refine List.pairwise_cons.2 ⟨fun b hb => ?_, ih he.2⟩
      -- the new entry has gone further back, behind the first one
      rcases mem_insertEntry hb with rfl | hb
      · exact Std.OrientedCmp.lt_of_gt hgt
      · exact he.1 b hb

/-- Insertion changes what is looked up under its own key, and nothing else. -/
theorem lookup_insertEntry [Std.TransOrd κ] [Std.LawfulEqOrd κ] (k k' : κ) (v : ν)
    (entries : List (κ × ν)) :
    lookup k' (insertEntry k v entries) =
      if compare k' k = .eq then some v else lookup k' entries := by
  induction entries with
  | nil => simp [insertEntry, lookup]
  | cons e rest ih =>
    simp only [insertEntry]
    split
    · simp [lookup]
    · rename_i heq
      have hk : k = e.1 := Std.LawfulEqOrd.eq_of_compare heq
      subst hk
      by_cases h : compare k' e.1 = .eq <;> simp [lookup, h]
    · rename_i hgt
      by_cases h : compare k' e.1 = .eq
      · have hk : k' = e.1 := Std.LawfulEqOrd.eq_of_compare h
        subst hk
        -- the entry in front has another key than the new one
        have : compare e.1 k ≠ .eq := by
          intro hc
          have : e.1 = k := Std.LawfulEqOrd.eq_of_compare hc
          subst this
          simp at hgt
        simp [lookup, this]
      · simp [lookup, h, ih]

-- ---------------------------------------------------------------------------
-- The map
-- ---------------------------------------------------------------------------

/-- The map without entries. -/
def empty : SortedMap κ ν := ⟨[], List.Pairwise.nil⟩

instance : EmptyCollection (SortedMap κ ν) := ⟨empty⟩

instance : Inhabited (SortedMap κ ν) := ⟨{}⟩

instance [DecidableEq κ] [DecidableEq ν] : DecidableEq (SortedMap κ ν) := fun a b =>
  if h : a.entries = b.entries then isTrue (by cases a; cases b; cases h; rfl)
  else isFalse fun e => h (e ▸ rfl)

instance [Repr κ] [Repr ν] : Repr (SortedMap κ ν) := ⟨fun m n => reprPrec m.entries n⟩

/-- The value of a key. -/
def get? (m : SortedMap κ ν) (k : κ) : Option ν := lookup k m.entries

/-- Whether a key has a value. -/
def contains (m : SortedMap κ ν) (k : κ) : Bool := (m.get? k).isSome

/-- The keys in ascending order. -/
def keys (m : SortedMap κ ν) : List κ := m.entries.map (·.1)

/-- The values in the order of their keys. -/
def values (m : SortedMap κ ν) : List ν := m.entries.map (·.2)

/-- The number of entries. -/
def size (m : SortedMap κ ν) : Nat := m.entries.length

def isEmpty (m : SortedMap κ ν) : Bool := m.entries.isEmpty

variable [Std.TransOrd κ] [Std.LawfulEqOrd κ]

/-- Gives a key a value. -/
def insert (m : SortedMap κ ν) (k : κ) (v : ν) : SortedMap κ ν :=
  ⟨insertEntry k v m.entries, insertEntry_ascending k v m.ascending⟩

/-- The map of a list of entries, where a later entry wins over an earlier one. -/
def ofList (entries : List (κ × ν)) : SortedMap κ ν :=
  entries.foldl (fun m e => m.insert e.1 e.2) {}

/-- A key that was inserted has its new value, all others have the old one. -/
theorem get?_insert (m : SortedMap κ ν) (k k' : κ) (v : ν) :
    (m.insert k v).get? k' = if compare k' k = .eq then some v else m.get? k' :=
  lookup_insertEntry k k' v m.entries

omit [Std.TransOrd κ] [Std.LawfulEqOrd κ] in
theorem get?_empty (k : κ) : ({} : SortedMap κ ν).get? k = none := rfl

end SortedMap

end RenderLoop
