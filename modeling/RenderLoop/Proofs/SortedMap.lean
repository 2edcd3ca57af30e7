import Mathlib.Algebra.Order.Ring.Nat
import Mathlib.Data.List.Induction
import Mathlib.Data.List.Nodup
import RenderLoop.SortedMap

/-!
# RenderLoop — the entries of a sorted map

A sorted map has one entry for each key it knows, so it is told apart by its
look-ups: a key is listed exactly if it has a value (`mem_keys_iff`), no key is
listed twice (`nodup_keys`), and the entries are the pairs of keys and their
values (`mem_entries_iff`). Of the entries that a map is made of, the last one of a
key counts (`get?_ofList`). Insertion takes the old value of a key out of a sum over all
values and puts the new one in (`sum_values_insert`); a key that had none adds its value
(`perm_values_insert`). Inserting the value that a key has changes nothing
(`insert_of_get?`), and of two insertions the order matters only for one key
(`insert_comm`, `insert_insert`).
-/

namespace RenderLoop.SortedMap

variable {κ ν : Type} [Ord κ] [Std.LawfulEqOrd κ]

theorem mem_of_lookup {k : κ} {v : ν} {entries : List (κ × ν)} (h : lookup k entries = some v) :
    (k, v) ∈ entries := by
  induction entries with
  | nil => cases h
  | cons e rest ih =>
    rw [lookup] at h
    split at h
    · rename_i heq
      obtain rfl : k = e.1 := Std.LawfulEqOrd.eq_of_compare heq
      cases h
      exact List.mem_cons_self
    · exact List.mem_cons_of_mem _ (ih h)

theorem lookup_of_mem {k : κ} {v : ν} {entries : List (κ × ν)} (hAscending : Ascending entries)
    (h : (k, v) ∈ entries) : lookup k entries = some v := by
  induction entries with
  | nil => cases h
  | cons e rest ih =>
    have he := List.pairwise_cons.mp hAscending
    rcases List.mem_cons.mp h with rfl | hRest
    · simp [lookup]
    · -- an entry further on has a greater key
      have hNe : compare k e.1 ≠ .eq := by
        intro hEq
        obtain rfl : k = e.1 := Std.LawfulEqOrd.eq_of_compare hEq
        have hLess := he.1 _ hRest
        simp only [Std.compare_self, reduceCtorEq] at hLess
      rw [lookup, if_neg hNe]
      exact ih he.2 hRest

/-- The entries are the pairs of keys and their values. -/
theorem mem_entries_iff (m : SortedMap κ ν) (k : κ) (v : ν) :
    (k, v) ∈ m.entries ↔ m.get? k = some v := by
  constructor
  · exact lookup_of_mem m.ascending
  · exact mem_of_lookup

/-- The first entry with a key has its value. -/
theorem lookup_entries [BEq κ] [LawfulBEq κ] (m : SortedMap κ ν) (k : κ) :
    m.entries.lookup k = m.get? k := by
  rw [get?]
  induction m.entries with
  | nil => rfl
  | cons e rest ih =>
    rw [List.lookup_cons, lookup, ih]
    by_cases hKey : k = e.1
    · simp [hKey]
    · have hNe : compare k e.1 ≠ .eq := fun hEq => hKey (Std.LawfulEqOrd.eq_of_compare hEq)
      rw [if_neg hNe, beq_false_of_ne hKey]

/-- A key is listed if it has a value. -/
theorem mem_keys_iff (m : SortedMap κ ν) (k : κ) : k ∈ m.keys ↔ ∃ v, m.get? k = some v := by
  rw [keys, List.mem_map]
  constructor
  · rintro ⟨⟨k', v⟩, hMem, rfl⟩
    exact ⟨v, (mem_entries_iff m k' v).mp hMem⟩
  · rintro ⟨v, hGet⟩
    exact ⟨(k, v), (mem_entries_iff m k v).mpr hGet, rfl⟩

theorem mem_values_of_get? {m : SortedMap κ ν} {k : κ} {v : ν} (h : m.get? k = some v) :
    v ∈ m.values :=
  List.mem_map.mpr ⟨(k, v), (mem_entries_iff m k v).mpr h, rfl⟩

/-- No key is listed twice. -/
theorem nodup_keys (m : SortedMap κ ν) : m.keys.Nodup := by
  rw [keys, List.Nodup, List.pairwise_map]
  refine m.ascending.imp ?_
  intro a b hLess hSame
  simp only [hSame, Std.compare_self, reduceCtorEq] at hLess

section Order

variable [Std.TransOrd κ]

/-- Maps with the same look-ups are equal. -/
theorem ext_get? {m m' : SortedMap κ ν} (h : ∀ k, m.get? k = m'.get? k) : m = m' := by
  have hPerm : m.entries.Perm m'.entries := by
    have hNodup : ∀ n : SortedMap κ ν, n.entries.Nodup := fun n =>
      List.Nodup.of_map Prod.fst n.nodup_keys
    refine (List.perm_ext_iff_of_nodup (hNodup m) (hNodup m')).mpr ?_
    rintro ⟨k, v⟩
    rw [mem_entries_iff, mem_entries_iff, h]
  have hEntries : m.entries = m'.entries := by
    refine hPerm.eq_of_pairwise (fun a b _ _ hLess hMore => ?_) m.ascending m'.ascending
    rw [Std.OrientedCmp.gt_of_lt hLess] at hMore
    cases hMore
  obtain ⟨entries, hAscending⟩ := m
  obtain ⟨entries', hAscending'⟩ := m'
  cases hEntries
  rfl

/-- Of two values for one key, the later one stays. -/
theorem insert_insert (m : SortedMap κ ν) (k : κ) (v v' : ν) :
    (m.insert k v).insert k v' = m.insert k v' := by
  refine ext_get? fun k' => ?_
  rw [get?_insert, get?_insert, get?_insert]
  split <;> rfl

/-- Values for two keys can be inserted in either order. -/
theorem insert_comm (m : SortedMap κ ν) {k k' : κ} (hNe : k ≠ k') (v v' : ν) :
    (m.insert k v).insert k' v' = (m.insert k' v').insert k v := by
  refine ext_get? fun k'' => ?_
  rw [get?_insert, get?_insert, get?_insert, get?_insert]
  by_cases hFirst : compare k'' k = .eq
  · obtain rfl : k'' = k := Std.LawfulEqOrd.eq_of_compare hFirst
    have hOther : compare k'' k' ≠ .eq := fun hEq => hNe (Std.LawfulEqOrd.eq_of_compare hEq)
    rw [if_neg hOther, if_pos hFirst, if_pos hFirst]
  · rw [if_neg hFirst, if_neg hFirst]

end Order

section Sum

variable [Std.TransOrd κ]

omit [Std.LawfulEqOrd κ] in
/-- A key before the first entry has no value. -/
theorem lookup_eq_none_of_lt {k : κ} {e : κ × ν} {rest : List (κ × ν)}
    (hAscending : Ascending (e :: rest)) (hLess : compare k e.1 = .lt) :
    lookup k (e :: rest) = none := by
  induction rest generalizing e with
  | nil => simp [lookup, hLess]
  | cons e' rest ih =>
    obtain ⟨hFirst, hRest⟩ := List.pairwise_cons.mp hAscending
    have hLess' := Std.TransCmp.lt_trans hLess (hFirst e' List.mem_cons_self)
    rw [lookup, if_neg (by rw [hLess]; decide)]
    exact ih hRest hLess'

omit [Std.LawfulEqOrd κ] in
theorem sum_insertEntry (f : ν → Nat) (k : κ) (v : ν) {entries : List (κ × ν)}
    (hAscending : Ascending entries) :
    ((insertEntry k v entries).map fun e => f e.2).sum + ((lookup k entries).map f).getD 0 =
      (entries.map fun e => f e.2).sum + f v := by
  induction entries with
  | nil => simp [insertEntry, lookup]
  | cons e rest ih =>
    have hRest := ih (List.pairwise_cons.mp hAscending).2
    rw [insertEntry]
    split
    · -- the key goes in front of all, is that of the head, or goes in behind it
      rename_i hLess
      rw [lookup_eq_none_of_lt hAscending hLess]
      simp only [List.map_cons, List.sum_cons, Option.map_none, Option.getD_none]
      omega
    · rename_i hSame
      simp only [lookup, hSame, if_true, List.map_cons, List.sum_cons, Option.map_some,
        Option.getD_some]
      omega
    · rename_i hGreater
      rw [lookup, if_neg (by rw [hGreater]; decide)]
      simp only [List.map_cons, List.sum_cons]
      omega

/-- What insertion does to a sum over all values. -/
theorem sum_values_insert (f : ν → Nat) (m : SortedMap κ ν) (k : κ) (v : ν) :
    ((m.insert k v).values.map f).sum + ((m.get? k).map f).getD 0 =
      (m.values.map f).sum + f v := by
  simp only [values, List.map_map]
  exact sum_insertEntry f k v m.ascending

omit [Std.TransOrd κ] [Std.LawfulEqOrd κ] in
theorem perm_insertEntry {k : κ} {entries : List (κ × ν)} (v : ν) (hNone : lookup k entries = none) :
    (insertEntry k v entries).Perm ((k, v) :: entries) := by
  induction entries with
  | nil => exact .refl _
  | cons e rest ih =>
    rw [lookup] at hNone
    rw [insertEntry]
    split
    · exact .refl _
    · rename_i hSame
      rw [if_pos hSame] at hNone
      cases hNone
    · rename_i hGreater
      rw [if_neg (by rw [hGreater]; decide)] at hNone
      exact ((ih hNone).cons e).trans (.swap _ _ rest)

/-- A key that had no value adds its own. -/
theorem perm_values_insert {m : SortedMap κ ν} {k : κ} (hNone : m.get? k = none) (v : ν) :
    (m.insert k v).values.Perm (v :: m.values) :=
  (perm_insertEntry v hNone).map Prod.snd

/-- An entry that is there is put in its own place. -/
theorem insertEntry_of_lookup {k : κ} {v : ν} {entries : List (κ × ν)}
    (hAscending : Ascending entries) (h : lookup k entries = some v) :
    insertEntry k v entries = entries := by
  induction entries with
  | nil => cases h
  | cons e rest ih =>
    rw [insertEntry]
    split
    · -- a key below the head would not have been found
      rename_i hLess
      rw [lookup_eq_none_of_lt hAscending hLess] at h
      cases h
    · rename_i hSame
      rw [lookup, if_pos hSame] at h
      cases h
      rw [Std.LawfulEqOrd.eq_of_compare hSame]
    · rename_i hGreater
      rw [lookup, if_neg (by rw [hGreater]; decide)] at h
      rw [ih (List.pairwise_cons.mp hAscending).2 h]

/-- Inserting the value that a key has changes nothing. -/
theorem insert_of_get? {m : SortedMap κ ν} {k : κ} {v : ν} (h : m.get? k = some v) :
    m.insert k v = m := by
  obtain ⟨entries, hAscending⟩ := m
  simp only [insert, insertEntry_of_lookup hAscending h]

end Sum

/-- Of entries with one key, the last one counts. -/
theorem get?_ofList [Std.TransOrd κ] [DecidableEq κ] (entries : List (κ × ν)) (k : κ) :
    (ofList entries).get? k = ((entries.filter fun e => e.1 = k).getLast?).map (·.2) := by
  induction entries using List.reverseRecOn with
  | nil => rfl
  | append_singleton rest e ih =>
    have hInsert : ofList (rest ++ [e]) = (ofList rest).insert e.1 e.2 := by
      rw [ofList, List.foldl_append]
      rfl
    rw [hInsert, get?_insert, List.filter_append]
    by_cases hKey : e.1 = k
    · simp [hKey]
    · have hNe : compare k e.1 ≠ .eq := fun hEq => hKey (Std.LawfulEqOrd.eq_of_compare hEq).symm
      rw [if_neg hNe, ih]
      simp [hKey]

end RenderLoop.SortedMap
