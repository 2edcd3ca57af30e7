import RenderLoop.Descriptor.LayoutRegistry
import RenderLoop.Proofs.Descriptor.LayoutKey
import RenderLoop.Proofs.Op.Noted
import RenderLoop.Proofs.SortedMap

/-!
# RenderLoop — one object for each layout key

Every caller that asks for a layout with some key gets the same object until the
registry is drained. That cannot be read off one request: it is about everything
that was asked before. So the requests, look-ups and drains of a registry are
written down in a **history** with their answers, newest first (`History`). A request
notes in addition whether the creation that came with it was run, and what came of it.

Objects are told apart by the moment they were made at, not by what they hold
(`Dated`): the creation of a request is made to stamp its object with the number of
calls that went before.

The history alone says which objects there should be: those whose creation has
succeeded since the last drain (`made`). The invariant is that the registry has just
those, and no two for one key (`Holds`); it is kept by every call (`holds_of_history`).
With it every answer in the history is what the calls before demand
(`accounted_of_history`).
-/

namespace RenderLoop.LayoutRegistry

open Op

variable {α τ : Type} {layout : SetLayout}

-- ---------------------------------------------------------------------------
-- Requests
-- ---------------------------------------------------------------------------

/-- An object that is there is handed out, and nothing is run. -/
theorem start_getOrCreate_of_some [Logging τ] {r : LayoutRegistry α} {x : α}
    (h : r.get? layout.key = some x) (create : Op τ α) (t : τ) :
    start (getOrCreate layout create) (r, t) = some (.ok x, r, t) := by
  rw [getOrCreate, start_bind_of_ok (start_get _)]
  simp only [h, start_pure]

/-- What a creation leaves: its object is recorded, and a failure changes nothing. -/
def created [Logging τ] (layout : SetLayout) (r : LayoutRegistry α) :
    Except RenderError α × τ → Except RenderError α × LayoutRegistry α × τ
  | (.ok x, t) => (.ok x, r.record layout x, Logging.push (createdEntry layout) t)
  | (.error e, t) => (.error e, r, t)

/-- An object that is not there is created. -/
theorem start_getOrCreate_of_none [Logging τ] {r : LayoutRegistry α}
    (h : r.get? layout.key = none) (create : Op τ α) (t : τ) :
    start (getOrCreate layout create) (r, t) = (start create t).map (created layout r) := by
  rw [getOrCreate, start_bind_of_ok (start_get _)]
  simp only [h]
  rw [start_bind, start_onSecond]
  rcases start create t with _ | ⟨e | x, t'⟩
  · rfl
  · rfl
  · rfl

-- ---------------------------------------------------------------------------
-- Histories
-- ---------------------------------------------------------------------------

/-- An object and the moment it was made at. -/
structure Dated (α : Type) where
  moment : Nat
  object : α
  deriving DecidableEq, Repr

/-- A call of a registry with what it answered. -/
inductive Event (α : Type) where
  /-- A request, with the notes of the creation that came with it. -/
  | request (layout : SetLayout) (notes : Notes SetLayout (Dated α))
      (result : Except RenderError (Dated α))
  | get (key : UInt64) (answer : Option (Dated α))
  | contains (key : UInt64) (answer : Bool)
  | size (answer : Nat)
  | drain (objects : List (Dated α))

/-- The calls made of a new registry, newest first, and the registry they have led to. The creation
that comes with a request is arbitrary. -/
inductive History : List (Event α) → LayoutRegistry (Dated α) → Prop
  | new : History [] {}
  | request {τ : Type} [Logging τ] {before : List (Event α)} {r r' : LayoutRegistry (Dated α)}
      {notes : Notes SetLayout (Dated α)} {result : Except RenderError (Dated α)} {t' : τ}
      (hBefore : History before r) (layout : SetLayout) (create : Op τ α) (t : τ)
      (hRun : start (getOrCreate layout ((Dated.mk before.length <$> create).noted layout))
        (r, [], t) = some (result, r', notes, t')) :
      History (.request layout notes result :: before) r'
  | get {before : List (Event α)} {r : LayoutRegistry (Dated α)} (hBefore : History before r)
      (key : UInt64) : History (.get key (r.get? key) :: before) r
  | contains {before : List (Event α)} {r : LayoutRegistry (Dated α)} (hBefore : History before r)
      (key : UInt64) : History (.contains key (r.contains key) :: before) r
  | size {before : List (Event α)} {r : LayoutRegistry (Dated α)} (hBefore : History before r) :
      History (.size r.size :: before) r
  | drain {before : List (Event α)} {r : LayoutRegistry (Dated α)} (hBefore : History before r) :
      History (.drain r.drain.1 :: before) r.drain.2

/-- The objects whose creation has succeeded since the last drain, with their keys. -/
def made : List (Event α) → List (UInt64 × Dated α)
  | [] => []
  | .request _ notes _ :: before =>
    (notes.filterMap fun note => note.2.toOption.map (note.1.key, ·)) ++ made before
  | .drain _ :: _ => []
  | _ :: before => made before

/-- A call answers what the calls before it demand. -/
def Event.Fits (before : List (Event α)) : Event α → Prop
  | .request layout notes result =>
    (∃ x, (layout.key, x) ∈ made before ∧ notes = [] ∧ result = .ok x) ∨
      (∀ x, (layout.key, x) ∉ made before) ∧ notes = [(layout, result)] ∧
        ∀ x, result = .ok x → x.moment = before.length
  | .get key answer => ∀ x, answer = some x ↔ (key, x) ∈ made before
  | .contains key answer => answer = true ↔ ∃ x, (key, x) ∈ made before
  | .size answer => answer = (made before).length
  | .drain objects => objects.Perm ((made before).map Prod.snd)

/-- Every call answers what the calls before it demand. -/
def Lawful : List (Event α) → Prop
  | [] => True
  | e :: before => e.Fits before ∧ Lawful before

-- ---------------------------------------------------------------------------
-- What the registry holds
-- ---------------------------------------------------------------------------

/-- A registry holds some objects: each under its key, and no two under one. -/
structure Holds (r : LayoutRegistry α) (objects : List (UInt64 × α)) : Prop where
  entries : r.byKey.entries.Perm objects
  keys : (objects.map Prod.fst).Nodup

namespace Holds

variable {r : LayoutRegistry α} {objects : List (UInt64 × α)}

/-- A lookup finds exactly what was made under the key. -/
theorem get?_iff (h : r.Holds objects) (key : UInt64) (x : α) :
    r.get? key = some x ↔ (key, x) ∈ objects := by
  rw [← h.entries.mem_iff]
  exact (SortedMap.mem_entries_iff r.byKey key x).symm

theorem get?_eq_none (h : r.Holds objects) {key : UInt64} (hNone : ∀ x, (key, x) ∉ objects) :
    r.get? key = none := by
  cases hGet : r.get? key with
  | none => rfl
  | some x => exact absurd ((h.get?_iff key x).mp hGet) (hNone x)

theorem contains_iff (h : r.Holds objects) (key : UInt64) :
    r.contains key = true ↔ ∃ x, (key, x) ∈ objects := by
  rw [contains, SortedMap.contains, Option.isSome_iff_exists]
  exact exists_congr fun x => h.get?_iff key x

/-- The registry counts what was made. -/
theorem size_eq (h : r.Holds objects) : r.size = objects.length := h.entries.length_eq

theorem isEmpty_iff (h : r.Holds objects) : r.isEmpty = true ↔ objects = [] := by
  rw [isEmpty, SortedMap.isEmpty, List.isEmpty_iff, ← List.length_eq_zero_iff,
    ← List.length_eq_zero_iff, h.entries.length_eq]

/-- A drain returns what was made, in some order. -/
theorem objects_perm (h : r.Holds objects) : r.objects.Perm (objects.map Prod.snd) :=
  h.entries.map Prod.snd

/-- Recording adds an object, if its key has none. -/
theorem record (h : r.Holds objects) (hNone : r.get? layout.key = none) (x : α) :
    (r.record layout x).Holds ((layout.key, x) :: objects) where
  entries := (SortedMap.perm_insertEntry x hNone).trans (h.entries.cons _)
  keys := by
    rw [List.map_cons, List.nodup_cons]
    constructor
    · intro hMem
      obtain ⟨⟨key, y⟩, hEntry, hKey⟩ := List.mem_map.mp hMem
      obtain rfl : key = layout.key := hKey
      have hSome := (h.get?_iff layout.key y).mpr hEntry
      rw [hNone] at hSome
      cases hSome
    · exact h.keys

end Holds

theorem holds_empty : ({} : LayoutRegistry α).Holds [] := ⟨.refl _, List.nodup_nil⟩

-- ---------------------------------------------------------------------------
-- One request
-- ---------------------------------------------------------------------------

section Request

variable [Logging τ] {before : List (Event α)} {r r' : LayoutRegistry (Dated α)} {create : Op τ α}
  {notes : Notes SetLayout (Dated α)} {result : Except RenderError (Dated α)} {t t' : τ}

omit [Logging τ] in
/-- An object of a creation bears the moment it was made at. -/
theorem moment_of_start {moment : Nat} {x : Dated α}
    (h : start (Dated.mk moment <$> create) t = some (.ok x, t')) : x.moment = moment := by
  rw [← bind_pure_comp, start_bind_eq_ok_iff] at h
  obtain ⟨a, u, -, hPure⟩ := h
  cases hPure
  rfl

/-- A request for a key without an object runs its creation once, and answers what came of it. -/
theorem request_of_none (hNone : r.get? layout.key = none)
    (hRun : start (getOrCreate layout ((Dated.mk before.length <$> create).noted layout))
      (r, [], t) = some (result, r', notes, t')) :
    notes = [(layout, result)] ∧ (∀ x, result = .ok x → x.moment = before.length) ∧
      (∀ x, result = .ok x → r' = r.record layout x) ∧ (∀ e, result = .error e → r' = r) := by
  rw [start_getOrCreate_of_none hNone, start_noted] at hRun
  rcases hCreate : start (Dated.mk before.length <$> create) t with _ | ⟨e | x, u⟩
  · rw [hCreate] at hRun
    cases hRun
  · rw [hCreate] at hRun
    cases hRun
    refine ⟨rfl, ?_, ?_, ?_⟩
    · intro x hx
      cases hx
    · intro x hx
      cases hx
    · intro _ _
      rfl
  · -- a creation that succeeds is dated by the moment at which it ran
    have hMoment := moment_of_start hCreate
    rw [hCreate] at hRun
    cases hRun
    refine ⟨rfl, ?_, ?_, ?_⟩
    · intro y hy
      cases hy
      exact hMoment
    · intro y hy
      cases hy
      rfl
    · intro e he
      cases he

/-- A request keeps the registry in line with the history. -/
theorem holds_request (hHolds : r.Holds (made before))
    (hRun : start (getOrCreate layout ((Dated.mk before.length <$> create).noted layout))
      (r, [], t) = some (result, r', notes, t')) :
    (Event.request layout notes result).Fits before ∧
      r'.Holds (made (.request layout notes result :: before)) := by
  cases hGet : r.get? layout.key with
  | some x =>
    -- a hit: the object was made before, and nothing is created
    rw [start_getOrCreate_of_some hGet] at hRun
    cases hRun
    exact ⟨.inl ⟨x, (hHolds.get?_iff _ x).mp hGet, rfl, rfl⟩, hHolds⟩
  | none =>
    -- a miss: one creation, and it is recorded if it succeeds
    obtain ⟨rfl, hMoment, hOk, hError⟩ := request_of_none hGet hRun
    have hNew : ∀ x, (layout.key, x) ∉ made before := by
      intro x hMem
      rw [(hHolds.get?_iff _ x).mpr hMem] at hGet
      cases hGet
    refine ⟨.inr ⟨hNew, rfl, hMoment⟩, ?_⟩
    cases result with
    | ok x =>
      rw [hOk x rfl]
      exact hHolds.record hGet x
    | error e =>
      rw [hError e rfl]
      exact hHolds

end Request

-- ---------------------------------------------------------------------------
-- All calls
-- ---------------------------------------------------------------------------

variable {es : List (Event α)} {r : LayoutRegistry (Dated α)}

/-- **The registry has the objects that the history demands**, and gave them to all callers. -/
theorem holds_of_history (h : History es r) : Lawful es ∧ r.Holds (made es) := by
  induction h with
  | new => exact ⟨trivial, holds_empty⟩
  | request hBefore layout create t hRun ih =>
    obtain ⟨hFits, hHolds⟩ := holds_request ih.2 hRun
    exact ⟨⟨hFits, ih.1⟩, hHolds⟩
  | get hBefore key ih => exact ⟨⟨ih.2.get?_iff key, ih.1⟩, ih.2⟩
  | contains hBefore key ih => exact ⟨⟨ih.2.contains_iff key, ih.1⟩, ih.2⟩
  | size hBefore ih => exact ⟨⟨ih.2.size_eq, ih.1⟩, ih.2⟩
  | drain hBefore ih => exact ⟨⟨ih.2.objects_perm, ih.1⟩, holds_empty⟩

/-- No two objects were made at one moment, and all were made in the past. -/
theorem moments_made (h : Lawful es) :
    ((made es).map (·.2.moment)).Nodup ∧ ∀ e ∈ made es, e.2.moment < es.length := by
  induction es with
  | nil => exact ⟨List.nodup_nil, by simp [made]⟩
  | cons e before ih =>
    obtain ⟨hNodup, hPast⟩ := ih h.2
    have hOlder : ∀ e' ∈ made before, e'.2.moment < before.length + 1 := by
      intro e' hMem
      have := hPast e' hMem
      omega
    cases e with
    | request layout notes result =>
      rcases h.1 with ⟨x, -, rfl, -⟩ | ⟨-, rfl, hMoment⟩
      · exact ⟨hNodup, hOlder⟩
      · cases result with
        | error e => exact ⟨hNodup, hOlder⟩
        | ok x =>
          -- the newest object is dated by the present, later than all the others
          have hNow : x.moment = before.length := hMoment x rfl
          constructor
          · show (x.moment :: (made before).map (·.2.moment)).Nodup
            rw [List.nodup_cons]
            constructor
            · intro hMem
              obtain ⟨e', hOld, hSame⟩ := List.mem_map.mp hMem
              have := hPast e' hOld
              omega
            · exact hNodup
          · intro e' hMem
            rcases List.mem_cons.mp hMem with rfl | hOld
            · show x.moment < before.length + 1
              omega
            · exact hOlder e' hOld
    | get key answer => exact ⟨hNodup, hOlder⟩
    | contains key answer => exact ⟨hNodup, hOlder⟩
    | size answer => exact ⟨hNodup, hOlder⟩
    | drain objects => exact ⟨List.nodup_nil, by simp [made]⟩

/-- What a history demands of the registry it has led to. -/
structure Accounted (es : List (Event α)) (r : LayoutRegistry (Dated α)) : Prop where
  /-- Every call has answered what the calls before it demand. -/
  lawful : Lawful es
  /-- No creation has succeeded twice for one key. -/
  keys : ((made es).map Prod.fst).Nodup
  /-- No two keys have the same object. -/
  moments : ((made es).map (·.2.moment)).Nodup
  get? : ∀ key x, r.get? key = some x ↔ (key, x) ∈ made es
  contains : ∀ key, r.contains key = true ↔ ∃ x, (key, x) ∈ made es
  size : r.size = (made es).length
  isEmpty : r.isEmpty = true ↔ made es = []
  /-- A drain gives each object once, and leaves none. -/
  drain : r.drain.1.Perm ((made es).map Prod.snd) ∧ r.drain.2.isEmpty = true
  /-- A request for a key with an object runs nothing and changes nothing. -/
  shared : ∀ {τ : Type} [Logging τ] (layout : SetLayout) (create : Op τ (Dated α)) (t : τ) x,
    (layout.key, x) ∈ made es → start (getOrCreate layout create) (r, t) = some (.ok x, r, t)
  /-- So does a request for a layout of the same content in another order. -/
  sharedContent : ∀ {τ : Type} [Logging τ] (create : Op τ (Dated α)) (t : τ) set set' a b x,
    DistinctSlots a → SameContent a b → ((SetLayout.ofBindings set a).key, x) ∈ made es →
      start (getOrCreate (.ofBindings set' b) create) (r, t) = some (.ok x, r, t)
  /-- A request for another key does what its creation does. If that fails, the registry stays. -/
  created : ∀ {τ : Type} [Logging τ] (layout : SetLayout) (create : Op τ (Dated α)) (t : τ),
    (∀ x, (layout.key, x) ∉ made es) →
      start (getOrCreate layout create) (r, t) = (start create t).map (created layout r)

/-- **There is one object for each layout key.** Whatever was asked of a registry, and whichever
creations have failed, the registry has the objects whose creation has succeeded since the last
drain, one for each key. The calls of the past have answered accordingly, and so will the next
one. -/
theorem accounted_of_history (h : History es r) : Accounted es r := by
  obtain ⟨hLawful, hHolds⟩ := holds_of_history h
  -- what was made under a key is what a request for the key gets, whatever it would create
  have hShared : ∀ {τ : Type} [Logging τ] (layout : SetLayout) (create : Op τ (Dated α)) (t : τ) x,
      (layout.key, x) ∈ made es →
        start (getOrCreate layout create) (r, t) = some (.ok x, r, t) := by
    intro τ _ layout create t x hMade
    exact start_getOrCreate_of_some ((hHolds.get?_iff _ x).mpr hMade) create t
  exact {
    lawful := hLawful
    keys := hHolds.keys
    moments := (moments_made hLawful).1
    get? := hHolds.get?_iff
    contains := hHolds.contains_iff
    size := hHolds.size_eq
    isEmpty := hHolds.isEmpty_iff
    drain := ⟨hHolds.objects_perm, rfl⟩
    shared := hShared
    sharedContent := by
      intro τ _ create t set set' a b x hDistinct hSame hMade
      rw [key_ofBindings_eq set set' hDistinct hSame] at hMade
      exact hShared _ create t x hMade
    created := by
      intro τ _ layout create t hNew
      exact start_getOrCreate_of_none (hHolds.get?_eq_none hNew) create t }

/-- A creation fails, the next one succeeds. A program with the same bindings in another order and
by other names gets that object. After a drain the object is made anew. -/
theorem accounted_of_history_with_drain :
    let a := SetLayout.ofBindings 0 [sampleBinding "Camera" 0 64 [], sampleBinding "Light" 1 16 []]
    let b := SetLayout.ofBindings 0 [sampleBinding "Lamp" 1 16 [], sampleBinding "View" 0 64 []]
    let es : List (Event String) :=
      [.request a [(a, .ok ⟨4, "new"⟩)] (.ok ⟨4, "new"⟩), .drain [⟨1, "old"⟩],
        .request b [] (.ok ⟨1, "old"⟩), .request a [(a, .ok ⟨1, "old"⟩)] (.ok ⟨1, "old"⟩),
        .request a [(a, .error .outOfMemory)] (.error .outOfMemory)]
    ∃ r, History es r ∧ Accounted es r := by
  intro a b es
  have hKey : b.key = a.key := by
    refine key_ofBindings_eq 0 0 ?_ ?_
    · unfold DistinctSlots
      decide
    · unfold SameContent
      decide
  -- the registry after the first success
  let r : LayoutRegistry (Dated String) := ({} : LayoutRegistry (Dated String)).record a ⟨1, "old"⟩
  have hGet : r.get? b.key = some ⟨1, "old"⟩ := by
    rw [hKey, get?_record, if_pos (Std.compare_self)]
  let fails : Op (List LogEntry) String := throw .outOfMemory
  have hFailed : History [.request a [(a, .error .outOfMemory)] (.error .outOfMemory)] {} :=
    .request .new a fails [] rfl
  have hMade := hFailed.request a (pure "old" : Op (List LogEntry) String) [] rfl
  have hShared := hMade.request b fails [] (start_getOrCreate_of_some hGet _ _)
  have hNew := hShared.drain.request a (pure "new" : Op (List LogEntry) String) [] rfl
  exact ⟨_, hNew, accounted_of_history hNew⟩

end RenderLoop.LayoutRegistry
