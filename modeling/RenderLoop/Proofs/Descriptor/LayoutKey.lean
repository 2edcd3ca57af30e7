import Mathlib.Data.List.Nodup
import RenderLoop.Descriptor.SetLayout

/-!
# RenderLoop — what the key of a layout says

The key of a layout is a hash of packed bytes, and the bytes say just what the
bindings are: two lists of bindings are packed to the same bytes exactly when they
have the same **content**, that is the same slots, kinds, counts, stages and sizes
in any order (`layoutKeyBytes_eq_iff`). Names and members are not packed.

One half is that packing can be undone. Every binding takes six words of four bytes,
so the bytes can be cut where one binding ends and the next one begins
(`layoutKeyBytes_inj`). The other half is that sorting leaves no choice: as long as
no two bindings share a slot, bindings with the same content have one order by
number and set (`map_sorted_eq`).

So layouts with different keys differ in content, and layouts with different content
have one key only if the hash itself maps two byte strings to one word.
-/

namespace RenderLoop

/-- All of a binding that its layout is about: slot, kind, count, stages and size. -/
def UniformBinding.signature (b : UniformBinding) :
    Slot × DescriptorKind × UInt32 × StageMask × UInt32 :=
  (b.slot, b.kind, b.count, b.stages, b.size)

/-- Bindings have the same signatures, each the same number of times. -/
def SameContent (a b : List UniformBinding) : Prop :=
  (a.map UniformBinding.signature).Perm (b.map UniformBinding.signature)

/-- No two bindings have the same set and number. -/
def DistinctSlots (bindings : List UniformBinding) : Prop := (bindings.map (·.slot)).Nodup

variable {a b c : List UniformBinding}

-- ---------------------------------------------------------------------------
-- Packed bindings can be unpacked
-- ---------------------------------------------------------------------------

namespace UniformBinding

/-- Each binding contributes six words to the key. -/
theorem length_content (b : UniformBinding) : b.content.length = 6 := rfl

/-- The words tell the signature. -/
theorem content_eq_iff {b c : UniformBinding} :
    b.content = c.content ↔ b.signature = c.signature := by
  obtain ⟨_, ⟨set, binding⟩, kind, count, size, ⟨stages⟩, _⟩ := b
  obtain ⟨_, ⟨set', binding'⟩, kind', count', size', ⟨stages'⟩, _⟩ := c
  constructor
  · intro h
    simp only [content, List.cons.injEq, and_true] at h
    obtain ⟨rfl, rfl, hKind, rfl, rfl, rfl⟩ := h
    obtain rfl := DescriptorKind.number_injective hKind
    rfl
  · intro h
    simp only [signature, Prod.mk.injEq, Slot.mk.injEq, StageMask.mk.injEq] at h
    obtain ⟨⟨rfl, rfl⟩, rfl, rfl, rfl, rfl⟩ := h
    rfl

theorem map_content_eq_iff {as bs : List UniformBinding} :
    as.map content = bs.map content ↔ as.map signature = bs.map signature := by
  induction as generalizing bs with
  | nil => cases bs <;> simp
  | cons a rest ih =>
    cases bs with
    | nil => simp
    | cons b rest' => simp only [List.map_cons, List.cons.injEq, content_eq_iff, ih]

end UniformBinding

/-- Words come back from their bytes, so bytes tell words apart. -/
theorem bytesOfWords_inj {ws vs : List UInt32} (h : bytesOfWords ws = bytesOfWords vs) : ws = vs := by
  rw [← wordsOfBytes_bytesOfWords ws, h, wordsOfBytes_bytesOfWords]

/-- Each binding takes six words, so their words can be told apart one binding at a time. -/
theorem flatMap_content_inj {as bs : List UniformBinding}
    (h : as.flatMap UniformBinding.content = bs.flatMap UniformBinding.content) :
    as.map UniformBinding.content = bs.map UniformBinding.content := by
  induction as generalizing bs with
  | nil =>
    cases bs with
    | nil => rfl
    | cons b rest => simp [UniformBinding.content] at h
  | cons a rest ih =>
    cases bs with
    | nil => simp [UniformBinding.content] at h
    | cons b rest' =>
      rw [List.flatMap_cons, List.flatMap_cons] at h
      obtain ⟨hFirst, hRest⟩ := List.append_inj h (by simp [UniformBinding.length_content])
      rw [List.map_cons, List.map_cons, hFirst, ih hRest]

theorem layoutKeyBytes_eq_bytesOfWords (bindings : List UniformBinding) :
    layoutKeyBytes bindings =
      bytesOfWords ((sortBy UniformBinding.contentLE bindings).flatMap UniformBinding.content) := by
  simp only [layoutKeyBytes, bytesOfWords, List.flatMap_assoc]

/-- The bytes of bindings say what their signatures are, in the order of packing. -/
theorem layoutKeyBytes_inj :
    layoutKeyBytes a = layoutKeyBytes b ↔
      (sortBy UniformBinding.contentLE a).map UniformBinding.signature =
        (sortBy UniformBinding.contentLE b).map UniformBinding.signature := by
  rw [layoutKeyBytes_eq_bytesOfWords, layoutKeyBytes_eq_bytesOfWords,
    ← UniformBinding.map_content_eq_iff]
  constructor
  · intro h
    exact flatMap_content_inj (bytesOfWords_inj h)
  · intro h
    rw [List.flatMap_def, List.flatMap_def, h]

-- ---------------------------------------------------------------------------
-- There is one order
-- ---------------------------------------------------------------------------

namespace UniformBinding

/-- The order of bindings looks at their signatures only. -/
def signatureLE (s t : Slot × DescriptorKind × UInt32 × StageMask × UInt32) : Bool :=
  s.1.binding < t.1.binding || (s.1.binding == t.1.binding && s.1.set ≤ t.1.set)

/-- Signatures are ordered by binding and then by set. -/
theorem signatureLE_iff {s t : Slot × DescriptorKind × UInt32 × StageMask × UInt32} :
    signatureLE s t = true ↔ s.1.binding.toNat < t.1.binding.toNat ∨
      s.1.binding.toNat = t.1.binding.toNat ∧ s.1.set.toNat ≤ t.1.set.toNat := by
  simp [signatureLE, UInt32.lt_iff_toNat_lt, UInt32.le_iff_toNat_le, ← UInt32.toNat_inj]

end UniformBinding

open UniformBinding

theorem map_sorted (bindings : List UniformBinding) :
    (sortBy contentLE bindings).map signature = sortBy signatureLE (bindings.map signature) :=
  map_sortBy signatureLE signature bindings

theorem pairwise_sorted (bindings : List UniformBinding) :
    ((sortBy contentLE bindings).map signature).Pairwise fun s t => signatureLE s t = true := by
  have hTrans : ∀ s t u, signatureLE s t → signatureLE t u → signatureLE s u := by
    intro s t u h h'
    rw [signatureLE_iff] at h h' ⊢
    omega
  have hTotal : ∀ s t, signatureLE s t || signatureLE t s := by
    intro s t
    rw [Bool.or_eq_true, signatureLE_iff, signatureLE_iff]
    omega
  rw [map_sorted]
  have hAny : (bindings.map signature).Pairwise fun _ _ => True :=
    List.pairwise_of_forall fun _ _ => trivial
  have hSorted := pairwise_sortBy hTrans hTotal hAny
  exact hSorted.imp fun h => h.1

/-- Sorting changes nothing about the content. -/
theorem sameContent_sorted (le : UniformBinding → UniformBinding → Bool)
    (bindings : List UniformBinding) : SameContent (sortBy le bindings) bindings :=
  (sortBy_perm le bindings).map signature

theorem SameContent.distinctSlots (h : SameContent a b) (hDistinct : DistinctSlots a) :
    DistinctSlots b := by
  have hSlots := h.map Prod.fst
  simp only [List.map_map] at hSlots
  exact hSlots.nodup_iff.mp hDistinct

/-- Of distinct slots, one signature is all there is at a slot. -/
theorem DistinctSlots.signature_eq (h : DistinctSlots a)
    {s t : Slot × DescriptorKind × UInt32 × StageMask × UInt32} (hs : s ∈ a.map signature)
    (ht : t ∈ a.map signature) (hSlot : s.1 = t.1) : s = t := by
  have hSlots : ((a.map signature).map Prod.fst).Nodup := by
    rw [List.map_map]
    exact h
  exact List.inj_on_of_nodup_map hSlots hs ht hSlot

/-- **Bindings with the same content are sorted alike**, as long as no two of them share a slot. -/
theorem map_sorted_eq (hDistinct : DistinctSlots a) (hSame : SameContent a b) :
    (sortBy contentLE a).map signature = (sortBy contentLE b).map signature := by
  have hPerm : ((sortBy contentLE a).map signature).Perm ((sortBy contentLE b).map signature) :=
    ((sameContent_sorted _ a).trans hSame).trans (sameContent_sorted _ b).symm
  refine hPerm.eq_of_pairwise ?_ (pairwise_sorted a) (pairwise_sorted b)
  intro s t hs ht hLE hGE
  rw [signatureLE_iff] at hLE hGE
  have hSlot : s.1 = t.1 := by
    obtain ⟨⟨set, binding⟩, _⟩ := s
    obtain ⟨⟨set', binding'⟩, _⟩ := t
    simp only [Slot.mk.injEq, ← UInt32.toNat_inj] at hLE hGE ⊢
    omega
  have hs' : s ∈ a.map signature := ((sameContent_sorted _ a).mem_iff).mp hs
  have ht' : t ∈ a.map signature := (((sameContent_sorted _ b).trans hSame.symm).mem_iff).mp ht
  exact hDistinct.signature_eq hs' ht' hSlot

/-- The same content gives the same bytes, in whatever order it is listed. -/
theorem layoutKeyBytes_of_sameContent (hDistinct : DistinctSlots a) (hSame : SameContent a b) :
    layoutKeyBytes a = layoutKeyBytes b :=
  layoutKeyBytes_inj.mpr (map_sorted_eq hDistinct hSame)

/-- The bytes tell the content. -/
theorem sameContent_of_layoutKeyBytes (h : layoutKeyBytes a = layoutKeyBytes b) :
    SameContent a b := by
  have hSorted := layoutKeyBytes_inj.mp h
  have hPerm : SameContent (sortBy contentLE a) (sortBy contentLE b) := by
    rw [SameContent, hSorted]
  exact ((sameContent_sorted _ a).symm.trans hPerm).trans (sameContent_sorted _ b)

-- ---------------------------------------------------------------------------
-- Keys
-- ---------------------------------------------------------------------------

/-- The hash maps two byte strings to one key. -/
def Hash.Collide (x y : List UInt8) : Prop := x ≠ y ∧ Hash.ofBytes x = Hash.ofBytes y

/-- The same content gives the same key. -/
theorem layoutKey_of_sameContent (hDistinct : DistinctSlots a) (hSame : SameContent a b) :
    layoutKey a = layoutKey b := by
  rw [layoutKey, layoutKey, layoutKeyBytes_of_sameContent hDistinct hSame]

/-- A layout has the key of its bindings, in whichever order they were given. -/
theorem key_ofBindings (set : UInt32) (hDistinct : DistinctSlots a) :
    (SetLayout.ofBindings set a).key = layoutKey a :=
  (layoutKey_of_sameContent hDistinct (sameContent_sorted _ a).symm).symm

/-- The same content gives the same key. -/
theorem key_ofBindings_eq (set set' : UInt32) (hDistinct : DistinctSlots a)
    (hSame : SameContent a b) :
    (SetLayout.ofBindings set a).key = (SetLayout.ofBindings set' b).key := by
  rw [key_ofBindings set hDistinct, key_ofBindings set' (hSame.distinctSlots hDistinct),
    layoutKey_of_sameContent hDistinct hSame]

/-- **The identity of a set layout is its content.** Lists of bindings without a shared slot are
packed to the same bytes exactly if they have the same content. So all lists with one content, in
any order and with any names and members, have one key, and their layouts have it, too; and if the
layouts of lists with different content have one key, then the hash maps their bytes, which differ,
to one word. -/
theorem layoutKeyBytes_eq_iff (hDistinct : DistinctSlots a) (hDistinct' : DistinctSlots b) :
    (layoutKeyBytes a = layoutKeyBytes b ↔ SameContent a b) ∧
      (∀ c, SameContent a c → layoutKey c = layoutKey a ∧
        ∀ set set', (SetLayout.ofBindings set' c).key = (SetLayout.ofBindings set a).key) ∧
      ∀ set set', (SetLayout.ofBindings set a).key = (SetLayout.ofBindings set' b).key →
        SameContent a b ∨ Hash.Collide (layoutKeyBytes a) (layoutKeyBytes b) := by
  refine ⟨⟨sameContent_of_layoutKeyBytes, layoutKeyBytes_of_sameContent hDistinct⟩, ?_, ?_⟩
  · intro c hSame
    exact ⟨(layoutKey_of_sameContent hDistinct hSame).symm,
      fun set set' => (key_ofBindings_eq set set' hDistinct hSame).symm⟩
  · intro set set' hKeys
    by_cases hSame : SameContent a b
    · exact .inl hSame
    · rw [key_ofBindings set hDistinct, key_ofBindings set' hDistinct'] at hKeys
      exact .inr ⟨fun hBytes => hSame (sameContent_of_layoutKeyBytes hBytes), hKeys⟩

/-- A block of a size at a number of set 0. -/
def sampleBinding (name : String) (binding size : UInt32) (members : List (String × MemberRange)) :
    UniformBinding :=
  { name, slot := ⟨0, binding⟩, kind := .uniformBufferDynamic, count := 1, size,
    stages := ShaderStage.vertex.mask, members := .ofList members }

/-- Two programs declare the same blocks in another order, with other names and members: their bytes
and keys are the same. A third one has a block of another size, and other bytes. -/
theorem layoutKeyBytes_eq_iff_of_renamed :
    let first := [sampleBinding "Camera" 0 64 [("view", ⟨0, 64⟩)], sampleBinding "Light" 1 16 []]
    let second := [sampleBinding "Lamp" 1 16 [("colour", ⟨0, 16⟩)], sampleBinding "View" 0 64 []]
    let third := [sampleBinding "Camera" 0 80 [("view", ⟨0, 64⟩)], sampleBinding "Light" 1 16 []]
    DistinctSlots first ∧ DistinctSlots second ∧ DistinctSlots third ∧
      layoutKeyBytes first = layoutKeyBytes second ∧
      (SetLayout.ofBindings 0 first).key = (SetLayout.ofBindings 0 second).key ∧
      layoutKeyBytes first ≠ layoutKeyBytes third := by
  intro first second third
  have hFirst : DistinctSlots first := by unfold DistinctSlots; decide
  have hSecond : DistinctSlots second := by unfold DistinctSlots; decide
  have hThird : DistinctSlots third := by unfold DistinctSlots; decide
  have hSame : SameContent first second := by unfold SameContent; decide
  have hOther : ¬ SameContent first third := by unfold SameContent; decide
  obtain ⟨hBytes, hKeys, -⟩ := layoutKeyBytes_eq_iff hFirst hSecond
  refine ⟨hFirst, hSecond, hThird, hBytes.mpr hSame, ((hKeys second hSame).2 0 0).symm, ?_⟩
  intro hEqual
  exact hOther ((layoutKeyBytes_eq_iff hFirst hThird).1.mp hEqual)

end RenderLoop
