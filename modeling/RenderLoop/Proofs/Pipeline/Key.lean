import Mathlib.Data.UInt
import Mathlib.Tactic.LinearCombination
import Mathlib.Tactic.Ring
import RenderLoop.Pipeline.Registry

/-!
# RenderLoop — pipeline keys do not collide

A pipeline key is a hash, but of little: eight words of a few values each and two
generations. For the states of one program and one render pass it is no hash but an
**injection** (`of_injective`). And where only one of the generations differs, the keys
differ, for one state in any two generations (`of_program_injective`,
`of_pass_injective`) and for any two states in neighbouring ones (`of_succ_program_ne`,
`of_succ_pass_ne`): what a reload or a new pass asks for is never found among what was
built just before.

All arithmetic is that of the ring of 64-bit words. There the hash is linear, so a
collision of two states is a combination of **differences** of words that vanishes.
The eight fields make two halves, and a factor is chosen (`spread`) that brings all
differences of the last four fields near zero, and none of the first four except zero
itself (`front_far`, `back_near`). So the halves cannot cancel. Each half has
few enough differences that all of them are tried.
-/

namespace RenderLoop

open scoped UInt64.CommRing

-- ---------------------------------------------------------------------------
-- The hash is linear
-- ---------------------------------------------------------------------------

namespace Hash

/-- The word that takes a multiplication back. -/
def inverse : UInt64 := 0x781494a55daaed0d

theorem multiplier_mul_inverse : multiplier * inverse = 1 := by decide

/-- Multiplication by the multiplier is injective. -/
theorem mul_multiplier_inj {x y : UInt64} (h : x * multiplier = y * multiplier) : x = y := by
  linear_combination inverse * h - (x - y) * multiplier_mul_inverse

/-- Adding words loses nothing of the state. -/
theorem add_inj_left {h h' : Hash} {i : UInt64} (hAdd : h.add i = h'.add i) : h = h' := by
  obtain ⟨x⟩ := h
  obtain ⟨y⟩ := h'
  have hState : x + i = y + i := mul_multiplier_inj (Hash.mk.inj hAdd)
  rw [add_right_cancel hState]

/-- Adding words loses nothing of the word, for a given state. -/
theorem add_inj_right {h : Hash} {i j : UInt64} (hAdd : h.add i = h.add j) : i = j :=
  add_left_cancel (mul_multiplier_inj (Hash.mk.inj hAdd))

/-- The key as a number: the low 38 bits of the state go up, the others down. -/
theorem toNat_finish (h : Hash) :
    h.finish.toNat = h.state.toNat % 2 ^ 38 * 2 ^ 26 + h.state.toNat / 2 ^ 38 := by
  have hBound : h.state.toNat < 2 ^ 64 := h.state.toNat_lt
  have hHigh : h.state.toNat / 2 ^ 38 < 2 ^ 26 := by omega
  have hLow : h.state.toNat * 2 ^ 26 % 2 ^ 64 = h.state.toNat % 2 ^ 38 * 2 ^ 26 := by omega
  rw [finish, UInt64.toNat_or, UInt64.toNat_shiftLeft, UInt64.toNat_shiftRight]
  show h.state.toNat <<< 26 % 2 ^ 64 ||| h.state.toNat >>> 38 = _
  rw [Nat.shiftLeft_eq, Nat.shiftRight_eq_div_pow, hLow, ← Nat.shiftLeft_eq,
    ← Nat.shiftLeft_add_eq_or_of_lt hHigh, Nat.shiftLeft_eq]

/-- The key tells states of the hash apart. -/
theorem finish_inj {h h' : Hash} (hKey : h.finish = h'.finish) : h = h' := by
  obtain ⟨x⟩ := h
  obtain ⟨y⟩ := h'
  have hNat := congrArg UInt64.toNat hKey
  rw [toNat_finish, toNat_finish] at hNat
  have hx : x.toNat < 2 ^ 64 := x.toNat_lt
  have hy : y.toNat < 2 ^ 64 := y.toNat_lt
  -- a rotation: the high bits reappear as the low ones and the low ones above them
  have hHigh : x.toNat / 2 ^ 38 = y.toNat / 2 ^ 38 := by
    have hxHigh : x.toNat / 2 ^ 38 < 2 ^ 26 := by omega
    have hyHigh : y.toNat / 2 ^ 38 < 2 ^ 26 := by omega
    simp only at hNat
    omega
  have hEq : x.toNat = y.toNat := by
    simp only at hNat
    omega
  rw [UInt64.toNat_inj.mp hEq]

end Hash

namespace PipelineKey

/-- What four words come to that are added to an empty hash. -/
def four (a b c d : UInt64) : UInt64 :=
  (((a * Hash.multiplier + b) * Hash.multiplier + c) * Hash.multiplier + d) * Hash.multiplier

/-- Four more words move a state on by that. -/
def onward : UInt64 :=
  Hash.multiplier * Hash.multiplier * Hash.multiplier * Hash.multiplier

theorem four_sub (a b c d a' b' c' d' : UInt64) :
    four a b c d - four a' b' c' d' = four (a - a') (b - b') (c - c') (d - d') := by
  simp only [four]
  ring

/-- The words of the first four fields. -/
def front (s : PipelineState) : UInt64 :=
  four (.ofNat s.topology.number) (.ofNat s.polygonMode.number) (.ofNat s.cullMode.number)
    (.ofNat s.frontFace.number)

/-- The words of the last four fields. -/
def back (s : PipelineState) : UInt64 :=
  four (.ofNat s.depthTest.toNat) (.ofNat s.depthWrite.toNat) (.ofNat s.depthCompare.number)
    (.ofNat s.blend.toNat)

theorem state_hashState (s : PipelineState) :
    (hashState {} s).state = front s * onward + back s := by
  simp only [hashState, front, back, onward, four, Hash.addNat, Hash.addBool, Hash.add]
  ring

-- ---------------------------------------------------------------------------
-- Differences of words
-- ---------------------------------------------------------------------------

/-- The differences of two numbers below a bound, as words. -/
def deltas (n : Nat) : List UInt64 :=
  (List.range (2 * n - 1)).map fun i => UInt64.ofNat i - UInt64.ofNat (n - 1)

/-- A way to number the values of a field below a bound. -/
structure Numbering (κ : Type) (number : κ → Nat) (n : Nat) : Prop where
  lt : ∀ x, number x < n
  inj : ∀ x y, number x = number y → x = y

namespace Numbering

variable {κ : Type} {number : κ → Nat} {n : Nat}

theorem sub_mem (h : Numbering κ number n) (x y : κ) :
    UInt64.ofNat (number x) - UInt64.ofNat (number y) ∈ deltas n := by
  have hx := h.lt x
  have hy := h.lt y
  rw [deltas, List.mem_map]
  refine ⟨number x + (n - 1 - number y), List.mem_range.mpr (by omega), ?_⟩
  rw [sub_eq_sub_iff_add_eq_add, ← UInt64.ofNat_add, ← UInt64.ofNat_add]
  congr 1
  omega

/-- Values with a difference of zero are equal. -/
theorem eq_of_sub (h : Numbering κ number n) (hn : n ≤ UInt64.size) {x y : κ}
    (hZero : UInt64.ofNat (number x) - UInt64.ofNat (number y) = 0) : x = y := by
  have hx := h.lt x
  have hy := h.lt y
  have hNat := congrArg UInt64.toNat (sub_eq_zero.mp hZero)
  rw [UInt64.toNat_ofNat_of_lt' (by omega), UInt64.toNat_ofNat_of_lt' (by omega)] at hNat
  exact h.inj x y hNat

end Numbering

theorem numbering_topology : Numbering Topology Topology.number 6 where
  lt x := by cases x <;> decide
  inj x y := by cases x <;> cases y <;> decide

theorem numbering_polygonMode : Numbering PolygonMode PolygonMode.number 3 where
  lt x := by cases x <;> decide
  inj x y := by cases x <;> cases y <;> decide

theorem numbering_cullMode : Numbering CullMode CullMode.number 4 where
  lt x := by cases x <;> decide
  inj x y := by cases x <;> cases y <;> decide

theorem numbering_frontFace : Numbering FrontFace FrontFace.number 2 where
  lt x := by cases x <;> decide
  inj x y := by cases x <;> cases y <;> decide

theorem numbering_compareOp : Numbering CompareOp CompareOp.number 8 where
  lt x := by cases x <;> decide
  inj x y := by cases x <;> cases y <;> decide

theorem numbering_bool : Numbering Bool Bool.toNat 2 where
  lt x := by cases x <;> decide
  inj x y := by cases x <;> cases y <;> decide

/-- The differences of the words of the first four fields. -/
theorem front_sub_mem (s s' : PipelineState) :
    ∃ t ∈ deltas 6, ∃ p ∈ deltas 3, ∃ c ∈ deltas 4, ∃ f ∈ deltas 2,
      front s - front s' = four t p c f ∧ (t = 0 ∧ p = 0 ∧ c = 0 ∧ f = 0 →
        s.topology = s'.topology ∧ s.polygonMode = s'.polygonMode ∧ s.cullMode = s'.cullMode ∧
          s.frontFace = s'.frontFace) := by
  refine ⟨_, numbering_topology.sub_mem s.topology s'.topology,
    _, numbering_polygonMode.sub_mem s.polygonMode s'.polygonMode,
    _, numbering_cullMode.sub_mem s.cullMode s'.cullMode,
    _, numbering_frontFace.sub_mem s.frontFace s'.frontFace, four_sub .., ?_⟩
  intro ⟨ht, hp, hc, hf⟩
  exact ⟨numbering_topology.eq_of_sub (by decide) ht,
    numbering_polygonMode.eq_of_sub (by decide) hp, numbering_cullMode.eq_of_sub (by decide) hc,
    numbering_frontFace.eq_of_sub (by decide) hf⟩

/-- The differences of the words of the last four fields. -/
theorem back_sub_mem (s s' : PipelineState) :
    ∃ t ∈ deltas 2, ∃ w ∈ deltas 2, ∃ c ∈ deltas 8, ∃ b ∈ deltas 2,
      back s - back s' = four t w c b ∧ (t = 0 ∧ w = 0 ∧ c = 0 ∧ b = 0 →
        s.depthTest = s'.depthTest ∧ s.depthWrite = s'.depthWrite ∧
          s.depthCompare = s'.depthCompare ∧ s.blend = s'.blend) := by
  refine ⟨_, numbering_bool.sub_mem s.depthTest s'.depthTest,
    _, numbering_bool.sub_mem s.depthWrite s'.depthWrite,
    _, numbering_compareOp.sub_mem s.depthCompare s'.depthCompare,
    _, numbering_bool.sub_mem s.blend s'.blend, four_sub .., ?_⟩
  intro ⟨ht, hw, hc, hb⟩
  exact ⟨numbering_bool.eq_of_sub (by decide) ht, numbering_bool.eq_of_sub (by decide) hw,
    numbering_compareOp.eq_of_sub (by decide) hc, numbering_bool.eq_of_sub (by decide) hb⟩

-- ---------------------------------------------------------------------------
-- All differences, tried
-- ---------------------------------------------------------------------------

/-- A word is near zero, counting from either side. -/
def Near (x : UInt64) : Prop := x + 0x20000000000000 ≤ 0x40000000000000

instance (x : UInt64) : Decidable (Near x) := inferInstanceAs (Decidable (_ ≤ _))

/-- A factor that brings differences of the last four fields near zero. -/
def spread : UInt64 := 0xc67f2ffb69dec159

/-- What a test of four words finds in all choices from four lists. The test is one of lists, for
there is a decision procedure for all words, too, which tries every word there is. -/
theorem forall_four {P : UInt64 → UInt64 → UInt64 → UInt64 → Prop}
    [∀ a b c d, Decidable (P a b c d)] {as bs cs ds : List UInt64}
    (h : (as.all fun a => bs.all fun b => cs.all fun c => ds.all fun d => P a b c d) = true) :
    ∀ a ∈ as, ∀ b ∈ bs, ∀ c ∈ cs, ∀ d ∈ ds, P a b c d := by
  simpa only [List.all_eq_true, decide_eq_true_eq] using h

/-- Scaled, the differences of the last four fields are near zero, and only that of equal fields is
zero. -/
theorem back_near : ∀ t ∈ deltas 2, ∀ w ∈ deltas 2, ∀ c ∈ deltas 8, ∀ b ∈ deltas 2,
    Near (spread * four t w c b) ∧ (four t w c b = 0 → t = 0 ∧ w = 0 ∧ c = 0 ∧ b = 0) :=
  forall_four (by decide +kernel)

/-- Scaled, a difference of the first four fields is near zero only if they are equal. -/
theorem front_far : ∀ t ∈ deltas 6, ∀ p ∈ deltas 3, ∀ c ∈ deltas 4, ∀ f ∈ deltas 2,
    Near (spread * (four t p c f * onward)) → t = 0 ∧ p = 0 ∧ c = 0 ∧ f = 0 :=
  forall_four (by decide +kernel)

/-- No difference of the first four fields moves another generation onto this one. -/
theorem front_far_of_generation {u : UInt64} (hu : u ∈ [1, Hash.inverse]) :
    ∀ t ∈ deltas 6, ∀ p ∈ deltas 3, ∀ c ∈ deltas 4, ∀ f ∈ deltas 2,
      ¬ Near (spread * (four t p c f * onward - u)) := by
  rcases List.mem_pair.mp hu with rfl | rfl
  · exact forall_four (by decide +kernel)
  · exact forall_four (by decide +kernel)

-- ---------------------------------------------------------------------------
-- States
-- ---------------------------------------------------------------------------

variable {s s' : PipelineState}

theorem back_sub_near (s s' : PipelineState) : Near (spread * (back s - back s')) := by
  obtain ⟨t, ht, w, hw, c, hc, b, hb, hSub, -⟩ := back_sub_mem s s'
  rw [hSub]
  exact (back_near t ht w hw c hc b hb).1

/-- What the first halves of two states differ by is near what the states differ by. -/
theorem front_sub_near {u : UInt64} (h : (hashState {} s).state - (hashState {} s').state = u) :
    Near (spread * ((front s - front s') * onward - u)) := by
  have hBack : (front s - front s') * onward - u = back s' - back s := by
    rw [state_hashState, state_hashState] at h
    linear_combination h
  rw [hBack]
  exact back_sub_near s' s

/-- **No two states have the same hash.** -/
theorem hashState_inj (h : hashState {} s = hashState {} s') : s = s' := by
  have hState : (hashState {} s).state - (hashState {} s').state = 0 :=
    sub_eq_zero.mpr (congrArg Hash.state h)
  have hNear := front_sub_near hState
  obtain ⟨t, ht, p, hp, c, hc, f, hf, hFront, hFields⟩ := front_sub_mem s s'
  rw [hFront, sub_zero] at hNear
  have hZero := front_far t ht p hp c hc f hf hNear
  obtain ⟨hTopology, hPolygon, hCull, hFace⟩ := hFields hZero
  -- the first halves are the same, so the second ones are
  have hSame : front s = front s' := by
    rw [front, front, hTopology, hPolygon, hCull, hFace]
  obtain ⟨t', ht', w, hw, c', hc', b, hb, hBack, hFields'⟩ := back_sub_mem s s'
  have hBackZero : four t' w c' b = 0 := by
    rw [← hBack]
    rw [state_hashState, state_hashState, hSame] at hState
    linear_combination hState
  obtain ⟨hTest, hWrite, hCompare, hBlend⟩ :=
    hFields' ((back_near t' ht' w hw c' hc' b hb).2 hBackZero)
  cases s
  cases s'
  simp only at hTopology hPolygon hCull hFace hTest hWrite hCompare hBlend
  simp only [hTopology, hPolygon, hCull, hFace, hTest, hWrite, hCompare, hBlend]

/-- Nor do the hashes of two states differ by what a step of a generation makes up for. -/
theorem state_sub_ne {u : UInt64} (hu : u ∈ [1, Hash.inverse]) :
    (hashState {} s).state - (hashState {} s').state ≠ u := by
  intro h
  have hNear := front_sub_near h
  obtain ⟨t, ht, p, hp, c, hc, f, hf, hFront, -⟩ := front_sub_mem s s'
  rw [hFront] at hNear
  exact front_far_of_generation hu t ht p hp c hc f hf hNear

-- ---------------------------------------------------------------------------
-- Keys
-- ---------------------------------------------------------------------------

variable {program program' pass pass' : UInt64}

theorem hash_eq_of_of_eq (h : PipelineKey.of s program pass = .of s' program' pass') :
    ((hashState {} s).add program).add pass = ((hashState {} s').add program').add pass' :=
  Hash.finish_inj (PipelineKey.mk.inj h)

/-- **Keys of one program and one pass tell states apart.** -/
theorem of_injective (program pass : UInt64) :
    Function.Injective fun s => PipelineKey.of s program pass := by
  intro s s' h
  exact hashState_inj (Hash.add_inj_left (Hash.add_inj_left (hash_eq_of_of_eq h)))

/-- Another generation of the program gives another key. -/
theorem of_program_injective (s : PipelineState) (pass : UInt64) :
    Function.Injective fun program => PipelineKey.of s program pass := by
  intro program program' h
  exact Hash.add_inj_right (Hash.add_inj_left (hash_eq_of_of_eq h))

/-- Another generation of the pass gives another key. -/
theorem of_pass_injective (s : PipelineState) (program : UInt64) :
    Function.Injective fun pass => PipelineKey.of s program pass := by
  intro pass pass' h
  exact Hash.add_inj_right (hash_eq_of_of_eq h)

/-- The next generation of the program gives keys that no state has had. -/
theorem of_succ_program_ne (s s' : PipelineState) (program pass : UInt64) :
    PipelineKey.of s (program + 1) pass ≠ .of s' program pass := by
  intro h
  have hSum := Hash.mul_multiplier_inj (Hash.mk.inj (Hash.add_inj_left (hash_eq_of_of_eq h)))
  have hSub : (hashState {} s').state - (hashState {} s).state = 1 := by
    linear_combination -hSum
  exact state_sub_ne (by decide) hSub

/-- The next generation of the pass gives keys that no state has had. -/
theorem of_succ_pass_ne (s s' : PipelineState) (program pass : UInt64) :
    PipelineKey.of s program (pass + 1) ≠ .of s' program pass := by
  intro h
  have hSum := Hash.mul_multiplier_inj (Hash.mk.inj (hash_eq_of_of_eq h))
  have hSub : (hashState {} s').state - (hashState {} s).state = Hash.inverse := by
    simp only [Hash.add] at hSum
    linear_combination -Hash.inverse * hSum -
      ((hashState {} s').state - (hashState {} s).state) * Hash.multiplier_mul_inverse
  exact state_sub_ne (by decide) hSub

end PipelineKey

end RenderLoop
