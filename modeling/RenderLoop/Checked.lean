/-!
# RenderLoop — arithmetic that notices overflow

Sums of words, and products of 32-bit words, that answer `none` when the exact
result does not fit. So an answer is always the result in unbounded numbers
(`add32_eq_some_iff` and its companions).
-/

namespace RenderLoop.Checked

/-- A natural number as a 32-bit word, if it fits. -/
def word (n : Nat) : Option UInt32 := if n < UInt32.size then some (UInt32.ofNat n) else none

/-- A natural number as a 64-bit word, if it fits. -/
def longWord (n : Nat) : Option UInt64 := if n < UInt64.size then some (UInt64.ofNat n) else none

/-- The word of a number is the one with that value. -/
theorem word_eq_some_iff {n : Nat} {w : UInt32} : word n = some w ↔ w.toNat = n := by
  have hw := w.toNat_lt
  unfold word
  split
  · rename_i hn
    rw [Option.some.injEq, ← UInt32.toNat_inj, UInt32.toNat_ofNat_of_lt' hn]
    exact eq_comm
  · rename_i hn
    constructor
    · intro h
      cases h
    · intro h
      -- a word is always below the size, and the number is not
      exact absurd (h ▸ hw) hn

/-- The long word of a number is the one with that value. -/
theorem longWord_eq_some_iff {n : Nat} {w : UInt64} : longWord n = some w ↔ w.toNat = n := by
  have hw := w.toNat_lt
  unfold longWord
  split
  · rename_i hn
    rw [Option.some.injEq, ← UInt64.toNat_inj, UInt64.toNat_ofNat_of_lt' hn]
    exact eq_comm
  · rename_i hn
    constructor
    · intro h
      cases h
    · intro h
      exact absurd (h ▸ hw) hn

def add32 (a b : UInt32) : Option UInt32 := word (a.toNat + b.toNat)

def mul32 (a b : UInt32) : Option UInt32 := word (a.toNat * b.toNat)

def add64 (a b : UInt64) : Option UInt64 := longWord (a.toNat + b.toNat)

/-- A sum of words is the exact one. -/
theorem add32_eq_some_iff {a b c : UInt32} :
    add32 a b = some c ↔ c.toNat = a.toNat + b.toNat := word_eq_some_iff

/-- A product of words is the exact one. -/
theorem mul32_eq_some_iff {a b c : UInt32} :
    mul32 a b = some c ↔ c.toNat = a.toNat * b.toNat := word_eq_some_iff

/-- A sum of long words is the exact one. -/
theorem add64_eq_some_iff {a b c : UInt64} :
    add64 a b = some c ↔ c.toNat = a.toNat + b.toNat := longWord_eq_some_iff

/-- Clamps a word into an interval; there is no answer when the interval is empty. -/
def clamp32 (value low high : UInt32) : Option UInt32 :=
  if low ≤ high then some (if value < low then low else if high < value then high else value)
  else none

end RenderLoop.Checked
