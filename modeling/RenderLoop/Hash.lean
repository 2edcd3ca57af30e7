import RenderLoop.Bytes

/-!
# RenderLoop — the content hash

Keys are 64-bit words computed by a **multiply and rotate** hash. Its state is
one word, which starts at zero. Adding a word `i` to the state `h` gives
`(h + i) * multiplier`, all arithmetic modulo `2 ^ 64`; reading the hash off
rotates the state left by 26 bits. A list of bytes is condensed to one word
first (`Hash.condense`): the bytes are consumed in pairs of 64-bit words that
are mixed into two running words by a full 128-bit product whose halves are
combined.
-/

namespace RenderLoop

/-- The state of the hash. -/
structure Hash where
  state : UInt64 := 0
  deriving DecidableEq, Repr, Inhabited

namespace Hash

/-- The factor applied with every word added. -/
def multiplier : UInt64 := 0xf1357aea2e62a9c5

/-- Adds a word. -/
def add (h : Hash) (i : UInt64) : Hash := ⟨(h.state + i) * multiplier⟩

/-- Adds a word given as a natural number. -/
def addNat (h : Hash) (n : Nat) : Hash := h.add (UInt64.ofNat n)

/-- Adds a truth value, as 0 or 1. -/
def addBool (h : Hash) (b : Bool) : Hash := h.addNat b.toNat

/-- The key: the state rotated left by 26 bits. -/
def finish (h : Hash) : UInt64 := (h.state <<< 26) ||| (h.state >>> 38)

-- ---------------------------------------------------------------------------
-- Condensing bytes
-- ---------------------------------------------------------------------------

/-- Multiplies two words exactly and combines the halves of the product. -/
def fold (x y : UInt64) : UInt64 :=
  let product := x.toNat * y.toNat
  UInt64.ofNat (product % UInt64.size) ^^^ UInt64.ofNat (product / UInt64.size)

/-- The starting value of the first running word. -/
def seed0 : UInt64 := 0x243f6a8885a308d3

/-- The starting value of the second running word. -/
def seed1 : UInt64 := 0x13198a2e03707344

/-- The word that keeps a zero input from cancelling a product. -/
def guardWord : UInt64 := 0xa4093822299f31d0

/-- The word at a position of a byte list, least significant byte first. -/
def wordAt (bytes : List UInt8) (offset width : Nat) : UInt64 :=
  UInt64.ofNat (natOfBytes ((bytes.drop offset).take width))

/-- Mixes the leading 16-byte groups into the running words, as long as more than 16 bytes remain.
`count` bounds the number of groups. -/
def mixGroups : Nat → List UInt8 → UInt64 × UInt64 → UInt64 × UInt64
  | 0, _, s => s
  | count + 1, bytes, (s0, s1) =>
    mixGroups count (bytes.drop 16)
      (s1, fold (s0 ^^^ wordAt bytes 0 8) (guardWord ^^^ wordAt bytes 8 8))

/-- The running words after all bytes. -/
def mixed (bytes : List UInt8) : UInt64 × UInt64 :=
  let n := bytes.length
  if n > 16 then
    let (s0, s1) := mixGroups ((n - 1) / 16) bytes (seed0, seed1)
    (s0 ^^^ wordAt bytes (n - 16) 8, s1 ^^^ wordAt bytes (n - 8) 8)
  else if n ≥ 8 then (seed0 ^^^ wordAt bytes 0 8, seed1 ^^^ wordAt bytes (n - 8) 8)
  else if n ≥ 4 then (seed0 ^^^ wordAt bytes 0 4, seed1 ^^^ wordAt bytes (n - 4) 4)
  else if n > 0 then
    (seed0 ^^^ wordAt bytes 0 1,
      seed1 ^^^ ((wordAt bytes (n - 1) 1 <<< 8) ||| wordAt bytes (n / 2) 1))
  else (seed0, seed1)

/-- One word that stands for a list of bytes. -/
def condense (bytes : List UInt8) : UInt64 :=
  let (s0, s1) := mixed bytes
  fold s0 s1 ^^^ UInt64.ofNat bytes.length

/-- Adds a list of bytes. -/
def addBytes (h : Hash) (bytes : List UInt8) : Hash := h.add (condense bytes)

/-- The key of a list of bytes alone. -/
def ofBytes (bytes : List UInt8) : UInt64 := (({} : Hash).addBytes bytes).finish

end Hash

/-- A key in sixteen hexadecimal digits. -/
def keyText (key : UInt64) : String := hexadecimal 16 key.toNat

end RenderLoop
