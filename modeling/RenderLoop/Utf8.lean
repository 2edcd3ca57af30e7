/-!
# RenderLoop — text from bytes

Reads bytes as UTF-8 whatever they are. Where the bytes are not well formed, the
longest run that could still have begun a character is replaced by one
**replacement character**, and reading goes on behind it.
-/

namespace RenderLoop.Utf8

/-- Stands for bytes that are no character. -/
def replacement : Char := '\uFFFD'

/-- What has to follow a lead byte. -/
structure Lead where
  /-- The number of bytes that follow. -/
  following : Nat
  /-- The bounds of the first byte that follows. -/
  low : UInt8 := 0x80
  high : UInt8 := 0xbf
  deriving DecidableEq, Repr

/-- What has to follow a byte that begins a character of more than one byte. Overlong forms,
surrogates and numbers beyond the last character are kept out by the bounds. -/
def lead? (b : UInt8) : Option Lead :=
  if 0xc2 ≤ b ∧ b ≤ 0xdf then some { following := 1 }
  else if b = 0xe0 then some { following := 2, low := 0xa0 }
  else if b = 0xed then some { following := 2, high := 0x9f }
  else if 0xe1 ≤ b ∧ b ≤ 0xef then some { following := 2 }
  else if b = 0xf0 then some { following := 3, low := 0x90 }
  else if b = 0xf4 then some { following := 3, high := 0x8f }
  else if 0xf1 ≤ b ∧ b ≤ 0xf3 then some { following := 3 }
  else none

/-- Whether a byte continues a character. -/
def continues (b : UInt8) : Bool := b &&& 0xc0 == 0x80

/-- The bytes that can follow a lead byte, as far as they go. -/
def Lead.run (l : Lead) : List UInt8 → List UInt8
  | [] => []
  | b :: rest =>
    if l.low ≤ b ∧ b ≤ l.high then b :: (rest.take (l.following - 1)).takeWhile continues else []

/-- The character of a lead byte and the bytes that follow it. -/
def Lead.char (l : Lead) (b : UInt8) (run : List UInt8) : Char :=
  let top := b.toNat % (1 <<< (6 - l.following))
  Char.ofNat (run.foldl (fun n c => 64 * n + c.toNat % 64) top)

/-- The character at a byte, and how many of the bytes behind it belong to it. -/
def first (b : UInt8) (rest : List UInt8) : Char × Nat :=
  if b < 0x80 then (Char.ofNat b.toNat, 0)
  else match lead? b with
    | none => (replacement, 0)
    | some l =>
      let run := l.run rest
      if run.length = l.following then (l.char b run, run.length) else (replacement, run.length)

/-- The characters of a list of bytes. -/
def decode : List UInt8 → List Char
  | [] => []
  | b :: rest => (first b rest).1 :: decode (rest.drop (first b rest).2)
termination_by bs => bs.length
decreasing_by simp only [List.length_drop, List.length_cons]; omega

/-- Bytes as text. -/
def text (bytes : List UInt8) : String := String.ofList (decode bytes)

/-- The bytes before the first zero, as text. -/
def terminated (bytes : List UInt8) : String := text (bytes.takeWhile (· ≠ 0))

end RenderLoop.Utf8
