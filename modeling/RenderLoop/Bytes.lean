/-!
# RenderLoop — words as bytes

Words are stored with their least significant byte first. Nothing is lost on the
way from words to bytes and back (`wordsOfBytes_bytesOfWords`), nor on the way from
whole words of bytes to words and back (`bytesOfWords_wordsOfBytes`). Bytes are
shown as lowercase hexadecimal digits.
-/

namespace RenderLoop

/-- The natural number whose bytes are given, least significant first. -/
def natOfBytes : List UInt8 → Nat
  | [] => 0
  | b :: rest => b.toNat + 256 * natOfBytes rest

/-- The four bytes of a word, least significant first. -/
def littleEndian (w : UInt32) : List UInt8 :=
  [UInt8.ofNat w.toNat, UInt8.ofNat (w.toNat / 256), UInt8.ofNat (w.toNat / 65536),
    UInt8.ofNat (w.toNat / 16777216)]

/-- The word whose four bytes are given, least significant first. -/
def wordOfBytes (a b c d : UInt8) : UInt32 := UInt32.ofNat (natOfBytes [a, b, c, d])

/-- The bytes of a list of words, in order. -/
def bytesOfWords (ws : List UInt32) : List UInt8 := ws.flatMap littleEndian

/-- The words made of consecutive groups of four bytes; an incomplete last group is left out. -/
def wordsOfBytes : List UInt8 → List UInt32
  | a :: b :: c :: d :: rest => wordOfBytes a b c d :: wordsOfBytes rest
  | _ => []

/-- Four bytes always fit into a word. -/
theorem toNat_wordOfBytes (a b c d : UInt8) :
    (wordOfBytes a b c d).toNat = natOfBytes [a, b, c, d] := by
  have ha := a.toNat_lt
  have hb := b.toNat_lt
  have hc := c.toNat_lt
  have hd := d.toNat_lt
  refine UInt32.toNat_ofNat_of_lt' ?_
  -- four digits to the base 256
  show natOfBytes [a, b, c, d] < 4294967296
  simp only [natOfBytes]
  omega

/-- The bytes of a word make up that word. -/
theorem natOfBytes_littleEndian (w : UInt32) : natOfBytes (littleEndian w) = w.toNat := by
  have hw := w.toNat_lt
  simp only [littleEndian, natOfBytes, UInt8.toNat_ofNat']
  omega

/-- The bytes of a word that was made of bytes are those bytes. -/
theorem littleEndian_wordOfBytes (a b c d : UInt8) :
    littleEndian (wordOfBytes a b c d) = [a, b, c, d] := by
  have ha := a.toNat_lt
  have hb := b.toNat_lt
  have hc := c.toNat_lt
  have hd := d.toNat_lt
  simp only [littleEndian, toNat_wordOfBytes, natOfBytes, List.cons.injEq, and_true,
    ← UInt8.toNat_inj, UInt8.toNat_ofNat']
  omega

/-- A word takes four bytes. -/
theorem length_bytesOfWords (ws : List UInt32) : (bytesOfWords ws).length = 4 * ws.length := by
  induction ws with
  | nil => rfl
  | cons w ws ih =>
    simp only [bytesOfWords, List.flatMap_cons, List.length_append] at ih ⊢
    simp only [littleEndian, List.length_cons, List.length_nil]
    omega

/-- Words come back from their bytes. -/
theorem wordsOfBytes_bytesOfWords (ws : List UInt32) : wordsOfBytes (bytesOfWords ws) = ws := by
  induction ws with
  | nil => rfl
  | cons w ws ih =>
    show wordOfBytes _ _ _ _ :: wordsOfBytes (bytesOfWords ws) = w :: ws
    rw [ih, List.cons.injEq, ← UInt32.toNat_inj, toNat_wordOfBytes]
    exact ⟨natOfBytes_littleEndian w, rfl⟩

/-- Bytes come back from their words if there are no bytes left over. -/
theorem bytesOfWords_wordsOfBytes {bs : List UInt8} (h : bs.length % 4 = 0) :
    bytesOfWords (wordsOfBytes bs) = bs := by
  fun_induction wordsOfBytes bs with
  | case1 a b c d rest ih =>
    -- the induction follows the groups of four; what is left after one has again no rest
    have hrest : rest.length % 4 = 0 := by
      simp only [List.length_cons] at h
      omega
    show littleEndian (wordOfBytes a b c d) ++ bytesOfWords (wordsOfBytes rest) = _
    rw [littleEndian_wordOfBytes, ih hrest]
    rfl
  | case2 bs hshort =>
    -- fewer than four bytes are none at all, since nothing is left over
    match bs, h with
    | [], _ => rfl
    | [_], h | [_, _], h | [_, _, _], h => simp at h
    | a :: b :: c :: d :: rest, _ => exact (hshort a b c d rest rfl).elim

/-- A number in lowercase hexadecimal digits, at least `width` of them. -/
def hexadecimal (width n : Nat) : String :=
  let digits := Nat.toDigits 16 n
  String.ofList (List.replicate (width - digits.length) '0' ++ digits)

/-- Bytes in hexadecimal digits, two each. -/
def hexBytes (bytes : List UInt8) : String :=
  String.join (bytes.map fun b => hexadecimal 2 b.toNat)

/-- The value of a hexadecimal digit. -/
def hexDigit? (c : Char) : Option Nat :=
  "0123456789abcdef".toList.findIdx? (· == c.toLower)

/-- The bytes that pairs of hexadecimal digits stand for. -/
def bytesOfDigits : List Char → Option (List UInt8)
  | [] => some []
  | [_] => none
  | a :: b :: rest => do
    let high ← hexDigit? a
    let low ← hexDigit? b
    return UInt8.ofNat (16 * high + low) :: (← bytesOfDigits rest)

/-- The bytes that a text of hexadecimal digits stands for. -/
def bytesOfHex? (s : String) : Option (List UInt8) := bytesOfDigits s.toList

end RenderLoop
