import RenderLoop.Shader.Binary

/-!
# RenderLoop — which files are shader binaries

A file is a shader binary if it holds the words of a **module** and nothing else, each
word with its least significant byte first. Reading it gives that module and no other
(`ofBytes_ok_iff`), so nothing is lost in either direction. Every other file is refused
for one of two reasons (`Refusal`): it is not made of whole words, or it is and the first
one is not the mark. The word that is named then is one that the file has.
-/

namespace RenderLoop

namespace ShaderCode

variable {bytes : List UInt8} {code : ShaderCode} {e : RenderError}

/-- A list of words is a module if the first one is the mark of modules. -/
def IsModule (code : ShaderCode) : Prop := code.head? = some magic

/-- Bytes are refused with a cause. -/
inductive Refusal (bytes : List UInt8) : RenderError → Prop
  /-- There are no bytes, or they are not whole words. -/
  | size (hSize : bytes = [] ∨ bytes.length % 4 ≠ 0) :
    Refusal bytes (.invalidResource ("SPIR-V binary size must be a non-zero multiple of 4, " ++
      s!"got {bytes.length} bytes"))
  /-- The first word is another one than the mark. -/
  | mark {w : UInt32} {rest : List UInt32} (hBytes : bytes = bytesOfWords (w :: rest))
    (hMark : w ≠ magic) :
    Refusal bytes (.invalidResource s!"Bad SPIR-V magic number 0x{hexadecimal 8 w.toNat}")

/-- Bytes that are not whole words are refused for their number. -/
theorem ofBytes_of_size (hSize : bytes = [] ∨ bytes.length % 4 ≠ 0) :
    ofBytes bytes = .error (.invalidResource
      ("SPIR-V binary size must be a non-zero multiple of 4, " ++ s!"got {bytes.length} bytes")) := by
  rw [← List.length_eq_zero_iff] at hSize
  rw [ofBytes, if_pos hSize]

/-- For whole words the first one decides. -/
theorem ofBytes_bytesOfWords (w : UInt32) (rest : List UInt32) :
    ofBytes (bytesOfWords (w :: rest)) = if w = magic then .ok (w :: rest) else
      .error (.invalidResource s!"Bad SPIR-V magic number 0x{hexadecimal 8 w.toNat}") := by
  have hLength : (bytesOfWords (w :: rest)).length = 4 * (rest.length + 1) := length_bytesOfWords _
  have hWhole : ¬ ((bytesOfWords (w :: rest)).length = 0 ∨
      (bytesOfWords (w :: rest)).length % 4 ≠ 0) := by
    omega
  rw [ofBytes, if_neg hWhole, wordsOfBytes_bytesOfWords]
  simp only [List.head?_cons, Option.some.injEq, List.headD_cons]

/-- Bytes of the right number are words. -/
theorem exists_words (hSize : ¬ (bytes = [] ∨ bytes.length % 4 ≠ 0)) :
    ∃ w rest, bytes = bytesOfWords (w :: rest) := by
  rw [not_or, Decidable.not_not] at hSize
  obtain ⟨hSome, hWhole⟩ := hSize
  have hBytes : bytesOfWords (wordsOfBytes bytes) = bytes := bytesOfWords_wordsOfBytes hWhole
  cases hWords : wordsOfBytes bytes with
  | nil =>
    rw [hWords] at hBytes
    exact absurd hBytes.symm hSome
  | cons w rest => exact ⟨w, rest, by rw [← hWords, hBytes]⟩

/-- What is read are the bytes of a module. -/
theorem ofBytes_ok_iff : ofBytes bytes = .ok code ↔ code.IsModule ∧ bytes = bytesOfWords code := by
  constructor
  · intro hRead
    by_cases hSize : bytes = [] ∨ bytes.length % 4 ≠ 0
    · rw [ofBytes_of_size hSize] at hRead
      cases hRead
    · -- bytes of such a size are those of some words, of which the first is looked at
      obtain ⟨w, rest, rfl⟩ := exists_words hSize
      rw [ofBytes_bytesOfWords] at hRead
      split at hRead
      · rename_i hMark
        cases hRead
        exact ⟨congrArg some hMark, rfl⟩
      · cases hRead
  · rintro ⟨hModule, rfl⟩
    obtain ⟨rest, rfl⟩ := List.head?_eq_some_iff.mp hModule
    rw [ofBytes_bytesOfWords, if_pos rfl]

/-- All other bytes are refused. -/
theorem ofBytes_error_iff : ofBytes bytes = .error e ↔ Refusal bytes e := by
  constructor
  · intro hRefused
    by_cases hSize : bytes = [] ∨ bytes.length % 4 ≠ 0
    · rw [ofBytes_of_size hSize] at hRefused
      cases hRefused
      exact .size hSize
    · -- with whole words there is one reason left, the first of them
      obtain ⟨w, rest, rfl⟩ := exists_words hSize
      rw [ofBytes_bytesOfWords] at hRefused
      split at hRefused
      · cases hRefused
      · rename_i hMark
        cases hRefused
        exact .mark rfl hMark
  · intro hRefusal
    cases hRefusal with
    | size hSize => exact ofBytes_of_size hSize
    | mark hBytes hMark => rw [hBytes, ofBytes_bytesOfWords, if_neg hMark]

/-- **Shader binaries are the bytes of modules.** Bytes are read exactly if they are those of a
module, and that module is what is read: modules come back from their bytes, and bytes that are read
come back from what was read. All other bytes are refused as an invalid resource, for their number or
for the first word that they have. -/
theorem ofBytes_exact (bytes : List UInt8) :
    (∀ code, ofBytes bytes = .ok code ↔ code.IsModule ∧ bytes = bytesOfWords code) ∧
      (∀ e, ofBytes bytes = .error e ↔ Refusal bytes e) ∧
      (∀ code, IsModule code → ofBytes (bytesOfWords code) = .ok code) ∧
      (∀ code, ofBytes bytes = .ok code → bytesOfWords code = bytes) ∧
      ((¬ ∃ code, IsModule code ∧ bytes = bytesOfWords code) →
        ∃ text, ofBytes bytes = .error (.invalidResource text)) := by
  refine ⟨fun _ => ofBytes_ok_iff, fun _ => ofBytes_error_iff,
    fun _ hModule => ofBytes_ok_iff.mpr ⟨hModule, rfl⟩,
    fun _ hRead => (ofBytes_ok_iff.mp hRead).2.symm, fun hOther => ?_⟩
  cases hRead : ofBytes bytes with
  | ok code => exact absurd ⟨code, ofBytes_ok_iff.mp hRead⟩ hOther
  | error e =>
    obtain ⟨⟩ | ⟨⟩ := ofBytes_error_iff.mp hRead
    · exact ⟨_, rfl⟩
    · exact ⟨_, rfl⟩

/-- A mark with its most significant byte first is another word. -/
example : ofBytes (littleEndian magic).reverse =
    .error (.invalidResource "Bad SPIR-V magic number 0x03022307") := by
  cbv

end ShaderCode

end RenderLoop
