import RenderLoop.Hash
import RenderLoop.Error

/-!
# RenderLoop — shader binaries

A compiled stage is a list of words, the first of which marks it as a module. In
a file the words are stored with their least significant byte first
(`ShaderCode.ofBytes?`). The content of a module is recognised by its hash.
-/

namespace RenderLoop

/-- A compiled stage. -/
abbrev ShaderCode := List UInt32

namespace ShaderCode

/-- The first word of every module. -/
def magic : UInt32 := 0x07230203

/-- The hash of the words as bytes. -/
def hash (code : ShaderCode) : UInt64 := Hash.ofBytes (bytesOfWords code)

/-- Reads a binary file. Its size has to be a multiple of four above zero, and its first word the
mark of a module. -/
def ofBytes (bytes : List UInt8) : Except RenderError ShaderCode :=
  if bytes.length = 0 ∨ bytes.length % 4 ≠ 0 then
    .error (.invalidResource ("SPIR-V binary size must be a non-zero multiple of 4, " ++
      s!"got {bytes.length} bytes"))
  else
    let words := wordsOfBytes bytes
    if words.head? = some magic then .ok words
    else .error (.invalidResource
      s!"Bad SPIR-V magic number 0x{hexadecimal 8 (words.headD 0).toNat}")

end ShaderCode

end RenderLoop
