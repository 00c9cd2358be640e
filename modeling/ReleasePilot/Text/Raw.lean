import ReleasePilot.Text.Utf8

/-!
# Raw texts

Programs pass each other bytes that need not be the UTF-8 form of a text. A raw
text holds any bytes, one character for each; `RawText.bytes_ofBytes` says that
none is lost. Names and arguments of programs are raw texts.
-/

namespace ReleasePilot

/-- A text with one character for each byte, the one with the number of the byte. -/
abbrev RawText := String

namespace RawText

/-- The character that stands for a byte. -/
def character (byte : UInt8) : Char :=
  Char.ofNat byte.toNat

/-- The byte that a character stands for. -/
def byte (character : Char) : UInt8 :=
  character.toNat.toUInt8

theorem byte_character (value : UInt8) : byte (character value) = value := by
  have small : value.toNat < 256 := value.toNat_lt
  have valid : value.toNat.isValidChar := Or.inl (by omega)
  have number : (character value).toNat = value.toNat := by
    unfold character Char.ofNat
    rw [dif_pos valid]
    rfl
  simp [byte, number]

/-- The raw text of some bytes. -/
def ofBytes (bytes : ByteArray) : RawText :=
  String.ofList (bytes.data.toList.map character)

/-- The bytes of a raw text. -/
def bytes (raw : RawText) : ByteArray :=
  ⟨(raw.toList.map byte).toArray⟩

/-- Every sequence of bytes can be read back from its raw text. -/
theorem bytes_ofBytes (value : ByteArray) : bytes (ofBytes value) = value := by
  simp [bytes, ofBytes, Function.comp_def, byte_character]

/-- The raw text of the UTF-8 form of a text. -/
def ofText (text : String) : RawText :=
  ofBytes text.toUTF8

/-- The text whose UTF-8 form a raw text holds, as far as it holds one. -/
def toText (raw : RawText) : String :=
  Text.decodeLossy (bytes raw)

end RawText

end ReleasePilot
