/-!
# Texts as bytes

A text is passed on as the bytes of its characters, one after the other (`utf8_cons`),
and read back from them (`fromUTF8?_utf8`). No character but a newline has the byte of a
newline among its own (`newline_not_mem_utf8EncodeChar`), so that bytes can be cut into
lines before they are read.
-/

namespace ReleasePilot.Text

/-- The bytes of a text. -/
def utf8 (text : List Char) : List UInt8 :=
  (String.ofList text).toUTF8.data.toList

theorem utf8_eq_flatMap (text : List Char) : utf8 text = text.flatMap String.utf8EncodeChar := by
  rw [utf8, String.toUTF8_eq_toByteArray, String.toByteArray_ofList, List.utf8Encode,
    List.toList_data_toByteArray]

@[simp] theorem utf8_nil : utf8 [] = [] :=
  rfl

theorem utf8_cons (character : Char) (text : List Char) :
    utf8 (character :: text) = String.utf8EncodeChar character ++ utf8 text := by
  rw [utf8_eq_flatMap, utf8_eq_flatMap, List.flatMap_cons]

theorem utf8_eq_nil_iff {text : List Char} : utf8 text = [] ↔ text = [] := by
  rw [utf8_eq_flatMap, List.flatMap_eq_nil_iff]
  constructor
  · intro nothing
    exact List.eq_nil_iff_forall_not_mem.2 fun character member =>
      String.utf8EncodeChar_ne_nil (nothing character member)
  · rintro rfl
    exact nofun

/-- The text of bytes that a text was written as. -/
theorem fromUTF8?_toUTF8 (text : String) : String.fromUTF8? text.toUTF8 = some text := by
  unfold String.fromUTF8?
  rw [dif_pos (by simpa using text.isValidUTF8)]
  rfl

theorem fromUTF8?_utf8 (text : List Char) :
    String.fromUTF8? ⟨(utf8 text).toArray⟩ = some (String.ofList text) := by
  rw [utf8, Array.toArray_toList]
  exact fromUTF8?_toUTF8 (String.ofList text)

/-- A character has the byte of its code point alone, or no byte below 128. -/
theorem newline_not_mem_utf8EncodeChar {character : Char} (other : character ≠ '\n') :
    10 ∉ String.utf8EncodeChar character := by
  have code : character.val.toNat ≠ 10 := fun same => other (Char.ext (UInt32.toNat_inj.1 same))
  intro member
  simp only [String.utf8EncodeChar] at member
  split at member
  case isTrue small =>
    have byte := congrArg UInt8.toNat (List.mem_singleton.1 member)
    rw [UInt8.toNat_ofNat', Nat.mod_eq_of_lt (by omega)] at byte
    exact code byte.symm
  case isFalse =>
    have large (number offset : Nat) (bounded : number < 128) (high : 128 ≤ offset)
        (fits : number + offset < 256) : 10 ≠ UInt8.ofNat (number + offset) := by
      intro byte
      have same := congrArg UInt8.toNat byte
      rw [UInt8.toNat_ofNat', Nat.mod_eq_of_lt fits] at same
      change 10 = number + offset at same
      omega
    grind

end ReleasePilot.Text
