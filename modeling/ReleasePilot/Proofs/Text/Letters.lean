import ReleasePilot.Text.Blank
import ReleasePilot.Text.Folding

/-!
# Letters and digits by their code points

The classes of characters that versions are read with, as ranges of code
points. Whether classes meet, and what changing the case does to them, is then a
matter of comparing numbers.
-/

namespace ReleasePilot.Text

theorem isDigit_iff {character : Char} :
    character.isDigit = true ↔ 48 ≤ character.toNat ∧ character.toNat ≤ 57 :=
  Char.isDigit_iff_toNat

theorem isUpper_iff {character : Char} :
    character.isUpper = true ↔ 65 ≤ character.toNat ∧ character.toNat ≤ 90 := by
  change decide ('A'.val ≤ character.val ∧ character.val ≤ 'Z'.val) = true ↔ _
  rw [decide_eq_true_iff]
  exact and_congr UInt32.le_iff_toNat_le UInt32.le_iff_toNat_le

theorem isLower_iff {character : Char} :
    character.isLower = true ↔ 97 ≤ character.toNat ∧ character.toNat ≤ 122 := by
  change (decide ('a'.val ≤ character.val) && decide (character.val ≤ 'z'.val)) = true ↔ _
  rw [Bool.and_eq_true, decide_eq_true_iff, decide_eq_true_iff]
  exact and_congr UInt32.le_iff_toNat_le UInt32.le_iff_toNat_le

theorem isBlank_eq_false_of_isDigit {digit : Char} (isDigit : digit.isDigit = true) :
    isBlank digit = false := by
  have code := isDigit_iff.1 isDigit
  simp only [isBlank, Bool.or_eq_false_iff, Bool.and_eq_false_iff, decide_eq_false_iff_not,
    beq_eq_false_iff_ne]
  omega

/-- Capitals move by 32 code points, all other characters stay. -/
theorem toNat_toLower (character : Char) :
    character.toLower.toNat =
      if 65 ≤ character.toNat ∧ character.toNat ≤ 90 then character.toNat + 32
      else character.toNat := by
  have bounds : (character.val ≥ 'A'.val ∧ character.val ≤ 'Z'.val) ↔
      65 ≤ character.toNat ∧ character.toNat ≤ 90 := by
    simp [UInt32.le_iff_toNat_le]
  unfold Char.toLower
  by_cases upper : character.val ≥ 'A'.val ∧ character.val ≤ 'Z'.val
  · rw [if_pos (bounds.1 upper)]
    simp only [upper, and_self, ↓reduceDIte]
    have := bounds.1 upper
    change (character.val + 32).toNat = _
    rw [UInt32.toNat_add]
    change (character.toNat + 32) % 2 ^ 32 = _
    omega
  · rw [if_neg (mt bounds.2 upper)]
    simp only [upper, ↓reduceDIte]

theorem ext_toNat {first second : Char} (same : first.toNat = second.toNat) : first = second :=
  Char.ext (UInt32.toNat_inj.1 same)

/-- A small letter is what itself and its capital are in small letters. -/
theorem toLower_eq_iff {character capital small : Char} (isUpper : capital.isUpper = true)
    (codes : small.toNat = capital.toNat + 32) :
    character.toLower = small ↔ character = capital ∨ character = small := by
  have range := isUpper_iff.1 isUpper
  have lower := toNat_toLower character
  constructor
  · rintro rfl
    split at lower
    · exact .inl (ext_toNat (by omega))
    · exact .inr (ext_toNat lower.symm)
  · rintro (rfl | rfl)
    · rw [if_pos range] at lower
      exact ext_toNat (lower.trans codes.symm)
    · rw [if_neg (by omega)] at lower
      exact ext_toNat lower

end ReleasePilot.Text
