/-!
# Decimal numerals

Numbers are words of 64 bits. They are written without superfluous zeros and
read from any run of ASCII digits whose value fits the word.
-/

namespace ReleasePilot.Text

/-- The decimal digits of a word. -/
def numeral (number : UInt64) : List Char :=
  Nat.toDigits 10 number.toNat

/-- The word with a given value, if there is one. -/
def word? (value : Nat) : Option UInt64 :=
  if value < UInt64.size then some (UInt64.ofNat value) else none

/-- The word that a run of ASCII digits writes; the empty run writes zero. -/
def readNumeral? (digits : List Char) : Option UInt64 :=
  word? (Nat.ofDigitChars 10 digits 0)

/-- The next word; the largest has none. -/
def successor? (number : UInt64) : Option UInt64 :=
  word? (number.toNat + 1)

theorem word?_eq_some_iff {value : Nat} {number : UInt64} :
    word? value = some number ↔ number.toNat = value := by
  unfold word?
  constructor
  · intro found
    split at found
    · cases found
      rename_i fits
      simpa [UInt64.toNat_ofNat] using Nat.mod_eq_of_lt fits
    · cases found
  · rintro rfl
    rw [if_pos number.toNat_lt]
    simp

/-- The next word follows by exactly one. -/
theorem successor?_eq_some_iff {number next : UInt64} :
    successor? number = some next ↔ next.toNat = number.toNat + 1 :=
  word?_eq_some_iff

/-- Only the largest word has no next one, so that no number wraps. -/
theorem successor?_eq_none_iff {number : UInt64} :
    successor? number = none ↔ number.toNat = UInt64.size - 1 := by
  have bound := number.toNat_lt
  simp only [successor?, word?, UInt64.size, ite_eq_right_iff, reduceCtorEq, imp_false]
  omega

/-- A written word reads back. -/
@[simp] theorem readNumeral?_numeral (number : UInt64) :
    readNumeral? (numeral number) = some number := by
  simp [readNumeral?, numeral, Nat.ofDigitChars_ten_toDigits, word?_eq_some_iff]

/-- Numerals consist of ASCII digits. -/
theorem isDigit_of_mem_numeral {number : UInt64} {character : Char}
    (member : character ∈ numeral number) : character.isDigit = true :=
  Nat.isDigit_of_mem_toDigits (by decide) (by decide) member

/-- Every numeral has a digit. -/
theorem numeral_ne_nil (number : UInt64) : numeral number ≠ [] :=
  Nat.toDigits_ne_nil

end ReleasePilot.Text
