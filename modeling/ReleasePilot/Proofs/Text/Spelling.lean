import Mathlib.Data.List.Forall2
import ReleasePilot.Proofs.Text.Letters

/-!
# Words without regard to case

Which characters a letter matches is listed here one by one (`Matches`), apart
from the folding that readers use. A reader strips a word exactly if the text
begins with characters that its letters match (`stripWord?_eq_some_iff`).
-/

namespace ReleasePilot.Text

/-- A small letter or a digit of ASCII, such as words are given in. -/
def IsPlain (character : Char) : Prop :=
  ('a' ≤ character ∧ character ≤ 'z') ∨ ('0' ≤ character ∧ character ≤ '9')

instance (character : Char) : Decidable (IsPlain character) :=
  inferInstanceAs (Decidable (_ ∨ _))

theorem isPlain_iff {character : Char} :
    IsPlain character ↔
      (97 ≤ character.toNat ∧ character.toNat ≤ 122) ∨
        (48 ≤ character.toNat ∧ character.toNat ≤ 57) := by
  simp only [IsPlain, Char.le_def, UInt32.le_iff_toNat_le]
  rfl

/-- The characters that a letter matches: itself, its capital, and for two letters
one character beyond ASCII. -/
inductive Matches : Char → Char → Prop where
  | itself (letter : Char) : Matches letter letter
  | capital (letter : Char) : Matches letter letter.toUpper
  | longS : Matches 's' '\u017f'
  | kelvin : Matches 'k' '\u212a'

/-- Small letters move by 32 code points, all other characters stay. -/
theorem toNat_toUpper (character : Char) :
    character.toUpper.toNat =
      if 97 ≤ character.toNat ∧ character.toNat ≤ 122 then character.toNat - 32
      else character.toNat := by
  have bounds : (character.val ≥ 'a'.val ∧ character.val ≤ 'z'.val) ↔
      97 ≤ character.toNat ∧ character.toNat ≤ 122 := by
    simp [UInt32.le_iff_toNat_le]
  unfold Char.toUpper
  by_cases lower : character.val ≥ 'a'.val ∧ character.val ≤ 'z'.val
  · have codes := bounds.1 lower
    rw [if_pos codes]
    simp only [lower, and_self, ↓reduceDIte]
    change (character.val + _).toNat = _
    rw [UInt32.toNat_add]
    -- The distance between the cases is subtracted by wrapping around.
    change (character.toNat + 4294967264) % 2 ^ 32 = _
    omega
  · rw [if_neg (mt bounds.2 lower)]
    simp only [lower, ↓reduceDIte]

theorem isPlain_of_isLower {letter : Char} (lower : letter.isLower = true) : IsPlain letter :=
  isPlain_iff.2 (.inl (isLower_iff.1 lower))

/-- Folding an ASCII character changes nothing but its case. -/
theorem fold_of_ascii {character : Char} (ascii : character.toNat < 128) :
    fold character = character.toLower := by
  unfold fold
  rw [if_neg (by rintro rfl; exact absurd ascii (by decide)),
    if_neg (by rintro rfl; exact absurd ascii (by decide))]

/-- Folding leaves digits alone. -/
theorem fold_of_isDigit {digit : Char} (isDigit : digit.isDigit = true) : fold digit = digit := by
  have code := isDigit_iff.1 isDigit
  apply ext_toNat
  rw [fold_of_ascii (by omega), toNat_toLower, if_neg (by omega)]

/-- Nothing but itself folds onto a character that is no small letter. -/
theorem eq_of_fold_eq {character symbol : Char} (noLetter : symbol.isLower = false)
    (folded : fold character = symbol) : character = symbol := by
  have code : ¬(97 ≤ symbol.toNat ∧ symbol.toNat ≤ 122) := by
    rw [← isLower_iff, noLetter]
    exact Bool.false_ne_true
  unfold fold at folded
  split at folded
  case isTrue =>
    rw [← folded] at noLetter
    cases noLetter
  split at folded
  case isTrue =>
    rw [← folded] at noLetter
    cases noLetter
  have lower := toNat_toLower character
  rw [folded] at lower
  apply ext_toNat
  split at lower <;> omega

/-- Only letters fold onto letters. -/
theorem code_of_isLower_fold {character : Char} (lower : (fold character).isLower = true) :
    65 ≤ character.toNat ∧ character.toNat ≠ 95 := by
  by_cases ascii : character.toNat < 128
  · rw [fold_of_ascii ascii, isLower_iff, toNat_toLower] at lower
    split at lower <;> omega
  · omega

/-- Folding a character gives a letter exactly if the letter matches it. -/
theorem fold_eq_iff_matches {letter character : Char} (plain : IsPlain letter) :
    fold character = letter ↔ Matches letter character := by
  rw [isPlain_iff] at plain
  constructor
  · intro folded
    unfold fold at folded
    split at folded
    case isTrue same =>
      subst same folded
      exact .longS
    split at folded
    case isTrue same =>
      subst same folded
      exact .kelvin
    have code := toNat_toLower character
    rw [folded] at code
    by_cases capital : 65 ≤ character.toNat ∧ character.toNat ≤ 90
    · rw [if_pos capital] at code
      have same : character = letter.toUpper := by
        apply ext_toNat
        rw [toNat_toUpper, if_pos (by omega)]
        omega
      rw [same]
      exact .capital letter
    · rw [if_neg capital] at code
      rw [ext_toNat code]
      exact .itself character
  · intro matched
    cases matched with
    | itself =>
      apply ext_toNat
      rw [fold_of_ascii (by omega), toNat_toLower, if_neg (by omega)]
    | capital =>
      have code := toNat_toUpper letter
      have small : letter.toUpper.toNat < 128 := by
        split at code <;> omega
      apply ext_toNat
      rw [fold_of_ascii small, toNat_toLower]
      split at code <;> split <;> omega
    | longS => decide
    | kelvin => decide

/-- A text that begins with a word is the word in some spelling and what follows it. -/
theorem stripWord?_eq_some_iff {word text rest : List Char}
    (plain : ∀ letter ∈ word, IsPlain letter) :
    stripWord? word text = some rest ↔
      ∃ spelled, List.Forall₂ Matches word spelled ∧ text = spelled ++ rest := by
  induction word generalizing text with
  | nil => simp
  | cons letter word inductionHypothesis =>
    obtain ⟨first, others⟩ := List.forall_mem_cons.1 plain
    cases text with
    | nil =>
      simp only [stripWord?, List.forall₂_cons_left_iff]
      constructor
      · intro impossible
        cases impossible
      · rintro ⟨_, ⟨character, spelled, -, -, rfl⟩, same⟩
        cases same
    | cons character text =>
      simp only [stripWord?, List.forall₂_cons_left_iff]
      constructor
      · intro found
        split at found
        case isTrue folded =>
          have matched := (fold_eq_iff_matches first).1 folded
          obtain ⟨spelled, spelling, rfl⟩ := (inductionHypothesis others).1 found
          exact ⟨character :: spelled, ⟨character, spelled, matched, spelling, rfl⟩, rfl⟩
        case isFalse => cases found
      · rintro ⟨_, ⟨other, spelled, matched, spelling, rfl⟩, same⟩
        obtain ⟨rfl, rfl⟩ := List.cons.inj same
        rw [if_pos ((fold_eq_iff_matches first).2 matched)]
        exact (inductionHypothesis others).2 ⟨spelled, spelling, rfl⟩

/-- A text begins with a word if it begins with characters that fold onto the word. -/
theorem stripWord?_eq_some_iff_map_fold {word text rest : List Char} :
    stripWord? word text = some rest ↔
      ∃ spelled, spelled.map fold = word ∧ text = spelled ++ rest := by
  induction word generalizing text with
  | nil => simp
  | cons letter word inductionHypothesis =>
    cases text with
    | nil =>
      constructor
      · nofun
      · rintro ⟨_ | ⟨_, _⟩, spelled, whole⟩
        · cases spelled
        · cases whole
    | cons character text =>
      rw [stripWord?]
      constructor
      · intro found
        split at found
        case isTrue folded =>
          obtain ⟨spelled, rfl, rfl⟩ := inductionHypothesis.1 found
          exact ⟨character :: spelled, by rw [List.map_cons, folded], rfl⟩
        case isFalse => cases found
      · rintro ⟨_ | ⟨first, spelled⟩, folded, whole⟩
        · cases folded
        · obtain ⟨rfl, rfl⟩ := List.cons.inj whole
          obtain ⟨same, rfl⟩ := List.cons.inj folded
          rw [if_pos same]
          exact inductionHypothesis.2 ⟨spelled, rfl, rfl⟩

/-- Every spelling of a word folds onto the word. -/
theorem map_fold_of_spelling {word spelled : List Char} (plain : ∀ letter ∈ word, IsPlain letter)
    (spelling : List.Forall₂ Matches word spelled) : spelled.map fold = word := by
  induction spelling with
  | nil => rfl
  | cons matched _ inductionHypothesis =>
    obtain ⟨first, others⟩ := List.forall_mem_cons.1 plain
    rw [List.map_cons, (fold_eq_iff_matches first).2 matched, inductionHypothesis others]

/-- A word is not stripped from a text that does not fold onto it. -/
theorem stripWord?_eq_none_iff {word text : List Char} :
    stripWord? word text = none ↔ ¬word <+: text.map fold := by
  induction word generalizing text with
  | nil => simp
  | cons letter word inductionHypothesis =>
    cases text with
    | nil => simp [stripWord?]
    | cons character text =>
      rw [stripWord?, List.map_cons, List.cons_prefix_cons, eq_comm (a := letter)]
      by_cases folded : fold character = letter
      · rw [if_pos folded, inductionHypothesis]
        simp [folded]
      · simp [folded]

end ReleasePilot.Text
