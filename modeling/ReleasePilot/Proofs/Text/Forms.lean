import Mathlib.Computability.Language
import ReleasePilot.Text.Numeral

/-!
# Forms of texts

The form of a text is a language, put together from literals, decimal numbers and runs of
letters. A text has the form by how it is put together (`append_mem_series`), and what a
form is spelled with follows part by part (`SpelledWith`).
-/

open Computability

namespace ReleasePilot.Text

/-- Some letters and nothing else. -/
def literal (letters : String) : Language Char :=
  {letters.toList}

/-- The decimal numbers without superfluous zeros. -/
def decimals : Language Char :=
  {digits | digits ≠ [] ∧ (∀ digit ∈ digits, digit.isDigit = true) ∧
    (digits.head? = some '0' → digits = ['0'])}

/-- Runs of letters of one class. -/
def runs (letter : Char → Prop) : Language Char :=
  {run | run ≠ [] ∧ ∀ character ∈ run, letter character}

/-- One item or several, with a point between each two. -/
def series (item : Language Char) : Language Char :=
  item * (literal "." * item)∗

/-- All texts of a language consist of characters of one class. -/
def SpelledWith (letter : Char → Prop) (language : Language Char) : Prop :=
  ∀ text ∈ language, ∀ character ∈ text, letter character

variable {letter : Char → Prop} {item first second : Language Char}

theorem mem_series {text : List Char} (member : text ∈ item) : text ∈ series item := by
  have alone := Language.append_mem_mul member (Language.nil_mem_kstar (literal "." * item))
  rwa [List.append_nil] at alone

theorem append_mem_series {text rest : List Char} (member : text ∈ item)
    (more : rest ∈ series item) : text ++ '.' :: rest ∈ series item := by
  obtain ⟨next, nextMember, others, othersMember, rfl⟩ := Language.mem_mul.1 more
  have point : '.' :: next ∈ literal "." * item :=
    Language.append_mem_mul (a := ['.']) rfl nextMember
  have absorbs : literal "." * item * (literal "." * item)∗ ≤ (literal "." * item)∗ :=
    mul_kstar_le_kstar
  exact Language.append_mem_mul member (absorbs (Language.append_mem_mul point othersMember))

/-! ## Languages over some characters -/

theorem spelledWith_literal (letters : String)
    (each : ∀ character ∈ letters.toList, letter character) :
    SpelledWith letter (literal letters) := by
  rintro _ rfl
  exact each

theorem spelledWith_decimals (digits : ∀ digit : Char, digit.isDigit = true → letter digit) :
    SpelledWith letter decimals :=
  fun _ ⟨_, decimal, _⟩ digit member => digits digit (decimal digit member)

theorem spelledWith_runs : SpelledWith letter (runs letter) :=
  fun _ ⟨_, inside⟩ => inside

namespace SpelledWith

theorem mono {other : Char → Prop} (spelled : SpelledWith letter item)
    (each : ∀ character, letter character → other character) : SpelledWith other item :=
  fun text member character inside => each character (spelled text member character inside)

theorem add (left : SpelledWith letter first) (right : SpelledWith letter second) :
    SpelledWith letter (first + second) := by
  rintro text (member | member)
  · exact left text member
  · exact right text member

theorem mul (front : SpelledWith letter first) (back : SpelledWith letter second) :
    SpelledWith letter (first * second) := by
  rintro _ ⟨before, inFront, behind, inBack, rfl⟩
  exact List.forall_mem_append.2 ⟨front before inFront, back behind inBack⟩

theorem optional (part : SpelledWith letter item) : SpelledWith letter (1 + item) := by
  rintro text (rfl | member)
  · exact nofun
  · exact part text member

theorem series (point : letter '.') (each : SpelledWith letter item) :
    SpelledWith letter (Text.series item) := by
  refine each.mul ?_
  rintro _ ⟨pieces, rfl, inside⟩ character member
  obtain ⟨piece, among, here⟩ := List.mem_flatten.1 member
  have separator := spelledWith_literal "." (List.forall_mem_singleton.2 point)
  exact separator.mul each piece (inside piece among) character here

end SpelledWith

/-! ## Behind a mark -/

/-- A character stands somewhere behind a mark. -/
def StandsBehind (mark character : Char) (text : List Char) : Prop :=
  ∃ front behind, text = front ++ mark :: behind ∧ character ∈ behind

variable {mark character : Char} {text rest : List Char}

theorem standsBehind_append_iff (unmarked : mark ∉ text) :
    StandsBehind mark character (text ++ rest) ↔ StandsBehind mark character rest := by
  constructor
  · rintro ⟨front, behind, whole, member⟩
    -- Where the two ways to cut the whole differ, the mark is in the rest.
    rcases List.append_eq_append_iff.1 whole with ⟨more, rfl, same⟩ | ⟨more, rfl, same⟩
    · exact ⟨more, behind, same, member⟩
    · cases more with
      | nil => exact ⟨[], behind, same.symm, member⟩
      | cons first more =>
        obtain ⟨rfl, -⟩ := List.cons.inj same
        exact absurd List.mem_append_cons_self unmarked
  · rintro ⟨front, behind, rfl, member⟩
    exact ⟨text ++ front, behind, (List.append_assoc _ _ _).symm, member⟩

theorem standsBehind_cons_iff : StandsBehind mark character (mark :: rest) ↔ character ∈ rest := by
  constructor
  · rintro ⟨front, behind, whole, member⟩
    cases front with
    | nil => exact (List.cons.inj whole).2 ▸ member
    | cons first front =>
      rw [(List.cons.inj whole).2]
      exact List.mem_append_right front (List.mem_cons_of_mem mark member)
  · exact fun member => ⟨[], rest, rfl, member⟩

theorem not_standsBehind (unmarked : mark ∉ text) : ¬StandsBehind mark character text := by
  rintro ⟨front, behind, rfl, -⟩
  exact unmarked List.mem_append_cons_self

/-! ## Printed numbers -/

/-- A number other than zero does not begin with a zero. -/
theorem head?_toDigits {value : ℕ} (positive : 0 < value) :
    (Nat.toDigits 10 value).head? ≠ some '0' := by
  induction value using Nat.strongRecOn with
  | ind value inductionHypothesis =>
    by_cases short : value < 10
    · have digits : ∀ digit < 10, 0 < digit → [Nat.digitChar digit].head? ≠ some '0' := by decide
      rw [Nat.toDigits_of_lt_base short]
      exact digits value short positive
    · have shorter := inductionHypothesis (value / 10) (by omega) (by omega)
      rwa [Nat.toDigits_of_base_le (by decide) (by omega),
        List.head?_append_of_ne_nil _ Nat.toDigits_ne_nil]

theorem numeral_mem_decimals (number : UInt64) : numeral number ∈ decimals := by
  refine ⟨numeral_ne_nil number, fun _ => isDigit_of_mem_numeral, fun zero => ?_⟩
  by_cases positive : 0 < number.toNat
  · exact absurd zero (head?_toDigits positive)
  · rw [numeral, Nat.eq_zero_of_not_pos positive]
    rfl

end ReleasePilot.Text
