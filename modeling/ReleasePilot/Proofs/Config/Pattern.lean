import Mathlib.Data.List.Infix
import ReleasePilot.Config.Basic

/-!
# Filling in patterns

The pattern of the built files is filled in by putting the version for every
placeholder, and what stands between the placeholders is kept
(`substitutes_artifactPattern`).
-/

namespace ReleasePilot.Config

/-- A text is made of a pattern by putting a version for each placeholder. -/
inductive Substitutes (version : List Char) : List Char → List Char → Prop where
  | plain {piece : List Char} (free : ¬placeholder <:+: piece) : Substitutes version piece piece
  | version {piece pattern filled : List Char} (free : ¬placeholder <:+: piece)
      (behind : Substitutes version pattern filled) :
      Substitutes version (piece ++ (placeholder ++ pattern)) (piece ++ (version ++ filled))

/-- What is left of a placeholder is passed over. -/
theorem fill_skipped (version : List Char) (skipped : Nat) (text : List Char) :
    fill version skipped text = fill version 0 (text.drop skipped) := by
  induction text generalizing skipped with
  | nil => cases skipped <;> rfl
  | cons character rest inductionHypothesis =>
    cases skipped with
    | zero => rfl
    | succ remaining => exact inductionHypothesis remaining

theorem fill_placeholder (version rest : List Char) :
    fill version 0 (placeholder ++ rest) = version ++ fill version 0 rest := by
  have begins : placeholder.isPrefixOf (placeholder ++ rest) = true :=
    List.isPrefixOf_iff_prefix.2 (List.prefix_append _ _)
  obtain ⟨character, others, whole⟩ := List.exists_cons_of_ne_nil (l := placeholder) (by decide)
  rw [whole, List.cons_append] at begins
  rw [whole, List.cons_append, fill, whole, if_pos begins, fill_skipped, List.length_cons,
    Nat.add_sub_cancel, List.drop_left]

theorem fill_cons {character : Char} {rest : List Char}
    (other : ¬placeholder <+: character :: rest) (version : List Char) :
    fill version 0 (character :: rest) = character :: fill version 0 rest := by
  rw [fill, if_neg (mt List.isPrefixOf_iff_prefix.1 other)]

/-- A character at which no placeholder begins belongs to the piece that follows it. -/
theorem Substitutes.cons {version pattern filled : List Char} {character : Char}
    (behind : Substitutes version pattern filled)
    (other : ¬placeholder <+: character :: pattern) :
    Substitutes version (character :: pattern) (character :: filled) := by
  have longer {piece : List Char} (free : ¬placeholder <:+: piece) (begins : piece <+: pattern) :
      ¬placeholder <:+: character :: piece := by
    rw [List.infix_cons_iff]
    rintro (first | later)
    · exact other (first.trans (List.prefix_cons_inj character |>.2 begins))
    · exact free later
  cases behind with
  | plain free => exact .plain (longer free List.prefix_rfl)
  | version free behind => exact .version (longer free (List.prefix_append _ _)) behind

/-- A pattern is filled in at each of its placeholders and nowhere else. -/
theorem substitutes_fill (version pattern : List Char) :
    Substitutes version pattern (fill version 0 pattern) := by
  have nothing : ¬placeholder <:+: ([] : List Char) := by decide
  induction length : pattern.length using Nat.strong_induction_on generalizing pattern with
  | _ size inductionHypothesis =>
    by_cases begins : placeholder <+: pattern
    · obtain ⟨rest, rfl⟩ := begins
      have shorter : rest.length < size := by
        rw [← length, List.length_append]
        exact Nat.lt_add_of_pos_left (by decide)
      rw [fill_placeholder]
      exact .version nothing (inductionHypothesis _ shorter rest rfl)
    · cases pattern with
      | nil => exact .plain nothing
      | cons character rest =>
        have shorter : rest.length < size := by
          rw [← length]
          exact Nat.lt_succ_self _
        rw [fill_cons begins]
        exact (inductionHypothesis _ shorter rest rfl).cons begins

theorem substitutes_artifactPattern (config : Config) (version : String) :
    Substitutes version.toList config.artifactGlob.toList
      (config.artifactPattern version).toList := by
  rw [artifactPattern, String.toList_ofList]
  exact substitutes_fill _ _

end ReleasePilot.Config
