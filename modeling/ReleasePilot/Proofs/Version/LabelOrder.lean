import Mathlib.Data.String.Basic
import Mathlib.Data.Sum.Order
import ReleasePilot.Proofs.Version.ReferenceKey
import ReleasePilot.Proofs.Version.RoundTrip

/-!
# The order of labels

By the rule for labels, segments of digits are numbers of any size and follow all other
segments, which are words. The comparison keeps numbers in machine words, so that it
follows the rule exactly for the labels whose numbers fit (`compare_eq_cmp_labelKey`): a
longer run of digits is taken for a word.
-/

namespace ReleasePilot.Version

/-! ## Keys -/

/-- The words in their order, and behind them the numbers in theirs. -/
abbrev SegmentKey : Type :=
  String ⊕ₗ ℕ

/-- A run of digits of the alphabet. -/
def IsNumeral (segment : List Char) : Prop :=
  segment ≠ [] ∧ ∀ character ∈ segment, character.isDigit = true

/-- The test for digits that precedes the reading of a number. -/
theorem isNumeral_iff (segment : List Char) :
    (segment.isEmpty || !segment.all Char.isDigit) = false ↔ IsNumeral segment := by
  simp [IsNumeral]

instance (segment : List Char) : Decidable (IsNumeral segment) :=
  decidable_of_iff _ (isNumeral_iff segment)

/-- A word in lower case. -/
def wordKey (segment : List Char) : SegmentKey :=
  toLex (.inl (String.ofList (segment.map Char.toLower)))

/-- The number that a run of digits writes. -/
def numberKey (segment : List Char) : SegmentKey :=
  toLex (.inr (Nat.ofDigitChars 10 segment 0))

/-- A segment is a number if it is a run of digits, and otherwise a word. -/
def segmentKey (segment : List Char) : SegmentKey :=
  if IsNumeral segment then numberKey segment else wordKey segment

/-- The segments of a label, the earlier ones having more weight. No label is below
every label. -/
def LabelKey : Type :=
  WithBot (List SegmentKey)

instance : LinearOrder LabelKey :=
  inferInstanceAs (LinearOrder (WithBot (List SegmentKey)))

/-- The key of a version without a label. -/
def LabelKey.absent : LabelKey :=
  (⊥ : WithBot (List SegmentKey))

/-- The key of a label with some segments. -/
def LabelKey.present (segments : List SegmentKey) : LabelKey :=
  WithBot.some segments

theorem LabelKey.absent_lt (segments : List SegmentKey) : absent < present segments :=
  WithBot.bot_lt_coe segments

theorem LabelKey.present_strictMono : StrictMono present :=
  fun _ _ less => WithBot.coe_lt_coe.2 less

/-- The key of a label by the rule. -/
def labelKey (label : Option String) : LabelKey :=
  label.elim .absent fun label => .present ((Text.splitAt '.' label.toList).map segmentKey)

/-- No number that a segment writes exceeds the word. -/
def SegmentFits (segment : List Char) : Prop :=
  IsNumeral segment → Nat.ofDigitChars 10 segment 0 < UInt64.size

instance (segment : List Char) : Decidable (SegmentFits segment) :=
  inferInstanceAs (Decidable (_ → _))

/-- All numbers of a label fit the word. -/
def LabelFits (label : Option String) : Prop :=
  ∀ spelled, label = some spelled →
    ∀ segment ∈ Text.splitAt '.' spelled.toList, SegmentFits segment

/-! ## The comparison by keys -/

/-- The key of a segment as it is compared. -/
def LabelSegment.key : LabelSegment → SegmentKey
  | .word letters => toLex (.inl letters)
  | .number value => toLex (.inr value.toNat)

theorem LabelSegment.compares_key (left right : LabelSegment) :
    (compare left right).Compares left.key right.key := by
  cases left with
  | word left =>
    cases right with
    | word right =>
      have letters : (compare left right).Compares left right := (compare_iff left right).1 rfl
      exact Sum.Lex.inl_strictMono.compares.2 letters
    | number right => exact Sum.Lex.inl_lt_inr _ _
  | number left =>
    cases right with
    | word right => exact Sum.Lex.inl_lt_inr _ _
    | number right =>
      have values : (compare left right).Compares left.toNat right.toNat :=
        compares_toNat left right
      exact (Sum.Lex.inr_strictMono (α := String)).compares.2 values

/-- A segment that fits is compared by the rule. -/
theorem key_ofText {segment : List Char} (fits : SegmentFits segment) :
    (LabelSegment.ofText segment).key = segmentKey segment := by
  unfold LabelSegment.ofText segmentKey
  by_cases numeral : IsNumeral segment
  · obtain ⟨number, value⟩ := exists_word_iff.2 (fits numeral)
    have read : Text.readNumeral? segment = some number := Text.word?_eq_some_iff.2 value
    rw [(isNumeral_iff segment).2 numeral, if_pos numeral, read]
    exact congrArg (toLex <| Sum.inr ·) value
  · rw [Bool.eq_true_of_not_eq_false (mt (isNumeral_iff segment).1 numeral), if_neg numeral]
    rfl

/-- A segment that does not fit is taken for a word. -/
theorem key_ofText_of_not_fits {segment : List Char} (large : ¬SegmentFits segment) :
    (LabelSegment.ofText segment).key = wordKey segment := by
  obtain ⟨-, exceeds⟩ := Classical.not_imp.1 large
  have unread : Text.readNumeral? segment = none := if_neg exceeds
  unfold LabelSegment.ofText
  rw [unread]
  cases segment.isEmpty || !segment.all Char.isDigit <;> rfl

/-- The key of a label as it is compared. -/
def comparedKey (label : Option String) : LabelKey :=
  label.elim .absent fun label => .present ((labelSegments label).map LabelSegment.key)

theorem compares_comparedKey (left right : Option String) :
    (compareLabel left right).Compares (comparedKey left) (comparedKey right) := by
  cases left with
  | none =>
    cases right with
    | none => exact rfl
    | some right => exact LabelKey.absent_lt _
  | some left =>
    cases right with
    | none => exact LabelKey.absent_lt _
    | some right =>
      have segments := compares_map LabelSegment.compares_key (labelSegments left)
        (labelSegments right)
      exact LabelKey.present_strictMono.compares.2 segments

theorem comparedKey_eq_labelKey {label : Option String} (fits : LabelFits label) :
    comparedKey label = labelKey label := by
  cases label with
  | none => rfl
  | some spelled =>
    refine congrArg LabelKey.present ?_
    rw [labelSegments, List.map_map]
    exact List.map_congr_left fun segment member => key_ofText (fits spelled rfl segment member)

/-- Two versions that are equal in all but their labels. -/
def SameButLabel (left right : Version) : Prop :=
  compare { left with label := none } { right with label := none } = .eq

/-- Where all else is equal, the labels decide. -/
theorem compare_eq_compareLabel {left right : Version} (same : SameButLabel left right) :
    compare left right = compareLabel left.label right.label := by
  change Version.compare { left with label := none } { right with label := none } = .eq at same
  change Version.compare left right = _
  rw [Version.compare, Ordering.then_eq_eq] at same
  rw [Version.compare]
  exact congrArg (Ordering.then · (compareLabel left.label right.label)) same.1

/-! ## Numbers that do not fit -/

/-- The first number of a label that does not fit. -/
theorem exists_large {spelled : String} (large : ¬LabelFits (some spelled)) :
    ∃ before segment after, Text.splitAt '.' spelled.toList = before ++ segment :: after ∧
      (∀ earlier ∈ before, SegmentFits earlier) ∧ ¬SegmentFits segment := by
  have exceeding : ((Text.splitAt '.' spelled.toList).find? fun segment =>
      !decide (SegmentFits segment)).isSome = true := by
    rw [List.find?_isSome]
    by_contra none
    refine large fun other same segment member => ?_
    obtain rfl := Option.some.inj same
    by_contra exceeds
    exact none ⟨segment, member, by simpa using exceeds⟩
  obtain ⟨segment, found⟩ := Option.isSome_iff_exists.1 exceeding
  obtain ⟨exceeds, before, after, pieces, earlier⟩ := List.find?_eq_some_iff_append.1 found
  refine ⟨before, segment, after, pieces, fun other member => ?_, by simpa using exceeds⟩
  simpa using earlier other member

/-- Words and numbers behind the same segments. -/
theorem lt_of_segments {before after others : List SegmentKey} {left right : SegmentKey}
    (less : left < right) : before ++ left :: after < before ++ right :: others :=
  List.append_left_lt (List.cons_lt_cons_iff.2 (.inl less))

section Zeroed

variable {spelled : String} {before after : List (List Char)} {segment : List Char}

theorem fixed_of_mem {label : List Char} (canonical : label.map canonicalCharacter = label)
    {character : Char} (member : character ∈ label) : canonicalCharacter character = character := by
  rw [← canonical] at member
  obtain ⟨original, -, rfl⟩ := List.mem_map.1 member
  exact canonicalCharacter_canonicalCharacter original

/-- In a canonical label the point is the only separator. -/
theorem splitAt_eq_splitWhere (canonical : spelled.toList.map canonicalCharacter = spelled.toList) :
    Text.splitAt '.' spelled.toList = Text.splitWhere isSeparator spelled.toList := by
  refine Text.splitWhere_congr fun character member => ?_
  rw [Bool.eq_iff_iff, beq_iff_eq]
  constructor
  · rintro rfl
    rfl
  · intro separates
    rw [← fixed_of_mem canonical member, canonicalCharacter, if_pos separates]

/-- A piece of a canonical label. -/
structure IsPiece (piece : List Char) : Prop where
  nonempty : piece ≠ []
  letters : ∀ character ∈ piece, isLabelCharacter character = true
  canonical : ∀ character ∈ piece, canonicalCharacter character = character

theorem isPiece_of_mem (valid : isLabel spelled.toList = true)
    (canonical : spelled.toList.map canonicalCharacter = spelled.toList) {piece : List Char}
    (member : piece ∈ Text.splitAt '.' spelled.toList) : IsPiece piece := by
  rw [splitAt_eq_splitWhere canonical] at member
  obtain ⟨nonempty, letters⟩ := isLabel_iff.1 valid piece member
  exact ⟨nonempty, letters, fun character inside =>
    fixed_of_mem canonical (Text.mem_of_mem_splitWhere isSeparator member inside)⟩

/-- Pieces that are joined are the pieces of a canonical label. -/
theorem label_of_pieces {pieces : List (List Char)} (some : pieces ≠ [])
    (each : ∀ piece ∈ pieces, IsPiece piece) :
    Text.splitAt '.' (Text.joinWith ['.'] pieces) = pieces ∧
      isLabel (Text.joinWith ['.'] pieces) = true ∧
      (Text.joinWith ['.'] pieces).map canonicalCharacter = Text.joinWith ['.'] pieces := by
  have undivided : ∀ piece ∈ pieces, ∀ character ∈ piece, isSeparator character = false :=
    fun piece among character inside =>
      isSeparator_of_isLabelCharacter ((each piece among).letters character inside)
  refine ⟨?_, ?_, ?_⟩
  · refine Text.splitWhere_joinWith rfl some fun piece among character inside => ?_
    rw [beq_eq_false_iff_ne]
    rintro rfl
    cases undivided piece among '.' inside
  · rw [isLabel_iff, Text.splitWhere_joinWith rfl some undivided]
    exact fun piece among => ⟨(each piece among).nonempty, (each piece among).letters⟩
  · refine (List.map_congr_left fun character member => ?_).trans (List.map_id _)
    rcases Text.mem_joinWith member with rfl | ⟨piece, among, inside⟩
    · rfl
    · exact (each piece among).canonical character inside

/-- The pieces up to some segment, and a zero in its place. -/
def zeroed (before : List (List Char)) : String :=
  String.ofList (Text.joinWith ['.'] (before ++ [['0']]))

theorem zeroed_of_pieces (each : ∀ piece ∈ before, IsPiece piece) :
    Text.splitAt '.' (zeroed before).toList = before ++ [['0']] ∧
      isLabel (zeroed before).toList = true ∧
      (zeroed before).toList.map canonicalCharacter = (zeroed before).toList := by
  have zero : IsPiece ['0'] :=
    ⟨List.cons_ne_nil _ _, List.forall_mem_singleton.2 rfl, List.forall_mem_singleton.2 rfl⟩
  rw [zeroed, String.toList_ofList]
  refine label_of_pieces (by simp) fun piece among => ?_
  rcases List.mem_append.1 among with earlier | last
  · exact each piece earlier
  · exact List.mem_singleton.1 last ▸ zero

/-- A number that does not fit is taken for a word and so compared to be less than zero. -/
theorem compareLabel_zeroed (pieces : Text.splitAt '.' spelled.toList = before ++ segment :: after)
    (zeroes : Text.splitAt '.' (zeroed before).toList = before ++ [['0']])
    (large : ¬SegmentFits segment) :
    compareLabel (some spelled) (some (zeroed before)) = .lt := by
  rw [(compares_comparedKey _ _).eq_lt]
  refine LabelKey.present_strictMono ?_
  rw [labelSegments, labelSegments, pieces, zeroes, List.map_map, List.map_map, List.map_append,
    List.map_append, List.map_cons, List.map_cons]
  refine lt_of_segments ?_
  rw [Function.comp_apply, Function.comp_apply, key_ofText_of_not_fits large]
  exact Sum.Lex.inl_lt_inr _ _

/-- By the rule it is greater. -/
theorem labelKey_zeroed_lt (pieces : Text.splitAt '.' spelled.toList = before ++ segment :: after)
    (zeroes : Text.splitAt '.' (zeroed before).toList = before ++ [['0']])
    (large : ¬SegmentFits segment) :
    labelKey (some (zeroed before)) < labelKey (some spelled) := by
  obtain ⟨numeral, exceeds⟩ := Classical.not_imp.1 large
  refine LabelKey.present_strictMono ?_
  rw [pieces, zeroes, List.map_append, List.map_append, List.map_cons, List.map_cons]
  refine lt_of_segments ?_
  rw [segmentKey, segmentKey, if_pos numeral, if_pos (by decide)]
  refine Sum.Lex.inr_lt_inr_iff.2 ?_
  exact Nat.lt_of_lt_of_le (by decide) (Nat.le_of_not_lt exceeds)

/-- With a zero for its first number that does not fit, a version compares the wrong way. -/
theorem exists_disagreement {left : Version} (canonical : left.Canonical)
    (large : ¬LabelFits left.label) :
    ∃ right : Version, right.Canonical ∧ SameButLabel left right ∧ LabelFits right.label ∧
      compare left right ≠ cmp (labelKey left.label) (labelKey right.label) := by
  cases labelled : left.label with
  | none =>
    rw [labelled] at large
    exact absurd nofun large
  | some spelled =>
    rw [labelled] at large
    obtain ⟨before, segment, after, pieces, earlier, exceeds⟩ := exists_large large
    obtain ⟨valid, fixed⟩ := canonical.labelled spelled labelled
    have each : ∀ piece ∈ before, IsPiece piece := fun piece among =>
      isPiece_of_mem valid fixed (pieces ▸ List.mem_append_left _ among)
    obtain ⟨zeroes, stillValid, stillFixed⟩ := zeroed_of_pieces each
    -- The other label is the same up to the number, and has a zero there.
    let right : Version := { left with label := some (zeroed before) }
    have same : SameButLabel left right := Std.ReflOrd.compare_self
    refine ⟨right, ⟨canonical.segmented, ?_⟩, same, ?_, ?_⟩
    · rintro _ ⟨⟩
      exact ⟨stillValid, stillFixed⟩
    · rintro _ ⟨⟩ piece among
      rw [zeroes] at among
      rcases List.mem_append.1 among with early | last
      · exact earlier piece early
      · rw [List.mem_singleton.1 last]
        decide
    · rw [compare_eq_compareLabel same, labelled, compareLabel_zeroed pieces zeroes exceeds,
        show cmp _ (labelKey right.label) = .gt from
          (cmp_eq_gt_iff _ _).2 (labelKey_zeroed_lt pieces zeroes exceeds)]
      decide

end Zeroed

/-! ## The rule -/

/-- Where all else is equal, a version without a label comes first, and two labels compare
by the rule if their numbers fit the word. For every other label there is one that fits and
with which it does not compare by the rule. -/
theorem compare_eq_cmp_labelKey {left : Version} (readable : ∃ text, parse text = .ok left) :
    (∀ right, (∃ text, parse text = .ok right) → SameButLabel left right →
      (left.label = none ∨ right.label = none ∨ LabelFits left.label ∧ LabelFits right.label) →
      compare left right = cmp (labelKey left.label) (labelKey right.label)) ∧
      (¬LabelFits left.label → ∃ right, (∃ text, parse text = .ok right) ∧
        SameButLabel left right ∧ LabelFits right.label ∧
        compare left right ≠ cmp (labelKey left.label) (labelKey right.label)) := by
  constructor
  · intro right _ same conditions
    rw [compare_eq_compareLabel same]
    rcases conditions with none | none | ⟨leftFits, rightFits⟩
    · rw [none]
      cases right.label with
      | none => exact (cmp_self_eq_eq _).symm
      | some label => exact ((cmp_eq_lt_iff _ _).2 (LabelKey.absent_lt _)).symm
    · rw [none]
      cases left.label with
      | none => exact (cmp_self_eq_eq _).symm
      | some label => exact ((cmp_eq_gt_iff _ _).2 (LabelKey.absent_lt _)).symm
    · rw [← comparedKey_eq_labelKey leftFits, ← comparedKey_eq_labelKey rightFits]
      exact (compares_comparedKey _ _).cmp_eq.symm
  · intro large
    obtain ⟨text, read⟩ := readable
    obtain ⟨right, canonical, same, fits, differs⟩ :=
      exists_disagreement (canonical_of_ofText? (parse_eq_ok_iff.1 read)) large
    exact ⟨right, ⟨right.text, parse_eq_ok_iff.2 (ofText?_text canonical)⟩, same, fits, differs⟩

/-- `2.10` comes after `2.9`, and after `2.ubuntu`. -/
theorem compare_eq_cmp_labelKey_numbers :
    let labelled (label : String) : Version := { release := [1], label := some label }
    compare (labelled "2.10") (labelled "2.9") =
        cmp (labelKey (some "2.10")) (labelKey (some "2.9")) ∧
      compare (labelled "2.10") (labelled "2.ubuntu") =
        cmp (labelKey (some "2.10")) (labelKey (some "2.ubuntu")) := by
  intro labelled
  have readable (label : String)
      (canonical : isLabel label.toList = true ∧
        label.toList.map canonicalCharacter = label.toList) :
      ∃ text, parse text = .ok (labelled label) := by
    refine ⟨(labelled label).text, parse_eq_ok_iff.2 (ofText?_text ⟨List.cons_ne_nil _ _, ?_⟩)⟩
    rintro _ ⟨⟩
    exact canonical
  have fits (label : String)
      (each : ∀ segment ∈ Text.splitAt '.' label.toList, SegmentFits segment) :
      LabelFits (some label) := by
    rintro _ ⟨⟩
    exact each
  obtain ⟨agrees, -⟩ := compare_eq_cmp_labelKey (readable "2.10" (by decide))
  constructor
  · exact agrees _ (readable "2.9" (by decide)) Std.ReflOrd.compare_self
      (.inr (.inr ⟨fits _ (by decide), fits _ (by decide)⟩))
  · exact agrees _ (readable "2.ubuntu" (by decide)) Std.ReflOrd.compare_self
      (.inr (.inr ⟨fits _ (by decide), fits _ (by decide)⟩))

end ReleasePilot.Version
