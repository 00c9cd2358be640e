import ReleasePilot.Version.Order

/-!
# The order of versions is a total preorder

Each part of a version is compared through a key whose type is ordered already:
the release through its segments without the trailing zeros, the label through
its segments, and so on. The comparison of versions is the chain of these keys
(`compare_eq_compareKeys`), and so it inherits their laws.
-/

namespace ReleasePilot

instance : Std.TransOrd Phase :=
  inferInstanceAs (Std.TransCmp (compareOn Phase.rank))

instance : Std.TransOrd PreRelease :=
  inferInstanceAs
    (Std.TransCmp (compareLex (compareOn PreRelease.phase) (compareOn PreRelease.number)))

namespace Version

/-! ## Releases -/

/-- The segments of a release up to the last one that is not zero. -/
def significant (release : List UInt64) : List UInt64 :=
  (release.reverse.dropWhile (· == 0)).reverse

@[simp] theorem significant_nil : significant [] = [] := rfl

/-- A zero is dropped if nothing significant follows it. -/
theorem significant_cons (segment : UInt64) (more : List UInt64) :
    significant (segment :: more) =
      if significant more = [] ∧ segment = 0 then [] else segment :: significant more := by
  unfold significant
  simp only [List.reverse_cons, List.dropWhile_append, List.isEmpty_iff, List.reverse_eq_nil_iff]
  by_cases empty : more.reverse.dropWhile (· == 0) = []
  · by_cases zero : segment = 0
    · simp [empty, zero]
    · simp [empty, zero]
  · simp [empty]

/-- A release that goes on significantly follows one that has come to its end. -/
theorem compare_end_significant {segment : UInt64} {more : List UInt64}
    (kept : ¬(significant more = [] ∧ segment = 0)) :
    (compare 0 segment).then (compare [] (significant more)) = .lt := by
  by_cases zero : segment = 0
  · subst zero
    obtain ⟨next, others, goesOn⟩ := List.exists_cons_of_ne_nil fun empty => kept ⟨empty, rfl⟩
    rw [goesOn, Std.ReflOrd.compare_self, List.compare_nil_cons]
    rfl
  · have positive : compare 0 segment = .lt :=
      Std.compare_eq_lt.2 (UInt64.pos_iff_ne_zero.2 zero)
    rw [positive]
    rfl

/-- The first segments decide, and what follows them if they are equal. -/
theorem compare_significant_cons (left right : UInt64) (lefts rights : List UInt64) :
    compare (significant (left :: lefts)) (significant (right :: rights)) =
      (compare left right).then (compare (significant lefts) (significant rights)) := by
  rw [significant_cons, significant_cons]
  by_cases leftEnds : significant lefts = [] ∧ left = 0
  · obtain ⟨leftEmpty, rfl⟩ := leftEnds
    rw [if_pos ⟨leftEmpty, rfl⟩, leftEmpty]
    by_cases rightEnds : significant rights = [] ∧ right = 0
    · obtain ⟨rightEmpty, rfl⟩ := rightEnds
      rw [if_pos ⟨rightEmpty, rfl⟩, rightEmpty]
      rfl
    · rw [if_neg rightEnds, compare_end_significant rightEnds, List.compare_nil_cons]
  · rw [if_neg leftEnds]
    by_cases rightEnds : significant rights = [] ∧ right = 0
    · obtain ⟨rightEmpty, rfl⟩ := rightEnds
      rw [if_pos ⟨rightEmpty, rfl⟩, rightEmpty, List.compare_cons_nil]
      have swapped := congrArg Ordering.swap (compare_end_significant leftEnds)
      rw [Ordering.swap_then, ← Std.OrientedOrd.eq_swap, ← Std.OrientedOrd.eq_swap] at swapped
      exact swapped.symm
    · rw [if_neg rightEnds, List.compare_cons_cons]

/-- Filling up with zeros compares what is significant. -/
theorem compareRelease_eq (left right : List UInt64) :
    compareRelease left right = compare (significant left) (significant right) := by
  have ending : significant [] = significant [0] := rfl
  fun_induction compareRelease left right with
  | case1 => rfl
  | case2 right rights inductionHypothesis =>
    rw [ending, compare_significant_cons, inductionHypothesis]
  | case3 left lefts inductionHypothesis =>
    rw [ending, compare_significant_cons, inductionHypothesis]
  | case4 left lefts right rights inductionHypothesis =>
    rw [compare_significant_cons, inductionHypothesis]

/-! ## The other parts -/

/-- The place of a maturity among the three kinds. -/
def Maturity.rank : Maturity → Nat
  | .snapshot => 0
  | .preRelease _ => 1
  | .final => 2

/-- The pre-release of a maturity that has one. -/
def Maturity.pre? : Maturity → Option PreRelease
  | .preRelease pre => some pre
  | _ => none

theorem Maturity.compare_eq (left right : Maturity) :
    compare left right = compareLex (compareOn rank) (compareOn pre?) left right := by
  cases left <;> cases right <;> rfl

/-- A development number comes before none. -/
theorem compareDev_eq (left right : Option UInt64) :
    compareDev left right = compareLex (compareOn Option.isNone) (compareOn id) left right := by
  cases left <;> cases right <;> rfl

/-- Words come before numbers. -/
def LabelSegment.isNumber : LabelSegment → Bool
  | .word _ => false
  | .number _ => true

/-- The letters of a word. -/
def LabelSegment.letters? : LabelSegment → Option String
  | .word letters => some letters
  | .number _ => none

/-- The value of a number. -/
def LabelSegment.value? : LabelSegment → Option UInt64
  | .word _ => none
  | .number value => some value

theorem LabelSegment.compare_eq (left right : LabelSegment) :
    compare left right =
      compareLex (compareOn isNumber)
        (compareLex (compareOn letters?) (compareOn value?)) left right := by
  cases left with
  | word left =>
    cases right with
    | word right => exact Ordering.then_eq.symm
    | number right => rfl
  | number left =>
    cases right with
    | word right => rfl
    | number right => rfl

/-! ## The chain of keys -/

/-- Comparisons that always agree obey the same laws. -/
theorem transCmp_of_agree {α : Type} {first second : α → α → Ordering} [Std.TransCmp second]
    (agree : ∀ left right, first left right = second left right) : Std.TransCmp first := by
  obtain rfl : first = second := funext fun left => funext (agree left)
  assumption

instance : Std.TransOrd Maturity :=
  transCmp_of_agree Maturity.compare_eq

instance : Std.TransOrd LabelSegment :=
  transCmp_of_agree LabelSegment.compare_eq

/-- The keys of a version in the order of their weight. -/
def compareKeys : Version → Version → Ordering :=
  compareLex (compareOn epoch) <|
  compareLex (compareOn fun version => significant version.release) <|
  compareLex (compareOn maturity) <|
  compareLex (compareOn post) <|
  compareLex (compareLex (compareOn fun version => version.dev.isNone) (compareOn dev)) <|
  compareOn fun version => version.label.map labelSegments

instance : Std.TransCmp compareKeys := by
  unfold compareKeys
  infer_instance

theorem compare_eq_compareKeys (left right : Version) :
    compare left right = compareKeys left right := by
  change Version.compare left right = _
  rw [Version.compare, compareRelease_eq, compareDev_eq]
  simp only [Ordering.then_assoc]
  rfl

instance : Std.TransOrd Version :=
  transCmp_of_agree compare_eq_compareKeys

/-- Versions are the same release exactly if neither comes before the other. -/
theorem beq_iff_compare_eq {left right : Version} :
    (left == right) = true ↔ compare left right = .eq :=
  Ordering.isEq_iff_eq_eq

/-- The order of versions is a total preorder, and the same releases are those
that it does not tell apart. Of two steps upwards, the way from the first version
to the last is strict if either step is; and one of the same releases may stand
for the other in every comparison. -/
theorem compare_totalPreorder (left middle right : Version) :
    compare left left = .eq ∧
      compare middle left = (compare left middle).swap ∧
      ((compare left middle).isLE → (compare middle right).isLE →
        compare left right = (compare left middle).then (compare middle right)) ∧
      ((left == middle) = true ↔ compare left middle = .eq) ∧
      ((left == middle) = true →
        compare left right = compare middle right ∧
          compare right left = compare right middle) := by
  refine ⟨Std.ReflOrd.compare_self, Std.OrientedOrd.eq_swap, ?_, beq_iff_compare_eq, ?_⟩
  · intro firstStep secondStep
    cases first : compare left middle with
    | lt => exact Std.TransCmp.lt_of_lt_of_isLE first secondStep
    | eq => exact Std.TransCmp.congr_left first
    | gt => simp [first] at firstStep
  · intro same
    have equal := beq_iff_compare_eq.1 same
    exact ⟨Std.TransCmp.congr_left equal, Std.TransCmp.congr_right equal⟩

/-- Releases of unequal length on the way from `1.0` over `1` to `1.0.0.post1`. -/
theorem compare_totalPreorder_padded :
    (compare ({ release := [1, 0] } : Version) { release := [1] }).isLE ∧
      (compare ({ release := [1] } : Version) { release := [1, 0, 0], post := some 1 }).isLE ∧
      compare ({ release := [1, 0] } : Version) { release := [1, 0, 0], post := some 1 } = .lt := by
  have padded : compare ({ release := [1, 0] } : Version) { release := [1] } = .eq := by
    rw [compare_eq_compareKeys]
    decide
  have later : compare ({ release := [1] } : Version) { release := [1, 0, 0], post := some 1 } =
      .lt := by
    rw [compare_eq_compareKeys]
    decide
  have laws := compare_totalPreorder { release := [1, 0] } { release := [1] }
    { release := [1, 0, 0], post := some 1 }
  have together := laws.2.2.1 (Ordering.isLE_of_eq_eq padded) (Ordering.isLE_of_eq_lt later)
  rw [padded, later] at together
  exact ⟨Ordering.isLE_of_eq_eq padded, Ordering.isLE_of_eq_lt later, together⟩

end Version

end ReleasePilot
