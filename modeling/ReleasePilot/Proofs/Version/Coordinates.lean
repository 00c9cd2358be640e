import ReleasePilot.Proofs.Version.ReferenceKey

/-!
# Versions of one shape

Versions that have the same parts and the same label differ in nothing but numbers,
a phase counting as its rank. Listed by their weight, these numbers are the
coordinates of a version, and versions of one shape compare as their coordinates do
in lexicographic order (`compares_coordinates`).
-/

namespace ReleasePilot.Version

/-- Two versions have the same parts, releases of the same length and the same label. -/
structure SameShape (left right : Version) : Prop where
  release : left.release.length = right.release.length
  pre : left.pre.isSome = right.pre.isSome
  post : left.post.isSome = right.post.isSome
  dev : left.dev.isSome = right.dev.isSome
  label : left.label = right.label

namespace SameShape

theorem symm {left right : Version} (same : SameShape left right) : SameShape right left :=
  ⟨same.release.symm, same.pre.symm, same.post.symm, same.dev.symm, same.label.symm⟩

theorem trans {left middle right : Version} (first : SameShape left middle)
    (second : SameShape middle right) : SameShape left right :=
  ⟨first.release.trans second.release, first.pre.trans second.pre,
    first.post.trans second.post, first.dev.trans second.dev, first.label.trans second.label⟩

end SameShape

/-- The number of a part, if there is one. -/
def partNumbers (part : Option UInt64) : List ℕ :=
  part.toList.map UInt64.toNat

/-- The numbers of a pre-release, if there is one: the rank of its phase and its own. -/
def preNumbers (pre : Option PreRelease) : List ℕ :=
  pre.elim [] fun pre => [pre.phase.rank, pre.number.toNat]

/-- The numbers of a version in the order of their weight. -/
def coordinates (version : Version) : List ℕ :=
  version.epoch.toNat :: (version.release.map UInt64.toNat ++
    (preNumbers version.pre ++ (partNumbers version.post ++ partNumbers version.dev)))

/-! ## Lists of one length -/

/-- Of lists that begin with equally many numbers, the first difference among these decides. -/
theorem append_lt_append {left right : List ℕ} (lefts rights : List ℕ)
    (length : left.length = right.length) (less : left < right) :
    left ++ lefts < right ++ rights := by
  induction left generalizing right with
  | nil =>
    obtain rfl := List.eq_nil_of_length_eq_zero length.symm
    exact absurd less (lt_irrefl [])
  | cons number more inductionHypothesis =>
    cases right with
    | nil => cases length
    | cons other others =>
      rw [List.cons_lt_cons_iff] at less
      refine List.cons_lt_cons_iff.2 ?_
      rcases less with first | ⟨same, later⟩
      · exact .inl first
      · exact .inr ⟨same, inductionHypothesis (Nat.succ.inj length) later⟩

/-- Lists compare by what they begin with and then by the rest. -/
theorem compares_append {left right lefts rights : List ℕ} {first others : Ordering}
    (length : left.length = right.length) (firstCompares : first.Compares left right)
    (othersCompare : others.Compares lefts rights) :
    (first.then others).Compares (left ++ lefts) (right ++ rights) := by
  cases first with
  | lt => exact append_lt_append _ _ length firstCompares
  | gt => exact append_lt_append _ _ length.symm firstCompares
  | eq =>
    obtain rfl : left = right := firstCompares
    cases others with
    | lt => exact List.append_left_lt othersCompare
    | gt => exact List.append_left_lt othersCompare
    | eq => exact congrArg (left ++ ·) othersCompare

/-- Nothing is skipped when the last number is raised by one: no list of the same
length stands in between. -/
theorem append_succ_le {front other : List ℕ} {last : ℕ}
    (length : other.length = front.length + 1) (less : front ++ [last] < other) :
    front ++ [last + 1] ≤ other := by
  induction front generalizing other with
  | nil =>
    obtain ⟨number, rfl⟩ := List.length_eq_one_iff.1 length
    have above : last < number :=
      (List.cons_lt_cons_iff.1 less).resolve_right fun later => lt_irrefl [] later.2
    rcases Nat.lt_or_eq_of_le above with farther | rfl
    · exact le_of_lt (List.cons_lt_cons_iff.2 (.inl farther))
    · exact le_rfl
  | cons number more inductionHypothesis =>
    cases other with
    | nil => cases length
    | cons first others =>
      rw [List.cons_append, List.cons_lt_cons_iff] at less
      rcases less with before | ⟨rfl, later⟩
      · exact le_of_lt (List.cons_lt_cons_iff.2 (.inl before))
      · rcases lt_or_eq_of_le (inductionHypothesis (Nat.succ.inj length) later) with below | same
        · exact le_of_lt (List.cons_lt_cons_iff.2 (.inr ⟨rfl, below⟩))
        · exact le_of_eq (congrArg (number :: ·) same)

/-! ## The parts -/

theorem compares_segments {left right : List UInt64} (length : left.length = right.length) :
    (compareRelease left right).Compares (left.map UInt64.toNat) (right.map UInt64.toNat) := by
  induction left generalizing right with
  | nil =>
    obtain rfl := List.eq_nil_of_length_eq_zero length.symm
    rw [compareRelease]
    rfl
  | cons segment more inductionHypothesis =>
    cases right with
    | nil => cases length
    | cons other others =>
      rw [compareRelease]
      exact compares_cons (compares_toNat segment other)
        (inductionHypothesis (Nat.succ.inj length))

theorem compares_partNumbers {left right : Option UInt64}
    (presence : left.isSome = right.isSome) :
    (compare left right).Compares (partNumbers left) (partNumbers right) := by
  cases left with
  | none =>
    cases right with
    | none => exact rfl
    | some other => cases presence
  | some number =>
    cases right with
    | none => cases presence
    | some other =>
      have nothing : Ordering.eq.Compares ([] : List ℕ) [] := rfl
      have single := compares_cons (compares_toNat number other) nothing
      rwa [Ordering.then_eq] at single

/-- Only the presence of a development number makes its comparison a special one. -/
theorem compareDev_of_presence {left right : Option UInt64}
    (presence : left.isSome = right.isSome) : compareDev left right = compare left right := by
  cases left with
  | none =>
    cases right with
    | none => rfl
    | some other => cases presence
  | some number =>
    cases right with
    | none => cases presence
    | some other => rfl

theorem maturity_of_pre {version : Version} {pre : PreRelease}
    (present : version.pre = some pre) : version.maturity = .preRelease pre := by
  unfold maturity
  rw [present]

theorem maturity_of_noPre {version : Version} (absent : version.pre = none) :
    version.maturity =
      if version.dev.isSome ∧ ¬version.post.isSome then .snapshot else .final := by
  unfold maturity
  rw [absent]
  cases version.post <;> cases version.dev <;> rfl

theorem compares_preNumbers {left right : Version} (same : SameShape left right) :
    (compare left.maturity right.maturity).Compares (preNumbers left.pre)
      (preNumbers right.pre) := by
  have presence := same.pre
  cases leftPre : left.pre with
  | none =>
    rw [leftPre] at presence
    have rightPre : right.pre = none := by simpa using presence.symm
    -- Without a pre-release, the maturity depends on nothing but the shape.
    have maturities : left.maturity = right.maturity := by
      rw [maturity_of_noPre leftPre, maturity_of_noPre rightPre, same.dev, same.post]
    rw [maturities, rightPre, Std.ReflOrd.compare_self]
    rfl
  | some pre =>
    rw [leftPre] at presence
    obtain ⟨other, rightPre⟩ := Option.isSome_iff_exists.1 presence.symm
    rw [rightPre, maturity_of_pre leftPre, maturity_of_pre rightPre]
    have phases : (compare pre.phase other.phase).Compares pre.phase.rank other.phase.rank :=
      (compare_iff _ _).1 rfl
    have numbers : (compare (some pre.number) (some other.number)).Compares
        (partNumbers (some pre.number)) (partNumbers (some other.number)) :=
      compares_partNumbers rfl
    exact compares_cons phases numbers

theorem length_partNumbers (part : Option UInt64) :
    (partNumbers part).length = if part.isSome then 1 else 0 := by
  cases part <;> rfl

theorem length_preNumbers (pre : Option PreRelease) :
    (preNumbers pre).length = if pre.isSome then 2 else 0 := by
  cases pre <;> rfl

/-! ## The order -/

theorem length_coordinates {left right : Version} (same : SameShape left right) :
    left.coordinates.length = right.coordinates.length := by
  simp only [coordinates, List.length_cons, List.length_append, List.length_map,
    length_preNumbers, length_partNumbers, same.release, same.pre, same.post, same.dev]

/-- Versions of one shape compare as their coordinates do. -/
theorem compares_coordinates {left right : Version} (same : SameShape left right) :
    (compare left right).Compares left.coordinates right.coordinates := by
  have labels : compareLabel left.label right.label = .eq := by
    rw [same.label]
    exact Std.ReflOrd.compare_self
  have segments : (left.release.map UInt64.toNat).length =
      (right.release.map UInt64.toNat).length := by
    rw [List.length_map, List.length_map, same.release]
  have pres : (preNumbers left.pre).length = (preNumbers right.pre).length := by
    rw [length_preNumbers, length_preNumbers, same.pre]
  have posts : (partNumbers left.post).length = (partNumbers right.post).length := by
    rw [length_partNumbers, length_partNumbers, same.post]
  change (Version.compare left right).Compares _ _
  rw [Version.compare, labels, Ordering.then_eq, compareDev_of_presence same.dev]
  simp only [Ordering.then_assoc]
  exact compares_cons (compares_toNat left.epoch right.epoch) <|
    compares_append segments (compares_segments same.release) <|
    compares_append pres (compares_preNumbers same) <|
    compares_append posts (compares_partNumbers same.post) (compares_partNumbers same.dev)

theorem lt_iff_coordinates_lt {left right : Version} (same : SameShape left right) :
    left < right ↔ left.coordinates < right.coordinates :=
  (compares_coordinates same).eq_lt

theorem le_iff_coordinates_le {left right : Version} (same : SameShape left right) :
    left ≤ right ↔ left.coordinates ≤ right.coordinates :=
  Ordering.isLE_iff_ne_gt.trans (compares_coordinates same).ne_gt

end ReleasePilot.Version
