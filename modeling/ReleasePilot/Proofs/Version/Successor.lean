import ReleasePilot.Proofs.Version.Coordinates

/-!
# The successor of a version

The successor raises the most specific number of a version by one and keeps all else,
so that it comes later (`increment_raises`). Among the versions of one shape it is the
first that does (`increment_least`), since the most specific number is the last
coordinate.
-/

namespace ReleasePilot.Version

/-- The most specific number of a version, with the version as it is when another
number takes its place: the development number, else the post-release, else the number
of the pre-release, else the last segment. -/
inductive MostSpecific (version : Version) : UInt64 → (UInt64 → Version) → Prop where
  | dev {number : UInt64} (present : version.dev = some number) :
      MostSpecific version number fun other => { version with dev := some other }
  | post {number : UInt64} (noDev : version.dev = none) (present : version.post = some number) :
      MostSpecific version number fun other => { version with post := some other }
  | pre {pre : PreRelease} (noDev : version.dev = none) (noPost : version.post = none)
      (present : version.pre = some pre) :
      MostSpecific version pre.number fun other =>
        { version with pre := some { pre with number := other } }
  | segment {front : List UInt64} {last : UInt64} (noDev : version.dev = none)
      (noPost : version.post = none) (noPre : version.pre = none)
      (release : version.release = front ++ [last]) :
      MostSpecific version last fun other => { version with release := front ++ [other] }

/-- A version of an empty release with nothing behind it, which has no number to raise. -/
structure IsBare (version : Version) : Prop where
  noDev : version.dev = none
  noPost : version.post = none
  noPre : version.pre = none
  noRelease : version.release = []

/-! ## Raising a number -/

theorem bumpLast?_append (front : List UInt64) (last : UInt64) :
    bumpLast? (front ++ [last]) = (Text.successor? last).map (front ++ [·]) := by
  induction front with
  | nil => rfl
  | cons segment more inductionHypothesis =>
    obtain ⟨next, others, goesOn⟩ : ∃ next others, more ++ [last] = next :: others :=
      List.exists_cons_of_ne_nil (List.append_ne_nil_of_right_ne_nil more (List.cons_ne_nil _ _))
    rw [List.cons_append, goesOn, bumpLast?, ← goesOn, inductionHypothesis, Option.map_map]
    rfl

/-- Every version has a number to raise unless it is bare. -/
theorem isBare_or_mostSpecific (version : Version) :
    version.IsBare ∨ ∃ number place, MostSpecific version number place := by
  cases noDev : version.dev with
  | some number => exact .inr ⟨_, _, .dev noDev⟩
  | none =>
    cases noPost : version.post with
    | some number => exact .inr ⟨_, _, .post noDev noPost⟩
    | none =>
      cases noPre : version.pre with
      | some pre => exact .inr ⟨_, _, .pre noDev noPost noPre⟩
      | none =>
        rcases List.eq_nil_or_concat version.release with noRelease | ⟨front, last, release⟩
        · exact .inl ⟨noDev, noPost, noPre, noRelease⟩
        · rw [List.concat_eq_append] at release
          exact .inr ⟨_, _, .segment noDev noPost noPre release⟩

namespace MostSpecific

variable {version : Version} {number : UInt64} {place : UInt64 → Version}

theorem next? (specific : MostSpecific version number place) :
    version.next? = (Text.successor? number).map place := by
  unfold Version.next?
  cases specific with
  | dev present => rw [present]
  | post noDev present => rw [noDev, present]
  | pre noDev noPost present =>
    rw [noDev, noPost, present]
    exact Option.map_map ..
  | segment noDev noPost noPre release =>
    rw [noDev, noPost, noPre, release, bumpLast?_append, Option.map_map]
    rfl

theorem increment_of_next {next : UInt64} (specific : MostSpecific version number place)
    (follows : next.toNat = number.toNat + 1) : version.increment = .ok (place next) := by
  rw [Version.increment, specific.next?, Text.successor?_eq_some_iff.2 follows]
  rfl

theorem increment_of_largest (specific : MostSpecific version number place)
    (largest : number.toNat = UInt64.size - 1) :
    version.increment = .error (.noSuccessor version.text) := by
  rw [Version.increment, specific.next?, Text.successor?_eq_none_iff.2 largest]
  rfl

/-- The number in place is the version's own. -/
theorem place_number (specific : MostSpecific version number place) : place number = version := by
  cases specific with
  | dev present => simp only [← present]
  | post noDev present => simp only [← present]
  | pre noDev noPost present => simp only [← present]
  | segment noDev noPost noPre release => simp only [← release]

theorem sameShape (specific : MostSpecific version number place) (other : UInt64) :
    SameShape version (place other) := by
  cases specific with
  | dev present => exact ⟨rfl, rfl, rfl, by rw [present]; rfl, rfl⟩
  | post noDev present => exact ⟨rfl, rfl, by rw [present]; rfl, rfl, rfl⟩
  | pre noDev noPost present => exact ⟨rfl, by rw [present]; rfl, rfl, rfl, rfl⟩
  | segment noDev noPost noPre release =>
    refine ⟨?_, rfl, rfl, rfl, rfl⟩
    rw [release, List.length_append, List.length_append]
    rfl

/-- The most specific number is the last coordinate. -/
theorem coordinates_place (specific : MostSpecific version number place) :
    ∃ front, ∀ other, (place other).coordinates = front ++ [other.toNat] := by
  cases specific with
  | dev present =>
    refine ⟨version.epoch.toNat :: (version.release.map UInt64.toNat ++
      (preNumbers version.pre ++ partNumbers version.post)), fun other => ?_⟩
    simp [coordinates, partNumbers]
  | post noDev present =>
    refine ⟨version.epoch.toNat :: (version.release.map UInt64.toNat ++
      preNumbers version.pre), fun other => ?_⟩
    simp [coordinates, partNumbers, noDev]
  | @pre pre noDev noPost present =>
    refine ⟨version.epoch.toNat :: (version.release.map UInt64.toNat ++
      [pre.phase.rank]), fun other => ?_⟩
    simp [coordinates, partNumbers, preNumbers, noDev, noPost]
  | @segment front last noDev noPost noPre release =>
    refine ⟨version.epoch.toNat :: front.map UInt64.toNat, fun other => ?_⟩
    simp [coordinates, partNumbers, preNumbers, noDev, noPost, noPre]

theorem lt_place {other : UInt64} (specific : MostSpecific version number place)
    (less : number.toNat < other.toNat) : version < place other := by
  obtain ⟨front, coordinates⟩ := specific.coordinates_place
  have own := coordinates number
  rw [specific.place_number] at own
  refine (lt_iff_coordinates_lt (specific.sameShape other)).2 ?_
  rw [own, coordinates]
  exact List.append_left_lt (List.cons_lt_cons_iff.2 (.inl less))

/-- No version of the same shape stands between a version and the one whose most
specific number is the next. -/
theorem place_le {next : UInt64} {other : Version}
    (specific : MostSpecific version number place) (follows : next.toNat = number.toNat + 1)
    (same : SameShape version other) (later : version < other) : place next ≤ other := by
  obtain ⟨front, coordinates⟩ := specific.coordinates_place
  have own := coordinates number
  rw [specific.place_number] at own
  have length := length_coordinates same
  rw [own, List.length_append, List.length_singleton] at length
  rw [lt_iff_coordinates_lt same, own] at later
  rw [le_iff_coordinates_le ((specific.sameShape next).symm.trans same), coordinates, follows]
  exact append_succ_le length.symm later

end MostSpecific

/-! ## The successor -/

/-- A version without a successor is reported as an invalid version. -/
theorem message_noSuccessor (text : String) :
    ReleaseError.message (.noSuccessor text) =
      ReleaseError.message (.invalidVersion (text ++ " has no successor")) := by
  unfold ReleaseError.message
  simp only [String.append_assoc]
  rfl

theorem lt_release_one {version : Version} (bare : version.IsBare) :
    version < { version with release := [1] } := by
  have release : compareRelease version.release [1] = .lt := by
    rw [bare.noRelease, compareRelease]
    rfl
  change Version.compare _ _ = .lt
  rw [Version.compare, Std.ReflOrd.compare_self, release]
  rfl

/-- What is raised is the most specific number, by one. -/
theorem exists_place_of_increment {version next : Version} (segmented : version.release ≠ [])
    (follows : version.increment = .ok next) :
    ∃ number raised place, MostSpecific version number place ∧
      raised.toNat = number.toNat + 1 ∧ next = place raised := by
  rcases isBare_or_mostSpecific version with bare | ⟨number, place, specific⟩
  · exact absurd bare.noRelease segmented
  · cases following : Text.successor? number with
    | none =>
      have largest := Text.successor?_eq_none_iff.1 following
      rw [specific.increment_of_largest largest] at follows
      cases follows
    | some raised =>
      have exactly := Text.successor?_eq_some_iff.1 following
      rw [specific.increment_of_next exactly] at follows
      exact ⟨number, raised, place, specific, exactly, (Except.ok.inj follows).symm⟩

theorem lt_of_increment {version next : Version} (segmented : version.release ≠ [])
    (follows : version.increment = .ok next) : version < next := by
  obtain ⟨number, raised, place, specific, exactly, rfl⟩ :=
    exists_place_of_increment segmented follows
  exact specific.lt_place (by omega)

/-- The successor of a version has its label, and segments if the version has some. -/
theorem kept_of_increment {version next : Version} (segmented : version.release ≠ [])
    (follows : version.increment = .ok next) : next.release ≠ [] ∧ next.label = version.label := by
  obtain ⟨number, raised, place, specific, -, rfl⟩ := exists_place_of_increment segmented follows
  obtain ⟨release, -, -, -, label⟩ := specific.sameShape raised
  refine ⟨fun nothing => segmented ?_, label.symm⟩
  rw [nothing, List.length_nil] at release
  exact List.eq_nil_of_length_eq_zero release

/-- The successor of a version raises its most specific number by exactly one and comes
later; the largest number is not raised but reported as that of an invalid version. -/
theorem increment_raises (version : Version) :
    (∀ number place, MostSpecific version number place →
      (number.toNat < UInt64.size - 1 → ∃ next : UInt64, next.toNat = number.toNat + 1 ∧
        version.increment = .ok (place next) ∧ version < place next) ∧
      (number.toNat = UInt64.size - 1 → version.increment = .error (.noSuccessor version.text) ∧
        ReleaseError.message (.noSuccessor version.text) =
          ReleaseError.message (.invalidVersion (version.text ++ " has no successor")))) ∧
      (version.IsBare → version.increment = .ok { version with release := [1] } ∧
        version < { version with release := [1] }) ∧
      (version.IsBare ∨ ∃ number place, MostSpecific version number place) := by
  refine ⟨fun number place specific => ⟨fun below => ?_, fun largest => ?_⟩, fun bare => ?_,
    isBare_or_mostSpecific version⟩
  · cases following : Text.successor? number with
    | none =>
      have largest := Text.successor?_eq_none_iff.1 following
      omega
    | some next =>
      have follows := Text.successor?_eq_some_iff.1 following
      exact ⟨next, follows, specific.increment_of_next follows, specific.lt_place (by omega)⟩
  · exact ⟨specific.increment_of_largest largest, message_noSuccessor version.text⟩
  · refine ⟨?_, lt_release_one bare⟩
    rw [increment, next?, bare.noDev, bare.noPost, bare.noPre, bare.noRelease]
    rfl

/-- The number of the pre-release of `2!1.0b18446744073709551614` can be raised once more. -/
theorem increment_raises_limit :
    let version (number : UInt64) : Version :=
      { epoch := 2, release := [1, 0], pre := some ⟨.beta, number⟩ }
    (∃ next : UInt64, next.toNat = UInt64.size - 1 ∧
      (version 18446744073709551614).increment = .ok (version next) ∧
      version 18446744073709551614 < version next) ∧
      (version 18446744073709551615).increment =
        .error (.noSuccessor (version 18446744073709551615).text) := by
  intro version
  have specific (number : UInt64) : MostSpecific (version number) number version :=
    @MostSpecific.pre (version number) ⟨.beta, number⟩ rfl rfl rfl
  have below := ((increment_raises _).1 _ _ (specific 18446744073709551614)).1 (by decide)
  have largest := ((increment_raises _).1 _ _ (specific 18446744073709551615)).2 (by decide)
  exact ⟨below, largest.1⟩

/-- The successor of a version is the first of its shape that comes later. -/
theorem increment_least {version next : Version} (nonempty : version.release ≠ [])
    (follows : version.increment = .ok next) :
    SameShape version next ∧ version < next ∧
      ∀ other, SameShape version other → version < other → next ≤ other := by
  rcases isBare_or_mostSpecific version with bare | ⟨number, place, specific⟩
  · exact absurd bare.noRelease nonempty
  · cases following : Text.successor? number with
    | none =>
      have largest := Text.successor?_eq_none_iff.1 following
      rw [specific.increment_of_largest largest] at follows
      cases follows
    | some raised =>
      have exactly := Text.successor?_eq_some_iff.1 following
      rw [specific.increment_of_next exactly] at follows
      obtain rfl := Except.ok.inj follows
      exact ⟨specific.sameShape raised, specific.lt_place (by omega),
        fun other same later => specific.place_le exactly same later⟩

/-- After `1.9.post3` comes `1.9.post4`, which is not later than `1.10.post0`. -/
theorem increment_least_post :
    let version : Version := { release := [1, 9], post := some 3 }
    let next : Version := { release := [1, 9], post := some 4 }
    let other : Version := { release := [1, 10], post := some 0 }
    version.increment = .ok next ∧ SameShape version other ∧ version < other ∧ next ≤ other := by
  intro version next other
  have follows : version.increment = .ok next := rfl
  have same : SameShape version other := ⟨rfl, rfl, rfl, rfl, rfl⟩
  have later : version < other := by
    change compare version other = .lt
    rw [compare_eq_compareKeys]
    decide
  exact ⟨follows, same, later,
    (increment_least (List.cons_ne_nil _ _) follows).2.2 other same later⟩

end ReleasePilot.Version
