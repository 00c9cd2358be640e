import Mathlib.Data.List.DropRight
import Mathlib.Data.List.Lex
import Mathlib.Data.Prod.Lex
import Mathlib.Order.WithBot
import ReleasePilot.Proofs.Version.TotalOrder

/-!
# The reference order

Without labels, versions compare as their reference keys do: tuples of natural
numbers in lexicographic order, in which an absent part counts as a bottom or as
a top. The comparison itself fills up releases with zeros and tells three kinds of
maturity apart; `compares_referenceKey` says that this comes to the same.
-/

namespace ReleasePilot.Version

/-! ## Keys -/

/-- Epoch, release, pre-release, post-release and development number, the earlier
ones having more weight. -/
def ReferenceKey : Type :=
  ℕ ×ₗ List ℕ ×ₗ WithBot (WithTop (ℕ ×ₗ ℕ)) ×ₗ WithBot ℕ ×ₗ WithTop ℕ

instance : LinearOrder ReferenceKey :=
  inferInstanceAs <| LinearOrder <|
    ℕ ×ₗ List ℕ ×ₗ WithBot (WithTop (ℕ ×ₗ ℕ)) ×ₗ WithBot ℕ ×ₗ WithTop ℕ

/-- The segments of a release without the trailing zeros. -/
def releaseKey (release : List UInt64) : List ℕ :=
  (release.map UInt64.toNat).rdropWhile (· = 0)

/-- A pre-release has its phase and its number. Without one, a development snapshot
of a final release is below every pre-release, and all else above. -/
def preKey (version : Version) : WithBot (WithTop (ℕ ×ₗ ℕ)) :=
  match version.pre with
  | some pre => WithBot.some (WithTop.some (toLex (pre.phase.rank, pre.number.toNat)))
  | none => if version.post = none ∧ version.dev ≠ none then ⊥ else WithBot.some ⊤

/-- No post-release is below every post-release. -/
def postKey (post : Option UInt64) : WithBot ℕ :=
  post.elim ⊥ fun number => WithBot.some number.toNat

/-- No development number is above every development number. -/
def devKey (dev : Option UInt64) : WithTop ℕ :=
  dev.elim ⊤ fun number => WithTop.some number.toNat

/-- The reference key of a version, which leaves out the label. -/
def referenceKey (version : Version) : ReferenceKey :=
  toLex (version.epoch.toNat, toLex (releaseKey version.release,
    toLex (version.preKey, toLex (postKey version.post, devKey version.dev))))

/-! ## Comparing by keys -/

/-- Pairs compare by their first parts and then by their second parts. -/
theorem compares_toLex {First Second : Type} [LT First] [LT Second] {left right : First × Second}
    {first second : Ordering} (firstCompares : first.Compares left.1 right.1)
    (secondCompares : second.Compares left.2 right.2) :
    (first.then second).Compares (toLex left) (toLex right) := by
  cases first with
  | lt => exact Prod.Lex.toLex_lt_toLex.2 (.inl firstCompares)
  | gt => exact Prod.Lex.toLex_lt_toLex.2 (.inl firstCompares)
  | eq =>
    have same : left.1 = right.1 := firstCompares
    cases second with
    | lt => exact Prod.Lex.toLex_lt_toLex.2 (.inr ⟨same, secondCompares⟩)
    | gt => exact Prod.Lex.toLex_lt_toLex.2 (.inr ⟨same.symm, secondCompares⟩)
    | eq => exact congrArg toLex (Prod.ext same secondCompares)

/-- Lists compare by their first elements and then by the others. -/
theorem compares_cons {Element : Type} [LT Element] {left right : Element}
    {lefts rights : List Element} {first others : Ordering}
    (firstCompares : first.Compares left right) (othersCompare : others.Compares lefts rights) :
    (first.then others).Compares (left :: lefts) (right :: rights) := by
  cases first with
  | lt => exact List.cons_lt_cons_iff.2 (.inl firstCompares)
  | gt => exact List.cons_lt_cons_iff.2 (.inl firstCompares)
  | eq =>
    have same : left = right := firstCompares
    cases others with
    | lt => exact List.cons_lt_cons_iff.2 (.inr ⟨same, othersCompare⟩)
    | gt => exact List.cons_lt_cons_iff.2 (.inr ⟨same.symm, othersCompare⟩)
    | eq => exact congrArg₂ List.cons same othersCompare

theorem compares_toNat (left right : UInt64) :
    (compare left right).Compares left.toNat right.toNat := by
  cases order : compare left right with
  | lt => exact UInt64.lt_iff_toNat_lt.1 (Std.compare_eq_lt.1 order)
  | eq => exact congrArg UInt64.toNat (Std.LawfulEqOrd.eq_of_compare order)
  | gt => exact UInt64.lt_iff_toNat_lt.1 (Std.compare_eq_gt.1 order)

/-- Lists compare as the lists of their keys do, if elements compare as their keys do. -/
theorem compares_map {Element Key : Type} [Ord Element] [LT Key] {key : Element → Key}
    (compares : ∀ left right, (compare left right).Compares (key left) (key right))
    (left right : List Element) : (compare left right).Compares (left.map key) (right.map key) := by
  induction left generalizing right with
  | nil =>
    cases right with
    | nil => exact rfl
    | cons element more => exact List.nil_lt_cons _ _
  | cons element more inductionHypothesis =>
    cases right with
    | nil => exact List.nil_lt_cons _ _
    | cons other others =>
      rw [List.compare_cons_cons]
      exact compares_cons (compares element other) (inductionHypothesis others)

/-- What is significant of a release are the segments of its key. -/
theorem map_significant (release : List UInt64) :
    (significant release).map UInt64.toNat = releaseKey release := by
  have sameTest : (fun number => decide (number = 0)) ∘ UInt64.toNat = (· == 0) := by
    funext segment
    rw [Bool.eq_iff_iff, Function.comp_apply, decide_eq_true_iff, beq_iff_eq, ← UInt64.toNat_inj]
    rfl
  rw [significant, releaseKey, List.rdropWhile, ← List.map_reverse, List.dropWhile_map,
    ← List.map_reverse, sameTest]

theorem compares_releaseKey (left right : List UInt64) :
    (compareRelease left right).Compares (releaseKey left) (releaseKey right) := by
  rw [compareRelease_eq, ← map_significant, ← map_significant]
  exact compares_map compares_toNat _ _

theorem compares_preReleaseKey (left right : PreRelease) :
    (compare left right).Compares (toLex (left.phase.rank, left.number.toNat))
      (toLex (right.phase.rank, right.number.toNat)) := by
  have phases : (compare left.phase right.phase).Compares left.phase.rank right.phase.rank :=
    (compare_iff _ _).1 rfl
  exact compares_toLex phases (compares_toNat left.number right.number)

/-- The key of a maturity, with the two that are no pre-release at the ends. -/
def maturityKey : Maturity → WithBot (WithTop (ℕ ×ₗ ℕ))
  | .snapshot => ⊥
  | .preRelease pre => WithBot.some (WithTop.some (toLex (pre.phase.rank, pre.number.toNat)))
  | .final => WithBot.some ⊤

theorem preKey_eq_maturityKey (version : Version) :
    version.preKey = maturityKey version.maturity := by
  unfold preKey maturity
  cases version.pre with
  | some pre => rfl
  | none => cases version.post <;> cases version.dev <;> rfl

theorem compares_maturityKey (left right : Maturity) :
    (compare left right).Compares (maturityKey left) (maturityKey right) := by
  cases left with
  | snapshot =>
    cases right with
    | snapshot => exact rfl
    | preRelease pre => exact WithBot.bot_lt_coe _
    | final => exact WithBot.bot_lt_coe _
  | preRelease pre =>
    cases right with
    | snapshot => exact WithBot.bot_lt_coe _
    | preRelease other =>
      have inside := compares_preReleaseKey pre other
      exact WithBot.coe_strictMono.compares.2 (WithTop.coe_strictMono.compares.2 inside)
    | final => exact WithBot.coe_lt_coe.2 (WithTop.coe_lt_top _)
  | final =>
    cases right with
    | snapshot => exact WithBot.bot_lt_coe _
    | preRelease pre => exact WithBot.coe_lt_coe.2 (WithTop.coe_lt_top _)
    | final => exact rfl

theorem compares_postKey (left right : Option UInt64) :
    (compare left right).Compares (postKey left) (postKey right) := by
  cases left with
  | none =>
    cases right with
    | none => exact rfl
    | some right => exact WithBot.bot_lt_coe right.toNat
  | some left =>
    cases right with
    | none => exact WithBot.bot_lt_coe left.toNat
    | some right => exact WithBot.coe_strictMono.compares.2 (compares_toNat left right)

theorem compares_devKey (left right : Option UInt64) :
    (compareDev left right).Compares (devKey left) (devKey right) := by
  cases left with
  | none =>
    cases right with
    | none => exact rfl
    | some right => exact WithTop.coe_lt_top right.toNat
  | some left =>
    cases right with
    | none => exact WithTop.coe_lt_top left.toNat
    | some right => exact WithTop.coe_strictMono.compares.2 (compares_toNat left right)

/-- Versions without labels compare as their reference keys do. -/
theorem compares_referenceKey {left right : Version} (leftPlain : left.label = none)
    (rightPlain : right.label = none) :
    (compare left right).Compares left.referenceKey right.referenceKey := by
  have labels : compareLabel left.label right.label = .eq := by
    rw [leftPlain, rightPlain]
    rfl
  have maturities := compares_maturityKey left.maturity right.maturity
  rw [← preKey_eq_maturityKey, ← preKey_eq_maturityKey] at maturities
  change (Version.compare left right).Compares _ _
  rw [Version.compare, labels, Ordering.then_eq]
  simp only [Ordering.then_assoc]
  exact compares_toLex (compares_toNat left.epoch right.epoch) <|
    compares_toLex (compares_releaseKey left.release right.release) <|
    compares_toLex maturities <|
    compares_toLex (compares_postKey left.post right.post) (compares_devKey left.dev right.dev)

/-! ## The ladder of one release -/

/-- A version of a release without a label. -/
def unlabelled (epoch : UInt64) (release : List UInt64) (pre : Option PreRelease)
    (post dev : Option UInt64) : Version :=
  { epoch, release, pre, post, dev }

/-- The order of the versions of one epoch and release: development snapshots,
pre-releases, the final release, post-releases, and above them all what belongs to
a larger release. -/
structure Ladder (epoch : UInt64) (release : List UInt64) : Prop where
  snapshot_lt_pre : ∀ snapshot pre post dev,
    compare (unlabelled epoch release none none (some snapshot))
      (unlabelled epoch release (some pre) post dev) = .lt
  preDev_lt_pre : ∀ pre dev,
    compare (unlabelled epoch release (some pre) none (some dev))
      (unlabelled epoch release (some pre) none none) = .lt
  pre_lt_prePost : ∀ pre post dev,
    compare (unlabelled epoch release (some pre) none none)
      (unlabelled epoch release (some pre) (some post) dev) = .lt
  pre_lt_final : ∀ pre post dev,
    compare (unlabelled epoch release (some pre) post dev)
      (unlabelled epoch release none none none) = .lt
  final_lt_postDev : ∀ post dev,
    compare (unlabelled epoch release none none none)
      (unlabelled epoch release none (some post) (some dev)) = .lt
  postDev_lt_post : ∀ post dev,
    compare (unlabelled epoch release none (some post) (some dev))
      (unlabelled epoch release none (some post) none) = .lt
  all_lt_larger : ∀ larger, releaseKey release < releaseKey larger →
    ∀ pre post dev largerPre largerPost largerDev,
      compare (unlabelled epoch release pre post dev)
        (unlabelled epoch larger largerPre largerPost (some largerDev)) = .lt

theorem compare_eq_lt_of_referenceKey_lt {left right : Version} (leftPlain : left.label = none)
    (rightPlain : right.label = none) (less : left.referenceKey < right.referenceKey) :
    compare left right = .lt :=
  (compares_referenceKey leftPlain rightPlain).eq_lt.2 less

section Rungs

variable {epoch : UInt64} {release : List UInt64} {pre otherPre : Option PreRelease}
  {post dev otherPost otherDev : Option UInt64}

/-- Versions of one epoch and release are told apart by the rest of their keys. -/
theorem compare_eq_lt_of_qualifiers
    (less : toLex ((unlabelled epoch release pre post dev).preKey,
        toLex (postKey post, devKey dev)) <
      toLex ((unlabelled epoch release otherPre otherPost otherDev).preKey,
        toLex (postKey otherPost, devKey otherDev))) :
    compare (unlabelled epoch release pre post dev)
      (unlabelled epoch release otherPre otherPost otherDev) = .lt := by
  apply compare_eq_lt_of_referenceKey_lt rfl rfl
  exact Prod.Lex.toLex_lt_toLex.2 (.inr ⟨rfl, Prod.Lex.toLex_lt_toLex.2 (.inr ⟨rfl, less⟩)⟩)

theorem compare_eq_lt_of_preKey
    (less : (unlabelled epoch release pre post dev).preKey <
      (unlabelled epoch release otherPre otherPost otherDev).preKey) :
    compare (unlabelled epoch release pre post dev)
      (unlabelled epoch release otherPre otherPost otherDev) = .lt :=
  compare_eq_lt_of_qualifiers (Prod.Lex.toLex_lt_toLex.2 (.inl less))

theorem compare_eq_lt_of_postKey
    (same : (unlabelled epoch release pre post dev).preKey =
      (unlabelled epoch release otherPre otherPost otherDev).preKey)
    (less : postKey post < postKey otherPost) :
    compare (unlabelled epoch release pre post dev)
      (unlabelled epoch release otherPre otherPost otherDev) = .lt := by
  have posts : toLex (postKey post, devKey dev) < toLex (postKey otherPost, devKey otherDev) :=
    Prod.Lex.toLex_lt_toLex.2 (.inl less)
  exact compare_eq_lt_of_qualifiers (Prod.Lex.toLex_lt_toLex.2 (.inr ⟨same, posts⟩))

theorem compare_eq_lt_of_devKey
    (same : (unlabelled epoch release pre post dev).preKey =
      (unlabelled epoch release otherPre post otherDev).preKey)
    (less : devKey dev < devKey otherDev) :
    compare (unlabelled epoch release pre post dev)
      (unlabelled epoch release otherPre post otherDev) = .lt := by
  have devs : toLex (postKey post, devKey dev) < toLex (postKey post, devKey otherDev) :=
    Prod.Lex.toLex_lt_toLex.2 (.inr ⟨rfl, less⟩)
  exact compare_eq_lt_of_qualifiers (Prod.Lex.toLex_lt_toLex.2 (.inr ⟨same, devs⟩))

end Rungs

theorem ladder (epoch : UInt64) (release : List UInt64) : Ladder epoch release where
  snapshot_lt_pre snapshot pre post dev :=
    compare_eq_lt_of_preKey (WithBot.bot_lt_coe _)
  preDev_lt_pre pre dev :=
    compare_eq_lt_of_devKey rfl (WithTop.coe_lt_top dev.toNat)
  pre_lt_prePost pre post dev :=
    compare_eq_lt_of_postKey rfl (WithBot.bot_lt_coe post.toNat)
  pre_lt_final pre post dev :=
    compare_eq_lt_of_preKey (WithBot.coe_lt_coe.2 (WithTop.coe_lt_top _))
  final_lt_postDev post dev :=
    compare_eq_lt_of_postKey rfl (WithBot.bot_lt_coe post.toNat)
  postDev_lt_post post dev :=
    compare_eq_lt_of_devKey rfl (WithTop.coe_lt_top dev.toNat)
  all_lt_larger larger less pre post dev largerPre largerPost largerDev := by
    apply compare_eq_lt_of_referenceKey_lt rfl rfl
    exact Prod.Lex.toLex_lt_toLex.2 (.inr ⟨rfl, Prod.Lex.toLex_lt_toLex.2 (.inl less)⟩)

end ReleasePilot.Version
