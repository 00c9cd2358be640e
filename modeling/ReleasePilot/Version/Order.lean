import ReleasePilot.Text.Split
import ReleasePilot.Version.Basic

/-!
# The order of versions

Versions compare by epoch, release, pre-release, post-release, development
number and local label, in this order of weight. Two versions are the same
release exactly when they compare equal, whatever their fields: `1.0` and
`1.0.0` are the same.
-/

namespace ReleasePilot

namespace Version

/-- Compares release segments, the shorter release being filled up with zeros. -/
def compareRelease : List UInt64 → List UInt64 → Ordering
  | [], [] => .eq
  | [], right :: rights => (compare 0 right).then (compareRelease [] rights)
  | left :: lefts, [] => (compare left 0).then (compareRelease lefts [])
  | left :: lefts, right :: rights =>
    (compare left right).then (compareRelease lefts rights)
termination_by left right => left.length + right.length

/-- Where a version stands among those of its release: a development snapshot
of the final release before every pre-release, and these before the rest. -/
inductive Maturity where
  | snapshot
  | preRelease (pre : PreRelease)
  | final
deriving DecidableEq, Repr

namespace Maturity

instance : Ord Maturity where
  compare
    | .snapshot, .snapshot => .eq
    | .snapshot, _ => .lt
    | .preRelease _, .snapshot => .gt
    | .preRelease left, .preRelease right => compare left right
    | .preRelease _, .final => .lt
    | .final, .final => .eq
    | .final, _ => .gt

end Maturity

/-- The maturity of a version. -/
def maturity (version : Version) : Maturity :=
  match version.pre, version.post, version.dev with
  | some pre, _, _ => .preRelease pre
  | none, none, some _ => .snapshot
  | none, _, _ => .final

/-- Compares development numbers, a version without one being the later. -/
def compareDev : Option UInt64 → Option UInt64 → Ordering
  | some left, some right => compare left right
  | some _, none => .lt
  | none, some _ => .gt
  | none, none => .eq

/-- One segment of a local label. -/
inductive LabelSegment where
  | word (letters : String)
  | number (value : UInt64)
deriving DecidableEq, Repr

namespace LabelSegment

/-- A run of digits whose value fits a word is a number, all else a word in lower case. -/
def ofText (segment : List Char) : LabelSegment :=
  match segment.isEmpty || !segment.all Char.isDigit, Text.readNumeral? segment with
  | false, some value => .number value
  | _, _ => .word (String.ofList (segment.map Char.toLower))

instance : Ord LabelSegment where
  compare
    | .word left, .word right => compare left right
    | .word _, .number _ => .lt
    | .number _, .word _ => .gt
    | .number left, .number right => compare left right

end LabelSegment

/-- The segments of a local label, which points separate. -/
def labelSegments (label : String) : List LabelSegment :=
  (Text.splitAt '.' label.toList).map LabelSegment.ofText

/-- Compares local labels segment by segment, a version without one being the earlier. -/
def compareLabel (left right : Option String) : Ordering :=
  compare (left.map labelSegments) (right.map labelSegments)

/-- Compares two versions. -/
protected def compare (left right : Version) : Ordering :=
  (compare left.epoch right.epoch)
    |>.then (compareRelease left.release right.release)
    |>.then (compare left.maturity right.maturity)
    |>.then (compare left.post right.post)
    |>.then (compareDev left.dev right.dev)
    |>.then (compareLabel left.label right.label)

instance : Ord Version where
  compare := Version.compare

/-- Two versions are the same release when they compare equal. -/
instance : BEq Version where
  beq left right := (compare left right).isEq

instance : LE Version := leOfOrd

instance : LT Version := ltOfOrd

/-- The versions in ascending order; those that compare equal keep their order. -/
def sort (versions : List Version) : List Version :=
  versions.mergeSort fun left right => (compare left right).isLE

end Version

end ReleasePilot
