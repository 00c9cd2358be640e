import ReleasePilot.Error
import ReleasePilot.Text.Numeral

/-!
# Versions

A version has an epoch, release segments and, optionally, a pre-release, a
post-release, a development number and a local label. `Version.text` is its
one canonical spelling and `Version.increment` the successor that a release is
offered by default.
-/

namespace ReleasePilot

/-- The phase of a pre-release. -/
inductive Phase where
  | alpha
  | beta
  | candidate
deriving DecidableEq, Repr

namespace Phase

/-- The canonical letters of a phase. -/
def text : Phase → String
  | .alpha => "a"
  | .beta => "b"
  | .candidate => "rc"

/-- Every spelling of a phase, a longer one before any that it begins with. -/
def spellings : List (String × Phase) :=
  [("alpha", .alpha), ("a", .alpha), ("beta", .beta), ("b", .beta),
    ("preview", .candidate), ("pre", .candidate), ("c", .candidate), ("rc", .candidate)]

/-- The phase that a word spells, ASCII capitals being allowed. -/
def ofText? (word : String) : Option Phase :=
  spellings.lookup (String.ofList (word.toList.map Char.toLower))

/-- Reads a phase, with the word itself as the cause of a failure. -/
def parse (word : String) : Except ReleaseError Phase :=
  match ofText? word with
  | some phase => .ok phase
  | none => .error (.invalidVersion word)

/-- Alpha comes first and the release candidate last. -/
def rank : Phase → Nat
  | .alpha => 0
  | .beta => 1
  | .candidate => 2

instance : Ord Phase where
  compare left right := compare left.rank right.rank

end Phase

/-- A pre-release: its phase and its number within the phase. -/
structure PreRelease where
  phase : Phase
  number : UInt64
deriving DecidableEq, Repr

namespace PreRelease

/-- The phase followed by the number, without a separator. -/
def text (pre : PreRelease) : String :=
  pre.phase.text ++ String.ofList (Text.numeral pre.number)

/-- The next pre-release of the same phase; after the largest number there is none. -/
def next? (pre : PreRelease) : Option PreRelease :=
  (Text.successor? pre.number).map fun number => { pre with number }

/-- Phase first, then number. -/
instance : Ord PreRelease where
  compare left right :=
    (compare left.phase right.phase).then (compare left.number right.number)

end PreRelease

/-- A version. Nothing is assumed of its parts: the release may be empty and
the label any text, though no written version has such parts. -/
structure Version where
  epoch : UInt64 := 0
  release : List UInt64
  pre : Option PreRelease := none
  post : Option UInt64 := none
  dev : Option UInt64 := none
  label : Option String := none
deriving Repr

namespace Version

/-- A part that is written only if it is present. -/
def optionalText {α : Type} (write : α → List Char) : Option α → List Char
  | none => []
  | some part => write part

/-- The release segments with a point between them. -/
def releaseText : List UInt64 → List Char
  | [] => []
  | [segment] => Text.numeral segment
  | segment :: next :: more => Text.numeral segment ++ '.' :: releaseText (next :: more)

/-- The characters of the canonical spelling. -/
def characters (version : Version) : List Char :=
  (if version.epoch = 0 then [] else Text.numeral version.epoch ++ ['!']) ++
    releaseText version.release ++
    optionalText (fun pre => pre.text.toList) version.pre ++
    optionalText (fun number => ".post".toList ++ Text.numeral number) version.post ++
    optionalText (fun number => ".dev".toList ++ Text.numeral number) version.dev ++
    optionalText (fun label => '+' :: label.toList) version.label

/-- The canonical spelling, which is also the name of the release's tag. -/
def text (version : Version) : String :=
  String.ofList version.characters

/-- Whether the version precedes a final release. -/
def isPrerelease (version : Version) : Bool :=
  version.pre.isSome || version.dev.isSome

/-- Raises the last segment by one; an empty release becomes 1. -/
def bumpLast? : List UInt64 → Option (List UInt64)
  | [] => some [1]
  | [segment] => (Text.successor? segment).map ([·])
  | segment :: next :: more => (bumpLast? (next :: more)).map (segment :: ·)

/-- The version with its most specific number raised by one: the development
number, else the post-release, else the pre-release, else the last segment. -/
def next? (version : Version) : Option Version :=
  match version.dev, version.post, version.pre with
  | some dev, _, _ => (Text.successor? dev).map fun dev => { version with dev := some dev }
  | none, some post, _ => (Text.successor? post).map fun post => { version with post := some post }
  | none, none, some pre => pre.next?.map fun pre => { version with pre := some pre }
  | none, none, none => (bumpLast? version.release).map fun release => { version with release }

/-- The successor, or the cause that the number to raise is the largest. -/
def increment (version : Version) : Except ReleaseError Version :=
  match version.next? with
  | some next => .ok next
  | none => .error (.noSuccessor version.text)

end Version

end ReleasePilot
