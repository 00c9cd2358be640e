import ReleasePilot.Script.Field
import ReleasePilot.Tree.Edit

/-!
# Patterns of paths

A pattern of paths is matched name by name. A name that begins with a dot is
found only if the pattern says so.
-/

namespace ReleasePilot.Script

/-- Whether a sign may make a pattern match more than one text. -/
def isWildcard : Pattern.Sign → Bool
  | (character, special) => special && "*?[".toList.contains character

/-- The names of a pattern, between its slashes. -/
def patternNames : List Pattern.Sign → List (List Pattern.Sign)
  | [] => [[]]
  | ('/', _) :: rest => [] :: patternNames rest
  | sign :: rest =>
    match patternNames rest with
    | [] => [[sign]]
    | name :: more => (sign :: name) :: more

/-- The names in a directory that a pattern matches. -/
def matchingNames (tree : Tree) (directory : RawText) (signs : List Pattern.Sign) :
    List RawText :=
  let pattern := Pattern.read signs
  let showsHidden := signs.head?.any fun (character, _) => character == '.'
  let path := if directory = "" then "." else RawText.toText directory
  match tree.locate path with
  | .ok location =>
    if tree.isDirectory location then
      ("." :: ".." :: (tree.namesIn location).map RawText.ofText).filter fun name =>
        (showsHidden || !name.startsWith ".") && pattern.matchesText name.toList
    else []
  | .error _ => []

/-- The paths that begin with one of some texts and go on as a pattern says. -/
def matchingPaths (tree : Tree) (starts : List RawText) :
    List (List Pattern.Sign) → List RawText
  | [] => starts
  | signs :: more =>
    let found := starts.flatMap fun start =>
      if Pattern.isGeneral (Pattern.read signs) then
        (matchingNames tree start signs).map (start ++ ·)
      else [start ++ String.ofList (Pattern.plainText (Pattern.read signs))]
    matchingPaths tree (if more.isEmpty then found else found.map (· ++ "/")) more

/-- The paths that a field stands for, in the order of their bytes. A field that
matches no path stands for itself. -/
def Field.paths (tree : Tree) (field : Field) : List RawText :=
  let signs := Piece.signs [] field
  let found :=
    if signs.any isWildcard then
      (matchingPaths tree [""] (patternNames signs)).filter fun path =>
        (tree.entryAt? (RawText.toText path)).isSome
    else []
  if found.isEmpty then [Piece.text [] field] else found.mergeSort (· ≤ ·)

end ReleasePilot.Script
