import ReleasePilot.Program.Format
import ReleasePilot.Program.Pattern
import ReleasePilot.Program.Reading

/-!
# Replacing characters

Characters of the input are replaced by others, deleted, or shown once where
they are repeated. Sets of characters are written with ranges and classes.
-/

namespace ReleasePilot.Utility

/-- The characters from one to another. -/
def between (low high : Char) : List Char :=
  ((List.range (high.toNat + 1)).drop low.toNat).map Char.ofNat

/-- The characters of a set, with its ranges and classes written out, or the
ends of a range that are the wrong way round. -/
def setCharacters (text : List Char) : Except (Char × Char) (List Char) :=
  match text with
  | '[' :: ':' :: rest =>
    let name := rest.takeWhile Char.isAlpha
    match Pattern.classes.lookup (String.ofList name) with
    | some ranges => do
      let more ← setCharacters (rest.drop (name.length + 2))
      return ranges.flatMap (fun (low, high) => between low high) ++ more
    | none => do return '[' :: (← setCharacters (':' :: rest))
  | low :: '-' :: high :: rest =>
    if high < low then .error (low, high)
    else do return between low high ++ (← setCharacters rest)
  | character :: rest => do return character :: (← setCharacters rest)
  | [] => .ok []
termination_by text.length

/-- How characters are treated. -/
structure Transliteration where
  /-- The set that the treatment is about. -/
  first : List Char
  /-- The set that takes its place, if there is any. -/
  second : Option (List Char)
  complemented : Bool
  deleting : Bool
  squeezing : Bool
deriving DecidableEq, Repr

namespace Transliteration

/-- Whether a character is in the first set. -/
def isMember (transliteration : Transliteration) (character : Char) : Bool :=
  transliteration.first.contains character != transliteration.complemented

/-- The character that takes the place of another one. -/
def replaced (transliteration : Transliteration) (character : Char) : Char :=
  match transliteration.second with
  | none => character
  | some target =>
    if !transliteration.isMember character then character
    else if transliteration.complemented then target.getLast?.getD character
    else
      let first := transliteration.first
      let place := first.length - 1 - (first.reverse.idxOf? character).getD 0
      ((target[place]?).or target.getLast?).getD character

/-- Whether a character is shown once where it is repeated. -/
def isSqueezed (transliteration : Transliteration) (character : Char) : Bool :=
  match transliteration.second with
  | some target => target.contains character
  | none => transliteration.isMember character

/-- A text as it is shown. -/
def apply (transliteration : Transliteration) (text : List Char) : List Char :=
  let changed :=
    if transliteration.deleting then text.filter (!transliteration.isMember ·)
    else text.map transliteration.replaced
  if transliteration.squeezing then
    withoutRepeats (fun first second => first == second && transliteration.isSqueezed second)
      changed
  else changed

end Transliteration

/-- What is wrong with the number of the sets that a program is called with. -/
def setsComplaint? (deleting squeezing : Bool) (words : List RawText) : Option RawText :=
  let onlyOne := deleting && !squeezing
  match words with
  | [] => some "missing operand"
  | [only] =>
    if deleting == squeezing then
      some ("missing operand after " ++ typographic only ++
        "\nTwo strings must be given when " ++
        (if deleting then "both deleting and squeezing repeats." else "translating."))
    else none
  | [_, second] =>
    if onlyOne then
      some ("extra operand " ++ typographic second ++
        "\nOnly one string may be given when deleting without squeezing repeats.")
    else none
  | _ :: second :: third :: _ =>
    some ("extra operand " ++ typographic (if onlyOne then second else third))

/-- Replaces, deletes or squeezes characters of its input. -/
def tr : Utility := fun launch =>
  withUsage launch { flags := "cCds", ordered := true } fun usage =>
    let deleting := usage.has 'd'
    let squeezing := usage.has 's'
    let set (word : RawText) := setCharacters (Format.unescape word.toList)
    match setsComplaint? deleting squeezing usage.operands with
    | some complaint => misused launch complaint 1
    | none =>
      match usage.operands.mapM set with
      | .error (low, high) =>
        launch.failing ("range-endpoints of '" ++ String.ofList [low, '-', high] ++
          "' are in reverse collating sequence order") 1
      | .ok sets =>
        if !deleting && sets[1]? = some [] then
          launch.failing "when not truncating set1, string2 must be non-empty" 1
        else
          let transliteration : Transliteration :=
            { first := sets.headD [], second := sets[1]?, complemented := usage.hasAny "cC"
              deleting, squeezing }
          let shown := transliteration.apply (RawText.ofBytes launch.input).toList
          { output := RawText.bytes (String.ofList shown), unread := some ByteArray.empty
            tree := launch.tree }

end ReleasePilot.Utility
