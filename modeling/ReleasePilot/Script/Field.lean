import ReleasePilot.Program.Pattern
import ReleasePilot.Text.Raw

/-!
# Fields

A word that is filled in consists of pieces. They make up the fields that a
command is given, or one text, or a pattern.
-/

namespace ReleasePilot.Script

/-- A piece of a word that is filled in. -/
inductive Piece where
  /-- A character that stays with its neighbours; it may be special in a pattern. -/
  | fixed (character : Char) (special : Bool)
  /-- A character that may divide fields. -/
  | loose (character : Char)
  /-- The place of a quoted text, which makes up a field even if it is empty. -/
  | mark
  /-- The border of two arguments, which divides fields like a blank unless it is firm. -/
  | border (firm : Bool)
deriving DecidableEq, Repr

/-- The pieces of one field. -/
abbrev Field := List Piece

namespace Piece

/-- Whether a divider counts as blank, so that several of them divide like one. -/
def isBlankDivider (character : Char) : Bool :=
  " \t\n".toList.contains character

/-- The fields of pieces, given what the current field holds so far, last piece
first, and whether a blank has ended the field before it. A divider that is no
blank ends a field even if it is empty, unless it follows such a blank. -/
def divide (dividers : List Char) (current : Option Field) (afterBlank : Bool) :
    List Piece → List Field
  | [] => (current.map List.reverse).toList
  | .border true :: more =>
    (current.map List.reverse).toList ++ divide dividers none false more
  | .border false :: more =>
    match current with
    | none => divide dividers none afterBlank more
    | some field => field.reverse :: divide dividers none true more
  | .loose character :: more =>
    if !dividers.contains character then
      divide dividers (some (.loose character :: current.getD [])) false more
    else
      match current, isBlankDivider character with
      | none, true => divide dividers none afterBlank more
      | none, false =>
        if afterBlank then divide dividers none false more
        else [] :: divide dividers none false more
      | some field, blank => field.reverse :: divide dividers none blank more
  | piece :: more => divide dividers (some (piece :: current.getD [])) false more

/-- The fields that pieces make up. -/
def fields (dividers : List Char) (pieces : List Piece) : List Field :=
  divide dividers none false pieces

/-- The characters of pieces, with a text in place of each border. -/
def characters (between : List Char) (pieces : List Piece) : List Char :=
  pieces.flatMap fun
    | .fixed character _ | .loose character => [character]
    | .mark => []
    | .border _ => between

/-- The text that pieces make up. -/
def text (between : List Char) (pieces : List Piece) : RawText :=
  String.ofList (characters between pieces)

/-- The signs of a pattern that pieces make up. -/
def signs (between : List Char) (pieces : List Piece) : List Pattern.Sign :=
  pieces.flatMap fun
    | .fixed character special => [(character, special)]
    | .loose character => [(character, true)]
    | .mark => []
    | .border _ => between.map fun character => (character, false)

/-- The pieces of a text that belongs to the script itself. -/
def ofText (quoted : Bool) (content : RawText) : List Piece :=
  let pieces := content.toList.map fun character => .fixed character (!quoted)
  if quoted then .mark :: pieces else pieces

/-- The pieces of a value that is filled in. -/
def ofValue (quoted : Bool) (value : RawText) : List Piece :=
  if quoted then .mark :: value.toList.map fun character => .fixed character false
  else value.toList.map .loose

/-- The pieces of all arguments of a script. -/
def ofArguments (quoted : Bool) (arguments : List RawText) : List Piece :=
  ((arguments.map (ofValue quoted)).intersperse [.border quoted]).flatten

end Piece

end ReleasePilot.Script
