import ReleasePilot.Text.Blank
import ReleasePilot.Text.Line
import ReleasePilot.Version.Written

/-!
# Version declarations

A version is declared on a line of its own, as `name = "1.2.3"` with either
kind of quotes. The first declaration of a file gives the current version; to
set the version, there must be exactly one.
-/

namespace ReleasePilot

/-- A declaration as it stands on a line: the blanks before the name and the
text between the quotes. -/
structure Declaration where
  indent : List Char
  value : List Char
deriving DecidableEq, Repr

namespace Declaration

/-- The two kinds of quotes, either of which may open or close a value. -/
def isQuote (character : Char) : Bool :=
  character == '"' || character == '\''

/-- Reads the value behind a name: an equals sign and a quoted text, with any
blanks before each. -/
def readValue? (text : List Char) : Option (List Char) :=
  match Text.trimStart Text.isBlank text with
  | '=' :: rest =>
    match Text.trimStart Text.isBlank rest with
    | quote :: rest =>
      if isQuote quote && rest.any isQuote then some (rest.takeWhile (!isQuote ·)) else none
    | [] => none
  | _ => none

/-- Reads a declaration that begins right here, with the name itself. -/
def readHere? (identifier text : List Char) : Option (List Char) :=
  if identifier.isPrefixOf text then readValue? (text.drop identifier.length) else none

/-- The declaration on a line, with the longest indent that leaves the name in
place; a name may begin with blanks of its own. -/
def onLine? (identifier : List Char) : List Char → Option Declaration
  | [] => (readHere? identifier []).map fun value => { indent := [], value }
  | character :: rest =>
    let here := (readHere? identifier (character :: rest)).map
      fun value => { indent := [], value : Declaration }
    if Text.isBlank character then
      match onLine? identifier rest with
      | some found => some { found with indent := character :: found.indent }
      | none => here
    else here

/-- The version that a file declares. The path only words a failure. -/
def current (path identifier contents : String) : Except ReleaseError Version :=
  match (Line.split contents.toList).findSome? fun line =>
      onLine? identifier.toList line.content with
  | some declaration => Version.parse (String.ofList declaration.value)
  | none => .error (.versionNotFound path identifier)

/-- A line with its declaration, if it has one, set to a version. Whatever
stood behind the value is dropped. -/
def setOnLine (identifier : List Char) (version : Version) (line : Line) : Line :=
  match onLine? identifier line.content with
  | some declaration =>
    { line with
      content :=
        declaration.indent ++ identifier ++ " = \"".toList ++ version.characters ++ ['"'] }
  | none => line

/-- The lines of a file with the one declaration among them set to a version. -/
def setInLines (path identifier : String) (version : Version) (lines : List Line) :
    Except ReleaseError (List Line) :=
  match lines.countP fun line => (onLine? identifier.toList line.content).isSome with
  | 0 => .error (.versionNotFound path identifier)
  | 1 => .ok (lines.map (setOnLine identifier.toList version))
  | _ => .error (.ambiguousVersion path identifier)

/-- The contents of a file with its declaration set to a version. -/
def set (path identifier : String) (version : Version) (contents : String) :
    Except ReleaseError String :=
  (setInLines path identifier version (Line.split contents.toList)).map fun lines =>
    String.ofList (Line.join lines)

end Declaration

end ReleasePilot
