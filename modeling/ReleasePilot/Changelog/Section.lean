import ReleasePilot.Error
import ReleasePilot.Text.Blank
import ReleasePilot.Text.Line
import ReleasePilot.Version.Basic

/-!
# Changelog sections

A changelog lists releases newest first. Each is a section: a blank line, the
version, an underline of dashes, a blank line and the entries. A new section is
inserted above the header of the first section, and nothing else is changed.
-/

namespace ReleasePilot.Changelog

/-- The section of one release. -/
structure Section where
  header : String
  entries : List String
deriving DecidableEq, Repr

namespace Section

/-- The section that documents a version. -/
def ofVersion (version : Version) (entries : List String) : Section :=
  { header := version.text, entries }

/-- The entries alone, as a tag message quotes them. -/
def body (entry : Section) : String :=
  "\n".intercalate entry.entries

/-- The lines of a section, all ended in the same way. -/
def lines (ending : LineEnding) (entry : Section) : List Line :=
  let underline := List.replicate entry.header.length '-'
  let contents :=
    [[], entry.header.toList, underline, []] ++ entry.entries.map String.toList
  contents.map fun content => { content, ending }

/-- The section as a text. -/
def text (entry : Section) : String :=
  String.ofList (Line.join (entry.lines .newline))

end Section

/-- What a line holds, apart from any carriage returns at its end. -/
def bareContent (line : Line) : List Char :=
  Text.trimEnd (fun character => character == '\r' || character == '\n') line.content

/-- Whether a line is three dashes or more, with nothing but blanks behind them. -/
def isUnderline (line : Line) : Bool :=
  let content := bareContent line
  3 ≤ (content.takeWhile (· == '-')).length &&
    (content.dropWhile (· == '-')).all Text.isBlank

/-- Inserts a section, given the lines of the changelog, two lines above the
first underline. The new lines end as that underline does. -/
def insertLines (path : String) (entry : Section) (lines : List Line) :
    Except ReleaseError (List Line) :=
  if lines.any fun line => bareContent line == entry.header.toList then
    .error (.duplicateTag entry.header)
  else
    match lines.findIdx? isUnderline with
    | none => .error (.changelogLayout path .noUnderline)
    | some index =>
      if index < 2 then .error (.changelogLayout path (.noRoomAbove (index + 1)))
      else
        let ending :=
          match lines[index]? with
          | some ⟨_, .returnNewline⟩ => LineEnding.returnNewline
          | _ => LineEnding.newline
        .ok (lines.take (index - 2) ++ entry.lines ending ++ lines.drop (index - 2))

/-- The changelog with a section inserted. The path only words a failure. -/
def insert (path : String) (entry : Section) (contents : String) :
    Except ReleaseError String :=
  (insertLines path entry (Line.split contents.toList)).map fun lines =>
    String.ofList (Line.join lines)

end ReleasePilot.Changelog
