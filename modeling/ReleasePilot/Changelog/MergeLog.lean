import ReleasePilot.Changelog.Reference
import ReleasePilot.Text.Blank
import ReleasePilot.Text.Line
import ReleasePilot.Version.Basic

/-!
# The merge log

The merges since a release are asked for as records of a subject and a body,
written with control characters that no commit message holds. Each record
becomes one bullet of the changelog.
-/

namespace ReleasePilot.Changelog

/-- Stands between the subject and the body of a record. -/
def fieldSeparator : Char := '\x1f'

/-- Stands behind every record. -/
def recordSeparator : Char := '\x1e'

/-- The command that lists the merges since a release. -/
def mergeLogCommand (previous : Version) : List String :=
  ["git", "log", "--merges",
    "--pretty=format:%s" ++ String.singleton fieldSeparator ++ "%b" ++
      String.singleton recordSeparator,
    previous.text ++ "..HEAD"]

/-- The lines of a body that are not blank, trimmed and joined by spaces. -/
def joinBody (body : List Char) : List Char :=
  let lines := (Line.split body).map fun line => Text.trim line.content
  Text.joinWith [' '] (lines.filter fun line => !line.isEmpty)

/-- The bullet of one merge: its body with the subject in parentheses, or the
subject alone if the body is blank. -/
def bullet (subject body : List Char) : List Char :=
  let subject := Text.trim subject
  let body := joinBody body
  shortenReferences <|
    if body.isEmpty then "- ".toList ++ subject
    else "- ".toList ++ body ++ " (".toList ++ subject ++ [')']

/-- The bullet of one record, which is a subject alone if no separator is in it. -/
def recordBullet (record : List Char) : List Char :=
  match Text.splitOnce? fieldSeparator record with
  | some (subject, body) => bullet subject body
  | none => bullet record []

/-- The bullets of a merge log, in its order; blank records are dropped. -/
def bullets (log : String) : List String :=
  let records := (Text.splitAt recordSeparator log.toList).map
    (Text.trimStart fun character => character == '\n' || character == '\r')
  let records := records.filter fun record => !(Text.trim record).isEmpty
  records.map fun record => String.ofList (recordBullet record)

end ReleasePilot.Changelog
