import ReleasePilot.Changelog.Section
import ReleasePilot.Text.Line

/-!
# The transcript

What a run tells the operator is a list of messages. Wording and styling are
applied when the transcript is shown, so that two runs can be compared by what
they said and not only by how it looked. Between the messages stand diagnostics,
of which a log decides whether and how they are shown.
-/

namespace ReleasePilot

/-- The styles of the terminal, by their codes. -/
inductive Style where
  | bold
  | dim
  | red
  | green
  | yellow
  | cyan
deriving DecidableEq, Repr

namespace Style

/-- The escape sequence that turns a style on. -/
def sequence : Style → String
  | .bold => "\x1b[1m"
  | .dim => "\x1b[2m"
  | .red => "\x1b[31m"
  | .green => "\x1b[32m"
  | .yellow => "\x1b[33m"
  | .cyan => "\x1b[36m"

/-- A text in some styles, if styles are on. -/
def apply (styled : Bool) (styles : List Style) (text : String) : String :=
  if styled then String.join (styles.map sequence) ++ text ++ "\x1b[0m" else text

end Style

/-- How grave a diagnostic is. These are the severities that a log shows by default; what is
shown on demand only is not kept here. -/
inductive Severity where
  | error
  | warning
deriving DecidableEq, Repr

/-- What is noted for those who look into a run: an event, and what it was about. -/
structure Diagnostic where
  severity : Severity
  event : String
  /-- Names and values, in their order. -/
  fields : List (String × String)
deriving DecidableEq, Repr

namespace Diagnostic

/-- The event and the fields in one line. -/
def text (diagnostic : Diagnostic) : String :=
  let severity :=
    match diagnostic.severity with
    | .error => "ERROR "
    | .warning => " WARN "
  severity ++ diagnostic.event ++
    String.join (diagnostic.fields.map fun (name, value) => " " ++ name ++ "=" ++ value)

end Diagnostic

/-- One message to the operator, or one diagnostic. -/
inductive Message where
  | error (text : String)
  | warning (text : String)
  | success (text : String) (dryRun : Bool)
  | status (text : String)
  /-- A quoted command that is run, or would be. -/
  | command (quoted : String) (dryRun : Bool)
  /-- A file that is written, or would be. -/
  | fileWrite (path : String) (dryRun : Bool)
  /-- What a file would hold. -/
  | preview (contents : String)
  | versionChange (current new : String)
  | changelog (entry : Changelog.Section)
  /-- A question, with a hint at the possible or the default answer. -/
  | question (prompt hint : String)
  | line (text : String)
  /-- A line that tells how the program is to be called. -/
  | complaint (text : String)
  | diagnostic (noted : Diagnostic)
deriving DecidableEq, Repr

/-- Where a message appears. What the log shows stands among the errors. -/
inductive Channel where
  | output
  | errors
  | log
deriving DecidableEq, Repr

namespace Message

/-- A line as it reads in the given mode: a dry run marks what it only pretends. -/
def marked (line : String) (dryRun : Bool) : String :=
  if dryRun then "[dry-run] " ++ line else line

/-- The echo of a quoted command. -/
def commandLine (quoted : String) (dryRun : Bool) : String :=
  marked ("$ " ++ quoted) dryRun

/-- The notice that a file is written. -/
def fileWriteLine (path : String) (dryRun : Bool) : String :=
  marked ("write " ++ path) dryRun

/-- How many entries of a section are shown. -/
def entriesShown : Nat := 10

/-- A section in brief: its first entries and the number of those left out. -/
def changelogLines (entry : Changelog.Section) : List String :=
  if entry.entries.isEmpty then ["  (no merge commits since the previous release)"]
  else
    let hidden := entry.entries.length - entriesShown
    (entry.entries.take entriesShown).map ("  " ++ ·) ++
      if hidden = 0 then [] else ["  ... and " ++ toString hidden ++ " more entries"]

/-- Lines of text, each with its newline. -/
def terminated (lines : List String) : String :=
  String.join (lines.map (· ++ "\n"))

/-- Where a message appears: errors and warnings apart from the rest. -/
def channel : Message → Channel
  | .error _ | .warning _ | .complaint _ => .errors
  | .diagnostic _ => .log
  | _ => .output

/-- The text of a message. Only a question leaves its line open. -/
def text (styled : Bool) : Message → String
  | .error text => Style.apply styled [.red, .bold] "ERROR:" ++ " " ++ text ++ "\n"
  | .warning text => Style.apply styled [.yellow] "⚠ WARNING:" ++ " " ++ text ++ "\n"
  | .success text dryRun => Style.apply styled [.green] "✓" ++ " " ++ marked text dryRun ++ "\n"
  | .status text => Style.apply styled [.yellow] "→" ++ " " ++ text ++ "\n"
  | .command quoted dryRun => Style.apply styled [.cyan] (commandLine quoted dryRun) ++ "\n"
  | .fileWrite path dryRun => Style.apply styled [.cyan] (fileWriteLine path dryRun) ++ "\n"
  | .preview contents =>
    terminated ((Line.contents contents).map fun line => "  " ++ Style.apply styled [.dim] line)
  | .versionChange current new =>
    terminated ["", Style.apply styled [.bold] "Proposed Version Change:",
      "  From: " ++ Style.apply styled [.red] current,
      "  To:   " ++ Style.apply styled [.green] new]
  | .changelog entry =>
    terminated ("" :: Style.apply styled [.bold] ("Changelog for " ++ entry.header) ::
      changelogLines entry)
  | .question prompt hint => "\n" ++ prompt ++ hint ++ ": "
  | .line text | .complaint text => text ++ "\n"
  | .diagnostic noted => noted.text ++ "\n"

/-- What a message adds to the errors, where some line is shown for a diagnostic. -/
def errorText (styled : Bool) (line? : Diagnostic → Option String) (message : Message) : String :=
  match message with
  | .diagnostic noted => (line? noted).getD ""
  | message => if message.channel = .errors then message.text styled else ""

end Message

/-- The messages of a run, in order. -/
abbrev Transcript := List Message

/-- What shows the diagnostics of a run, by default or with less: the line, if any, for one at
some place in the transcript. A log may leave out what is not grave enough, and may add what the
transcript does not have, such as the time. -/
abbrev Log := Nat → Diagnostic → Option String

namespace Transcript

/-- All that appears on one channel. -/
def shown (styled : Bool) (channel : Channel) (transcript : Transcript) : String :=
  String.join ((transcript.filter (·.channel == channel)).map (Message.text styled))

/-- All that appears among the errors with some log. -/
def errors (styled : Bool) (log : Log) (transcript : Transcript) : String :=
  String.join (transcript.mapIdx fun place => Message.errorText styled (log place))

/-- The messages up to the question that comes after some number of others, and
those behind it, if there is such a question. -/
def splitAtQuestion? (answered : Nat) : Transcript → Option (Transcript × Transcript)
  | [] => none
  | .question prompt hint :: more =>
    match answered with
    | 0 => some ([.question prompt hint], more)
    | remaining + 1 =>
      (splitAtQuestion? remaining more).map fun (before, after) =>
        (.question prompt hint :: before, after)
  | message :: more =>
    (splitAtQuestion? answered more).map fun (before, after) => (message :: before, after)

end Transcript

end ReleasePilot
