import ReleasePilot.Changelog.MergeLog
import ReleasePilot.Declaration
import ReleasePilot.Publication
import ReleasePilot.Version.Order

/-!
# The release workflow

A release passes through its stages strictly in order: the branch is checked,
the versions are settled, the version file and the changelog are brought up to
date, and the release is published. A failure says in which stage it arose;
what earlier stages did is not undone.
-/

namespace ReleasePilot

/-- The stages of a release. -/
inductive Stage where
  | checkBranch
  | resolveVersions
  | updateVersionFile
  | updateChangelog
  | tagAndPush
  | buildAndUpload
  | done
deriving DecidableEq, Repr

namespace Stage

/-- The name of a stage. -/
def text : Stage → String
  | .checkBranch => "check branch"
  | .resolveVersions => "resolve versions"
  | .updateVersionFile => "update version file"
  | .updateChangelog => "update changelog"
  | .tagAndPush => "tag and push"
  | .buildAndUpload => "build and upload"
  | .done => "done"

end Stage

/-- What the operator asks of a run. -/
structure Request where
  dryRun : Bool := false
  /-- The version to release; without one, the operator is asked. -/
  newVersion : Option String := none
  target : UploadTarget := .defaultIndex
deriving DecidableEq, Repr

/-- What a successful run released. -/
structure Released where
  previous : Version
  new : Version
  dryRun : Bool

/-- The stage in which a run failed, and why. -/
structure Failure where
  stage : Stage
  cause : ReleaseError
deriving DecidableEq, Repr

namespace Changelog

/-- The bullets of the merges since a release. -/
def collect (runner : Runner) (previous : Version) : Action (List String) := do
  let log ← Action.perform runner
    { command := mergeLogCommand previous, options := .query }
  return bullets log

/-- The section that documents a version by the merges since a release. -/
def build (runner : Runner) (previous new : Version) : Action Section := do
  return Section.ofVersion new (← collect runner previous)

/-- Inserts a section into the changelog file. -/
def insertInFile (path : String) (entry : Section) (dryRun : Bool) : Action Unit :=
  Action.updateFile path dryRun (insert path entry)

end Changelog

namespace Declaration

/-- The version that a file declares. -/
def currentInFile (path identifier : String) : Action Version := do
  Action.ofExcept (current path identifier (← Action.readFile path))

/-- Sets the version that a file declares. -/
def setInFile (path identifier : String) (version : Version) (dryRun : Bool) : Action Unit :=
  Action.updateFile path dryRun (set path identifier version)

end Declaration

namespace Workflow

/-- The command that names the current branch. -/
def branchCommand : List String :=
  ["git", "rev-parse", "--abbrev-ref", "HEAD"]

/-- Makes sure that the release is made from the main branch, or that the
operator wants it otherwise. -/
def checkBranch (runner : Runner) (config : Config) : Action Unit := do
  let printed ← Action.perform runner { command := branchCommand, options := .query }
  let branch := trimmed printed
  if branch = config.mainBranch then return
  Action.say (.warning
    ("Current branch is '" ++ branch ++ "', not the main branch '" ++ config.mainBranch ++ "'"))
  if ← Action.confirm "Release from this branch anyway?" then return
  throw (.aborted (.branch branch))

/-- What is said to an answer that is no version. -/
def invalidAnswer (answer : String) : String :=
  "'" ++ answer ++
    "' is not a valid version (examples: 1.2.4, 2.0rc1, 1.3.dev0); try again"

/-- Asks for the new version until an answer is one, offering a proposal. An
input that is used up cannot change its answer, so the last answer it gives is
final even if it is no version. -/
def askVersion (proposal : String) (session : Session) : Except ReleaseError Version × Session :=
  match (Action.input "New version" proposal).run.run session with
  | (.error cause, after) => (.error cause, after)
  | (.ok answer, after) =>
    match Version.ofText? answer with
    | some version => (.ok version, after)
    | none =>
      let after := after.told (.error (invalidAnswer answer))
      if after.operator.pending < session.operator.pending then askVersion proposal after
      else (.error (.invalidVersion answer), after)
termination_by session.operator.pending

/-- The version to release: the requested one, or the operator's choice. -/
def chooseVersion (request : Request) (current : Version) : Action Version :=
  match request.newVersion with
  | some text => Action.ofExcept (Version.parse text)
  | none => do
    let next ← Action.ofExcept current.increment
    ExceptT.mk fun session => askVersion next.text session

/-- Settles the current and the new version. The operator has to agree to a new
version that is not later than the current one. -/
def resolveVersions (config : Config) (request : Request) : Action (Version × Version) := do
  let current ← Declaration.currentInFile config.versionFile config.versionIdentifier
  let new ← chooseVersion request current
  if (compare new current).isLE then
    Action.say (.warning
      ("New version " ++ new.text ++ " is not newer than the current version " ++ current.text))
    unless ← Action.confirm "Continue anyway?" do
      throw (.aborted (.order new.text current.text))
  Action.say (.versionChange current.text new.text)
  return (current, new)

/-- Builds the section of the new version and inserts it into the changelog. -/
def updateChangelog (runner : Runner) (config : Config) (request : Request)
    (previous new : Version) : Action Changelog.Section := do
  let entry ← Changelog.build runner previous new
  Action.say (.changelog entry)
  Changelog.insertInFile config.changelogFile entry request.dryRun
  return entry

/-- Runs a step as part of a stage, which a failure then names. -/
def during {Result : Type} (stage : Stage) (step : Action Result) :
    ExceptT Failure (StateM Session) Result :=
  ExceptT.adapt (fun cause => { stage, cause }) step

/-- Runs every stage of a release. -/
def run (runner : Runner) (config : Config) (request : Request) :
    ExceptT Failure (StateM Session) Released := do
  let dryRun := request.dryRun
  if dryRun then
    during .checkBranch <| Action.say
      (.status "Dry run: no files will be written and no mutating commands run")
  during .checkBranch <| checkBranch runner config
  let (previous, new) ← during .resolveVersions <| resolveVersions config request
  during .updateVersionFile <|
    Declaration.setInFile config.versionFile config.versionIdentifier new dryRun
  let entry ← during .updateChangelog <| updateChangelog runner config request previous new
  let publication : Publication :=
    { version := new, dryRun, target := request.target, changelog := entry.body }
  during .tagAndPush <| publication.tagAndPush runner config
  during .buildAndUpload <| publication.buildAndUpload runner config
  during .done <| Action.say (.success ("Released " ++ new.text) dryRun)
  return { previous, new, dryRun }

end Workflow

end ReleasePilot
