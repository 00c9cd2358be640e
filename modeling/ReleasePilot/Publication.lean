import ReleasePilot.Config.Basic
import ReleasePilot.Session
import ReleasePilot.Version.Basic

/-!
# Publishing

A release is published by seven commands: the changed files are added,
committed and tagged, commit and tag are pushed, the package is built and
uploaded. The two pushes may fail, as the remote may be up to date already;
every other failure stops the sequence.
-/

namespace ReleasePilot

/-- Where a package is uploaded to. -/
inductive UploadTarget where
  /-- The index that the upload tool uses of its own accord. -/
  | defaultIndex
  | repository (name : String)
  | repositoryUrl (url : String)
deriving DecidableEq, Repr

namespace UploadTarget

/-- The words that select a target on the upload command. -/
def arguments : UploadTarget → List String
  | .defaultIndex => []
  | .repository name => ["--repository", name]
  | .repositoryUrl url => ["--repository-url", url]

end UploadTarget

/-- What is published, where and how. -/
structure Publication where
  version : Version
  dryRun : Bool
  target : UploadTarget
  /-- The entries of the version's changelog section, for the tag message. -/
  changelog : String

namespace Publication

/-- The name of the tag is the version itself. -/
def tagName (publication : Publication) : String :=
  publication.version.text

/-- The message of the commit. -/
def commitMessage (publication : Publication) : String :=
  "Bump version to " ++ publication.tagName

/-- The message of the tag, which quotes the changelog. -/
def tagMessage (publication : Publication) : String :=
  publication.tagName ++ "\n\nChangelog:\n" ++ publication.changelog

/-- A command whose failure stops the sequence. -/
def fatal (publication : Publication) (command : List String) : Call :=
  { command, options := .mutating publication.dryRun }

/-- A command whose failure does not matter. -/
def optional (publication : Publication) (command : List String) : Call :=
  { command, options := (RunOptions.mutating publication.dryRun).ignoringErrors }

/-- The commands that commit, tag and push a release. -/
def taggingCalls (config : Config) (publication : Publication) : List Call :=
  [publication.fatal ["git", "add", "--all"],
    publication.fatal ["git", "commit", "-m", publication.commitMessage],
    publication.fatal ["git", "tag", "-a", publication.tagName, "-m", publication.tagMessage],
    publication.optional ["git", "push", config.remote],
    publication.optional ["git", "push", config.remote, publication.tagName]]

/-- The command that uploads the built files. -/
def uploadCommand (config : Config) (publication : Publication) : List String :=
  config.uploadCommand ++ publication.target.arguments ++
    [config.artifactPattern publication.tagName]

/-- The commands that build and upload the package. -/
def uploadingCalls (config : Config) (publication : Publication) : List Call :=
  [publication.fatal config.buildCommand, publication.fatal (uploadCommand config publication)]

/-- All commands of a publication, in order. -/
def plan (config : Config) (publication : Publication) : List Call :=
  taggingCalls config publication ++ uploadingCalls config publication

/-- Commits, tags and pushes a release. -/
def tagAndPush (runner : Runner) (config : Config) (publication : Publication) : Action Unit := do
  Action.performAll runner (taggingCalls config publication)
  Action.say (.success
    ("Tagged " ++ publication.tagName ++ " and pushed to " ++ config.remote) publication.dryRun)

/-- Builds and uploads a package. -/
def buildAndUpload (runner : Runner) (config : Config) (publication : Publication) :
    Action Unit := do
  Action.performAll runner (uploadingCalls config publication)
  Action.say (.success ("Uploaded " ++ publication.tagName) publication.dryRun)

/-- Publishes a release. -/
def publish (runner : Runner) (config : Config) (publication : Publication) : Action Unit := do
  tagAndPush runner config publication
  buildAndUpload runner config publication

end Publication

end ReleasePilot
