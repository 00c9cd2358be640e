import ReleasePilot.Config.Load
import ReleasePilot.Options
import ReleasePilot.Workflow

/-!
# The command line

A run of the program reads its options and the configuration and then either
shows the current version or makes a release. Whatever goes wrong, its cause
is shown and the exit status is `CommandLine.failureStatus`.
-/

namespace ReleasePilot.CommandLine

/-- The exit status of every failure. -/
def failureStatus : Nat := 2

/-- Where options say that a package is uploaded to. -/
def target (options : Options) (config : Config) : UploadTarget :=
  if options.has .testIndex then .repository config.testRepository
  else
    match options.value? .repository, options.value? .repositoryUrl with
    | some name, _ => .repository name
    | none, some url => .repositoryUrl url
    | none, none => .defaultIndex

/-- The release that options ask for. -/
def request (options : Options) (config : Config) : Request :=
  { dryRun := options.has .dryRun, newVersion := options.value? .newVersion
    target := target options config }

/-- The programs that a release starts. -/
def programs (config : Config) : List String :=
  ("git" :: (config.buildCommand.head?.toList ++ config.uploadCommand.head?.toList)).eraseDups

/-- A run of the program, which fails with a trace of causes. -/
abbrev Run (Result : Type) := ExceptT (List String) (StateM Session) Result

/-- Loads the configuration. -/
def loadConfig (environment : Environment) (options : Options) : Run Config := do
  match Config.load (← get).tree environment (options.value? .config) with
  | .ok config => return config
  | .error cause => throw ("Error loading config" :: cause.trace)

/-- Shows the version that the version file declares. -/
def showVersion (config : Config) : Run Unit :=
  ExceptT.adapt ReleaseError.trace do
    let version ← Declaration.currentInFile config.versionFile config.versionIdentifier
    Action.say (.line version.text)

/-- What is noted of a release that failed. -/
def failureNoted (failure : Failure) : Diagnostic :=
  { severity := .error, event := "release failed"
    fields := [("stage", failure.stage.text), ("error", failure.cause.message)] }

/-- Makes a release. -/
def release (runner : Runner) (config : Config) (request : Request) : Run Unit :=
  ExceptT.mk fun session =>
    match (Workflow.run runner config request).run.run session with
    | (.ok _, after) => (.ok (), after)
    | (.error failure, after) =>
      (.error failure.cause.trace, after.told (.diagnostic (failureNoted failure)))

/-- Does what options ask for. -/
def perform (runner : Runner) (environment : Environment) (options : Options) : Run Unit := do
  let config ← loadConfig environment options
  if options.has .version then showVersion config
  else release runner config (request options config)

/-- Runs the program. Gives its exit status and the session afterwards. -/
def run (runner : Runner) (environment : Environment) (arguments : List String)
    (session : Session) : Nat × Session :=
  match Options.parse arguments with
  | .error problem => (failureStatus, session.told (.complaint (Options.complaint problem)))
  | .ok none => (0, session.told (.line Options.help))
  | .ok (some options) =>
    let (result, session) := (perform runner environment options).run.run session
    match result with
    | .ok () => (0, session)
    | .error trace => (failureStatus, session.told (.error (": ".intercalate trace)))

end ReleasePilot.CommandLine
