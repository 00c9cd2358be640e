import ReleasePilot.Config.Basic
import ReleasePilot.Error
import ReleasePilot.Toml.Reader
import ReleasePilot.Tree.Path

/-!
# Loading the configuration

The configuration is the file that was asked for, else the project's own file,
else the user's file; a setting that the file does not have keeps its default,
and without any file all of them do. Settings that are not known are ignored.
-/

namespace ReleasePilot

/-- The variables that say where a user keeps configuration. -/
structure Environment where
  /-- The user's home directory. -/
  home : Option String := none
  /-- The user's configuration directory, if it is an absolute path. -/
  configHome : Option String := none

namespace Environment

/-- The directory of the user's configuration files. -/
def configDirectory (environment : Environment) : Option String :=
  match environment.configHome.filter isAbsolutePath with
  | some directory => some directory
  | none => environment.home.map (joinPath · ".config")

end Environment

namespace Config

/-- The project's own configuration file. -/
def localFile : String := "release.toml"

/-- The configuration file in the user's configuration directory. -/
def userFile : String := "pkg-release.toml"

/-- A setting that has to be a text. -/
def textSetting? (entries : Toml.Entries) (key default : String) : Option String :=
  match entries.lookup key with
  | none => some default
  | some (.value (.text content)) => some content
  | some _ => none

/-- The texts of an array that holds nothing else. -/
def texts? (items : List Toml.Value) : Option (List String) :=
  items.mapM fun
    | .text content => some content
    | _ => none

/-- A setting that has to be a list of texts. -/
def listSetting? (entries : Toml.Entries) (key : String) (default : List String) :
    Option (List String) :=
  match entries.lookup key with
  | none => some default
  | some (.value (.array items)) => texts? items
  | some _ => none

/-- The configuration that a document sets, unless a setting has the wrong type. -/
def ofEntries? (entries : Toml.Entries) : Option Config := do
  let base : Config := {}
  return {
    versionFile := ← textSetting? entries "version_file" base.versionFile
    versionIdentifier := ← textSetting? entries "version_identifier" base.versionIdentifier
    changelogFile := ← textSetting? entries "changelog_file" base.changelogFile
    mainBranch := ← textSetting? entries "main_branch" base.mainBranch
    remote := ← textSetting? entries "remote" base.remote
    testRepository := ← textSetting? entries "test_repository" base.testRepository
    buildCommand := ← listSetting? entries "build_command" base.buildCommand
    uploadCommand := ← listSetting? entries "upload_command" base.uploadCommand
    artifactGlob := ← textSetting? entries "artifact_glob" base.artifactGlob }

/-- The configuration that a text sets. -/
def parse (document : String) : Except ReleaseError Config :=
  match (Toml.parse? document).bind ofEntries? with
  | some config => .ok config
  | none => .error (.config .malformed)

/-- The configuration file to use. -/
def file? (tree : Tree) (environment : Environment) (requested : Option String) :
    Option String :=
  match requested with
  | some path => some path
  | none =>
    if tree.pathExists localFile then some localFile
    else
      (environment.configDirectory.map (joinPath · userFile)).filter tree.pathExists

/-- Loads the configuration, from a requested file or from where it is kept. -/
def load (tree : Tree) (environment : Environment) (requested : Option String) :
    Except ReleaseError Config :=
  match file? tree environment requested with
  | none => .ok {}
  | some path =>
    match tree.readText path with
    | .error fault => .error (.io fault)
    | .ok document => parse document

end Config

end ReleasePilot
