/-!
# Configuration

Where the version and the changelog are kept, which names the project uses,
and the commands that build and upload a package.
-/

namespace ReleasePilot

/-- The settings of a project. -/
structure Config where
  versionFile : String := "version.py"
  versionIdentifier : String := "__version__"
  changelogFile : String := "CHANGELOG.rst"
  mainBranch : String := "main"
  remote : String := "origin"
  testRepository : String := "testpypi"
  buildCommand : List String := ["python", "-m", "build"]
  uploadCommand : List String := ["twine", "upload"]
  /-- The pattern of the built files, with a placeholder for the version. -/
  artifactGlob : String := "dist/*-\x7bversion\x7d*"
deriving DecidableEq, Repr

namespace Config

/-- Stands for the version in a pattern. -/
def placeholder : List Char :=
  "\x7bversion\x7d".toList

/-- A pattern with every placeholder replaced, from left to right. The first
`skipped` characters are the rest of a placeholder. -/
def fill (version : List Char) (skipped : Nat) : List Char → List Char
  | [] => []
  | character :: rest =>
    match skipped with
    | remaining + 1 => fill version remaining rest
    | 0 =>
      if placeholder.isPrefixOf (character :: rest) then
        version ++ fill version (placeholder.length - 1) rest
      else character :: fill version 0 rest

/-- The pattern of the files built for a version. -/
def artifactPattern (config : Config) (version : String) : String :=
  String.ofList (fill version.toList 0 config.artifactGlob.toList)

end Config

end ReleasePilot
