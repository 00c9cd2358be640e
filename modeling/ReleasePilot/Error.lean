/-!
# Causes of failure

Every operation fails for a cause of this list, and `ReleaseError.message` is
the only place that words a cause for the operator.
-/

namespace ReleasePilot

/-- Why the file system, or the standard input, refused a request. -/
inductive Fault where
  | notFound
  | permissionDenied
  | busy
  | alreadyExists
  | notDirectory
  | isDirectory
  | invalidArgument
  | nameTooLong
  | linkLoop
  | nulInName
  | nulInWord
  | wordTooLong
  /-- A file is executable but no program. -/
  | notProgram
  | notUtf8
  | answersExhausted (prompt : String)
deriving DecidableEq, Repr

namespace Fault

/-- A fault in the words of the system that reports it. -/
def message : Fault → String
  | .notFound => "No such file or directory (os error 2)"
  | .permissionDenied => "Permission denied (os error 13)"
  | .busy => "Device or resource busy (os error 16)"
  | .alreadyExists => "File exists (os error 17)"
  | .notDirectory => "Not a directory (os error 20)"
  | .isDirectory => "Is a directory (os error 21)"
  | .invalidArgument => "Invalid argument (os error 22)"
  | .nameTooLong => "File name too long (os error 36)"
  | .linkLoop => "Too many levels of symbolic links (os error 40)"
  | .nulInName => "file name contained an unexpected NUL byte"
  | .nulInWord => "nul byte found in provided data"
  | .wordTooLong => "Argument list too long (os error 7)"
  | .notProgram => "Exec format error (os error 8)"
  | .notUtf8 => "stream did not contain valid UTF-8"
  | .answersExhausted prompt => "no scripted answer for prompt: " ++ prompt

end Fault

/-- What makes a changelog unfit to take a section. -/
inductive LayoutProblem where
  | noUnderline
  /-- The first underline stands on this line, counted from one, too close to the top. -/
  | noRoomAbove (line : Nat)
deriving DecidableEq, Repr

namespace LayoutProblem

/-- The reason given to the operator. -/
def message : LayoutProblem → String
  | .noUnderline => "no section underline (---) found"
  | .noRoomAbove line =>
    "first underline on line " ++ toString line ++
      " leaves no room for a header and blank line"

end LayoutProblem

/-- What the operator declined. -/
inductive Refusal where
  | branch (name : String)
  | order (new current : String)
deriving DecidableEq, Repr

namespace Refusal

/-- The refusal in words. -/
def message : Refusal → String
  | .branch name => "not releasing from branch '" ++ name ++ "'"
  | .order new current => new ++ " does not follow " ++ current

end Refusal

/-- What is wrong with the configuration. -/
inductive ConfigProblem where
  | emptyCommand
  /-- The file is no TOML document, or a setting has a value of the wrong type. -/
  | malformed
deriving DecidableEq, Repr

namespace ConfigProblem

/-- The problem in words. -/
def message : ConfigProblem → String
  | .emptyCommand => "empty command"
  | .malformed => "TOML parse error"

end ConfigProblem

/-- The causes for which a release operation fails. -/
inductive ReleaseError where
  | commandFailed (command : String) (code : Int) (stderr : String)
  | invalidVersion (text : String)
  | noSuccessor (version : String)
  | versionNotFound (path identifier : String)
  | ambiguousVersion (path identifier : String)
  | duplicateTag (tag : String)
  | changelogLayout (path : String) (problem : LayoutProblem)
  | aborted (refusal : Refusal)
  | config (problem : ConfigProblem)
  | io (fault : Fault)
  /-- No scratch file could be made beside the file to be replaced. -/
  | scratchFile (directory : String) (fault : Fault)
deriving DecidableEq, Repr

namespace ReleaseError

/-- The wording of a cause. -/
def message : ReleaseError → String
  | .commandFailed command code stderr =>
    "Command failed: " ++ command ++ " (exit code " ++ toString code ++ ")\n" ++ stderr
  | .invalidVersion text => "Invalid version format: '" ++ text ++ "'"
  | .noSuccessor version => "Invalid version format: '" ++ version ++ " has no successor'"
  | .versionNotFound path identifier =>
    "No line declaring '" ++ identifier ++ "' found in " ++ path
  | .ambiguousVersion path identifier =>
    "More than one line declares '" ++ identifier ++ "' in " ++ path
  | .duplicateTag tag => "Changelog already contains an entry for " ++ tag
  | .changelogLayout path problem =>
    "Unexpected changelog layout in " ++ path ++ ": " ++ problem.message
  | .aborted refusal => "Aborted by user: " ++ refusal.message
  | .config problem => "Configuration error: " ++ problem.message
  | .io fault => "I/O error: " ++ fault.message
  | .scratchFile directory fault =>
    "I/O error: " ++ fault.message ++ " at path \"" ++ directory ++ "\""

/-- The cause with everything that led to it, outermost first. A fault of the
system is worded once as a cause of this list and once as itself. -/
def trace : ReleaseError → List String
  | .io fault => [message (.io fault), fault.message]
  | .scratchFile directory fault =>
    [message (.scratchFile directory fault),
      fault.message ++ " at path \"" ++ directory ++ "\""]
  | error => [error.message]

end ReleaseError

end ReleasePilot
