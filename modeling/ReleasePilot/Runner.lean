import ReleasePilot.Command.Quoting
import ReleasePilot.Program.Basic
import ReleasePilot.Text.Blank
import ReleasePilot.Text.Utf8
import ReleasePilot.Transcript

/-!
# Running commands

A command is a list of words and never passes through a shell. It is run
either against recorded replies, which shows and changes nothing, or by
spawning a program, which is echoed and may change the tree. A dry run reaches
neither.
-/

namespace ReleasePilot

/-- How one command is to be run. -/
structure RunOptions where
  /-- A failing command counts as done, with whatever it printed. -/
  ignoreErrors : Bool := false
  /-- A spawned command is echoed. -/
  logCommand : Bool := false
  /-- The command is not run at all and prints nothing. -/
  dryRun : Bool := false
deriving DecidableEq, Repr

namespace RunOptions

/-- Options for a command that only asks. -/
def query : RunOptions := {}

/-- Options for a command that changes something. -/
def mutating (dryRun : Bool) : RunOptions :=
  { logCommand := true, dryRun }

/-- The same options, failures not counting. -/
def ignoringErrors (options : RunOptions) : RunOptions :=
  { options with ignoreErrors := true }

end RunOptions

/-- One command that was asked for. -/
structure Call where
  command : List String
  options : RunOptions
deriving DecidableEq, Repr

namespace Call

/-- Whether the command was really run. -/
def executed (call : Call) : Bool :=
  !call.options.dryRun

end Call

/-- What a recorded command does. -/
inductive Response where
  | output (stdout : String)
  | failure (code : Int) (stderr : String)
deriving DecidableEq, Repr

/-- A recorded response to every command that begins with the given words. -/
structure Reply where
  opening : List String
  response : Response
deriving DecidableEq, Repr

namespace Reply

/-- The response to a command: of the replies that fit, the last one recorded. -/
def responseTo (replies : List Reply) (command : List String) : Option Response :=
  (replies.reverse.find? fun reply => reply.opening.isPrefixOf command).map Reply.response

end Reply

/-- The means by which commands are run. -/
inductive Runner where
  | recorded (replies : List Reply)
  | spawning (spawn : List String → Tree → Except Fault Completion)

namespace Runner

/-- The result of a recorded response. -/
def resultOfResponse (command : List String) (options : RunOptions) :
    Option Response → Except ReleaseError String
  | none => .ok ""
  | some (.output stdout) => .ok stdout
  | some (.failure code stderr) =>
    if options.ignoreErrors then .ok ""
    else .error (.commandFailed (Command.quoted command) code stderr)

/-- The result of a spawned program. -/
def resultOfCompletion (command : List String) (options : RunOptions) :
    Except Fault Completion → Except ReleaseError String
  | .error fault =>
    if options.ignoreErrors then .ok ""
    else .error (.commandFailed (Command.quoted command) (-1) fault.message)
  | .ok completion =>
    let printed := Text.decodeLossy completion.output
    if completion.status = .code 0 ∨ options.ignoreErrors then .ok printed
    else
      .error (.commandFailed (Command.quoted command) completion.status.failureCode
        (trimmed (Text.decodeLossy completion.errors)))

/-- What is noted of a spawned program, where it fails and that does not count. -/
def ignored? (command : List String) (options : RunOptions) :
    Except Fault Completion → Option Diagnostic
  | .error fault =>
    if options.ignoreErrors then
      some
        { severity := .warning, event := "spawn failed, ignoring"
          fields := [("command", Command.quoted command), ("error", fault.message)] }
    else none
  | .ok completion =>
    if completion.status ≠ .code 0 ∧ options.ignoreErrors then
      some
        { severity := .warning, event := "command failed, ignoring"
          fields :=
            [("command", Command.quoted command),
              ("code", toString completion.status.failureCode),
              ("stderr", trimmed (Text.decodeLossy completion.errors))] }
    else none

/-- Runs a command. Gives what it printed, what was echoed or noted and the tree afterwards. -/
def run (runner : Runner) (command : List String) (options : RunOptions) (tree : Tree) :
    Except ReleaseError String × Transcript × Tree :=
  match runner with
  | .recorded replies =>
    if options.dryRun then (.ok "", [], tree)
    else (resultOfResponse command options (Reply.responseTo replies command), [], tree)
  | .spawning spawn =>
    if command = [] then (.error (.config .emptyCommand), [], tree)
    else
      let echo :=
        if options.logCommand ∨ options.dryRun then
          [Message.command (Command.quoted command) options.dryRun]
        else []
      if options.dryRun then (.ok "", echo, tree)
      else
        let spawned := spawn command tree
        let after :=
          match spawned with
          | .ok completion => completion.tree
          | .error _ => tree
        let noted := (ignored? command options spawned).toList.map Message.diagnostic
        (resultOfCompletion command options spawned, echo ++ noted, after)

end Runner

end ReleasePilot
