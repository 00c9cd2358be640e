import ReleasePilot.Operator
import ReleasePilot.Runner
import ReleasePilot.Tree.Replace

/-!
# Sessions

A session is all that a run reads and changes: the tree, the operator, what
was said and which commands were asked for. An action is a step of a run: it
gives a result or the cause of its failure and, in either case, the session as
the step left it.
-/

namespace ReleasePilot

/-- The state of a run. -/
structure Session where
  tree : Tree
  operator : Operator
  transcript : Transcript := []
  calls : List Call := []

/-- A step of a run. -/
abbrev Action (Result : Type) := ExceptT ReleaseError (StateM Session) Result

namespace Session

/-- The session after a message to the operator. -/
def told (session : Session) (message : Message) : Session :=
  { session with transcript := session.transcript ++ [message] }

/-- The session's answer to a question, and the session afterwards. -/
def answer (session : Session) (prompt hint : String) : Except ReleaseError String × Session :=
  let (answer, shown, operator) := session.operator.reply prompt hint
  (answer.mapError .io, { session with operator, transcript := session.transcript ++ shown })

/-- The outcome of a command, and the session afterwards. -/
def perform (session : Session) (runner : Runner) (call : Call) :
    Except ReleaseError String × Session :=
  let (result, echo, tree) := runner.run call.command call.options session.tree
  (result, { session with
    tree, transcript := session.transcript ++ echo, calls := session.calls ++ [call] })

end Session

namespace Action

/-- A step that changes nothing and has a known result. -/
def ofExcept {Result : Type} (result : Except ReleaseError Result) : Action Result :=
  ExceptT.mk (pure result)

/-- Tells the operator something. -/
def say (message : Message) : Action Unit :=
  ExceptT.mk fun session => (.ok (), session.told message)

/-- Runs a command and gives what it printed. -/
def perform (runner : Runner) (call : Call) : Action String :=
  ExceptT.mk fun session => session.perform runner call

/-- Runs commands one after the other, up to the first that fails. -/
def performAll (runner : Runner) : List Call → Action Unit
  | [] => pure ()
  | call :: more => do
    let _ ← perform runner call
    performAll runner more

/-- Asks a question that only `y` or `yes` answers with yes. -/
def confirm (prompt : String) : Action Bool :=
  ExceptT.mk fun session =>
    let (answer, session) := session.answer prompt " (y/N)"
    (answer.map Operator.isAffirmative, session)

/-- Asks for a text; a blank answer stands for the default. -/
def input (prompt default : String) : Action String :=
  ExceptT.mk fun session =>
    let (answer, session) := session.answer prompt (" [" ++ default ++ "]")
    (answer.map (Operator.orDefault default), session)

/-- The text of a file. -/
def readFile (path : String) : Action String :=
  ExceptT.mk fun session => ((session.tree.readText path).mapError .io, session)

/-- Replaces a file. -/
def replaceFile (path contents : String) : Action Unit :=
  ExceptT.mk fun session =>
    match session.tree.replace path contents with
    | .ok tree => (.ok (), { session with tree })
    | .error cause => (.error cause, session)

/-- Brings a file up to date: its text is read, changed and, unless this is a
dry run, written back. A dry run shows the changed text instead. -/
def updateFile (path : String) (dryRun : Bool) (change : String → Except ReleaseError String) :
    Action Unit := do
  let contents ← readFile path
  let changed ← ofExcept (change contents)
  say (.fileWrite path dryRun)
  if dryRun then say (.preview changed) else replaceFile path changed

end Action

end ReleasePilot
