import ReleasePilot.Proofs.Session.Rehearsal
import ReleasePilot.Proofs.Workflow.Stages

/-!
# What a run notes

No stage notes anything of its own, so that all that a run has noted is what its commands have
left (`diagnostics_of_run`): a warning for each command whose failure does not count. With
recorded replies nothing is noted at all.
-/

namespace ReleasePilot

variable {runner : Runner} {tree : Tree}

/-- All that was noted so far was noted of the commands. -/
def Session.Accounts (runner : Runner) (tree : Tree) (session : Session) : Prop :=
  session.transcript.diagnostics = session.calls.flatMap (runner.noted tree)

theorem accounts_told {session : Session} {message : Message}
    (silent : message.diagnostic? = none) (accounts : session.Accounts runner tree) :
    (session.told message).Accounts runner tree := by
  have nothing : Transcript.diagnostics [message] = [] :=
    Transcript.diagnostics_eq_nil_iff.2 (List.forall_mem_singleton.2 silent)
  unfold Session.Accounts Session.told at *
  rw [Transcript.diagnostics_append, nothing, List.append_nil, accounts]

theorem unnoticed_accounts : Unnoticed (Session.Accounts runner tree) :=
  fun _ _ notice accounts => accounts_told notice.diagnostic? accounts

theorem unasked_accounts : Unasked (Session.Accounts runner tree) := by
  intro session prompt hint accounts
  have silent : Transcript.diagnostics (session.operator.reply prompt hint).2.1 = [] :=
    Transcript.diagnostics_of_notices fun _ shown => Operator.isNotice_of_reply shown
  unfold Session.Accounts Session.answer at *
  rw [Transcript.diagnostics_append, silent, List.append_nil, accounts]

namespace Preserves

theorem say_accounts {message : Message} (silent : message.diagnostic? = none) :
    Preserves (Session.Accounts runner tree) (Action.say message) :=
  fun _ accounts => accounts_told silent accounts

/-- Each command adds what is noted of it. -/
theorem perform_accounts (steady : runner.Steady) (call : Call) :
    Preserves (Session.Accounts runner tree) (Action.perform runner call) := by
  intro before accounts
  unfold Session.Accounts at *
  rw [Action.run_perform, Session.perform, Transcript.diagnostics_append, accounts,
    steady.echo _ _ before.tree tree, List.flatMap_append, List.flatMap_singleton]
  rfl

theorem updateFile_accounts (path : String) (dryRun : Bool)
    (change : String → Except ReleaseError String) :
    Preserves (Session.Accounts runner tree) (Action.updateFile path dryRun change) := by
  refine .bind (.readFile path) fun contents => .bind (.ofExcept _) fun changed => ?_
  refine .bind (.say_accounts rfl) fun _ => .ite (.say_accounts rfl) ?_
  refine .of_forall_run fun before outcome after ran accounts => ?_
  rcases Action.of_replaceFile ran with ⟨-, -, rfl⟩ | ⟨between, -, -, rfl⟩
  · exact accounts
  · exact accounts

end Preserves

namespace Workflow

variable {config : Config} {request : Request} {start final : Session}
  {outcome : Except Failure Released}

theorem preserves_run_accounts (steady : runner.Steady) (config : Config) (request : Request) :
    Preserves (Session.Accounts runner tree) (run runner config request) := by
  refine preserves_run_of_next (fun milestone => ?_) fun start accounts => ?_
  · exact preserves_next_of_updates unnoticed_accounts unasked_accounts
      (fun call _ => .perform_accounts steady call)
      (fun path _ => .updateFile_accounts path request.dryRun) fun _ => .say_accounts rfl
  · unfold opening
    split
    · exact accounts_told rfl accounts
    · exact accounts

/-- A run notes just what is noted of its commands. -/
theorem diagnostics_of_run (steady : runner.Steady) (tree : Tree)
    (silent : start.transcript = []) (fresh : start.calls = [])
    (ran : (run runner config request).run.run start = (outcome, final)) :
    final.transcript.diagnostics = final.calls.flatMap (runner.noted tree) := by
  refine (preserves_run_accounts steady config request).after ran ?_
  rw [Session.Accounts, silent, fresh]
  rfl

/-- With recorded replies, a run notes nothing. -/
theorem diagnostics_of_recorded {replies : List Reply} (silent : start.transcript = [])
    (fresh : start.calls = [])
    (ran : (run (.recorded replies) config request).run.run start = (outcome, final)) :
    final.transcript.diagnostics = [] := by
  rw [diagnostics_of_run (Runner.steady_recorded replies) start.tree silent fresh ran,
    List.flatMap_eq_nil_iff]
  exact fun call _ => Runner.noted_recorded replies start.tree call

/-- A run notes nothing of commands that succeed. -/
theorem diagnostics_of_succeeds (steady : runner.Steady) (silent : start.transcript = [])
    (fresh : start.calls = [])
    (ran : (run runner config request).run.run start = (outcome, final))
    (succeed : ∀ call ∈ final.calls, runner.Succeeds tree call) :
    final.transcript.diagnostics = [] := by
  rw [diagnostics_of_run steady tree silent fresh ran, List.flatMap_eq_nil_iff]
  exact fun call asked => Runner.noted_of_succeeds (succeed call asked)

/-- All that a run notes are warnings. -/
theorem severity_of_run (steady : runner.Steady) (silent : start.transcript = [])
    (fresh : start.calls = [])
    (ran : (run runner config request).run.run start = (outcome, final)) {noted : Diagnostic}
    (member : noted ∈ final.transcript.diagnostics) : noted.severity = .warning := by
  rw [diagnostics_of_run steady start.tree silent fresh ran] at member
  obtain ⟨call, -, among⟩ := List.mem_flatMap.1 member
  exact (Runner.of_mem_noted among).2.2

end Workflow

end ReleasePilot
