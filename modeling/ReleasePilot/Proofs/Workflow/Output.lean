import ReleasePilot.Proofs.Session.DryRunOutput
import ReleasePilot.Proofs.Workflow.Rehearsal

/-!
# What a dry run prints of the real run

A dry run goes abreast of a real run that succeeds, and all that it says is a rehearsal. So
it prints what the real run prints, once the notice at its beginning, the previews and the
marks are taken away (`unrehearsed_of_dryRun`). The real run alone may print the warnings that
it notes of failures that do not count, if the log shows them. The programs that are
started may do to the tree whatever they like, but for the two files.
-/

namespace ReleasePilot

/-- What a program lets those who started it know. -/
def Completion.report (completion : Completion) : ExitStatus × ByteArray × ByteArray :=
  (completion.status, completion.output, completion.errors)

/-- Programs that meet a command in the same way on every tree, and leave two files alone. -/
structure FixedPrograms (spawn : List String → Tree → Except Fault Completion)
    (path other : String) : Prop where
  answers : ∀ command tree another,
    (spawn command tree).map Completion.report = (spawn command another).map Completion.report
  spares : ∀ command (tree : Tree) completion, spawn command tree = .ok completion →
    tree.DistinctFiles path other → completion.tree.DistinctFiles path other ∧
      ∀ file ∈ [path, other], completion.tree.readText file = tree.readText file

/-- Programs of which the same is known have met the same fault, or ended alike. -/
theorem Completion.of_same_report {first second : Except Fault Completion}
    (same : first.map Completion.report = second.map Completion.report) :
    first = second ∨ ∃ completion other : Completion, first = .ok completion ∧
      second = .ok other ∧ completion.status = other.status ∧ completion.output = other.output ∧
      completion.errors = other.errors := by
  cases first with
  | error fault =>
    cases second with
    | error other => exact .inl (congrArg Except.error (Except.error.inj same))
    | ok completion => cases same
  | ok completion =>
    cases second with
    | error other => cases same
    | ok other =>
      obtain ⟨status, printed⟩ := Prod.mk.inj (Except.ok.inj same)
      obtain ⟨output, errors⟩ := Prod.mk.inj printed
      exact .inr ⟨completion, other, rfl, rfl, status, output, errors⟩

section Reports

variable {first second : Except Fault Completion}
  (same : first.map Completion.report = second.map Completion.report) (command : List String)
  (options : RunOptions)
include same

/-- The result of a command is read off the report. -/
theorem Runner.resultOfCompletion_congr :
    resultOfCompletion command options first = resultOfCompletion command options second := by
  obtain rfl | ⟨completion, other, rfl, rfl, status, output, errors⟩ :=
    Completion.of_same_report same
  · rfl
  · simp only [resultOfCompletion, status, output, errors]

/-- What is noted of a command is read off the report. -/
theorem Runner.ignored?_congr :
    ignored? command options first = ignored? command options second := by
  obtain rfl | ⟨completion, other, rfl, rfl, status, -, errors⟩ := Completion.of_same_report same
  · rfl
  · simp only [ignored?, status, errors]

end Reports

namespace FixedPrograms

variable {spawn : List String → Tree → Except Fault Completion} {path other : String}

theorem symm (programs : FixedPrograms spawn path other) : FixedPrograms spawn other path where
  answers := programs.answers
  spares command tree completion spawned distinct := by
    obtain ⟨still, same⟩ := programs.spares command tree completion spawned distinct.symm
    refine ⟨still.symm, fun file member => same file ?_⟩
    exact (List.Perm.swap path other []).mem_iff.1 member

theorem steady (programs : FixedPrograms spawn path other) : (Runner.spawning spawn).Steady := by
  have alike (command : List String) (options : RunOptions) (tree another : Tree) :
      ((Runner.spawning spawn).run command options tree).1 =
          ((Runner.spawning spawn).run command options another).1 ∧
        ((Runner.spawning spawn).run command options tree).2.1 =
          ((Runner.spawning spawn).run command options another).2.1 := by
    by_cases empty : command = []
    · rw [empty, Runner.run_spawning_nil, Runner.run_spawning_nil]
      exact ⟨rfl, rfl⟩
    have same := programs.answers command tree another
    cases dryRun : options.dryRun with
    | true =>
      rw [Runner.run_spawning_of_dryRun spawn tree empty dryRun,
        Runner.run_spawning_of_dryRun spawn another empty dryRun]
      exact ⟨rfl, rfl⟩
    | false =>
      rw [Runner.run_spawning spawn tree empty dryRun,
        Runner.run_spawning spawn another empty dryRun, Runner.ignored?_congr same command options]
      exact ⟨Runner.resultOfCompletion_congr same command options, rfl⟩
  exact ⟨fun command options tree another => (alike command options tree another).1,
    fun command options tree another => (alike command options tree another).2⟩

theorem runner_spares (programs : FixedPrograms spawn path other) :
    (Runner.spawning spawn).Spares path other := by
  intro command options tree distinct
  have untouched : tree.DistinctFiles path other ∧ tree.readText path = tree.readText path :=
    ⟨distinct, rfl⟩
  by_cases empty : command = []
  · rw [empty, Runner.run_spawning_nil]
    exact untouched
  cases dryRun : options.dryRun with
  | true =>
    rw [Runner.run_spawning_of_dryRun spawn tree empty dryRun]
    exact untouched
  | false =>
    rw [Runner.run_spawning spawn tree empty dryRun]
    cases spawned : spawn command tree with
    | error fault => exact untouched
    | ok completion =>
      obtain ⟨still, same⟩ := programs.spares command tree completion spawned distinct
      exact ⟨still, same path List.mem_cons_self⟩

end FixedPrograms

namespace Workflow

variable {config : Config}

/-- The commands of a run are queries, or they are run unless it is a dry run. -/
theorem query_or_executed_of_mem_planned {request : Request} {milestone : Milestone} {call : Call}
    (member : call ∈ milestone.planned config request) :
    call.options = .query ∨ call.executed = !request.dryRun := by
  cases milestone with
  | opened => exact .inl (congrArg Call.options (List.mem_singleton.1 member))
  | declared previous new => exact .inl (congrArg Call.options (List.mem_singleton.1 member))
  | recorded previous new entry =>
    exact .inr (executed_of_mem_plan (List.mem_append_left _ member)).2
  | tagged previous new entry =>
    exact .inr (executed_of_mem_plan (List.mem_append_right _ member)).2
  | _ => cases member

/-- A dry run says nothing but what it rehearses. -/
theorem preserves_run_isRehearsed (runner : Runner) (config : Config) (request : Request) :
    Preserves Session.IsRehearsed (run runner config { request with dryRun := true }) := by
  refine preserves_run_of_next (fun milestone => ?_) fun start holds => ?_
  · exact preserves_next_of_updates unnoticed_isRehearsed unasked_isRehearsed
      (fun call member => .perform_isRehearsed runner (query_or_executed_of_mem_planned member))
      (fun path _ => .updateFile_isRehearsed path) Preserves.success_isRehearsed
  · exact unnoticed_isRehearsed start dryRunNotice trivial holds

section Output

variable {spawn : List String → Tree → Except Fault Completion} {tree : Tree}
  {operator : Operator} {rehearsedOutcome : Except Failure Released} {released : Released}
  {rehearsed final : Session}

/-- What a dry run says is, behind its notice and but for the previews, what the real run tells
the operator, if that succeeds. -/
theorem performed_of_dryRun {runner : Runner} (steady : runner.Steady)
    (spares : runner.Spares config.versionFile config.changelogFile)
    (sparesOther : runner.Spares config.changelogFile config.versionFile) (request : Request)
    (distinct : tree.DistinctFiles config.versionFile config.changelogFile)
    (rehearses : (run runner config { request with dryRun := true }).run.run { tree, operator } =
      (rehearsedOutcome, rehearsed))
    (ran : (run runner config { request with dryRun := false }).run.run { tree, operator } =
      (.ok released, final)) :
    rehearsed.transcript.filterMap Message.performed? =
      dryRunNotice :: final.transcript.withoutDiagnostics := by
  have start : Abreast [dryRunNotice] config.versionFile config.changelogFile []
      (Session.told { tree, operator } dryRunNotice) { tree, operator } :=
    { operator := rfl
      calls := rfl
      executed := nofun
      transcript := ⟨rfl, rfl, rfl⟩
      dryFiles := distinct
      realFiles := distinct
      kept := fun _ _ _ => rfl
      wrote := nofun }
  have alike := pairs_stages [dryRunNotice] request steady spares sparesOther distinct.ne.symm
    _ _ start
  rw [run_eq_stages, opening, if_pos rfl] at rehearses
  rw [run_eq_stages, opening, if_neg Bool.false_ne_true] at ran
  rw [ran, dryRunNotice, rehearses] at alike
  cases alike with
  | succeeded holds =>
    obtain ⟨-, written, abreast⟩ := holds
    exact abreast.transcript.messages

/-- A dry run prints what the real run prints, if that succeeds. Behind its notice, without the
previews and without the marks, it prints the same to the output. To the errors it prints what
the real run tells the operator there, whatever the log shows. So the texts are the same if the
log holds warnings back, and also if every command of the real run succeeded. -/
theorem unrehearsed_of_dryRun (config : Config) (request : Request)
    (programs : FixedPrograms spawn config.versionFile config.changelogFile)
    (distinct : tree.DistinctFiles config.versionFile config.changelogFile)
    (rehearses : (run (.spawning spawn) config { request with dryRun := true }).run.run
      { tree, operator } = (rehearsedOutcome, rehearsed))
    (ran : (run (.spawning spawn) config { request with dryRun := false }).run.run
      { tree, operator } = (.ok released, final)) :
    ∃ said, rehearsed.transcript = dryRunNotice :: said ∧
      Transcript.unrehearsed said = final.transcript.shown false .output ∧
      (∀ log : Log, rehearsed.transcript.errors false log =
        final.transcript.withoutDiagnostics.errors false log) ∧
      ∀ log : Log, (log.Withholds .warning ∨
          ∀ call ∈ final.calls, (Runner.spawning spawn).Succeeds tree call) →
        rehearsed.transcript.errors false log = final.transcript.errors false log := by
  have isRehearsal : rehearsed.transcript.IsRehearsal :=
    (preserves_run_isRehearsed (.spawning spawn) config request).after rehearses .nil
  have performed := performed_of_dryRun programs.steady programs.runner_spares
    programs.symm.runner_spares request distinct rehearses ran
  have isNotice : dryRunNotice.IsNotice := trivial
  obtain ⟨said, whole, rest, same⟩ := isRehearsal.of_filterMap_eq_cons isNotice performed
  have told : rehearsed.transcript.shown false .errors = final.transcript.shown false .errors := by
    rw [Transcript.shown, isRehearsal.errors_eq, performed,
      ← Transcript.shown_withoutDiagnostics false (by decide)]
    rfl
  have rehearsedErrors (log : Log) :
      rehearsed.transcript.errors false log = final.transcript.shown false .errors :=
    (Transcript.errors_of_silent isRehearsal.diagnostics_eq_nil false log).trans told
  refine ⟨said, whole, ?_, fun log => ?_, fun log withheld => ?_⟩
  · rw [rest.unrehearsed_eq, same, Transcript.shown_withoutDiagnostics false (by decide)]
  · rw [rehearsedErrors, Transcript.errors_of_silent Transcript.diagnostics_withoutDiagnostics,
      Transcript.shown_withoutDiagnostics false (by decide)]
  · rw [rehearsedErrors]
    symm
    rcases withheld with withholds | succeed
    · exact Transcript.errors_eq_shown false fun noted member place =>
        withholds place noted (severity_of_run programs.steady rfl rfl ran member)
    · exact Transcript.errors_of_silent
        (diagnostics_of_succeeds programs.steady rfl rfl ran succeed) false log

end Output

/-- Programs that name a branch, and that do not reach the remote. -/
def samplePrograms (command : List String) (tree : Tree) : Except Fault Completion :=
  .ok
    { status := if ["git", "push"].isPrefixOf command then .code 1 else .code 0
      output := if command = branchCommand then "topic\n".toUTF8 else ByteArray.empty
      tree }

theorem fixedPrograms_samplePrograms (path other : String) :
    FixedPrograms samplePrograms path other where
  answers _ _ _ := rfl
  spares command tree completion spawned distinct := by
    obtain rfl := Except.ok.inj spawned
    exact ⟨distinct, fun _ _ => rfl⟩

/-- A release from a branch that the operator accepts, of a version that the operator types.
The pushes fail, which only a log that shows warnings tells. -/
theorem unrehearsed_of_dryRun_sample :
    let request : Request := {}
    let ran (dryRun : Bool) := (run (.spawning samplePrograms) {} { request with dryRun }).run.run
      { tree := sampleTree, operator := .console "y\n1.1\n".toUTF8.data.toList }
    let silent : Log := fun _ _ => none
    (ran false).1.toOption.map (·.new.text) = some "1.1" ∧
      (ran false).2.transcript.diagnostics.map Diagnostic.text =
        [" WARN command failed, ignoring command=git push origin code=1 stderr=",
          " WARN command failed, ignoring command=git push origin 1.1 code=1 stderr="] ∧
      (ran false).2.transcript.errors false silent =
        "⚠ WARNING: Current branch is 'topic', not the main branch 'main'\n" ∧
      ∃ said, (ran true).2.transcript = dryRunNotice :: said ∧
        Transcript.unrehearsed said = (ran false).2.transcript.shown false .output ∧
        (ran true).2.transcript.errors false silent =
          (ran false).2.transcript.errors false silent := by
  intro request ran silent
  have succeeds : (ran false).1.toOption.map (·.new.text) = some "1.1" := by decide +kernel
  obtain ⟨released, succeeded⟩ : ∃ released, (ran false).1 = .ok released := by
    generalize (ran false).1 = outcome at succeeds
    cases outcome with
    | error failure => cases succeeds
    | ok released => exact ⟨released, rfl⟩
  have real : ran false = (.ok released, (ran false).2) := Prod.ext succeeded rfl
  refine ⟨succeeds, by decide +kernel, by decide +kernel, ?_⟩
  obtain ⟨said, whole, printed, -, errors⟩ := unrehearsed_of_dryRun {} request
    (fixedPrograms_samplePrograms _ _) distinctFiles_sampleTree (Prod.eta (ran true)).symm real
  exact ⟨said, whole, printed, errors silent (.inl fun _ _ _ => rfl)⟩

end Workflow

end ReleasePilot
