import ReleasePilot.Proofs.Declaration.Rewriting
import ReleasePilot.Proofs.Workflow.Files

/-!
# One release after another

A release goes on from the version that the release before it ended with: what a
run writes into the version file is what the next run reads there
(`Declaration.current_set`), and no dry run in between changes it.
-/

namespace ReleasePilot.Workflow

variable {runner : Runner} {config : Config} {request : Request}

/-- The text of the version file after a run, and what a successful run says of
it and asks for. -/
theorem versionText_of_run {tree : Tree} {operator : Operator}
    {outcome : Except Failure Released} {final : Session}
    (spares : runner.Spares config.versionFile config.changelogFile)
    (distinct : tree.DistinctFiles config.versionFile config.changelogFile)
    (ran : (run runner config request).run.run { tree, operator } = (outcome, final)) :
    ∃ milestone current, final.ReadsAs config.versionFile config.changelogFile current ∧
      Milestone.VersionText config request (tree.readText config.versionFile) current milestone ∧
      ∀ released, outcome = .ok released →
        ∃ entry, milestone = .released released.previous released.new entry ∧
          final.calls = milestone.issued config request := by
  have reads : Session.ReadsAs config.versionFile config.changelogFile
      (tree.readText config.versionFile) { tree, operator } := ⟨distinct, rfl⟩
  cases ends_of_run ran with
  | @released previous new entry final reached =>
    obtain ⟨current, after, text⟩ := versionText_of_reaches spares reads reached
    refine ⟨_, current, after, text, ?_⟩
    rintro _ ⟨⟩
    exact ⟨entry, rfl, calls_of_reaches reached⟩
  | @failed milestone before final cause reached failed =>
    obtain ⟨current, after, text⟩ := versionText_of_reaches spares reads reached
    refine ⟨milestone, current, readsAs_version_of_error spares after failed, text, ?_⟩
    rintro _ ⟨⟩

/-- A dry run leaves the text of the version file as it is. -/
theorem versionText_of_dryRun {milestone : Milestone} {first current : Except Fault String}
    (dry : request.dryRun = true)
    (text : Milestone.VersionText config request first current milestone) : current = first := by
  have same {change : String → Except ReleaseError String}
      (updated : Updated request.dryRun change first current) : current = first := by
    obtain ⟨old, new, rfl, -, rfl⟩ := updated
    rw [if_pos dry]
  cases milestone with
  | opened => exact text
  | onBranch => exact text
  | resolved => exact text.2.2
  | _ => exact same text.2.2

/-- What may happen between two releases: dry runs, and whatever else leaves the
text of the version file as it is. -/
inductive Interlude (config : Config) (start : Tree) : Tree → Prop where
  | none : Interlude config start start
  | dryRun {tree : Tree} (earlier : Interlude config start tree) {runner : Runner}
      (spares : runner.Spares config.versionFile config.changelogFile) {request : Request}
      (dry : request.dryRun = true) {operator : Operator} {outcome : Except Failure Released}
      {final : Session}
      (ran : (run runner config request).run.run { tree, operator } = (outcome, final)) :
      Interlude config start final.tree
  | edit {tree edited : Tree} (earlier : Interlude config start tree)
      (distinct : edited.DistinctFiles config.versionFile config.changelogFile)
      (kept : edited.readText config.versionFile = tree.readText config.versionFile) :
      Interlude config start edited

theorem Interlude.kept {start tree : Tree} (interlude : Interlude config start tree)
    (distinct : start.DistinctFiles config.versionFile config.changelogFile) :
    tree.DistinctFiles config.versionFile config.changelogFile ∧
      tree.readText config.versionFile = start.readText config.versionFile := by
  induction interlude with
  | none => exact ⟨distinct, rfl⟩
  | dryRun earlier spares dry ran inductionHypothesis =>
    obtain ⟨distinct, same⟩ := inductionHypothesis
    obtain ⟨milestone, current, reads, text, -⟩ := versionText_of_run spares distinct ran
    exact ⟨reads.distinct, reads.read.trans ((versionText_of_dryRun dry text).trans same)⟩
  | edit earlier distinct kept inductionHypothesis =>
    exact ⟨distinct, kept.trans inductionHypothesis.2⟩

/-- A release writes its new version into the version file. -/
theorem declares_of_released {tree : Tree} {operator : Operator} {released : Released}
    {final : Session} (spares : runner.Spares config.versionFile config.changelogFile)
    (distinct : tree.DistinctFiles config.versionFile config.changelogFile)
    (real : request.dryRun = false)
    (ran : (run runner config request).run.run { tree, operator } = (.ok released, final)) :
    final.tree.DistinctFiles config.versionFile config.changelogFile ∧
      Declares config (final.tree.readText config.versionFile) released.new := by
  obtain ⟨milestone, current, reads, text, succeeded⟩ := versionText_of_run spares distinct ran
  obtain ⟨entry, rfl, -⟩ := succeeded released rfl
  obtain ⟨-, ⟨spelling, read⟩, old, new, -, updated, changed⟩ := text
  rw [real] at changed
  refine ⟨reads.distinct, new, reads.read.trans changed, ?_⟩
  exact Declaration.current_set (Version.canonical_of_ofText? read) updated

/-- The version that a release goes on from is the one that the release before
it made, and the merges are listed since its tag. -/
theorem previous_of_consecutive {first second : Runner} {firstRequest secondRequest : Request}
    {tree between : Tree} {operator secondOperator : Operator} {released later : Released}
    {final last : Session}
    (distinct : tree.DistinctFiles config.versionFile config.changelogFile)
    (firstSpares : first.Spares config.versionFile config.changelogFile)
    (secondSpares : second.Spares config.versionFile config.changelogFile)
    (real : firstRequest.dryRun = false)
    (ran : (run first config firstRequest).run.run { tree, operator } = (.ok released, final))
    (interlude : Interlude config final.tree between)
    (ranLater : (run second config secondRequest).run.run
      { tree := between, operator := secondOperator } = (.ok later, last)) :
    later.previous = released.new ∧
      ∃ tag message format,
        final.calls[4]? = some ⟨["git", "tag", "-a", tag, "-m", message], .mutating false⟩ ∧
        last.calls[1]? = some ⟨["git", "log", "--merges", format, tag ++ "..HEAD"], .query⟩ := by
  obtain ⟨stillDistinct, declared⟩ := declares_of_released firstSpares distinct real ran
  obtain ⟨distinctBetween, same⟩ := interlude.kept stillDistinct
  obtain ⟨_, _, -, -, succeeded⟩ := versionText_of_run firstSpares distinct ran
  obtain ⟨entry, rfl, calls⟩ := succeeded released rfl
  obtain ⟨_, _, -, text, succeededLater⟩ := versionText_of_run secondSpares distinctBetween ranLater
  obtain ⟨laterEntry, rfl, laterCalls⟩ := succeededLater later rfl
  obtain ⟨⟨contents, read, current⟩, -⟩ := text
  obtain ⟨written, readBefore, currentBefore⟩ := declared
  have previous : later.previous = released.new := by
    rw [same, readBefore] at read
    obtain rfl := Except.ok.inj read
    exact Except.ok.inj (current.symm.trans currentBefore)
  have tagged : final.calls[4]? = some ⟨["git", "tag", "-a", released.new.text, "-m",
      (publication firstRequest released.new entry).tagMessage], .mutating false⟩ := by
    rw [calls, ← real]
    rfl
  have queried : last.calls[1]? = some ⟨Changelog.mergeLogCommand later.previous, .query⟩ := by
    rw [laterCalls]
    rfl
  rw [previous] at queried
  exact ⟨previous, _, _, _, tagged, queried⟩

/-- The small project after the release of a candidate. -/
def candidateTree : Tree where
  entries :=
    [(["version.py"], .file "__version__ = \"1.1rc1\"\n".toUTF8 false),
      (["CHANGELOG.rst"],
        .file "History\n=======\n\n1.1rc1\n------\n\n\n1.0\n---\n\n- First\n".toUTF8 false)]

/-- A release candidate of the small project, spelled carelessly, is followed by
the release itself, with a dry run of another version in between. -/
theorem previous_of_consecutive_sample :
    ∃ released later : Released, released.new.text = "1.1rc1" ∧ later.new.text = "1.1" ∧
      later.previous = released.new := by
  obtain ⟨released, first, ran, spelled, written⟩ : ∃ released first,
      sampleRun {} { newVersion := some " V1.1-RC_1 " } sampleTree = (.ok released, first) ∧
      released.new.text = "1.1rc1" ∧ first.tree = candidateTree :=
    sampleRun_of_ok (by decide +kernel) (by decide +kernel)
  obtain ⟨tried, dry, dryRan, -, kept⟩ : ∃ tried dry,
      sampleRun {} { newVersion := some "2.0", dryRun := true } candidateTree = (.ok tried, dry) ∧
      tried.new.text = "2.0" ∧ dry.tree = candidateTree :=
    sampleRun_of_ok (by decide +kernel) (by decide +kernel)
  obtain ⟨later, second, ranLater, spelledLater, -⟩ : ∃ later second,
      sampleRun {} { newVersion := some "1.1" } candidateTree = (.ok later, second) ∧
      later.new.text = "1.1" ∧ second.tree = _ := sampleRun_of_ok (by decide +kernel) rfl
  have spares := Runner.spares_recorded sampleReplies "version.py" "CHANGELOG.rst"
  have interlude : Interlude {} first.tree dry.tree := by
    rw [written]
    exact .dryRun .none spares rfl dryRan
  rw [← kept] at ranLater
  have chained := previous_of_consecutive distinctFiles_sampleTree spares spares rfl ran interlude
    ranLater
  exact ⟨released, later, spelled, spelledLater, chained.1⟩

end ReleasePilot.Workflow
