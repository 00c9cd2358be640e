import ReleasePilot.Proofs.Config.Pattern
import ReleasePilot.Proofs.Workflow.Chaining
import ReleasePilot.Proofs.Workflow.Failure

/-!
# What a release leaves behind

A run that succeeds leaves one release: both files, the commands and the tag are of the
one new version, and the changelog and the message of the tag list the same merges
(`consistent_of_released`).
-/

namespace ReleasePilot.Workflow

/-- The commands of a release in their order, given how its two versions are written,
its changelog entries and the name of its files. -/
def releaseCalls (config : Config) (target : UploadTarget) (previous new : String)
    (entries : List String) (files : String) : List Call :=
  let query : RunOptions := {}
  [⟨["git", "rev-parse", "--abbrev-ref", "HEAD"], query⟩,
    ⟨["git", "log", "--merges", "--pretty=format:%s\x1f%b\x1e", previous ++ "..HEAD"], query⟩] ++
    taggingCommands config new entries ++ uploadingCommands config target files

/-- A session in which a release from a tree was completed, by the merges of one log. -/
structure Consistent (replies : List Reply) (config : Config) (request : Request) (tree : Tree)
    (operator : Operator) (released : Released) (log : String) (final : Session) : Prop where
  previous : Declares config (tree.readText config.versionFile) released.previous
  logged : ((Runner.recorded replies).run (Changelog.mergeLogCommand released.previous) .query
    tree).1 = .ok log
  written : BothWritten config released.new
    { header := released.new.text, entries := Changelog.bullets log } tree final.tree
  current : Declares config (final.tree.readText config.versionFile) released.new
  calls : ∃ files, Config.Substitutes released.new.text.toList config.artifactGlob.toList
      files.toList ∧
    final.calls = releaseCalls config request.target released.previous.text released.new.text
      (Changelog.bullets log) files
  done : ∃ milestone, milestone.stage = .done ∧
    Reaches (.recorded replies) config request { tree, operator } milestone final

variable {replies : List Reply} {config : Config} {request : Request} {tree : Tree}
  {operator : Operator} {final : Session}

/-- The commands up to the last milestone of a run that is no dry run. -/
theorem issued_released (real : request.dryRun = false) (previous new : Version) (log : String) :
    (Milestone.released previous new (.ofVersion new (Changelog.bullets log))).issued config
        request =
      releaseCalls config request.target previous.text new.text (Changelog.bullets log)
        (config.artifactPattern new.text) := by
  simp only [Milestone.issued, publication, real]
  rfl

/-- At the last milestone, the files and the commands are those of the release. -/
theorem consistent_of_reaches {previous new : Version} {entry : Changelog.Section}
    (distinct : tree.DistinctFiles config.versionFile config.changelogFile)
    (real : request.dryRun = false)
    (reached : Reaches (.recorded replies) config request { tree, operator }
      (.released previous new entry) final)
    (current : Declares config (final.tree.readText config.versionFile) new) :
    ∃ log, Consistent replies config request tree operator
      { previous, new, dryRun := request.dryRun } log final := by
  obtain ⟨⟨log, logged, rfl⟩, written⟩ :
      Documents replies tree previous new entry ∧ BothWritten config new entry tree final.tree :=
    written_of_reaches real distinct rfl reached
  obtain ⟨_, -, declares, -⟩ := versionText_of_reaches
    (Runner.spares_recorded replies config.versionFile config.changelogFile) ⟨distinct, rfl⟩ reached
  have calls := calls_of_reaches reached
  rw [List.nil_append, issued_released real] at calls
  have files := Config.substitutes_artifactPattern config new.text
  exact ⟨log, declares, logged, written, current, ⟨_, files, calls⟩, _, rfl, reached⟩

end ReleasePilot.Workflow
