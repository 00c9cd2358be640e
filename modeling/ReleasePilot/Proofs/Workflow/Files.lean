import ReleasePilot.Proofs.Version.Canonical
import ReleasePilot.Proofs.Workflow.Stages

/-!
# The two files of a run

What a run does to the file that declares the version and to the changelog: each
is changed once, on the way to one milestone, and stays as it is at every other
step and at every failure.
-/

namespace ReleasePilot.Workflow

variable {runner : Runner} {config : Config} {request : Request}

/-! ## What is settled before the files are touched -/

/-- The new version was read from some text. -/
theorem of_askVersion {proposal : String} {before after : Session} {version : Version}
    (asked : askVersion proposal before = (.ok version, after)) :
    ∃ spelling, Version.ofText? spelling = some version := by
  fun_induction askVersion proposal before with
  | case1 before cause between reply => cases asked
  | case2 before answer between reply found valid =>
    obtain ⟨⟨⟩, -⟩ := Prod.mk.inj asked
    exact ⟨answer, valid⟩
  | case3 before answer between reply invalid told remaining inductionHypothesis =>
    exact inductionHypothesis asked
  | case4 before answer between reply invalid told exhausted => cases asked

theorem of_chooseVersion {current new : Version} {before after : Session}
    (chosen : (chooseVersion request current).run.run before = (.ok new, after)) :
    ∃ spelling, Version.ofText? spelling = some new := by
  unfold chooseVersion at chosen
  split at chosen
  · obtain ⟨parsed, -⟩ := Prod.mk.inj chosen
    exact ⟨_, Version.parse_eq_ok_iff.1 parsed⟩
  · obtain ⟨proposal, _, -, asked⟩ | ⟨_, -, ⟨⟩⟩ := of_bind chosen
    exact of_askVersion asked

/-- A run goes on from its current version, which the version file declares, to
a version that was read. -/
theorem of_resolveVersions {previous new : Version} {before after : Session}
    (resolved : (resolveVersions config request).run.run before = (.ok (previous, new), after)) :
    (∃ text, before.tree.readText config.versionFile = .ok text ∧
      Declaration.current config.versionFile config.versionIdentifier text = .ok previous) ∧
      ∃ spelling, Version.ofText? spelling = some new := by
  unfold resolveVersions at resolved
  obtain ⟨current, _, found, resolved⟩ | ⟨_, -, ⟨⟩⟩ := of_bind resolved
  obtain ⟨version, _, chosen, resolved⟩ | ⟨_, -, ⟨⟩⟩ := of_bind resolved
  have settled {before after : Session} (said : (do
      Action.say (.versionChange current.text version.text)
      return (current, version) : Action (Version × Version)).run.run before =
        (.ok (previous, new), after)) : current = previous ∧ version = new := by
    obtain ⟨same, -⟩ := Prod.mk.inj said
    exact Prod.mk.inj (Except.ok.inj same)
  have both : current = previous ∧ version = new := by
    split at resolved
    · obtain ⟨_, _, -, resolved⟩ | ⟨_, -, ⟨⟩⟩ := of_bind resolved
      obtain ⟨agreed, _, -, resolved⟩ | ⟨_, -, ⟨⟩⟩ := of_bind resolved
      cases agreed with
      | true => exact settled resolved
      | false => cases resolved
    · exact settled resolved
  obtain ⟨rfl, rfl⟩ := both
  refine ⟨?_, of_chooseVersion chosen⟩
  obtain ⟨text, _, reading, declared⟩ | ⟨_, -, ⟨⟩⟩ := of_bind found
  obtain ⟨read, rfl⟩ := Prod.mk.inj reading
  exact ⟨text, Action.ok_of_mapError read, (Prod.mk.inj declared).1⟩

/-! ## Progress -/

/-- The version that the text of the version file declares. -/
def Declares (config : Config) (text : Except Fault String) (version : Version) : Prop :=
  ∃ contents, text = .ok contents ∧
    Declaration.current config.versionFile config.versionIdentifier contents = .ok version

/-- A version that some text writes. -/
def IsRead (version : Version) : Prop :=
  ∃ spelling, Version.ofText? spelling = some version

namespace Milestone

variable (config : Config) (request : Request) (first current : Except Fault String)

/-- The text of the version file at a milestone, given its text at the start. -/
def VersionText : Milestone → Prop
  | .opened | .onBranch => current = first
  | .resolved previous new => Declares config first previous ∧ IsRead new ∧ current = first
  | .declared previous new | .recorded previous new _ | .tagged previous new _
  | .uploaded previous new _ | .released previous new _ =>
    Declares config first previous ∧ IsRead new ∧
      Updated request.dryRun (Declaration.set config.versionFile config.versionIdentifier new)
        first current

/-- The text of the changelog at a milestone, given its text at the start. -/
def ChangelogText : Milestone → Prop
  | .opened | .onBranch => current = first
  | .resolved _ new | .declared _ new => IsRead new ∧ current = first
  | .recorded _ new entry | .tagged _ new entry | .uploaded _ new entry
  | .released _ new entry =>
    IsRead new ∧ entry.header = new.text ∧
      Updated request.dryRun (Changelog.insert config.changelogFile entry) first current

end Milestone

/-- A file keeps its text on the way to a milestone if only another is replaced there. -/
theorem preserves_next_readsAs {path other : String} {text : Except Fault String}
    {milestone : Milestone} (spares : runner.Spares path other)
    (others : ∀ replaced ∈ milestone.replaced config, replaced = other) :
    Preserves (Session.ReadsAs path other text) (next runner config request milestone) := by
  refine preserves_next unspoken_readsAs unasked_readsAs
    (fun call _ => .perform_of_spares spares call) fun _ replaced member contents => ?_
  rw [others replaced member]
  exact .replaceFile_other contents

theorem readsAs_opening {path other : String} {text : Except Fault String} {start : Session}
    (reads : start.ReadsAs path other text) :
    (opening request start).ReadsAs path other text := by
  unfold opening
  split
  · exact unspoken_readsAs _ _ reads
  · exact reads

/-- With recorded replies, a run changes nothing but its two files. -/
theorem undisturbed_differsOnlyIn {replies : List Reply} {tree : Tree}
    (distinct : tree.DistinctFiles config.versionFile config.changelogFile) :
    Undisturbed (.recorded replies) config request fun session =>
      tree.DiffersOnlyIn [config.versionFile, config.changelogFile] session.tree where
  unspoken _ _ differs := differs
  unasked _ _ _ differs := differs
  performs call before differs := by
    have same : ((Action.perform (.recorded replies) call).run.run before).2.tree = before.tree :=
      Preserves.perform_recorded replies call before rfl
    change tree.DiffersOnlyIn _ ((Action.perform (.recorded replies) call).run.run before).2.tree
    rw [same]
    exact differs
  replaces _ path member contents := by
    refine .of_forall_run fun before outcome after ran differs => ?_
    rcases Action.of_replaceFile ran with ⟨-, -, rfl⟩ | ⟨tree, replaced, -, rfl⟩
    · exact differs
    · obtain ⟨place, holds⟩ := distinct.holdsFile member
      exact differs.replace member holds replaced

section Version

variable {start before after : Session} {first current : Except Fault String}
  {milestone later : Milestone}

theorem versionText_of_next (spares : runner.Spares config.versionFile config.changelogFile)
    (reads : before.ReadsAs config.versionFile config.changelogFile current)
    (text : milestone.VersionText config request first current)
    (ran : (next runner config request milestone).run.run before = (.ok later, after)) :
    ∃ current, after.ReadsAs config.versionFile config.changelogFile current ∧
      later.VersionText config request first current := by
  have kept (others : ∀ replaced ∈ milestone.replaced config, replaced = config.changelogFile) :
      after.ReadsAs config.versionFile config.changelogFile current :=
    (preserves_next_readsAs spares others).after ran reads
  cases passes_of_next ran with
  | branch => exact ⟨current, kept nofun, text⟩
  | versions resolved =>
    obtain ⟨declares, isRead⟩ := of_resolveVersions resolved
    refine ⟨current, kept nofun, ?_, isRead, text⟩
    obtain rfl : current = first := text
    obtain ⟨contents, read, declared⟩ := declares
    exact ⟨contents, reads.read.symm.trans read, declared⟩
  | declaration set =>
    obtain ⟨declares, isRead, rfl⟩ := text
    rcases of_updateFile reads set with ⟨_, ⟨⟩, -⟩ | ⟨-, changed, reads, updated⟩
    exact ⟨changed, reads, declares, isRead, updated⟩
  | changelog => exact ⟨current, kept (by simp [Milestone.replaced]), text⟩
  | tagging => exact ⟨current, kept nofun, text⟩
  | uploading => exact ⟨current, kept nofun, text⟩
  | announcement => exact ⟨current, kept nofun, text⟩
  | rest => exact ⟨current, kept nofun, text⟩

/-- The version file is brought up to date between two milestones and stays as
it is before and after. -/
theorem versionText_of_reaches (spares : runner.Spares config.versionFile config.changelogFile)
    (reads : start.ReadsAs config.versionFile config.changelogFile first)
    (reached : Reaches runner config request start milestone before) :
    ∃ current, before.ReadsAs config.versionFile config.changelogFile current ∧
      milestone.VersionText config request first current := by
  induction reached with
  | opened => exact ⟨first, readsAs_opening reads, rfl⟩
  | next reached ran inductionHypothesis =>
    obtain ⟨current, reads, text⟩ := inductionHypothesis
    exact versionText_of_next spares reads text ran

/-- A step that fails leaves the version file as it is. -/
theorem readsAs_version_of_error {cause : ReleaseError}
    (spares : runner.Spares config.versionFile config.changelogFile)
    (reads : before.ReadsAs config.versionFile config.changelogFile current)
    (failed : (next runner config request milestone).run.run before = (.error cause, after)) :
    after.ReadsAs config.versionFile config.changelogFile current := by
  cases milestone with
  | resolved previous new =>
    obtain ⟨_, _, -, ⟨⟩⟩ | ⟨_, failed, -⟩ := of_bind failed
    obtain ⟨-, -, kept⟩ | ⟨⟨⟩, -⟩ := of_updateFile reads failed
    exact kept
  | _ => exact (preserves_next_readsAs spares (by simp [Milestone.replaced])).after failed reads

end Version

/-! ## The changelog -/

section Changelog

variable {start before after : Session} {first current : Except Fault String}
  {milestone later : Milestone}

/-- The query for the merges fails, or the section that it gives is inserted. -/
theorem split_updateChangelog {previous new : Version}
    {outcome : Except ReleaseError Changelog.Section}
    (ran : (updateChangelog runner config request previous new).run.run before =
      (outcome, after)) :
    (∃ cause, (Action.perform runner ⟨Changelog.mergeLogCommand previous, .query⟩).run.run before =
        (.error cause, after) ∧ outcome = .error cause) ∨
      ∃ log between result,
        (Action.perform runner ⟨Changelog.mergeLogCommand previous, .query⟩).run.run before =
          (.ok log, between) ∧
        (Action.updateFile config.changelogFile request.dryRun (Changelog.insert
          config.changelogFile (.ofVersion new (Changelog.bullets log)))).run.run
            (between.told (.changelog (.ofVersion new (Changelog.bullets log)))) =
              (result, after) ∧
        outcome = result.map fun _ => .ofVersion new (Changelog.bullets log) := by
  obtain ⟨entry, between, built, ran⟩ | ⟨cause, failed, rfl⟩ := of_bind ran
  · obtain ⟨items, _, collected, same⟩ | ⟨_, -, ⟨⟩⟩ := of_bind built
    obtain ⟨⟨⟩, ⟨⟩⟩ := Prod.mk.inj same
    obtain ⟨log, _, performed, same⟩ | ⟨_, -, ⟨⟩⟩ := of_bind collected
    obtain ⟨⟨⟩, ⟨⟩⟩ := Prod.mk.inj same
    obtain ⟨_, _, said, ran⟩ | ⟨_, ⟨⟩, -⟩ := of_bind ran
    obtain ⟨-, rfl⟩ := Prod.mk.inj said
    obtain ⟨done, _, inserted, same⟩ | ⟨cause, failed, rfl⟩ := of_bind ran
    · obtain ⟨rfl, rfl⟩ := Prod.mk.inj same
      exact .inr ⟨log, between, .ok done, performed, inserted, rfl⟩
    · exact .inr ⟨log, between, .error cause, performed, failed, rfl⟩
  · obtain ⟨items, _, -, ⟨⟩⟩ | ⟨_, failed, ⟨⟩⟩ := of_bind failed
    obtain ⟨log, _, -, ⟨⟩⟩ | ⟨_, failed, ⟨⟩⟩ := of_bind failed
    exact .inl ⟨cause, failed, rfl⟩

/-- A section for the new version is built and inserted, or the changelog stays as it is. -/
theorem of_updateChangelog {previous new : Version}
    {outcome : Except ReleaseError Changelog.Section}
    (spares : runner.Spares config.changelogFile config.versionFile)
    (reads : before.ReadsAs config.changelogFile config.versionFile current)
    (ran : (updateChangelog runner config request previous new).run.run before =
      (outcome, after)) :
    (∃ cause, outcome = .error cause ∧
      after.ReadsAs config.changelogFile config.versionFile current) ∨
      ∃ log changed, outcome = .ok (.ofVersion new (Changelog.bullets log)) ∧
        after.ReadsAs config.changelogFile config.versionFile changed ∧
        Updated request.dryRun (Changelog.insert config.changelogFile
          (.ofVersion new (Changelog.bullets log))) current changed := by
  have queries : Preserves (Session.ReadsAs config.changelogFile config.versionFile current)
      (Action.perform runner ⟨Changelog.mergeLogCommand previous, .query⟩) :=
    .perform_of_spares spares _
  obtain ⟨cause, failed, rfl⟩ | ⟨log, between, result, performed, inserted, rfl⟩ :=
    split_updateChangelog ran
  · exact .inl ⟨cause, rfl, queries.after failed reads⟩
  · have told := unspoken_readsAs between (.changelog (.ofVersion new (Changelog.bullets log)))
      (queries.after performed reads)
    rcases of_updateFile told inserted with ⟨cause, rfl, kept⟩ | ⟨rfl, changed, reads, updated⟩
    · exact .inl ⟨cause, rfl, kept⟩
    · exact .inr ⟨log, changed, rfl, reads, updated⟩

theorem changelogText_of_next (spares : runner.Spares config.changelogFile config.versionFile)
    (reads : before.ReadsAs config.changelogFile config.versionFile current)
    (text : milestone.ChangelogText config request first current)
    (ran : (next runner config request milestone).run.run before = (.ok later, after)) :
    ∃ current, after.ReadsAs config.changelogFile config.versionFile current ∧
      later.ChangelogText config request first current := by
  have kept (others : ∀ replaced ∈ milestone.replaced config, replaced = config.versionFile) :
      after.ReadsAs config.changelogFile config.versionFile current :=
    (preserves_next_readsAs spares others).after ran reads
  cases passes_of_next ran with
  | branch => exact ⟨current, kept nofun, text⟩
  | versions resolved => exact ⟨current, kept nofun, (of_resolveVersions resolved).2, text⟩
  | declaration => exact ⟨current, kept (by simp [Milestone.replaced]), text⟩
  | changelog updated =>
    obtain ⟨isRead, rfl⟩ := text
    obtain ⟨_, ⟨⟩, -⟩ | ⟨log, changed, ⟨⟩, reads, updated⟩ :=
      of_updateChangelog spares reads updated
    exact ⟨changed, reads, isRead, rfl, updated⟩
  | tagging => exact ⟨current, kept nofun, text⟩
  | uploading => exact ⟨current, kept nofun, text⟩
  | announcement => exact ⟨current, kept nofun, text⟩
  | rest => exact ⟨current, kept nofun, text⟩

/-- The changelog is brought up to date between two milestones and stays as it
is before and after. -/
theorem changelogText_of_reaches (spares : runner.Spares config.changelogFile config.versionFile)
    (reads : start.ReadsAs config.changelogFile config.versionFile first)
    (reached : Reaches runner config request start milestone before) :
    ∃ current, before.ReadsAs config.changelogFile config.versionFile current ∧
      milestone.ChangelogText config request first current := by
  induction reached with
  | opened => exact ⟨first, readsAs_opening reads, rfl⟩
  | next reached ran inductionHypothesis =>
    obtain ⟨current, reads, text⟩ := inductionHypothesis
    exact changelogText_of_next spares reads text ran

/-- A step that fails leaves the changelog as it is. -/
theorem readsAs_changelog_of_error {cause : ReleaseError}
    (spares : runner.Spares config.changelogFile config.versionFile)
    (reads : before.ReadsAs config.changelogFile config.versionFile current)
    (failed : (next runner config request milestone).run.run before = (.error cause, after)) :
    after.ReadsAs config.changelogFile config.versionFile current := by
  cases milestone with
  | declared previous new =>
    obtain ⟨_, _, -, ⟨⟩⟩ | ⟨_, failed, -⟩ := of_bind failed
    obtain ⟨_, -, kept⟩ | ⟨_, _, ⟨⟩, -⟩ := of_updateChangelog spares reads failed
    exact kept
  | _ => exact (preserves_next_readsAs spares (by simp [Milestone.replaced])).after failed reads

end Changelog

/-! ## A small project -/

/-- A tree with a version file and a changelog, both of version 1.0. -/
def sampleTree : Tree where
  entries :=
    [(["version.py"], .file "__version__ = \"1.0\"\n".toUTF8 false),
      (["CHANGELOG.rst"], .file "History\n=======\n\n1.0\n---\n\n- First\n".toUTF8 false)]

theorem distinctFiles_sampleTree : sampleTree.DistinctFiles "version.py" "CHANGELOG.rst" :=
  ⟨["version.py"], ["CHANGELOG.rst"], ⟨rfl, rfl, _, _, rfl⟩, ⟨rfl, rfl, _, _, rfl⟩, by decide⟩

/-- The main branch is checked out. -/
def sampleReplies : List Reply :=
  [⟨["git", "rev-parse"], .output "main\n"⟩]

/-- A run from the main branch, with no answers to any question. -/
def sampleRun (config : Config) (request : Request) (tree : Tree) :
    Except Failure Released × Session :=
  (run (.recorded sampleReplies) config request).run.run { tree, operator := .scripted [] [] }

theorem sampleRun_of_ok {config : Config} {request : Request} {tree written : Tree}
    {spelling : String}
    (succeeds : (sampleRun config request tree).1.toOption.map (·.new.text) = some spelling)
    (writes : (sampleRun config request tree).2.tree = written) :
    ∃ released final, sampleRun config request tree = (.ok released, final) ∧
      released.new.text = spelling ∧ final.tree = written := by
  rcases ran : sampleRun config request tree with ⟨failure | released, final⟩
  · rw [ran] at succeeds
    cases succeeds
  · rw [ran] at succeeds writes
    exact ⟨released, final, rfl, Option.some.inj succeeds, writes⟩

end ReleasePilot.Workflow
