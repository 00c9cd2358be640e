import ReleasePilot.Proofs.Workflow.Consent

/-!
# What a failure leaves behind

The stage of a failure tells what the run had changed: up to the update of the
version file nothing, then that file alone, and both files once the publication
began (`leftBehind_of_failure`). A step that fails leaves the tree as it found it
(`tree_of_error`), so that what is left is what was written at the last milestone. And
a run comes to the first command that is no query only by a milestone at which both
files are written (`recorded_of_calls`).
-/

namespace ReleasePilot

/-- Of some planned commands, all before one that failed were asked for, and that one. -/
def Stopped (runner : Runner) (planned taken : List Call) (cause : ReleaseError) : Prop :=
  ∃ earlier failing later tree, planned = earlier ++ failing :: later ∧
    taken = earlier ++ [failing] ∧
    (runner.run failing.command failing.options tree).1 = .error cause

/-- A sequence of commands fails with the first of them that fails. -/
theorem Action.of_performAll_error {runner : Runner} {calls : List Call}
    {before after : Session} {cause : ReleaseError}
    (failed : (performAll runner calls).run.run before = (.error cause, after)) :
    ∃ taken, after.calls = before.calls ++ taken ∧ Stopped runner calls taken cause := by
  induction calls generalizing before with
  | nil => cases failed
  | cons call more inductionHypothesis =>
    obtain ⟨printed, between, performed, failed⟩ | ⟨_, performed, ⟨⟩⟩ := of_bind failed
    · obtain ⟨-, rfl⟩ := Prod.mk.inj performed
      obtain ⟨taken, calls, earlier, failing, later, tree, rfl, rfl, result⟩ :=
        inductionHypothesis failed
      refine ⟨call :: (earlier ++ [failing]), ?_, call :: earlier, failing, later, tree, rfl, rfl,
        result⟩
      rw [calls]
      exact List.append_assoc _ [call] _
    · obtain ⟨result, rfl⟩ := Prod.mk.inj performed
      exact ⟨[call], rfl, [], call, more, before.tree, rfl, rfl, result⟩

namespace Workflow

/-- The version file was set to a version, and all else is as before. -/
structure VersionWritten (config : Config) (new : Version) (before after : Tree) : Prop where
  version : Updated false (Declaration.set config.versionFile config.versionIdentifier new)
    (before.readText config.versionFile) (after.readText config.versionFile)
  changelog : after.readText config.changelogFile = before.readText config.changelogFile
  others : before.DiffersOnlyIn [config.versionFile] after

/-- The version file was set to a version and a section inserted into the changelog,
and all else is as before. -/
structure BothWritten (config : Config) (new : Version) (entry : Changelog.Section)
    (before after : Tree) : Prop where
  version : Updated false (Declaration.set config.versionFile config.versionIdentifier new)
    (before.readText config.versionFile) (after.readText config.versionFile)
  changelog : Updated false (Changelog.insert config.changelogFile entry)
    (before.readText config.changelogFile) (after.readText config.changelogFile)
  others : before.DiffersOnlyIn [config.versionFile, config.changelogFile] after

/-- A section documents a version by the merges that the query for them reports. -/
def Documents (replies : List Reply) (tree : Tree) (previous new : Version)
    (entry : Changelog.Section) : Prop :=
  ∃ log, ((Runner.recorded replies).run (Changelog.mergeLogCommand previous) .query tree).1 =
      .ok log ∧ entry = .ofVersion new (Changelog.bullets log)

/-- The commands that commit, tag and push a release, given how its version is written and
its changelog entries. -/
def taggingCommands (config : Config) (new : String) (entries : List String) : List Call :=
  let fatal : RunOptions := { logCommand := true }
  let push : RunOptions := { logCommand := true, ignoreErrors := true }
  [⟨["git", "add", "--all"], fatal⟩,
    ⟨["git", "commit", "-m", "Bump version to " ++ new], fatal⟩,
    ⟨["git", "tag", "-a", new, "-m",
      new ++ "\n\nChangelog:\n" ++ "\n".intercalate entries], fatal⟩,
    ⟨["git", "push", config.remote], push⟩,
    ⟨["git", "push", config.remote, new], push⟩]

/-- The commands that build the package and upload its files, given the name of these. -/
def uploadingCommands (config : Config) (target : UploadTarget) (files : String) : List Call :=
  let fatal : RunOptions := { logCommand := true }
  [⟨config.buildCommand, fatal⟩,
    ⟨config.uploadCommand ++ target.arguments ++ [files], fatal⟩]

/-- What a run that failed has changed and which commands it has asked for, by the
stage that the failure names. -/
def LeftBehind (replies : List Reply) (config : Config) (request : Request) (tree : Tree)
    (answers : List String) (failure : Failure) (final : Session) : Prop :=
  let settled (previous new : Version) : Prop := final.HasAsked answers
    (Consent (.recorded replies) config request tree answers previous new)
  let queries (previous : Version) : List Call :=
    [⟨branchCommand, .query⟩, ⟨Changelog.mergeLogCommand previous, .query⟩]
  match failure.stage with
  | .checkBranch | .resolveVersions | .updateVersionFile =>
    final.tree = tree ∧ final.calls <+: [⟨branchCommand, .query⟩]
  | .updateChangelog =>
    ∃ previous new, settled previous new ∧ VersionWritten config new tree final.tree ∧
      final.calls <+: queries previous
  | .tagAndPush =>
    ∃ previous new entry taken, settled previous new ∧
      Documents replies tree previous new entry ∧ BothWritten config new entry tree final.tree ∧
      final.calls = queries previous ++ taken ∧
      Stopped (.recorded replies) (taggingCommands config new.text entry.entries) taken
        failure.cause
  | .buildAndUpload =>
    ∃ previous new entry taken, settled previous new ∧
      Documents replies tree previous new entry ∧ BothWritten config new entry tree final.tree ∧
      final.calls = queries previous ++ taggingCommands config new.text entry.entries ++ taken ∧
      Stopped (.recorded replies)
        (uploadingCommands config request.target (config.artifactPattern new.text)) taken
        failure.cause
  | .done => False

/-- What is written to the tree by the time of a milestone. -/
def Milestone.Written (replies : List Reply) (config : Config) (tree after : Tree) :
    Milestone → Prop
  | .opened | .onBranch | .resolved _ _ => after = tree
  | .declared _ new => VersionWritten config new tree after
  | .recorded previous new entry | .tagged previous new entry | .uploaded previous new entry
  | .released previous new entry =>
    Documents replies tree previous new entry ∧ BothWritten config new entry tree after

variable {replies : List Reply} {config : Config} {request : Request} {tree between : Tree}
  {answers : List String} {milestone later : Milestone} {start before after final : Session}

theorem taggingCalls_eq (real : request.dryRun = false) (new : Version)
    (entry : Changelog.Section) :
    (publication request new entry).taggingCalls config =
      taggingCommands config new.text entry.entries := by
  simp only [publication, real]
  rfl

theorem uploadingCalls_eq (real : request.dryRun = false) (new : Version)
    (entry : Changelog.Section) :
    (publication request new entry).uploadingCalls config =
      uploadingCommands config request.target (config.artifactPattern new.text) := by
  simp only [publication, real]
  rfl

/-! ## Writing the two files -/

/-- Replacing the version file writes the version, and nothing else. -/
theorem versionWritten_of_replace {new : Version} {old text : String}
    (distinct : tree.DistinctFiles config.versionFile config.changelogFile)
    (read : tree.readText config.versionFile = .ok old)
    (set : Declaration.set config.versionFile config.versionIdentifier new old = .ok text)
    (replaced : tree.replace config.versionFile text = .ok between) :
    VersionWritten config new tree between := by
  obtain ⟨-, written, kept⟩ := Tree.replace_of_distinctFiles distinct replaced
  obtain ⟨place, -, holds, -, -⟩ := distinct
  have unchanged : tree.DiffersOnlyIn [config.versionFile] tree := ⟨.refl tree, fun _ _ => rfl⟩
  exact ⟨⟨old, text, read, set, written⟩, kept,
    unchanged.replace List.mem_cons_self holds replaced⟩

/-- Replacing the changelog after the version file writes the section, and nothing else. -/
theorem VersionWritten.bothWritten {new : Version} {entry : Changelog.Section}
    {old text : String} {tree after : Tree}
    (written : VersionWritten config new tree between)
    (distinct : tree.DistinctFiles config.versionFile config.changelogFile)
    (read : between.readText config.changelogFile = .ok old)
    (inserted : Changelog.insert config.changelogFile entry old = .ok text)
    (replaced : between.replace config.changelogFile text = .ok after) :
    BothWritten config new entry tree after := by
  have still := distinct.of_sameShape written.others.toSameShape
  obtain ⟨-, reads, kept⟩ := Tree.replace_of_distinctFiles still.symm replaced
  obtain ⟨-, place, -, holds, -⟩ := distinct
  have both : tree.DiffersOnlyIn [config.versionFile, config.changelogFile] between :=
    written.others.mono fun path member =>
      List.mem_cons.2 (.inl (List.mem_singleton.1 member))
  refine ⟨?_, ⟨old, text, written.changelog.symm.trans read, inserted, reads⟩, ?_⟩
  · rw [kept]
    exact written.version
  · exact both.replace (List.mem_cons_of_mem _ List.mem_cons_self) holds replaced

/-! ## What a step writes -/

/-- A step that fails leaves the tree as it found it. -/
theorem tree_of_error {cause : ReleaseError}
    (failed : (next (.recorded replies) config request milestone).run.run before =
      (.error cause, after)) : after.tree = before.tree := by
  -- The two updates replace a file as their last step, so that they fail before or there.
  cases milestone with
  | resolved previous new =>
    obtain ⟨_, _, -, ⟨⟩⟩ | ⟨_, failed, -⟩ := of_bind failed
    obtain ⟨_, -, same⟩ | ⟨⟨⟩, -⟩ := Action.of_updateFile failed
    exact same
  | declared previous new =>
    obtain ⟨_, _, -, ⟨⟩⟩ | ⟨_, failed, -⟩ := of_bind failed
    obtain ⟨_, queried, -⟩ | ⟨log, between, result, queried, inserted, stopped⟩ :=
      split_updateChangelog failed
    · exact (Preserves.perform_recorded replies _).after queried rfl
    · have asked : between.tree = before.tree :=
        (Preserves.perform_recorded replies _).after queried rfl
      obtain ⟨_, -, same⟩ | ⟨rfl, -⟩ := Action.of_updateFile inserted
      · exact same.trans asked
      · cases stopped
  | _ => exact (preserves_next_tree rfl).after failed rfl

theorem written_of_next (real : request.dryRun = false)
    (distinct : tree.DistinctFiles config.versionFile config.changelogFile)
    (written : milestone.Written replies config tree before.tree)
    (ran : (next (.recorded replies) config request milestone).run.run before =
      (.ok later, after)) : later.Written replies config tree after.tree := by
  have kept (untouched : milestone.replaced config = []) : after.tree = before.tree :=
    (preserves_next_tree untouched).after ran rfl
  cases passes_of_next ran with
  | branch => exact (kept rfl).trans written
  | versions => exact (kept rfl).trans written
  | declaration set =>
    obtain rfl : before.tree = tree := written
    obtain ⟨_, ⟨⟩, -⟩ | ⟨-, old, new, read, changed, replaced⟩ := Action.of_updateFile set
    rw [real, if_neg Bool.false_ne_true] at replaced
    exact versionWritten_of_replace distinct read changed replaced
  | changelog updated =>
    obtain ⟨_, -, ⟨⟩⟩ | ⟨log, between, result, queried, inserted, recorded⟩ :=
      split_updateChangelog updated
    have asked : between.tree = before.tree :=
      (Preserves.perform_recorded replies _).after queried rfl
    obtain ⟨_, rfl, -⟩ | ⟨rfl, old, text, read, changed, replaced⟩ := Action.of_updateFile inserted
    · cases recorded
    obtain rfl := Except.ok.inj recorded
    rw [real, if_neg Bool.false_ne_true] at replaced
    rw [← asked] at written
    exact ⟨⟨log, congrArg Prod.fst queried, rfl⟩,
      written.bothWritten distinct read changed replaced⟩
  | tagging => exact (kept rfl).symm ▸ written
  | uploading => exact (kept rfl).symm ▸ written
  | announcement => exact written
  | rest => exact written

theorem written_of_reaches (real : request.dryRun = false)
    (distinct : tree.DistinctFiles config.versionFile config.changelogFile)
    (same : start.tree = tree)
    (reached : Reaches (.recorded replies) config request start milestone before) :
    milestone.Written replies config tree before.tree := by
  induction reached with
  | opened =>
    rw [opening, if_neg (by rw [real]; exact Bool.false_ne_true)]
    exact same
  | next reached ran inductionHypothesis =>
    exact written_of_next real distinct inductionHypothesis ran

/-! ## What a step asks for -/

/-- A publication that fails stops at one of its commands. -/
theorem stopped_of_error {runner : Runner} {calls : List Call} {message : Message}
    {cause : ReleaseError} {Result : Type} {result : Result}
    (failed : (do
      (do Action.performAll runner calls; Action.say message)
      return result : Action Result).run.run before = (.error cause, after)) :
    ∃ taken, after.calls = before.calls ++ taken ∧ Stopped runner calls taken cause := by
  obtain ⟨_, _, -, ⟨⟩⟩ | ⟨_, failed, ⟨⟩⟩ := of_bind failed
  obtain ⟨_, _, -, ⟨⟩⟩ | ⟨_, failed, ⟨⟩⟩ := of_bind failed
  exact Action.of_performAll_error failed

/-- A run that fails has asked for no other commands than those planned up to then. -/
theorem calls_of_error {runner : Runner} {cause : ReleaseError} (fresh : start.calls = [])
    (reached : Reaches runner config request start milestone before)
    (failed : (next runner config request milestone).run.run before = (.error cause, after)) :
    after.calls <+: milestone.issued config request ++ milestone.planned config request := by
  obtain ⟨taken, within, calls, -⟩ := issues_next milestone _ _ _ failed
  rw [calls, calls_of_reaches reached, fresh, List.nil_append]
  exact (List.prefix_append_right_inj _).2 within

/-- What is recorded in both files at a milestone: two versions and a section. -/
def Milestone.recorded? : Milestone → Option (Version × Version × Changelog.Section)
  | .recorded previous new entry | .tagged previous new entry | .uploaded previous new entry
  | .released previous new entry => some (previous, new, entry)
  | _ => none

/-- Before the files are recorded, a run asks for nothing but queries. -/
theorem query_of_unrecorded (unrecorded : milestone.recorded? = none) {call : Call}
    (member : call ∈ milestone.issued config request ++ milestone.planned config request) :
    call.options = .query := by
  cases milestone with
  | recorded | tagged | uploaded | released => cases unrecorded
  | opened | onBranch | resolved => rw [List.mem_singleton.1 member]
  | declared =>
    rcases List.mem_cons.1 member with rfl | member
    · rfl
    · rw [List.mem_singleton.1 member]

theorem bothWritten_of_recorded {previous new : Version} {entry : Changelog.Section}
    (recorded : milestone.recorded? = some (previous, new, entry))
    (written : milestone.Written replies config tree between) :
    Documents replies tree previous new entry ∧ BothWritten config new entry tree between := by
  cases milestone with
  | recorded | tagged | uploaded | released =>
    cases recorded
    exact written
  | opened | onBranch | resolved | declared => cases recorded

/-- The queries come first. -/
theorem issued_of_recorded {previous new : Version} {entry : Changelog.Section}
    (recorded : milestone.recorded? = some (previous, new, entry)) :
    (Milestone.recorded previous new entry).issued config request <+:
      milestone.issued config request := by
  cases milestone with
  | recorded =>
    cases recorded
    exact List.prefix_rfl
  | tagged | uploaded | released =>
    cases recorded
    exact List.prefix_append _ _
  | opened | onBranch | resolved | declared => cases recorded

/-- A run to a milestone behind the update of the changelog has passed that update. -/
theorem recorded_of_reaches {runner : Runner} {previous new : Version} {entry : Changelog.Section}
    (reached : Reaches runner config request start milestone before)
    (recorded : milestone.recorded? = some (previous, new, entry)) :
    ∃ between, Reaches runner config request start (.recorded previous new entry) between := by
  induction reached with
  | opened => cases recorded
  | @next milestone later before after reached ran inductionHypothesis =>
    have arrived := Reaches.next reached ran
    cases passes_of_next ran with
    | branch => cases recorded
    | versions => cases recorded
    | declaration => cases recorded
    | changelog =>
      cases recorded
      exact ⟨after, arrived⟩
    | tagging => exact inductionHypothesis recorded
    | uploading => exact inductionHypothesis recorded
    | announcement => exact inductionHypothesis recorded
    | rest => exact inductionHypothesis recorded

/-- Only a publication asks for commands other than queries, so that both files are
written by then. -/
theorem bothWritten_of_mutating (real : request.dryRun = false)
    (distinct : tree.DistinctFiles config.versionFile config.changelogFile)
    (fresh : start.calls = []) (same : start.tree = tree)
    (reached : Reaches (.recorded replies) config request start milestone before)
    (mutating : ∃ call ∈ before.calls ++ milestone.planned config request,
      call.options ≠ .query) :
    ∃ previous new entry, Documents replies tree previous new entry ∧
      BothWritten config new entry tree before.tree := by
  have written := written_of_reaches real distinct same reached
  obtain ⟨call, member, mutating⟩ := mutating
  rw [calls_of_reaches reached, fresh, List.nil_append] at member
  cases recorded : milestone.recorded? with
  | none => exact absurd (query_of_unrecorded recorded member) mutating
  | some settled =>
    obtain ⟨previous, new, entry⟩ := settled
    exact ⟨previous, new, entry, bothWritten_of_recorded recorded written⟩

/-- Where queries come first, they come before any call that is none. -/
theorem prefix_of_mutating {queries earlier later more : List Call} {call : Call}
    (whole : earlier ++ call :: later = queries ++ more)
    (asking : ∀ query ∈ queries, query.options = .query) (mutating : call.options ≠ .query) :
    queries <+: earlier := by
  rcases List.append_eq_append_iff.1 whole with ⟨rest, split, follows⟩ | ⟨rest, split, -⟩
  · cases rest with
    | nil =>
      obtain rfl : queries = earlier := split.trans (List.append_nil earlier)
      exact List.prefix_rfl
    | cons first others =>
      obtain ⟨rfl, -⟩ := List.cons.inj follows
      refine absurd (asking call ?_) mutating
      rw [split]
      exact List.mem_append_right _ List.mem_cons_self
  · exact ⟨rest, split.symm⟩

/-- A run that asks for a command other than a query has recorded the release by then. -/
theorem recorded_of_calls {runner : Runner} {outcome : Except Failure Released}
    (fresh : start.calls = [])
    (ran : (run runner config request).run.run start = (outcome, final))
    {earlier later : List Call} {call : Call} (calls : final.calls = earlier ++ call :: later)
    (mutating : call.options ≠ .query) :
    ∃ previous new entry between,
      Reaches runner config request start (.recorded previous new entry) between ∧
      between.calls <+: earlier := by
  obtain ⟨milestone, before, taken, reached, within, asked⟩ := calls_of_ends (ends_of_run ran)
  rw [fresh, List.nil_append] at asked
  cases recorded : milestone.recorded? with
  | none =>
    have member : call ∈ milestone.issued config request ++ milestone.planned config request := by
      refine ((List.prefix_append_right_inj _).2 within).subset ?_
      rw [← asked, calls]
      exact List.mem_append_right _ List.mem_cons_self
    exact absurd (query_of_unrecorded recorded member) mutating
  | some settled =>
    obtain ⟨previous, new, entry⟩ := settled
    obtain ⟨between, passed⟩ := recorded_of_reaches reached recorded
    refine ⟨previous, new, entry, between, passed, ?_⟩
    have first : between.calls = (Milestone.recorded previous new entry).issued config request := by
      rw [calls_of_reaches passed, fresh, List.nil_append]
    have leads : between.calls <+: final.calls := by
      rw [first, asked]
      exact (issued_of_recorded recorded).trans (List.prefix_append _ _)
    obtain ⟨more, whole⟩ := leads
    refine prefix_of_mutating (calls.symm.trans whole.symm) ?_ mutating
    rw [first]
    exact List.forall_mem_cons.2 ⟨rfl, List.forall_mem_singleton.2 rfl⟩

/-! ## Failures -/

/-- The stage of a failed run says exactly what was changed, and no run asks for a
command other than its queries before both files are written. -/
theorem leftBehind_of_failure {outcome : Except Failure Released}
    (distinct : tree.DistinctFiles config.versionFile config.changelogFile)
    (real : request.dryRun = false)
    (ran : (run (.recorded replies) config request).run.run
      { tree, operator := .scripted answers [] } = (outcome, final)) :
    (∀ failure, outcome = .error failure →
      LeftBehind replies config request tree answers failure final) ∧
      (∀ earlier call later, final.calls = earlier ++ call :: later → call.options ≠ .query →
        ∃ previous new entry between, Reaches (.recorded replies) config request
            { tree, operator := .scripted answers [] } (.recorded previous new entry) between ∧
          between.calls <+: earlier ∧ Documents replies tree previous new entry ∧
          BothWritten config new entry tree between.tree) ∧
      ∀ milestone before, Reaches (.recorded replies) config request
          { tree, operator := .scripted answers [] } milestone before →
        (∃ call ∈ before.calls ++ milestone.planned config request, call.options ≠ .query) →
        ∃ previous new entry, Documents replies tree previous new entry ∧
          BothWritten config new entry tree before.tree := by
  refine ⟨?_, fun earlier call later calls mutating => ?_, fun milestone before reached mutating =>
    bothWritten_of_mutating real distinct rfl rfl reached mutating⟩
  case refine_2 =>
    obtain ⟨previous, new, entry, between, passed, first⟩ :=
      recorded_of_calls rfl ran calls mutating
    exact ⟨previous, new, entry, between, passed, first,
      written_of_reaches real distinct rfl passed⟩
  rintro failure rfl
  cases ends_of_run ran with
  | @failed milestone before _ cause reached failed =>
    have written := written_of_reaches real distinct rfl reached
    rw [← tree_of_error failed] at written
    have consented := consented_of_reaches ⟨rfl, [], rfl, rfl⟩ reached
    have calls := calls_of_error rfl reached failed
    have settled {previous new : Version} (consent : before.HasAsked answers
        (Consent (.recorded replies) config request tree answers previous new)) :=
      (preserves_next_hasAsked lasting_consent).after failed consent
    cases milestone with
    | opened | onBranch | resolved => exact ⟨written, calls⟩
    | declared previous new => exact ⟨previous, new, settled consented, written, calls⟩
    | recorded previous new entry =>
      obtain ⟨taken, asked, stopped⟩ := stopped_of_error failed
      rw [calls_of_reaches reached] at asked
      rw [taggingCalls_eq real] at stopped
      exact ⟨previous, new, entry, taken, settled consented, written.1, written.2, asked, stopped⟩
    | tagged previous new entry =>
      obtain ⟨taken, asked, stopped⟩ := stopped_of_error failed
      rw [calls_of_reaches reached, Milestone.issued, taggingCalls_eq real] at asked
      rw [uploadingCalls_eq real] at stopped
      exact ⟨previous, new, entry, taken, settled consented, written.1, written.2, asked, stopped⟩
    | uploaded => cases failed
    | released => cases failed

/-- A build that fails leaves the small project with both files written, and tagged. -/
theorem leftBehind_of_failure_sample :
    let replies := sampleReplies ++ [⟨["python"], .failure 1 "no module named build"⟩]
    let request : Request := { newVersion := some "1.1" }
    let ran := (run (.recorded replies) {} request).run.run
      { tree := sampleTree, operator := .scripted [] [] }
    ∃ failure, ran.1 = .error failure ∧ failure.stage = .buildAndUpload ∧
      LeftBehind replies {} request sampleTree [] failure ran.2 := by
  intro replies request ran
  have failing : (match ran.1 with
      | .error failure => failure.stage == .buildAndUpload
      | .ok _ => false) = true := by decide +kernel
  have left : ∀ failure, ran.1 = .error failure →
      LeftBehind replies {} request sampleTree [] failure ran.2 := by
    refine (leftBehind_of_failure ?_ rfl (Prod.eta ran).symm).1
    exact distinctFiles_sampleTree
  split at failing
  case h_1 failure failed => exact ⟨failure, failed, eq_of_beq failing, left failure failed⟩
  case h_2 => cases failing

end Workflow

end ReleasePilot
