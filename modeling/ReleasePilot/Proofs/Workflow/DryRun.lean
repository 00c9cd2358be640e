import ReleasePilot.Proofs.Workflow.Files

/-!
# Dry runs

A dry run leaves the whole tree as it is, and of the commands that it asks for
only the two queries are run, each at most once and both in their order
(`queries_of_dryRun`). This holds wherever the run ends.
-/

namespace ReleasePilot.Workflow

/-- The queries that a run may have made: for the branch and, once the versions
are settled, for the merges since the version that the version file declares. -/
inductive Queried (config : Config) (tree : Tree) : List Call → Prop where
  | none : Queried config tree []
  | branch : Queried config tree [⟨branchCommand, .query⟩]
  | merges {previous : Version}
      (declared : Declares config (tree.readText config.versionFile) previous) :
      Queried config tree
        [⟨branchCommand, .query⟩, ⟨Changelog.mergeLogCommand previous, .query⟩]

namespace Milestone

/-- The queries that were made on the way to the milestone after this one. -/
def queries : Milestone → List Call
  | .opened | .onBranch | .resolved _ _ => [⟨branchCommand, .query⟩]
  | .declared previous _ | .recorded previous _ _ | .tagged previous _ _
  | .uploaded previous _ _ | .released previous _ _ =>
    [⟨branchCommand, .query⟩, ⟨Changelog.mergeLogCommand previous, .query⟩]

/-- The version that a run has found declared by the time of a milestone. -/
def previous? : Milestone → Option Version
  | .opened | .onBranch => none
  | .resolved previous _ | .declared previous _ | .recorded previous _ _
  | .tagged previous _ _ | .uploaded previous _ _ | .released previous _ _ => some previous

end Milestone

variable {runner : Runner} {config : Config} {request : Request} {tree : Tree}
  {replies : List Reply} {milestone later : Milestone} {start before after final : Session}

theorem Queried.of_prefix {queries taken : List Call} (queried : Queried config tree queries)
    (within : taken <+: queries) : Queried config tree taken := by
  cases queried with
  | none =>
    rw [List.prefix_nil.1 within]
    exact .none
  | branch =>
    rcases List.prefix_cons_iff.1 within with rfl | ⟨more, rfl, rest⟩
    · exact .none
    · rw [List.prefix_nil.1 rest]
      exact .branch
  | merges declared =>
    rcases List.prefix_cons_iff.1 within with rfl | ⟨more, rfl, rest⟩
    · exact .none
    rcases List.prefix_cons_iff.1 rest with rfl | ⟨others, rfl, last⟩
    · exact .branch
    · rw [List.prefix_nil.1 last]
      exact .merges declared

/-- In a dry run the commands that are run are the queries. -/
theorem filter_executed_eq_queries (config : Config) (dry : request.dryRun = true)
    (milestone : Milestone) :
    (milestone.issued config request ++ milestone.planned config request).filter Call.executed =
      milestone.queries := by
  have unpublished (new : Version) (entry : Changelog.Section) :
      ((publication request new entry).plan config).filter Call.executed = [] := by
    rw [List.filter_eq_nil_iff]
    intro call member
    have executed : call.executed = !request.dryRun := (executed_of_mem_plan member).2
    rw [executed, dry]
    exact Bool.false_ne_true
  have untagged (new : Version) (entry : Changelog.Section) :
      ((publication request new entry).taggingCalls config).filter Call.executed = [] :=
    (List.append_eq_nil_iff.1 ((List.filter_append ..).symm.trans (unpublished new entry))).1
  cases milestone with
  | opened => rfl
  | onBranch => rfl
  | resolved previous new => rfl
  | declared previous new => rfl
  | recorded previous new entry =>
    simp only [Milestone.issued, Milestone.planned, List.filter_append, untagged]
    rfl
  | tagged previous new entry =>
    simp only [Milestone.issued, Milestone.planned, List.append_assoc, List.filter_append]
    exact congrArg _ ((List.filter_append ..).symm.trans (unpublished new entry))
  | uploaded previous new entry | released previous new entry =>
    simp only [Milestone.issued, Milestone.planned, List.filter_append, unpublished]
    rfl

/-- Recorded replies leave the tree as it is, and a dry run replaces nothing. -/
theorem undisturbed_tree (dry : request.dryRun = true) :
    Undisturbed (.recorded replies) config request fun session => session.tree = tree where
  unspoken _ _ same := same
  unasked _ _ _ same := same
  performs call := .perform_recorded replies call
  replaces real := absurd (dry.symm.trans real) Bool.noConfusion

/-- The version that a run has found is the one that the version file declares. -/
theorem declares_of_reaches_dryRun (dry : request.dryRun = true)
    (reached : Reaches (.recorded replies) config request start milestone before) :
    ∀ previous, milestone.previous? = some previous →
      Declares config (start.tree.readText config.versionFile) previous := by
  -- Only the second stage finds a version, and the tree that it reads is the one at the start.
  induction reached with
  | opened => nofun
  | @next milestone later before after reached ran inductionHypothesis =>
    have same : before.tree = start.tree := (undisturbed_tree dry).of_reaches reached rfl
    cases passes_of_next ran with
    | branch => nofun
    | versions resolved =>
      rintro previous ⟨⟩
      rw [← same]
      exact (of_resolveVersions resolved).1
    | declaration => exact inductionHypothesis
    | changelog => exact inductionHypothesis
    | tagging => exact inductionHypothesis
    | uploading => exact inductionHypothesis
    | announcement => exact inductionHypothesis
    | rest => exact inductionHypothesis

/-- The queries of a milestone are those for the version that was found. -/
theorem queried_queries
    (declared : ∀ previous, milestone.previous? = some previous →
      Declares config (tree.readText config.versionFile) previous) :
    Queried config tree milestone.queries := by
  cases milestone with
  | opened | onBranch | resolved => exact .branch
  | declared | recorded | tagged | uploaded | released => exact .merges (declared _ rfl)

/-- However a dry run ends, the tree is as it was, and the commands that were run are
queries, each of them made once at most. -/
theorem queries_of_dryRun {operator : Operator} {outcome : Except Failure Released}
    (dry : request.dryRun = true)
    (ran : (run (.recorded replies) config request).run.run { tree, operator } =
      (outcome, final)) :
    final.tree = tree ∧ Queried config tree (final.calls.filter Call.executed) := by
  refine ⟨(undisturbed_tree dry).preserves_run.after ran rfl, ?_⟩
  obtain ⟨milestone, before, taken, reached, within, calls⟩ := calls_of_ends (ends_of_run ran)
  have queried := queried_queries (declares_of_reaches_dryRun dry reached)
  refine queried.of_prefix ?_
  rw [calls, List.nil_append, ← filter_executed_eq_queries config dry]
  exact ((List.prefix_append_right_inj _).2 within).filter _

/-- A dry run of the small project asks for all nine commands. -/
theorem queries_of_dryRun_sample :
    let request : Request := { dryRun := true, newVersion := some "1.1" }
    let final := (sampleRun {} request sampleTree).2
    final.calls.length = 9 ∧ final.tree = sampleTree ∧
      Queried {} sampleTree (final.calls.filter Call.executed) := by
  intro request final
  exact ⟨by decide +kernel, queries_of_dryRun rfl (Prod.eta _).symm⟩

end ReleasePilot.Workflow
