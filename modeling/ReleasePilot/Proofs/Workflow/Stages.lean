import ReleasePilot.Proofs.Session.FileUpdate
import ReleasePilot.Proofs.Workflow.Milestone

/-!
# What the stages preserve

A stage preserves whatever its messages and questions, the commands that it asks for and the
files that it replaces leave true. Stage by stage this is listed of the milestones
(`Milestone.planned`, `Milestone.replaced`), so that a property which none of it changes holds
from the start of a run to its end (`preserves_run_of_next`, `Undisturbed.preserves_run`). Each
stage asks for just its planned commands, in order (`issues_next`), and so the commands of a run
are those up to the milestone where it ended and some that were planned there
(`calls_of_ends`).
-/

namespace ReleasePilot

variable {property : Session → Prop}

namespace Workflow

variable {runner : Runner} {config : Config} {request : Request}

theorem preserves_checkBranch (unnoticed : Unnoticed property) (unasked : Unasked property)
    (performs : Preserves property (Action.perform runner ⟨branchCommand, .query⟩)) :
    Preserves property (checkBranch runner config) := by
  refine .bind performs fun printed => ?_
  refine .ite (.pure ()) (.bind (.notice unnoticed trivial) fun _ => ?_)
  refine .bind (.confirm unasked _) fun agreed => ?_
  exact .ite (.pure ()) (.throw _)

theorem preserves_askVersion (unnoticed : Unnoticed property) (unasked : Unasked property)
    (proposal : String) :
    Preserves property
      (ExceptT.mk fun session => askVersion proposal session : Action Version) := by
  intro before holds
  change property (askVersion proposal before).2
  fun_induction askVersion proposal before with
  | case1 before cause after asked => exact (Preserves.input unasked _ _).after asked holds
  | case2 before answer after asked version valid =>
    exact (Preserves.input unasked _ _).after asked holds
  | case3 before answer after asked invalid told remaining inductionHypothesis =>
    have still := (Preserves.input unasked _ _).after asked holds
    exact inductionHypothesis (unnoticed _ _ trivial still)
  | case4 before answer after asked invalid told exhausted =>
    exact unnoticed _ _ trivial ((Preserves.input unasked _ _).after asked holds)

theorem preserves_resolveVersions (unnoticed : Unnoticed property) (unasked : Unasked property) :
    Preserves property (resolveVersions config request) := by
  refine .bind (.bind (.readFile _) fun contents => .ofExcept _) fun current => ?_
  refine .bind ?_ fun new => ?_
  · unfold chooseVersion
    split
    · exact .ofExcept _
    · exact .bind (.ofExcept _) fun proposal => preserves_askVersion unnoticed unasked _
  · have settled : Preserves property (do
        Action.say (.versionChange current.text new.text)
        return (current, new)) := .bind (.notice unnoticed trivial) fun _ => .pure _
    refine .ite (.bind (.notice unnoticed trivial) fun _ => ?_) settled
    refine .bind (.confirm unasked _) fun agreed => ?_
    exact .ite settled (.throw _)

theorem preserves_updateChangelog (unnoticed : Unnoticed property) {previous : Version}
    (performs : Preserves property
      (Action.perform runner ⟨Changelog.mergeLogCommand previous, .query⟩))
    (updates : ∀ change, Preserves property
      (Action.updateFile config.changelogFile request.dryRun change))
    (new : Version) : Preserves property (updateChangelog runner config request previous new) := by
  have builds : Preserves property (Changelog.build runner previous new) :=
    .bind (.bind performs fun _ => .pure _) fun _ => .pure _
  refine .bind builds fun entry => .bind (.notice unnoticed trivial) fun _ => ?_
  exact .bind (updates _) fun _ => .pure entry

theorem preserves_tagAndPush {publication : Publication}
    (succeeds : ∀ text, Preserves property (Action.say (.success text publication.dryRun)))
    (performs : ∀ call ∈ publication.taggingCalls config,
      Preserves property (Action.perform runner call)) :
    Preserves property (publication.tagAndPush runner config) :=
  .bind (.performAll performs) fun _ => succeeds _

theorem preserves_buildAndUpload {publication : Publication}
    (succeeds : ∀ text, Preserves property (Action.say (.success text publication.dryRun)))
    (performs : ∀ call ∈ publication.uploadingCalls config,
      Preserves property (Action.perform runner call)) :
    Preserves property (publication.buildAndUpload runner config) :=
  .bind (.performAll performs) fun _ => succeeds _

namespace Milestone

variable (config request)

/-- The commands that are asked for on the way to the next milestone. -/
def planned : Milestone → List Call
  | .opened => [⟨branchCommand, .query⟩]
  | .declared previous _ => [⟨Changelog.mergeLogCommand previous, .query⟩]
  | .recorded _ new entry => (publication request new entry).taggingCalls config
  | .tagged _ new entry => (publication request new entry).uploadingCalls config
  | _ => []

/-- The commands that were asked for on the way to a milestone. -/
def issued : Milestone → List Call
  | .opened => []
  | .onBranch | .resolved _ _ | .declared _ _ => [⟨branchCommand, .query⟩]
  | .recorded previous _ _ =>
    [⟨branchCommand, .query⟩, ⟨Changelog.mergeLogCommand previous, .query⟩]
  | .tagged previous new entry =>
    [⟨branchCommand, .query⟩, ⟨Changelog.mergeLogCommand previous, .query⟩] ++
      (publication request new entry).taggingCalls config
  | .uploaded previous new entry | .released previous new entry =>
    [⟨branchCommand, .query⟩, ⟨Changelog.mergeLogCommand previous, .query⟩] ++
      (publication request new entry).plan config

/-- The files that are replaced on the way to the next milestone. -/
def replaced : Milestone → List String
  | .resolved _ _ => [config.versionFile]
  | .declared _ _ => [config.changelogFile]
  | _ => []

end Milestone

/-- What the planned commands and updates do not change, nor any success that is told, stays
true on the way to the next milestone. -/
theorem preserves_next_of_updates (unnoticed : Unnoticed property) (unasked : Unasked property)
    {milestone : Milestone}
    (performs : ∀ call ∈ milestone.planned config request,
      Preserves property (Action.perform runner call))
    (updates : ∀ path ∈ milestone.replaced config, ∀ change,
      Preserves property (Action.updateFile path request.dryRun change))
    (succeeds : ∀ text, Preserves property (Action.say (.success text request.dryRun))) :
    Preserves property (next runner config request milestone) := by
  cases milestone with
  | opened =>
    have query := performs _ (List.mem_singleton_self _)
    exact .bind (preserves_checkBranch unnoticed unasked query) fun _ => .pure _
  | onBranch => exact .bind (preserves_resolveVersions unnoticed unasked) fun _ => .pure _
  | resolved previous new =>
    exact .bind (updates _ (List.mem_singleton_self _) _) fun _ => .pure _
  | declared previous new =>
    have query := performs _ (List.mem_singleton_self _)
    have changes := updates _ (List.mem_singleton_self _)
    exact .bind (preserves_updateChangelog unnoticed query changes _) fun _ => .pure _
  | recorded previous new entry =>
    exact .bind (preserves_tagAndPush succeeds performs) fun _ => .pure _
  | tagged previous new entry =>
    exact .bind (preserves_buildAndUpload succeeds performs) fun _ => .pure _
  | uploaded previous new entry => exact .bind (succeeds _) fun _ => .pure _
  | released previous new entry => exact .pure _

/-- What the planned commands and replacements do not change stays true on the
way to the next milestone. -/
theorem preserves_next (unspoken : Unspoken property) (unasked : Unasked property)
    {milestone : Milestone}
    (performs : ∀ call ∈ milestone.planned config request,
      Preserves property (Action.perform runner call))
    (replaces : request.dryRun = false → ∀ path ∈ milestone.replaced config,
      ∀ contents, Preserves property (Action.replaceFile path contents)) :
    Preserves property (next runner config request milestone) :=
  preserves_next_of_updates unspoken.unnoticed unasked performs
    (fun path member => .updateFile unspoken fun real => replaces real path member)
    fun _ => .say unspoken _

section Runs

variable {start before : Session} {milestone : Milestone}

theorem of_reaches (nexts : ∀ milestone, Preserves property (next runner config request milestone))
    (opens : property (opening request start))
    (reached : Reaches runner config request start milestone before) : property before := by
  induction reached with
  | opened => exact opens
  | next reached ran inductionHypothesis => exact (nexts _).after ran inductionHypothesis

/-- What every step preserves holds where a run ends. -/
theorem preserves_run_of_next
    (nexts : ∀ milestone, Preserves property (next runner config request milestone))
    (opens : ∀ start, property start → property (opening request start)) :
    Preserves property (run runner config request) := by
  refine .of_forall_run fun start outcome final ran holds => ?_
  cases ends_of_run ran with
  | released reached => exact of_reaches nexts (opens start holds) reached
  | failed reached failed =>
    exact (nexts _).after failed (of_reaches nexts (opens start holds) reached)

end Runs

/-- A property that nothing changes in a run: no message, no question, no command
and, unless it is a dry run, no replacement of the two files. -/
structure Undisturbed (runner : Runner) (config : Config) (request : Request)
    (property : Session → Prop) : Prop where
  unspoken : Unspoken property
  unasked : Unasked property
  performs : ∀ call, Preserves property (Action.perform runner call)
  replaces : request.dryRun = false → ∀ path ∈ [config.versionFile, config.changelogFile],
    ∀ contents, Preserves property (Action.replaceFile path contents)

namespace Undisturbed

variable {start before final : Session} {milestone : Milestone}

theorem preserves_next (undisturbed : Undisturbed runner config request property)
    (milestone : Milestone) : Preserves property (next runner config request milestone) := by
  refine Workflow.preserves_next undisturbed.unspoken undisturbed.unasked
    (fun call _ => undisturbed.performs call) fun real path member => ?_
  refine undisturbed.replaces real path ?_
  cases milestone with
  | resolved => exact List.mem_cons.2 (.inl (List.mem_singleton.1 member))
  | declared => exact List.mem_cons_of_mem _ member
  | _ => cases member

theorem opens (undisturbed : Undisturbed runner config request property) (start : Session)
    (holds : property start) : property (opening request start) := by
  unfold opening
  split
  · exact undisturbed.unspoken _ _ holds
  · exact holds

theorem of_reaches (undisturbed : Undisturbed runner config request property)
    (reached : Reaches runner config request start milestone before) (holds : property start) :
    property before :=
  Workflow.of_reaches undisturbed.preserves_next (undisturbed.opens start holds) reached

/-- It holds to the end of a run. -/
theorem preserves_run (undisturbed : Undisturbed runner config request property) :
    Preserves property (run runner config request) :=
  preserves_run_of_next undisturbed.preserves_next undisturbed.opens

end Undisturbed

/-! ## The commands of a run -/

/-- The commands of a publication are echoed, and run unless it is a dry run. -/
theorem executed_of_mem_plan {publication : Publication} {call : Call}
    (member : call ∈ publication.plan config) :
    call.options.logCommand = true ∧ call.executed = !publication.dryRun := by
  simp only [Publication.plan, Publication.taggingCalls, Publication.uploadingCalls,
    List.cons_append, List.nil_append, List.mem_cons, List.not_mem_nil, or_false] at member
  rcases member with rfl | rfl | rfl | rfl | rfl | rfl | rfl <;> exact ⟨rfl, rfl⟩

theorem issues_checkBranch :
    Issues [⟨branchCommand, .query⟩] (checkBranch runner config) := by
  refine .before_silent (.perform runner _) fun printed => .of_preserves fun calls => ?_
  refine .ite (.pure ()) (.bind (.say (fun _ _ same => same) _) fun _ => ?_)
  exact .bind (.confirm (fun _ _ _ same => same) _) fun agreed => .ite (.pure ()) (.throw _)

theorem issues_resolveVersions : Issues [] (resolveVersions config request) :=
  .of_preserves fun _ => preserves_resolveVersions (fun _ _ _ same => same) fun _ _ _ same => same

theorem issues_updateFile (path : String) (dryRun : Bool)
    (change : String → Except ReleaseError String) :
    Issues [] (Action.updateFile path dryRun change) := by
  refine .of_preserves fun calls => .updateFile (fun _ _ same => same) (fun _ contents => ?_) _
  refine .of_forall_run fun before outcome after ran same => ?_
  rcases Action.of_replaceFile ran with ⟨-, -, rfl⟩ | ⟨tree, -, -, rfl⟩
  · exact same
  · exact same

theorem issues_updateChangelog (previous new : Version) :
    Issues [⟨Changelog.mergeLogCommand previous, .query⟩]
      (updateChangelog runner config request previous new) := by
  have queries := Issues.perform runner ⟨Changelog.mergeLogCommand previous, .query⟩
  have collects := queries.before_silent fun log => .pure (Changelog.bullets log)
  have builds := collects.before_silent fun items => .pure (Changelog.Section.ofVersion new items)
  refine builds.before_silent fun entry => .before_silent ?_ fun _ => ?_
  · exact .of_preserves fun _ => .say (fun _ _ same => same) _
  · exact .before_silent (issues_updateFile _ _ _) fun _ => .pure entry

theorem issues_performAll_say (calls : List Call) (message : Message) :
    Issues calls (do Action.performAll runner calls; Action.say message) :=
  (Issues.performAll runner calls).before_silent fun _ =>
    .of_preserves fun _ => .say (fun _ _ same => same) message

/-- On the way to the next milestone the planned commands are asked for, and no others. -/
theorem issues_next (milestone : Milestone) :
    Issues (milestone.planned config request) (next runner config request milestone) := by
  cases milestone with
  | opened => exact issues_checkBranch.before_silent fun _ => .pure _
  | onBranch => exact issues_resolveVersions.before_silent fun _ => .pure _
  | resolved previous new => exact (issues_updateFile _ _ _).before_silent fun _ => .pure _
  | declared previous new =>
    exact (issues_updateChangelog previous new).before_silent fun _ => .pure _
  | recorded previous new entry =>
    exact (issues_performAll_say _ _).before_silent fun _ => .pure _
  | tagged previous new entry =>
    exact (issues_performAll_say _ _).before_silent fun _ => .pure _
  | uploaded previous new entry =>
    refine .before_silent (.of_preserves fun _ => ?_) fun _ => .pure _
    exact .say (fun _ _ same => same) _
  | released previous new entry => exact .pure _

/-- What is issued at a milestone is what was issued and planned at the one before. -/
theorem issued_of_next {milestone later : Milestone} {before after : Session}
    (ran : (next runner config request milestone).run.run before = (.ok later, after)) :
    later.issued config request =
      milestone.issued config request ++ milestone.planned config request := by
  cases passes_of_next ran <;> simp [Milestone.issued, Milestone.planned, Publication.plan]

/-- A run has issued all commands up to the milestone that it came to. -/
theorem calls_of_reaches {start before : Session} {milestone : Milestone}
    (reached : Reaches runner config request start milestone before) :
    before.calls = start.calls ++ milestone.issued config request := by
  induction reached with
  | opened =>
    unfold opening
    split <;> exact (List.append_nil _).symm
  | @next milestone later before after reached ran inductionHypothesis =>
    obtain ⟨taken, -, calls, complete⟩ := issues_next milestone _ _ _ ran
    rw [calls, inductionHypothesis, complete later rfl, issued_of_next ran, List.append_assoc]

/-- A run ends with the commands up to a milestone and some that were planned there. -/
theorem calls_of_ends {start final : Session} {outcome : Except Failure Released}
    (ends : Ends runner config request start outcome final) :
    ∃ milestone before taken, Reaches runner config request start milestone before ∧
      taken <+: milestone.planned config request ∧
      final.calls = start.calls ++ milestone.issued config request ++ taken := by
  cases ends with
  | released reached =>
    refine ⟨_, final, [], reached, List.nil_prefix, ?_⟩
    rw [List.append_nil, calls_of_reaches reached]
  | @failed milestone before final cause reached ran =>
    obtain ⟨taken, within, calls, -⟩ := issues_next milestone _ _ _ ran
    exact ⟨milestone, before, taken, reached, within, by rw [calls, calls_of_reaches reached]⟩

end Workflow

end ReleasePilot
