import ReleasePilot.Proofs.Session.Step
import ReleasePilot.Workflow

/-!
# How far a run comes

A run goes from one milestone to the next (`Workflow.next`) until it is done or
a step fails (`ends_of_run`). A statement about runs is proved of the milestones
one by one: what holds at one holds at the next, and what holds where a run ends
follows from what held at the milestone before.
-/

namespace ReleasePilot.Workflow

/-- The points that a run passes, with what is settled there. -/
inductive Milestone where
  | opened
  | onBranch
  | resolved (previous new : Version)
  | declared (previous new : Version)
  | recorded (previous new : Version) (entry : Changelog.Section)
  | tagged (previous new : Version) (entry : Changelog.Section)
  | uploaded (previous new : Version) (entry : Changelog.Section)
  | released (previous new : Version) (entry : Changelog.Section)

namespace Milestone

/-- The stage that a run enters at a milestone. -/
def stage : Milestone → Stage
  | .opened => .checkBranch
  | .onBranch => .resolveVersions
  | .resolved _ _ => .updateVersionFile
  | .declared _ _ => .updateChangelog
  | .recorded _ _ _ => .tagAndPush
  | .tagged _ _ _ => .buildAndUpload
  | .uploaded _ _ _ | .released _ _ _ => .done

end Milestone

section Run

variable (runner : Runner) (config : Config) (request : Request)

/-- What a run publishes once its changes are recorded. -/
def publication (new : Version) (entry : Changelog.Section) : Publication :=
  { version := new, dryRun := request.dryRun, target := request.target, changelog := entry.body }

/-- The session in which the first stage starts. -/
def opening (start : Session) : Session :=
  if request.dryRun then
    start.told (.status "Dry run: no files will be written and no mutating commands run")
  else start

/-- The step from one milestone to the next. -/
def next : Milestone → Action Milestone
  | .opened => do
    checkBranch runner config
    return .onBranch
  | .onBranch => do
    let (previous, new) ← resolveVersions config request
    return .resolved previous new
  | .resolved previous new => do
    Declaration.setInFile config.versionFile config.versionIdentifier new request.dryRun
    return .declared previous new
  | .declared previous new => do
    let entry ← updateChangelog runner config request previous new
    return .recorded previous new entry
  | .recorded previous new entry => do
    (publication request new entry).tagAndPush runner config
    return .tagged previous new entry
  | .tagged previous new entry => do
    (publication request new entry).buildAndUpload runner config
    return .uploaded previous new entry
  | .uploaded previous new entry => do
    Action.say (.success ("Released " ++ new.text) request.dryRun)
    return .released previous new entry
  | .released previous new entry => return .released previous new entry

/-- A stage succeeds between two milestones. -/
inductive Passes : Milestone → Session → Milestone → Session → Prop where
  | branch {before after : Session}
      (ran : (checkBranch runner config).run.run before = (.ok (), after)) :
      Passes .opened before .onBranch after
  | versions {previous new : Version} {before after : Session}
      (ran : (resolveVersions config request).run.run before = (.ok (previous, new), after)) :
      Passes .onBranch before (.resolved previous new) after
  | declaration {previous new : Version} {before after : Session}
      (ran : (Declaration.setInFile config.versionFile config.versionIdentifier new
        request.dryRun).run.run before = (.ok (), after)) :
      Passes (.resolved previous new) before (.declared previous new) after
  | changelog {previous new : Version} {entry : Changelog.Section} {before after : Session}
      (ran : (updateChangelog runner config request previous new).run.run before =
        (.ok entry, after)) :
      Passes (.declared previous new) before (.recorded previous new entry) after
  | tagging {previous new : Version} {entry : Changelog.Section} {before after : Session}
      (ran : ((publication request new entry).tagAndPush runner config).run.run before =
        (.ok (), after)) :
      Passes (.recorded previous new entry) before (.tagged previous new entry) after
  | uploading {previous new : Version} {entry : Changelog.Section} {before after : Session}
      (ran : ((publication request new entry).buildAndUpload runner config).run.run before =
        (.ok (), after)) :
      Passes (.tagged previous new entry) before (.uploaded previous new entry) after
  | announcement {previous new : Version} {entry : Changelog.Section} {before : Session} :
      Passes (.uploaded previous new entry) before (.released previous new entry)
        (before.told (.success ("Released " ++ new.text) request.dryRun))
  | rest {previous new : Version} {entry : Changelog.Section} {before : Session} :
      Passes (.released previous new entry) before (.released previous new entry) before

/-- A run from a session comes to a milestone. -/
inductive Reaches (start : Session) : Milestone → Session → Prop where
  | opened : Reaches start .opened (opening request start)
  | next {milestone later : Milestone} {before after : Session}
      (reached : Reaches start milestone before)
      (ran : (next runner config request milestone).run.run before = (.ok later, after)) :
      Reaches start later after

/-- A run from a session ends, at the last milestone or with a step that fails. -/
inductive Ends (start : Session) : Except Failure Released → Session → Prop where
  | released {previous new : Version} {entry : Changelog.Section} {final : Session}
      (reached : Reaches runner config request start (.released previous new entry) final) :
      Ends start (.ok { previous, new, dryRun := request.dryRun }) final
  | failed {milestone : Milestone} {before final : Session} {cause : ReleaseError}
      (reached : Reaches runner config request start milestone before)
      (ran : (next runner config request milestone).run.run before = (.error cause, final)) :
      Ends start (.error { stage := milestone.stage, cause }) final

end Run

/-- A stage that is followed by more ends the run, or the rest goes on from it. -/
theorem of_during_bind {First Result : Type} {stage : Stage} {step : Action First}
    {rest : First → ExceptT Failure (StateM Session) Result} {before after : Session}
    {outcome : Except Failure Result}
    (ran : (during stage step >>= rest).run.run before = (outcome, after)) :
    (∃ value between, step.run.run before = (.ok value, between) ∧
      (rest value).run.run between = (outcome, after)) ∨
      ∃ cause, step.run.run before = (.error cause, after) ∧
        outcome = .error { stage, cause } := by
  have adapted : (during stage step).run.run before =
      ((step.run.run before).1.mapError fun cause => { stage, cause },
        (step.run.run before).2) := rfl
  rw [run_bind, adapted] at ran
  rcases stepped : step.run.run before with ⟨cause | value, between⟩
  · rw [stepped] at ran
    obtain ⟨rfl, rfl⟩ := Prod.mk.inj ran
    exact .inr ⟨cause, rfl, rfl⟩
  · rw [stepped] at ran
    exact .inl ⟨value, between, rfl, ran⟩

section Run

variable {runner : Runner} {config : Config} {request : Request} {start final : Session}
  {outcome : Except Failure Released}

/-- The way to the next milestone is the stage between the two. -/
theorem passes_of_next {milestone later : Milestone} {before after : Session}
    (ran : (next runner config request milestone).run.run before = (.ok later, after)) :
    Passes runner config request milestone before later after := by
  cases milestone with
  | released previous new entry =>
    obtain ⟨same, rfl⟩ := Prod.mk.inj ran
    obtain rfl := Except.ok.inj same
    exact .rest
  | opened =>
    obtain ⟨⟨⟩, _, stage, passed⟩ | ⟨_, -, ⟨⟩⟩ := of_bind ran
    obtain ⟨⟨⟩, ⟨⟩⟩ := Prod.mk.inj passed
    exact .branch stage
  | onBranch =>
    obtain ⟨_, _, stage, passed⟩ | ⟨_, -, ⟨⟩⟩ := of_bind ran
    obtain ⟨⟨⟩, ⟨⟩⟩ := Prod.mk.inj passed
    exact .versions stage
  | resolved previous new =>
    obtain ⟨⟨⟩, _, stage, passed⟩ | ⟨_, -, ⟨⟩⟩ := of_bind ran
    obtain ⟨⟨⟩, ⟨⟩⟩ := Prod.mk.inj passed
    exact .declaration stage
  | declared previous new =>
    obtain ⟨_, _, stage, passed⟩ | ⟨_, -, ⟨⟩⟩ := of_bind ran
    obtain ⟨⟨⟩, ⟨⟩⟩ := Prod.mk.inj passed
    exact .changelog stage
  | recorded previous new entry =>
    obtain ⟨⟨⟩, _, stage, passed⟩ | ⟨_, -, ⟨⟩⟩ := of_bind ran
    obtain ⟨⟨⟩, ⟨⟩⟩ := Prod.mk.inj passed
    exact .tagging stage
  | tagged previous new entry =>
    obtain ⟨⟨⟩, _, stage, passed⟩ | ⟨_, -, ⟨⟩⟩ := of_bind ran
    obtain ⟨⟨⟩, ⟨⟩⟩ := Prod.mk.inj passed
    exact .uploading stage
  | uploaded previous new entry =>
    obtain ⟨⟨⟩, _, said, passed⟩ | ⟨_, -, ⟨⟩⟩ := of_bind ran
    obtain ⟨-, ⟨⟩⟩ := Prod.mk.inj said
    obtain ⟨⟨⟩, ⟨⟩⟩ := Prod.mk.inj passed
    exact .announcement

theorem run_opening (rest : Unit → ExceptT Failure (StateM Session) Released) :
    (if request.dryRun = true then do
        let opened ← during .checkBranch <| Action.say
          (.status "Dry run: no files will be written and no mutating commands run")
        rest opened
      else rest ()).run.run start = (rest ()).run.run (opening request start) := by
  unfold opening
  split
  · rw [run_bind]
    rfl
  · rfl

/-- Every run is a way along the milestones. -/
theorem ends_of_run (ran : (run runner config request).run.run start = (outcome, final)) :
    Ends runner config request start outcome final := by
  unfold run at ran
  extract_lets dryRun rest at ran
  replace ran := (run_opening rest).symm.trans ran
  have atOpening : Reaches runner config request start .opened (opening request start) := .opened
  obtain ⟨⟨⟩, _, branch, ran⟩ | ⟨_, failed, rfl⟩ := of_during_bind ran
  case inr => exact .failed atOpening (run_bind_of_error _ failed)
  have atBranch := Reaches.next atOpening (run_bind_of_ok _ branch)
  obtain ⟨⟨previous, new⟩, _, versions, ran⟩ | ⟨_, failed, rfl⟩ := of_during_bind ran
  case inr => exact .failed atBranch (run_bind_of_error _ failed)
  have atVersions := Reaches.next atBranch (run_bind_of_ok _ versions)
  obtain ⟨⟨⟩, _, declaration, ran⟩ | ⟨_, failed, rfl⟩ := of_during_bind ran
  case inr => exact .failed atVersions (run_bind_of_error _ failed)
  have atDeclaration := Reaches.next atVersions (run_bind_of_ok _ declaration)
  obtain ⟨entry, _, changelog, ran⟩ | ⟨_, failed, rfl⟩ := of_during_bind ran
  case inr => exact .failed atDeclaration (run_bind_of_error _ failed)
  have atChangelog := Reaches.next atDeclaration (run_bind_of_ok _ changelog)
  obtain ⟨⟨⟩, _, tagging, ran⟩ | ⟨_, failed, rfl⟩ := of_during_bind ran
  case inr => exact .failed atChangelog (run_bind_of_error _ failed)
  have atTag := Reaches.next atChangelog (run_bind_of_ok _ tagging)
  obtain ⟨⟨⟩, _, uploading, ran⟩ | ⟨_, failed, rfl⟩ := of_during_bind ran
  case inr => exact .failed atTag (run_bind_of_error _ failed)
  have atUpload := Reaches.next atTag (run_bind_of_ok _ uploading)
  obtain ⟨⟨⟩, _, said, ran⟩ | ⟨_, failed, rfl⟩ := of_during_bind ran
  case inr => exact .failed atUpload (run_bind_of_error _ failed)
  obtain ⟨rfl, rfl⟩ := Prod.mk.inj ran
  exact .released (.next atUpload (run_bind_of_ok _ said))

end Run

end ReleasePilot.Workflow
