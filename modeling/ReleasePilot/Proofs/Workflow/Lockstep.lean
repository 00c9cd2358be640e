import ReleasePilot.Proofs.Session.Pairing
import ReleasePilot.Proofs.Workflow.Milestone

/-!
# Stages in lockstep

The stages that only read and ask end alike in two runs whose sessions stay in lockstep:
the branch is checked and the versions are settled with the same answers. The dialogue
about the new version is as long in both, since either both operators have answers left
or neither has (`pairs_askVersion`).
-/

namespace ReleasePilot.Workflow

variable {endings : Endings} {relation : Session → Session → Prop} {runner : Runner}
  {config : Config} {request : Request}

theorem pairs_checkBranch (lockstep : Lockstep endings relation)
    (queries : Pairs endings relation (Same relation)
      (Action.perform runner ⟨branchCommand, .query⟩)
      (Action.perform runner ⟨branchCommand, .query⟩)) :
    Pairs endings relation (Same relation) (checkBranch runner config)
      (checkBranch runner config) := by
  have agrees : Pairs endings relation (Same relation) (pure () : Action Unit) (pure ()) :=
    .pure fun _ _ related => ⟨rfl, related⟩
  refine .bind_same queries fun printed => .ite agrees ?_
  refine .bind_same (.say lockstep _ trivial) fun _ => ?_
  refine .bind_same (.confirm lockstep _) fun agreed => ?_
  exact .ite agrees (.throw lockstep.fails _)

/-- The same input is given in both runs, and both operators have less left or neither. -/
theorem alike_input (lockstep : Lockstep endings relation) {first second : Session}
    (related : relation first second) (proposal : String) :
    endings.Alike
      (fun answer other firstAfter secondAfter => answer = other ∧
        relation firstAfter secondAfter ∧
          (firstAfter.operator.pending < first.operator.pending ↔
            secondAfter.operator.pending < second.operator.pending))
      ((Action.input "New version" proposal).run.run first)
      ((Action.input "New version" proposal).run.run second) := by
  rw [Action.run_input, Action.run_input]
  exact (lockstep.asks first second "New version" (" [" ++ proposal ++ "]") related).map
    fun _ _ _ _ answered =>
      ⟨Operator.orDefault_congr answered.same proposal, answered.still, answered.uses⟩

/-- The operator is asked as often in both runs. -/
theorem pairs_askVersion (lockstep : Lockstep endings relation) (proposal : String) :
    Pairs endings relation (Same relation)
      (ExceptT.mk fun session => askVersion proposal session : Action Version)
      (ExceptT.mk fun session => askVersion proposal session) := by
  intro first second related
  change endings.Alike (Same relation) (askVersion proposal first) (askVersion proposal second)
  have excused {second after : Session} {cause : ReleaseError}
      {result : Except ReleaseError Version × Session}
      (asked : (Action.input "New version" proposal).run.run second = (.error cause, after))
      (holds : endings.excused after) :
      endings.Alike (Same relation) result (askVersion proposal second) := by
    rw [askVersion, asked]
    exact .excused holds
  -- At each question both operators have less left or neither, so that the loops end together.
  fun_induction askVersion proposal first generalizing second with
  | case1 first cause after asked =>
    have alike := alike_input lockstep related proposal
    rw [asked] at alike
    rcases alike.of_error with ⟨otherAfter, otherAsked, holds⟩ | ⟨_, _, otherAsked, holds⟩
    · rw [askVersion, otherAsked]
      exact .failed holds
    · exact excused otherAsked holds
  | case2 first answer after asked version valid =>
    have alike := alike_input lockstep related proposal
    rw [asked] at alike
    rcases alike.of_ok with ⟨_, otherAfter, otherAsked, rfl, still, -⟩ | ⟨_, _, otherAsked, holds⟩
    · rw [askVersion, otherAsked]
      simp only [valid]
      exact .succeeded ⟨rfl, still⟩
    · exact excused otherAsked holds
  | case3 first answer after asked invalid told remaining inductionHypothesis =>
    have alike := alike_input lockstep related proposal
    rw [asked] at alike
    rcases alike.of_ok with ⟨_, otherAfter, otherAsked, rfl, still, uses⟩ |
      ⟨_, _, otherAsked, holds⟩
    · have again : askVersion proposal second =
          askVersion proposal (otherAfter.told (.error (invalidAnswer answer))) := by
        rw [askVersion, otherAsked]
        simp only [invalid]
        exact if_pos (uses.1 remaining)
      rw [again]
      exact inductionHypothesis _ (lockstep.tells _ _ _ trivial still)
    · exact excused otherAsked holds
  | case4 first answer after asked invalid told exhausted =>
    have alike := alike_input lockstep related proposal
    rw [asked] at alike
    rcases alike.of_ok with ⟨_, otherAfter, otherAsked, rfl, still, uses⟩ |
      ⟨_, _, otherAsked, holds⟩
    · have stuck : ¬(otherAfter.told (.error (invalidAnswer answer))).operator.pending <
          second.operator.pending := mt uses.2 exhausted
      rw [askVersion, otherAsked]
      simp only [invalid]
      rw [if_neg stuck]
      exact .failed (lockstep.fails _ _ (lockstep.tells _ _ _ trivial still))
    · exact excused otherAsked holds

theorem pairs_chooseVersion (lockstep : Lockstep endings relation) (current : Version) :
    Pairs endings relation (Same relation) (chooseVersion request current)
      (chooseVersion request current) := by
  unfold chooseVersion
  split
  · exact .ofExcept lockstep _
  · exact .bind_same (.ofExcept lockstep _) fun _ => pairs_askVersion lockstep _

theorem pairs_resolveVersions (lockstep : Lockstep endings relation)
    (reads : ∀ first second, relation first second →
      first.tree.readText config.versionFile = second.tree.readText config.versionFile) :
    Pairs endings relation (Same relation) (resolveVersions config request)
      (resolveVersions config request) := by
  refine .bind_same (.bind_same (.readFile lockstep.fails reads) fun contents =>
    .ofExcept lockstep _) fun current => ?_
  refine .bind_same (pairs_chooseVersion lockstep current) fun new => ?_
  have settled : Pairs endings relation (Same relation) (do
      Action.say (.versionChange current.text new.text)
      return (current, new)) (do
      Action.say (.versionChange current.text new.text)
      return (current, new)) :=
    .bind_same (.say lockstep _ trivial) fun _ => .pure fun _ _ related => ⟨rfl, related⟩
  refine .ite (.bind_same (.say lockstep _ trivial) fun _ => ?_) settled
  refine .bind_same (.confirm lockstep _) fun agreed => ?_
  exact .ite settled (.throw lockstep.fails _)

/-- A stage names itself in the failures of both runs. -/
theorem pairs_during {First Second : Type} {before : Session → Session → Prop}
    {after : First → Second → Session → Session → Prop} {step : Action First}
    {other : Action Second} (steps : Pairs endings before after step other) (stage : Stage) :
    Pairs endings before after (during stage step) (during stage other) :=
  fun first second related => (steps first second related).mapError _

/-! ## Runs -/

/-- A run after its opening words. -/
def stages (runner : Runner) (config : Config) (request : Request) :
    ExceptT Failure (StateM Session) Released := do
  during .checkBranch <| checkBranch runner config
  let (previous, new) ← during .resolveVersions <| resolveVersions config request
  during .updateVersionFile <|
    Declaration.setInFile config.versionFile config.versionIdentifier new request.dryRun
  let entry ← during .updateChangelog <| updateChangelog runner config request previous new
  during .tagAndPush <| (publication request new entry).tagAndPush runner config
  during .buildAndUpload <| (publication request new entry).buildAndUpload runner config
  during .done <| Action.say (.success ("Released " ++ new.text) request.dryRun)
  return { previous, new, dryRun := request.dryRun }

theorem run_eq_stages (start : Session) :
    (run runner config request).run.run start =
      (stages runner config request).run.run (opening request start) :=
  run_opening fun _ => stages runner config request

end ReleasePilot.Workflow
