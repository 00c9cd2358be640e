import ReleasePilot.Proofs.Session.Step
import ReleasePilot.Publication

/-!
# Publishing up to a failure

The seven commands of a publication are listed here apart from the code that asks for them
(`Publication.steps`), and so is how a publication goes with recorded replies
(`Publication.Publishes`): it stops at the first required command that fails, and nothing
but the replies to required commands matters to it (`publish_until_failure`).
-/

namespace ReleasePilot

/-- Of the replies that fit a command, the last one gives the response. -/
def Reply.Answers (replies : List Reply) (command : List String) (response : Response) : Prop :=
  ∃ earlier reply later, replies = earlier ++ reply :: later ∧ reply.opening <+: command ∧
    reply.response = response ∧ ∀ other ∈ later, ¬other.opening <+: command

namespace Publication

/-- A command of a publication, and whether it has to succeed. -/
structure Step where
  command : List String
  required : Bool
deriving DecidableEq

namespace Step

/-- How a step is asked for. -/
def call (dryRun : Bool) (step : Step) : Call where
  command := step.command
  options := { ignoreErrors := !step.required, logCommand := true, dryRun }

/-- The step is required, and the reply to its command is a failure. -/
def Fails (replies : List Reply) (step : Step) (code : Int) (errors : String) : Prop :=
  step.required = true ∧ Reply.Answers replies step.command (.failure code errors)

/-- The step does not stop a publication. -/
def Passes (replies : List Reply) (dryRun : Bool) (step : Step) : Prop :=
  dryRun = false → ∀ code errors, ¬step.Fails replies code errors

end Step

/-- The commands of a publication, of which all but the two pushes are required. -/
def steps (config : Config) (publication : Publication) : List Step :=
  let version := publication.version.text
  [⟨["git", "add", "--all"], true⟩,
    ⟨["git", "commit", "-m", "Bump version to " ++ version], true⟩,
    ⟨["git", "tag", "-a", version, "-m",
      version ++ "\n\nChangelog:\n" ++ publication.changelog], true⟩,
    ⟨["git", "push", config.remote], false⟩,
    ⟨["git", "push", config.remote, version], false⟩,
    ⟨config.buildCommand, true⟩,
    ⟨config.uploadCommand ++ publication.target.arguments ++ [config.artifactPattern version],
      true⟩]

/-- What comes of a publication with recorded replies, and which calls are made for it. -/
inductive Publishes (replies : List Reply) (config : Config) (publication : Publication) :
    Except ReleaseError Unit → List Call → Prop where
  | rehearsed (dry : publication.dryRun = true) :
      Publishes replies config publication (.ok ()) ((publication.steps config).map (Step.call true))
  | completed (real : publication.dryRun = false)
      (unfailing : ∀ step ∈ publication.steps config, ∀ code errors,
        ¬step.Fails replies code errors) :
      Publishes replies config publication (.ok ()) ((publication.steps config).map (Step.call false))
  | stopped (real : publication.dryRun = false) {earlier later : List Step} {failing : Step}
      {code : Int} {errors : String}
      (order : publication.steps config = earlier ++ failing :: later)
      (unfailing : ∀ step ∈ earlier, ∀ code errors, ¬step.Fails replies code errors)
      (fails : failing.Fails replies code errors) :
      Publishes replies config publication
        (.error (.commandFailed (Command.quoted failing.command) code errors))
        ((earlier ++ [failing]).map (Step.call false))

end Publication

/-! ## Recorded replies -/

theorem Reply.responseTo_eq_some_iff {replies : List Reply} {command : List String}
    {response : Response} :
    responseTo replies command = some response ↔ Answers replies command response := by
  unfold responseTo Answers
  simp only [Option.map_eq_some_iff, List.find?_eq_some_iff_append, List.isPrefixOf_iff_prefix,
    Bool.not_eq_true', ← Bool.not_eq_true]
  constructor
  · rintro ⟨reply, ⟨fits, later, earlier, whole, others⟩, rfl⟩
    refine ⟨earlier.reverse, reply, later.reverse, ?_, fits, rfl, fun other member => ?_⟩
    · have replies := congrArg List.reverse whole
      simpa using replies
    · exact others other (List.mem_reverse.1 member)
  · rintro ⟨earlier, reply, later, rfl, fits, rfl, others⟩
    refine ⟨reply, ⟨fits, later.reverse, earlier.reverse, by simp, fun other member => ?_⟩, rfl⟩
    exact others other (List.mem_reverse.1 member)

/-- The session after calls that only leave a record. -/
def Session.asked (session : Session) (calls : List Call) : Session :=
  { session with calls := session.calls ++ calls }

theorem Session.asked_nil (session : Session) : session.asked [] = session := by
  unfold asked
  rw [List.append_nil]

theorem Session.asked_cons (session : Session) (call : Call) (more : List Call) :
    session.asked (call :: more) = (session.asked [call]).asked more := by
  unfold asked
  rw [List.append_assoc]
  rfl

/-- With recorded replies, a command leaves nothing but a record. -/
theorem Action.run_perform_recorded (replies : List Reply) (call : Call) (before : Session) :
    (perform (.recorded replies) call).run.run before =
      (if call.options.dryRun then .ok ""
        else Runner.resultOfResponse call.command call.options
          (Reply.responseTo replies call.command),
        before.asked [call]) := by
  rw [run_perform, Session.perform, Runner.run_recorded]
  simp only [Session.asked, List.append_nil]

namespace Publication

variable {replies other : List Reply} {config : Config} {publication : Publication}
  {dryRun : Bool} {code : Int} {errors : String} {taken : List Call}
  {outcome : Except ReleaseError Unit} {before : Session}

/-! ## Steps in order -/

namespace Step

theorem run_of_passes {step : Step} (passes : step.Passes replies dryRun) (before : Session) :
    ∃ printed, (Action.perform (.recorded replies) (step.call dryRun)).run.run before =
      (.ok printed, before.asked [step.call dryRun]) := by
  have succeeds : ∃ printed, (if dryRun then .ok "" else
      Runner.resultOfResponse step.command (step.call dryRun).options
        (Reply.responseTo replies step.command)) = Except.ok (ε := ReleaseError) printed := by
    cases dryRun with
    | true => exact ⟨_, rfl⟩
    | false =>
      cases replied : Reply.responseTo replies step.command with
      | none => exact ⟨_, rfl⟩
      | some reply =>
        cases reply with
        | output stdout => exact ⟨_, rfl⟩
        | failure code errors =>
          have optional : step.required = false := by
            cases required : step.required with
            | false => rfl
            | true =>
              exact absurd ⟨required, Reply.responseTo_eq_some_iff.1 replied⟩
                (passes rfl code errors)
          exact ⟨"", by simp [call, Runner.resultOfResponse, optional]⟩
  obtain ⟨printed, succeeds⟩ := succeeds
  exact ⟨printed, (Action.run_perform_recorded replies _ before).trans (by rw [← succeeds]; rfl)⟩

theorem run_of_fails {step : Step} (fails : step.Fails replies code errors) (before : Session) :
    (Action.perform (.recorded replies) (step.call false)).run.run before =
      (.error (.commandFailed (Command.quoted step.command) code errors),
        before.asked [step.call false]) := by
  obtain ⟨required, answers⟩ := fails
  rw [Action.run_perform_recorded]
  simp [call, Reply.responseTo_eq_some_iff.2 answers, Runner.resultOfResponse, required]

/-- Steps that pass are all asked for. -/
theorem run_performAll_of_passes {steps : List Step}
    (passes : ∀ step ∈ steps, step.Passes replies dryRun) (before : Session) :
    (Action.performAll (.recorded replies) (steps.map (Step.call dryRun))).run.run before =
      (.ok (), before.asked (steps.map (Step.call dryRun))) := by
  induction steps generalizing before with
  | nil => rw [List.map_nil, Session.asked_nil]; rfl
  | cons step more inductionHypothesis =>
    obtain ⟨first, others⟩ := List.forall_mem_cons.1 passes
    obtain ⟨printed, ran⟩ := run_of_passes first before
    rw [List.map_cons, Session.asked_cons, Action.performAll, run_bind_of_ok _ ran]
    exact inductionHypothesis others _

/-- A step that fails is the last to be asked for. -/
theorem run_performAll_of_fails {earlier later : List Step} {failing : Step}
    (passes : ∀ step ∈ earlier, step.Passes replies false)
    (fails : failing.Fails replies code errors) (before : Session) :
    (Action.performAll (.recorded replies)
      ((earlier ++ failing :: later).map (Step.call false))).run.run before =
      (.error (.commandFailed (Command.quoted failing.command) code errors),
        before.asked ((earlier ++ [failing]).map (Step.call false))) := by
  induction earlier generalizing before with
  | nil =>
    rw [List.nil_append, List.map_cons, Action.performAll]
    exact run_bind_of_error _ (run_of_fails fails before)
  | cons step more inductionHypothesis =>
    obtain ⟨first, others⟩ := List.forall_mem_cons.1 passes
    obtain ⟨printed, ran⟩ := run_of_passes first before
    rw [List.cons_append, List.cons_append, List.map_cons, List.map_cons, Session.asked_cons,
      Action.performAll, run_bind_of_ok _ ran]
    exact inductionHypothesis others _

/-- Of some steps, none fails or one is the first to fail. -/
theorem forall_passes_or_first_fails (replies : List Reply) (steps : List Step) :
    (∀ step ∈ steps, ∀ code errors, ¬step.Fails replies code errors) ∨
      ∃ earlier failing later code errors, steps = earlier ++ failing :: later ∧
        (∀ step ∈ earlier, ∀ code errors, ¬step.Fails replies code errors) ∧
        failing.Fails replies code errors := by
  induction steps with
  | nil => exact .inl nofun
  | cons step more inductionHypothesis =>
    by_cases fails : ∃ code errors, step.Fails replies code errors
    · obtain ⟨code, errors, fails⟩ := fails
      exact .inr ⟨[], step, more, code, errors, rfl, nofun, fails⟩
    · have passes : ∀ code errors, ¬step.Fails replies code errors :=
        fun code errors failing => fails ⟨code, errors, failing⟩
      rcases inductionHypothesis with unfailing | ⟨earlier, failing, later, code, errors, rfl,
        unfailing, fails⟩
      · exact .inl (List.forall_mem_cons.2 ⟨passes, unfailing⟩)
      · exact .inr ⟨step :: earlier, failing, later, code, errors, rfl,
          List.forall_mem_cons.2 ⟨passes, unfailing⟩, fails⟩

end Step

/-! ## The two stages of a publication -/

/-- The steps that commit, tag and push. -/
def taggingSteps (config : Config) (publication : Publication) : List Step :=
  (publication.steps config).take 5

/-- The steps that build and upload. -/
def uploadingSteps (config : Config) (publication : Publication) : List Step :=
  (publication.steps config).drop 5

theorem steps_eq (config : Config) (publication : Publication) :
    publication.steps config =
      publication.taggingSteps config ++ publication.uploadingSteps config :=
  (List.take_append_drop 5 _).symm

/-- One of the two stages: some commands, and a message if none of them fails. -/
def stage (replies : List Reply) (calls : List Call) (message : Message) : Action Unit := do
  Action.performAll (.recorded replies) calls
  Action.say message

theorem tagAndPush_eq (replies : List Reply) (config : Config) (publication : Publication) :
    tagAndPush (.recorded replies) config publication =
      stage replies ((publication.taggingSteps config).map (Step.call publication.dryRun))
        (.success ("Tagged " ++ publication.tagName ++ " and pushed to " ++ config.remote)
          publication.dryRun) :=
  rfl

theorem buildAndUpload_eq (replies : List Reply) (config : Config) (publication : Publication) :
    buildAndUpload (.recorded replies) config publication =
      stage replies ((publication.uploadingSteps config).map (Step.call publication.dryRun))
        (.success ("Uploaded " ++ publication.tagName) publication.dryRun) :=
  rfl

theorem run_stage_of_passes {steps : List Step}
    (passes : ∀ step ∈ steps, step.Passes replies dryRun) (message : Message) (before : Session) :
    (stage replies (steps.map (Step.call dryRun)) message).run.run before =
      (.ok (), (before.asked (steps.map (Step.call dryRun))).told message) :=
  run_bind_of_ok _ (Step.run_performAll_of_passes passes before)

theorem run_stage_of_fails {earlier later : List Step} {failing : Step}
    (passes : ∀ step ∈ earlier, step.Passes replies false)
    (fails : failing.Fails replies code errors) (message : Message) (before : Session) :
    (stage replies ((earlier ++ failing :: later).map (Step.call false)) message).run.run before =
      (.error (.commandFailed (Command.quoted failing.command) code errors),
        before.asked ((earlier ++ [failing]).map (Step.call false))) :=
  run_bind_of_error _ (Step.run_performAll_of_fails passes fails before)

/-- A publication whose steps pass asks for all its commands. -/
theorem publish_of_passes
    (passes : ∀ step ∈ publication.steps config, step.Passes replies publication.dryRun)
    (before : Session) :
    ∃ after, (publish (.recorded replies) config publication).run.run before = (.ok (), after) ∧
      after.calls =
        before.calls ++ (publication.steps config).map (Step.call publication.dryRun) := by
  rw [steps_eq] at passes ⊢
  obtain ⟨tagging, uploading⟩ := List.forall_mem_append.1 passes
  rw [publish, tagAndPush_eq, buildAndUpload_eq,
    run_bind_of_ok _ (run_stage_of_passes tagging _ before)]
  refine ⟨_, run_stage_of_passes uploading _ _, ?_⟩
  rw [List.map_append, ← List.append_assoc]
  rfl

/-- A publication with a step that fails ends with the command of that step. -/
theorem publish_of_fails (real : publication.dryRun = false) {earlier later : List Step}
    {failing : Step} (order : publication.steps config = earlier ++ failing :: later)
    (passes : ∀ step ∈ earlier, step.Passes replies false)
    (fails : failing.Fails replies code errors) (before : Session) :
    ∃ after, (publish (.recorded replies) config publication).run.run before =
        (.error (.commandFailed (Command.quoted failing.command) code errors), after) ∧
      after.calls = before.calls ++ (earlier ++ [failing]).map (Step.call false) := by
  rw [steps_eq] at order
  have places : (∃ more, earlier = publication.taggingSteps config ++ more ∧
        publication.uploadingSteps config = more ++ failing :: later) ∨
      ∃ more, publication.taggingSteps config = earlier ++ failing :: more := by
    rcases List.append_eq_append_iff.1 order with ⟨more, before, rest⟩ | ⟨more, before, rest⟩
    · exact .inl ⟨more, before, rest⟩
    · cases more with
      | nil => exact .inl ⟨[], by rw [before]; simp, rest.symm⟩
      | cons step more =>
        obtain ⟨rfl, -⟩ := List.cons.inj rest
        exact .inr ⟨more, before⟩
  rw [publish, tagAndPush_eq, buildAndUpload_eq, real]
  rcases places with ⟨more, rfl, uploading⟩ | ⟨more, tagging⟩
  · obtain ⟨first, second⟩ := List.forall_mem_append.1 passes
    rw [uploading, run_bind_of_ok _ (run_stage_of_passes first _ before)]
    refine ⟨_, run_stage_of_fails second fails _ _, ?_⟩
    have parted : (publication.taggingSteps config ++ more ++ [failing]).map (Step.call false) =
        (publication.taggingSteps config).map (Step.call false) ++
          (more ++ [failing]).map (Step.call false) := by
      rw [List.append_assoc, List.map_append]
    rw [parted, ← List.append_assoc]
    rfl
  · rw [tagging, run_bind_of_error _ (run_stage_of_fails passes fails _ before)]
    exact ⟨_, rfl, rfl⟩

/-! ## What comes of a publication -/

/-- Some description of a publication always applies. -/
theorem exists_publishes (replies : List Reply) (config : Config) (publication : Publication) :
    ∃ outcome taken, Publishes replies config publication outcome taken := by
  cases dry : publication.dryRun with
  | true => exact ⟨_, _, .rehearsed dry⟩
  | false =>
    rcases Step.forall_passes_or_first_fails replies (publication.steps config) with
      unfailing | ⟨earlier, failing, later, code, errors, order, unfailing, fails⟩
    · exact ⟨_, _, .completed dry unfailing⟩
    · exact ⟨_, _, .stopped dry order unfailing fails⟩

/-- A publication goes as it is described. -/
theorem Publishes.run (publishes : Publishes replies config publication outcome taken)
    (before : Session) :
    ∃ after, (publish (.recorded replies) config publication).run.run before =
      (outcome, after) ∧ after.calls = before.calls ++ taken := by
  cases publishes with
  | rehearsed dry =>
    rw [← dry]
    exact publish_of_passes (fun step _ real => absurd (dry.symm.trans real) Bool.noConfusion) before
  | completed real unfailing =>
    rw [← real]
    exact publish_of_passes (fun step member _ => unfailing step member) before
  | stopped real order unfailing fails =>
    exact publish_of_fails real order (fun step member _ => unfailing step member) fails before

/-- The replies to commands that are not required do not matter. -/
theorem Publishes.congr (publishes : Publishes replies config publication outcome taken)
    (same : ∀ step ∈ publication.steps config, step.required = true → ∀ response,
      Reply.Answers replies step.command response ↔ Reply.Answers other step.command response) :
    Publishes other config publication outcome taken := by
  have fails {step : Step} (member : step ∈ publication.steps config) (code : Int)
      (errors : String) : step.Fails replies code errors ↔ step.Fails other code errors :=
    and_congr_right fun required => same step member required _
  cases publishes with
  | rehearsed dry => exact .rehearsed dry
  | completed real unfailing =>
    exact .completed real fun step member code errors =>
      mt (fails member code errors).2 (unfailing step member code errors)
  | stopped real order unfailing failed =>
    have member := fun {step} (inside : step ∈ _ ++ _ :: _) => order.symm ▸ inside
    refine .stopped real order (fun step inside code errors => ?_) ?_
    · exact mt (fails (member (List.mem_append_left _ inside)) code errors).2
        (unfailing step inside code errors)
    · exact (fails (member (List.mem_append_right _ List.mem_cons_self)) _ _).1 failed

/-- With recorded replies, a publication asks for its commands up to the first required one
that fails, and fails for that; replies to other commands make no difference. -/
theorem publish_until_failure (replies : List Reply) (config : Config) (publication : Publication)
    (before : Session) :
    let ran (replies : List Reply) :=
      (publish (.recorded replies) config publication).run.run before
    ∃ taken, (ran replies).2.calls = before.calls ++ taken ∧
      (∀ outcome calls, Publishes replies config publication outcome calls ↔
        outcome = (ran replies).1 ∧ calls = taken) ∧
      ∀ other, (∀ step ∈ publication.steps config, step.required = true → ∀ response,
          Reply.Answers replies step.command response ↔
            Reply.Answers other step.command response) →
        (ran other).1 = (ran replies).1 ∧ (ran other).2.calls = (ran replies).2.calls := by
  intro ran
  obtain ⟨outcome, taken, publishes⟩ := exists_publishes replies config publication
  have goes {replies : List Reply} {outcome : Except ReleaseError Unit} {calls : List Call}
      (publishes : Publishes replies config publication outcome calls) :
      (ran replies).1 = outcome ∧ (ran replies).2.calls = before.calls ++ calls := by
    obtain ⟨after, same, calls⟩ := publishes.run before
    exact ⟨congrArg Prod.fst same, (congrArg (fun ran => ran.2.calls) same).trans calls⟩
  obtain ⟨result, calls⟩ := goes publishes
  refine ⟨taken, calls, fun otherOutcome otherCalls => ⟨fun described => ?_, ?_⟩, fun other same => ?_⟩
  · obtain ⟨otherResult, recorded⟩ := goes described
    exact ⟨otherResult.symm, List.append_cancel_left (recorded.symm.trans calls)⟩
  · rintro ⟨rfl, rfl⟩
    rw [result]
    exact publishes
  · obtain ⟨otherResult, otherCalls⟩ := goes (publishes.congr same)
    exact ⟨otherResult.trans result.symm, otherCalls.trans calls.symm⟩

/-- An upload that is refused ends a publication, whether or not the pushes are rejected. -/
theorem publish_until_failure_refused :
    let publication : Publication :=
      { version := { release := [1, 2, 4] }, dryRun := false, target := .defaultIndex,
        changelog := "- Fix thing (#5)" }
    let refused : Reply := ⟨["twine"], .failure 1 "403 Forbidden"⟩
    let rejecting := [refused, ⟨["git", "push"], .failure 1 "rejected"⟩]
    let accepting := [refused, ⟨["git", "push"], .failure 1 "rejected"⟩,
      ⟨["git", "push", "origin"], .output "done"⟩]
    let ran (replies : List Reply) := (publish (.recorded replies) {} publication).run.run
      { tree := { entries := [] }, operator := .scripted [] [] }
    (ran rejecting).1 = .error (.commandFailed
        (Command.quoted ["twine", "upload", "dist/*-1.2.4*"]) 1 "403 Forbidden") ∧
      (ran rejecting).2.calls = publication.plan {} ∧
      (ran accepting).1 = (ran rejecting).1 ∧
      (ran accepting).2.calls = (ran rejecting).2.calls := by
  intro publication refused rejecting accepting ran
  have alike : ∀ step ∈ publication.steps {}, step.required = true →
      Reply.responseTo rejecting step.command = Reply.responseTo accepting step.command := by
    decide +kernel
  have order : publication.steps {} = (publication.steps {}).take 6 ++
      ⟨["twine", "upload", "dist/*-1.2.4*"], true⟩ :: [] := by decide +kernel
  have silent : ∀ step ∈ (publication.steps {}).take 6, step.required = true →
      Reply.responseTo rejecting step.command = none := by decide +kernel
  have unfailing : ∀ step ∈ (publication.steps {}).take 6, ∀ code errors,
      ¬step.Fails rejecting code errors := by
    rintro step member code errors ⟨required, answers⟩
    cases (silent step member required).symm.trans (Reply.responseTo_eq_some_iff.2 answers)
  have answered : Reply.responseTo rejecting ["twine", "upload", "dist/*-1.2.4*"] =
      some (.failure 1 "403 Forbidden") := by decide +kernel
  obtain ⟨taken, calls, described, unmoved⟩ := publish_until_failure rejecting {} publication
    { tree := { entries := [] }, operator := .scripted [] [] }
  obtain ⟨result, rfl⟩ := (described _ _).1
    (.stopped rfl order unfailing ⟨rfl, Reply.responseTo_eq_some_iff.1 answered⟩)
  refine ⟨result.symm, calls.trans (by decide +kernel), unmoved accepting ?_⟩
  intro step member required response
  rw [← Reply.responseTo_eq_some_iff, ← Reply.responseTo_eq_some_iff, alike step member required]

end Publication

end ReleasePilot
