import ReleasePilot.Session

/-!
# Sequences of steps

A sequence stops at the first step that fails (`run_bind`). What all its steps
preserve, whether they fail or not, the sequence preserves (`Preserves.bind`).
Each primitive step changes one or two parts of a session, so that it preserves
whatever is said of the other parts.
What comes of a command is said once for recorded replies (`Runner.run_recorded`)
and once for a program that is started (`Runner.run_spawning`).
-/

namespace ReleasePilot

section Sequence

variable {Cause First Result : Type}

@[simp] theorem run_pure (value : Result) (before : Session) :
    (pure value : ExceptT Cause (StateM Session) Result).run.run before = (.ok value, before) :=
  rfl

@[simp] theorem run_throw (cause : Cause) (before : Session) :
    (throw cause : ExceptT Cause (StateM Session) Result).run.run before = (.error cause, before) :=
  rfl

theorem run_bind (step : ExceptT Cause (StateM Session) First)
    (next : First → ExceptT Cause (StateM Session) Result) (before : Session) :
    (step >>= next).run.run before =
      match step.run.run before with
      | (.ok value, between) => (next value).run.run between
      | (.error cause, between) => (.error cause, between) := by
  simp only [ExceptT.run, StateT.run, bind, ExceptT.bind, ExceptT.mk, StateT.bind]
  cases step before with
  | mk result between => cases result <;> rfl

theorem run_bind_of_ok {step : ExceptT Cause (StateM Session) First}
    (next : First → ExceptT Cause (StateM Session) Result) {before between : Session}
    {value : First} (ran : step.run.run before = (.ok value, between)) :
    (step >>= next).run.run before = (next value).run.run between := by
  rw [run_bind, ran]

theorem run_bind_of_error {step : ExceptT Cause (StateM Session) First}
    (next : First → ExceptT Cause (StateM Session) Result) {before between : Session}
    {cause : Cause} (ran : step.run.run before = (.error cause, between)) :
    (step >>= next).run.run before = (.error cause, between) := by
  rw [run_bind, ran]

/-- A sequence ran to its end, or its first step failed. -/
theorem of_bind {step : ExceptT Cause (StateM Session) First}
    {next : First → ExceptT Cause (StateM Session) Result} {before after : Session}
    {outcome : Except Cause Result} (ran : (step >>= next).run.run before = (outcome, after)) :
    (∃ value between, step.run.run before = (.ok value, between) ∧
      (next value).run.run between = (outcome, after)) ∨
      ∃ cause, step.run.run before = (.error cause, after) ∧ outcome = .error cause := by
  rw [run_bind] at ran
  split at ran
  case h_1 value between first => exact .inl ⟨value, between, first, ran⟩
  case h_2 cause between first =>
    obtain ⟨rfl, rfl⟩ := Prod.mk.inj ran
    exact .inr ⟨cause, first, rfl⟩

/-- Whatever the step does, a property of the session stays true. -/
def Preserves (property : Session → Prop) (step : ExceptT Cause (StateM Session) Result) : Prop :=
  ∀ before, property before → property (step.run.run before).2

namespace Preserves

variable {property : Session → Prop}

theorem after {step : ExceptT Cause (StateM Session) Result} (preserves : Preserves property step)
    {before after : Session} {outcome : Except Cause Result}
    (ran : step.run.run before = (outcome, after)) (holds : property before) : property after := by
  have kept := preserves before holds
  rwa [ran] at kept

theorem of_forall_run {step : ExceptT Cause (StateM Session) Result}
    (kept : ∀ before outcome after, step.run.run before = (outcome, after) → property before →
      property after) : Preserves property step :=
  fun before holds => kept before _ _ rfl holds

theorem pure (value : Result) :
    Preserves property (Pure.pure value : ExceptT Cause (StateM Session) Result) :=
  fun _ holds => holds

theorem throw (cause : Cause) :
    Preserves property (MonadExcept.throw cause : ExceptT Cause (StateM Session) Result) :=
  fun _ holds => holds

theorem bind {step : ExceptT Cause (StateM Session) First}
    {next : First → ExceptT Cause (StateM Session) Result} (first : Preserves property step)
    (second : ∀ value, Preserves property (next value)) : Preserves property (step >>= next) := by
  intro before holds
  have between := first before holds
  rw [run_bind]
  split
  case h_1 value session ran =>
    rw [ran] at between
    exact second value session between
  case h_2 cause session ran =>
    rw [ran] at between
    exact between

/-- Only the branch that is taken has to preserve the property. -/
theorem ite {condition : Prop} [Decidable condition]
    {first second : ExceptT Cause (StateM Session) Result} (holds : Preserves property first)
    (otherwise : Preserves property second) :
    Preserves property (if condition then first else second) := by
  split
  · exact holds
  · exact otherwise

end Preserves

end Sequence

/-! ## The primitive steps -/

namespace Action

@[simp] theorem run_say (message : Message) (before : Session) :
    (say message).run.run before = (.ok (), before.told message) :=
  rfl

@[simp] theorem run_ofExcept {Result : Type} (result : Except ReleaseError Result)
    (before : Session) : (ofExcept result).run.run before = (result, before) :=
  rfl

@[simp] theorem run_readFile (path : String) (before : Session) :
    (readFile path).run.run before = ((before.tree.readText path).mapError .io, before) :=
  rfl

@[simp] theorem run_perform (runner : Runner) (call : Call) (before : Session) :
    (perform runner call).run.run before = before.perform runner call :=
  rfl

@[simp] theorem run_confirm (prompt : String) (before : Session) :
    (confirm prompt).run.run before =
      ((before.answer prompt " (y/N)").1.map Operator.isAffirmative,
        (before.answer prompt " (y/N)").2) :=
  rfl

@[simp] theorem run_input (prompt default : String) (before : Session) :
    (input prompt default).run.run before =
      ((before.answer prompt (" [" ++ default ++ "]")).1.map (Operator.orDefault default),
        (before.answer prompt (" [" ++ default ++ "]")).2) :=
  rfl

theorem ok_of_mapError {Cause Other Result : Type} {word : Cause → Other}
    {result : Except Cause Result} {value : Result} (done : result.mapError word = .ok value) :
    result = .ok value := by
  cases result with
  | error cause => cases done
  | ok found =>
    obtain rfl := Except.ok.inj done
    rfl

theorem run_replaceFile_of_ok {path contents : String} {before : Session} {tree : Tree}
    (replaced : before.tree.replace path contents = .ok tree) :
    (replaceFile path contents).run.run before = (.ok (), { before with tree }) := by
  simp only [replaceFile, ExceptT.run_mk, StateT.run, replaced]

theorem run_replaceFile_of_error {path contents : String} {before : Session}
    {cause : ReleaseError} (failed : before.tree.replace path contents = .error cause) :
    (replaceFile path contents).run.run before = (.error cause, before) := by
  simp only [replaceFile, ExceptT.run_mk, StateT.run, failed]

/-- A replacement fails and changes nothing, or puts the new tree into the session. -/
theorem of_replaceFile {path contents : String} {before after : Session}
    {outcome : Except ReleaseError Unit}
    (ran : (replaceFile path contents).run.run before = (outcome, after)) :
    (∃ cause, outcome = .error cause ∧ after = before) ∨
      ∃ tree, before.tree.replace path contents = .ok tree ∧ outcome = .ok () ∧
        after = { before with tree } := by
  cases replaced : before.tree.replace path contents with
  | ok tree =>
    rw [run_replaceFile_of_ok replaced] at ran
    obtain ⟨rfl, rfl⟩ := Prod.mk.inj ran
    exact .inr ⟨tree, rfl, rfl, rfl⟩
  | error cause =>
    rw [run_replaceFile_of_error replaced] at ran
    obtain ⟨rfl, rfl⟩ := Prod.mk.inj ran
    exact .inl ⟨cause, rfl, rfl⟩

end Action

/-! ## Running a command -/

namespace Runner

/-- A recorded reply is all that comes of a command. -/
theorem run_recorded (replies : List Reply) (command : List String) (options : RunOptions)
    (tree : Tree) :
    (recorded replies).run command options tree =
      (if options.dryRun then .ok ""
        else resultOfResponse command options (Reply.responseTo replies command), [], tree) := by
  unfold run
  cases options.dryRun <;> rfl

section Spawning

variable (spawn : List String → Tree → Except Fault Completion) {command : List String}
  {options : RunOptions} (tree : Tree)

theorem run_spawning_nil :
    (spawning spawn).run [] options tree = (.error (.config .emptyCommand), [], tree) :=
  rfl

/-- A dry run starts no program, and only shows the command. -/
theorem run_spawning_of_dryRun (present : command ≠ []) (dryRun : options.dryRun = true) :
    (spawning spawn).run command options tree =
      (.ok "", [.command (Command.quoted command) true], tree) := by
  simp only [run, if_neg present, dryRun, or_true, if_true]

/-- What a program prints and does to the tree, behind its echo if there is to be one. -/
theorem run_spawning (present : command ≠ []) (real : options.dryRun = false) :
    (spawning spawn).run command options tree =
      (resultOfCompletion command options (spawn command tree),
        (if options.logCommand then [.command (Command.quoted command) false] else []) ++
          (ignored? command options (spawn command tree)).toList.map Message.diagnostic,
        match spawn command tree with
        | .ok completion => completion.tree
        | .error _ => tree) := by
  cases spawned : spawn command tree <;>
    simp only [run, if_neg present, real, Bool.false_eq_true, or_false, if_false, spawned]

end Spawning

end Runner

/-! ## What a property may depend on -/

/-- Messages that are the same in a dry run. -/
def Message.IsNotice : Message → Prop
  | .success _ _ | .command _ _ | .fileWrite _ _ | .preview _ | .diagnostic _ => False
  | _ => True

/-- A property that does not depend on what was said. -/
def Unspoken (property : Session → Prop) : Prop :=
  ∀ session message, property session → property (session.told message)

/-- A property that does not depend on what is said in every run. -/
def Unnoticed (property : Session → Prop) : Prop :=
  ∀ session message, message.IsNotice → property session → property (session.told message)

theorem Unspoken.unnoticed {property : Session → Prop} (unspoken : Unspoken property) :
    Unnoticed property :=
  fun session message _ => unspoken session message

/-- A property that no question changes. -/
def Unasked (property : Session → Prop) : Prop :=
  ∀ session prompt hint, property session → property (session.answer prompt hint).2

namespace Preserves

variable {property : Session → Prop}

theorem say (unspoken : Unspoken property) (message : Message) :
    Preserves property (Action.say message) :=
  fun before holds => unspoken before message holds

theorem notice (unnoticed : Unnoticed property) {message : Message} (isNotice : message.IsNotice) :
    Preserves property (Action.say message) :=
  fun before holds => unnoticed before message isNotice holds

theorem ofExcept {Result : Type} (result : Except ReleaseError Result) :
    Preserves property (Action.ofExcept result) :=
  fun _ holds => holds

theorem readFile (path : String) : Preserves property (Action.readFile path) :=
  fun _ holds => holds

theorem confirm (unasked : Unasked property) (prompt : String) :
    Preserves property (Action.confirm prompt) :=
  fun before holds => unasked before prompt _ holds

theorem input (unasked : Unasked property) (prompt default : String) :
    Preserves property (Action.input prompt default) :=
  fun before holds => unasked before prompt _ holds

/-- Only a real run replaces the file. -/
theorem updateFile (unspoken : Unspoken property) {path : String} {dryRun : Bool}
    (replaces : dryRun = false →
      ∀ contents, Preserves property (Action.replaceFile path contents))
    (change : String → Except ReleaseError String) :
    Preserves property (Action.updateFile path dryRun change) := by
  refine .bind (.readFile path) fun contents => .bind (.ofExcept _) fun changed => ?_
  refine .bind (.say unspoken _) fun _ => ?_
  cases dryRun with
  | true => exact .say unspoken _
  | false => exact replaces rfl changed

theorem performAll {runner : Runner} {calls : List Call}
    (performs : ∀ call ∈ calls, Preserves property (Action.perform runner call)) :
    Preserves property (Action.performAll runner calls) := by
  induction calls with
  | nil => exact .pure ()
  | cons call more inductionHypothesis =>
    obtain ⟨first, others⟩ := List.forall_mem_cons.1 performs
    exact .bind first fun _ => inductionHypothesis others

end Preserves

/-! ## The commands of a sequence -/

section Issues

variable {Cause First Result : Type}

/-- A step asks for the planned commands in order, for all of them if it succeeds. -/
def Issues (planned : List Call) (step : ExceptT Cause (StateM Session) Result) : Prop :=
  ∀ before outcome after, step.run.run before = (outcome, after) →
    ∃ taken, taken <+: planned ∧ after.calls = before.calls ++ taken ∧
      ∀ value, outcome = .ok value → taken = planned

namespace Issues

/-- A step that leaves the calls as they are asks for no command. -/
theorem of_preserves {step : ExceptT Cause (StateM Session) Result}
    (preserves : ∀ calls, Preserves (fun session => session.calls = calls) step) :
    Issues [] step := by
  intro before outcome after ran
  refine ⟨[], List.nil_prefix, ?_, fun _ _ => rfl⟩
  rw [List.append_nil]
  exact (preserves before.calls).after ran rfl

theorem pure (value : Result) :
    Issues [] (Pure.pure value : ExceptT Cause (StateM Session) Result) :=
  of_preserves fun _ => .pure value

theorem perform (runner : Runner) (call : Call) :
    Issues [call] (Action.perform runner call) := by
  intro before outcome after ran
  obtain ⟨rfl, rfl⟩ := Prod.mk.inj ran
  exact ⟨[call], List.prefix_rfl, rfl, fun _ _ => rfl⟩

theorem bind {planned more : List Call} {step : ExceptT Cause (StateM Session) First}
    {next : First → ExceptT Cause (StateM Session) Result} (first : Issues planned step)
    (second : ∀ value, Issues more (next value)) : Issues (planned ++ more) (step >>= next) := by
  intro before outcome after ran
  rcases of_bind ran with ⟨value, between, stepped, continued⟩ | ⟨cause, stepped, rfl⟩
  · obtain ⟨early, -, calls, complete⟩ := first _ _ _ stepped
    obtain ⟨late, within, further, done⟩ := second value _ _ _ continued
    obtain rfl := complete value rfl
    refine ⟨early ++ late, List.prefix_append_right_inj early |>.2 within, ?_, ?_⟩
    · rw [further, calls, List.append_assoc]
    · intro result succeeded
      rw [done result succeeded]
  · obtain ⟨early, within, calls, -⟩ := first _ _ _ stepped
    exact ⟨early, within.trans (List.prefix_append _ _), calls, nofun⟩

/-- A sequence whose second step asks for no command. -/
theorem before_silent {planned : List Call} {step : ExceptT Cause (StateM Session) First}
    {next : First → ExceptT Cause (StateM Session) Result} (first : Issues planned step)
    (second : ∀ value, Issues [] (next value)) : Issues planned (step >>= next) := by
  have issues := first.bind second
  rwa [List.append_nil] at issues

theorem performAll (runner : Runner) (calls : List Call) :
    Issues calls (Action.performAll runner calls) := by
  induction calls with
  | nil => exact .pure ()
  | cons call more inductionHypothesis =>
    exact bind (.perform runner call) fun _ => inductionHypothesis

end Issues

end Issues

end ReleasePilot
