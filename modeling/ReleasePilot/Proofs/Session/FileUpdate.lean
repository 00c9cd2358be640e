import ReleasePilot.Proofs.Session.Step
import ReleasePilot.Proofs.Tree.RegularFile

/-!
# Files in a session

Bringing one of two files up to date either fails, with both files as they
were, or changes the text of that one (`of_updateFile`). A command that leaves a
file alone is said to spare it.
-/

namespace ReleasePilot

namespace Session

/-- Two paths name different files, and the first of them reads as given. -/
structure ReadsAs (path other : String) (text : Except Fault String) (session : Session) :
    Prop where
  distinct : session.tree.DistinctFiles path other
  read : session.tree.readText path = text

end Session

/-- Whatever command is run, two paths go on naming different files, and the
first of them keeps its text. -/
def Runner.Spares (runner : Runner) (path other : String) : Prop :=
  ∀ command options (tree : Tree), tree.DistinctFiles path other →
    (runner.run command options tree).2.2.DistinctFiles path other ∧
      (runner.run command options tree).2.2.readText path = tree.readText path

/-- Recorded replies do not touch the tree. -/
theorem Runner.tree_recorded (replies : List Reply) (command : List String)
    (options : RunOptions) (tree : Tree) :
    ((Runner.recorded replies).run command options tree).2.2 = tree := by
  rw [Runner.run_recorded]

theorem Preserves.perform_recorded {tree : Tree} (replies : List Reply) (call : Call) :
    Preserves (fun session => session.tree = tree) (Action.perform (.recorded replies) call) :=
  fun before same => (Runner.tree_recorded replies call.command call.options before.tree).trans same

theorem Runner.spares_recorded (replies : List Reply) (path other : String) :
    (Runner.recorded replies).Spares path other := by
  intro command options tree distinct
  rw [Runner.tree_recorded]
  exact ⟨distinct, rfl⟩

variable {path other : String} {text : Except Fault String}

theorem unspoken_readsAs : Unspoken (Session.ReadsAs path other text) :=
  fun _ _ reads => ⟨reads.distinct, reads.read⟩

theorem unasked_readsAs : Unasked (Session.ReadsAs path other text) :=
  fun _ _ _ reads => ⟨reads.distinct, reads.read⟩

theorem Preserves.perform_of_spares {runner : Runner} (spares : runner.Spares path other)
    (call : Call) : Preserves (Session.ReadsAs path other text) (Action.perform runner call) := by
  rintro before ⟨distinct, read⟩
  obtain ⟨still, same⟩ := spares call.command call.options before.tree distinct
  exact ⟨still, same.trans read⟩

/-- Replacing a file does not change another. -/
theorem Preserves.replaceFile_other (contents : String) :
    Preserves (Session.ReadsAs path other text) (Action.replaceFile other contents) := by
  refine .of_forall_run fun before outcome after ran ⟨distinct, read⟩ => ?_
  rcases Action.of_replaceFile ran with ⟨-, -, rfl⟩ | ⟨tree, replaced, -, rfl⟩
  · exact ⟨distinct, read⟩
  · obtain ⟨still, -, same⟩ := Tree.replace_of_distinctFiles distinct.symm replaced
    exact ⟨still.symm, same.trans read⟩

/-- A file was brought up to date: its text was changed, unless it was a dry run. -/
def Updated (dryRun : Bool) (change : String → Except ReleaseError String)
    (before after : Except Fault String) : Prop :=
  ∃ old new, before = .ok old ∧ change old = .ok new ∧
    after = .ok (if dryRun then old else new)

/-- Brings a file up to date by some way of replacing it. -/
def Action.updateFileBy (replace : String → String → Action Unit) (path : String) (dryRun : Bool)
    (change : String → Except ReleaseError String) : Action Unit := do
  let contents ← readFile path
  let changed ← ofExcept (change contents)
  say (.fileWrite path dryRun)
  if dryRun then say (.preview changed) else replace path changed

/-- Before the file is replaced nothing is done to the tree, whatever fails. -/
theorem Action.of_updateFileBy {replace : String → String → Action Unit} {path : String}
    {dryRun : Bool} {change : String → Except ReleaseError String} {before after : Session}
    {outcome : Except ReleaseError Unit}
    (ran : (updateFileBy replace path dryRun change).run.run before = (outcome, after)) :
    (∃ cause, outcome = .error cause ∧ after.tree = before.tree) ∨
      ∃ old new, before.tree.readText path = .ok old ∧ change old = .ok new ∧
        ((dryRun = true ∧ outcome = .ok () ∧ after.tree = before.tree) ∨
          (dryRun = false ∧ ∃ between : Session, between.tree = before.tree ∧
            (replace path new).run.run between = (outcome, after))) := by
  rcases of_bind ran with ⟨old, _, reading, ran⟩ | ⟨cause, reading, rfl⟩
  case inr =>
    obtain ⟨-, rfl⟩ := Prod.mk.inj reading
    exact .inl ⟨cause, rfl, rfl⟩
  obtain ⟨found, rfl⟩ := Prod.mk.inj reading
  rcases of_bind ran with ⟨new, _, changing, ran⟩ | ⟨cause, changing, rfl⟩
  case inr =>
    obtain ⟨-, rfl⟩ := Prod.mk.inj changing
    exact .inl ⟨cause, rfl, rfl⟩
  obtain ⟨changed, rfl⟩ := Prod.mk.inj changing
  rw [run_bind, Action.run_say] at ran
  simp only at ran
  refine .inr ⟨old, new, Action.ok_of_mapError found, changed, ?_⟩
  cases dryRun with
  | true =>
    rw [if_pos rfl, Action.run_say] at ran
    obtain ⟨rfl, rfl⟩ := Prod.mk.inj ran
    exact .inl ⟨rfl, rfl, rfl⟩
  | false =>
    rw [if_neg Bool.false_ne_true] at ran
    exact .inr ⟨rfl, before.told (.fileWrite path false), rfl, ran⟩

/-- Bringing a file up to date fails and leaves the tree as it is, or changes the text
and, unless it is a dry run, replaces the file. -/
theorem Action.of_updateFile {path : String} {dryRun : Bool}
    {change : String → Except ReleaseError String} {before after : Session}
    {outcome : Except ReleaseError Unit}
    (ran : (Action.updateFile path dryRun change).run.run before = (outcome, after)) :
    (∃ cause, outcome = .error cause ∧ after.tree = before.tree) ∨
      (outcome = .ok () ∧ ∃ old new, before.tree.readText path = .ok old ∧
        change old = .ok new ∧
        (if dryRun then .ok before.tree else before.tree.replace path new) = .ok after.tree) := by
  have ran : (updateFileBy replaceFile path dryRun change).run.run before = (outcome, after) := ran
  rcases of_updateFileBy ran with
    failed | ⟨old, new, read, changed, ⟨rfl, rfl, same⟩ | ⟨rfl, between, same, ran⟩⟩
  · exact .inl failed
  · exact .inr ⟨rfl, old, new, read, changed, by rw [if_pos rfl, same]⟩
  · rcases of_replaceFile ran with ⟨cause, rfl, rfl⟩ | ⟨tree, replaced, rfl, rfl⟩
    · exact .inl ⟨cause, rfl, same⟩
    · exact .inr ⟨rfl, old, new, read, changed, by rw [if_neg Bool.false_ne_true, ← same, replaced]⟩

/-- Bringing a file up to date changes its text or, if it fails, nothing. -/
theorem of_updateFile {dryRun : Bool} {change : String → Except ReleaseError String}
    {before after : Session} {outcome : Except ReleaseError Unit}
    (reads : before.ReadsAs path other text)
    (ran : (Action.updateFile path dryRun change).run.run before = (outcome, after)) :
    (∃ cause, outcome = .error cause ∧ after.ReadsAs path other text) ∨
      (outcome = .ok () ∧ ∃ changed, after.ReadsAs path other changed ∧
        Updated dryRun change text changed) := by
  obtain ⟨distinct, rfl⟩ := reads
  have kept (same : after.tree = before.tree) :
      after.ReadsAs path other (before.tree.readText path) :=
    ⟨same ▸ distinct, congrArg (·.readText path) same⟩
  rcases Action.of_updateFile ran with ⟨cause, rfl, same⟩ | ⟨rfl, old, new, read, changed, written⟩
  · exact .inl ⟨cause, rfl, kept same⟩
  · refine .inr ⟨rfl, ?_⟩
    cases dryRun with
    | true =>
      rw [if_pos rfl] at written
      have same := Except.ok.inj written
      exact ⟨_, kept same.symm, old, new, read, changed, read⟩
    | false =>
      rw [if_neg Bool.false_ne_true] at written
      obtain ⟨still, reads, -⟩ := Tree.replace_of_distinctFiles distinct written
      exact ⟨_, ⟨still, reads⟩, old, new, read, changed, rfl⟩

end ReleasePilot
